/-
  Folio — editing documents.

  An edit of the body replaces a range of its octets; an edit of the header
  changes a copy of it, writes that anew and keeps the body.  Either way the
  document is read again from the new octets.

  * `Document.splice` replaces a range, `Document.setFieldIn` and
    `Document.removeFieldIn?` change the header, in a run with some hashes;
  * `Document.setField` and `Document.removeField?` do so in a run where all values
    but numbers have one hash.
-/
import Folio.Document.Lookup
import Folio.Yaml.SetTable

namespace Folio

/-- Why a document cannot be edited. -/
inductive EditError where
  /-- The range does not lie in a body of this length. -/
  | outside (start stop : Int) (length : Nat)
  | path (e : PathError)
  | header (e : HeaderError)
  /-- The header cannot be written, or the edited document cannot be read. -/
  | misfit (m : Yaml.Misfit)
  deriving Repr, DecidableEq

/-- What a message says about a range outside a body. -/
def EditError.outsideMessage (start stop : Int) (length : Nat) : String :=
  "range " ++ toString start ++ ":" ++ toString stop ++ " is outside the body (length " ++
    toString length ++ ")"

/-- What a message says about a key whose value is no mapping. -/
def PathError.notMappingMessage (key : String) : String :=
  "header field " ++ Text.quotedString key ++ " is not a mapping"

namespace Document

/-- The document with other octets. -/
def reread (d : Document) (raw : Octets) : Except EditError Document :=
  (parse raw d.path).mapError .misfit

/-- The document with other octets in place of those between two offsets of its
    body. -/
def splice (d : Document) (start stop : Int) (new : Octets) : Except EditError Document :=
  let length := d.body.octets.length
  if 0 ≤ start ∧ start ≤ stop ∧ stop ≤ length then
    d.reread (d.raw.take d.bodyOffset ++
      (d.body.octets.take start.toNat ++ new ++ d.body.octets.drop stop.toNat))
  else .error (.outside start stop length)

/-- The document with another header, which must not be malformed. -/
def withHeader (d : Document) (header : Entries) : Except EditError Document :=
  match d.headerError with
  | some e => .error (.header (.malformed e))
  | none =>
    match Header.write header with
    | .error m => .error (.misfit m)
    | .ok octets => d.reread (octets ++ d.body.octets)

/-- The document with a value in its header at a path.  The value is written as it is,
    the members of its sets in the order in which they stand there. -/
def setFieldIn (h : Hashing) (d : Document) (dotted : String) (value : Value) :
    Except EditError Document :=
  match (d.header.copied h).set (Text.splitString '.' dotted) value with
  | .error e => .error (.path e)
  | .ok header => d.withHeader header

/-- The document without the value in its header at a path; nothing if there is
    no such value. -/
def removeFieldIn? (h : Hashing) (d : Document) (dotted : String) :
    Except EditError (Option Document) :=
  match d.field? dotted with
  | .error e => .error (.path (.place e))
  | .ok none => .ok none
  | .ok (some _) =>
    match (d.header.copied h).remove (Text.splitString '.' dotted) with
    | .error e => .error (.path e)
    | .ok header => (d.withHeader header).map some

/-- The document with a value in its header at a path, where all values but numbers have
    the hash zero. -/
def setField : Document → String → Value → Except EditError Document := setFieldIn .zero

/-- The document without the value in its header at a path, where all values but numbers
    have the hash zero. -/
def removeField? : Document → String → Except EditError (Option Document) :=
  removeFieldIn? .zero

end Document

end Folio
