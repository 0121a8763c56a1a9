/-
  Folio — documents.

  A document is a file with an optional header and a body.  A malformed header
  does not keep the body from being read: its error is part of the document, whose
  header then is empty.

  * `Document.parse` reads a document, `Document.parseStrict` refuses one with a
    header error;
  * `raw_parse`: a document keeps the octets it was read from.
-/
import Folio.Body.Basic
import Folio.Document.Header

namespace Folio

/-- A document. -/
structure Document where
  /-- The path of the file it was read from. -/
  path : Option String
  /-- The whole file. -/
  raw : Octets
  header : Entries
  hasHeader : Bool
  headerError : Option HeaderError
  /-- Where the body starts in the file. -/
  bodyOffset : Nat
  body : Body
  deriving DecidableEq

namespace Document

/-- The header of a document that is cut into its parts, and its error.  Only a
    scalar that does not fit its tag is a failure. -/
def headerOf (s : Header.Split) : Except Yaml.Misfit (Entries × Option HeaderError) :=
  match s.header with
  | none => .ok ([], s.error)
  | some octets =>
    match Header.decode octets with
    | .ok es => .ok (es, s.error)
    | .error (.error e) => .ok ([], some e)
    | .error (.misfit m) => .error m

/-- Reads a document. -/
def parse (raw : Octets) (path : Option String) : Except Yaml.Misfit Document :=
  let s := Header.split raw
  match headerOf s with
  | .error m => .error m
  | .ok (header, headerError) =>
    .ok
      { path, raw, header, headerError
        hasHeader := s.header.isSome
        bodyOffset := s.offset
        body := Body.ofOctets (raw.drop s.offset) }

/-- Reads a document whose header must be sound. -/
def parseStrict (raw : Octets) (path : Option String) : Except Header.Failure Document :=
  match parse raw path with
  | .error m => .error (.misfit m)
  | .ok d =>
    match d.headerError with
    | some e => .error (.error e)
    | none => .ok d

theorem raw_parse {raw : Octets} {path : Option String} {d : Document}
    (h : parse raw path = .ok d) : d.raw = raw := by
  simp only [parse] at h
  split at h
  · cases h
  · cases h; rfl

/-- The type that the header names, if it is a text. -/
def typeName (d : Document) : Option String :=
  match d.header.get? "type" with
  | some (.text s) => some s
  | _ => none

/-- The sections of the body. -/
def sections (d : Document) : List Section := d.body.sections

end Document

end Folio
