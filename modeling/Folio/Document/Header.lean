/-
  Folio — headers.

  A document may start with a header: YAML between a line of three dashes and
  another such line or one of three points.  A header that cannot be decoded is
  an error of the document (`HeaderError`); a scalar that its tag does not fit is
  no such error but a failure of decoding itself.

  * `Header.split` finds the header and where the body starts;
  * `Header.decode` is the mapping that a header holds;
  * `Header.render` is the text of a mapping as a header, `Header.write` its octets.
-/
import Folio.Body.Line
import Folio.Yaml.Decode
import Folio.Yaml.Render

namespace Folio

/-- What is wrong with the header of a document. -/
inductive HeaderError where
  /-- No line ends it. -/
  | unterminated
  /-- Its YAML is wrong. -/
  | invalid (e : Yaml.Error)
  /-- It is no mapping but a value of this kind. -/
  | notMapping (kind : String)
  /-- It is to be changed, but is malformed already. -/
  | malformed (e : HeaderError)
  deriving Repr, DecidableEq

namespace HeaderError

/-- What a message says about the error. -/
def message : HeaderError → String
  | .unterminated => "header block is not terminated"
  | .invalid e => "header is not valid YAML: " ++ e.problem
  | .notMapping kind => "header must be a mapping, got " ++ kind
  | .malformed e => "cannot rewrite a malformed header: " ++ e.message

/-- The line of the document where the error is; zero if it has none.  The
    header starts on the second line. -/
def line : HeaderError → Nat
  | .unterminated => 1
  | .invalid e => (e.mark?.map fun m => m.line + 2).getD 0
  | .notMapping _ => 2
  | .malformed _ => 0

/-- A message with its line, if it has one. -/
def withLine (message : String) (line : Nat) : String :=
  if line = 0 then message else message ++ " (line " ++ toString line ++ ")"

/-- What a message says about the error, with its line. -/
def full (e : HeaderError) : String := withLine e.message e.line

end HeaderError

namespace Header

/-! ## Finding the header -/

/-- The octets of a byte order mark. -/
def byteOrderMark : Octets := [0xEF, 0xBB, 0xBF]

/-- The line that starts a header. -/
def marker : List Char := ['-', '-', '-']

/-- Does the line start a header? -/
def opens (line : Octets) : Bool := Text.trimEnd (Line.textOf line) == marker

/-- Does the line end a header? -/
def closes (line : Octets) : Bool :=
  let cs := Text.trimEnd (Line.textOf line)
  cs == marker || cs == ['.', '.', '.']

/-- A document cut into its header and its body. -/
structure Split where
  /-- The octets between the marker lines. -/
  header : Option Octets
  /-- Where the body starts. -/
  offset : Nat
  error : Option HeaderError
  deriving Repr, DecidableEq

/-- Cuts a document after its header.  Without a header, or with one that no line
    ends, all but a byte order mark is the body. -/
def split (raw : Octets) : Split :=
  let start := if byteOrderMark.isPrefixOf raw then byteOrderMark.length else 0
  match Octets.lines (raw.drop start) with
  | [] => ⟨none, start, none⟩
  | first :: rest =>
    if !opens first then ⟨none, start, none⟩
    else
      let header := rest.takeWhile fun l => !closes l
      match rest.drop header.length with
      | [] => ⟨none, start, some .unterminated⟩
      | last :: _ =>
        ⟨some header.flatten, start + first.length + header.flatten.length + last.length, none⟩

/-! ## Decoding -/

/-- Headers keep dates as texts, and a key may not be repeated. -/
def rules : Yaml.Rules := { timestamps := false, uniqueKeys := true }

/-- Why a header has no mapping. -/
inductive Failure where
  | error (e : HeaderError)
  /-- A scalar that its tag does not fit. -/
  | misfit (m : Yaml.Misfit)
  deriving Repr, DecidableEq

/-- The mapping that a header holds; an empty header holds an empty one. -/
def decode (header : Octets) : Except Failure Entries :=
  match Yaml.decode rules (Utf8.decode header) with
  | .error (.misfit m) => .error (.misfit m)
  | .error e => .error (.error (.invalid e))
  | .ok .null => .ok []
  | .ok (.map _ es) => .ok es
  | .ok v => .error (.error (.notMapping v.shortName))

/-! ## Writing -/

/-- The line that starts and ends a header that is written. -/
def markerLine : List Char := marker ++ ['\n']

/-- A mapping as a header, with its marker lines. -/
def render (es : Entries) : List Char :=
  markerLine ++ (if es.isEmpty then [] else Yaml.render es) ++ markerLine

/-- Writes a mapping as a header, unless it holds an integer without a text. -/
def write (es : Entries) : Except Yaml.Misfit Octets :=
  if Value.entriesAreWritable es then .ok (Utf8.encode (render es)) else .error (.number .longText)

end Header

end Folio
