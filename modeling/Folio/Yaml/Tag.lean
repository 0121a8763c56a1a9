/-
  Folio — tags, and the tags of plain scalars.

  A node without a tag of its own has the tag of its kind, and a plain scalar
  the first of the tags whose form its text has: truth values, floating-point
  numbers, integers, the merge sign, null, timestamps, the value sign, signs
  that only introduce something else.

  * `Tag.ofPlain` finds that tag.
-/
import Folio.Text.Search
import Folio.Yaml.Timestamp

namespace Folio.Yaml

/-- What a node is meant to be. -/
inductive Tag where
  | null
  | bool
  | int
  | float
  | str
  | binary
  | timestamp
  | merge
  | value
  | seq
  | map
  | orderedMap
  | pairs
  | set
  /-- A tag that no value is known for. -/
  | other (uri : List Char)
  deriving Repr, DecidableEq, Inhabited

namespace Tag

/-- What the URIs of the known tags start with. -/
def base : String := "tag:yaml.org,2002:"

/-- The known tags and the ends of their URIs. -/
def names : List (String × Tag) :=
  [("null", .null), ("bool", .bool), ("int", .int), ("float", .float), ("str", .str),
    ("binary", .binary), ("timestamp", .timestamp), ("merge", .merge), ("value", .value),
    ("seq", .seq), ("map", .map), ("omap", .orderedMap), ("pairs", .pairs), ("set", .set)]

/-- The tag with a URI. -/
def ofUri (uri : List Char) : Tag :=
  match Text.dropStart? base.toList uri with
  | some name => (names.lookup (String.ofList name)).getD (.other uri)
  | none => .other uri

/-- The URI of a tag. -/
def uri : Tag → List Char
  | .other u => u
  | t => (base ++ ((names.find? fun e => e.2 == t).map (·.1)).getD "").toList

/-! ## Forms of plain scalars -/

/-- Is the character a digit or a low line? -/
def isSpacedDigit (c : Char) : Bool := Text.isAsciiDigit c || c == '_'

/-- A text without a sign at its start. -/
def dropSign (cs : List Char) : List Char :=
  match cs with
  | c :: rest => if c == '-' || c == '+' then rest else cs
  | [] => []

/-- A power of ten with its sign, or nothing. -/
def isPower (cs : List Char) : Bool :=
  match cs with
  | [] => true
  | e :: s :: d :: ds =>
    (e == 'e' || e == 'E') && (s == '-' || s == '+') && (d :: ds).all Text.isAsciiDigit
  | _ => false

/-- One or two digits below sixty. -/
def isSixtieth (cs : List Char) : Bool :=
  match cs with
  | [d] => Text.isAsciiDigit d
  | [t, d] => '0' ≤ t && t ≤ '5' && Text.isAsciiDigit d
  | _ => false

/-- Digits, low lines among them, and then parts below sixty after colons. -/
def isSexagesimal (first : Char → Bool) (cs : List Char) : Bool :=
  match Text.splitOn ':' cs with
  | (d :: ds) :: p :: parts =>
    first d && ds.all isSpacedDigit && (p :: parts).all isSixtieth
  | _ => false

/-- The part before the first point and the part after it. -/
def splitPoint? (cs : List Char) : Option (List Char × List Char) :=
  match cs.dropWhile (· != '.') with
  | _ :: rest => some (cs.takeWhile (· != '.'), rest)
  | [] => none

/-- Has the text the form of a floating-point number? -/
def isFloat (cs : List Char) : Bool :=
  match splitPoint? (dropSign cs) with
  | none => false
  | some ([], rest) =>
    let name := String.ofList rest
    let signed := dropSign cs != cs
    ["inf", "Inf", "INF"].contains name ||
      (!signed && (["nan", "NaN", "NAN"].contains name ||
        (rest.head?.any Text.isAsciiDigit && isPower (rest.dropWhile isSpacedDigit))))
  | some (d :: whole, rest) =>
    Text.isAsciiDigit d &&
      ((whole.all isSpacedDigit && isPower (rest.dropWhile isSpacedDigit)) ||
        (isSexagesimal Text.isAsciiDigit (d :: whole) && rest.all isSpacedDigit))

/-- Has the text the form of an integer? -/
def isInt (cs : List Char) : Bool :=
  let cs := dropSign cs
  match cs with
  | '0' :: rest =>
    match rest with
    | [] => true
    | 'b' :: d :: ds => (d :: ds).all fun c => c == '0' || c == '1' || c == '_'
    | 'x' :: d :: ds => (d :: ds).all fun c => (Text.hexValue? c).isSome || c == '_'
    | _ => rest.all fun c => ('0' ≤ c && c ≤ '7') || c == '_'
  | d :: rest =>
    Text.isAsciiDigit d &&
      (rest.all isSpacedDigit || isSexagesimal Text.isAsciiDigit cs)
  | [] => false

/-- The words that stand for truth values. -/
def truthWords : List String :=
  ["yes", "Yes", "YES", "no", "No", "NO", "true", "True", "TRUE", "false", "False", "FALSE",
    "on", "On", "ON", "off", "Off", "OFF"]

/-- The words that stand for null. -/
def nullWords : List String := ["~", "null", "Null", "NULL", ""]

/-- The words that only introduce something else. -/
def indicatorWords : List String := ["!", "&", "*"]

/-- Has the text the form of a timestamp? -/
def isTimestamp (cs : List Char) : Bool :=
  (Timestamp.Fields.read? cs).any (·.plain)

/-- A text without a line end at its end, unless it is nothing else. -/
def dropFinalBreak (cs : List Char) : List Char :=
  if cs.getLast? == some '\n' && 1 < cs.length then cs.dropLast else cs

/-- The tag of a plain scalar; `timestamps` says whether timestamps are told
    from texts. -/
def ofPlain (timestamps : Bool) (cs : List Char) : Tag :=
  let cs := dropFinalBreak cs
  let word := String.ofList cs
  if truthWords.contains word then .bool
  else if isFloat cs then .float
  else if isInt cs then .int
  else if word == "<<" then .merge
  else if nullWords.contains word then .null
  else if timestamps && isTimestamp cs then .timestamp
  else if word == "=" then .value
  else if indicatorWords.contains word then .other (base ++ "yaml").toList
  else .str

end Tag

end Folio.Yaml
