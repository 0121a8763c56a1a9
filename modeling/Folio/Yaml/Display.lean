/-
  Folio — how messages show a value.

  `Value.shown` is the form in which a value stands inside another: texts are
  quoted.  `Value.plainText` is the form on its own: a text is itself and a
  timestamp is written with its fields.  A value with an integer that has no text
  is not shown (`Value.isWritable`).
-/
import Folio.Number.Layout
import Folio.Number.Read
import Folio.Text.Quoted
import Folio.Yaml.SetTable

namespace Folio

namespace Timestamp

/-- An offset from universal time as messages show it. -/
def shownOffset (minutes : Int) : String :=
  if minutes = 0 then "datetime.timezone.utc"
  else "datetime.timezone(" ++ durationText minutes ++ ")"

/-- A timestamp as messages show it inside a value: seconds and their fractions
    are left out where they are zero. -/
def shown (t : Timestamp) : String :=
  let day := [toString t.year, toString t.month, toString t.day]
  match t.time with
  | none => "datetime.date(" ++ ", ".intercalate day ++ ")"
  | some c =>
    let fine :=
      if c.microsecond ≠ 0 then [toString c.second, toString c.microsecond]
      else if c.second ≠ 0 then [toString c.second]
      else []
    let zone := (c.offset.map fun m => ["tzinfo=" ++ shownOffset m]).getD []
    "datetime.datetime(" ++
      ", ".intercalate (day ++ [toString c.hour, toString c.minute] ++ fine ++ zone) ++ ")"

end Timestamp

namespace Value

/-! ## Integers without a text -/

mutual

/-- Have all integers in the value a text? -/
def isWritable : Value → Bool
  | .int i => decide ((Text.decimalText i.natAbs).length ≤ Number.maxDigits)
  | .list _ items => areWritable items
  | .map _ es => entriesAreWritable es
  | .set _ ms => areWritable ms
  | .pair a b => isWritable a && isWritable b
  | _ => true

/-- Have all integers in the values a text? -/
def areWritable : List Value → Bool
  | [] => true
  | v :: vs => isWritable v && areWritable vs

/-- Have all integers in the entries a text? -/
def entriesAreWritable : List (Value × Value) → Bool
  | [] => true
  | (k, v) :: es => isWritable k && isWritable v && entriesAreWritable es

end

/-! ## Texts -/

/-- A truth value as messages show it. -/
def shownBool (b : Bool) : String := if b then "True" else "False"

mutual

/-- A value as messages show it inside another value. -/
def shown : Value → String
  | .null => "None"
  | .bool b => shownBool b
  | .int i => toString i
  | .float x => String.ofList (FloatLayout.plain.write x)
  | .text s => Text.quotedString s
  | .octets s => String.ofList (Text.quotedOctets s)
  | .time _ t => t.shown
  | .list _ items => "[" ++ ", ".intercalate (shownItems items) ++ "]"
  | .map _ entries => "\x7b" ++ ", ".intercalate (shownEntries entries) ++ "\x7d"
  | .set _ members =>
    if members.isEmpty then "set()"
    else
      let table := SetTable.ofKeys ((members.map (hash .zero)).zip (shownItems members))
      "\x7b" ++ ", ".intercalate (table.listed.map (·.2)) ++ "\x7d"
  | .pair a b => "(" ++ a.shown ++ ", " ++ b.shown ++ ")"

/-- Each of some values as messages show it inside another value. -/
def shownItems : List Value → List String
  | [] => []
  | v :: vs => v.shown :: shownItems vs

/-- Each of some entries as messages show it inside a mapping. -/
def shownEntries : List (Value × Value) → List String
  | [] => []
  | (k, v) :: es => (k.shown ++ ": " ++ v.shown) :: shownEntries es

end

/-- A value as messages show it on its own. -/
def plainText : Value → String
  | .text s => s
  | .time _ t => String.ofList (t.isoText ' ')
  | v => v.shown

/-- What messages call the kind of a value. -/
def kindName : Value → String
  | .null => "null"
  | .bool _ => "bool"
  | .int _ | .float _ => "number"
  | .text _ => "string"
  | .octets _ => "bytes"
  | .time _ t => if t.time.isSome then "datetime" else "date"
  | .list .. => "sequence"
  | .map .. => "mapping"
  | .set .. => "set"
  | .pair .. => "tuple"

/-- What messages call a whole header of the wrong kind. -/
def shortName : Value → String
  | .null => "NoneType"
  | .bool _ => "bool"
  | .int _ => "int"
  | .float _ => "float"
  | .text _ => "str"
  | .list .. => "list"
  | .map .. => "dict"
  | v => v.kindName

end Value

end Folio
