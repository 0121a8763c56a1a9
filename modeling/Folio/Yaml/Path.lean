/-
  Folio — values inside values.

  A path names a value by the keys, or the places in lists, that lead to it.
  Setting or removing the value at a path changes the mapping that holds it.  If
  that mapping, or one on the way to it, carries a label, the change shows
  wherever the label occurs.

  * `Entries.at?` looks a value up, `Entries.set` and `Entries.remove` change it.
-/
import Folio.Number.Read
import Folio.Yaml.Value

namespace Folio

/-- Why a value cannot be changed. -/
inductive PathError where
  /-- The value at this key is no mapping. -/
  | notMapping (key : String)
  /-- A list has no values under texts. -/
  | inList
  /-- A place in a list that is no number. -/
  | place (e : NumberError)
  deriving Repr, DecidableEq

namespace Value

/-! ## Looking up -/

/-- Is the text a place in a list? -/
def isPlace (part : String) : Bool :=
  !part.toList.isEmpty && part.toList.all Text.isDigit

/-- The value at a place of a list. -/
def item? (items : List Value) (part : String) : Except NumberError (Option Value) :=
  if isPlace part then
    (Number.readInt 10 part.toList).map fun i => if i < 0 then none else items[i.toNat]?
  else .ok none

/-- The value at a path, if there is one. -/
def at? : List String → Value → Except NumberError (Option Value)
  | [], v => .ok (some v)
  | part :: path, v =>
    match v with
    | .map _ es =>
      match Entries.get? es part with
      | some w => at? path w
      | none => .ok none
    | .list _ items =>
      match item? items part with
      | .ok (some w) => at? path w
      | .ok none => .ok none
      | .error e => .error e
    | _ => .ok none

/-! ## Labels -/

mutual

/-- The value with another in place of all that carry a label. -/
def replaceLabel (n : Nat) (new : Value) : Value → Value
  | .time l t => if l = some n then new else .time l t
  | .list l items => if l = some n then new else .list l (replaceItems n new items)
  | .map l es => if l = some n then new else .map l (replaceEntries n new es)
  | .set l ms => if l = some n then new else .set l ms
  | .pair a b => .pair (replaceLabel n new a) (replaceLabel n new b)
  | v => v

/-- The values with another in place of all that carry a label. -/
def replaceItems (n : Nat) (new : Value) : List Value → List Value
  | [] => []
  | v :: vs => replaceLabel n new v :: replaceItems n new vs

/-- The entries with another value in place of all that carry a label. -/
def replaceEntries (n : Nat) (new : Value) : List (Value × Value) → List (Value × Value)
  | [] => []
  | (k, v) :: es => (k, replaceLabel n new v) :: replaceEntries n new es

end

end Value

/-! ## Changing -/

namespace Entries

/-- The value at a path. -/
def at? (path : List String) (es : Entries) : Except NumberError (Option Value) :=
  Value.at? path (.map none es)

/-- A changed mapping. -/
inductive Change where
  /-- In one place. -/
  | here (es : Entries)
  /-- Wherever a label occurs. -/
  | everywhere (label : Nat) (es : Entries)

/-- The change of a mapping that may carry a label. -/
def Change.of (label : Label) (es : Entries) : Change :=
  match label with
  | none => .here es
  | some n => .everywhere n es

/-- The change of a mapping because a mapping under one of its keys changes. -/
def Change.under (label inner : Label) (key : String) (es : Entries) : Change → Change
  | .here new => .of label (es.put (.text key) (.map inner new))
  | .everywhere n new => .everywhere n new

/-- The changed entries of a whole. -/
def Change.apply (whole : Entries) : Change → Entries
  | .here es => es
  | .everywhere n es => Value.replaceEntries n (.map (some n) es) whole

/-- The change that sets a value; missing mappings on the way are added. -/
def setChange (last : String) (value : Value) :
    (way : List String) → Label → Entries → Except PathError Change
  | [], label, es => .ok (.of label (es.put (.text last) value))
  | key :: way, label, es =>
    match es.get? key with
    | none => (setChange last value way none []).map (·.under label none key es)
    | some (.map inner es') => (setChange last value way inner es').map (·.under label inner key es)
    | some _ => .error (.notMapping key)

/-- The change that removes a value, which is there. -/
def removeChange (last : String) :
    (way : List String) → Label → Entries → Except PathError Change
  | [], label, es => .ok (.of label (es.erase (.text last)))
  | key :: way, label, es =>
    match es.get? key with
    | some (.map inner es') => (removeChange last way inner es').map (·.under label inner key es)
    | _ => .error .inList

/-- The entries with a value at a path, which has at least one key. -/
def set (path : List String) (value : Value) (es : Entries) : Except PathError Entries :=
  (setChange (path.getLast?.getD "") value path.dropLast none es).map (·.apply es)

/-- The entries without the value at a path, where there is one. -/
def remove (path : List String) (es : Entries) : Except PathError Entries :=
  (removeChange (path.getLast?.getD "") path.dropLast none es).map (·.apply es)

end Entries

end Folio
