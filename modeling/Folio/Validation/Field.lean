/-
  Folio — checking the fields of a header.

  A value must be of the kind that its field declares, and a text in it must
  match the pattern of the field and refer to something, if the kind says so.  A
  list is checked item by item, like so many values of the kind of its items.

  * `Scope.checkValue` checks a value, `Scope.checkFields` a header;
  * the references met are kept with what they point at.
-/
import Folio.Document.Lookup
import Folio.User.Basic
import Folio.Validation.Finding
import Folio.Yaml.Display

namespace Folio

/-- What documents are checked against. -/
structure Scope where
  schema : Schema
  /-- The documents that references can point at. -/
  workingSet : WorkingSet
  /-- The users and teams that references can name, if they are known. -/
  directory : Option Directory

/-- A reference in a header. -/
structure FieldRef where
  field : String
  /-- Its place, if the field has a list. -/
  index : Option Nat
  location : Location
  ref : Reference

/-- What a check finds: problems, and references. -/
structure Checked where
  findings : List Finding := []
  refs : List FieldRef := []

namespace Checked

instance : Append Checked := ⟨fun a b => ⟨a.findings ++ b.findings, a.refs ++ b.refs⟩⟩

/-- What several checks find, in order. -/
def join (cs : List Checked) : Checked := ⟨cs.flatMap (·.findings), cs.flatMap (·.refs)⟩

end Checked

namespace Scope

/-! ## Texts -/

/-- The finding that a reference points at no document, if so. -/
def refFindings (scope : Scope) (location : Location) (name : String) (r : Reference) :
    List Finding :=
  match r.fault? with
  | none => []
  | some fault =>
    [⟨location, .badRef fault name r.raw (scope.schema.rules.map (·.pattern.text))⟩]

/-- What is wrong with a reference to a user or a team. -/
def userFindings (scope : Scope) (location : Location) (name value : String) : List Finding :=
  if !UserRef.isValid value then [⟨location, .noUserRef name value⟩]
  else
    match scope.directory with
    | none => []
    | some d => if d.knows value then [] else [⟨location, .unknownUser name value d.refs⟩]

/-- The finding that a text does not match a pattern, if so. -/
def patternFindings (pattern : Option Pattern) (location : Location) (name value : String) :
    List Finding :=
  match pattern with
  | none => []
  | some p => if p.search value then [] else [⟨location, .unmatched name value p.text⟩]

/-! ## Values -/

/-- Checks a text in a field of a document with a path; `index` is its place in
    a list.  The pattern comes first. -/
def checkText (scope : Scope) (source : Option String) (f : Schema.Field) (index : Option Nat)
    (value : String) : Checked :=
  let name := (index.map (Location.itemName f.name)).getD f.name
  let location := (index.map (Location.item f.name)).getD (.field f.name)
  let found := patternFindings f.pattern location name value
  if f.kind.isRef then
    let r := Reference.resolve scope.schema scope.workingSet source value
    ⟨found ++ scope.refFindings location name r, [⟨f.name, index, location, r⟩]⟩
  else if f.kind.isUser then ⟨found ++ scope.userFindings location name value, []⟩
  else ⟨found, []⟩

/-- What messages call a value of a kind that is expected; for a list, one of its
    items. -/
def expected : Schema.Kind → String
  | .text | .texts => "string"
  | .number => "number"
  | .bool => "bool"
  | .choice => "enum (string)"
  | .ref | .refs => "ref (string)"
  | .user | .users => "user (@handle)"

/-- The finding that a value is of another kind. -/
def mismatch (location : Location) (name expected : String) (v : Value) : Checked :=
  ⟨[⟨location, .wrongKind name expected v.kindName⟩], []⟩

/-- Checks an item of a list. -/
def checkItem (scope : Scope) (source : Option String) (f : Schema.Field) (index : Nat)
    (v : Value) : Checked :=
  match v with
  | .text s => scope.checkText source f (some index) s
  | v => mismatch (.item f.name index) (Location.itemName f.name index) (expected f.kind) v

/-- Is the value a number? -/
def isNumber : Value → Bool
  | .int _ | .float _ => true
  | _ => false

/-- Is the value a truth value? -/
def isBool : Value → Bool
  | .bool _ => true
  | _ => false

/-- Checks the value of a field. -/
def checkValue (scope : Scope) (source : Option String) (f : Schema.Field) (v : Value) :
    Checked :=
  let wrong (expected : String) := mismatch (.field f.name) f.name expected v
  match f.kind with
  | .number => if isNumber v then {} else wrong (expected .number)
  | .bool => if isBool v then {} else wrong (expected .bool)
  | .choice =>
    match v with
    | .text s =>
      if f.choices.contains s then {}
      else ⟨[⟨.field f.name, .notListed f.name s f.choices⟩], []⟩
    | _ => wrong (expected .choice)
  | .text | .ref | .user =>
    match v with
    | .text s => scope.checkText source f none s
    | _ => wrong (expected f.kind)
  | .texts | .refs | .users =>
    match v with
    | .list _ items =>
      .join (items.zipIdx.map fun (item, i) => scope.checkItem source f i item)
    | _ => wrong f.kind.name

/-! ## Headers -/

/-- Checks what a header has in a field; no value is as no field. -/
def checkField (scope : Scope) (source : Option String) (header : Entries)
    (f : Schema.Field) : Checked :=
  match header.get? f.name with
  | none | some .null =>
    if f.required then ⟨[⟨.field f.name, .missingField f⟩], []⟩ else {}
  | some v => scope.checkValue source f v

/-- Checks the fields of a header. -/
def checkFields (scope : Scope) (source : Option String) (header : Entries)
    (fields : List Schema.Field) : Checked :=
  .join (fields.map (scope.checkField source header))

end Scope

end Folio
