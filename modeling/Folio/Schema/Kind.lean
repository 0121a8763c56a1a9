/-
  Folio — the kinds of values that a schema can ask for.
-/

namespace Folio.Schema

/-- The kind of the values of a field or a column. -/
inductive Kind where
  | text
  | number
  | bool
  /-- One of the values that the field lists. -/
  | choice
  /-- A reference to a document. -/
  | ref
  | refs
  | texts
  /-- A reference to a user or a team. -/
  | user
  | users
  deriving Repr, DecidableEq

namespace Kind

/-- The name of the kind. -/
def name : Kind → String
  | text => "string"
  | number => "number"
  | bool => "bool"
  | choice => "enum"
  | ref => "ref"
  | refs => "ref[]"
  | texts => "string[]"
  | user => "user"
  | users => "user[]"

/-- The kind with a name; lists have a second name. -/
def ofName? : String → Option Kind
  | "string" => some text
  | "number" => some number
  | "bool" => some bool
  | "enum" => some choice
  | "ref" => some ref
  | "ref[]" | "ref-array" => some refs
  | "string[]" | "string-array" => some texts
  | "user" => some user
  | "user[]" | "user-array" => some users
  | _ => none

theorem ofName?_name (k : Kind) : ofName? k.name = some k := by cases k <;> rfl

/-- Are the values lists? -/
def isList (k : Kind) : Bool := k == refs || k == texts || k == users

/-- Do the values refer to documents? -/
def isRef (k : Kind) : Bool := k == ref || k == refs

/-- Do the values refer to users or teams? -/
def isUser (k : Kind) : Bool := k == user || k == users

/-- Can cells of a table have values of this kind? -/
def fitsCells (k : Kind) : Bool := !k.isList && k != choice

/-- Can the texts of this kind have to match a pattern?  Values that are no
    texts, or texts that are listed, cannot. -/
def takesPattern (k : Kind) : Bool := k != number && k != bool && k != choice

end Kind

end Folio.Schema
