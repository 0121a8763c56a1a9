/-
  Folio — the schema that a source declares.

  The nodes of a source are taken in order.  Each declares a relation, a type or
  forms of references, and an error in one is an error of the source.  When all
  are known, each type gets the fields of the relations that it does not declare
  itself.

  * `Schema.ofNodes` and `Schema.ofSource` are the schema of nodes and of a
    source.
-/
import Folio.Schema.Basic
import Folio.Schema.Node

namespace Folio.Schema

namespace Node

/-! ## Parts of a node -/

/-- An error on the line of a node. -/
def fail {α : Type} (n : Node) (problem : SchemaProblem) : Except SchemaError α :=
  .error (.located problem n.line)

/-- The name of what a node declares. -/
def declared (n : Node) (what : String) : Except SchemaError String :=
  match n.args with
  | .text s :: _ => .ok s
  | _ => n.fail (.missingName what)

/-- A text under a key; no value is as no text. -/
def text? (n : Node) (key : String) : Except SchemaError (Option String) :=
  match n.props.lookup key with
  | none | some .null => .ok none
  | some (.text s) => .ok (some s)
  | some _ => n.fail (.notText key n.name)

/-- A text under a key, if the key is there. -/
def textOr (n : Node) (key : String) (absent : Option String) :
    Except SchemaError (Option String) :=
  match n.props.lookup key with
  | none => .ok absent
  | some _ => n.text? key

/-- A truth value under a key. -/
def bool (n : Node) (key : String) (absent : Bool) : Except SchemaError Bool :=
  match n.props.lookup key with
  | none => .ok absent
  | some (.bool b) => .ok b
  | some _ => n.fail (.notBool key n.name)

/-- A number of things under a key. -/
def count? (n : Node) (key : String) : Except SchemaError (Option Nat) :=
  match n.props.lookup key with
  | none | some .null => .ok none
  | some (.int i) => if 0 ≤ i then .ok (some i.toNat) else n.fail (.notCount key n.name)
  | some _ => n.fail (.notCount key n.name)

/-- How messages show a text that may be missing. -/
def shownText (s : Option String) : String := s.getD "None"

/-- The pattern that a text writes. -/
def patternOf (n : Node) (text : String) : Except SchemaError Pattern :=
  match Pattern.ofString text with
  | .ok p => .ok p
  | .error (.malformed fault position) =>
    n.fail (.badPattern text (.malformed fault position))
  | .error e => .error (.pattern text e)

/-- The pattern that a text writes, if there is one. -/
def pattern? (n : Node) : Option String → Except SchemaError (Option Pattern)
  | none => .ok none
  | some text => (n.patternOf text).map some

/-- The kind of the values of a field or a column. -/
def kind (n : Node) (allowed : Kind → Bool) : Except SchemaError Kind := do
  let name ← n.textOr "type" (some "string")
  match name.bind Kind.ofName? with
  | some k => if allowed k then return k else n.fail (.unknownKind n.name (shownText name))
  | none => n.fail (.unknownKind n.name (shownText name))

end Node

/-! ## Fields -/

/-- The values that a choice lists. -/
def choicesOf (n : Node) : List String :=
  (n.children.filter (·.name == "values")).flatMap fun c => c.args.map Scalar.plainText

/-- The field that a node declares. -/
def Field.ofNode (n : Node) : Except SchemaError Field := do
  let name ← n.declared "field"
  let kind ← n.kind fun _ => true
  let pattern ← n.text? "pattern"
  if pattern.isSome && !kind.takesPattern then
    n.fail (.pointlessPattern "field" name kind)
  let choices := if kind = .choice then choicesOf n else []
  if kind = .choice ∧ choices = [] then n.fail (.noValues name)
  let default :=
    match n.props.lookup "default" with
    | none | some .null => none
    | some v => some v.plainText
  let required ← n.bool "required" false
  let pattern ← n.pattern? pattern
  let description ← n.text? "description"
  return { name, kind, required, pattern, choices, description, default }

/-! ## Sections -/

/-- The column that a node declares, when columns of these names come before. -/
def Column.ofNode (before : List String) (n : Node) : Except SchemaError Column := do
  if n.name ≠ "column" then n.fail (.unknownInTable n.name)
  let name ← n.declared "column"
  if before.contains name then n.fail (.sameColumn name)
  let pattern ← n.text? "pattern"
  let kind ← n.kind Kind.fitsCells
  if pattern.isSome && !kind.takesPattern then
    n.fail (.pointlessPattern "column" name kind)
  let required ← n.bool "required" false
  let pattern ← n.pattern? pattern
  let description ← n.text? "description"
  return { name, kind, required, pattern, description }

/-- A table with a column more. -/
def TableRule.add (t : TableRule) (n : Node) : Except SchemaError TableRule := do
  let column ← Column.ofNode (t.columns.map (·.name)) n
  return { t with columns := t.columns ++ [column] }

/-- The table that a node declares. -/
def TableRule.ofNode (n : Node) : Except SchemaError TableRule := do
  let required ← n.bool "required" false
  let description ← n.text? "description"
  n.children.foldlM TableRule.add { required, description }

/-- The first name that stands among those taken or for a second time. -/
def repeated? (taken : List String) : List String → Option String
  | [] => none
  | name :: names => if taken.contains name then some name else repeated? (name :: taken) names

/-- Refuses two sections of one name side by side. -/
def checkSiblings (line : Nat) (sections : List SectionRule) : Except SchemaError Unit :=
  match repeated? [] (sections.map (·.name)) with
  | some name => .error (.located (.sameSection name) line)
  | none => .ok ()

namespace SectionRule

/-- A section with a part more that is not itself a section. -/
def addRule (s : SectionRule) (n : Node) : Except SchemaError SectionRule :=
  match n.name with
  | "table" => do
    let table ← TableRule.ofNode n
    return { s with tables := s.tables ++ [table] }
  | "content" => do
    let minParagraphs ← n.count? "min-paragraphs"
    return { s with content := some ⟨minParagraphs⟩ }
  | "list" => do
    let required ← n.bool "required" true
    let minItems ← n.count? "min-items"
    return { s with list := some ⟨required, minItems⟩ }
  | "diagram" => do
    let required ← n.bool "required" true
    let language ← n.text? "type"
    return { s with diagram := some ⟨required, language⟩ }
  | name => n.fail (.unknownInSection s.name name)

mutual

/-- The section that a node declares. -/
def ofNode : Node → Except SchemaError SectionRule
  | ⟨name, line, args, props, children⟩ => do
    let n : Node := ⟨name, line, args, props, []⟩
    let title ← n.declared "section"
    let required ← n.bool "required" false
    let description ← n.text? "description"
    let s ← addParts { name := title, required, description } children
    checkSiblings line s.children
    return s

/-- A section with the parts that nodes declare. -/
def addParts (s : SectionRule) : List Node → Except SchemaError SectionRule
  | [] => .ok s
  | n :: ns =>
    if n.name = "section" then do
      let child ← ofNode n
      addParts { s with children := s.children ++ [child] } ns
    else do
      let s ← s.addRule n
      addParts s ns

end

end SectionRule

/-! ## Types -/

/-- A type with a part more. -/
def DocType.add (t : DocType) (n : Node) : Except SchemaError DocType :=
  match n.name with
  | "field" => do
    let field ← Field.ofNode n
    if (t.field? field.name).isSome then n.fail (.sameField field.name t.name)
    return { t with fields := t.fields ++ [field] }
  | "section" => do
    let section_ ← SectionRule.ofNode n
    return { t with sections := t.sections ++ [section_] }
  | name => n.fail (.unknownInType t.name name)

/-- The type that a node declares. -/
def DocType.ofNode (n : Node) : Except SchemaError DocType := do
  let name ← n.declared "type"
  let description ← n.text? "description"
  let folder ← n.text? "folder"
  let maxCount ← n.count? "max_count"
  let t ← n.children.foldlM DocType.add { name, description, folder, maxCount }
  checkSiblings n.line t.sections
  return t

/-! ## Relations and references -/

/-- The relation that a node declares. -/
def Relation.ofNode (n : Node) : Except SchemaError Relation := do
  let name ← n.declared "relation"
  let cardinality ← n.textOr "cardinality" (some "many")
  let many ←
    if cardinality = some "one" then pure false
    else if cardinality = some "many" then pure true
    else n.fail (.unknownCardinality (Node.shownText cardinality) name)
  let inverse ← n.text? "inverse"
  let description ← n.text? "description"
  let acyclic ← n.bool "acyclic" false
  return { name, inverse, many, description, acyclic }

/-- The form of references that a node declares. -/
def RefRule.ofNode (n : Node) : Except SchemaError RefRule := do
  match ← n.text? "pattern" with
  | none => n.fail (.noPattern n.name)
  | some text =>
    let strategy ← n.textOr "strategy" (some n.name)
    match strategy.bind Strategy.ofName? with
    | none => n.fail (.unknownStrategy n.name (Node.shownText strategy))
    | some strategy => return { name := n.name, strategy, pattern := ← n.patternOf text }

/-! ## Schemas -/

/-- The names that count when relations are told apart: those that are not
    empty. -/
def countingNames (relations : List Relation) : List String :=
  (relations.flatMap fun r => r.fields.map (·.1)).filter (!·.isEmpty)

/-- Adds a relation; its names must be new. -/
def addRelation (s : Schema) (line : Nat) (r : Relation) : Except SchemaError Schema :=
  match repeated? (countingNames s.relations) (countingNames [r]) with
  | some name => .error (.located (.sameRelation name) line)
  | none => .ok { s with relations := s.relations ++ [r] }

/-- Adds what a node declares. -/
def add (s : Schema) (n : Node) : Except SchemaError Schema :=
  match n.name with
  | "relation" => do
    let r ← Relation.ofNode n
    s.addRelation n.line r
  | "type" => do
    let t ← DocType.ofNode n
    if (s.type? t.name).isSome then n.fail (.sameType t.name)
    return { s with types := s.types ++ [t] }
  | "ref-format" => do
    let rules ← n.children.mapM RefRule.ofNode
    return { s with rules := s.rules ++ rules }
  | name => n.fail (.unknownNode name)

/-- The fields of relations. -/
def fieldsOfRelations (relations : List Relation) : List Field :=
  relations.flatMap fun r => r.fields.map fun (name, inverse) =>
    { name, kind := r.kind, description := r.description, relation := some r.name, inverse }

/-- A type with the fields of relations that it does not declare itself. -/
def DocType.withRelations (relations : List Relation) (t : DocType) : DocType :=
  { t with
    fields := t.fields ++
      (fieldsOfRelations relations).filter fun f => (t.field? f.name).isNone }

/-- The schema that nodes declare. -/
def ofNodes (nodes : List Node) : Except SchemaError Schema := do
  let s ← nodes.foldlM add { }
  return { s with types := s.types.map (·.withRelations s.relations) }

/-- The schema that a source declares. -/
def ofSource (source : String) : Except SchemaError Schema := do
  ofNodes (← Node.ofSource source)

end Folio.Schema
