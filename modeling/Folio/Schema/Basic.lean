/-
  Folio — schemas.

  A schema declares types of documents, the relations between documents and the
  forms of references.  A type says which fields a header has and which sections
  a body has.

  * `Schema.type?`, `Schema.relation?` and `Schema.rule?` look things up; of
    several that fit, the one declared first counts;
  * `Schema.typeOfPath?` is the type whose folder a document lies in.
-/
import Folio.Path.Basic
import Folio.Pattern.Match
import Folio.Schema.Kind

namespace Folio

namespace Schema

/-! ## Fields -/

/-- A field of a header. -/
structure Field where
  name : String
  kind : Kind
  required : Bool := false
  /-- What its texts must match. -/
  pattern : Option Pattern := none
  /-- The values it can have, if it is a choice. -/
  choices : List String := []
  description : Option String := none
  default : Option String := none
  /-- The relation that the field belongs to, if no type declares the field. -/
  relation : Option String := none
  /-- Is it the relation read backwards? -/
  inverse : Bool := false
  deriving Repr, DecidableEq

/-! ## Sections -/

/-- A column of a table. -/
structure Column where
  name : String
  kind : Kind
  required : Bool := false
  pattern : Option Pattern := none
  description : Option String := none
  deriving Repr, DecidableEq

/-- A table of a section. -/
structure TableRule where
  required : Bool := false
  description : Option String := none
  columns : List Column := []
  deriving Repr, DecidableEq

/-- What a section asks of its paragraphs. -/
structure ContentRule where
  minParagraphs : Option Nat
  deriving Repr, DecidableEq

/-- What a section asks of its lists. -/
structure ListRule where
  required : Bool
  minItems : Option Nat
  deriving Repr, DecidableEq

/-- What a section asks of its diagrams. -/
structure DiagramRule where
  required : Bool
  language : Option String
  deriving Repr, DecidableEq

/-- A section of a body. -/
structure SectionRule where
  name : String
  required : Bool := false
  description : Option String := none
  children : List SectionRule := []
  tables : List TableRule := []
  content : Option ContentRule := none
  list : Option ListRule := none
  diagram : Option DiagramRule := none
  deriving Repr, Inhabited

namespace SectionRule

mutual

/-- Are the sections equal? -/
def isSame : SectionRule → SectionRule → Bool
  | ⟨n, a, b, rs, c, d, e, f⟩, ⟨n', a', b', rs', c', d', e', f'⟩ =>
    n == n' && a == a' && b == b' && areSame rs rs' && decide (c = c') && decide (d = d') &&
      decide (e = e') && decide (f = f')

def areSame : List SectionRule → List SectionRule → Bool
  | [], [] => true
  | r :: rs, s :: ss => isSame r s && areSame rs ss
  | _, _ => false

end

mutual

theorem isSame_iff : ∀ r s : SectionRule, isSame r s = true ↔ r = s
  | ⟨_, _, _, rs, _, _, _, _⟩, ⟨_, _, _, ss, _, _, _, _⟩ => by
    simp [isSame, areSame_iff rs ss, and_assoc]

theorem areSame_iff : ∀ rs ss : List SectionRule, areSame rs ss = true ↔ rs = ss
  | [], ss => by cases ss <;> simp [areSame]
  | r :: rs, ss => by cases ss <;> simp [areSame, isSame_iff r, areSame_iff rs]

end

instance : DecidableEq SectionRule := fun r s => decidable_of_iff _ (isSame_iff r s)

end SectionRule

/-! ## Types and relations -/

/-- A type of documents. -/
structure DocType where
  name : String
  description : Option String := none
  /-- The folder of its documents. -/
  folder : Option String := none
  /-- The most documents it can have. -/
  maxCount : Option Nat := none
  fields : List Field := []
  sections : List SectionRule := []
  deriving Repr, DecidableEq

/-- A relation between documents. -/
structure Relation where
  name : String
  /-- Its name when it is read backwards. -/
  inverse : Option String := none
  /-- Can a document have many documents in this relation? -/
  many : Bool := true
  description : Option String := none
  /-- Must it have no cycles? -/
  acyclic : Bool := false
  deriving Repr, DecidableEq

namespace Relation

/-- The fields of the relation: their names, and whether the relation is read
    backwards.  An empty name for that is none. -/
def fields (r : Relation) : List (String × Bool) :=
  (r.name, false) ::
    match r.inverse with
    | some name => if name.isEmpty then [] else [(name, true)]
    | none => []

/-- The kind of the fields of the relation. -/
def kind (r : Relation) : Kind := if r.many then .refs else .ref

end Relation

/-! ## References -/

/-- How a reference is looked up. -/
inductive Strategy where
  /-- By the name of a document. -/
  | byName
  /-- By the path of a document, seen from the document that refers to it. -/
  | byPath
  deriving Repr, DecidableEq

namespace Strategy

/-- The name of the strategy. -/
def name : Strategy → String
  | byName => "string-id"
  | byPath => "relative-path"

/-- The strategy with a name. -/
def ofName? : String → Option Strategy
  | "string-id" => some byName
  | "relative-path" => some byPath
  | _ => none

end Strategy

/-- A form of references. -/
structure RefRule where
  name : String
  strategy : Strategy
  pattern : Pattern
  deriving Repr, DecidableEq

end Schema

open Schema

/-- A schema. -/
structure Schema where
  types : List DocType := []
  relations : List Relation := []
  rules : List RefRule := []
  deriving Repr, DecidableEq

namespace Schema

/-- The field of a type with a name. -/
def DocType.field? (t : DocType) (name : String) : Option Field :=
  t.fields.find? (·.name == name)

/-- The type with a name. -/
def type? (s : Schema) (name : String) : Option DocType := s.types.find? (·.name == name)

/-- The names of the fields of all relations. -/
def relationFields (s : Schema) : List String :=
  s.relations.flatMap fun r => r.fields.map (·.1)

/-- The relation that a field belongs to, and whether it is read backwards. -/
def relation? (s : Schema) (field : String) : Option (Relation × Bool) :=
  s.relations.findSome? fun r =>
    if r.name = field then some (r, false)
    else if r.inverse = some field then some (r, true)
    else none

/-- The form of a reference. -/
def rule? (s : Schema) (raw : String) : Option RefRule :=
  s.rules.find? (·.pattern.search raw)

/-! ## Folders -/

/-- Does a folder, as it is written, contain the documents of a directory?  The
    dot contains those of no directory. -/
def folderHas (folder directory : String) : Bool :=
  if folder = "." then directory = "."
  else directory = folder || Text.endsWith ('/' :: folder.toList) directory.toList

/-- The type whose folder contains a document.  Of several the one with the
    longest folder counts. -/
def typeOfPath? (s : Schema) (path : String) : Option DocType :=
  let directory := (Path.ofString path).parent.text
  let fitting := s.types.filterMap fun t =>
    match t.folder with
    | none => none
    | some folder =>
      let folder := (Path.ofString folder).text
      if folderHas folder directory then some (t, folder.length) else none
  let longest : Option (DocType × Nat) :=
    fitting.foldl (fun best f =>
      match best with
      | none => some f
      | some b => if b.2 < f.2 then some f else some b) none
  longest.map (·.1)

end Schema

end Folio
