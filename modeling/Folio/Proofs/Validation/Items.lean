/-
  Folio — checks of lists.

  A list in a field is checked item by item, and an item like a value of a field whose
  kind is that of the items (`Schema.Field.item`).  The findings differ in their place
  and in what messages call it, and in nothing else (`Finding.inItem`).

  * `Scope.checkItem_eq`: the check of an item;
  * `Scope.checkValue_list`: the check of a list;
  * `Scope.codes_checkValue_list`: the codes that it reports, and the references.
-/
import Folio.Proofs.Validation.Warnings

namespace Folio

/-! ## Fields of items -/

namespace Schema

/-- The kind of the items of lists of a kind. -/
def Kind.item : Kind → Kind
  | texts => text
  | refs => ref
  | users => user
  | k => k

theorem Kind.isList_iff {k : Kind} : k.isList = true ↔ k = .texts ∨ k = .refs ∨ k = .users := by
  cases k <;> decide

/-- The field for a single item of the lists in a field. -/
def Field.item (f : Field) : Field := { f with kind := f.kind.item }

theorem Field.isRef_item (f : Field) : f.item.kind.isRef = f.kind.isRef := by
  obtain ⟨name, kind⟩ := f
  cases kind <;> rfl

theorem Field.isUser_item (f : Field) : f.item.kind.isUser = f.kind.isUser := by
  obtain ⟨name, kind⟩ := f
  cases kind <;> rfl

end Schema

/-! ## Findings in items -/

/-- The problem of a value that messages call by another name. -/
def Problem.renamed (name : String) : Problem → Problem
  | wrongKind _ expected found => wrongKind name expected found
  | notListed _ value listed => notListed name value listed
  | unmatched _ value pattern => unmatched name value pattern
  | badRef fault _ value patterns => badRef fault name value patterns
  | noUserRef _ value => noUserRef name value
  | unknownUser _ value known => unknownUser name value known
  | p => p

theorem Problem.code_renamed (name : String) (p : Problem) : (p.renamed name).code = p.code := by
  cases p <;> rfl

/-- The finding in a value that is an item of a list. -/
def Finding.inItem (name : String) (index : Nat) (x : Finding) : Finding :=
  ⟨.item name index, x.problem.renamed (Location.itemName name index)⟩

theorem Finding.code_inItem (name : String) (index : Nat) (x : Finding) :
    (x.inItem name index).code = x.code := x.problem.code_renamed _

/-- The reference in a value that is an item of a list. -/
def FieldRef.inItem (name : String) (index : Nat) (r : FieldRef) : FieldRef :=
  { r with index := some index, location := .item name index }

/-- What the check of a value finds if the value is an item of a list. -/
def Checked.inItem (name : String) (index : Nat) (c : Checked) : Checked :=
  ⟨c.findings.map (·.inItem name index), c.refs.map (·.inItem name index)⟩

/-! ## Checks of items -/

namespace Scope

section
variable (scope : Scope) (source : Option String) (f : Schema.Field)

theorem map_inItem_patternFindings (pattern : Option Pattern) (location : Location)
    (name field value : String) (index : Nat) :
    (patternFindings pattern location name value).map (·.inItem field index) =
      patternFindings pattern (.item field index) (Location.itemName field index) value := by
  unfold patternFindings
  cases pattern with
  | none => rfl
  | some p =>
    dsimp only
    split <;> rfl

theorem map_inItem_refFindings (location : Location) (name field : String) (index : Nat)
    (r : Reference) : (scope.refFindings location name r).map (·.inItem field index) =
      scope.refFindings (.item field index) (Location.itemName field index) r := by
  unfold refFindings
  cases r.fault? <;> rfl

theorem map_inItem_userFindings (location : Location) (name field value : String) (index : Nat) :
    (scope.userFindings location name value).map (·.inItem field index) =
      scope.userFindings (.item field index) (Location.itemName field index) value := by
  unfold userFindings
  split
  · rfl
  · cases scope.directory with
    | none => rfl
    | some d =>
      dsimp only
      split <;> rfl

theorem checkText_item (index : Nat) (value : String) :
    scope.checkText source f (some index) value =
      (scope.checkText source f.item none value).inItem f.name index := by
  unfold checkText Checked.inItem
  rw [f.isRef_item, f.isUser_item]
  dsimp only [Schema.Field.item, Option.map_some, Option.map_none, Option.getD_some,
    Option.getD_none]
  split
  · rw [List.map_append, map_inItem_patternFindings, map_inItem_refFindings]
    rfl
  · split
    · rw [List.map_append, map_inItem_patternFindings, map_inItem_userFindings]
      rfl
    · rw [map_inItem_patternFindings]
      rfl

/-- **The check of an item** of a list is that of a value of the kind of the items. -/
theorem checkItem_eq (hf : f.kind.isList = true) (index : Nat) (v : Value) :
    scope.checkItem source f index v = (scope.checkValue source f.item v).inItem f.name index := by
  have htext : ∀ s, scope.checkValue source f.item (.text s) =
      scope.checkText source f.item none s := by
    intro s
    unfold checkValue
    rcases Schema.Kind.isList_iff.1 hf with hk | hk | hk <;>
      simp only [Schema.Field.item, Schema.Kind.item, hk]
  have hother : (∀ s, v ≠ .text s) → scope.checkValue source f.item v =
      mismatch (.field f.name) f.name (expected f.kind) v := by
    intro hv
    unfold checkValue
    cases v with
    | text s => exact absurd rfl (hv s)
    | _ =>
      rcases Schema.Kind.isList_iff.1 hf with hk | hk | hk <;>
        simp only [Schema.Field.item, Schema.Kind.item, hk] <;> rfl
  cases v with
  | text s => exact (htext s).symm ▸ checkText_item scope source f index s
  | _ =>
    rw [hother fun _ h => nomatch h]
    rfl

theorem checkValue_eq_join (hf : f.kind.isList = true) (l : Label) (items : List Value) :
    scope.checkValue source f (.list l items) =
      .join (items.zipIdx.map fun (v, i) => scope.checkItem source f i v) := by
  unfold checkValue
  rcases Schema.Kind.isList_iff.1 hf with hk | hk | hk <;> simp only [hk]

theorem flatMap_zipIdx {α β : Type} (xs : List α) (g : α → List β) :
    (xs.zipIdx.flatMap fun p => g p.1) = xs.flatMap g := by
  conv_rhs => rw [← List.zipIdx_map_fst 0 xs, List.flatMap_map]

/-- **The check of a list** checks each item like a value of a field for a single one. -/
theorem checkValue_list (hf : f.kind.isList = true) (l : Label) (items : List Value) :
    scope.checkValue source f (.list l items) = .join (items.zipIdx.map fun (v, i) =>
      (scope.checkValue source f.item v).inItem f.name i) := by
  rw [checkValue_eq_join scope source f hf]
  exact congrArg Checked.join
    (List.map_congr_left fun p _ => checkItem_eq scope source f hf p.2 p.1)

/-- **What is reported for a list**: its codes are those that are reported for the items,
    one after the other, each checked as a value of the field for a single one; and its
    references are looked up as those of the items are. -/
theorem codes_checkValue_list (hf : f.kind.isList = true) (l : Label) (items : List Value) :
    (scope.checkValue source f (.list l items)).findings.map (·.code) =
      items.flatMap (fun v => (scope.checkValue source f.item v).findings.map (·.code)) ∧
    (scope.checkValue source f (.list l items)).refs.map (·.ref) =
      items.flatMap fun v => (scope.checkValue source f.item v).refs.map (·.ref) := by
  rw [checkValue_list scope source f hf]
  constructor
  · simp only [Checked.join, List.flatMap_map, List.map_flatMap, Checked.inItem, List.map_map,
      Function.comp_def, Finding.code_inItem]
    exact flatMap_zipIdx items fun v => (scope.checkValue source f.item v).findings.map (·.code)
  · simp only [Checked.join, List.flatMap_map, List.map_flatMap, Checked.inItem, List.map_map,
      Function.comp_def, FieldRef.inItem]
    exact flatMap_zipIdx items fun v => (scope.checkValue source f.item v).refs.map (·.ref)

end

/-- The field of the notes that a note names. -/
def seeField : Schema.Field := { name := "see", kind := .refs }

/-- Items of all sorts, two of them texts. -/
def seeItems : List Value :=
  [.null, .bool true, .int 3, .text "b", .list none [.text "b"], .map none [], .text ""]

/-- Of the texts one is the path of a note and one has no form of a reference. -/
theorem codes_of_seeItems :
    seeField.kind.isList = true ∧
      (noteScope.checkValue (some "a") seeField (.list none seeItems)).findings.map (·.code) =
        ["F020", "F020", "F020", "F020", "F020", "R001"] ∧
      (noteScope.checkValue (some "a") seeField (.list none seeItems)).refs.map (·.ref) =
        [⟨"b", some notePaths, .ok "b"⟩, ⟨"", none, .error .noForm⟩] := by
  obtain ⟨hcodes, hrefs⟩ :=
    codes_checkValue_list noteScope (some "a") seeField rfl none seeItems
  exact ⟨rfl, hcodes.trans (by decide +kernel), hrefs.trans (by cbv)⟩

end Scope

end Folio
