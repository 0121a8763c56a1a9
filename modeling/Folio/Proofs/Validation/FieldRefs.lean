/-
  Folio — the references that a report on a document keeps.

  A field of references is looked up as a whole or not at all: if the value of the
  field has the form that its kind asks for, all texts in it are looked up, else
  none (`Field.textsIn`).

  * `Scope.refsIn`: the references that the value of a field holds;
  * `Scope.refs_checkFields`, `Scope.mem_refs_checkDocument_iff`: those of a report;
  * `Schema.Kind.textsIn_eq`: the texts that are looked up are all texts of the value.
-/
import Folio.Proofs.Reference.Resolve
import Folio.Proofs.Validation.Fields

namespace Folio

/-- The texts of a value that are looked up in a field of a kind. -/
def Schema.Kind.textsIn : Schema.Kind → Option Value → List String
  | .ref, some (.text s) => [s]
  | .refs, some (.list l items) => Graph.textsOf (some (.list l items))
  | _, _ => []

/-- **A value is looked up as a whole or not at all.** -/
theorem Schema.Kind.textsIn_eq (k : Schema.Kind) (v : Option Value) :
    k.textsIn v = [] ∨ k.textsIn v = Graph.textsOf v := by
  unfold textsIn
  split
  · exact Or.inr rfl
  · exact Or.inr rfl
  · exact Or.inl rfl

namespace Checked

theorem refs_append (a b : Checked) : (a ++ b).refs = a.refs ++ b.refs := rfl

theorem refs_join (cs : List Checked) : (join cs).refs = cs.flatMap (·.refs) := rfl

end Checked

namespace Scope

section
variable (scope : Scope) (source : Option String) (f : Schema.Field)

/-! ## The references in a field -/

/-- The reference that an item of a list is in a field. -/
def itemRef? (index : Nat) : Value → Option FieldRef
  | .text s =>
    some ⟨f.name, some index, .item f.name index,
      Reference.resolve scope.schema scope.workingSet source s⟩
  | _ => none

/-- The references that a value holds in a field, in order: a text in a field of one
    reference, and each text of a list in a field of several. -/
def refsIn (v : Option Value) : List FieldRef :=
  match f.kind, v with
  | .ref, some (.text s) =>
    [⟨f.name, none, .field f.name, Reference.resolve scope.schema scope.workingSet source s⟩]
  | .refs, some (.list _ items) => items.zipIdx.filterMap fun (v, i) => scope.itemRef? source f i v
  | _, _ => []

theorem refs_checkItem (index : Nat) (v : Value) : (scope.checkItem source f index v).refs =
    if f.kind.isRef then (scope.itemRef? source f index v).toList else [] := by
  cases v with
  | text s =>
    dsimp only [checkItem, checkText, itemRef?]
    split
    · rfl
    · split <;> rfl
  | _ => exact (ite_self _).symm

theorem refs_items (items : List Value) :
    (Checked.join (items.zipIdx.map fun (item, i) => scope.checkItem source f i item)).refs =
      if f.kind.isRef then items.zipIdx.filterMap fun (v, i) => scope.itemRef? source f i v
      else [] := by
  rw [Checked.refs_join, List.flatMap_map]
  simp only [refs_checkItem]
  split
  · rw [List.filterMap_eq_flatMap_toList]
  · exact List.flatMap_eq_nil_iff.2 fun _ _ => rfl

theorem refs_checkValue (v : Value) :
    (scope.checkValue source f v).refs = scope.refsIn source f (some v) := by
  unfold checkValue refsIn
  cases hk : f.kind with
  | number | bool => dsimp only; split <;> rfl
  | choice =>
    cases v with
    | text s => dsimp only; split <;> rfl
    | _ => rfl
  | text | user | ref =>
    cases v with
    | text s => simp [checkText, hk, Schema.Kind.isRef, Schema.Kind.isUser]
    | _ => rfl
  | texts | users | refs =>
    cases v with
    | list l items =>
      refine (refs_items scope source f items).trans ?_
      rw [hk]
      rfl
    | _ => rfl

/-- **What the check of a field keeps** are the references that its value holds. -/
theorem refs_checkField (header : Entries) :
    (scope.checkField source header f).refs = scope.refsIn source f (header.get? f.name) := by
  have hnone : scope.refsIn source f none = [] := by unfold refsIn; cases f.kind <;> rfl
  have hnull : scope.refsIn source f (some .null) = [] := by unfold refsIn; cases f.kind <;> rfl
  unfold checkField
  split
  · next h => rw [h, hnone]; split <;> rfl
  · next h => rw [h, hnull]; split <;> rfl
  · next v _ h => rw [h, refs_checkValue]

theorem refs_checkFields (header : Entries) (fields : List Schema.Field) :
    (scope.checkFields source header fields).refs =
      fields.flatMap fun f => scope.refsIn source f (header.get? f.name) := by
  rw [checkFields, Checked.refs_join, List.flatMap_map]
  simp only [refs_checkField]

theorem mem_itemRefs_iff {items : List Value} {r : FieldRef} :
    r ∈ items.zipIdx.filterMap (fun (v, i) => scope.itemRef? source f i v) ↔
      ∃ s i, (.text s, i) ∈ items.zipIdx ∧ r = ⟨f.name, some i, .item f.name i,
        Reference.resolve scope.schema scope.workingSet source s⟩ := by
  rw [List.mem_filterMap]
  constructor
  · rintro ⟨⟨v, i⟩, hv, hr⟩
    cases v with
    | text s => cases hr; exact ⟨s, i, hv, rfl⟩
    | _ => cases hr
  · rintro ⟨s, i, hv, rfl⟩
    exact ⟨(.text s, i), hv, rfl⟩

/-- The references that a value holds are its texts that are looked up. -/
theorem mem_refsIn_iff {v : Option Value} {field : String} {ref : Reference} :
    (∃ r ∈ scope.refsIn source f v, r.field = field ∧ r.ref = ref) ↔ f.name = field ∧
      ∃ s ∈ f.kind.textsIn v, ref = Reference.resolve scope.schema scope.workingSet source s := by
  unfold refsIn Schema.Kind.textsIn
  split
  · simp [eq_comm]
  · next items _ =>
    simp only [mem_itemRefs_iff, Graph.mem_textsOf_list]
    constructor
    · rintro ⟨_, ⟨s, i, hs, rfl⟩, hfield, rfl⟩
      exact ⟨hfield, s, List.fst_mem_of_mem_zipIdx hs, rfl⟩
    · rintro ⟨hfield, s, hs, rfl⟩
      rw [← List.zipIdx_map_fst 0 items] at hs
      obtain ⟨⟨_, i⟩, hi, rfl⟩ := List.mem_map.1 hs
      exact ⟨_, ⟨s, i, hi, rfl⟩, hfield, rfl⟩
  · simp

end

/-- The document has references in a field that a report looks up. -/
def LooksUp (scope : Scope) (d : Document) (field : String) : Prop :=
  d.hasSoundHeader = true ∧ ∃ t f, (scope.typeOf d).1 = some t ∧ f ∈ t.fields ∧ f.name = field ∧
    f.kind.textsIn (d.header.get? field) ≠ []

section
variable (scope : Scope) (d : Document)

/-- The references in a report on a document. -/
theorem refs_checkDocument : (scope.checkDocument d).refs =
    match (scope.typeOf d).1 with
    | some t => if d.hasSoundHeader then (scope.checkFields d.path d.header t.fields).refs else []
    | none => [] := by
  unfold checkDocument
  dsimp only [FileReport.ofFindings]
  cases (scope.typeOf d).1 with
  | none => rfl
  | some t =>
    change (scope.checkAs d t).refs = _
    unfold checkAs
    rw [Checked.refs_append]
    split
    · exact List.append_nil _
    · rfl

/-- **What a report finds in a document**: the references that the texts of the
    fields are that are looked up. -/
theorem mem_refs_checkDocument_iff {field : String} {ref : Reference} :
    (∃ r ∈ (scope.checkDocument d).refs, r.field = field ∧ r.ref = ref) ↔
      d.hasSoundHeader = true ∧ ∃ t f, (scope.typeOf d).1 = some t ∧ f ∈ t.fields ∧
        f.name = field ∧ ∃ s ∈ f.kind.textsIn (d.header.get? field),
          ref = Reference.resolve scope.schema scope.workingSet d.path s := by
  rw [refs_checkDocument]
  cases (scope.typeOf d).1 with
  | none => simp
  | some t =>
    dsimp only
    by_cases hd : d.hasSoundHeader = true
    · rw [if_pos hd]
      rw [refs_checkFields]
      constructor
      · rintro ⟨r, hr, hfield, href⟩
        obtain ⟨f, hf, hr⟩ := List.mem_flatMap.1 hr
        obtain ⟨rfl, hs⟩ := (mem_refsIn_iff scope d.path f).1 ⟨r, hr, hfield, href⟩
        exact ⟨hd, t, f, rfl, hf, rfl, hs⟩
      · rintro ⟨-, t', f, ht, hf, rfl, hs⟩
        cases ht
        obtain ⟨r, hr, hfield⟩ := (mem_refsIn_iff scope d.path f).2 ⟨rfl, hs⟩
        exact ⟨r, List.mem_flatMap.2 ⟨f, hf, hr⟩, hfield⟩
    · rw [if_neg hd]
      exact ⟨fun ⟨_, hr, _⟩ => absurd hr List.not_mem_nil, fun ⟨h, _⟩ => absurd h hd⟩

theorem mem_fields_iff_looksUp {field : String} :
    field ∈ (scope.checkDocument d).refs.map (·.field) ↔ scope.LooksUp d field := by
  rw [List.mem_map]
  constructor
  · rintro ⟨r, hr, hf⟩
    obtain ⟨hd, t, f, ht, hf, hn, s, hs, -⟩ :=
      (mem_refs_checkDocument_iff scope d).1 ⟨r, hr, hf, rfl⟩
    exact ⟨hd, t, f, ht, hf, hn, List.ne_nil_of_mem hs⟩
  · rintro ⟨hd, t, f, ht, hf, hn, hs⟩
    obtain ⟨s, hs⟩ := List.exists_mem_of_ne_nil _ hs
    obtain ⟨r, hr, hf, -⟩ :=
      (mem_refs_checkDocument_iff scope d).2 ⟨hd, t, f, ht, hf, hn, s, hs, rfl⟩
    exact ⟨r, hr, hf⟩

/-- **Where a report looks a field up at all, it finds what all its texts refer to.** -/
theorem exists_ref_iff_of_looksUp {field target : String} (h : scope.LooksUp d field) :
    (∃ r ∈ (scope.checkDocument d).refs, r.field = field ∧ r.ref.target? = some target) ↔
      ∃ s ∈ Graph.textsOf (d.header.get? field),
        (Reference.resolve scope.schema scope.workingSet d.path s).target? = some target := by
  constructor
  · rintro ⟨r, hr, hf, ht⟩
    obtain ⟨-, -, f, -, -, -, s, hs, he⟩ :=
      (mem_refs_checkDocument_iff scope d).1 ⟨r, hr, hf, rfl⟩
    refine ⟨s, ?_, he ▸ ht⟩
    rcases f.kind.textsIn_eq (d.header.get? field) with hn | ha
    · rw [hn] at hs; cases hs
    · rwa [← ha]
  · rintro ⟨s, hs, ht⟩
    obtain ⟨hd, t, f, hty, hf, hn, hne⟩ := h
    rw [← (f.kind.textsIn_eq (d.header.get? field)).resolve_left hne] at hs
    obtain ⟨r, hr, hf, he⟩ :=
      (mem_refs_checkDocument_iff scope d).2 ⟨hd, t, f, hty, hf, hn, s, hs, rfl⟩
    exact ⟨r, hr, hf, he ▸ ht⟩

end

end Scope

end Folio
