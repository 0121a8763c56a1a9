/-
  Folio — the names of relations.

  A schema refuses a relation with a name that another has, read forwards or
  backwards; only the empty name does not count.  So a name tells a relation.

  * `nodup_countingNames_of_ofNodes`: no name counts twice in a schema;
  * `Relation.eq_of_name_eq`: relations of one name are one;
  * `relation?_eq_some_iff_of_once`: which relation a name tells, and how it is read.
-/
import Mathlib
import Folio.Proofs.Outcome
import Folio.Schema.Compile

namespace Folio.Schema

/-- What each step keeps holds in the end. -/
theorem of_foldlM_eq_ok {α β ε : Type} {f : β → α → Except ε β} {P : β → Prop}
    (hf : ∀ b a b', P b → f b a = .ok b' → P b') {as : List α} {b b' : β} (hb : P b)
    (h : as.foldlM f b = .ok b') : P b' := by
  induction as generalizing b with
  | nil => cases h; exact hb
  | cons a as ih =>
    obtain ⟨c, hfa, h⟩ := bind_eq_ok_iff.1 (List.foldlM_cons.symm.trans h)
    exact ih (hf b a c hb hfa) h

theorem repeated?_eq_none_iff {taken names : List String} :
    repeated? taken names = none ↔ names.Nodup ∧ ∀ name ∈ names, name ∉ taken := by
  induction names generalizing taken with
  | nil => simp [repeated?]
  | cons name names ih =>
    by_cases h : name ∈ taken
    · simp [repeated?, h]
    · simp only [repeated?, List.contains_iff_mem, h, if_false, ih, List.nodup_cons,
        List.mem_cons, forall_eq_or_imp, not_or, not_false_iff, true_and]
      constructor
      · rintro ⟨hn, hm⟩
        exact ⟨⟨fun hname => (hm name hname).1 rfl, hn⟩, fun x hx => (hm x hx).2⟩
      · rintro ⟨⟨hname, hn⟩, hm⟩
        exact ⟨hn, fun x hx => ⟨fun e => hname (e ▸ hx), hm x hx⟩⟩

theorem countingNames_append (rs rs' : List Relation) :
    countingNames (rs ++ rs') = countingNames rs ++ countingNames rs' := by
  simp [countingNames]

theorem nodup_countingNames_addRelation {s s' : Schema} {line : Nat} {r : Relation}
    (h : (countingNames s.relations).Nodup) (hs : s.addRelation line r = .ok s') :
    (countingNames s'.relations).Nodup := by
  unfold addRelation at hs
  split at hs
  · cases hs
  · next hnone =>
    cases hs
    obtain ⟨hr, hnew⟩ := repeated?_eq_none_iff.1 hnone
    rw [countingNames_append]
    exact List.nodup_append.2 ⟨h, hr, fun a ha b hb e => hnew b hb (e ▸ ha)⟩

/-- A node adds a relation or leaves the relations as they are. -/
theorem add_cases {s s' : Schema} {n : Node} (h : s.add n = .ok s') :
    (∃ r, s.addRelation n.line r = .ok s') ∨ s'.relations = s.relations := by
  unfold add at h
  split at h
  · obtain ⟨r, -, h⟩ := bind_eq_ok_iff.1 h
    exact Or.inl ⟨r, h⟩
  · obtain ⟨t, -, h⟩ := bind_eq_ok_iff.1 h
    split at h
    · cases h
    · cases h
      exact Or.inr rfl
  · obtain ⟨rules, -, h⟩ := bind_eq_ok_iff.1 h
    cases h
    exact Or.inr rfl
  · cases h

/-- **No name counts twice in a schema.** -/
theorem nodup_countingNames_of_ofNodes {nodes : List Node} {schema : Schema}
    (h : ofNodes nodes = .ok schema) : (countingNames schema.relations).Nodup := by
  unfold ofNodes at h
  obtain ⟨s, hs, h⟩ := bind_eq_ok_iff.1 h
  cases h
  have hempty : (countingNames ({} : Schema).relations).Nodup := List.nodup_nil
  refine of_foldlM_eq_ok (P := fun s => (countingNames s.relations).Nodup) ?_ hempty hs
  intro s n s' hnodup hadd
  rcases add_cases hadd with ⟨r, hr⟩ | hsame
  · exact nodup_countingNames_addRelation hnodup hr
  · rwa [hsame]

/-- Where all names are apart, a name is one thing's. -/
theorem eq_of_nodup_flatMap {α β : Type} {names : α → List β} {as : List α}
    (h : (as.flatMap names).Nodup) {a b : α} (ha : a ∈ as) (hb : b ∈ as) {name : β}
    (hname : name ∈ names a) (hname' : name ∈ names b) : a = b := by
  have : Std.Symm (Function.onFun List.Disjoint names) := ⟨fun _ _ h => h.symm⟩
  by_contra hne
  exact (List.nodup_flatMap.1 h).2.forall ha hb hne hname hname'

/-- **Relations of one name are one**, if the name is not empty. -/
theorem Relation.eq_of_name_eq {nodes : List Node} {schema : Schema}
    (h : ofNodes nodes = .ok schema) {r r' : Relation} (hr : r ∈ schema.relations)
    (hr' : r' ∈ schema.relations) (hname : r'.name = r.name) (hne : r.name ≠ "") : r' = r := by
  have hnames := nodup_countingNames_of_ofNodes h
  have hflat : countingNames schema.relations =
      schema.relations.flatMap fun r => countingNames [r] := by
    simp [countingNames, List.filter_flatMap]
  have hmem : ∀ r : Relation, r.name ≠ "" → r.name ∈ countingNames [r] := by
    intro r hne
    simp [countingNames, fields, hne]
  rw [hflat] at hnames
  exact eq_of_nodup_flatMap hnames hr' hr (hmem r' (hname ▸ hne)) (hname ▸ hmem r hne)

/-! ## Which relation a name tells -/

/-- A relation is read by a field: forwards by its own name, and backwards by that of its
    inverse. -/
inductive Relation.ReadBy (r : Relation) : String → Bool → Prop
  | forwards : ReadBy r r.name false
  | backwards {name : String} (h : r.inverse = some name) : ReadBy r name true

/-- The names that relations are read forwards by, and those that are given for reading
    them backwards. -/
def givenNames (s : Schema) : List String := s.relations.flatMap fun r => r.name :: r.inverse.toList

section
variable {s : Schema} {field : String} {r : Relation} {b : Bool}

theorem Relation.ReadBy.mem (h : r.ReadBy field b) : field ∈ r.name :: r.inverse.toList := by
  cases h with
  | forwards => exact List.mem_cons_self
  | backwards h => simp [h]

/-- A relation that a field belongs to is read by it. -/
theorem mem_of_relation? (h : s.relation? field = some (r, b)) :
    r ∈ s.relations ∧ r.ReadBy field b := by
  obtain ⟨q, hq, hfound⟩ := List.exists_of_findSome?_eq_some h
  split at hfound
  · next hname => cases hfound; exact ⟨hq, hname ▸ .forwards⟩
  · split at hfound
    · next hinverse => cases hfound; exact ⟨hq, .backwards hinverse⟩
    · cases hfound

theorem isSome_relation? (hr : r ∈ s.relations) (h : r.ReadBy field b) :
    (s.relation? field).isSome = true := by
  rw [relation?, List.findSome?_isSome_iff]
  refine ⟨r, hr, ?_⟩
  cases h with
  | forwards => simp
  | backwards h => by_cases hname : r.name = field <;> simp [h, hname]

/-- **Where a name is given once, it tells the relation** and the way in which it is
    read. -/
theorem relation?_eq_some_iff_of_once (honce : (s.givenNames.filter (· == field)).Nodup) :
    s.relation? field = some (r, b) ↔ r ∈ s.relations ∧ r.ReadBy field b := by
  constructor
  · exact mem_of_relation?
  · rintro ⟨hr, hread⟩
    obtain ⟨⟨q, c⟩, hq⟩ := Option.isSome_iff_exists.1 (isSome_relation? hr hread)
    obtain ⟨hqmem, hqread⟩ := mem_of_relation? hq
    have hmem : ∀ {p : Relation} {d : Bool}, p.ReadBy field d →
        field ∈ (p.name :: p.inverse.toList).filter (· == field) :=
      fun h => List.mem_filter.2 ⟨h.mem, beq_self_eq_true field⟩
    rw [givenNames, List.filter_flatMap] at honce
    obtain rfl := eq_of_nodup_flatMap honce hr hqmem (hmem hread) (hmem hqread)
    -- the name and that of the inverse cannot both be this one
    have hown := (List.nodup_flatMap.1 honce).1 r hr
    have hdiff : ¬(r.name = field ∧ r.inverse = some field) := by
      rintro ⟨hname, hinverse⟩
      simp [hname, hinverse] at hown
    cases hread with
    | forwards =>
      cases hqread with
      | forwards => exact hq
      | backwards h => exact absurd ⟨rfl, h⟩ hdiff
    | backwards h =>
      cases hqread with
      | forwards => exact absurd ⟨rfl, h⟩ hdiff
      | backwards _ => exact hq

end

end Folio.Schema
