/-
  Folio — the schema that nodes declare.

  The nodes of a source declare relations, types and forms of references, each in
  the order of the source (`Schema.DeclaredBy`).  They make a schema exactly if what
  they declare is sound (`Schema.Sound`).

  * `Schema.ofNodes_eq_ok_iff`: what schema nodes make.
-/
import Folio.Proofs.Schema.Types

namespace Folio

namespace Schema

open Node (withName withName_cons_of_eq withName_cons_of_ne)

/-! ## Types with the fields of relations -/

theorem relation_of_mem_fieldsOfRelations {relations : List Relation} {f : Field}
    (hf : f ∈ fieldsOfRelations relations) : f.relation ≠ none ∧ f.Sound := by
  obtain ⟨r, -, hf⟩ := List.mem_flatMap.1 hf
  obtain ⟨⟨name, inverse⟩, -, rfl⟩ := List.mem_map.1 hf
  have hkind : r.kind ≠ .choice := by
    unfold Relation.kind
    split <;> decide
  exact ⟨Option.some_ne_none _, by simpa using hkind, by simp⟩

namespace DocType

variable {n : Node} {t : DocType}

theorem ownFields_withRelations (h : t.DeclaredBy n) (relations : List Relation) :
    (t.withRelations relations).ownFields = t.fields := by
  have hnone : List.filter (·.relation.isNone)
      ((fieldsOfRelations relations).filter fun f => (t.field? f.name).isNone) = [] := by
    refine List.filter_eq_nil_iff.2 fun f hf => ?_
    rw [Option.isNone_iff_eq_none]
    exact (relation_of_mem_fieldsOfRelations (List.mem_filter.1 hf).1).1
  have hown : List.filter (·.relation.isNone) t.fields = t.fields := h.ownFields_eq
  rw [ownFields, withRelations, List.filter_append, hnone, hown, List.append_nil]

/-- The fields of relations make no difference to whether a type is sound. -/
theorem sound_withRelations_iff (h : t.DeclaredBy n) {relations : List Relation} :
    (t.withRelations relations).Sound ↔ t.Sound := by
  have hown := ownFields_withRelations h relations
  have hfields : (∀ f ∈ (t.withRelations relations).fields, f.Sound) ↔ ∀ f ∈ t.fields, f.Sound := by
    simp only [withRelations, List.forall_mem_append]
    refine and_iff_left fun f hf => ?_
    exact (relation_of_mem_fieldsOfRelations (List.mem_filter.1 hf).1).2
  constructor
  · rintro ⟨hnames, hf, hs, hsound⟩
    rw [hown] at hnames
    exact ⟨h.ownFields_eq.symm ▸ hnames, hfields.1 hf, hs, hsound⟩
  · rintro ⟨hnames, hf, hs, hsound⟩
    rw [h.ownFields_eq] at hnames
    exact ⟨hown.symm ▸ hnames, hfields.2 hf, hs, hsound⟩

end DocType

/-! ## What nodes declare -/

/-- The nodes declare the relations, the types and the forms of references. -/
structure Holds (ns : List Node) (relations : List Relation) (types : List DocType)
    (rules : List RefRule) : Prop where
  nodes : ∀ n ∈ ns, n.name = "relation" ∨ n.name = "type" ∨ n.name = "ref-format"
  relations : List.Forall₂ Relation.DeclaredBy (withName "relation" ns) relations
  types : List.Forall₂ DocType.DeclaredBy (withName "type" ns) types
  rules : List.Forall₂ RefRule.DeclaredBy ((withName "ref-format" ns).flatMap (·.children)) rules

/-- The nodes declare the schema, in which types have the fields of relations
    too. -/
def DeclaredBy (ns : List Node) (s : Schema) : Prop :=
  ∃ types, Holds ns s.relations types s.rules ∧ s.types = types.map (·.withRelations s.relations)

/-- No two relations and no two types have one name, and all types are sound.  An
    empty name of a relation does not count. -/
structure Sound (s : Schema) : Prop where
  relationNames : (countingNames s.relations).Nodup
  typeNames : (s.types.map (·.name)).Nodup
  types : ∀ t ∈ s.types, t.Sound

section
variable {n : Node} {ns : List Node} {rs : List Relation} {ts : List DocType} {ps : List RefRule}

theorem holds_nil_iff : Holds [] rs ts ps ↔ rs = [] ∧ ts = [] ∧ ps = [] := by
  constructor
  · rintro ⟨-, hr, ht, hp⟩
    exact ⟨List.forall₂_nil_left_iff.1 hr, List.forall₂_nil_left_iff.1 ht,
      List.forall₂_nil_left_iff.1 hp⟩
  · rintro ⟨rfl, rfl, rfl⟩
    exact ⟨by simp, .nil, .nil, .nil⟩

/-- Related lists in two parts, by the first. -/
theorem forall₂_append_left_iff {α β : Type} {R : α → β → Prop} {as as' : List α} {bs : List β} :
    List.Forall₂ R (as ++ as') bs ↔
      ∃ b b', List.Forall₂ R as b ∧ List.Forall₂ R as' b' ∧ bs = b ++ b' := by
  induction as generalizing bs with
  | nil => simp
  | cons a as ih =>
    simp only [List.cons_append, List.forall₂_cons_left_iff, ih]
    constructor
    · rintro ⟨c, _, hac, ⟨b, b', hb, hb', rfl⟩, rfl⟩
      exact ⟨c :: b, b', ⟨c, b, hac, hb, rfl⟩, hb', rfl⟩
    · rintro ⟨_, b', ⟨c, b, hac, hb, rfl⟩, hb', rfl⟩
      exact ⟨c, _, hac, ⟨b, b', hb, hb', rfl⟩, rfl⟩

theorem holds_cons_iff : Holds (n :: ns) rs ts ps ↔
    (n.name = "relation" ∧ ∃ r rs', r.DeclaredBy n ∧ Holds ns rs' ts ps ∧ rs = r :: rs') ∨
    (n.name = "type" ∧ ∃ t ts', t.DeclaredBy n ∧ Holds ns rs ts' ps ∧ ts = t :: ts') ∨
    (n.name = "ref-format" ∧ ∃ p ps', List.Forall₂ RefRule.DeclaredBy n.children p ∧
      Holds ns rs ts ps' ∧ ps = p ++ ps') := by
  constructor
  · rintro ⟨hnodes, hr, ht, hp⟩
    obtain ⟨hn, hnodes⟩ := List.forall_mem_cons.1 hnodes
    rcases hn with hn | hn | hn
    · have hne : n.name ≠ "type" ∧ n.name ≠ "ref-format" := by rw [hn]; decide
      rw [withName_cons_of_eq hn] at hr
      rw [withName_cons_of_ne hne.1] at ht
      rw [withName_cons_of_ne hne.2] at hp
      obtain ⟨r, rs', hrn, hr', rfl⟩ := List.forall₂_cons_left_iff.1 hr
      exact .inl ⟨hn, r, rs', hrn, ⟨hnodes, hr', ht, hp⟩, rfl⟩
    · have hne : n.name ≠ "relation" ∧ n.name ≠ "ref-format" := by rw [hn]; decide
      rw [withName_cons_of_ne hne.1] at hr
      rw [withName_cons_of_eq hn] at ht
      rw [withName_cons_of_ne hne.2] at hp
      obtain ⟨t, ts', htn, ht', rfl⟩ := List.forall₂_cons_left_iff.1 ht
      exact .inr (.inl ⟨hn, t, ts', htn, ⟨hnodes, hr, ht', hp⟩, rfl⟩)
    · have hne : n.name ≠ "relation" ∧ n.name ≠ "type" := by rw [hn]; decide
      rw [withName_cons_of_ne hne.1] at hr
      rw [withName_cons_of_ne hne.2] at ht
      rw [withName_cons_of_eq hn, List.flatMap_cons] at hp
      obtain ⟨p, ps', hpn, hp', rfl⟩ := forall₂_append_left_iff.1 hp
      exact .inr (.inr ⟨hn, p, ps', hpn, ⟨hnodes, hr, ht, hp'⟩, rfl⟩)
  · rintro (⟨hn, r, rs', hrn, ⟨hnodes, hr, ht, hp⟩, rfl⟩ |
      ⟨hn, t, ts', htn, ⟨hnodes, hr, ht, hp⟩, rfl⟩ | ⟨hn, p, ps', hpn, ⟨hnodes, hr, ht, hp⟩, rfl⟩)
    · have hne : n.name ≠ "type" ∧ n.name ≠ "ref-format" := by rw [hn]; decide
      refine ⟨List.forall_mem_cons.2 ⟨.inl hn, hnodes⟩, ?_, ?_, ?_⟩
      · rw [withName_cons_of_eq hn]
        exact .cons hrn hr
      · rwa [withName_cons_of_ne hne.1]
      · rwa [withName_cons_of_ne hne.2]
    · have hne : n.name ≠ "relation" ∧ n.name ≠ "ref-format" := by rw [hn]; decide
      refine ⟨List.forall_mem_cons.2 ⟨.inr (.inl hn), hnodes⟩, ?_, ?_, ?_⟩
      · rwa [withName_cons_of_ne hne.1]
      · rw [withName_cons_of_eq hn]
        exact .cons htn ht
      · rwa [withName_cons_of_ne hne.2]
    · have hne : n.name ≠ "relation" ∧ n.name ≠ "type" := by rw [hn]; decide
      refine ⟨List.forall_mem_cons.2 ⟨.inr (.inr hn), hnodes⟩, ?_, ?_, ?_⟩
      · rwa [withName_cons_of_ne hne.1]
      · rwa [withName_cons_of_ne hne.2]
      · rw [withName_cons_of_eq hn, List.flatMap_cons]
        exact forall₂_append_left_iff.2 ⟨p, ps', hpn, hp, rfl⟩

end

/-! ## What nodes make -/

section
variable {n : Node} {ns : List Node} {s s' : Schema}

/-- A relation can be added if its names are new. -/
theorem addRelation_eq_ok_iff {line : Nat} {r : Relation} (h : (countingNames s.relations).Nodup) :
    s.addRelation line r = .ok s' ↔ (countingNames (s.relations ++ [r])).Nodup ∧
      s' = { s with relations := s.relations ++ [r] } := by
  have hnone : repeated? (countingNames s.relations) (countingNames [r]) = none ↔
      (countingNames (s.relations ++ [r])).Nodup := by
    rw [repeated?_eq_none_iff, countingNames_append, List.nodup_append]
    constructor
    · rintro ⟨hr, hnew⟩
      exact ⟨h, hr, fun a ha b hb e => hnew b hb (e ▸ ha)⟩
    · rintro ⟨-, hr, hdisjoint⟩
      exact ⟨hr, fun name hname hold => hdisjoint name hold name hname rfl⟩
  rw [← hnone]
  unfold addRelation
  split
  · next name hname => simp [hname]
  · next hname => simp [hname, eq_comm]

theorem isSome_type?_iff {name : String} :
    (s.type? name).isSome = true ↔ name ∈ s.types.map (·.name) := by
  simp [type?, List.find?_isSome, List.mem_map]

/-- What a node adds to a schema in which no two relations have one name. -/
theorem add_eq_ok_iff (h : (countingNames s.relations).Nodup) : s.add n = .ok s' ↔
    (n.name = "relation" ∧ ∃ r : Relation, r.DeclaredBy n ∧
      (countingNames (s.relations ++ [r])).Nodup ∧
      s' = { s with relations := s.relations ++ [r] }) ∨
    (n.name = "type" ∧ ∃ t : DocType, t.DeclaredBy n ∧ t.Sound ∧
      t.name ∉ s.types.map (·.name) ∧ s' = { s with types := s.types ++ [t] }) ∨
    (n.name = "ref-format" ∧ ∃ rules, List.Forall₂ RefRule.DeclaredBy n.children rules ∧
      s' = { s with rules := s.rules ++ rules }) := by
  unfold add
  split
  · next hn =>
    simp only [bind_eq_ok_iff, Relation.ofNode_eq_ok_iff, addRelation_eq_ok_iff h, hn, true_and,
      show "relation" ≠ "type" by decide, show "relation" ≠ "ref-format" by decide, false_and,
      or_false]
  · next hn =>
    simp only [bind_eq_ok_iff, guard_eq_ok_iff, pure_eq_ok_iff, DocType.ofNode_eq_ok_iff,
      isSome_type?_iff, hn, true_and, and_assoc, @eq_comm _ s',
      show "type" ≠ "relation" by decide, show "type" ≠ "ref-format" by decide, false_and,
      or_false, false_or]
  · next hn =>
    simp only [bind_eq_ok_iff, pure_eq_ok_iff, mapM_eq_ok_iff, RefRule.ofNode_eq_ok_iff, hn,
      true_and, @eq_comm _ s', show "ref-format" ≠ "relation" by decide,
      show "ref-format" ≠ "type" by decide, false_and, false_or]
  · next hr ht hp =>
    constructor
    · rintro ⟨⟩
    · rintro (⟨hn, -⟩ | ⟨hn, -⟩ | ⟨hn, -⟩)
      · exact absurd hn hr
      · exact absurd hn ht
      · exact absurd hn hp

/-- What nodes add to a schema in which no two relations and no two types have one
    name. -/
theorem foldlM_add_eq_ok_iff (hr : (countingNames s.relations).Nodup)
    (ht : (s.types.map (·.name)).Nodup) :
    ns.foldlM add s = .ok s' ↔ ∃ rs ts ps, Holds ns rs ts ps ∧
      (countingNames (s.relations ++ rs)).Nodup ∧ ((s.types ++ ts).map (·.name)).Nodup ∧
      (∀ t ∈ ts, t.Sound) ∧ s' = ⟨s.types ++ ts, s.relations ++ rs, s.rules ++ ps⟩ := by
  induction ns generalizing s with
  | nil =>
    simp only [List.foldlM_nil, pure_eq_ok_iff, holds_nil_iff]
    constructor
    · rintro rfl
      exact ⟨[], [], [], ⟨rfl, rfl, rfl⟩, by simpa using hr, by simpa using ht, by simp⟩
    · rintro ⟨_, _, _, ⟨rfl, rfl, rfl⟩, -, -, -, rfl⟩
      simp
  | cons n ns ih =>
    simp only [List.foldlM_cons, bind_eq_ok_iff, add_eq_ok_iff hr, holds_cons_iff]
    constructor
    · rintro ⟨_, ⟨hn, r, hrn, hnames, rfl⟩ | ⟨hn, t, htn, hsound, hnew, rfl⟩ |
        ⟨hn, p, hpn, rfl⟩, hrest⟩
      · obtain ⟨rs, ts, ps, hholds, hrs, hts, hsound, rfl⟩ :=
          (ih (s := { s with relations := s.relations ++ [r] }) hnames ht).1 hrest
        exact ⟨r :: rs, ts, ps, .inl ⟨hn, r, rs, hrn, hholds, rfl⟩, List.append_cons .. ▸ hrs, hts,
          hsound, by simp⟩
      · have hnames := nodup_map_append_singleton_iff.2 ⟨ht, hnew⟩
        obtain ⟨rs, ts, ps, hholds, hrs, hts, hsounds, rfl⟩ :=
          (ih (s := { s with types := s.types ++ [t] }) hr hnames).1 hrest
        exact ⟨rs, t :: ts, ps, .inr (.inl ⟨hn, t, ts, htn, hholds, rfl⟩), hrs,
          List.append_cons .. ▸ hts, List.forall_mem_cons.2 ⟨hsound, hsounds⟩, by simp⟩
      · obtain ⟨rs, ts, ps, hholds, hrs, hts, hsounds, rfl⟩ :=
          (ih (s := { s with rules := s.rules ++ p }) hr ht).1 hrest
        exact ⟨rs, ts, p ++ ps, .inr (.inr ⟨hn, p, ps, hpn, hholds, rfl⟩), hrs, hts, hsounds,
          by simp⟩
    · rintro ⟨rs, ts, ps, ⟨hn, r, rs, hrn, hholds, rfl⟩ | ⟨hn, t, ts, htn, hholds, rfl⟩ |
        ⟨hn, p, ps, hpn, hholds, rfl⟩, hrs, hts, hsounds, rfl⟩
      · rw [List.append_cons] at hrs
        have hnames : (countingNames (s.relations ++ [r])).Nodup := by
          rw [countingNames_append] at hrs
          exact (List.nodup_append.1 hrs).1
        exact ⟨_, .inl ⟨hn, r, hrn, hnames, rfl⟩,
          (ih (s := { s with relations := s.relations ++ [r] }) hnames ht).2
            ⟨rs, _, _, hholds, hrs, hts, hsounds, by simp⟩⟩
      · rw [List.append_cons] at hts
        have hnames : ((s.types ++ [t]).map (·.name)).Nodup := by
          rw [List.map_append] at hts
          exact (List.nodup_append.1 hts).1
        obtain ⟨hsound, hsounds⟩ := List.forall_mem_cons.1 hsounds
        exact ⟨_, .inr (.inl ⟨hn, t, htn, hsound, (nodup_map_append_singleton_iff.1 hnames).2,
          rfl⟩), (ih (s := { s with types := s.types ++ [t] }) hr hnames).2
            ⟨_, ts, _, hholds, hrs, hts, hsounds, by simp⟩⟩
      · exact ⟨_, .inr (.inr ⟨hn, p, hpn, rfl⟩),
          (ih (s := { s with rules := s.rules ++ p }) hr ht).2
            ⟨_, _, ps, hholds, hrs, hts, hsounds, by simp⟩⟩

/-- **What schema nodes make.** -/
theorem ofNodes_eq_ok_iff : ofNodes ns = .ok s ↔ s.DeclaredBy ns ∧ s.Sound := by
  have hempty : (countingNames ({} : Schema).relations).Nodup := List.nodup_nil
  have hnone : (List.map (·.name) ({} : Schema).types).Nodup := List.nodup_nil
  unfold ofNodes
  simp only [bind_eq_ok_iff, pure_eq_ok_iff, foldlM_add_eq_ok_iff hempty hnone, List.nil_append]
  constructor
  · rintro ⟨_, ⟨rs, ts, ps, hholds, hrs, hts, hsounds, rfl⟩, rfl⟩
    refine ⟨⟨ts, hholds, rfl⟩, hrs, ?_, fun t ht => ?_⟩
    · rwa [List.map_map]
    · obtain ⟨own, hown, rfl⟩ := List.mem_map.1 ht
      obtain ⟨n, -, hn⟩ := exists_mem_of_forall₂ hholds.types hown
      exact (DocType.sound_withRelations_iff hn).2 (hsounds own hown)
  · obtain ⟨types, relations, rules⟩ := s
    rintro ⟨⟨ts, hholds, htypes⟩, hrs, hts, hsounds⟩
    dsimp only at hholds htypes hrs hts hsounds
    subst htypes
    refine ⟨_, ⟨relations, ts, rules, hholds, hrs, ?_, fun t ht => ?_, rfl⟩, rfl⟩
    · rwa [List.map_map] at hts
    · obtain ⟨n, -, hn⟩ := exists_mem_of_forall₂ hholds.types ht
      exact (DocType.sound_withRelations_iff hn).1 (hsounds _ (List.mem_map_of_mem ht))

end

end Schema

end Folio
