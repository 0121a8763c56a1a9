/-
  Folio — the types that nodes declare.

  The nodes inside of a type declare its fields and its sections, each in the order
  of the source (`DocType.Holds`).

  * `DocType.ofNode_eq_ok_iff`: what type a node makes.
-/
import Folio.Proofs.Schema.Sections

namespace Folio.Schema

open Node (withName withName_cons_of_eq withName_cons_of_ne)

namespace DocType

/-- The fields that the type declares itself. -/
def ownFields (t : DocType) : List Field := t.fields.filter (·.relation.isNone)

/-- The nodes, which stand in a type, declare the fields and the sections. -/
structure Holds (ns : List Node) (fields : List Field) (sections : List SectionRule) : Prop where
  nodes : ∀ n ∈ ns, n.name = "field" ∨ n.name = "section"
  fields : List.Forall₂ Field.DeclaredBy (withName "field" ns) fields
  sections : List.Forall₂ SectionRule.DeclaredBy (withName "section" ns) sections

/-- The node declares the type. -/
structure DeclaredBy (n : Node) (t : DocType) : Prop where
  name : n.args.head? = some (.text t.name)
  description : n.value "description" .null = .ofText? t.description
  folder : n.value "folder" .null = .ofText? t.folder
  maxCount : n.value "max_count" .null = .ofCount? t.maxCount
  inside : Holds n.children t.fields t.sections

/-- No two fields that the type declares have one name and no two of its sections,
    and all are sound. -/
structure Sound (t : DocType) : Prop where
  fieldNames : (t.ownFields.map (·.name)).Nodup
  fields : ∀ f ∈ t.fields, f.Sound
  sectionNames : (t.sections.map (·.name)).Nodup
  sections : ∀ s ∈ t.sections, s.Sound

section
variable {n : Node} {ns : List Node} {fs : List Field} {ss : List SectionRule}

theorem holds_nil_iff : Holds [] fs ss ↔ fs = [] ∧ ss = [] := by
  constructor
  · rintro ⟨-, hf, hs⟩
    exact ⟨List.forall₂_nil_left_iff.1 hf, List.forall₂_nil_left_iff.1 hs⟩
  · rintro ⟨rfl, rfl⟩
    exact ⟨by simp, .nil, .nil⟩

theorem holds_cons_iff : Holds (n :: ns) fs ss ↔
    (n.name = "field" ∧ ∃ f fs', f.DeclaredBy n ∧ Holds ns fs' ss ∧ fs = f :: fs') ∨
      (n.name = "section" ∧ ∃ s ss', s.DeclaredBy n ∧ Holds ns fs ss' ∧ ss = s :: ss') := by
  have hfield : n.name = "field" → n.name ≠ "section" := fun h => h ▸ by decide
  constructor
  · rintro ⟨hnodes, hf, hs⟩
    obtain ⟨hn, hnodes⟩ := List.forall_mem_cons.1 hnodes
    rcases hn with hn | hn
    · rw [withName_cons_of_eq hn] at hf
      rw [withName_cons_of_ne (hfield hn)] at hs
      obtain ⟨f, fs', hfn, hf', rfl⟩ := List.forall₂_cons_left_iff.1 hf
      exact .inl ⟨hn, f, fs', hfn, ⟨hnodes, hf', hs⟩, rfl⟩
    · rw [withName_cons_of_ne fun h => hfield h hn] at hf
      rw [withName_cons_of_eq hn] at hs
      obtain ⟨s, ss', hsn, hs', rfl⟩ := List.forall₂_cons_left_iff.1 hs
      exact .inr ⟨hn, s, ss', hsn, ⟨hnodes, hf, hs'⟩, rfl⟩
  · rintro (⟨hn, f, fs', hfn, ⟨hnodes, hf, hs⟩, rfl⟩ | ⟨hn, s, ss', hsn, ⟨hnodes, hf, hs⟩, rfl⟩)
    · refine ⟨List.forall_mem_cons.2 ⟨.inl hn, hnodes⟩, ?_, ?_⟩
      · rw [withName_cons_of_eq hn]
        exact .cons hfn hf
      · rwa [withName_cons_of_ne (hfield hn)]
    · refine ⟨List.forall_mem_cons.2 ⟨.inr hn, hnodes⟩, ?_, ?_⟩
      · rwa [withName_cons_of_ne fun h => hfield h hn]
      · rw [withName_cons_of_eq hn]
        exact .cons hsn hs

end

section
variable {n : Node} {ns : List Node} {t t' : DocType}

theorem isSome_field?_iff {name : String} :
    (t.field? name).isSome = true ↔ name ∈ t.fields.map (·.name) := by
  simp [field?, List.find?_isSome, List.mem_map]

/-- What a node adds to a type. -/
theorem add_eq_ok_iff : t.add n = .ok t' ↔
    (n.name = "field" ∧ ∃ f : Field, f.DeclaredBy n ∧ f.Sound ∧ f.name ∉ t.fields.map (·.name) ∧
      t' = { t with fields := t.fields ++ [f] }) ∨
    (n.name = "section" ∧ ∃ s : SectionRule, s.DeclaredBy n ∧ s.Sound ∧
      t' = { t with sections := t.sections ++ [s] }) := by
  unfold add
  split
  · next hn =>
    simp only [bind_eq_ok_iff, guard_eq_ok_iff, pure_eq_ok_iff, Field.ofNode_eq_ok_iff,
      isSome_field?_iff, hn, true_and, and_assoc, @eq_comm _ t',
      show "field" ≠ "section" by decide, false_and, or_false]
  · next hn =>
    simp only [bind_eq_ok_iff, pure_eq_ok_iff, SectionRule.ofNode_eq_ok_iff, hn, true_and,
      and_assoc, @eq_comm _ t', show "section" ≠ "field" by decide, false_and, false_or]
  · next hf hs =>
    constructor
    · rintro ⟨⟩
    · rintro (⟨hn, -⟩ | ⟨hn, -⟩)
      · exact absurd hn hf
      · exact absurd hn hs

/-- What nodes add to a type in which no two fields have one name. -/
theorem foldlM_add_eq_ok_iff (h : (t.fields.map (·.name)).Nodup) :
    ns.foldlM add t = .ok t' ↔ ∃ fs ss, Holds ns fs ss ∧
      ((t.fields ++ fs).map (·.name)).Nodup ∧ (∀ f ∈ fs, f.Sound) ∧ (∀ s ∈ ss, s.Sound) ∧
      t' = { t with fields := t.fields ++ fs, sections := t.sections ++ ss } := by
  induction ns generalizing t with
  | nil =>
    simp only [List.foldlM_nil, pure_eq_ok_iff, holds_nil_iff]
    constructor
    · rintro rfl
      exact ⟨[], [], ⟨rfl, rfl⟩, by simpa using h, by simp⟩
    · rintro ⟨_, _, ⟨rfl, rfl⟩, -, -, -, rfl⟩
      simp
  | cons n ns ih =>
    simp only [List.foldlM_cons, bind_eq_ok_iff, add_eq_ok_iff, holds_cons_iff]
    constructor
    · rintro ⟨_, ⟨hn, f, hf, hsound, hnew, rfl⟩ | ⟨hn, s, hs, hsound, rfl⟩, hrest⟩
      · have hnodup := nodup_map_append_singleton_iff.2 ⟨h, hnew⟩
        obtain ⟨fs, ss, hholds, hnames, hfs, hss, rfl⟩ := (ih hnodup).1 hrest
        exact ⟨f :: fs, ss, .inl ⟨hn, f, fs, hf, hholds, rfl⟩, List.append_cons .. ▸ hnames,
          List.forall_mem_cons.2 ⟨hsound, hfs⟩, hss, by simp⟩
      · obtain ⟨fs, ss, hholds, hnames, hfs, hss, rfl⟩ :=
          (ih (t := { t with sections := t.sections ++ [s] }) h).1 hrest
        exact ⟨fs, s :: ss, .inr ⟨hn, s, ss, hs, hholds, rfl⟩, hnames, hfs,
          List.forall_mem_cons.2 ⟨hsound, hss⟩, by simp⟩
    · rintro ⟨fs, ss, ⟨hn, f, fs, hf, hholds, rfl⟩ | ⟨hn, s, ss, hs, hholds, rfl⟩, hnames, hfs,
        hss, rfl⟩
      · rw [List.append_cons] at hnames
        have hnodup : ((t.fields ++ [f]).map (·.name)).Nodup := by
          rw [List.map_append] at hnames
          exact (List.nodup_append.1 hnames).1
        obtain ⟨hsound, hfs⟩ := List.forall_mem_cons.1 hfs
        exact ⟨_, .inl ⟨hn, f, hf, hsound, (nodup_map_append_singleton_iff.1 hnodup).2, rfl⟩,
          (ih hnodup).2 ⟨fs, _, hholds, hnames, hfs, hss, by simp⟩⟩
      · obtain ⟨hsound, hss⟩ := List.forall_mem_cons.1 hss
        exact ⟨_, .inr ⟨hn, s, hs, hsound, rfl⟩,
          (ih (t := { t with sections := t.sections ++ [s] }) h).2
            ⟨_, ss, hholds, hnames, hfs, hss, by simp⟩⟩

theorem DeclaredBy.relation_eq_none (h : t.DeclaredBy n) {f : Field} (hf : f ∈ t.fields) :
    f.relation = none := by
  obtain ⟨m, -, hm⟩ := exists_mem_of_forall₂ h.inside.fields hf
  exact hm.relation

/-- All fields are those that the type declares, before it gets those of relations. -/
theorem DeclaredBy.ownFields_eq (h : t.DeclaredBy n) : t.ownFields = t.fields :=
  List.filter_eq_self.2 fun f hf => by rw [h.relation_eq_none hf, Option.isNone_none]

/-- **What type a node makes.** -/
theorem ofNode_eq_ok_iff : DocType.ofNode n = .ok t ↔ t.DeclaredBy n ∧ t.Sound := by
  unfold ofNode
  simp only [bind_eq_ok_iff, pure_eq_ok_iff, Node.declared_eq_ok_iff, Node.text?_eq_ok_iff,
    Node.count?_eq_ok_iff, checkSiblings_eq_ok_iff]
  constructor
  · rintro ⟨name, hname, description, hdescription, folder, hfolder, maxCount, hmaxCount, _, hadd,
      -, hsections, rfl⟩
    obtain ⟨fs, ss, hholds, hnames, hfs, hss, rfl⟩ :=
      (foldlM_add_eq_ok_iff (t := { name, description, folder, maxCount }) List.nodup_nil).1 hadd
    have hdeclared : DeclaredBy n
        { name, description, folder, maxCount, fields := fs, sections := ss } :=
      ⟨hname, hdescription, hfolder, hmaxCount, hholds⟩
    exact ⟨hdeclared, hdeclared.ownFields_eq.symm ▸ hnames, hfs, hsections, hss⟩
  · rintro ⟨hdeclared, hsound⟩
    refine ⟨_, hdeclared.name, _, hdeclared.description, _, hdeclared.folder, _,
      hdeclared.maxCount, t, ?_, (), hsound.sectionNames, rfl⟩
    have hempty : (List.map (·.name) ([] : List Field)).Nodup := List.nodup_nil
    exact (foldlM_add_eq_ok_iff hempty).2 ⟨t.fields, t.sections, hdeclared.inside,
      hdeclared.ownFields_eq ▸ hsound.fieldNames, hsound.fields, hsound.sections, rfl⟩

end

end DocType

end Folio.Schema
