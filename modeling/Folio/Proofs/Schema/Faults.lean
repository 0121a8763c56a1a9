/-
  Folio — nodes that make no schema.

  Nodes are faulty if they repeat a name where names must differ, leave a choice
  without values, put a pattern on values that match none or give a column a kind
  that does not fit its cells (`Node.Faulty`).  What faulty nodes declare is not
  sound.

  * `Node.Faulty.not_sound`: faulty nodes declare nothing sound;
  * `Schema.ofSource_eq_ok_iff_sound`: which schema a source has, and that a source
    with faulty nodes has none.
-/
import Folio.Proofs.Schema.Sound

namespace Folio.Schema

/-- The text that a value is. -/
def Scalar.text? : Scalar → Option String
  | .text s => some s
  | _ => none

theorem Scalar.text?_ofText? (t : Option String) : (Scalar.ofText? t).text? = t := by
  cases t <;> rfl

namespace Node

/-! ## Faults -/

/-- The name of what the node declares. -/
def title? (n : Node) : Option String := n.args.head?.bind Scalar.text?

/-- The names of what nodes declare. -/
def titles (ns : List Node) : List String := ns.filterMap title?

/-- The names of the relation that the node declares, those that are not empty. -/
def relationNames (n : Node) : List String :=
  (n.title?.toList ++ (n.value "inverse" .null).text?.toList).filter (!·.isEmpty)

/-- The node puts a pattern on values that match none. -/
structure PointlessPattern (n : Node) : Prop where
  pattern : ∃ s, n.value "pattern" .null = .text s
  kind : ∃ k ∈ [Kind.number, .bool, .choice], n.IsOfKind k

/-- What is wrong with a field. -/
inductive FieldFault (n : Node) : Prop where
  | noValues (kind : n.IsOfKind .choice) (values : choicesOf n = [])
  | pattern (h : n.PointlessPattern)

/-- What is wrong with a column. -/
inductive ColumnFault (n : Node) : Prop where
  | kind (h : ∀ k ∈ [Kind.text, .number, .bool, .ref, .user], ¬n.IsOfKind k)
  | pattern (h : n.PointlessPattern)

/-- What is wrong with a table. -/
inductive TableFault (n : Node) : Prop where
  | sameColumn (h : ¬(titles n.children).Nodup)
  | column {c : Node} (mem : c ∈ n.children) (h : c.ColumnFault)

/-- What is wrong with a section, at any depth. -/
inductive SectionFault : Node → Prop where
  | sameSection {n} (h : ¬(titles (withName "section" n.children)).Nodup) : SectionFault n
  | table {n t : Node} (mem : t ∈ withName "table" n.children) (h : t.TableFault) : SectionFault n
  | inside {n c : Node} (mem : c ∈ withName "section" n.children) (h : SectionFault c) :
    SectionFault n

/-- What is wrong with a type. -/
inductive TypeFault (n : Node) : Prop where
  | sameField (h : ¬(titles (withName "field" n.children)).Nodup)
  | sameSection (h : ¬(titles (withName "section" n.children)).Nodup)
  | field {f : Node} (mem : f ∈ withName "field" n.children) (h : f.FieldFault)
  | inside {c : Node} (mem : c ∈ withName "section" n.children) (h : c.SectionFault)

/-- What is wrong with the nodes of a source. -/
inductive Faulty (ns : List Node) : Prop where
  | sameRelation (h : ¬((withName "relation" ns).flatMap relationNames).Nodup)
  | sameType (h : ¬(titles (withName "type" ns)).Nodup)
  | type {n : Node} (mem : n ∈ withName "type" ns) (h : n.TypeFault)

/-! ## What is declared where -/

section
variable {n : Node} {ns : List Node}

/-- Nodes have the names of what they declare. -/
theorem titles_eq_map {α : Type} {D : Node → α → Prop} {name : α → String} {xs : List α}
    (h : List.Forall₂ D ns xs) (hname : ∀ n x, D n x → n.args.head? = some (.text (name x))) :
    titles ns = xs.map name := by
  induction h with
  | nil => rfl
  | @cons n x ns xs hn _ ih =>
    have htitle : n.title? = some (name x) := by rw [title?, hname n x hn]; rfl
    rw [titles, List.filterMap_cons_some htitle, List.map_cons]
    exact congrArg _ ih

/-- What the nodes with a name declare, among what all declare. -/
theorem forall₂_withName {α β : Type} {P : Node → α → Prop} {D : Node → β → Prop}
    {part? : α → Option β} {name : String} {ps : List α} (h : List.Forall₂ P ns ps)
    (hpart : ∀ n p, P n p →
      (n.name = name ∧ ∃ b, part? p = some b ∧ D n b) ∨ (n.name ≠ name ∧ part? p = none)) :
    List.Forall₂ D (withName name ns) (ps.filterMap part?) := by
  induction h with
  | nil => exact .nil
  | @cons n p ns ps hn _ ih =>
    rcases hpart n p hn with ⟨hname, b, hb, hD⟩ | ⟨hname, hnone⟩
    · rw [withName_cons_of_eq hname, List.filterMap_cons_some hb]
      exact .cons hD ih
    · rw [withName_cons_of_ne hname, List.filterMap_cons_none hnone]
      exact ih

theorem children_of_declaredBy {s : SectionRule} (h : s.DeclaredBy n) :
    List.Forall₂ SectionRule.DeclaredBy (withName "section" n.children) s.children := by
  obtain ⟨-, -, -, hinside, hs⟩ := h
  rw [hs.children]
  refine forall₂_withName hinside fun n p hp => ?_
  cases hp with
  | child hn h => exact .inl ⟨hn, _, rfl, h⟩
  | table hn | content hn | list hn | diagram hn => exact .inr ⟨by rw [hn]; decide, rfl⟩

theorem tables_of_declaredBy {s : SectionRule} (h : s.DeclaredBy n) :
    List.Forall₂ TableRule.DeclaredBy (withName "table" n.children) s.tables := by
  obtain ⟨-, -, -, hinside, hs⟩ := h
  rw [hs.tables]
  refine forall₂_withName hinside fun n p hp => ?_
  cases hp with
  | table hn h => exact .inl ⟨hn, _, rfl, h⟩
  | child hn | content hn | list hn | diagram hn => exact .inr ⟨by rw [hn]; decide, rfl⟩

theorem SectionRule.DeclaredBy.name_eq {s : SectionRule} (h : s.DeclaredBy n) :
    n.args.head? = some (.text s.name) := by
  obtain ⟨hname, -⟩ := h
  exact hname

theorem relationNames_eq {r : Relation} (h : r.DeclaredBy n) :
    n.relationNames = countingNames [r] := by
  have htitle : n.title? = some r.name := by rw [title?, h.name]; rfl
  rw [relationNames, htitle, h.inverse, Scalar.text?_ofText?, countingNames, List.flatMap_singleton,
    Relation.fields]
  cases r.inverse with
  | none => simp
  | some inverse => by_cases hempty : inverse.isEmpty = true <;> simp [List.filter_cons, hempty]

theorem flatMap_relationNames_eq {rs : List Relation} (h : List.Forall₂ Relation.DeclaredBy ns rs) :
    ns.flatMap relationNames = countingNames rs := by
  induction h with
  | nil => rfl
  | @cons n r ns rs hn _ ih =>
    rw [List.flatMap_cons, ih, relationNames_eq hn, ← countingNames_append, List.singleton_append]

end

/-! ## Faulty nodes declare nothing sound -/

section
variable {n : Node} {ns : List Node}

theorem PointlessPattern.not_sound {pattern : Option Pattern} {k : Kind} (h : n.PointlessPattern)
    (hk : n.IsOfKind k) (hp : n.HasPattern pattern)
    (hsound : pattern ≠ none → k ≠ .number ∧ k ≠ .bool ∧ k ≠ .choice) : False := by
  obtain ⟨⟨s, hs⟩, l, hl, hkind⟩ := h
  obtain rfl := hkind.eq hk
  have hne : pattern ≠ none := by
    rintro rfl
    cases hs.symm.trans hp.1
  obtain ⟨hnumber, hbool, hchoice⟩ := hsound hne
  simp [hnumber, hbool, hchoice] at hl

theorem FieldFault.not_sound {f : Field} (h : n.FieldFault) (hf : f.DeclaredBy n) : ¬f.Sound := by
  intro hsound
  cases h with
  | noValues hkind hvalues =>
    have hk := hf.kind.eq hkind
    exact hsound.choices.2 hk (by rw [hf.choices, if_pos hk, hvalues])
  | pattern h => exact h.not_sound hf.kind hf.pattern hsound.pattern

theorem ColumnFault.not_sound {c : Column} (h : n.ColumnFault) (hc : c.DeclaredBy n) :
    ¬c.Sound := by
  intro hsound
  cases h with
  | kind h => exact h c.kind hsound.kind hc.kind
  | pattern h => exact h.not_sound hc.kind hc.pattern hsound.pattern

/-- Where the nodes declare things of different names, their own names differ. -/
theorem nodup_titles {α : Type} {D : Node → α → Prop} {name : α → String} {xs : List α}
    (h : List.Forall₂ D ns xs) (hname : ∀ n x, D n x → n.args.head? = some (.text (name x)))
    (hnodup : (xs.map name).Nodup) : (titles ns).Nodup :=
  titles_eq_map h hname ▸ hnodup

theorem TableFault.not_sound {t : TableRule} (h : n.TableFault) (ht : t.DeclaredBy n) :
    ¬t.Sound := by
  intro hsound
  cases h with
  | sameColumn h => exact h (nodup_titles ht.columns (fun _ _ hc => hc.name) hsound.names)
  | column hmem h =>
    obtain ⟨c, hc, hdeclared⟩ := exists_mem_of_forall₂_left ht.columns hmem
    exact h.not_sound hdeclared (hsound.columns c hc)

theorem SectionFault.not_sound (h : n.SectionFault) :
    ∀ s : SectionRule, s.DeclaredBy n → ¬s.Sound := by
  induction h with
  | sameSection h =>
    rintro s hs ⟨hnames, -, -⟩
    exact h (nodup_titles (children_of_declaredBy hs)
      (fun _ _ hc => SectionRule.DeclaredBy.name_eq hc) hnames)
  | table hmem h =>
    rintro s hs ⟨-, -, htables⟩
    obtain ⟨t, ht, hdeclared⟩ := exists_mem_of_forall₂_left (tables_of_declaredBy hs) hmem
    exact h.not_sound hdeclared (htables t ht)
  | inside hmem _ ih =>
    rintro s hs ⟨-, hchildren, -⟩
    obtain ⟨c, hc, hdeclared⟩ := exists_mem_of_forall₂_left (children_of_declaredBy hs) hmem
    exact ih c hdeclared (hchildren c hc)

theorem TypeFault.not_sound {t : DocType} (h : n.TypeFault) (ht : t.DeclaredBy n) : ¬t.Sound := by
  rintro ⟨hfieldNames, hfields, hsectionNames, hsections⟩
  cases h with
  | sameField h =>
    rw [ht.ownFields_eq] at hfieldNames
    exact h (nodup_titles ht.inside.fields (fun _ _ hf => hf.name) hfieldNames)
  | sameSection h =>
    exact h (nodup_titles ht.inside.sections
      (fun _ _ hs => SectionRule.DeclaredBy.name_eq hs) hsectionNames)
  | field hmem h =>
    obtain ⟨f, hf, hdeclared⟩ := exists_mem_of_forall₂_left ht.inside.fields hmem
    exact h.not_sound hdeclared (hfields f hf)
  | inside hmem h =>
    obtain ⟨s, hs, hdeclared⟩ := exists_mem_of_forall₂_left ht.inside.sections hmem
    exact h.not_sound s hdeclared (hsections s hs)

/-- **Faulty nodes declare nothing sound.** -/
theorem Faulty.not_sound {s : Schema} (h : Faulty ns) (hs : s.DeclaredBy ns) : ¬s.Sound := by
  obtain ⟨types, hholds, htypes⟩ := hs
  rintro ⟨hrelations, hnames, hsound⟩
  cases h with
  | sameRelation h => exact h (flatMap_relationNames_eq hholds.relations ▸ hrelations)
  | sameType h =>
    rw [htypes, List.map_map] at hnames
    exact h (nodup_titles hholds.types (fun _ _ ht => ht.name) hnames)
  | type hmem h =>
    obtain ⟨t, ht, hdeclared⟩ := exists_mem_of_forall₂_left hholds.types hmem
    have hmem : t.withRelations s.relations ∈ s.types := htypes ▸ List.mem_map_of_mem ht
    exact h.not_sound hdeclared ((DocType.sound_withRelations_iff hdeclared).1 (hsound _ hmem))

end

end Node

/-! ## Sources -/

/-- **Which schema a source has**: the one that its nodes declare, which is sound.  A
    source with faulty nodes has none. -/
theorem ofSource_eq_ok_iff_sound (source : String) :
    (∀ s : Schema, ofSource source = .ok s ↔
      ∃ nodes, Node.ofSource source = .ok nodes ∧ s.DeclaredBy nodes ∧ s.Sound) ∧
    ∀ nodes, Node.ofSource source = .ok nodes → Node.Faulty nodes →
      ∃ e, ofSource source = .error e := by
  have hiff : ∀ s : Schema, ofSource source = .ok s ↔
      ∃ nodes, Node.ofSource source = .ok nodes ∧ s.DeclaredBy nodes ∧ s.Sound := by
    intro s
    unfold ofSource
    simp only [bind_eq_ok_iff, ofNodes_eq_ok_iff]
  refine ⟨hiff, fun nodes hnodes hfaulty => ?_⟩
  cases hs : ofSource source with
  | error e => exact ⟨e, rfl⟩
  | ok s =>
    obtain ⟨nodes', hnodes', hdeclared, hsound⟩ := (hiff s).1 hs
    cases hnodes.symm.trans hnodes'
    exact absurd hsound (hfaulty.not_sound hdeclared)

/-- Two columns of one name, in a table of a section below another. -/
theorem ofSource_sameColumn_inside :
    ∃ e, ofSource
      "type T \x7bsection A \x7bsection B \x7btable \x7bcolumn c; column c\x7d\x7d\x7d\x7d" =
      .error e := by
  have hnodes : Node.ofSource
      "type T \x7bsection A \x7bsection B \x7btable \x7bcolumn c; column c\x7d\x7d\x7d\x7d" =
      .ok [⟨"type", 1, [.text "T"], [], [⟨"section", 1, [.text "A"], [], [⟨"section", 1,
        [.text "B"], [], [⟨"table", 1, [], [], [⟨"column", 1, [.text "c"], [], []⟩,
          ⟨"column", 1, [.text "c"], [], []⟩]⟩]⟩]⟩]⟩] := by decide +kernel
  refine (ofSource_eq_ok_iff_sound _).2 _ hnodes (.type (List.mem_singleton.2 rfl)
    (.inside (List.mem_singleton.2 rfl) (.inside (List.mem_singleton.2 rfl)
      (.table (List.mem_singleton.2 rfl) (.sameColumn ?_)))))
  decide

end Folio.Schema
