/-
  Folio — the sections that nodes declare.

  Each node inside of a section declares a part of it: a section below, a table, or
  what it asks of its content.  The section collects the parts in the order of the
  nodes; of what it asks the latest counts (`SectionRule.Collects`).

  * `SectionRule.addParts_eq_ok_iff`: what the nodes inside of a section make;
  * `SectionRule.ofNode_eq_ok_iff`: what section a node makes.
-/
import Folio.Proofs.Schema.Declared
import Folio.Proofs.Schema.Relations

namespace Folio.Schema

/-! ## What a section asks for -/

/-- The node declares what a section asks of its paragraphs. -/
structure ContentRule.DeclaredBy (n : Node) (r : ContentRule) : Prop where
  minParagraphs : n.value "min-paragraphs" .null = .ofCount? r.minParagraphs

/-- The node declares what a section asks of its lists. -/
structure ListRule.DeclaredBy (n : Node) (r : ListRule) : Prop where
  required : n.value "required" (.bool true) = .bool r.required
  minItems : n.value "min-items" .null = .ofCount? r.minItems

/-- The node declares what a section asks of its diagrams. -/
structure DiagramRule.DeclaredBy (n : Node) (r : DiagramRule) : Prop where
  required : n.value "required" (.bool true) = .bool r.required
  language : n.value "type" .null = .ofText? r.language

/-! ## Parts of a section -/

/-- A part of a section. -/
inductive SectionPart where
  | child (s : SectionRule)
  | table (t : TableRule)
  | content (r : ContentRule)
  | list (r : ListRule)
  | diagram (r : DiagramRule)

namespace SectionPart

def child? : SectionPart → Option SectionRule
  | child s => some s
  | _ => none

def table? : SectionPart → Option TableRule
  | table t => some t
  | _ => none

def content? : SectionPart → Option ContentRule
  | content r => some r
  | _ => none

def list? : SectionPart → Option ListRule
  | list r => some r
  | _ => none

def diagram? : SectionPart → Option DiagramRule
  | diagram r => some r
  | _ => none

end SectionPart

namespace SectionRule

/-- The section has these parts: of what it asks of its content the latest
    counts. -/
structure Collects (s : SectionRule) (parts : List SectionPart) : Prop where
  children : s.children = parts.filterMap SectionPart.child?
  tables : s.tables = parts.filterMap SectionPart.table?
  content : s.content = (parts.filterMap SectionPart.content?).getLast?
  list : s.list = (parts.filterMap SectionPart.list?).getLast?
  diagram : s.diagram = (parts.filterMap SectionPart.diagram?).getLast?

end SectionRule

mutual

/-- The node declares the section. -/
inductive SectionRule.DeclaredBy : Node → SectionRule → Prop where
  | mk {n : Node} {s : SectionRule} {parts : List SectionPart}
    (name : n.args.head? = some (.text s.name))
    (required : n.value "required" (.bool false) = .bool s.required)
    (description : n.value "description" .null = .ofText? s.description)
    (inside : List.Forall₂ SectionPart.DeclaredBy n.children parts)
    (collects : s.Collects parts) : SectionRule.DeclaredBy n s

/-- The node, which stands in a section, declares the part of it. -/
inductive SectionPart.DeclaredBy : Node → SectionPart → Prop where
  | child {n s} (node : n.name = "section") (h : SectionRule.DeclaredBy n s) :
    SectionPart.DeclaredBy n (.child s)
  | table {n t} (node : n.name = "table") (h : TableRule.DeclaredBy n t) :
    SectionPart.DeclaredBy n (.table t)
  | content {n r} (node : n.name = "content") (h : ContentRule.DeclaredBy n r) :
    SectionPart.DeclaredBy n (.content r)
  | list {n r} (node : n.name = "list") (h : ListRule.DeclaredBy n r) :
    SectionPart.DeclaredBy n (.list r)
  | diagram {n r} (node : n.name = "diagram") (h : DiagramRule.DeclaredBy n r) :
    SectionPart.DeclaredBy n (.diagram r)

end

/-- No two sections side by side have one name, at any depth, and all tables are
    sound. -/
inductive SectionRule.Sound : SectionRule → Prop where
  | mk {s : SectionRule} (names : (s.children.map (·.name)).Nodup)
    (children : ∀ c ∈ s.children, c.Sound) (tables : ∀ t ∈ s.tables, t.Sound) : s.Sound

namespace SectionPart

/-- The part is sound, the names of sections below apart. -/
def Sound : SectionPart → Prop
  | child s => s.Sound
  | table t => t.Sound
  | content _ | list _ | diagram _ => True

/-- A section with one part more. -/
def addTo (s : SectionRule) : SectionPart → SectionRule
  | child c => { s with children := s.children ++ [c] }
  | table t => { s with tables := s.tables ++ [t] }
  | content r => { s with content := some r }
  | list r => { s with list := some r }
  | diagram r => { s with diagram := some r }

/-- The node, which stands in a section, makes the part of it. -/
inductive MadeBy (n : Node) : SectionPart → Prop where
  | child {s} (node : n.name = "section") (h : SectionRule.ofNode n = .ok s) : MadeBy n (.child s)
  | table {t} (node : n.name = "table") (h : TableRule.ofNode n = .ok t) : MadeBy n (.table t)
  | content {r} (node : n.name = "content") (h : r.DeclaredBy n) : MadeBy n (.content r)
  | list {r} (node : n.name = "list") (h : r.DeclaredBy n) : MadeBy n (.list r)
  | diagram {r} (node : n.name = "diagram") (h : r.DeclaredBy n) : MadeBy n (.diagram r)

end SectionPart

/-- A condition on what each node makes, told apart. -/
theorem forall₂_and_right {α β : Type} {R D : α → β → Prop} {P : β → Prop} {as : List α}
    {bs : List β} (h : ∀ a ∈ as, ∀ b, R a b ↔ D a b ∧ P b) :
    List.Forall₂ R as bs ↔ List.Forall₂ D as bs ∧ ∀ b ∈ bs, P b := by
  induction as generalizing bs with
  | nil => cases bs <;> simp
  | cons a as ih =>
    cases bs with
    | nil => simp
    | cons b bs =>
      simp only [List.forall₂_cons, h a List.mem_cons_self,
        ih fun a' ha => h a' (List.mem_cons_of_mem _ ha), List.forall_mem_cons]
      tauto

/-- What is related to a list stands in it. -/
theorem exists_mem_of_forall₂ {α β : Type} {R : α → β → Prop} {as : List α} {bs : List β}
    (h : List.Forall₂ R as bs) {b : β} (hb : b ∈ bs) : ∃ a ∈ as, R a b := by
  induction h with
  | nil => cases hb
  | @cons a b' as bs hab _ ih =>
    rcases List.mem_cons.1 hb with rfl | hb
    · exact ⟨a, List.mem_cons_self, hab⟩
    · obtain ⟨a', ha, hab⟩ := ih hb
      exact ⟨a', List.mem_cons_of_mem _ ha, hab⟩

/-- A name more is told apart if it is new. -/
theorem nodup_map_append_singleton_iff {α : Type} {name : α → String} {xs : List α} {x : α} :
    ((xs ++ [x]).map name).Nodup ↔ (xs.map name).Nodup ∧ name x ∉ xs.map name := by
  rw [List.map_append, List.map_singleton, ← List.concat_eq_append, List.nodup_concat, and_comm]

theorem exists_mem_of_forall₂_left {α β : Type} {R : α → β → Prop} {as : List α} {bs : List β}
    (h : List.Forall₂ R as bs) {a : α} (ha : a ∈ as) : ∃ b ∈ bs, R a b :=
  exists_mem_of_forall₂ h.flip ha

theorem checkSiblings_eq_ok_iff {line : Nat} {sections : List SectionRule} {u : Unit} :
    checkSiblings line sections = .ok u ↔ (sections.map (·.name)).Nodup := by
  have hnone : repeated? [] (sections.map (·.name)) = none ↔ (sections.map (·.name)).Nodup := by
    simp [repeated?_eq_none_iff]
  rw [← hnone]
  unfold checkSiblings
  split
  · next name h => simp [h]
  · next h => simp [h]

namespace SectionRule

/-- What a node adds that is no section itself. -/
theorem addRule_eq_ok_iff {s s' : SectionRule} {n : Node} (hn : n.name ≠ "section") :
    s.addRule n = .ok s' ↔ ∃ p : SectionPart, p.MadeBy n ∧ s' = p.addTo s := by
  constructor
  · intro h
    unfold addRule at h
    split at h
    · next hname =>
      obtain ⟨t, ht, h⟩ := bind_eq_ok_iff.1 h
      cases h
      exact ⟨.table t, .table hname ht, rfl⟩
    · next hname =>
      obtain ⟨k, hk, h⟩ := bind_eq_ok_iff.1 h
      cases h
      exact ⟨.content ⟨k⟩, .content hname ⟨Node.count?_eq_ok_iff.1 hk⟩, rfl⟩
    · next hname =>
      obtain ⟨required, hr, h⟩ := bind_eq_ok_iff.1 h
      obtain ⟨k, hk, h⟩ := bind_eq_ok_iff.1 h
      cases h
      exact ⟨.list ⟨required, k⟩,
        .list hname ⟨Node.bool_eq_ok_iff.1 hr, Node.count?_eq_ok_iff.1 hk⟩, rfl⟩
    · next hname =>
      obtain ⟨required, hr, h⟩ := bind_eq_ok_iff.1 h
      obtain ⟨language, hl, h⟩ := bind_eq_ok_iff.1 h
      cases h
      exact ⟨.diagram ⟨required, language⟩,
        .diagram hname ⟨Node.bool_eq_ok_iff.1 hr, Node.text?_eq_ok_iff.1 hl⟩, rfl⟩
    · cases h
  · rintro ⟨p, hp, rfl⟩
    unfold addRule
    cases hp with
    | child hname => exact absurd hname hn
    | table hname ht => rw [hname]; exact bind_eq_ok_iff.2 ⟨_, ht, rfl⟩
    | content hname h =>
      rw [hname]
      exact bind_eq_ok_iff.2 ⟨_, Node.count?_eq_ok_iff.2 h.minParagraphs, rfl⟩
    | list hname h =>
      rw [hname]
      exact bind_eq_ok_iff.2 ⟨_, Node.bool_eq_ok_iff.2 h.required,
        bind_eq_ok_iff.2 ⟨_, Node.count?_eq_ok_iff.2 h.minItems, rfl⟩⟩
    | diagram hname h =>
      rw [hname]
      exact bind_eq_ok_iff.2 ⟨_, Node.bool_eq_ok_iff.2 h.required,
        bind_eq_ok_iff.2 ⟨_, Node.text?_eq_ok_iff.2 h.language, rfl⟩⟩

/-- A section with what a node inside of it declares. -/
def addPart (s : SectionRule) (n : Node) : Except SchemaError SectionRule :=
  if n.name = "section" then do
    let child ← ofNode n
    return { s with children := s.children ++ [child] }
  else s.addRule n

/-- A section gets its parts one after another. -/
theorem addParts_eq_foldlM (s : SectionRule) (ns : List Node) :
    addParts s ns = ns.foldlM addPart s := by
  induction ns generalizing s with
  | nil => rw [addParts]; rfl
  | cons n ns ih =>
    rw [addParts, List.foldlM_cons, addPart]
    split
    · cases ofNode n with
      | error e => rfl
      | ok child => exact ih _
    · cases s.addRule n with
      | error e => rfl
      | ok s' => exact ih s'

/-- What a node adds to a section. -/
theorem addPart_eq_ok_iff {s s' : SectionRule} {n : Node} :
    s.addPart n = .ok s' ↔ ∃ p : SectionPart, p.MadeBy n ∧ s' = p.addTo s := by
  unfold addPart
  split
  · next hname =>
    simp only [bind_eq_ok_iff, pure_eq_ok_iff]
    constructor
    · rintro ⟨c, hc, rfl⟩
      exact ⟨.child c, .child hname hc, rfl⟩
    · rintro ⟨p, hp, rfl⟩
      cases hp with
      | child _ hc => exact ⟨_, hc, rfl⟩
      | table hn | content hn | list hn | diagram hn =>
        exact absurd (hname.symm.trans hn) (by decide)
  · next hname => exact addRule_eq_ok_iff hname

/-- **What nodes add to a section.** -/
theorem addParts_eq_ok_iff {s s' : SectionRule} {ns : List Node} :
    addParts s ns = .ok s' ↔ ∃ parts : List SectionPart,
      List.Forall₂ (fun n p => p.MadeBy n) ns parts ∧
        s' = parts.foldl (fun s p => p.addTo s) s := by
  rw [addParts_eq_foldlM]
  induction ns generalizing s with
  | nil =>
    simp only [List.foldlM_nil, pure_eq_ok_iff, List.forall₂_nil_left_iff, exists_eq_left,
      List.foldl_nil]
    exact eq_comm
  | cons n ns ih =>
    simp only [List.foldlM_cons, bind_eq_ok_iff, addPart_eq_ok_iff, ih, List.forall₂_cons_left_iff]
    constructor
    · rintro ⟨_, ⟨p, hp, rfl⟩, ps, hps, rfl⟩
      exact ⟨p :: ps, ⟨p, ps, hp, hps, rfl⟩, rfl⟩
    · rintro ⟨_, ⟨p, ps, hp, hps, rfl⟩, rfl⟩
      exact ⟨_, ⟨p, hp, rfl⟩, ps, hps, rfl⟩

/-- A section to which parts are added one by one. -/
theorem foldl_addTo (s : SectionRule) (parts : List SectionPart) :
    parts.foldl (fun s p => p.addTo s) s =
      { s with
        children := s.children ++ parts.filterMap SectionPart.child?
        tables := s.tables ++ parts.filterMap SectionPart.table?
        content := (parts.filterMap SectionPart.content?).getLast?.or s.content
        list := (parts.filterMap SectionPart.list?).getLast?.or s.list
        diagram := (parts.filterMap SectionPart.diagram?).getLast?.or s.diagram } := by
  induction parts generalizing s with
  | nil => cases s; simp
  | cons p parts ih =>
    rw [List.foldl_cons, ih]
    cases p <;>
      simp [List.filterMap_cons, SectionPart.addTo, SectionPart.child?, SectionPart.table?,
        SectionPart.content?, SectionPart.list?, SectionPart.diagram?, List.getLast?_cons]

/-- Parts change neither the name of a section nor what is said about it. -/
theorem head_of_addParts {s s' : SectionRule} {ns : List Node} (h : addParts s ns = .ok s') :
    s'.name = s.name ∧ s'.required = s.required ∧ s'.description = s.description := by
  obtain ⟨parts, -, rfl⟩ := addParts_eq_ok_iff.1 h
  rw [foldl_addTo]
  exact ⟨rfl, rfl, rfl⟩

/-- A section that only has a name, a description and a mark collects what is added
    to it. -/
theorem collects_iff {s : SectionRule} {parts : List SectionPart} : s.Collects parts ↔
    s = parts.foldl (fun s p => p.addTo s)
      { name := s.name, required := s.required, description := s.description } := by
  rw [foldl_addTo]
  obtain ⟨name, required, description, children, tables, content, list, diagram⟩ := s
  simp only [List.nil_append, Option.or_none, SectionRule.mk.injEq, true_and]
  exact ⟨fun ⟨hc, ht, hw, hl, hd⟩ => ⟨hc, ht, hw, hl, hd⟩,
    fun ⟨hc, ht, hw, hl, hd⟩ => ⟨hc, ht, hw, hl, hd⟩⟩

/-- A section is sound if its parts are and the names of those below differ. -/
theorem sound_iff_of_collects {s : SectionRule} {parts : List SectionPart} (h : s.Collects parts) :
    s.Sound ↔ (s.children.map (·.name)).Nodup ∧ ∀ p ∈ parts, p.Sound := by
  constructor
  · rintro ⟨hnames, hchildren, htables⟩
    refine ⟨hnames, fun p hp => ?_⟩
    cases p with
    | child c => exact hchildren c (h.children ▸ List.mem_filterMap.2 ⟨_, hp, rfl⟩)
    | table t => exact htables t (h.tables ▸ List.mem_filterMap.2 ⟨_, hp, rfl⟩)
    | content | list | diagram => exact trivial
  · rintro ⟨hnames, hparts⟩
    refine ⟨hnames, fun c hc => ?_, fun t ht => ?_⟩
    · obtain ⟨p, hp, hpc⟩ := List.mem_filterMap.1 (h.children ▸ hc)
      cases p <;> cases hpc
      exact hparts _ hp
    · obtain ⟨p, hp, hpt⟩ := List.mem_filterMap.1 (h.tables ▸ ht)
      cases p <;> cases hpt
      exact hparts _ hp

/-- What a node makes, in terms of what the nodes inside of it make. -/
theorem ofNode_eq_ok_iff_madeBy {n : Node} {s : SectionRule} :
    ofNode n = .ok s ↔ n.args.head? = some (.text s.name) ∧
      n.value "required" (.bool false) = .bool s.required ∧
      n.value "description" .null = .ofText? s.description ∧
      (s.children.map (·.name)).Nodup ∧
      ∃ parts, List.Forall₂ (fun n p => SectionPart.MadeBy n p) n.children parts ∧
        s.Collects parts := by
  obtain ⟨name, line, args, props, children⟩ := n
  unfold ofNode
  simp only [bind_eq_ok_iff, pure_eq_ok_iff, Node.declared_eq_ok_iff, Node.bool_eq_ok_iff,
    Node.text?_eq_ok_iff, checkSiblings_eq_ok_iff]
  constructor
  · rintro ⟨title, htitle, required, hrequired, description, hdescription, s', hs', -, hnodup, rfl⟩
    obtain ⟨rfl, rfl, rfl⟩ := head_of_addParts hs'
    obtain ⟨parts, hparts, hs⟩ := addParts_eq_ok_iff.1 hs'
    exact ⟨htitle, hrequired, hdescription, hnodup, parts, hparts, collects_iff.2 hs⟩
  · rintro ⟨htitle, hrequired, hdescription, hnodup, parts, hparts, hs⟩
    exact ⟨_, htitle, _, hrequired, _, hdescription, s,
      addParts_eq_ok_iff.2 ⟨parts, hparts, collects_iff.1 hs⟩, (), hnodup, rfl⟩

/-- **What section a node makes.** -/
theorem ofNode_eq_ok_iff {n : Node} {s : SectionRule} :
    ofNode n = .ok s ↔ s.DeclaredBy n ∧ s.Sound := by
  induction n using Node.inside_induction generalizing s with
  | h n ih =>
    have hpart : ∀ m ∈ n.children, ∀ p : SectionPart,
        p.MadeBy m ↔ p.DeclaredBy m ∧ p.Sound := by
      intro m hm p
      constructor
      · intro hp
        cases hp with
        | child hn h => exact ⟨.child hn ((ih m hm).1 h).1, ((ih m hm).1 h).2⟩
        | table hn h =>
          have h := TableRule.ofNode_eq_ok_iff.1 h
          exact ⟨.table hn h.1, h.2⟩
        | content hn h => exact ⟨.content hn h, trivial⟩
        | list hn h => exact ⟨.list hn h, trivial⟩
        | diagram hn h => exact ⟨.diagram hn h, trivial⟩
      · rintro ⟨hp, hs⟩
        cases hp with
        | child hn h => exact .child hn ((ih m hm).2 ⟨h, hs⟩)
        | table hn h => exact .table hn (TableRule.ofNode_eq_ok_iff.2 ⟨h, hs⟩)
        | content hn h => exact .content hn h
        | list hn h => exact .list hn h
        | diagram hn h => exact .diagram hn h
    rw [ofNode_eq_ok_iff_madeBy]
    simp only [forall₂_and_right hpart]
    constructor
    · rintro ⟨hname, hrequired, hdescription, hnodup, parts, ⟨hdeclared, hsound⟩, hs⟩
      exact ⟨.mk hname hrequired hdescription hdeclared hs,
        (sound_iff_of_collects hs).2 ⟨hnodup, hsound⟩⟩
    · rintro ⟨⟨hname, hrequired, hdescription, hdeclared, hs⟩, hsound⟩
      obtain ⟨hnodup, hparts⟩ := (sound_iff_of_collects hs).1 hsound
      exact ⟨hname, hrequired, hdescription, hnodup, _, ⟨hdeclared, hparts⟩, hs⟩

end SectionRule

end Folio.Schema
