/-
  Folio — what lines and the order of nodes have to do with schemas.

  Lines stand in messages only, and properties are looked up by their keys: what a node
  declares is told by its name, its values, what is under its keys and the nodes inside of it
  (`Node.Same`).  Relations, types and forms of references are each collected in their own
  order, and the fields of relations come last.  So only the order among the nodes of one
  sort makes a difference, and whether there is a node of none of these sorts, for that is
  refused.

  * `Node.Same.declaresType` and those beside it: nodes that are the same declare the same;
  * `Schema.ofSource_of_sameSorts`: the schemas of two sources with the same nodes of each
    sort.
-/
import Folio.Proofs.Schema.Sound

namespace Folio.Schema

open Node (withName)

/-! ## Nodes up to lines and the order of properties -/

namespace Node

mutual

/-- Are the nodes the same, but for their lines and the order of their properties? -/
def Same : Node → Node → Prop
  | ⟨name, _, args, props, children⟩, ⟨name', _, args', props', children'⟩ =>
    name = name' ∧ args = args' ∧ (∀ key, props.lookup key = props'.lookup key) ∧
      AllSame children children'

/-- So it is with some nodes. -/
def AllSame : List Node → List Node → Prop
  | [], [] => True
  | n :: ns, m :: ms => Same n m ∧ AllSame ns ms
  | _, _ => False

end

theorem allSame_iff {ns ms : List Node} : AllSame ns ms ↔ List.Forall₂ Same ns ms := by
  induction ns generalizing ms with
  | nil => cases ms <;> simp [AllSame]
  | cons n ns ih => cases ms <;> simp [AllSame, ih]

theorem withName_same {ns ms : List Node} (h : List.Forall₂ Same ns ms) (name : String) :
    List.Forall₂ Same (withName name ns) (withName name ms) := by
  induction h with
  | nil => exact .nil
  | @cons n m ns ms hnm _ ih =>
    have hname : n.name = m.name := by
      cases n; cases m; exact hnm.1
    rw [withName, withName, List.filter_cons, List.filter_cons, hname]
    split
    · exact .cons hnm ih
    · exact ih

namespace Same
variable {n m : Node} (h : n.Same m)
include h

theorem name : n.name = m.name := by cases n; cases m; exact h.1

theorem args : n.args = m.args := by cases n; cases m; exact h.2.1

theorem value (key : String) (absent : Scalar) : n.value key absent = m.value key absent := by
  cases n; cases m
  rw [Node.value, Node.value, h.2.2.1]

theorem children : List.Forall₂ Same n.children m.children := by
  cases n; cases m; exact allSame_iff.1 h.2.2.2

theorem isOfKind (k : Kind) : n.IsOfKind k ↔ m.IsOfKind k := by
  simp only [IsOfKind, h.value]

theorem hasPattern (p : Option Pattern) : n.HasPattern p ↔ m.HasPattern p := by
  simp only [HasPattern, h.value]

theorem choices : choicesOf n = choicesOf m := by
  have hvalues := withName_same h.children "values"
  rw [withName, withName] at hvalues
  rw [choicesOf, choicesOf]
  generalize n.children.filter _ = ns at hvalues
  generalize m.children.filter _ = ms at hvalues
  induction hvalues with
  | nil => rfl
  | cons hnm _ ih => rw [List.flatMap_cons, List.flatMap_cons, ih, args hnm]

end Same

/-- Nodes that are the same are related to the same. -/
theorem forall₂_of_same {β : Type} {R : Node → β → Prop} {ns ms : List Node}
    (h : List.Forall₂ Same ns ms) (hR : ∀ n ∈ ns, ∀ m b, n.Same m → (R n b ↔ R m b)) (bs : List β) :
    List.Forall₂ R ns bs ↔ List.Forall₂ R ms bs := by
  induction h generalizing bs with
  | nil => exact Iff.rfl
  | cons hnm _ ih =>
    obtain ⟨hn, hns⟩ := List.forall_mem_cons.1 hR
    simp only [List.forall₂_cons_left_iff, hn _ _ hnm, ih hns]

/-! ## What nodes declare -/

attribute [mk_iff] Field.DeclaredBy Column.DeclaredBy TableRule.DeclaredBy ContentRule.DeclaredBy
  ListRule.DeclaredBy DiagramRule.DeclaredBy SectionRule.DeclaredBy SectionPart.DeclaredBy
  Relation.DeclaredBy RefRule.DeclaredBy DocType.Holds DocType.DeclaredBy Holds

namespace Same
variable {n m : Node}

theorem declaresField (h : n.Same m) (f : Field) : f.DeclaredBy n ↔ f.DeclaredBy m := by
  simp only [Field.declaredBy_iff, h.args, h.isOfKind, h.value, h.hasPattern, h.choices]

theorem declaresColumn (h : n.Same m) (c : Column) : c.DeclaredBy n ↔ c.DeclaredBy m := by
  simp only [Column.declaredBy_iff, h.name, h.args, h.isOfKind, h.value, h.hasPattern]

theorem declaresTable (h : n.Same m) (t : TableRule) : t.DeclaredBy n ↔ t.DeclaredBy m := by
  simp only [TableRule.declaredBy_iff, h.value,
    forall₂_of_same h.children fun _ _ _ b hsame => hsame.declaresColumn b]

theorem declaresRelation (h : n.Same m) (r : Relation) : r.DeclaredBy n ↔ r.DeclaredBy m := by
  simp only [Relation.declaredBy_iff, h.args, h.value]

theorem declaresRule (h : n.Same m) (r : RefRule) : r.DeclaredBy n ↔ r.DeclaredBy m := by
  simp only [RefRule.declaredBy_iff, h.name, h.value, h.hasPattern]

theorem declaresPart (h : n.Same m)
    (hsection : ∀ s : SectionRule, s.DeclaredBy n ↔ s.DeclaredBy m) (p : SectionPart) :
    p.DeclaredBy n ↔ p.DeclaredBy m := by
  simp only [SectionPart.declaredBy_iff, hsection, h.name, h.declaresTable,
    ContentRule.declaredBy_iff, ListRule.declaredBy_iff, DiagramRule.declaredBy_iff, h.value]

theorem declaresSection (h : n.Same m) (s : SectionRule) : s.DeclaredBy n ↔ s.DeclaredBy m := by
  induction n using Node.inside_induction generalizing m s with
  | h n ih =>
    simp only [SectionRule.declaredBy_iff, h.args, h.value,
      forall₂_of_same h.children fun c hc _ p hsame => hsame.declaresPart (ih c hc hsame) p]

theorem declaresType (h : n.Same m) (t : DocType) : t.DeclaredBy n ↔ t.DeclaredBy m := by
  have hnodes : (∀ c ∈ n.children, c.name = "field" ∨ c.name = "section") ↔
      ∀ c ∈ m.children, c.name = "field" ∨ c.name = "section" := by
    have hchildren := h.children
    generalize n.children = ns at hchildren
    generalize m.children = ms at hchildren
    induction hchildren with
    | nil => exact Iff.rfl
    | cons hsame _ ih =>
      rw [List.forall_mem_cons, List.forall_mem_cons, hsame.name]
      exact and_congr_right fun _ => ih
  simp only [DocType.declaredBy_iff, DocType.holds_iff, h.args, h.value, hnodes,
    forall₂_of_same (withName_same h.children _) fun _ _ _ f hsame => hsame.declaresField f,
    forall₂_of_same (withName_same h.children _) fun _ _ _ s hsame => hsame.declaresSection s]

end Same

end Node

/-! ## The order of nodes -/

/-- The names of the nodes that stand at the top. -/
def sorts : List String := ["relation", "type", "ref-format"]

/-- The nodes of each sort are the same, but for their lines and the order of their
    properties. -/
def SameSorts (ns ns' : List Node) : Prop :=
  ∀ sort ∈ sorts, List.Forall₂ Node.Same (withName sort ns) (withName sort ns')

section
variable {ns ns' : List Node}

/-- The nodes inside of nodes that are the same. -/
theorem children_same (h : List.Forall₂ Node.Same ns ns') :
    List.Forall₂ Node.Same (ns.flatMap (·.children)) (ns'.flatMap (·.children)) := by
  induction h with
  | nil => exact .nil
  | cons hsame _ ih =>
    rw [List.flatMap_cons, List.flatMap_cons]
    exact List.rel_append hsame.children ih

/-- **What nodes declare**, apart from the order among nodes of different sorts, from that
    of properties and from lines. -/
theorem SameSorts.holds_iff {rs : List Relation} {ts : List DocType} {ps : List RefRule}
    (h : SameSorts ns ns') (hall : (∀ n ∈ ns, n.name ∈ sorts) ↔ ∀ n ∈ ns', n.name ∈ sorts) :
    Holds ns rs ts ps ↔ Holds ns' rs ts ps := by
  have hnodes : (∀ n ∈ ns, n.name = "relation" ∨ n.name = "type" ∨ n.name = "ref-format") ↔
      ∀ n ∈ ns', n.name = "relation" ∨ n.name = "type" ∨ n.name = "ref-format" := by
    simpa [sorts] using hall
  rw [Schema.holds_iff, Schema.holds_iff, hnodes,
    Node.forall₂_of_same (h "relation" (by decide)) fun _ _ _ r hsame => hsame.declaresRelation r,
    Node.forall₂_of_same (h "type" (by decide)) fun _ _ _ t hsame => hsame.declaresType t,
    Node.forall₂_of_same (children_same (h "ref-format" (by decide))) fun _ _ _ r hsame =>
      hsame.declaresRule r]

/-- **Two sources with the same nodes of each sort** have the same schema or both have
    none, whatever the lines and the order among nodes of different sorts, if both or none
    of them have a node of another sort. -/
theorem ofSource_of_sameSorts {source source' : String} (hns : Node.ofSource source = .ok ns)
    (hns' : Node.ofSource source' = .ok ns') (h : SameSorts ns ns')
    (hall : (∀ n ∈ ns, n.name ∈ sorts) ↔ ∀ n ∈ ns', n.name ∈ sorts) :
    (∃ s, ofSource source = .ok s ∧ ofSource source' = .ok s) ∨
      ∃ e e', ofSource source = .error e ∧ ofSource source' = .error e' := by
  have hok : ∀ s, ofSource source = .ok s ↔ ofSource source' = .ok s := by
    intro s
    simp only [ofSource, hns, hns', bind_eq_ok_iff, Except.ok.injEq, exists_eq_left',
      ofNodes_eq_ok_iff, DeclaredBy, h.holds_iff hall]
  cases hs : ofSource source with
  | ok s => exact .inl ⟨s, rfl, (hok s).1 hs⟩
  | error e =>
    cases hs' : ofSource source' with
    | ok s => rw [(hok s).2 hs'] at hs; cases hs
    | error e' => exact .inr ⟨e, e', rfl, rfl⟩

end

/-- A type can come before a relation or after it, and on another line. -/
theorem ofSource_of_sameSorts_swapped : ∃ s,
    ofSource "type t\x7bfield x\x7d; relation a" = .ok s ∧
      ofSource "relation a\n\ntype t\x7b\nfield x\x7d" = .ok s := by
  have hns : Node.ofSource "type t\x7bfield x\x7d; relation a" =
      .ok [⟨"type", 1, [.text "t"], [], [⟨"field", 1, [.text "x"], [], []⟩]⟩,
        ⟨"relation", 1, [.text "a"], [], []⟩] := by decide +kernel
  have hns' : Node.ofSource "relation a\n\ntype t\x7b\nfield x\x7d" =
      .ok [⟨"relation", 1, [.text "a"], [], []⟩,
        ⟨"type", 3, [.text "t"], [], [⟨"field", 4, [.text "x"], [], []⟩]⟩] := by decide +kernel
  rcases ofSource_of_sameSorts hns hns' (by simp [SameSorts, sorts, withName, Node.Same,
    Node.AllSame]) (by simp [sorts]) with hok | ⟨e, -, he, -⟩
  · exact hok
  · have hs : ofSource "type t\x7bfield x\x7d; relation a" =
        .ok { types := [{ name := "t", fields := [{ name := "x", kind := .text },
                { name := "a", kind := .refs, relation := some "a" }] }]
              relations := [{ name := "a" }] } := by decide +kernel
    rw [hs] at he
    cases he

/-- **A node of another sort is refused**, although no node of the three sorts tells of
    it. -/
theorem ofSource_gadget_at_top : ¬∀ source source' ns ns', Node.ofSource source = .ok ns →
    Node.ofSource source' = .ok ns' → SameSorts ns ns' →
    (∃ s, ofSource source = .ok s ∧ ofSource source' = .ok s) ∨
      ∃ e e', ofSource source = .error e ∧ ofSource source' = .error e' := by
  intro h
  have hgadget : Node.ofSource "gadget" = .ok [⟨"gadget", 1, [], [], []⟩] := by decide +kernel
  have hempty : Node.ofSource "" = .ok [] := by decide +kernel
  have he : ofSource "gadget" = .error (.located (.unknownNode "gadget") 1) := by decide +kernel
  have hok : ofSource "" = .ok {} := by decide +kernel
  have hsame : SameSorts [⟨"gadget", 1, [], [], []⟩] [] := by
    simp [SameSorts, sorts, withName]
  rcases h _ _ _ _ hgadget hempty hsame with ⟨s, hs, -⟩ | ⟨-, e', -, he'⟩
  · rw [he] at hs; cases hs
  · rw [hok] at he'; cases he'

end Folio.Schema
