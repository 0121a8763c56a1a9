/-
  Folio — where nodes stand.

  A node stands at a place of the language: at the top, or inside of a node of some
  sort.  A place says which nodes it takes, and at which place their own nodes stand
  (`Place.inside?`).  Some places refuse all other nodes.  The others — inside of a
  choice and of what takes no nodes at all — pass over them: they are as if they
  were not there (`Node.prune`).

  * `Schema.ofNodes_pruneAll`: nodes that are passed over make no difference;
  * `Schema.DeclaredBy.stands`: all other nodes of a schema stand where the language
    takes them;
  * `Schema.ofSource_pruneAll`: both, of the nodes of a source.
-/
import Folio.Proofs.Schema.Sound

namespace Folio.Schema

open Node (withName)

/-! ## Places -/

/-- The places where nodes stand. -/
inductive Place where
  | top
  | type
  | section_
  | table
  /-- Inside of a field that is a choice. -/
  | choice
  /-- Inside of the node that declares forms of references. -/
  | rules
  /-- Inside of a node that takes no nodes. -/
  | leaf
  deriving DecidableEq

/-- The kind of the values that the node declares is that of choices. -/
def Node.isChoice (n : Node) : Bool :=
  match n.value "type" (.text "string") with
  | .text s => Kind.ofName? s == some .choice
  | _ => false

namespace Place

/-- The names of the nodes that a place takes, with the places inside of them.  Forms
    of references have names of their own. -/
def takes (n : Node) : Place → List (String × Place)
  | top => [("relation", leaf), ("type", type), ("ref-format", rules)]
  | type => [("field", if n.isChoice then choice else leaf), ("section", section_)]
  | section_ => [("section", section_), ("table", table), ("content", leaf), ("list", leaf),
      ("diagram", leaf)]
  | table => [("column", leaf)]
  | choice => [("values", leaf)]
  | rules => [(n.name, leaf)]
  | leaf => []

/-- The place inside of a node that stands at a place, if the place takes the
    node. -/
def inside? (p : Place) (n : Node) : Option Place := (takes n p).lookup n.name

theorem inside?_of_name {p q : Place} {n : Node} {name : String} (hn : n.name = name)
    (h : (takes n p).lookup name = some q) : p.inside? n = some q := by
  rw [inside?, hn, h]

theorem inside?_rules (n : Node) : inside? .rules n = some .leaf := by
  simp [inside?, takes]

theorem isSome_inside?_choice (n : Node) :
    (inside? .choice n).isSome = (n.name == "values") := by
  rw [inside?, takes, List.lookup]
  cases n.name == "values" <;> rfl

/-- Does the place refuse nodes that it does not take? -/
def refuses : Place → Bool
  | choice | leaf => false
  | _ => true

end Place

/-- The node stands where the language takes it, and so do those inside of it. -/
inductive Node.Stands : Place → Node → Prop where
  | mk {p q : Place} {n : Node} (here : p.inside? n = some q)
    (inside : ∀ m ∈ n.children, Stands q m) : Stands p n

namespace Node

mutual

/-- A node without the nodes inside of it that are passed over. -/
def prune (p : Place) : Node → Node
  | ⟨name, line, args, props, children⟩ =>
    match p.inside? ⟨name, line, args, props, []⟩ with
    | none => ⟨name, line, args, props, children⟩
    | some q => ⟨name, line, args, props, pruneAll q children⟩

/-- The nodes at a place without those that are passed over. -/
def pruneAll (p : Place) : List Node → List Node
  | [] => []
  | n :: ns =>
    if p.refuses || (p.inside? n).isSome then prune p n :: pruneAll p ns else pruneAll p ns

end

section
variable {p q : Place} {n : Node} {ns : List Node}

theorem inside?_withChildren (p : Place) (n : Node) (children : List Node) :
    p.inside? { n with children } = p.inside? n := by
  cases p <;> rfl

theorem prune_of_inside? (h : p.inside? n = some q) :
    n.prune p = { n with children := pruneAll q n.children } := by
  obtain ⟨name, line, args, props, children⟩ := n
  have h' : p.inside? ⟨name, line, args, props, []⟩ = some q :=
    (inside?_withChildren p ⟨name, line, args, props, children⟩ []).trans h
  rw [prune, h']

theorem prune_of_inside?_eq_none (h : p.inside? n = none) : n.prune p = n := by
  obtain ⟨name, line, args, props, children⟩ := n
  have h' : p.inside? ⟨name, line, args, props, []⟩ = none :=
    (inside?_withChildren p ⟨name, line, args, props, children⟩ []).trans h
  rw [prune, h']

theorem pruneAll_eq (p : Place) (ns : List Node) :
    pruneAll p ns = (ns.filter fun n => p.refuses || (p.inside? n).isSome).map (prune p) := by
  induction ns with
  | nil => rw [pruneAll]; rfl
  | cons n ns ih =>
    rw [pruneAll, ih, List.filter_cons]
    split <;> rfl

/-- A place that refuses nodes passes over none. -/
theorem pruneAll_of_refuses (h : p.refuses = true) : pruneAll p ns = ns.map (prune p) := by
  rw [pruneAll_eq, List.filter_eq_self.2 fun n _ => by rw [h, Bool.true_or]]

theorem pruneAll_leaf : pruneAll .leaf ns = [] := by
  have hnone : ∀ n ∈ ns, ¬(Place.leaf.refuses || (Place.leaf.inside? n).isSome) = true :=
    fun _ _ => Bool.false_ne_true
  rw [pruneAll_eq, List.filter_eq_nil_iff.2 hnone, List.map_nil]

/-- Only the children of a node change. -/
theorem exists_prune_eq (p : Place) (n : Node) : ∃ children, n.prune p = { n with children } := by
  cases h : p.inside? n with
  | none => exact ⟨n.children, (prune_of_inside?_eq_none h).trans (by cases n; rfl)⟩
  | some q => exact ⟨_, prune_of_inside? h⟩

/-- Where all nodes stand, none is passed over. -/
theorem Stands.prune_eq (h : n.Stands p) : n.prune p = n := by
  induction h with
  | @mk p q n here inside ih =>
    have hall : pruneAll q n.children = n.children := by
      rw [pruneAll_eq, List.filter_eq_self.2]
      · exact (List.map_congr_left ih).trans (List.map_id _)
      · intro m hm
        obtain ⟨hm', -⟩ := inside m hm
        rw [hm', Option.isSome_some, Bool.or_true]
    rw [prune_of_inside? here, hall]
    cases n
    rfl

theorem pruneAll_eq_self (h : ∀ n ∈ ns, n.Stands p) : pruneAll p ns = ns := by
  rw [pruneAll_eq, List.filter_eq_self.2]
  · exact (List.map_congr_left fun n hn => (h n hn).prune_eq).trans (List.map_id _)
  · intro m hm
    obtain ⟨hm', -⟩ := h m hm
    rw [hm', Option.isSome_some, Bool.or_true]

/-- What stands after pruning. -/
theorem stands_prune (here : p.inside? n = some q) (inside : ∀ m ∈ pruneAll q n.children,
    m.Stands q) : (n.prune p).Stands p := by
  rw [prune_of_inside? here]
  exact .mk ((inside?_withChildren p n _).trans here) inside

end

end Node

/-! ## Nodes that are passed over -/

theorem bind_congr_ok {α β ε : Type} {x : Except ε α} {f g : α → Except ε β}
    (h : ∀ a, x = .ok a → f a = g a) : x >>= f = x >>= g := by
  cases x with
  | error e => rfl
  | ok a => exact h a rfl

theorem Node.isChoice_iff {n : Node} : n.isChoice = true ↔ n.IsOfKind .choice := by
  unfold isChoice IsOfKind
  cases n.value "type" (.text "string") <;> simp

section
variable {n : Node} {ns : List Node}

open Node

/-- The values that a choice lists are those of nodes that are not passed over. -/
theorem choicesOf_prune (children : List Node) :
    choicesOf { n with children := pruneAll .choice children } =
      choicesOf { n with children } := by
  have hprune : ∀ m : Node, (prune .choice m).name = m.name ∧ (prune .choice m).args = m.args := by
    intro m
    obtain ⟨children, h⟩ := exists_prune_eq .choice m
    rw [h]
    exact ⟨rfl, rfl⟩
  simp [choicesOf, pruneAll_eq, Place.refuses, Place.isSome_inside?_choice, List.filter_map,
    List.flatMap_map, hprune, Function.comp_def]

/-- A field is declared by its node and by the values inside of it, if it is a
    choice. -/
theorem Field.ofNode_withChildren {children : List Node}
    (h : n.isChoice = true → choicesOf { n with children } = choicesOf n) :
    Field.ofNode { n with children } = Field.ofNode n := by
  unfold Field.ofNode
  refine bind_congr_ok fun name _ => bind_congr_ok fun kind hkind => ?_
  have hchoices : (if kind = .choice then choicesOf { n with children } else []) =
      if kind = .choice then choicesOf n else [] := by
    split
    · next hk => exact h (isChoice_iff.2 (hk ▸ (kind_eq_ok_iff.1 hkind).1))
    · rfl
  rw [hchoices]
  rfl

theorem Field.ofNode_prune (hn : n.name = "field") :
    Field.ofNode (n.prune .type) = Field.ofNode n := by
  have hinside : Place.inside? .type n = some (if n.isChoice then .choice else .leaf) :=
    Place.inside?_of_name hn rfl
  rw [prune_of_inside? hinside]
  refine Field.ofNode_withChildren fun hchoice => ?_
  rw [if_pos hchoice]
  exact choicesOf_prune n.children

/-- What is made of nodes one after another is as before if each does what it did
    before. -/
theorem foldlM_pruneAll {p : Place} (hp : p.refuses = true) {β ε : Type}
    {f : β → Node → Except ε β} (hf : ∀ b, ∀ n ∈ ns, f b (n.prune p) = f b n) (b : β) :
    (pruneAll p ns).foldlM f b = ns.foldlM f b := by
  rw [pruneAll_of_refuses hp]
  induction ns generalizing b with
  | nil => rfl
  | cons n ns ih =>
    rw [List.map_cons, List.foldlM_cons, List.foldlM_cons, hf b n List.mem_cons_self]
    exact bind_congr_ok fun c _ => ih (fun b m hm => hf b m (List.mem_cons_of_mem _ hm)) c

theorem TableRule.add_prune (t : TableRule) (n : Node) : t.add (n.prune .table) = t.add n := by
  obtain ⟨children, h⟩ := exists_prune_eq .table n
  rw [h]
  rfl

theorem TableRule.ofNode_pruneAll :
    TableRule.ofNode { n with children := pruneAll .table n.children } = TableRule.ofNode n := by
  unfold TableRule.ofNode
  exact bind_congr_ok fun _ _ => bind_congr_ok fun _ _ =>
    foldlM_pruneAll rfl (fun t n _ => TableRule.add_prune t n) _

theorem SectionRule.addRule_withChildren (s : SectionRule) {children : List Node}
    (h : n.name = "table" → TableRule.ofNode { n with children } = TableRule.ofNode n) :
    s.addRule { n with children } = s.addRule n := by
  unfold addRule
  dsimp only
  split
  · next hn => rw [h hn]
  · rfl
  · rfl
  · rfl
  · rfl

theorem SectionRule.addRule_prune (s : SectionRule) (n : Node) :
    s.addRule (n.prune .section_) = s.addRule n := by
  by_cases hn : n.name = "table"
  · have hinside : Place.inside? .section_ n = some .table := Place.inside?_of_name hn rfl
    rw [prune_of_inside? hinside]
    exact s.addRule_withChildren fun _ => TableRule.ofNode_pruneAll
  · obtain ⟨children, h⟩ := exists_prune_eq .section_ n
    rw [h]
    exact s.addRule_withChildren fun h => absurd h hn

theorem name_prune (p : Place) (n : Node) : (n.prune p).name = n.name := by
  obtain ⟨children, h⟩ := exists_prune_eq p n
  rw [h]

/-- A node adds to a section what it did before if it makes the section it did. -/
theorem SectionRule.addPart_prune (s : SectionRule)
    (h : n.name = "section" →
      SectionRule.ofNode (n.prune .section_) = SectionRule.ofNode n) :
    s.addPart (n.prune .section_) = s.addPart n := by
  unfold addPart
  rw [name_prune]
  split
  · next hn => rw [h hn]
  · exact s.addRule_prune n

theorem SectionRule.ofNode_pruneAll :
    SectionRule.ofNode { n with children := pruneAll .section_ n.children } =
      SectionRule.ofNode n := by
  induction n using Node.inside_induction with
  | h n ih =>
    obtain ⟨name, line, args, props, children⟩ := n
    have hinside : ∀ m ∈ children, m.name = "section" →
        SectionRule.ofNode (m.prune .section_) = SectionRule.ofNode m := by
      intro m hm hn
      have h : Place.inside? .section_ m = some .section_ := Place.inside?_of_name hn rfl
      rw [prune_of_inside? h]
      exact ih m hm
    unfold SectionRule.ofNode
    refine bind_congr_ok fun _ _ => bind_congr_ok fun _ _ => bind_congr_ok fun _ _ => ?_
    rw [SectionRule.addParts_eq_foldlM, SectionRule.addParts_eq_foldlM,
      foldlM_pruneAll rfl fun s m hm => s.addPart_prune (hinside m hm)]

theorem DocType.add_prune (t : DocType) (n : Node) : t.add (n.prune .type) = t.add n := by
  have hsection : n.name = "section" →
      SectionRule.ofNode (n.prune .type) = SectionRule.ofNode n := by
    intro hn
    have h : Place.inside? .type n = some .section_ := Place.inside?_of_name hn rfl
    rw [prune_of_inside? h]
    exact SectionRule.ofNode_pruneAll
  have hfield := Field.ofNode_prune (n := n)
  obtain ⟨children, h⟩ := exists_prune_eq .type n
  rw [h] at hsection hfield ⊢
  unfold add
  dsimp only
  split
  · next hn => rw [hfield hn]; rfl
  · next hn => rw [hsection hn]
  · rfl

theorem DocType.ofNode_pruneAll :
    DocType.ofNode { n with children := pruneAll .type n.children } = DocType.ofNode n := by
  unfold DocType.ofNode
  refine bind_congr_ok fun _ _ => bind_congr_ok fun _ _ => bind_congr_ok fun _ _ =>
    bind_congr_ok fun _ _ => ?_
  rw [foldlM_pruneAll rfl fun t n _ => DocType.add_prune t n]

theorem add_prune (s : Schema) (n : Node) : s.add (n.prune .top) = s.add n := by
  have htype : n.name = "type" → DocType.ofNode (n.prune .top) = DocType.ofNode n := by
    intro hn
    have h : Place.inside? .top n = some .type := Place.inside?_of_name hn rfl
    rw [prune_of_inside? h]
    exact DocType.ofNode_pruneAll
  have hrules : n.name = "ref-format" →
      (n.prune .top).children.mapM RefRule.ofNode = n.children.mapM RefRule.ofNode := by
    intro hn
    have h : Place.inside? .top n = some .rules := Place.inside?_of_name hn rfl
    rw [prune_of_inside? h, pruneAll_of_refuses rfl, List.mapM_map]
    refine congrArg (n.children.mapM ·) (funext fun m => ?_)
    obtain ⟨children, hm⟩ := exists_prune_eq .rules m
    rw [Function.comp_apply, hm]
    rfl
  obtain ⟨children, h⟩ := exists_prune_eq .top n
  rw [h] at htype hrules ⊢
  unfold add
  dsimp only
  split
  · rfl
  · next hn => rw [htype hn]; rfl
  · next hn => rw [hrules hn]
  · rfl

/-- **Nodes that are passed over make no difference.** -/
theorem ofNodes_pruneAll (ns : List Node) : ofNodes (pruneAll .top ns) = ofNodes ns := by
  unfold ofNodes
  rw [foldlM_pruneAll rfl fun s n _ => add_prune s n]

/-! ## Nodes that are taken -/

theorem stands_prune_of_leaf {p : Place} (h : p.inside? n = some .leaf) : (n.prune p).Stands p :=
  stands_prune h fun m hm => by
    rw [pruneAll_leaf] at hm
    cases hm

/-- What is left at a place stands there if each node that is taken does. -/
theorem stands_of_mem_pruneAll {p : Place}
    (h : ∀ n ∈ ns, (p.refuses || (p.inside? n).isSome) = true → (n.prune p).Stands p) :
    ∀ m ∈ pruneAll p ns, m.Stands p := by
  intro m hm
  rw [pruneAll_eq] at hm
  obtain ⟨n, hn, rfl⟩ := List.mem_map.1 hm
  obtain ⟨hn, htaken⟩ := List.mem_filter.1 hn
  exact h n hn htaken

theorem stands_prune_field (hn : n.name = "field") : (n.prune .type).Stands .type := by
  have hinside : Place.inside? .type n = some (if n.isChoice then .choice else .leaf) :=
    Place.inside?_of_name hn rfl
  by_cases hchoice : n.isChoice = true
  · rw [if_pos hchoice] at hinside
    refine stands_prune hinside (stands_of_mem_pruneAll fun m _ hm => ?_)
    rw [Place.isSome_inside?_choice] at hm
    exact stands_prune_of_leaf (Place.inside?_of_name (beq_iff_eq.1 hm) rfl)
  · rw [if_neg hchoice] at hinside
    exact stands_prune_of_leaf hinside

theorem TableRule.DeclaredBy.stands {t : TableRule} (h : t.DeclaredBy n) :
    ∀ m ∈ pruneAll .table n.children, m.Stands .table := by
  refine stands_of_mem_pruneAll fun m hm _ => stands_prune_of_leaf ?_
  obtain ⟨c, -, hc⟩ := exists_mem_of_forall₂_left h.columns hm
  exact Place.inside?_of_name hc.node rfl

theorem SectionRule.DeclaredBy.stands {s : SectionRule} (h : s.DeclaredBy n) :
    ∀ m ∈ pruneAll .section_ n.children, m.Stands .section_ := by
  induction n using Node.inside_induction generalizing s with
  | h n ih =>
    obtain ⟨-, -, -, hinside, -⟩ := h
    refine stands_of_mem_pruneAll fun m hm _ => ?_
    obtain ⟨part, -, hpart⟩ := exists_mem_of_forall₂_left hinside hm
    cases hpart with
    | child hn h => exact stands_prune (Place.inside?_of_name hn rfl) (ih m hm h)
    | table hn h => exact stands_prune (Place.inside?_of_name hn rfl) h.stands
    | content hn | list hn | diagram hn =>
      exact stands_prune_of_leaf (Place.inside?_of_name hn rfl)

theorem DocType.DeclaredBy.stands {t : DocType} (h : t.DeclaredBy n) :
    ∀ m ∈ pruneAll .type n.children, m.Stands .type := by
  refine stands_of_mem_pruneAll fun m hm _ => ?_
  rcases h.inside.nodes m hm with hn | hn
  · exact stands_prune_field hn
  · obtain ⟨s, -, hs⟩ := exists_mem_of_forall₂_left h.inside.sections (mem_withName.2 ⟨hm, hn⟩)
    exact stands_prune (Place.inside?_of_name hn rfl) (SectionRule.DeclaredBy.stands hs)

/-- **All nodes of a schema that are not passed over stand where the language takes
    them.** -/
theorem DeclaredBy.stands {s : Schema} (h : s.DeclaredBy ns) :
    ∀ m ∈ pruneAll .top ns, m.Stands .top := by
  obtain ⟨types, hholds, -⟩ := h
  refine stands_of_mem_pruneAll fun m hm _ => ?_
  rcases hholds.nodes m hm with hn | hn | hn
  · exact stands_prune_of_leaf (Place.inside?_of_name hn rfl)
  · obtain ⟨t, -, ht⟩ := exists_mem_of_forall₂_left hholds.types (mem_withName.2 ⟨hm, hn⟩)
    exact stands_prune (Place.inside?_of_name hn rfl) ht.stands
  · exact stands_prune (q := .rules) (Place.inside?_of_name hn rfl)
      (stands_of_mem_pruneAll fun m _ _ => stands_prune_of_leaf (Place.inside?_rules m))

end

/-- **Where the nodes of a source stand.**  A source is read as if nodes were not
    there that are passed over.  All others stand where the language takes them if
    the source has a schema; so all nodes do exactly if none is passed over. -/
theorem ofSource_pruneAll {source : String} {nodes : List Node}
    (hnodes : Node.ofSource source = .ok nodes) :
    ofSource source = ofNodes (Node.pruneAll .top nodes) ∧
    ∀ s, ofSource source = .ok s →
      (∀ n ∈ Node.pruneAll .top nodes, n.Stands .top) ∧
      ((∀ n ∈ nodes, n.Stands .top) ↔ Node.pruneAll .top nodes = nodes) := by
  have hsource : ofSource source = ofNodes nodes := by
    rw [ofSource, hnodes]
    rfl
  refine ⟨hsource.trans (ofNodes_pruneAll nodes).symm, fun s hs => ?_⟩
  have hstands := (ofNodes_eq_ok_iff.1 (hsource.symm.trans hs)).1.stands
  exact ⟨hstands, Node.pruneAll_eq_self, fun h => h ▸ hstands⟩

/-- Inside of a choice only nodes with values are taken, and inside of a relation
    none. -/
theorem ofSource_pruneAll_choice :
    let nodes : List Node := [⟨"relation", 1, [.text "r"], [], []⟩,
      ⟨"type", 1, [.text "t"], [], [⟨"field", 1, [.text "f"], [("type", .text "enum")],
        [⟨"values", 1, [.text "a"], [], []⟩]⟩]⟩]
    ofSource "relation r\x7bx\x7d; type t\x7bfield f type=enum\x7bvalues a; y\x7d\x7d" =
      ofNodes nodes ∧ ∀ n ∈ nodes, n.Stands .top := by
  have hnodes : Node.ofSource
      "relation r\x7bx\x7d; type t\x7bfield f type=enum\x7bvalues a; y\x7d\x7d" =
      .ok [⟨"relation", 1, [.text "r"], [], [⟨"x", 1, [], [], []⟩]⟩,
        ⟨"type", 1, [.text "t"], [], [⟨"field", 1, [.text "f"], [("type", .text "enum")],
          [⟨"values", 1, [.text "a"], [], []⟩, ⟨"y", 1, [], [], []⟩]⟩]⟩] := by decide +kernel
  obtain ⟨hsame, hstands⟩ := ofSource_pruneAll hnodes
  have hs : ofSource "relation r\x7bx\x7d; type t\x7bfield f type=enum\x7bvalues a; y\x7d\x7d" =
      .ok { types := [{ name := "t", fields := [{ name := "f", kind := .choice, choices := ["a"] },
              { name := "r", kind := .refs, relation := some "r" }] }]
            relations := [{ name := "r" }] } := by decide +kernel
  exact ⟨hsame, (hstands _ hs).1⟩

/-- **A schema can have nodes that do not stand where the language takes them.** -/
theorem ofSource_gadget_inside_field : ∃ nodes s,
    Node.ofSource "type x \x7b\n  field a \x7b gadget \x7d\n\x7d\n" = .ok nodes ∧
    ofSource "type x \x7b\n  field a \x7b gadget \x7d\n\x7d\n" = .ok s ∧
    ¬∀ n ∈ nodes, n.Stands .top := by
  have hnodes : Node.ofSource "type x \x7b\n  field a \x7b gadget \x7d\n\x7d\n" =
      .ok [⟨"type", 1, [.text "x"], [],
        [⟨"field", 2, [.text "a"], [], [⟨"gadget", 2, [], [], []⟩]⟩]⟩] := by decide +kernel
  have hs : ofSource "type x \x7b\n  field a \x7b gadget \x7d\n\x7d\n" =
      .ok ⟨[⟨"x", none, none, none, [⟨"a", .text, false, none, [], none, none, none, false⟩], []⟩],
        [], []⟩ := by decide +kernel
  refine ⟨_, _, hnodes, hs, fun h => ?_⟩
  obtain ⟨htype, hfield⟩ := h _ (List.mem_singleton.2 rfl)
  cases htype
  obtain ⟨hinside, hgadget⟩ := hfield _ (List.mem_singleton.2 rfl)
  cases hinside
  obtain ⟨hnone, -⟩ := hgadget _ (List.mem_singleton.2 rfl)
  cases hnone

end Folio.Schema
