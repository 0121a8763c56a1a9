/-
  Folio — the nodes that anchors name.

  The label of a node is the place of its anchor among all.  An anchor names a node from where
  it has been read to its end, so what an alias stands for has been read before, and no alias
  stands for a node that it lies in.  Hence nodes in a text that have one label are one node.

  * `Anchored.Knows`: the nodes whose labels are those of anchors that name them;
  * `Reader.law_composes`: so it is with all nodes that are read;
  * `Node.coherent_of_ofText?`: the labels in the node of a text.
-/
import Folio.Proofs.Yaml.Grammar

namespace Folio.Yaml

/-- Nodes in the node that have one label are one node. -/
def Node.Coherent (n : Node) : Prop :=
  ∀ {a b : Node} {l : Nat}, a.Within n → b.Within n → a.label = some l → b.label = some l → a = b

/-! ## Anchors -/

namespace Anchored
variable {as bs : List Anchored} {n : Node} {l : Nat}

/-- The node that the anchor at a place names, if it has been read to its end.  The latest
    anchor comes first. -/
def named? (as : List Anchored) (place : Nat) : Option Node := as.reverse[place]?.bind (·.node)

/-- Every label in the node is the place of an anchor that names the node with it. -/
def Knows (as : List Anchored) (n : Node) : Prop :=
  ∀ a, a.Within n → ∀ l, a.label = some l → named? as l = some a

/-- No anchor is used twice, and all nodes that anchors name are known. -/
structure Sound (as : List Anchored) : Prop where
  names : (as.map (·.name)).Nodup
  known : ∀ a ∈ as, ∀ n, a.node = some n → Knows as n

theorem sound_nil : Sound [] := ⟨List.nodup_nil, fun _ ha => absurd ha List.not_mem_nil⟩

theorem named?_of_suffix (h : as <:+ bs) (hn : named? as l = some n) : named? bs l = some n := by
  obtain ⟨new, rfl⟩ := h
  obtain ⟨a, ha, hn⟩ := Option.bind_eq_some_iff.1 hn
  have hlt := (List.getElem?_eq_some_iff.1 ha).1
  rw [named?, List.reverse_append, List.getElem?_append_left hlt, ha]
  exact hn

theorem Knows.of_named? (h : ∀ l m, named? as l = some m → named? bs l = some m) (hk : Knows as n) :
    Knows bs n :=
  fun a ha l hl => h l a (hk a ha l hl)

/-- What is known stays known with more anchors. -/
theorem Knows.mono (h : as <:+ bs) (hk : Knows as n) : Knows bs n :=
  hk.of_named? fun _ _ => named?_of_suffix h

theorem Knows.coherent (hk : Knows as n) : n.Coherent := by
  intro a b l ha hb hal hbl
  exact Option.some.inj ((hk a ha l hal).symm.trans (hk b hb l hbl))

/-- A node without a label is known with what it is made of. -/
theorem knows_of_over {ns : List Node} (hl : n.label = none) (hn : n.Over ns)
    (hns : ∀ c ∈ ns, Knows as c) : Knows as n := by
  intro a ha l hal
  rcases hn a ha with rfl | ⟨c, hc, hac⟩
  · rw [hl] at hal
    cases hal
  · exact hns c hc a hac l hal

/-- Another anchor names no node at first. -/
theorem Sound.cons (h : Sound as) {name : List Char} (hname : as.find? (·.name == name) = none)
    (m : Mark) : Sound (⟨name, m, none⟩ :: as) := by
  refine ⟨List.nodup_cons.2 ⟨fun hmem => ?_, h.names⟩, fun a ha n hn => ?_⟩
  · obtain ⟨a, ha, hname'⟩ := List.mem_map.1 hmem
    simpa [hname'] using List.find?_eq_none.1 hname a ha
  · rcases List.mem_cons.1 ha with rfl | ha
    · cases hn
    · exact (h.known a ha n hn).mono (List.suffix_cons _ _)

section
variable {before new : List Anchored} {name : List Char} {m : Mark}

/-- Naming a node changes one anchor. -/
theorem map_define (h : Sound (new ++ ⟨name, m, none⟩ :: before)) (n : Node) :
    (new ++ ⟨name, m, none⟩ :: before).map
      (fun a => if a.name == name then { a with node := some n } else a) =
      new ++ ⟨name, m, some n⟩ :: before := by
  have hnames := h.names
  rw [List.map_append, List.map_cons, List.nodup_middle, List.nodup_cons, ← List.map_append] at hnames
  have hother : ∀ a ∈ new ++ before,
      (if a.name == name then { a with node := some n } else a) = a := fun a ha => by
    refine if_neg fun he => hnames.1 ?_
    have hmem := List.mem_map_of_mem (f := (·.name)) ha
    rwa [eq_of_beq he] at hmem
  rw [List.map_append, List.map_cons,
    List.map_congr_left fun a ha => hother a (List.mem_append_left _ ha),
    List.map_congr_left fun a ha => hother a (List.mem_append_right _ ha)]
  simp

theorem named?_middle (a : Anchored) : named? (new ++ a :: before) before.length = a.node := by
  simp [named?]

theorem named?_middle_of_ne (a b : Anchored) (hl : l ≠ before.length) :
    named? (new ++ a :: before) l = named? (new ++ b :: before) l := by
  rw [named?, named?, List.reverse_append, List.reverse_append, List.reverse_cons, List.reverse_cons,
    List.append_assoc, List.append_assoc]
  rcases Nat.lt_or_gt_of_ne hl with hl | hl
  · rw [List.getElem?_append_left (by simpa using hl), List.getElem?_append_left (by simpa using hl)]
  · obtain ⟨k, rfl⟩ := Nat.exists_eq_add_of_lt hl
    simp [List.getElem?_append_right, Nat.add_assoc]

/-- A node that is named has its anchor's label, and what it is made of is known. -/
theorem Sound.define {ns : List Node} (h : Sound (new ++ ⟨name, m, none⟩ :: before))
    (hl : n.label = some before.length) (hn : n.Over ns)
    (hns : ∀ c ∈ ns, Knows (new ++ ⟨name, m, none⟩ :: before) c) :
    Sound (new ++ ⟨name, m, some n⟩ :: before) ∧ Knows (new ++ ⟨name, m, some n⟩ :: before) n := by
  have hold : ∀ {c}, Knows (new ++ ⟨name, m, none⟩ :: before) c →
      Knows (new ++ ⟨name, m, some n⟩ :: before) c := fun hc =>
    hc.of_named? fun l d hd => by
      by_cases hlen : l = before.length
      · subst hlen
        rw [named?_middle] at hd
        cases hd
      · rwa [named?_middle_of_ne _ _ hlen] at hd
  have hknows : Knows (new ++ ⟨name, m, some n⟩ :: before) n := by
    intro a ha l hal
    rcases hn a ha with rfl | ⟨c, hc, hac⟩
    · rw [hl] at hal
      rw [← Option.some.inj hal, named?_middle]
    · exact hold (hns c hc) a hac l hal
  refine ⟨⟨?_, fun a ha d hd => ?_⟩, hknows⟩
  · simpa using h.names
  · rcases List.mem_append.1 ha with ha | ha
    · exact hold (h.known a (List.mem_append_left _ ha) d hd)
    · rcases List.mem_cons.1 ha with rfl | ha
      · obtain rfl := Option.some.inj hd
        exact hknows
      · exact hold (h.known a (List.mem_append_right _ (List.mem_cons_of_mem _ ha)) d hd)

end

end Anchored

/-! ## Reading nodes -/

namespace Reader

open Anchored

variable {α β : Type} {ns : List Node}

/-- Where some nodes are known, a reader only adds anchors, and all nodes are known that it
    gives. -/
def Composes (ns : List Node) (x : Reader α) (out : α → List Node) : Prop :=
  ∀ r a r', Sound r.anchors → (∀ n ∈ ns, Knows r.anchors n) → x r = .ok (a, r') →
    Sound r'.anchors ∧ r.anchors <:+ r'.anchors ∧ ∀ n ∈ out a, Knows r'.anchors n

theorem exists_of_bind_eq_ok {x : Reader α} {f : α → Reader β} {r r'' : Reading} {b : β}
    (h : (x >>= f) r = .ok (b, r'')) : ∃ a r', x r = .ok (a, r') ∧ f a r' = .ok (b, r'') := by
  change (x r >>= fun p => f p.1 p.2) = .ok (b, r'') at h
  cases hx : x r with
  | error e => rw [hx] at h; cases h
  | ok p => rw [hx] at h; exact ⟨p.1, p.2, rfl, h⟩

theorem Composes.bind {x : Reader α} {f : α → Reader β} {out : α → List Node} {out' : β → List Node}
    (hx : Composes ns x out) (hf : ∀ a, Composes (out a ++ ns) (f a) out') :
    Composes ns (x >>= f) out' := by
  intro r b r'' hr hns h
  obtain ⟨a, r', ha, hb⟩ := exists_of_bind_eq_ok h
  obtain ⟨hr', hadds, hout⟩ := hx r a r' hr hns ha
  obtain ⟨hr'', hadds', hout'⟩ := hf a r' b r'' hr'
    (List.forall_mem_append.2 ⟨hout, fun n hn => (hns n hn).mono hadds⟩) hb
  exact ⟨hr'', hadds.trans hadds', hout'⟩

theorem composes_pure {out : α → List Node} {a : α}
    (h : ∀ n ∈ out a, n ∈ ns ∨ n.label = none ∧ n.Over ns) : Composes ns (pure a : Reader α) out := by
  intro r a' r' hr hns he
  cases he
  refine ⟨hr, List.suffix_rfl, fun n hn => ?_⟩
  rcases h n hn with hmem | ⟨hl, hover⟩
  · exact hns n hmem
  · exact knows_of_over hl hover hns

theorem composes_throw {out : α → List Node} (e : Error) : Composes ns (throw e : Reader α) out :=
  fun _ _ _ _ _ h => by cases h

/-- A reader may look at the state. -/
theorem composes_get_bind {f : Reading → Reader α} {out : α → List Node}
    (h : ∀ r, Composes ns (f r) out) : Composes ns (get >>= f) out :=
  fun r a r' hr hns he => h r r a r' hr hns he

theorem composes_modify {f : Reading → Reading} (hf : ∀ r, (f r).anchors = r.anchors) :
    Composes ns (modify f : Reader Unit) fun _ => [] := by
  intro r a r' hr hns he
  cases he
  rw [hf]
  exact ⟨hr, List.suffix_rfl, fun _ hn => absurd hn List.not_mem_nil⟩

theorem composes_peek : Composes ns peek fun _ => [] := by
  refine composes_get_bind fun r => ?_
  split
  · exact composes_pure (List.forall_mem_nil _)
  · exact composes_throw _

/-- The node of an alias has been read. -/
theorem composes_aliased (name : List Char) (m : Mark) : Composes ns (aliased name m) fun n => [n] := by
  intro r n r' hr _ he
  obtain ⟨_, _, hget, he⟩ := exists_of_bind_eq_ok he
  cases hget
  cases hfound : (r.anchors.find? fun a => a.name == name).map (·.node) with
  | none => rw [hfound] at he; cases he
  | some node? =>
    rw [hfound] at he
    cases node? with
    | none => cases he
    | some c =>
    cases he
    obtain ⟨a, ha, hn⟩ := Option.map_eq_some_iff.1 hfound
    refine ⟨hr, List.suffix_rfl, List.forall_mem_singleton.2 ?_⟩
    exact hr.known a (List.mem_of_find?_eq_some ha) _ hn

/-! ## A node with its anchor -/

/-- Since a node with these properties started, only anchors have been added; its own, if it
    has one, names nothing yet, and its place is the label. -/
def Opened (p : Properties) (l : Label) (before as : List Anchored) : Prop :=
  match p.anchor with
  | none => l = none ∧ before <:+ as
  | some name => l = some before.length ∧ ∃ m, ⟨name, m, none⟩ :: before <:+ as

section
variable {p : Properties} {l : Label} {before as bs : List Anchored} {r r' : Reading} {n n' : Node}

theorem Opened.mono (h : Opened p l before as) (hadds : as <:+ bs) : Opened p l before bs := by
  unfold Opened at h ⊢
  split at h
  · exact ⟨h.1, h.2.trans hadds⟩
  · obtain ⟨hl, m, hm⟩ := h
    exact ⟨hl, m, hm.trans hadds⟩

/-- A node is opened with its label. -/
theorem opened_of_label {m : Mark} (hr : Sound r.anchors) (h : label p m r = .ok (l, r')) :
    Sound r'.anchors ∧ r.anchors <:+ r'.anchors ∧ Opened p l r.anchors r'.anchors := by
  unfold label at h
  unfold Opened
  cases hanchor : p.anchor with
  | none =>
    rw [hanchor] at h
    cases h
    exact ⟨hr, List.suffix_rfl, rfl, List.suffix_rfl⟩
  | some name =>
    rw [hanchor] at h
    obtain ⟨_, _, hget, h⟩ := exists_of_bind_eq_ok h
    cases hget
    cases hnew : r.anchors.find? fun a => a.name == name with
    | some a => rw [hnew] at h; cases h
    | none =>
      rw [hnew] at h
      cases h
      exact ⟨hr.cons hnew m, List.suffix_cons _ _, rfl, m, List.suffix_rfl⟩

/-- A node is named at its end, and is known then. -/
theorem knows_of_define (hr : Sound r.anchors) (hopened : Opened p l before r.anchors)
    (hns : ∀ c ∈ ns, Knows r.anchors c) (hl : n.label = l) (hn : n.Over ns)
    (h : define p n r = .ok (n', r')) :
    Sound r'.anchors ∧ before <:+ r'.anchors ∧ Knows r'.anchors n' := by
  unfold Opened at hopened
  unfold define at h
  split at hopened
  · next hanchor =>
    rw [hanchor] at h
    cases h
    exact ⟨hr, hopened.2, knows_of_over (hl.trans hopened.1) hn hns⟩
  · next name hanchor =>
    obtain ⟨hlen, m, new, hnew⟩ := hopened
    rw [hanchor] at h
    cases h
    rw [← hnew] at hr hns
    have hdefined := hr.define (hl.trans hlen) hn hns
    simp only [← hnew, map_define hr]
    exact ⟨hdefined.1, (List.suffix_cons _ _).trans (List.suffix_append _ _), hdefined.2⟩

end

theorem composes_named {x : Reader α} {make : Label → α → Node} {out : α → List Node}
    (p : Properties) (m : Mark) (hx : Composes ns x out)
    (hmake : ∀ l a, (make l a).label = l ∧ (make l a).Over (out a ++ ns)) :
    Composes ns (label p m >>= fun l => x >>= fun a => define p (make l a)) fun n => [n] := by
  intro r n r₃ hr hns h
  obtain ⟨l, r₁, hl, h⟩ := exists_of_bind_eq_ok h
  obtain ⟨a, r₂, ha, h⟩ := exists_of_bind_eq_ok h
  obtain ⟨hr₁, hadds, hopened⟩ := opened_of_label hr hl
  have hns₁ : ∀ c ∈ ns, Knows r₁.anchors c := fun c hc => (hns c hc).mono hadds
  obtain ⟨hr₂, hadds', hout⟩ := hx r₁ a r₂ hr₁ hns₁ ha
  have hknown : ∀ c ∈ out a ++ ns, Knows r₂.anchors c :=
    List.forall_mem_append.2 ⟨hout, fun c hc => (hns₁ c hc).mono hadds'⟩
  obtain ⟨hr₃, hadds₃, hn⟩ :=
    knows_of_define hr₂ (hopened.mono hadds') hknown (hmake l a).1 (hmake l a).2 h
  exact ⟨hr₃, hadds₃, List.forall_mem_singleton.2 hn⟩

/-- **All nodes that are read** are known at their ends. -/
theorem law_composes : Law fun _ ns x out => Composes ns x out where
  pure := composes_pure
  throw _ := composes_throw _
  bind := Composes.bind
  get := composes_get_bind fun _ => composes_pure (List.forall_mem_nil _)
  setHandles _ := composes_modify fun _ => rfl
  peek := composes_peek
  drop := composes_modify fun _ => rfl
  aliased := composes_aliased
  named := composes_named

end Reader

/-- **Labels in the node of a text**: nodes that have one label are one node. -/
theorem Node.coherent_of_ofText? {timestamps : Bool} {text : List Char} {n : Node}
    (h : Node.ofText? timestamps text = .ok (some n)) : n.Coherent := by
  unfold Node.ofText? at h
  split at h
  · cases h
  · dsimp only at h
    generalize hread : (Reader.singleDocument _).run _ = x at h
    cases x with
    | error e => cases h
    | ok p =>
      obtain ⟨n', r'⟩ := p
      obtain rfl : n' = some n := Except.ok.inj h
      obtain ⟨-, -, hknows⟩ := Reader.law_composes.singleDocument _ _ _ _ Anchored.sound_nil
        (List.forall_mem_nil _) hread
      exact (hknows n List.mem_cons_self).coherent

end Folio.Yaml
