/-
  Folio — the grammar of nodes.

  All that reads nodes is made of a few steps: a look at the next token and past it, an alias,
  the label of a node and the end of it.  What holds of these steps, and of one reader after
  another if it holds of both, holds of all of them.  It may speak of the nodes that were read
  before, and of those that a reader gives.

  So a reader of tokens fails with the error after the tokens, which it leaves as it is, or
  with one of its own, which is no misfit (`Reader.Reads`).

  * `Reader.Law`: what holds of the steps;
  * `Reader.Law.nodes`: so it holds of nodes and their parts, by induction on the number of
    steps;
  * `Reader.Law.singleDocument`: and of whole documents;
  * `Reader.law_reads`, `reads_ofText?`: how reading nodes fails.
-/
import Mathlib
import Folio.Proofs.Yaml.Scan
import Folio.Yaml.Node

namespace Folio.Yaml

/-! ## Nodes in nodes -/

namespace Node

/-- The node is another one or lies in it. -/
inductive Within (n : Node) : Node → Prop
  | self : Within n n
  | item {i : Node} {l m t items} : i ∈ items → Within n i → Within n (.sequence l m t items)
  | key {e : Node × Node} {l m t es} : e ∈ es → Within n e.1 → Within n (.mapping l m t es)
  | value {e : Node × Node} {l m t es} : e ∈ es → Within n e.2 → Within n (.mapping l m t es)

theorem Within.trans {a b c : Node} (hab : a.Within b) (hbc : b.Within c) : a.Within c := by
  induction hbc with
  | self => exact hab
  | item hi _ ih => exact .item hi ih
  | key he _ ih => exact .key he ih
  | value he _ ih => exact .value he ih

/-- What lies inside the node lies in some nodes. -/
def Over (ns : List Node) (n : Node) : Prop := ∀ a : Node, a.Within n → a = n ∨ ∃ c ∈ ns, a.Within c

theorem over_scalar {ns : List Node} {l : Label} {m : Mark} {t : Tag} {text : List Char} :
    (Node.scalar l m t text).Over ns := fun a ha => by
  cases ha
  exact .inl rfl

theorem over_sequence {ns items : List Node} (hi : items ⊆ ns) {l : Label} {m : Mark} {t : Tag} :
    (Node.sequence l m t items).Over ns := fun a ha => by
  cases ha with
  | self => exact .inl rfl
  | item hmem ha => exact .inr ⟨_, hi hmem, ha⟩

/-- The nodes of some entries. -/
def ofEntries (es : List (Node × Node)) : List Node := es.flatMap fun e => [e.1, e.2]

theorem over_mapping {ns : List Node} {es : List (Node × Node)} (he : ofEntries es ⊆ ns) {l : Label}
    {m : Mark} {t : Tag} : (Node.mapping l m t es).Over ns := fun a ha => by
  cases ha with
  | self => exact .inl rfl
  | key hmem ha =>
    exact .inr ⟨_, he (List.mem_flatMap.2 ⟨_, hmem, List.mem_cons_self⟩), ha⟩
  | value hmem ha =>
    refine .inr ⟨_, he (List.mem_flatMap.2 ⟨_, hmem, ?_⟩), ha⟩
    exact List.mem_cons_of_mem _ List.mem_cons_self

end Node

namespace Reader

/-- What holds of the steps of reading: of a reader with the nodes before it and those that it
    gives. -/
structure Law (P : (α : Type) → List Node → Reader α → (α → List Node) → Prop) : Prop where
  /-- Nodes that are given have been read, or they are made of such and have no label. -/
  pure : ∀ {α ns} {a : α} {out}, (∀ n ∈ out a, n ∈ ns ∨ n.label = none ∧ n.Over ns) →
    P α ns (pure a) out
  throw : ∀ {α ns} {e : Error} {out}, e.isOfReading = true → P α ns (throw e) out
  bind : ∀ {α β ns} {x : Reader α} {f : α → Reader β} {out out'}, P α ns x out →
    (∀ a, P β (out a ++ ns) (f a) out') → P β ns (x >>= f) out'
  get : ∀ {ns}, P Reading ns get fun _ => []
  setHandles : ∀ {ns} handles, P Unit ns (modify fun r => { r with handles }) fun _ => []
  peek : ∀ {ns}, P Token ns peek fun _ => []
  drop : ∀ {ns}, P Unit ns drop fun _ => []
  aliased : ∀ {ns} name mark, P Node ns (aliased name mark) fun n => [n]
  /-- A node from its label to its end. -/
  named : ∀ {α ns} {x : Reader α} {make : Label → α → Node} {out} p mark, P α ns x out →
    (∀ l a, (make l a).label = l ∧ (make l a).Over (out a ++ ns)) →
      P Node ns (label p mark >>= fun l => x >>= fun a => define p (make l a)) fun n => [n]

namespace Law
variable {P : (α : Type) → List Node → Reader α → (α → List Node) → Prop} (h : Law P) {α β : Type}
  {ns : List Node}
include h

/-- Nothing is given. -/
theorem done {a : α} {out : α → List Node} (ho : out a = []) : P α ns (Pure.pure a) out :=
  h.pure fun n hn => by rw [ho] at hn; cases hn

theorem throw_bind {e : Error} {f : α → Reader β} {out : β → List Node} (he : e.isOfReading = true)
    (hf : ∀ a, P β ns (f a) out) : P β ns (MonadExcept.throw e >>= f) out :=
  h.bind (h.throw he : P α ns _ fun _ => []) hf

theorem fail {out : α → List Node} (activity : Activity) (start : Mark) (p : Problem) (m : Mark) :
    P α ns (Reader.fail activity start p m) out := h.throw rfl

theorem empty (m : Mark) : P Node ns (Reader.empty m) fun n => [n] :=
  h.bind h.get fun _ => h.pure fun n hn => by
    obtain rfl := List.mem_singleton.1 hn
    exact .inr ⟨rfl, Node.over_scalar⟩

/-! ## Properties of nodes -/

theorem anchor? : P _ ns Reader.anchor? fun _ => [] := by
  refine h.bind h.peek fun t => ?_
  split
  · exact h.bind h.drop fun _ => h.done rfl
  · exact h.done rfl

theorem tag? : P _ ns Reader.tag? fun _ => [] := by
  refine h.bind h.peek fun t => ?_
  split
  · exact h.bind h.drop fun _ => h.done rfl
  · exact h.done rfl

theorem properties : P _ ns Reader.properties fun _ => [] := by
  refine h.bind h.anchor? fun a => ?_
  split
  · refine h.bind h.tag? fun t => ?_
    split <;> exact h.done rfl
  · refine h.bind h.tag? fun t => ?_
    split
    · exact h.bind h.anchor? fun _ => h.done rfl
    · exact h.done rfl

theorem resolve (p : Properties) : P _ ns (Reader.resolve p) fun _ => [] := by
  unfold Reader.resolve
  split
  · exact h.done rfl
  · exact h.done rfl
  · refine h.bind h.get fun r => ?_
    split
    · exact h.done rfl
    · exact h.fail _ _ _ _

theorem scalarTag (tag : Option (List Char)) (plain : Bool) (text : List Char) :
    P _ ns (Reader.scalarTag tag plain text) fun _ => [] := by
  refine h.bind h.get fun r => ?_
  split <;> exact h.done rfl

/-! ## From the label of a node to its end -/

/-- A node of which something comes between its label and its parts. -/
theorem named_after {y : Reader β} {x : Reader α} {make : Label → α → Node} {out : α → List Node}
    (p : Properties) (mark : Mark) (hy : P β ns y fun _ => []) (hx : P α ns x out)
    (hmake : ∀ l a, (make l a).label = l ∧ (make l a).Over (out a ++ ns)) :
    P Node ns (label p mark >>= fun l => y >>= fun _ => x >>= fun a => define p (make l a))
      fun n => [n] := by
  have hnamed := h.named p mark (h.bind hy fun _ => hx) hmake
  simpa only [bind_assoc] using hnamed

theorem scalar (p : Properties) (m start : Mark) (tag : Option (List Char)) (plain : Bool)
    (text : List Char) :
    P Node ns (do
      let l ← label p m
      define p (.scalar l start (← Reader.scalarTag tag plain text) text)) fun n => [n] :=
  h.named p m (h.scalarTag tag plain text) fun _ _ => ⟨rfl, Node.over_scalar⟩

section
variable {x : Reader (List Node)} (hx : P _ ns x id) (p : Properties) (m start : Mark) (t : Tag)
include hx

theorem sequence :
    P Node ns (do let l ← label p m; define p (.sequence l start t (← x))) fun n => [n] :=
  h.named p m hx fun _ _ => ⟨rfl, Node.over_sequence (List.subset_append_left _ _)⟩

theorem sequence_after_drop :
    P Node ns (do let l ← label p m; Reader.drop; define p (.sequence l start t (← x)))
      fun n => [n] :=
  h.named_after p m h.drop hx fun _ _ => ⟨rfl, Node.over_sequence (List.subset_append_left _ _)⟩

end

theorem mapping_after_drop {x : Reader (List (Node × Node))} (hx : P _ ns x Node.ofEntries)
    (p : Properties) (m start : Mark) (t : Tag) :
    P Node ns (do let l ← label p m; Reader.drop; define p (.mapping l start t (← x)))
      fun n => [n] :=
  h.named_after p m h.drop hx fun _ _ => ⟨rfl, Node.over_mapping (List.subset_append_left _ _)⟩

/-! ## Items and entries -/

/-- An item, or a pair inside brackets, before the items that are left. -/
theorem items {x : Reader (List Node)} (hx : ∀ ns, P _ ns x id) (item : Node) :
    P _ (item :: ns) (do return item :: (← x)) id :=
  h.bind (hx _) fun _ => h.pure fun n hn => .inl (by
    rcases List.mem_cons.1 hn with rfl | hn
    · exact List.mem_append_right _ List.mem_cons_self
    · exact List.mem_append_left _ hn)

theorem pair {x : Reader (List Node)} (hx : ∀ ns, P _ ns x id) (m : Mark) (key value : Node) :
    P _ (value :: key :: ns) (do return .mapping none m .map [(key, value)] :: (← x)) id :=
  h.bind (hx _) fun _ => h.pure fun n hn => by
    rcases List.mem_cons.1 hn with rfl | hn
    · refine .inr ⟨rfl, Node.over_mapping fun c hc => List.mem_append_right _ ?_⟩
      rcases List.mem_pair.1 hc with rfl | rfl
      · exact List.mem_cons_of_mem _ List.mem_cons_self
      · exact List.mem_cons_self
    · exact .inl (List.mem_append_left _ hn)

theorem entries {x : Reader (List (Node × Node))} (hx : ∀ ns, P _ ns x Node.ofEntries)
    (key value : Node) :
    P _ (value :: key :: ns) (do return (key, value) :: (← x)) Node.ofEntries :=
  h.bind (hx _) fun _ => h.pure fun n hn => .inl (by
    rw [Node.ofEntries, List.flatMap_cons, List.mem_append] at hn
    rcases hn with hn | hn
    · refine List.mem_append_right _ ?_
      rcases List.mem_pair.1 hn with rfl | rfl
      · exact List.mem_cons_of_mem _ List.mem_cons_self
      · exact List.mem_cons_self
    · exact List.mem_append_left _ hn)

/-- Inside brackets either the bracket closes, or an item comes, after a comma if
    it is not the first. -/
theorem separated {opened later comma : Prop} [Decidable opened] [Decidable later]
    [Decidable comma] {close : Reader α} {item : Unit → Reader α} {activity : Activity}
    {start : Mark} {p : Problem} {m : Mark} {out : α → List Node} (hclose : P _ ns close out)
    (hitem : ∀ u, P _ ns (item u) out) :
    P _ ns (if opened then
      if later then
        if comma then Reader.drop >>= item else Reader.fail activity start p m >>= item
      else item ()
    else close) out := by
  split
  · split
    · split
      · exact h.bind h.drop hitem
      · exact h.throw_bind rfl hitem
    · exact hitem ()
  · exact hclose

end Law

/-! ## Nodes -/

/-- All that is read with some number of steps. -/
structure Nodes (P : (α : Type) → List Node → Reader α → (α → List Node) → Prop) (fuel : Nat) :
    Prop where
  node : ∀ block indentless ns, P _ ns (node fuel block indentless) fun n => [n]
  blockSequence : ∀ start ns, P _ ns (blockSequence fuel start) id
  indentlessSequence : ∀ ns, P _ ns (indentlessSequence fuel) id
  blockMapping : ∀ start ns, P _ ns (blockMapping fuel start) Node.ofEntries
  blockPart : ∀ sign ns, P _ ns (blockPart fuel sign) fun n => [n]
  flowPart : ∀ sign ends ns, P _ ns (flowPart fuel sign ends) fun n => [n]
  flowValue : ∀ ends ns, P _ ns (flowValue fuel ends) fun n => [n]
  flowSequence : ∀ start first ns, P _ ns (flowSequence fuel start first) id
  flowMapping : ∀ start first ns, P _ ns (flowMapping fuel start first) Node.ofEntries

namespace Nodes
variable {P : (α : Type) → List Node → Reader α → (α → List Node) → Prop} {fuel : Nat}
  (hn : Nodes P fuel) (h : Law P)
include hn h

theorem node_succ (block indentless : Bool) (ns : List Node) :
    P _ ns (Reader.node (fuel + 1) block indentless) fun n => [n] := by
  rw [Reader.node]
  refine h.bind h.peek fun t => ?_
  split
  · exact h.bind h.drop fun _ => h.aliased _ _
  · refine h.bind h.properties fun p => h.bind (h.resolve p) fun tag => h.bind h.peek fun t => ?_
    dsimp only
    split
    · exact h.bind h.drop fun _ => h.scalar _ _ _ _ _ _
    · exact h.sequence_after_drop (hn.flowSequence _ _ _) _ _ _ _
    · exact h.mapping_after_drop (hn.flowMapping _ _ _) _ _ _ _
    · split
      · exact h.sequence (hn.indentlessSequence _) _ _ _ _
      · split
        · exact h.sequence_after_drop (hn.blockSequence _ _) _ _ _ _
        · split
          · exact h.mapping_after_drop (hn.blockMapping _ _) _ _ _ _
          · split
            · exact h.scalar _ _ _ _ _ _
            · exact h.fail _ _ _ _

theorem blockSequence_succ (start : Mark) (ns : List Node) :
    P _ ns (Reader.blockSequence (fuel + 1) start) id := by
  rw [Reader.blockSequence]
  refine h.bind h.peek fun t => ?_
  split
  · refine h.bind h.drop fun _ => h.bind h.peek fun t' => ?_
    split
    · exact h.bind (h.empty _) (h.items (hn.blockSequence _))
    · exact h.bind (hn.node _ _ _) (h.items (hn.blockSequence _))
  · split
    · exact h.bind h.drop fun _ => h.done rfl
    · exact h.fail _ _ _ _

theorem indentlessSequence_succ (ns : List Node) :
    P _ ns (Reader.indentlessSequence (fuel + 1)) id := by
  rw [Reader.indentlessSequence]
  refine h.bind h.peek fun t => ?_
  split
  · refine h.bind h.drop fun _ => h.bind h.peek fun t' => ?_
    split
    · exact h.bind (h.empty _) (h.items hn.indentlessSequence)
    · exact h.bind (hn.node _ _ _) (h.items hn.indentlessSequence)
  · exact h.done rfl

/-- After a sign stands a node, unless one of some tokens comes next. -/
theorem part (kinds : List TokenKind) (m : Mark) (block indentless : Bool) (ns : List Node) :
    P _ ns (do
      if isOneOf (← peek) kinds then Reader.empty m else Reader.node fuel block indentless)
      fun n => [n] := by
  refine h.bind h.peek fun t => ?_
  split
  · exact h.empty _
  · exact hn.node _ _ _

theorem blockPart_succ (sign : Token) (ns : List Node) :
    P _ ns (Reader.blockPart (fuel + 1) sign) fun n => [n] := by
  rw [Reader.blockPart]
  exact hn.part h _ _ _ _ _

theorem blockMapping_succ (start : Mark) (ns : List Node) :
    P _ ns (Reader.blockMapping (fuel + 1) start) Node.ofEntries := by
  rw [Reader.blockMapping]
  refine h.bind h.peek fun t => ?_
  split
  · refine h.bind h.drop fun _ => h.bind (hn.blockPart _ _) fun key => h.bind h.peek fun v => ?_
    split
    · exact h.bind h.drop fun _ => h.bind (hn.blockPart _ _) (h.entries (hn.blockMapping _) key)
    · exact h.bind (h.empty _) (h.entries (hn.blockMapping _) key)
  · split
    · exact h.bind h.drop fun _ => h.done rfl
    · exact h.fail _ _ _ _

theorem flowPart_succ (sign : Token) (ends : List TokenKind) (ns : List Node) :
    P _ ns (Reader.flowPart (fuel + 1) sign ends) fun n => [n] := by
  rw [Reader.flowPart]
  exact hn.part h _ _ _ _ _

theorem flowValue_succ (ends : List TokenKind) (ns : List Node) :
    P _ ns (Reader.flowValue (fuel + 1) ends) fun n => [n] := by
  rw [Reader.flowValue]
  refine h.bind h.peek fun v => ?_
  split
  · exact h.bind h.drop fun _ => hn.flowPart _ _ _
  · exact h.empty _

theorem flowSequence_succ (start : Mark) (first : Bool) (ns : List Node) :
    P _ ns (Reader.flowSequence (fuel + 1) start first) id := by
  rw [Reader.flowSequence]
  refine h.bind h.peek fun t => ?_
  extract_lets close item
  have hclose : ∀ u, P _ ns (close u) id := fun _ => h.bind h.drop fun _ => h.done rfl
  have hitem : ∀ u, P _ ns (item u) id := by
    refine fun _ => h.bind h.peek fun t => ?_
    split
    · exact h.bind h.drop fun _ => h.bind (hn.flowPart _ _ _) fun key =>
        h.bind (hn.flowValue _ _) (h.pair (hn.flowSequence _ _) _ key)
    · split
      · exact h.bind (hn.node _ _ _) (h.items (hn.flowSequence _ _))
      · exact hclose ()
  exact h.separated (hclose ()) hitem

theorem flowMapping_succ (start : Mark) (first : Bool) (ns : List Node) :
    P _ ns (Reader.flowMapping (fuel + 1) start first) Node.ofEntries := by
  rw [Reader.flowMapping]
  refine h.bind h.peek fun t => ?_
  extract_lets close entry
  have hclose : ∀ u, P _ ns (close u) Node.ofEntries := fun _ => h.bind h.drop fun _ => h.done rfl
  have hentry : ∀ u, P _ ns (entry u) Node.ofEntries := by
    refine fun _ => h.bind h.peek fun t => ?_
    split
    · exact h.bind h.drop fun _ => h.bind (hn.flowPart _ _ _) fun key =>
        h.bind (hn.flowValue _ _) (h.entries (hn.flowMapping _ _) key)
    · split
      · exact h.bind (hn.node _ _ _) fun key => h.bind h.peek fun _ =>
          h.bind (h.empty _) (h.entries (hn.flowMapping _ _) key)
      · exact hclose ()
  exact h.separated (hclose ()) hentry

end Nodes

namespace Law
variable {P : (α : Type) → List Node → Reader α → (α → List Node) → Prop} (h : Law P)
  {ns : List Node}
include h

/-- **What holds of the steps of reading holds of all nodes and their parts.** -/
theorem nodes (fuel : Nat) : Nodes P fuel := by
  induction fuel with
  | zero =>
    constructor
    · intro block indentless ns; rw [node]; exact h.throw rfl
    · intro start ns; rw [blockSequence]; exact h.done rfl
    · intro ns; rw [indentlessSequence]; exact h.done rfl
    · intro start ns; rw [blockMapping]; exact h.done rfl
    · intro sign ns; rw [blockPart]; exact h.empty _
    · intro sign ends ns; rw [flowPart]; exact h.empty _
    · intro ends ns; rw [flowValue]; exact h.empty _
    · intro start first ns; rw [flowSequence]; exact h.done rfl
    · intro start first ns; rw [flowMapping]; exact h.done rfl
  | succ fuel ih =>
    exact ⟨ih.node_succ h, ih.blockSequence_succ h, ih.indentlessSequence_succ h,
      ih.blockMapping_succ h, ih.blockPart_succ h, ih.flowPart_succ h, ih.flowValue_succ h,
      ih.flowSequence_succ h, ih.flowMapping_succ h⟩

/-! ## Documents -/

theorem directives (fuel : Nat) (versioned : Bool) (handles : List (List Char × List Char)) :
    P _ ns (Reader.directives fuel versioned handles) fun _ => [] := by
  induction fuel generalizing versioned handles with
  | zero => exact h.done rfl
  | succ fuel ih =>
    rw [Reader.directives]
    refine h.bind h.peek fun t => ?_
    split
    · refine h.bind h.drop fun _ => ?_
      extract_lets rest check
      have hrest : ∀ u, P _ ns (rest u) fun _ => [] := fun _ => ih _ _
      have hcheck : ∀ u, P _ ns (check u) fun _ => [] := by
        intro u
        unfold check
        split
        · exact h.throw_bind rfl hrest
        · exact hrest ()
      split
      · exact h.throw_bind rfl hcheck
      · exact hcheck ()
    · refine h.bind h.drop fun _ => ?_
      split
      · exact h.throw_bind rfl fun _ => ih _ _
      · exact ih _ _
    · exact h.bind h.drop fun _ => ih _ _
    · exact h.done rfl

theorem documentStart (fuel : Nat) : P _ ns (Reader.documentStart fuel) fun _ => [] := by
  refine h.bind (h.directives _ _ _) fun _ => h.bind (h.setHandles _) fun _ =>
    h.bind h.peek fun t => ?_
  split
  · exact h.throw_bind rfl fun _ => h.drop
  · exact h.drop

theorem skipDocumentEnds (fuel : Nat) : P _ ns (Reader.skipDocumentEnds fuel) fun _ => [] := by
  induction fuel with
  | zero => exact h.done rfl
  | succ fuel ih =>
    rw [Reader.skipDocumentEnds]
    refine h.bind h.peek fun t => ?_
    split
    · exact h.bind h.drop fun _ => ih
    · exact h.done rfl

theorem firstDocument (fuel : Nat) : P _ ns (Reader.firstDocument fuel) Option.toList := by
  have hsome : ∀ {x : Reader Node}, P _ ns x (fun n => [n]) →
      P _ ns (do return some (← x)) Option.toList :=
    fun hx => h.bind hx fun n => h.pure fun c hc => .inl (List.mem_append_left _ hc)
  have hnode := hsome ((h.nodes fuel).node true false ns)
  refine h.bind h.drop fun _ => h.bind h.peek fun t => ?_
  split
  · exact h.done rfl
  · split
    · refine h.bind (h.documentStart _) fun _ => h.bind h.peek fun t => ?_
      split
      · exact hsome (h.empty _)
      · exact hnode
    · exact h.bind (h.setHandles _) fun _ => hnode

/-- **What holds of the steps of reading holds of the document of a stream.** -/
theorem singleDocument (fuel : Nat) : P _ ns (Reader.singleDocument fuel) Option.toList := by
  refine h.bind (h.firstDocument _) fun n => ?_
  split
  · exact h.done rfl
  · refine h.bind (h.skipDocumentEnds _) fun _ => h.bind h.peek fun t => ?_
    split
    · exact h.pure fun c hc => .inl (show c ∈ Option.toList _ ++ ns from List.mem_append_left _ hc)
    · exact h.bind (h.documentStart _) fun _ => h.fail _ _ _ _

end Law

end Reader

/-! ## Errors -/

namespace Reader
variable {α β : Type}

/-- From a state on, a reader fails with no misfit but that of an escape, and it
    leaves the error after the tokens as it is. -/
def ReadsFrom (r : Reading) (x : Reader α) : Prop :=
  Yaml.Reads (x r) ∧ ∀ a r', x r = .ok (a, r') → r'.error = r.error

/-- So it does from every state whose error is no other misfit. -/
def Reads (x : Reader α) : Prop :=
  ∀ r, (∀ e, r.error = some e → e.isOfReading = true) → ReadsFrom r x

theorem readsFrom_pure (r : Reading) (a : α) : ReadsFrom r (pure a : Reader α) :=
  ⟨Yaml.reads_pure _, fun _ _ h => by cases h; rfl⟩

theorem readsFrom_throw (r : Reading) {e : Error} (he : e.isOfReading = true) :
    ReadsFrom r (throw e : Reader α) :=
  ⟨Yaml.reads_error.2 he, fun _ _ h => by cases h⟩

theorem reads_pure (a : α) : Reads (pure a : Reader α) := fun r _ => readsFrom_pure r a

theorem reads_throw {e : Error} (he : e.isOfReading = true) : Reads (throw e : Reader α) :=
  fun r _ => readsFrom_throw r he

theorem Reads.bind {x : Reader α} {f : α → Reader β} (hx : Reads x) (hf : ∀ a, Reads (f a)) :
    Reads (x >>= f) := by
  intro r hr
  obtain ⟨hxe, hxa⟩ := hx r hr
  change Yaml.Reads (x r >>= fun p => f p.1 p.2) ∧
    ∀ b r'', (x r >>= fun p => f p.1 p.2) = .ok (b, r'') → r''.error = r.error
  cases h : x r with
  | error e =>
    rw [h] at hxe
    exact ⟨Yaml.reads_error.2 (Yaml.reads_error.1 hxe), fun b r'' hb => by cases hb⟩
  | ok p =>
    have hr' := hxa p.1 p.2 h
    obtain ⟨hfe, hfa⟩ := hf p.1 p.2 (hr' ▸ hr)
    exact ⟨hfe, fun b r'' hb => (hfa b r'' hb).trans hr'⟩

/-- A reader may look at the state. -/
theorem reads_get_bind {f : Reading → Reader α}
    (h : ∀ r, (∀ e, r.error = some e → e.isOfReading = true) → ReadsFrom r (f r)) :
    Reads (get >>= f) := h

theorem reads_get : Reads (get : Reader Reading) := reads_get_bind fun r _ => readsFrom_pure r r

theorem reads_modify {f : Reading → Reading} (hf : ∀ r, (f r).error = r.error) :
    Reads (modify f : Reader Unit) :=
  fun r _ => ⟨Yaml.reads_ok _, fun _ _ h => by cases h; exact hf r⟩

theorem reads_peek : Reads peek := by
  refine reads_get_bind fun r hr => ?_
  split
  · exact readsFrom_pure _ _
  · refine readsFrom_throw _ ?_
    cases he : r.error with
    | none => rfl
    | some e => exact hr e he

theorem reads_drop : Reads drop := reads_modify fun _ => rfl

theorem reads_label (p : Properties) (m : Mark) : Reads (label p m) := by
  unfold label
  split
  · exact reads_pure _
  · refine reads_get_bind fun r hr => ?_
    split
    · exact readsFrom_throw _ rfl
    · exact ⟨Yaml.reads_ok _, fun _ _ h => by cases h; rfl⟩

theorem reads_define (p : Properties) (n : Node) : Reads (define p n) := by
  unfold define
  split
  · exact reads_pure _
  · exact Reads.bind (reads_modify fun _ => rfl) fun _ => reads_pure _

theorem reads_aliased (name : List Char) (m : Mark) : Reads (aliased name m) := by
  refine reads_get.bind fun r => ?_
  split
  · exact reads_pure _
  · exact reads_throw rfl
  · exact reads_throw rfl

/-- **All that reads nodes** fails with no misfit but that of an escape. -/
theorem law_reads : Law fun _ _ x _ => Reads x where
  pure _ := reads_pure _
  throw := reads_throw
  bind hx hf := hx.bind hf
  get := reads_get
  setHandles _ := reads_modify fun _ => rfl
  peek := reads_peek
  drop := reads_drop
  aliased := reads_aliased
  named p m hx _ := (reads_label p m).bind fun _ => hx.bind fun _ => reads_define _ _

theorem reads_singleDocument (fuel : Nat) : Reads (singleDocument fuel) :=
  @Law.singleDocument _ law_reads [] fuel

end Reader

/-- **A text that cannot be cut into nodes** fails with no misfit but that of an
    escape. -/
theorem reads_ofText? (timestamps : Bool) (text : List Char) :
    Reads (Node.ofText? timestamps text) := by
  unfold Node.ofText?
  split
  · exact reads_error.2 rfl
  · refine reads_map.2 ((Reader.reads_singleDocument _) _ fun e he => ?_).1
    exact Token.isOfReading_of_deliver he

end Folio.Yaml
