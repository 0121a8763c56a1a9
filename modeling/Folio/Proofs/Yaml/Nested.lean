/-
  Folio — labels of values inside others.

  Nodes with one label are one node, and a node does not lie in itself.  So the label of a
  value that is read does not occur inside the value (`Value.Unlooped`), and another value in
  its place is found where it was.

  * `Value.at?_replaceLabel`: looking up a value that takes the place of another;
  * `Yaml.Build.labels`: the labels in what is built of a node;
  * `Yaml.unlooped_of_decode`: the labels in the value of a text.
-/
import Folio.Proofs.Yaml.Anchors
import Folio.Proofs.Yaml.Keys
import Folio.Proofs.Yaml.Path

namespace Folio

/-! ## Values inside their labels -/

namespace Value

mutual

/-- No label in the value occurs inside the value that it is the label of. -/
def Unlooped : Value → Prop
  | .list l items => List.Disjoint l.toList (itemLabels items) ∧ ItemsUnlooped items
  | .map l es => List.Disjoint l.toList (entryLabels es) ∧ EntriesUnlooped es
  | .pair a b => Unlooped a ∧ Unlooped b
  | _ => True

/-- So it is with some values. -/
def ItemsUnlooped : List Value → Prop
  | [] => True
  | v :: vs => Unlooped v ∧ ItemsUnlooped vs

/-- So it is with the values of some entries. -/
def EntriesUnlooped : List (Value × Value) → Prop
  | [] => True
  | (_, v) :: es => Unlooped v ∧ EntriesUnlooped es

end

section
variable {v w new : Value} {vs items : List Value} {es : Entries} {key part : String}
  {path rest : List String} {n : Nat} {inner : Entries}

theorem itemsUnlooped_iff : ItemsUnlooped vs ↔ ∀ v ∈ vs, v.Unlooped := by
  induction vs with
  | nil => simp [ItemsUnlooped]
  | cons v vs ih => simp [ItemsUnlooped, ih]

theorem entriesUnlooped_iff : EntriesUnlooped es ↔ ∀ e ∈ es, e.2.Unlooped := by
  induction es with
  | nil => simp [EntriesUnlooped]
  | cons e es ih => simp [EntriesUnlooped, ih]

theorem mem_itemLabels : n ∈ itemLabels vs ↔ ∃ v ∈ vs, n ∈ v.labels := by
  induction vs with
  | nil => simp [itemLabels]
  | cons v vs ih => simp [itemLabels, ih]

theorem mem_entryLabels : n ∈ entryLabels es ↔ ∃ e ∈ es, n ∈ e.1.labels ∨ n ∈ e.2.labels := by
  induction es with
  | nil => simp [entryLabels]
  | cons e es ih => simp [entryLabels, ih, or_assoc]

theorem exists_mem_of_get? (h : Entries.get? es key = some w) : ∃ k, (k, w) ∈ es := by
  obtain ⟨e, he, rfl⟩ := Option.map_eq_some_iff.1 h
  exact ⟨e.1, List.mem_of_find?_eq_some he⟩

theorem mem_of_item? (h : item? items part = .ok (some w)) : w ∈ items := by
  rw [item?] at h
  split at h
  · cases hi : Number.readInt 10 part.toList with
    | error e => rw [hi] at h; cases h
    | ok i =>
      rw [hi] at h
      have hw := Except.ok.inj h
      dsimp only at hw
      split at hw
      · cases hw
      · exact List.mem_of_getElem? hw
  · cases h

/-- A path that goes on starts from the value that it has led to. -/
theorem at?_append (h : v.at? path = .ok (some w)) : v.at? (path ++ rest) = w.at? rest := by
  induction path generalizing v with
  | nil => rw [Option.some.inj (Except.ok.inj h)]; rfl
  | cons part path ih =>
    cases v with
    | map l es =>
      cases hk : Entries.get? es part with
      | none => simp [at?, hk] at h
      | some u => simpa [at?, hk] using ih (by simpa [at?, hk] using h)
    | list l items =>
      rcases hi : item? items part with e | (_ | u)
      · simp [at?, hi] at h
      · simp [at?, hi] at h
      · simpa [at?, hi] using ih (by simpa [at?, hi] using h)
    | _ => cases h

theorem mem_labels_of_at? (h : v.at? path = .ok (some w)) (hn : n ∈ w.labels) : n ∈ v.labels := by
  induction path generalizing v with
  | nil => rwa [Option.some.inj (Except.ok.inj h)]
  | cons part path ih =>
    cases v with
    | map l es =>
      cases hk : Entries.get? es part with
      | none => simp [at?, hk] at h
      | some u =>
        obtain ⟨k, hmem⟩ := exists_mem_of_get? hk
        have hu := ih (by simpa [at?, hk] using h)
        exact List.mem_append_right _ (mem_entryLabels.2 ⟨_, hmem, .inr hu⟩)
    | list l items =>
      rcases hi : item? items part with e | (_ | u)
      · simp [at?, hi] at h
      · simp [at?, hi] at h
      · have hu := ih (by simpa [at?, hi] using h)
        exact List.mem_append_right _ (mem_itemLabels.2 ⟨_, mem_of_item? hi, hu⟩)
    | _ => cases h

/-! ## Replacing a label -/

theorem get?_replaceEntries : Entries.get? (replaceEntries n new es) key =
    (Entries.get? es key).map (replaceLabel n new) := by
  induction es with
  | nil => rfl
  | cons e es ih =>
    by_cases he : e.1.same (.text key) = true
    · simp [Entries.get?, Entries.lookup?, replaceEntries, he]
    · simpa [Entries.get?, Entries.lookup?, replaceEntries, he] using ih

/-- **A value in place of another** is found where that was. -/
theorem at?_replaceLabel (hu : v.Unlooped) (h : v.at? path = .ok (some (.map (some n) inner)))
    (new : Value) : (replaceLabel n new v).at? path = .ok (some new) := by
  have hn : n ∈ (Value.map (some n) inner).labels := List.mem_append_left _ (List.mem_singleton.2 rfl)
  induction path generalizing v with
  | nil =>
    obtain rfl := Option.some.inj (Except.ok.inj h)
    rw [replaceLabel, if_pos rfl]
    rfl
  | cons part path ih =>
    cases v with
    | map l es =>
      cases hk : Entries.get? es part with
      | none => simp [at?, hk] at h
      | some u =>
        have hbelow : u.at? path = .ok (some (.map (some n) inner)) := by simpa [at?, hk] using h
        obtain ⟨k, hmem⟩ := exists_mem_of_get? hk
        -- the value around it has another label
        have hl : l ≠ some n := by
          rintro rfl
          exact hu.1 (List.mem_singleton.2 rfl)
            (mem_entryLabels.2 ⟨_, hmem, .inr (mem_labels_of_at? hbelow hn)⟩)
        rw [replaceLabel, if_neg hl]
        simpa [at?, get?_replaceEntries, hk] using ih (entriesUnlooped_iff.1 hu.2 _ hmem) hbelow
    | list l items =>
      rcases hi : item? items part with e | (_ | u)
      · simp [at?, hi] at h
      · simp [at?, hi] at h
      · have hbelow : u.at? path = .ok (some (.map (some n) inner)) := by simpa [at?, hi] using h
        have hmem := mem_of_item? hi
        have hl : l ≠ some n := by
          rintro rfl
          exact hu.1 (List.mem_singleton.2 rfl)
            (mem_itemLabels.2 ⟨_, hmem, mem_labels_of_at? hbelow hn⟩)
        rw [replaceLabel, if_neg hl]
        simpa [at?, replaceItems_eq_map, item?_map, hi, Except.map] using ih (itemsUnlooped_iff.1 hu.2 _ hmem) hbelow
    | _ => cases h

end

/-! ## Entries that are added -/

theorem forall_mem_put {P Q : Value → Prop} {k v : Value} {es : Entries}
    (h : ∀ e ∈ es, P e.1 ∧ Q e.2) (hk : P k) (hv : Q v) : ∀ e ∈ es.put k v, P e.1 ∧ Q e.2 := by
  induction es with
  | nil => exact List.forall_mem_singleton.2 ⟨hk, hv⟩
  | cons e es ih =>
    obtain ⟨he, hes⟩ := List.forall_mem_cons.1 h
    rw [Entries.put]
    split
    · exact List.forall_mem_cons.2 ⟨⟨he.1, hv⟩, hes⟩
    · exact List.forall_mem_cons.2 ⟨he, ih hes⟩

end Value

namespace Yaml

/-! ## Nodes inside nodes -/

namespace Node
variable {a c n : Node} {k : Nat}

theorem Within.height_le (h : a.Within n) : a.height ≤ n.height := by
  induction h with
  | self => exact Nat.le_refl _
  | item hi _ ih => exact Nat.le_succ_of_le (ih.trans (height_le_itemsHeight hi))
  | key he _ ih => exact Nat.le_succ_of_le (ih.trans (height_le_entriesHeight he).1)
  | value he _ ih => exact Nat.le_succ_of_le (ih.trans (height_le_entriesHeight he).2)

/-- The label is that of a node inside the node. -/
def HasInside (n : Node) (k : Nat) : Prop := ∃ a : Node, a.Within n ∧ a ≠ n ∧ a.label = some k

theorem hasInside_of_within (hc : c.Within n) (hlt : c.height < n.height) (ha : a.Within c)
    (hk : a.label = some k) : n.HasInside k := by
  refine ⟨a, ha.trans hc, ?_, hk⟩
  rintro rfl
  have := ha.height_le
  omega

theorem Coherent.of_within (h : n.Coherent) (hc : c.Within n) : c.Coherent :=
  fun ha hb => h (ha.trans hc) (hb.trans hc)

/-- The label of a node is not one inside of it. -/
theorem Coherent.label_ne (h : n.Coherent) (hk : n.HasInside k) : n.label ≠ some k := by
  obtain ⟨a, ha, hne, hak⟩ := hk
  exact fun hn => hne (h ha .self hak hn)

end Node

namespace Build

open Folio.Value (itemLabels entryLabels mem_itemLabels mem_entryLabels ItemsUnlooped EntriesUnlooped
  itemsUnlooped_iff entriesUnlooped_iff)

/-! ## Values of nodes -/

/-- All labels of the value are those of nodes in the node. -/
structure Drawn (n : Node) (v : Value) : Prop where
  labels : ∀ k ∈ v.labels, ∃ a : Node, a.Within n ∧ a.label = some k
  unlooped : v.Unlooped

/-- All labels of the value are those of nodes inside the node. -/
structure Inside (n : Node) (v : Value) : Prop where
  labels : ∀ k ∈ v.labels, n.HasInside k
  unlooped : v.Unlooped

/-- All values that are built with some number of steps. -/
structure Labels (r : Rules) (fuel : Nat) : Prop where
  value : ∀ {i n}, n.Coherent → Drawn n (Build.value r fuel i n).value
  sequence : ∀ {i n}, n.Coherent → ∀ v ∈ (Build.sequence r fuel i n).value, Inside n v
  entries : ∀ {i n}, n.Coherent → ∀ e ∈ (Build.entries r fuel i n).value, Inside n e.1 ∧ Inside n e.2
  pairs : ∀ {i a n}, n.Coherent → ∀ v ∈ (Build.pairs r fuel i a n).value, Inside n v

section
variable {r : Rules} {fuel i : Nat} {n c : Node} {v : Value}

theorem inside_of_labels_eq_nil (hl : v.labels = []) (hu : v.Unlooped) : Inside n v := by
  refine ⟨fun k hk => ?_, hu⟩
  rw [hl] at hk
  cases hk

theorem inside_null : Inside n .null := inside_of_labels_eq_nil rfl trivial

theorem Inside.drawn (h : Inside n v) : Drawn n v := by
  refine ⟨fun k hk => ?_, h.unlooped⟩
  obtain ⟨a, ha, -, hak⟩ := h.labels k hk
  exact ⟨a, ha, hak⟩

theorem Inside.pair {u : Value} (hu : Inside n u) (hv : Inside n v) : Inside n (.pair u v) :=
  ⟨fun k hk => (List.mem_append.1 hk).elim (hu.labels k) (hv.labels k), hu.unlooped, hv.unlooped⟩

theorem Drawn.inside (h : Drawn c v) (hc : c.Within n) (hlt : c.height < n.height) : Inside n v := by
  refine ⟨fun k hk => ?_, h.unlooped⟩
  obtain ⟨a, ha, hak⟩ := h.labels k hk
  exact Node.hasInside_of_within hc hlt ha hak

/-- The label of a collection is not one of the values in it. -/
theorem labels_collection (hn : n.Coherent) {ls : List Nat} (hls : ∀ k ∈ ls, n.HasInside k) :
    (∀ k ∈ n.label.toList ++ ls, ∃ a : Node, a.Within n ∧ a.label = some k) ∧
      List.Disjoint n.label.toList ls := by
  refine ⟨fun k hk => ?_, fun k hk hk' => hn.label_ne (hls k hk') (Option.mem_toList.1 hk)⟩
  rcases List.mem_append.1 hk with hk | hk
  · exact ⟨n, .self, Option.mem_toList.1 hk⟩
  · obtain ⟨a, ha, -, hak⟩ := hls k hk
    exact ⟨a, ha, hak⟩

theorem hasInside_of_mem_itemLabels {vs : List Value} (hvs : ∀ v ∈ vs, Inside n v) :
    ∀ k ∈ itemLabels vs, n.HasInside k := fun k hk => by
  obtain ⟨v, hv, hk⟩ := mem_itemLabels.1 hk
  exact (hvs v hv).labels k hk

theorem drawn_list (hn : n.Coherent) {vs : List Value} (hvs : ∀ v ∈ vs, Inside n v) :
    Drawn n (.list n.label vs) := by
  obtain ⟨hlabels, hdisjoint⟩ := labels_collection hn (hasInside_of_mem_itemLabels hvs)
  exact ⟨hlabels, hdisjoint, itemsUnlooped_iff.2 fun v hv => (hvs v hv).unlooped⟩

theorem drawn_set (hn : n.Coherent) {ms : List Value} (hms : ∀ v ∈ ms, Inside n v) :
    Drawn n (.set n.label ms) :=
  ⟨(labels_collection hn (hasInside_of_mem_itemLabels hms)).1, trivial⟩

theorem drawn_map (hn : n.Coherent) {es : Entries} (hes : ∀ e ∈ es, Inside n e.1 ∧ Inside n e.2) :
    Drawn n (.map n.label es) := by
  have hinside : ∀ k ∈ entryLabels es, n.HasInside k := fun k hk => by
    obtain ⟨e, he, hk | hk⟩ := mem_entryLabels.1 hk
    · exact (hes e he).1.labels k hk
    · exact (hes e he).2.labels k hk
  obtain ⟨hlabels, hdisjoint⟩ := labels_collection hn hinside
  exact ⟨hlabels, hdisjoint, entriesUnlooped_iff.2 fun e he => (hes e he).2.unlooped⟩

/-! ## Scalars -/

section
variable {α : Type} {convert : List Char → Except Error α} {wrap : α → Value}

theorem value_scalar_cases : (scalar fuel i n convert wrap).value = .null ∨
    ∃ a, (scalar fuel i n convert wrap).value = wrap a := by
  unfold scalar
  cases scalarText fuel n with
  | error e => exact .inl rfl
  | ok cs =>
    change (Built.ofExcept i .null (do return wrap (← convert cs))).value = .null ∨
      ∃ a, (Built.ofExcept i .null (do return wrap (← convert cs))).value = wrap a
    cases convert cs with
    | error e => exact .inl rfl
    | ok a => exact .inr ⟨a, rfl⟩

/-- A scalar has no labels, if what it is converted to has none. -/
theorem inside_scalar (hl : ∀ a, (wrap a).labels = []) (hu : ∀ a, (wrap a).Unlooped) :
    Inside n (scalar fuel i c convert wrap).value := by
  rcases value_scalar_cases with h | ⟨a, h⟩
  · rw [h]
    exact inside_of_labels_eq_nil rfl trivial
  · rw [h]
    exact inside_of_labels_eq_nil (hl a) (hu a)

end

theorem drawn_time : Drawn n (time fuel i n.label n).value := by
  unfold time
  split
  · exact inside_null.drawn
  · rcases value_scalar_cases with h | ⟨a, h⟩
    · rw [h]
      exact inside_null.drawn
    · rw [h]
      exact ⟨fun k hk => ⟨_, .self, Option.mem_toList.1 hk⟩, trivial⟩

/-- A text has no label. -/
theorem inside_of_str (hc : c.tag = .str) : Inside n (value r fuel i c).value := by
  cases fuel with
  | zero => rw [value]; exact inside_null
  | succ fuel =>
    rw [value.eq_def]
    dsimp only
    rw [hc]
    exact inside_scalar (fun _ => rfl) (by simp [Value.Unlooped])

/-! ## Collections -/

namespace Labels
variable (h : Labels r fuel)
include h

theorem value_succ (hn : n.Coherent) : Drawn n (Build.value r (fuel + 1) i n).value := by
  cases ht : n.tag with
  | null | bool | int | float | str | binary =>
    rw [Build.value.eq_def]
    dsimp only
    rw [ht]
    exact (inside_scalar (fun _ => rfl) (by simp [Value.Unlooped])).drawn
  | timestamp =>
    rw [Build.value.eq_def]
    dsimp only
    rw [ht]
    exact drawn_time
  | merge | value | other =>
    rw [Build.value.eq_def]
    dsimp only
    rw [ht]
    exact inside_null.drawn
  | seq => rw [value_of_seq ht]; exact drawn_list hn (h.sequence hn)
  | map => rw [value_of_map ht]; exact drawn_map hn (h.entries hn)
  | set =>
    rw [value_of_set ht]
    exact drawn_set hn (List.forall_mem_map.2 fun e he => (h.entries hn e he).1)
  | orderedMap => rw [value_of_orderedMap ht]; exact drawn_list hn (h.pairs hn)
  | pairs => rw [value_of_pairs ht]; exact drawn_list hn (h.pairs hn)

/-- A node inside another is built to a value inside of it. -/
theorem inside (hn : n.Coherent) (hc : c.Within n) (hlt : c.height < n.height) :
    Inside n (Build.value r fuel i c).value :=
  (h.value (hn.of_within hc)).inside hc hlt

theorem sequence_succ (hn : n.Coherent) : ∀ v ∈ (Build.sequence r (fuel + 1) i n).value, Inside n v := by
  intro v hv
  rw [Build.sequence.eq_def] at hv
  cases n with
  | scalar | mapping => cases hv
  | sequence l m t items =>
    obtain ⟨b, hb, rfl⟩ := List.mem_map.1 hv
    obtain ⟨c, hc, rfl⟩ := List.mem_map.1 hb
    exact h.inside hn (.item hc .self) (Nat.lt_succ_of_le (Node.height_le_itemsHeight hc))

theorem pairs_succ {a : Activity} (hn : n.Coherent) :
    ∀ v ∈ (Build.pairs r (fuel + 1) i a n).value, Inside n v := by
  intro v hv
  rw [Build.pairs.eq_def] at hv
  cases n with
  | scalar | mapping => cases hv
  | sequence l m t items =>
    obtain ⟨b, hb, rfl⟩ := List.mem_map.1 hv
    obtain ⟨c, hc, rfl⟩ := List.mem_map.1 hb
    have hheight := Node.height_le_itemsHeight hc
    dsimp only
    split
    · next e =>
      have hentry := Node.height_le_entriesHeight (e := e) (List.mem_singleton.2 rfl)
      simp only [Node.height] at hheight
      refine .pair (h.inside hn (.item hc (.key List.mem_cons_self .self)) ?_)
        (h.inside hn (.item hc (.value List.mem_cons_self .self)) ?_) <;>
      · rw [Node.height]
        omega
    · exact inside_null
    · exact inside_null

/-- What a merged entry is built to.  Its key is a text or, as its value, a node inside. -/
theorem inside_merged {l : Label} {m : Mark} {t : Tag} {es es' : List (Node × Node)}
    (hn : (Node.mapping l m t es).Coherent) (hm : mergeEntries fuel m es = .ok es') :
    ∀ e ∈ es', Inside (.mapping l m t es) (Build.value r fuel i e.1).value ∧
      Inside (.mapping l m t es) (Build.value r fuel i e.2).value := by
  have hentry : ∀ {c}, InEntries c es → Inside (.mapping l m t es) (Build.value r fuel i c).value := by
    rintro c ⟨e, he, hc⟩
    have hheight := Node.height_le_entriesHeight he
    rcases hc with hc | hc
    · refine h.inside hn (.key he hc) (Nat.lt_succ_of_le ?_)
      exact hc.height_le.trans hheight.1
    · refine h.inside hn (.value he hc) (Nat.lt_succ_of_le ?_)
      exact hc.height_le.trans hheight.2
  intro e he
  obtain ⟨hkey, hvalue⟩ := (merge_spec fuel).entries_ok hm e he
  exact ⟨hkey.elim hentry inside_of_str, hentry hvalue⟩

theorem entries_succ (hn : n.Coherent) :
    ∀ e ∈ (Build.entries r (fuel + 1) i n).value, Inside n e.1 ∧ Inside n e.2 := by
  rw [Build.entries.eq_def]
  cases n with
  | scalar | sequence => exact fun e he => by cases he
  | mapping l m t es =>
    have hmerged : ∀ d ∈ (Built.ofExcept i [] (mergeEntries fuel m es)).value,
        Inside (.mapping l m t es) (Build.value r fuel i d.1).value ∧
          Inside (.mapping l m t es) (Build.value r fuel i d.2).value := by
      cases hm : mergeEntries fuel m es with
      | error e => exact fun d hd => absurd hd List.not_mem_nil
      | ok es' => exact h.inside_merged hn hm
    refine List.foldlRecOn (motive := fun es' : Entries =>
      ∀ e ∈ es', Inside (.mapping l m t es) e.1 ∧ Inside (.mapping l m t es) e.2) _ _
      (List.forall_mem_nil _) fun _ hes x hx => ?_
    obtain ⟨d, hd, rfl⟩ := List.mem_map.1 hx
    exact Value.forall_mem_put hes (hmerged d hd).1 (hmerged d hd).2

end Labels

end

/-- **What is built of a node** has the labels of nodes in it, each on values that do not lie
    in one another. -/
theorem labels (r : Rules) (fuel : Nat) : Labels r fuel := by
  induction fuel with
  | zero =>
    refine ⟨fun _ => ?_, fun _ v hv => ?_, fun _ e he => ?_, fun _ v hv => ?_⟩
    · rw [value]; exact inside_null.drawn
    · rw [sequence] at hv; cases hv
    · rw [entries] at he; cases he
    · rw [pairs] at hv; cases hv
  | succ fuel ih => exact ⟨ih.value_succ, ih.sequence_succ, ih.entries_succ, ih.pairs_succ⟩

end Build

/-- **No label in the value of a text** occurs inside the value that it is the label of. -/
theorem unlooped_of_decode {r : Rules} {text : List Char} {v : Value} (h : decode r text = .ok v) :
    v.Unlooped := by
  unfold decode at h
  rcases hn : Node.ofText? r.timestamps text with e | (_ | n)
  · rw [hn] at h
    cases h
  · rw [hn] at h
    cases h
    trivial
  · rw [hn] at h
    change n.value r = .ok v at h
    rw [Node.value] at h
    split at h
    · obtain ⟨-, rfl⟩ := Build.Built.result_eq_ok_iff.1 h
      exact ((Build.labels r _).value (Node.coherent_of_ofText? hn)).unlooped
    · cases h

end Yaml

end Folio
