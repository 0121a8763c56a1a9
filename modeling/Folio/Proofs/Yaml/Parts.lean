/-
  Folio — what nodes are built of.

  A sequence is built of its items, a mapping of the entries that are left when all is
  merged, an ordered map of its pairs (`Node.BuiltFor`).  The choices of a reader make a
  difference to faults only: the value of a node is the same for all readers.  A node that
  is sound is built of nodes that are sound.

  * `Build.sameValues`: the value of a node, for all readers;
  * `Build.faults_entries`, `Build.faults_sequence`, `Build.faults_pairs`: the faults of
    collections;
  * `Build.faults_eq_nil_of_builtFor`: what is sound is built of what is sound.
-/
import Folio.Proofs.Yaml.Merge

namespace Folio.Yaml

/-! ## Nodes that others are built of -/

theorem Tag.isCollection_iff {t : Tag} : t.isCollection = true ↔
    t = .seq ∨ (t = .map ∨ t = .set) ∨ t = .orderedMap ∨ t = .pairs := by
  cases t <;> simp [isCollection]

/-- Is the node built of entries: a mapping, or a set? -/
def Node.IsMap (n : Node) : Prop := n.tag = .map ∨ n.tag = .set

/-- Is the node built of mappings of one entry each? -/
def Node.IsPairs (n : Node) : Prop := n.tag = .orderedMap ∨ n.tag = .pairs

/-- The node is one that another is built of. -/
inductive Node.BuiltFor (c : Node) : Node → Prop
  | item {l m items} (hi : c ∈ items) : BuiltFor c (.sequence l m .seq items)
  | key {v l m t es} (ht : (Node.mapping l m t es).IsMap) (he : IsEntry (c, v) es) :
    BuiltFor c (.mapping l m t es)
  | value {k l m t es} (ht : (Node.mapping l m t es).IsMap) (he : IsEntry (k, c) es) :
    BuiltFor c (.mapping l m t es)
  | pairKey {v l m t items l' m' t'} (ht : (Node.sequence l m t items).IsPairs)
    (hi : .mapping l' m' t' [(c, v)] ∈ items) : BuiltFor c (.sequence l m t items)
  | pairValue {k l m t items l' m' t'} (ht : (Node.sequence l m t items).IsPairs)
    (hi : .mapping l' m' t' [(k, c)] ∈ items) : BuiltFor c (.sequence l m t items)

theorem Node.BuiltFor.height_lt {c n : Node} (h : c.BuiltFor n) : c.height < n.height := by
  cases h with
  | item hi =>
    have := Node.height_le_itemsHeight hi
    rw [Node.height]
    omega
  | key _ he =>
    rw [Node.height]
    exact Nat.lt_succ_of_le he.height_le.1
  | value _ he =>
    rw [Node.height]
    exact Nat.lt_succ_of_le he.height_le.2
  | pairKey _ hi | pairValue _ hi =>
    have := Node.height_le_itemsHeight hi
    simp only [Node.height, Node.entriesHeight] at this ⊢
    omega

/-- The node is built when another one is, at any depth. -/
def Node.Meets (n m : Node) : Prop := Relation.ReflTransGen (fun a b => b.BuiltFor a) n m

/-- Is the node a sign: that of merging, or that of a value? -/
def Node.IsSign (n : Node) : Prop := n.tag = .merge ∨ n.tag = .value

/-- The entries of the node, if it is a mapping. -/
def Node.entries : Node → List (Node × Node)
  | .mapping _ _ _ es => es
  | _ => []

namespace Build

/-! ## Nodes by their tags -/

section
variable {r q : Rules} {fuel i j : Nat} {n : Node}

theorem value_of_seq (ht : n.tag = .seq) : value r (fuel + 1) i n =
    ⟨.list n.label (sequence r fuel (i + 1) n).value, (sequence r fuel (i + 1) n).faults⟩ := by
  rw [value.eq_def]
  dsimp only
  rw [ht]

theorem value_of_map (ht : n.tag = .map) : value r (fuel + 1) i n =
    ⟨.map n.label (entries r fuel (i + 1) n).value, (entries r fuel (i + 1) n).faults⟩ := by
  rw [value.eq_def]
  dsimp only
  rw [ht]

theorem value_of_set (ht : n.tag = .set) : value r (fuel + 1) i n =
    ⟨.set n.label (entries r fuel (i + 1) n).value.keys, (entries r fuel (i + 1) n).faults⟩ := by
  rw [value.eq_def]
  dsimp only
  rw [ht]

theorem value_of_orderedMap (ht : n.tag = .orderedMap) : value r (fuel + 1) i n =
    ⟨.list n.label (pairs r fuel (i + 1) .orderedMap n).value,
      (pairs r fuel (i + 1) .orderedMap n).faults⟩ := by
  rw [value.eq_def]
  dsimp only
  rw [ht]

theorem value_of_pairs (ht : n.tag = .pairs) : value r (fuel + 1) i n =
    ⟨.list n.label (pairs r fuel (i + 1) .pairs n).value, (pairs r fuel (i + 1) .pairs n).faults⟩ := by
  rw [value.eq_def]
  dsimp only
  rw [ht]

/-- No value is known for the tag of a sign. -/
theorem value_of_isSign (ht : n.IsSign) : value r (fuel + 1) i n =
    ⟨.null, [(i, .marked none (.unknownTag n.tag.uri) n.mark)]⟩ := by
  rw [value.eq_def]
  dsimp only
  rcases ht with ht | ht <;> rw [ht]

/-- The choices of a reader are about collections. -/
theorem value_of_isCollection_eq_false (ht : n.tag.isCollection = false) :
    value r (fuel + 1) i n = value q (fuel + 1) i n := by
  rw [value.eq_def, value.eq_def q]
  dsimp only
  cases h : n.tag with
  | seq | map | set | orderedMap | pairs => rw [h] at ht; cases ht
  | _ => rfl

/-! ## Values -/

theorem value_ofExcept {α : Type} {default : α} {x : Except Error α} :
    (Built.ofExcept i default x).value = (Built.ofExcept j default x).value := by
  cases x <;> rfl

theorem value_time {label : Label} :
    (time fuel i label n).value = (time fuel j label n).value := by
  unfold time
  split
  · rfl
  · exact value_ofExcept

end

/-- Values do not depend on the choices of a reader and on rounds. -/
structure SameValues (fuel : Nat) : Prop where
  value : ∀ {r q : Rules} {i j : Nat} {n : Node},
    (Build.value r fuel i n).value = (Build.value q fuel j n).value
  sequence : ∀ {r q : Rules} {i j : Nat} {n : Node},
    (Build.sequence r fuel i n).value = (Build.sequence q fuel j n).value
  entries : ∀ {r q : Rules} {i j : Nat} {n : Node},
    (Build.entries r fuel i n).value = (Build.entries q fuel j n).value
  pairs : ∀ {r q : Rules} {i j : Nat} {a : Activity} {n : Node},
    (Build.pairs r fuel i a n).value = (Build.pairs q fuel j a n).value

section
variable {fuel : Nat} (h : SameValues fuel) {r q : Rules} {i j : Nat} {n : Node}
include h

theorem SameValues.value_succ :
    (Build.value r (fuel + 1) i n).value = (Build.value q (fuel + 1) j n).value := by
  cases ht : n.tag with
  | null | bool | int | float | str | binary =>
    rw [Build.value.eq_def, Build.value.eq_def q]
    dsimp only
    rw [ht]
    exact value_ofExcept
  | timestamp =>
    rw [Build.value.eq_def, Build.value.eq_def q]
    dsimp only
    rw [ht]
    exact value_time
  | merge | value | other =>
    rw [Build.value.eq_def, Build.value.eq_def q]
    dsimp only
    rw [ht]
  | seq => rw [value_of_seq ht, value_of_seq ht, h.sequence]
  | map => rw [value_of_map ht, value_of_map ht, h.entries]
  | set => rw [value_of_set ht, value_of_set ht, h.entries]
  | orderedMap => rw [value_of_orderedMap ht, value_of_orderedMap ht, h.pairs]
  | pairs => rw [value_of_pairs ht, value_of_pairs ht, h.pairs]

theorem SameValues.sequence_succ :
    (Build.sequence r (fuel + 1) i n).value = (Build.sequence q (fuel + 1) j n).value := by
  rw [Build.sequence.eq_def, Build.sequence.eq_def q]
  cases n with
  | scalar | mapping => rfl
  | sequence l m t items =>
    simp only [List.map_map]
    exact List.map_congr_left fun item _ => h.value

theorem SameValues.entries_succ :
    (Build.entries r (fuel + 1) i n).value = (Build.entries q (fuel + 1) j n).value := by
  rw [Build.entries.eq_def, Build.entries.eq_def q]
  cases n with
  | scalar | sequence => rfl
  | mapping l m t es =>
    simp only [List.foldl_map, h.value (r := r) (q := q) (i := i) (j := j),
      value_ofExcept (i := i) (j := j)]

theorem SameValues.pairs_succ {a : Activity} :
    (Build.pairs r (fuel + 1) i a n).value = (Build.pairs q (fuel + 1) j a n).value := by
  rw [Build.pairs.eq_def, Build.pairs.eq_def q]
  cases n with
  | scalar | mapping => rfl
  | sequence l m t items =>
    simp only [List.map_map]
    refine List.map_congr_left fun item _ => ?_
    dsimp only [Function.comp_apply]
    split
    · simp only [h.value (r := r) (q := q) (i := i) (j := j)]
    · rfl
    · rfl

end

/-- **The value of a node is the same for all readers**, apart from its faults. -/
theorem sameValues (fuel : Nat) : SameValues fuel := by
  induction fuel with
  | zero => exact ⟨by simp [value], by simp [sequence], by simp [entries], by simp [pairs]⟩
  | succ fuel ih => exact ⟨ih.value_succ, ih.sequence_succ, ih.entries_succ, ih.pairs_succ⟩

/-! ## Faults of collections -/

section
variable {r : Rules} {fuel i : Nat} {l : Label} {m start : Mark} {t : Tag} {c n : Node}
  {items : List Node} {es es' : List (Node × Node)}

theorem faults_sequence : (sequence r (fuel + 1) i (.sequence l m t items)).faults =
    items.flatMap fun c => (value r fuel i c).faults := by
  rw [sequence]
  exact List.flatMap_map ..

/-- The faults of a key and of what is under it. -/
def entryFaults (r : Rules) (fuel i : Nat) (start : Mark) (e : Node × Node) : List Fault :=
  let key := value r fuel i e.1
  key.faults ++
    (if key.value.isKey then []
      else [(i, .marked (some (.mapping, some start)) .unhashableKey e.1.mark)]) ++
    (value r fuel i e.2).faults

theorem faults_entries (hm : mergeEntries fuel start es = .ok es') :
    (entries r (fuel + 1) i (.mapping l start t es)).faults =
      keyFaults i start [] (if r.uniqueKeys then builtKeys r fuel i es else []) ++
        es'.flatMap (entryFaults r fuel i start) := by
  rw [← filterMap_eq_builtKeys, entries, hm]
  simp only [Built.ofExcept, List.append_nil, List.flatMap_map]
  rfl

/-- Mappings that are built have been merged. -/
theorem exists_merged (h : (entries r (fuel + 1) i (.mapping l start t es)).faults = []) :
    ∃ es', mergeEntries fuel start es = .ok es' := by
  cases hm : mergeEntries fuel start es with
  | ok es' => exact ⟨es', rfl⟩
  | error e =>
    rw [entries, hm] at h
    simp [Built.ofExcept] at h

/-- The faults of an item of an ordered map. -/
def itemFaults (r : Rules) (fuel i : Nat) (a : Activity) (start : Mark) : Node → List Fault
  | .mapping _ _ _ [e] => (value r fuel i e.1).faults ++ (value r fuel i e.2).faults
  | .mapping _ m _ es => [(i, .marked (some (a, some start)) (.itemCount es.length) m)]
  | other =>
    [(i, .marked (some (a, some start)) (.kind "a mapping of length 1" other.kindName) other.mark)]

theorem faults_pairs {a : Activity} : (pairs r (fuel + 1) i a (.sequence l start t items)).faults =
    items.flatMap (itemFaults r fuel i a start) := by
  rw [pairs]
  simp only [List.flatMap_map]
  refine List.flatMap_congr fun item _ => ?_
  rcases item with _ | _ | ⟨_, _, _, _ | ⟨e, _ | _⟩⟩ <;> rfl

/-- An item of an ordered map has one entry. -/
theorem exists_entry_of_itemFaults {a : Activity} (h : itemFaults r fuel i a start c = []) :
    ∃ l m t e, c = .mapping l m t [e] := by
  cases c with
  | scalar | sequence => cases h
  | mapping l m t es =>
    rcases es with _ | ⟨e, _ | _⟩
    · cases h
    · exact ⟨l, m, t, e, rfl⟩
    · cases h

theorem faults_of_isMap (ht : n.IsMap) :
    (value r (fuel + 1) i n).faults = (entries r fuel (i + 1) n).faults := by
  rcases ht with ht | ht
  · rw [value_of_map ht]
  · rw [value_of_set ht]

theorem faults_of_isPairs (ht : n.IsPairs) : ∃ a, ∀ (r : Rules) (fuel i : Nat),
    (value r (fuel + 1) i n).faults = (pairs r fuel (i + 1) a n).faults := by
  rcases ht with ht | ht
  · exact ⟨.orderedMap, fun r fuel i => by rw [value_of_orderedMap ht]⟩
  · exact ⟨.pairs, fun r fuel i => by rw [value_of_pairs ht]⟩

theorem entryFaults_eq_nil {e : Node × Node} (he : IsEntry e es)
    (hf : 2 * Node.entriesHeight es ≤ fuel)
    (h : (entries r (fuel + 1) i (.mapping l start t es)).faults = []) :
    entryFaults r fuel i start e = [] := by
  obtain ⟨es', hm⟩ := exists_merged h
  rw [faults_entries hm, List.append_eq_nil_iff, List.flatMap_eq_nil_iff] at h
  exact h.2 e ((mem_mergeEntries_iff hf hm).2 he)

theorem itemFaults_eq_nil {a : Activity} (hc : c ∈ items)
    (h : (pairs r (fuel + 1) i a (.sequence l start t items)).faults = []) :
    itemFaults r fuel i a start c = [] := by
  rw [faults_pairs, List.flatMap_eq_nil_iff] at h
  exact h c hc

/-- **What is sound is built of what is sound.** -/
theorem faults_eq_nil_of_builtFor (hc : c.BuiltFor n) (hf : 2 * n.height < fuel + 2)
    (h : (value r (fuel + 2) i n).faults = []) : (value r fuel (i + 1) c).faults = [] := by
  cases hc with
  | item hi =>
    rw [value_of_seq rfl] at h
    exact List.flatMap_eq_nil_iff.1 (faults_sequence.symm.trans h) c hi
  | key ht he =>
    rw [faults_of_isMap ht] at h
    rw [Node.height] at hf
    have := entryFaults_eq_nil he (by omega) h
    simp only [entryFaults, List.append_eq_nil_iff] at this
    exact this.1.1
  | value ht he =>
    rw [faults_of_isMap ht] at h
    rw [Node.height] at hf
    have := entryFaults_eq_nil he (by omega) h
    simp only [entryFaults, List.append_eq_nil_iff] at this
    exact this.2
  | pairKey ht hi =>
    obtain ⟨a, ha⟩ := faults_of_isPairs ht
    exact (List.append_eq_nil_iff.1 (itemFaults_eq_nil hi ((ha ..).symm.trans h))).1
  | pairValue ht hi =>
    obtain ⟨a, ha⟩ := faults_of_isPairs ht
    exact (List.append_eq_nil_iff.1 (itemFaults_eq_nil hi ((ha ..).symm.trans h))).2

end

end Build

end Folio.Yaml
