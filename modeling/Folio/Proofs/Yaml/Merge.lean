/-
  Folio — the entries that a mapping is built with.

  A mapping is built with its own entries, but for those under a merge sign, and before
  them with the entries of the mappings that it merges (`IsEntry`).  Each level of merging
  goes deeper into the node, so the height of the node bounds the steps that are needed.

  * `Build.mem_mergeEntries_iff`: what merging yields, given enough steps.
-/
import Folio.Proofs.Yaml.Misfit

namespace Folio.Yaml

/-! ## Heights -/

namespace Node

theorem height_pos (n : Node) : 0 < n.height := by
  cases n <;> simp [height]

theorem height_le_itemsHeight {n : Node} {ns : List Node} (h : n ∈ ns) :
    n.height ≤ itemsHeight ns := by
  induction ns with
  | nil => cases h
  | cons m ns ih =>
    rw [itemsHeight]
    rcases List.mem_cons.1 h with rfl | h
    · exact Nat.le_max_left _ _
    · exact (ih h).trans (Nat.le_max_right _ _)

theorem height_le_entriesHeight {e : Node × Node} {es : List (Node × Node)} (h : e ∈ es) :
    e.1.height ≤ entriesHeight es ∧ e.2.height ≤ entriesHeight es := by
  induction es with
  | nil => cases h
  | cons f es ih =>
    obtain ⟨k, v⟩ := f
    rw [entriesHeight]
    rcases List.mem_cons.1 h with rfl | h
    · dsimp only
      omega
    · have := ih h
      omega

theorem height_withTag (t : Tag) (n : Node) : (n.withTag t).height = n.height := by
  cases n <;> rfl

end Node

/-! ## Entries and what is merged -/

/-- An entry in the mapping that it stands in: a value sign as a key is a text. -/
def ownEntry (e : Node × Node) : Node × Node :=
  if e.1.tag == .value then (e.1.withTag .str, e.2) else e

/-- The entry is one that a mapping with these entries is built with. -/
inductive IsEntry (x : Node × Node) : List (Node × Node) → Prop
  | own {es e} : e ∈ es → e.1.tag ≠ .merge → x = ownEntry e → IsEntry x es
  /-- A mapping is merged. -/
  | mapping {es k l m t es'} : (k, .mapping l m t es') ∈ es → k.tag = .merge →
    IsEntry x es' → IsEntry x es
  /-- A mapping of a list is merged. -/
  | item {es k l m t items l' m' t' es'} : (k, .sequence l m t items) ∈ es → k.tag = .merge →
    .mapping l' m' t' es' ∈ items → IsEntry x es' → IsEntry x es

/-- The entry is one that a node contributes where it is merged. -/
inductive IsMerged (x : Node × Node) : Node → Prop
  | mapping {l m t es} : IsEntry x es → IsMerged x (.mapping l m t es)
  | item {l m t items l' m' t' es} : .mapping l' m' t' es ∈ items → IsEntry x es →
    IsMerged x (.sequence l m t items)

theorem isEntry_iff {x : Node × Node} {es : List (Node × Node)} : IsEntry x es ↔
    (∃ e ∈ es, e.1.tag = .merge ∧ IsMerged x e.2) ∨
      ∃ e ∈ es, e.1.tag ≠ .merge ∧ x = ownEntry e := by
  constructor
  · rintro (⟨he, htag, hx⟩ | ⟨he, htag, hx⟩ | ⟨he, htag, hi, hx⟩)
    · exact .inr ⟨_, he, htag, hx⟩
    · exact .inl ⟨_, he, htag, .mapping hx⟩
    · exact .inl ⟨_, he, htag, .item hi hx⟩
  · rintro (⟨⟨k, v⟩, he, htag, hx | ⟨hi, hx⟩⟩ | ⟨e, he, htag, hx⟩)
    · exact .mapping he htag hx
    · exact .item he htag hi hx
    · exact .own he htag hx

/-- The entry of a key that is no sign is built as it stands. -/
theorem isEntry_of_mem {e : Node × Node} {es : List (Node × Node)} (he : e ∈ es)
    (hmerge : e.1.tag ≠ .merge) (hvalue : e.1.tag ≠ .value) : IsEntry e es :=
  .own he hmerge (by simp [ownEntry, hvalue])

/-- An entry is no higher than those that it comes from. -/
theorem IsEntry.height_le {x : Node × Node} {es : List (Node × Node)} (h : IsEntry x es) :
    x.1.height ≤ Node.entriesHeight es ∧ x.2.height ≤ Node.entriesHeight es := by
  induction h with
  | own he _ hx =>
    have hle := Node.height_le_entriesHeight he
    subst hx
    unfold ownEntry
    split
    · rwa [Node.height_withTag]
    · exact hle
  | mapping he _ _ ih =>
    have hle := (Node.height_le_entriesHeight he).2
    simp only [Node.height] at hle
    omega
  | item he _ hi _ ih =>
    have hle := (Node.height_le_entriesHeight he).2
    have hitem := Node.height_le_itemsHeight hi
    simp only [Node.height] at hle hitem
    omega

namespace Build

/-! ## Merging -/

/-- With enough steps merging yields the entries that a mapping is built with. -/
structure Merges (fuel : Nat) : Prop where
  entries : ∀ {owner es es'}, 2 * Node.entriesHeight es ≤ fuel →
    mergeEntries fuel owner es = .ok es' → ∀ x, x ∈ es' ↔ IsEntry x es
  merged : ∀ {owner n es'}, 2 * n.height ≤ fuel + 1 →
    mergedEntries fuel owner n = .ok es' → ∀ x, x ∈ es' ↔ IsMerged x n

/-- What stands in the parts that the elements of a list contribute. -/
theorem mem_flatten_of_mapM {α β ε : Type} {f : α → Except ε (List β)} {xs : List α}
    {parts : List (List β)} (h : xs.mapM f = .ok parts) {P : α → β → Prop}
    (hf : ∀ x ∈ xs, ∀ part, f x = .ok part → ∀ y, y ∈ part ↔ P x y) (y : β) :
    y ∈ parts.flatten ↔ ∃ x ∈ xs, P x y := by
  rw [List.mem_flatten]
  constructor
  · rintro ⟨part, hpart, hy⟩
    obtain ⟨x, hx, hxp⟩ := exists_of_mapM_ok h hpart
    exact ⟨x, hx, (hf x hx part hxp y).1 hy⟩
  · rintro ⟨x, hx, hy⟩
    obtain ⟨part, hpart, hxp⟩ := exists_of_mapM_ok_left h hx
    exact ⟨part, hpart, (hf x hx part hxp y).2 hy⟩

section
variable {fuel : Nat} (h : Merges fuel)
include h

theorem Merges.entries_succ {owner : Mark} {es es' : List (Node × Node)}
    (hf : 2 * Node.entriesHeight es ≤ fuel + 1) (he : mergeEntries (fuel + 1) owner es = .ok es')
    (x : Node × Node) : x ∈ es' ↔ IsEntry x es := by
  rw [mergeEntries] at he
  cases hm : (es.filter fun e => e.1.tag == .merge).mapM fun e => mergedEntries fuel owner e.2 with
  | error e => rw [hm] at he; cases he
  | ok parts =>
    rw [hm] at he
    cases he
    have hmerged : x ∈ parts.flatten ↔ ∃ e ∈ es, e.1.tag = .merge ∧ IsMerged x e.2 := by
      rw [mem_flatten_of_mapM hm (P := fun e y => IsMerged y e.2)]
      · simp [List.mem_filter, and_assoc]
      · intro e hmem part hpart y
        have hle := (Node.height_le_entriesHeight (List.mem_filter.1 hmem).1).2
        exact h.merged (by omega) hpart y
    have hown : x ∈ (es.filter fun e => e.1.tag != .merge).map ownEntry ↔
        ∃ e ∈ es, e.1.tag ≠ .merge ∧ x = ownEntry e := by
      simp only [List.mem_map, List.mem_filter, bne_iff_ne, and_assoc, @eq_comm _ x]
    rw [isEntry_iff, ← hmerged, ← hown]
    exact List.mem_append

theorem Merges.merged_succ {owner : Mark} {n : Node} {es' : List (Node × Node)}
    (hf : 2 * n.height ≤ fuel + 2) (he : mergedEntries (fuel + 1) owner n = .ok es')
    (x : Node × Node) : x ∈ es' ↔ IsMerged x n := by
  cases n with
  | scalar l m t cs => rw [mergedEntries] at he; cases he
  | mapping l m t es =>
    rw [mergedEntries] at he
    rw [Node.height] at hf
    rw [h.entries (by omega) he]
    constructor
    · exact .mapping
    · rintro (hx | -)
      exact hx
  | sequence l m t items =>
    rw [mergedEntries] at he
    simp only [bind, Except.bind] at he
    split at he
    · cases he
    · next parts hm =>
      cases he
      have hparts := mem_flatten_of_mapM hm
        (P := fun item y => ∃ l m t es, item = .mapping l m t es ∧ IsEntry y es) ?_ x
      · rw [List.mem_flatten] at hparts ⊢
        simp only [List.mem_reverse, hparts]
        constructor
        · rintro ⟨_, hi, l, m, t, es, rfl, hx⟩
          exact .item hi hx
        · rintro (- | ⟨hi, hx⟩)
          exact ⟨_, hi, _, _, _, _, rfl, hx⟩
      · intro item hi part hpart y
        have hle := Node.height_le_itemsHeight hi
        split at hpart
        · simp only [Node.height] at hf hle
          rw [h.entries (by omega) hpart]
          simp
        · cases hpart

end

theorem merges (fuel : Nat) : Merges fuel := by
  induction fuel with
  | zero =>
    refine ⟨fun {owner es es'} hf he x => ?_, fun {owner n es'} hf _ => ?_⟩
    · cases es with
      | nil =>
        rw [mergeEntries] at he
        cases he
        simp [isEntry_iff]
      | cons e es =>
        have := Node.height_pos e.1
        have := Node.height_le_entriesHeight (List.mem_cons_self (a := e) (l := es))
        omega
    · have := Node.height_pos n
      omega
  | succ fuel ih => exact ⟨ih.entries_succ, ih.merged_succ⟩

/-- **What merging yields**, given enough steps. -/
theorem mem_mergeEntries_iff {fuel : Nat} {owner : Mark} {es es' : List (Node × Node)}
    {x : Node × Node} (hf : 2 * Node.entriesHeight es ≤ fuel)
    (he : mergeEntries fuel owner es = .ok es') : x ∈ es' ↔ IsEntry x es :=
  (merges fuel).entries hf he x

end Build

end Folio.Yaml
