/-
  Folio — what is part of a section.

  A section is part of another if its parent is, or is the other itself
  (`Body.Below`).  In the tree of headings these are the sections that follow the
  other up to the next of no lower level, where the other ends.

  * `below_iff`: which sections are part of one;
  * `stop_of_sections_eq`: where a section ends.
-/
import Folio.Proofs.Body.HeadingTree

namespace Folio.Body

/-- The section at place `i` is the parent of the one at place `j`. -/
def IsParent (b : Body) (i j : Nat) : Prop := ∃ c, b.sections[j]? = some c ∧ c.parent = some i

/-- The section at place `j` is part of the one at place `i`, directly or not. -/
def Below (b : Body) : Nat → Nat → Prop := Relation.TransGen b.IsParent

namespace IsHeadingTree
variable {b : Body} (h : b.IsHeadingTree) {i j : Nat} {s c : Section}
include h

theorem placed : Mark.Placed (b.sections.map Mark.ofSection) := by
  intro i m hm
  rw [List.getElem?_map] at hm
  obtain ⟨s, hs, rfl⟩ := Option.map_eq_some_iff.1 hm
  exact h.index hs

theorem mark_mem_iff {m : Mark} : m ∈ b.sections.map Mark.ofSection ↔
    ∃ e, b.sections[m.index]? = some e ∧ m = Mark.ofSection e := by
  rw [h.placed.mem_iff, List.getElem?_map, Option.map_eq_some_iff]
  simp only [eq_comm]

theorem parent_eq_above? (hc : b.sections[j]? = some c) : c.parent =
    (Mark.above? (b.sections.map Mark.ofSection) (.ofSection c)).map (·.index) := by
  rw [h.parent hc, Mark.above?, ← List.map_take, ← List.map_reverse, List.find?_map, Option.map_map]
  change _ = Option.map _ (((b.sections.take c.index).reverse).find? _)
  rw [h.index hc]
  rfl

/-- The parent is the nearest earlier section of a higher level. -/
theorem isParent_iff (hc : b.sections[j]? = some c) : b.IsParent i j ↔
    i < j ∧ ∃ p, b.sections[i]? = some p ∧ p.level < c.level ∧
      ∀ k e, b.sections[k]? = some e → i < k → k < j → c.level ≤ e.level := by
  have hi := h.index hc
  constructor
  · rintro ⟨c', hc', hp⟩
    obtain rfl : c = c' := Option.some.inj (hc.symm.trans hc')
    rw [h.parent_eq_above? hc] at hp
    obtain ⟨m, hm, rfl⟩ := Option.map_eq_some_iff.1 hp
    obtain ⟨hmem, hlt, hlevel, hbet⟩ := (Mark.above?_eq_some_iff h.placed).1 hm
    obtain ⟨p, hp, rfl⟩ := h.mark_mem_iff.1 hmem
    refine ⟨hi ▸ hlt, p, hp, hlevel, fun k e he hik hkj => ?_⟩
    have hk := h.index he
    have hemem : Mark.ofSection e ∈ b.sections.map Mark.ofSection :=
      List.mem_map_of_mem (List.mem_of_getElem? he)
    exact hbet _ hemem (by simpa [Mark.ofSection, hk, hi] using hkj)
      (by simpa [Mark.ofSection, hk] using hik)
  · rintro ⟨hij, p, hp, hlevel, hbet⟩
    have hpi := h.index hp
    refine ⟨c, hc, ?_⟩
    have ha : Mark.above? (b.sections.map Mark.ofSection) (.ofSection c) = some (.ofSection p) := by
      refine (Mark.above?_eq_some_iff h.placed).2
        ⟨List.mem_map_of_mem (List.mem_of_getElem? hp), ?_, hlevel, fun k hk hkc hpk => ?_⟩
      · simpa [Mark.ofSection, hpi, hi] using hij
      · obtain ⟨e, he, rfl⟩ := h.mark_mem_iff.1 hk
        have hk := h.index he
        exact hbet _ e he (by simpa [Mark.ofSection, hpi] using hpk)
          (by simpa [Mark.ofSection, hi] using hkc)
    rw [h.parent_eq_above? hc, ha]
    exact congrArg some hpi

/-- A section with an earlier one of a higher level has a parent, which is not
    before that one. -/
theorem exists_isParent (hs : b.sections[i]? = some s) (hc : b.sections[j]? = some c) (hij : i < j)
    (hlevel : s.level < c.level) : ∃ k, i ≤ k ∧ k < j ∧ b.IsParent k j := by
  cases ha : Mark.above? (b.sections.map Mark.ofSection) (.ofSection c) with
  | none =>
    have hle := (Mark.above?_eq_none_iff h.placed).1 ha (.ofSection s)
      (List.mem_map_of_mem (List.mem_of_getElem? hs))
      (by simpa [Mark.ofSection, h.index hs, h.index hc] using hij)
    exact absurd hlevel (Nat.not_lt.2 hle)
  | some m =>
    have hp : b.IsParent m.index j := ⟨c, hc, by rw [h.parent_eq_above? hc, ha]; rfl⟩
    obtain ⟨hlt, p, hp', -, hbet⟩ := (h.isParent_iff hc).1 hp
    refine ⟨m.index, ?_, hlt, hp⟩
    by_contra hlt'
    exact absurd (hbet i s hs (Nat.not_le.1 hlt') hij) (Nat.not_le.2 hlevel)

/-- **A section is part of another if all sections after the other up to it are of
    lower levels.** -/
theorem below_iff_levels (hs : b.sections[i]? = some s) : b.Below i j ↔
    i < j ∧ j < b.sections.length ∧
      ∀ k e, b.sections[k]? = some e → i < k → k ≤ j → s.level < e.level := by
  constructor
  · intro hb
    induction hb with
    | single hp =>
      obtain ⟨c, hc, -⟩ := id hp
      obtain ⟨hij, p, hp, hlevel, hbet⟩ := (h.isParent_iff hc).1 hp
      obtain rfl : s = p := Option.some.inj (hs.symm.trans hp)
      refine ⟨hij, (List.getElem?_eq_some_iff.1 hc).1, fun k e he hik hkj => ?_⟩
      rcases Nat.lt_or_eq_of_le hkj with hkj | rfl
      · exact Nat.lt_of_lt_of_le hlevel (hbet k e he hik hkj)
      · rwa [Option.some.inj (he.symm.trans hc)]
    | @tail m j _ hp ih =>
      obtain ⟨c, hc, -⟩ := id hp
      obtain ⟨him, -, ih⟩ := ih
      obtain ⟨hmj, p, hp, hlevel, hbet⟩ := (h.isParent_iff hc).1 hp
      have hsp := ih m p hp him (Nat.le_refl m)
      refine ⟨Nat.lt_trans him hmj, (List.getElem?_eq_some_iff.1 hc).1, fun k e he hik hkj => ?_⟩
      rcases Nat.lt_or_ge m k with hmk | hkm
      · rcases Nat.lt_or_eq_of_le hkj with hkj | rfl
        · exact Nat.lt_trans hsp (Nat.lt_of_lt_of_le hlevel (hbet k e he hmk hkj))
        · rw [Option.some.inj (he.symm.trans hc)]; exact Nat.lt_trans hsp hlevel
      · exact ih k e he hik hkm
  · rintro ⟨hij, hj, hlevels⟩
    induction j using Nat.strong_induction_on with
    | _ j ih =>
      have hc : b.sections[j]? = some b.sections[j] := List.getElem?_eq_getElem hj
      obtain ⟨k, hik, hkj, hp⟩ := h.exists_isParent hs hc hij (hlevels j _ hc hij (Nat.le_refl j))
      rcases Nat.lt_or_eq_of_le hik with hik | rfl
      · exact .tail (ih k hkj hik (Nat.lt_trans hkj hj) fun m e he him hmk =>
          hlevels m e he him (Nat.le_trans hmk (Nat.le_of_lt hkj))) hp
      · exact .single hp

section
variable {before below after : List Section} (hb : b.sections = before ++ s :: (below ++ after))
  (hbelow : ∀ e ∈ below, s.level < e.level) (hafter : ∀ e ∈ after.head?, e.level ≤ s.level)
include hb hbelow hafter

/-- **What is part of a section** follows it up to the next section of no lower
    level. -/
theorem below_iff : b.Below before.length j ↔
    before.length < j ∧ j ≤ before.length + below.length := by
  have hs : b.sections[before.length]? = some s := by simp [hb]
  have hget : ∀ k, b.sections[before.length + 1 + k]? = (below ++ after)[k]? := by
    intro k
    rw [hb, List.getElem?_append_right (by omega)]
    have : before.length + 1 + k - before.length = k + 1 := by omega
    rw [this, List.getElem?_cons_succ]
  rw [h.below_iff_levels hs]
  constructor
  · rintro ⟨hij, hj, hlevels⟩
    refine ⟨hij, ?_⟩
    by_contra hlt
    cases after with
    | nil =>
      rw [hb] at hj
      simp at hj
      omega
    | cons e after =>
      have he : b.sections[before.length + 1 + below.length]? = some e := by
        rw [hget, List.getElem?_append_right (Nat.le_refl _), Nat.sub_self]; rfl
      have := hlevels _ e he (by omega) (by omega)
      have := hafter e rfl
      omega
  · rintro ⟨hij, hj⟩
    refine ⟨hij, by rw [hb]; simp; omega, fun k e he hik hkj => ?_⟩
    obtain ⟨m, rfl⟩ : ∃ m, k = before.length + 1 + m := ⟨k - (before.length + 1), by omega⟩
    rw [hget, List.getElem?_append_left (by omega)] at he
    exact hbelow e (List.mem_of_getElem? he)

/-- **Where a section ends.** -/
theorem stop_of_sections_eq :
    s.stop = (after.head?.map (·.headingStart)).getD b.octets.length := by
  have hs : b.sections[before.length]? = some s := by simp [hb]
  have hdrop : b.sections.drop (before.length + 1) = below ++ after := by
    rw [hb, List.append_cons, List.drop_left' (by simp)]
  have hnone : below.find? (·.level ≤ s.level) = none :=
    List.find?_eq_none.2 fun e he => by simpa using hbelow e he
  have hfind : after.find? (·.level ≤ s.level) = after.head? := by
    cases after with
    | nil => rfl
    | cons e after => rw [List.find?_cons_of_pos (by simpa using hafter e rfl)]; rfl
  rw [h.stop hs, hdrop, List.find?_append, hnone, Option.none_or, hfind]

end

end IsHeadingTree

end Folio.Body
