/-
  Folio — how headings nest.

  A heading is told by its place, its level and where it starts (`Mark`).  The
  section of a heading ends at the first later heading that is not below it
  (`Mark.next?`), and it is part of the nearest earlier one of a higher level
  (`Mark.above?`).

  * `next?_of_above?`: a section ends where the next child of its parent starts,
    or, if it is the last child, where its parent ends.
-/
import Mathlib
import Folio.Body.Basic

namespace Folio.Body

/-- What tells a heading among the headings of a body. -/
structure Mark where
  index : Nat
  level : Nat
  start : Nat

namespace Mark

/-- What tells the heading of a section. -/
def ofSection (s : Section) : Mark := ⟨s.index, s.level, s.headingStart⟩

/-- The headings of a body stand at their places. -/
def Placed (ms : List Mark) : Prop := ∀ i (m : Mark), ms[i]? = some m → m.index = i

/-- The first heading after one that is not below it. -/
def next? (ms : List Mark) (m : Mark) : Option Mark :=
  (ms.drop (m.index + 1)).find? (·.level ≤ m.level)

/-- The nearest heading before one that is of a higher level. -/
def above? (ms : List Mark) (m : Mark) : Option Mark :=
  (ms.take m.index).reverse.find? (·.level < m.level)

/-! ## One heading more -/

section
variable {ms : List Mark} {m n : Mark}

theorem Placed.append (h : Placed ms) (hn : n.index = ms.length) : Placed (ms ++ [n]) := by
  intro i m hm
  rcases Nat.lt_or_ge i ms.length with hi | hi
  · rw [List.getElem?_append_left hi] at hm; exact h i m hm
  · rw [List.getElem?_append_right hi, List.getElem?_singleton] at hm
    split at hm
    · cases hm; omega
    · cases hm

theorem next?_append (hm : m.index < ms.length) :
    next? (ms ++ [n]) m = (next? ms m).or (if n.level ≤ m.level then some n else none) := by
  rw [next?, List.drop_append_of_le_length hm, List.find?_append, next?, List.find?_singleton]
  simp only [decide_eq_true_eq]

theorem next?_last (hm : ms.length ≤ m.index + 1) : next? ms m = none := by
  rw [next?, List.drop_eq_nil_of_le hm]; rfl

theorem above?_append (hm : m.index ≤ ms.length) : above? (ms ++ [n]) m = above? ms m := by
  rw [above?, List.take_append_of_le_length hm, above?]

end

/-! ## Nearest headings -/

/-- What is found in an ordered list comes before all else that could be found. -/
theorem find?_eq_some_iff_of_pairwise {α : Type} {r : α → α → Prop} {p : α → Bool} {l : List α}
    {a : α} (hl : l.Pairwise r) (hr : ∀ x y, r x y → ¬ r y x) :
    l.find? p = some a ↔ a ∈ l ∧ p a = true ∧ ∀ b ∈ l, r b a → p b = false := by
  induction l with
  | nil => simp
  | cons x l ih =>
    obtain ⟨hx, hl⟩ := List.pairwise_cons.1 hl
    rw [List.find?_cons]
    cases hp : p x with
    | true =>
      constructor
      · rintro ⟨rfl⟩
        refine ⟨List.mem_cons_self, hp, fun b hb hba => ?_⟩
        rcases List.mem_cons.1 hb with rfl | hb
        · exact absurd hba (hr _ _ hba)
        · exact absurd hba (hr _ _ (hx b hb))
      · rintro ⟨ha, -, hfirst⟩
        rcases List.mem_cons.1 ha with rfl | ha
        · rfl
        · rw [hfirst x List.mem_cons_self (hx a ha)] at hp; cases hp
    | false =>
      rw [ih hl]
      constructor
      · rintro ⟨ha, hpa, hfirst⟩
        refine ⟨List.mem_cons_of_mem _ ha, hpa, fun b hb hba => ?_⟩
        rcases List.mem_cons.1 hb with rfl | hb
        · exact hp
        · exact hfirst b hb hba
      · rintro ⟨ha, hpa, hfirst⟩
        rcases List.mem_cons.1 ha with rfl | ha
        · rw [hp] at hpa; cases hpa
        · exact ⟨ha, hpa, fun b hb hba => hfirst b (List.mem_cons_of_mem _ hb) hba⟩

section
variable {ms : List Mark} (h : Placed ms) {m n : Mark}
include h

theorem Placed.mem_iff : m ∈ ms ↔ ms[m.index]? = some m := by
  constructor
  · intro hm
    obtain ⟨i, hi⟩ := List.mem_iff_getElem?.1 hm
    rwa [h i m hi]
  · exact fun hm => List.mem_of_getElem? hm

/-- Headings at one place are one heading. -/
theorem Placed.eq_of_index (hm : m ∈ ms) (hn : n ∈ ms) (hi : m.index = n.index) : m = n := by
  have hm := h.mem_iff.1 hm
  rw [hi, h.mem_iff.1 hn] at hm
  exact (Option.some.inj hm).symm

theorem Placed.index_lt (hm : m ∈ ms) : m.index < ms.length :=
  (List.getElem?_eq_some_iff.1 (h.mem_iff.1 hm)).1

theorem Placed.pairwise : ms.Pairwise (·.index < ·.index) := by
  rw [List.pairwise_iff_getElem]
  intro i j hi hj hij
  rwa [h i _ (List.getElem?_eq_getElem hi), h j _ (List.getElem?_eq_getElem hj)]

theorem Placed.mem_drop {i : Nat} : m ∈ ms.drop i ↔ m ∈ ms ∧ i ≤ m.index := by
  rw [List.mem_iff_getElem?]
  constructor
  · rintro ⟨k, hk⟩
    rw [List.getElem?_drop] at hk
    exact ⟨List.mem_of_getElem? hk, by rw [h _ m hk]; omega⟩
  · rintro ⟨hm, hi⟩
    refine ⟨m.index - i, ?_⟩
    rw [List.getElem?_drop, Nat.add_sub_cancel' hi, h.mem_iff.1 hm]

theorem Placed.mem_take {i : Nat} : m ∈ ms.take i ↔ m ∈ ms ∧ m.index < i := by
  rw [List.mem_iff_getElem?]
  constructor
  · rintro ⟨k, hk⟩
    rw [List.getElem?_take] at hk
    split at hk
    · exact ⟨List.mem_of_getElem? hk, by rwa [h _ m hk]⟩
    · cases hk
  · rintro ⟨hm, hi⟩
    exact ⟨m.index, by rw [List.getElem?_take, if_pos hi, h.mem_iff.1 hm]⟩

/-- Nothing between a heading and the one that ends its section ends it. -/
theorem next?_eq_some_iff : next? ms m = some n ↔ n ∈ ms ∧ m.index < n.index ∧ n.level ≤ m.level ∧
    ∀ k ∈ ms, m.index < k.index → k.index < n.index → m.level < k.level := by
  have hp := h.pairwise.sublist (List.drop_sublist (m.index + 1) ms)
  rw [next?, find?_eq_some_iff_of_pairwise hp fun _ _ => Nat.lt_asymm]
  simp only [h.mem_drop, decide_eq_true_eq, decide_eq_false_iff_not, Nat.not_le, and_imp, and_assoc]
  rfl

theorem next?_eq_none_iff : next? ms m = none ↔ ∀ k ∈ ms, m.index < k.index → m.level < k.level := by
  rw [next?, List.find?_eq_none]
  simp only [h.mem_drop, decide_eq_true_eq, Nat.not_le, and_imp]
  rfl

/-- Nothing between a heading and the one above it is above it. -/
theorem above?_eq_some_iff : above? ms m = some n ↔ n ∈ ms ∧ n.index < m.index ∧ n.level < m.level ∧
    ∀ k ∈ ms, k.index < m.index → n.index < k.index → m.level ≤ k.level := by
  have hp := List.pairwise_reverse.2 (h.pairwise.sublist (List.take_sublist m.index ms))
  rw [above?, find?_eq_some_iff_of_pairwise hp fun _ _ => Nat.lt_asymm]
  simp only [List.mem_reverse, h.mem_take, decide_eq_true_eq, decide_eq_false_iff_not, Nat.not_lt,
    and_imp, and_assoc]

theorem above?_eq_none_iff : above? ms m = none ↔ ∀ k ∈ ms, k.index < m.index → m.level ≤ k.level := by
  rw [above?, List.find?_eq_none]
  simp only [List.mem_reverse, h.mem_take, decide_eq_true_eq, Nat.not_lt, and_imp]

/-! ## Siblings -/

section
variable {s c d : Mark}

/-- A later sibling is of no lower level. -/
theorem level_le_of_siblings (hc : above? ms c = some s) (hd : above? ms d = some s) (hm : c ∈ ms)
    (hcd : c.index < d.index) : d.level ≤ c.level :=
  ((above?_eq_some_iff h).1 hd).2.2.2 c hm hcd ((above?_eq_some_iff h).1 hc).2.1

/-- The heading that ends the section of a child is the next child, or it ends the
    section of the parent, and then no child follows. -/
theorem next?_of_above? (hm : c ∈ ms) (hc : above? ms c = some s) :
    (∃ d, next? ms c = some d ∧ above? ms d = some s) ∨
      (next? ms c = next? ms s ∧ ∀ d ∈ ms, c.index < d.index → above? ms d ≠ some s) := by
  obtain ⟨hs, hsc, hlt, hbet⟩ := (above?_eq_some_iff h).1 hc
  -- what lies between the parent and what ends the child is below the parent
  have hbelow : ∀ k ∈ ms, s.index < k.index → (c.index < k.index → c.level < k.level) →
      s.level < k.level := by
    intro k hk hsk hck
    rcases Nat.lt_trichotomy k.index c.index with h1 | h1 | h1
    · exact Nat.lt_of_lt_of_le hlt (hbet k hk h1 hsk)
    · rwa [h.eq_of_index hk hm h1]
    · exact Nat.lt_trans hlt (hck h1)
  cases hn : next? ms c with
  | none =>
    have hafter := (next?_eq_none_iff h).1 hn
    refine Or.inr ⟨((next?_eq_none_iff h).2 fun k hk hsk => hbelow k hk hsk (hafter k hk)).symm, ?_⟩
    intro d hd hcd hds
    have := level_le_of_siblings h hc hds hm hcd
    have := hafter d hd hcd
    omega
  | some n =>
    obtain ⟨hn', hcn, hle, hgap⟩ := (next?_eq_some_iff h).1 hn
    rcases Nat.lt_or_ge s.level n.level with hsn | hns
    · refine Or.inl ⟨n, rfl, (above?_eq_some_iff h).2 ⟨hs, by omega, hsn, fun k hk hkn hsk => ?_⟩⟩
      rcases Nat.lt_trichotomy k.index c.index with h1 | h1 | h1
      · exact Nat.le_trans hle (hbet k hk h1 hsk)
      · rwa [h.eq_of_index hk hm h1]
      · exact Nat.le_trans hle (Nat.le_of_lt (hgap k hk h1 hkn))
    · refine Or.inr ⟨((next?_eq_some_iff h).2 ⟨hn', by omega, hns, fun k hk hsk hkn =>
        hbelow k hk hsk fun hck => hgap k hk hck hkn⟩).symm, ?_⟩
      intro d hd hcd hds
      have hdc := level_le_of_siblings h hc hds hm hcd
      obtain ⟨-, -, hsd, hbd⟩ := (above?_eq_some_iff h).1 hds
      rcases Nat.lt_trichotomy d.index n.index with h1 | h1 | h1
      · have := hgap d hd hcd h1; omega
      · rw [h.eq_of_index hd hn' h1] at hsd; omega
      · have := hbd n hn' h1 (by omega); omega

end

end

end Mark

end Folio.Body
