/-
  Folio — what trimming leaves.

  * `exists_dropWhileEnd`: a list is what is left of it and the run at its end;
  * `trim_eq_self_iff`: a text keeps its ends if they are not blank;
  * `trim_spaced`: a space at each end is trimmed.
-/
import Mathlib
import Folio.Text.Blank

namespace Folio.Text

/-! ## The end of a list -/

theorem dropWhileEnd_cons {α : Type} {p : α → Bool} {x : α} (h : p x = false) (ys : List α) :
    dropWhileEnd p (x :: ys) = x :: dropWhileEnd p ys := by
  rw [dropWhileEnd, List.reverse_cons, List.dropWhile_append]
  split
  · next he =>
    have hnil : dropWhileEnd p ys = [] := by
      rw [dropWhileEnd, List.isEmpty_iff.1 he]; rfl
    rw [hnil, List.dropWhile_cons_of_neg (by simp [h])]; rfl
  · simp [dropWhileEnd]

theorem dropWhileEnd_append {α : Type} {p : α → Bool} {ys : List α} (h : ∀ y ∈ ys, p y = true)
    (xs : List α) : dropWhileEnd p (xs ++ ys) = dropWhileEnd p xs := by
  rw [dropWhileEnd, List.reverse_append, List.dropWhile_append_of_pos (by simpa using h)]
  rfl

theorem dropWhileEnd_eq_self {α : Type} {p : α → Bool} {xs : List α}
    (h : ∀ x ∈ xs.getLast?, p x = false) : dropWhileEnd p xs = xs := by
  have hrev : xs.reverse.dropWhile p = xs.reverse := by
    cases hxs : xs.reverse with
    | nil => rfl
    | cons x ys =>
      have hx : xs.getLast? = some x := by rw [← List.head?_reverse, hxs]; rfl
      exact List.dropWhile_cons_of_neg (by simp [h x hx])
  rw [dropWhileEnd, hrev, List.reverse_reverse]

/-- A list is what is left of it and the run at its end. -/
theorem exists_dropWhileEnd {α : Type} (p : α → Bool) (xs : List α) :
    ∃ run, xs = dropWhileEnd p xs ++ run ∧ (∀ x ∈ run, p x = true) ∧
      ∀ x ∈ (dropWhileEnd p xs).getLast?, p x = false := by
  refine ⟨(xs.reverse.takeWhile p).reverse, ?_, fun x hx => ?_, fun x hx => ?_⟩
  · rw [dropWhileEnd, ← List.reverse_append, List.takeWhile_append_dropWhile, List.reverse_reverse]
  · exact List.all_eq_true.1 List.all_takeWhile x (List.mem_reverse.1 hx)
  · have hnot := List.head?_dropWhile_not p xs.reverse
    rw [dropWhileEnd, List.getLast?_reverse] at hx
    rw [Option.mem_def.1 hx] at hnot
    simpa using hnot

theorem prefix_dropWhileEnd {α : Type} (p : α → Bool) (xs : List α) : dropWhileEnd p xs <+: xs := by
  obtain ⟨run, hrun, -⟩ := exists_dropWhileEnd p xs
  exact ⟨run, hrun.symm⟩

theorem length_dropWhileEnd_le {α : Type} (p : α → Bool) (xs : List α) :
    (dropWhileEnd p xs).length ≤ xs.length :=
  (prefix_dropWhileEnd p xs).length_le

/-! ## Trimming -/

theorem trimStart_eq_self {cs : List Char} (h : ∀ c ∈ cs.head?, isBlank c = false) :
    trimStart cs = cs := by
  cases cs with
  | nil => rfl
  | cons c cs => exact List.dropWhile_cons_of_neg (by simp [h c rfl])

theorem trimEnd_eq_self {cs : List Char} (h : ∀ c ∈ cs.getLast?, isBlank c = false) :
    trimEnd cs = cs :=
  dropWhileEnd_eq_self h

/-- A text that neither starts nor ends with a blank is what is left of it without blanks
    at its ends. -/
theorem trim_eq_self_iff {cs : List Char} : trim cs = cs ↔
    (∀ c ∈ cs.head?, isBlank c = false) ∧ ∀ c ∈ cs.getLast?, isBlank c = false := by
  constructor
  · intro h
    have hblank : ∀ ds : List Char, ∀ c ∈ (ds.dropWhile isBlank).head?, isBlank c = false := by
      intro ds c hc
      have := List.head?_dropWhile_not isBlank ds
      rw [Option.mem_def.1 hc] at this
      simpa using this
    have hstart : cs.dropWhile isBlank = cs := by
      refine (List.dropWhile_suffix isBlank).eq_of_length (Nat.le_antisymm ?_ ?_)
      · exact (List.dropWhile_suffix isBlank).length_le
      · have := length_dropWhileEnd_le isBlank (cs.dropWhile isBlank)
        rwa [← trimEnd, ← trimStart, ← trim, h] at this
    refine ⟨fun c hc => hblank cs c (by rwa [hstart]), fun c hc => ?_⟩
    rw [← h, trim, trimEnd, dropWhileEnd, List.getLast?_reverse] at hc
    exact hblank _ c hc
  · rintro ⟨hhead, hlast⟩
    rw [trim, trimStart_eq_self hhead, trimEnd_eq_self hlast]

/-- One space at each end is trimmed. -/
theorem trim_spaced {cs : List Char} (h : trim cs = cs) : trim (' ' :: (cs ++ [' '])) = cs := by
  obtain ⟨hhead, hlast⟩ := trim_eq_self_iff.1 h
  have hspace : isBlank ' ' = true := by decide
  cases cs with
  | nil => decide
  | cons c cs =>
    have hstart : trimStart (' ' :: (c :: cs ++ [' '])) = c :: cs ++ [' '] := by
      rw [trimStart, List.dropWhile_cons_of_pos hspace]
      exact trimStart_eq_self fun d hd => hhead d hd
    have hend : trimEnd (c :: cs ++ [' ']) = trimEnd (c :: cs) := by
      rw [trimEnd, dropWhileEnd, List.reverse_append, List.reverse_singleton, List.singleton_append,
        List.dropWhile_cons_of_pos hspace]
      rfl
    rw [trim, hstart, hend, trimEnd_eq_self hlast]

/-- A text without blanks is left as it is. -/
theorem trim_eq_self {cs : List Char} (h : ∀ c ∈ cs, isBlank c = false) : trim cs = cs :=
  trim_eq_self_iff.2 ⟨fun c hc => h c (List.mem_of_mem_head? hc),
    fun c hc => h c (List.mem_of_mem_getLast? hc)⟩

end Folio.Text
