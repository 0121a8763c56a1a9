/-
  Folio — cuts between lines.

  The lines of two texts that follow each other are the lines of the whole, if the
  cut is between two lines: it is not inside one, and not between the CR and the
  LF of one line end.

  * `lines_append`: then the lines of the parts are those of the whole;
  * `cutsLines_of_lines_eq`: every cut of the list of lines is such a cut;
  * `lines_flatten_of_lines_eq`: its first part are the lines of a text;
  * `lines_append_of_plain`: octets that end no line are one.
-/
import Mathlib
import Folio.Text.Octets

namespace Folio.Octets

/-- Is the end of the first text the end of a line, if the second follows? -/
def CutsLines (a b : Octets) : Prop :=
  a = [] ∨ b = [] ∨ a.getLast? = some 10 ∨ (a.getLast? = some 13 ∧ b.head? ≠ some 10)

instance (a b : Octets) : Decidable (CutsLines a b) := inferInstanceAs (Decidable (_ ∨ _))

/-- A line has an octet at least. -/
theorem ne_nil_of_mem_lines {s l : Octets} (h : l ∈ lines s) : l ≠ [] := by
  fun_induction lines s with
  | case1 => cases h
  | case2 rest ih | case3 rest ih | case4 rest _ ih =>
    rcases List.mem_cons.1 h with rfl | h
    · exact List.cons_ne_nil _ _
    · exact ih h
  | case5 b rest _ _ _ hl ih =>
    rw [List.mem_singleton.1 h]; exact List.cons_ne_nil _ _
  | case6 b rest _ _ _ l' ls hl ih =>
    rcases List.mem_cons.1 h with rfl | h
    · exact List.cons_ne_nil _ _
    · exact ih (hl ▸ List.mem_cons_of_mem _ h)

theorem lines_eq_nil {s : Octets} : lines s = [] ↔ s = [] := by
  constructor
  · intro h; rw [← flatten_lines s, h]; rfl
  · rintro rfl; rfl

section
variable {a b : Octets} {x : UInt8}

theorem CutsLines.tail (h : CutsLines (x :: a) b) : CutsLines a b := by
  rcases eq_or_ne a [] with rfl | ha
  · exact Or.inl rfl
  · obtain ⟨y, a, rfl⟩ := List.exists_cons_of_ne_nil ha
    simpa [CutsLines, List.getLast?_cons_cons] using h

theorem CutsLines.cons (h : CutsLines a b) (ha : a ≠ []) : CutsLines (x :: a) b := by
  obtain ⟨y, a, rfl⟩ := List.exists_cons_of_ne_nil ha
  simpa [CutsLines, List.getLast?_cons_cons] using h

theorem cutsLines_append_left {p : Octets} (ha : a ≠ []) : CutsLines (p ++ a) b ↔ CutsLines a b := by
  induction p with
  | nil => rfl
  | cons y p ih =>
    have hne : p ++ a ≠ [] := fun h => ha (List.append_eq_nil_iff.1 h).2
    exact ⟨fun h => ih.1 h.tail, fun h => (ih.2 h).cons hne⟩

/-- What follows a line end starts a line. -/
theorem CutsLines.cons_of_end (h : CutsLines a b) (hx : x = 10 ∨ x = 13 ∧ (a ++ b).head? ≠ some 10) :
    CutsLines (x :: a) b := by
  rcases eq_or_ne a [] with rfl | ha
  · rcases hx with rfl | ⟨rfl, hb⟩
    · exact Or.inr (Or.inr (Or.inl rfl))
    · exact Or.inr (Or.inr (Or.inr ⟨rfl, hb⟩))
  · exact h.cons ha

theorem lines_cr_cons {s : Octets} (h : s.head? ≠ some 10) : lines (13 :: s) = [13] :: lines s := by
  rw [lines]
  rintro rest rfl; exact h rfl

theorem lines_cons_of_ne {c : UInt8} (h10 : c ≠ 10) (h13 : c ≠ 13) (s : Octets) :
    lines (c :: s) = match lines s with
      | [] => [[c]]
      | l :: ls => (c :: l) :: ls := by
  rw [lines.eq_def]
  split
  · next h => cases h
  · next h => cases h; exact absurd rfl h10
  · next h => cases h; exact absurd rfl h13
  · next h => cases h; exact absurd rfl h13
  · next h => cases h; rfl

/-- **The lines of two texts that are cut between lines.** -/
theorem lines_append (h : CutsLines a b) : lines (a ++ b) = lines a ++ lines b := by
  fun_induction lines a with
  | case1 => rfl
  | case2 rest ih => simp [lines, ih h.tail]
  | case3 rest ih => simp [lines, ih h.tail.tail]
  | case4 rest hne ih =>
    have hb : (rest ++ b).head? ≠ some 10 := by
      cases rest with
      | nil => rcases h with h | rfl | h | h <;> simp_all
      | cons y rest => intro hy; exact hne rest (by simp at hy; rw [hy])
    rw [List.cons_append, lines_cr_cons hb, ih h.tail, List.cons_append]
  | case5 c rest h10 _ h13 hl ih =>
    cases lines_eq_nil.1 hl
    rcases h with h | rfl | h | ⟨h, -⟩
    · cases h
    · simp [lines]
    · exact absurd (Option.some.inj h) h10
    · exact absurd (Option.some.inj h) h13
  | case6 c rest h10 _ h13 l ls hl ih =>
    rw [List.cons_append, lines_cons_of_ne h10 h13, ih h.tail, hl]
    rfl

/-- **Every cut of the list of lines is between lines.** -/
theorem cutsLines_of_lines_eq {s : Octets} {ls ms : List Octets} (h : lines s = ls ++ ms) :
    CutsLines ls.flatten ms.flatten := by
  fun_induction lines s generalizing ls with
  | case1 =>
    rw [(List.append_eq_nil_iff.1 h.symm).1]; exact Or.inl rfl
  | case2 rest ih =>
    rcases List.cons_eq_append_iff.1 h with ⟨rfl, -⟩ | ⟨ls, rfl, hls⟩
    · exact Or.inl rfl
    · exact (ih hls).cons_of_end (Or.inl rfl)
  | case3 rest ih =>
    rcases List.cons_eq_append_iff.1 h with ⟨rfl, -⟩ | ⟨ls, rfl, hls⟩
    · exact Or.inl rfl
    · exact ((ih hls).cons_of_end (Or.inl rfl)).cons (List.cons_ne_nil _ _)
  | case4 rest hne ih =>
    rcases List.cons_eq_append_iff.1 h with ⟨rfl, -⟩ | ⟨ls, rfl, hls⟩
    · exact Or.inl rfl
    · refine (ih hls).cons_of_end (Or.inr ⟨rfl, ?_⟩)
      rw [← List.flatten_append, ← hls, flatten_lines]
      intro hy
      obtain ⟨rest, rfl⟩ := List.head?_eq_some_iff.1 hy
      exact hne rest rfl
  | case5 c rest _ _ _ hl ih =>
    rcases List.cons_eq_append_iff.1 h with ⟨rfl, -⟩ | ⟨ls, rfl, hls⟩
    · exact Or.inl rfl
    · rw [(List.append_eq_nil_iff.1 hls.symm).2]; exact Or.inr (Or.inl rfl)
  | case6 c rest _ _ _ l ls' hl ih =>
    rcases List.cons_eq_append_iff.1 h with ⟨rfl, -⟩ | ⟨ls, rfl, rfl⟩
    · exact Or.inl rfl
    · have hne : l ++ ls.flatten ≠ [] := by
        intro h0
        exact ne_nil_of_mem_lines (hl ▸ List.mem_cons_self) (List.append_eq_nil_iff.1 h0).1
      have hcut : CutsLines (l :: ls).flatten ms.flatten := ih hl
      exact hcut.cons hne

/-- Lists of lines that start one list and make up the same text are the same. -/
theorem eq_of_append_eq_of_flatten_eq {α : Type} {as bs cs ds : List (List α)}
    (h : as ++ bs = cs ++ ds) (hf : as.flatten = cs.flatten) (ha : ∀ l ∈ as, l ≠ [])
    (hc : ∀ l ∈ cs, l ≠ []) : as = cs := by
  have hnil : ∀ es : List (List α), (∀ l ∈ es, l ≠ []) → es.flatten = [] → es = [] := by
    intro es hes he
    refine List.eq_nil_iff_forall_not_mem.2 fun l hl => hes l hl ?_
    exact List.flatten_eq_nil_iff.1 he l hl
  rcases List.append_eq_append_iff.1 h with ⟨es, rfl, -⟩ | ⟨es, rfl, -⟩
  · rw [List.flatten_append, List.self_eq_append_right] at hf
    rw [hnil es (fun l hl => hc l (List.mem_append_right _ hl)) hf, List.append_nil]
  · rw [List.flatten_append, List.append_right_eq_self] at hf
    rw [hnil es (fun l hl => ha l (List.mem_append_right _ hl)) hf, List.append_nil]

/-- The first lines of a text are the lines of its start. -/
theorem lines_flatten_of_lines_eq {s : Octets} {ls ms : List Octets} (h : lines s = ls ++ ms) :
    lines ls.flatten = ls := by
  have hs : s = ls.flatten ++ ms.flatten := by
    rw [← List.flatten_append, ← h, flatten_lines]
  have hl := lines_append (cutsLines_of_lines_eq h)
  rw [← hs, h] at hl
  refine (eq_of_append_eq_of_flatten_eq hl (flatten_lines _).symm (fun l hl => ?_) fun l =>
    ne_nil_of_mem_lines).symm
  exact ne_nil_of_mem_lines (h ▸ List.mem_append_left _ hl)

/-- The last lines of a text are the lines of its end. -/
theorem lines_flatten_of_lines_eq_append {s : Octets} {ls ms : List Octets} (h : lines s = ls ++ ms) :
    lines ms.flatten = ms := by
  have hs : s = ls.flatten ++ ms.flatten := by
    rw [← List.flatten_append, ← h, flatten_lines]
  have hl := lines_append (cutsLines_of_lines_eq h)
  rw [← hs, h, lines_flatten_of_lines_eq h] at hl
  exact (List.append_cancel_left hl).symm

end

/-- Octets that end no line are part of the line that follows them. -/
theorem lines_plain_append {s : Octets} (hne : s ≠ []) (hs : ∀ b ∈ s, b ≠ 10 ∧ b ≠ 13) (t : Octets) :
    lines (s ++ t) = match lines t with
      | [] => [s]
      | l :: ls => (s ++ l) :: ls := by
  induction s with
  | nil => exact absurd rfl hne
  | cons b s ih =>
    obtain ⟨h10, h13⟩ := hs b List.mem_cons_self
    rw [List.cons_append, lines_cons_of_ne h10 h13]
    by_cases hnil : s = []
    · subst hnil
      rfl
    · rw [ih hnil fun c hc => hs c (List.mem_cons_of_mem _ hc)]
      cases lines t <;> rfl

/-- Octets that end no line are one line with what follows them, if that is one. -/
theorem lines_append_of_plain {s t : Octets} (hs : ∀ b ∈ s, b ≠ 10 ∧ b ≠ 13)
    (ht : lines t = [] ∨ lines t = [t]) : lines (s ++ t) = [] ∨ lines (s ++ t) = [s ++ t] := by
  by_cases hne : s = []
  · subst hne
    exact ht
  · rw [lines_plain_append hne hs]
    rcases ht with h | h
    · rw [h, lines_eq_nil.1 h, List.append_nil]
      exact .inr rfl
    · rw [h]
      exact .inr rfl

/-- Octets that end no line stay before the text of the line. -/
theorem withoutLineEnd_plain_append {s : Octets} (hs : ∀ b ∈ s, b ≠ 10 ∧ b ≠ 13) (t : Octets) :
    (s ++ t).withoutLineEnd = s ++ t.withoutLineEnd := by
  have hplain : s.reverse.dropWhile (fun b => b == 10 || b == 13) = s.reverse := by
    refine List.dropWhile_eq_self_iff.2 fun hpos => ?_
    have := hs _ (List.mem_reverse.1 (List.getElem_mem hpos))
    simpa using this
  rw [withoutLineEnd, withoutLineEnd, List.reverse_append, List.dropWhile_append, hplain]
  split
  · rename_i h
    rw [List.isEmpty_iff.1 h, List.reverse_nil, List.append_nil, List.reverse_reverse]
  · rw [List.reverse_append, List.reverse_reverse]

/-- The text of a line comes before its line end. -/
theorem withoutLineEnd_append {s t : Octets} (hs : ∀ b ∈ s, b ≠ 10 ∧ b ≠ 13)
    (ht : ∀ b ∈ t, b = 10 ∨ b = 13) : (s ++ t).withoutLineEnd = s := by
  have hend : ∀ b ∈ t.reverse, (b == 10 || b == 13) = true := fun b hb => by
    simpa using ht b (List.mem_reverse.1 hb)
  rw [withoutLineEnd_plain_append hs, withoutLineEnd, List.dropWhile_eq_nil_iff.2 hend,
    List.reverse_nil, List.append_nil]

end Folio.Octets
