/-
  Folio — where a cursor is after some characters.

  A cursor only goes on: its line and its index never fall.  After characters none
  of which ends a line it is on the same line, after a line end and some spaces it
  is in the column that these fill.

  * `Cursor.rest_advanceBy`: what follows the characters;
  * `Cursor.mark_advanceBy_of_inLine`: the place after characters of one line;
  * `Cursor.mark_advanceBy_freshLine`: the place after a line end and indentation.
-/
import Folio.Yaml.Cursor

namespace Folio.Yaml.Cursor

variable {c : Cursor} {ch : Char} {cs more : List Char}

/-! ## What follows -/

theorem rest_advance (c : Cursor) : c.advance.rest = c.rest.drop 1 := by
  rw [advance]
  split
  · rename_i h
    rw [h]
    rfl
  · rename_i h
    rw [h]
    rfl

theorem rest_advanceBy (c : Cursor) (n : Nat) : (c.advanceBy n).rest = c.rest.drop n := by
  induction n generalizing c with
  | zero => rfl
  | succ n ih => rw [advanceBy, ih, rest_advance, List.drop_drop, Nat.add_comm]

theorem advanceBy_add (c : Cursor) (m n : Nat) :
    c.advanceBy (m + n) = (c.advanceBy m).advanceBy n := by
  induction m generalizing c with
  | zero => rw [Nat.zero_add]; rfl
  | succ m ih => rw [Nat.succ_add, advanceBy, advanceBy, ih]

/-- Reading as far as a property holds, up to a character that lacks it. -/
theorem span_eq {p : Char → Bool} (h : c.rest = cs ++ more) (hcs : ∀ x ∈ cs, p x = true)
    (hmore : ∀ x ∈ more.head?, p x = false) : c.span p = (cs, c.advanceBy cs.length) := by
  have htake : c.rest.takeWhile p = cs := by
    rw [h, List.takeWhile_append_of_pos hcs]
    cases more with
    | nil => rw [List.takeWhile_nil, List.append_nil]
    | cons x more =>
      rw [List.takeWhile_cons_of_neg (by simp [hmore x rfl]), List.append_nil]
  rw [span, htake]

theorem skip_eq {p : Char → Bool} (h : c.rest = cs ++ more) (hcs : ∀ x ∈ cs, p x = true)
    (hmore : ∀ x ∈ more.head?, p x = false) : c.skip p = c.advanceBy cs.length := by
  rw [skip, span_eq h hcs hmore]

/-- Nothing is read where the property does not hold. -/
theorem span_eq_nil {p : Char → Bool} {x : Char} (h : c.rest = x :: more) (hx : p x = false) :
    c.span p = ([], c) := by
  have hrest : c.rest = [] ++ x :: more := h
  exact span_eq hrest (by simp) (by simpa using hx)

theorem skip_eq_self {p : Char → Bool} {x : Char} (h : c.rest = x :: more) (hx : p x = false) :
    c.skip p = c := by
  rw [skip, span_eq_nil h hx]

/-! ## Going on -/

/-- Is the place of the second cursor not before that of the first? -/
structure Le (c c' : Cursor) : Prop where
  line : c.mark.line ≤ c'.mark.line
  index : c.mark.index ≤ c'.mark.index
  rest : c'.rest.length ≤ c.rest.length

theorem Le.refl (c : Cursor) : c.Le c := ⟨Nat.le_refl _, Nat.le_refl _, Nat.le_refl _⟩

theorem Le.trans {a b c : Cursor} (h : a.Le b) (h' : b.Le c) : a.Le c :=
  ⟨Nat.le_trans h.line h'.line, Nat.le_trans h.index h'.index, Nat.le_trans h'.rest h.rest⟩

theorem line_le_markAfter (m : Mark) (c : Char) (f : Found) : m.line ≤ (markAfter m c f).line := by
  rw [markAfter]
  split
  · exact Nat.le_succ _
  · split <;> exact Nat.le_refl _

theorem le_advance (c : Cursor) : c.Le c.advance := by
  have hrest : c.advance.rest.length ≤ c.rest.length := by
    rw [rest_advance, List.length_drop]
    exact Nat.sub_le _ _
  revert hrest
  rw [advance]
  split
  · exact fun _ => .refl c
  · exact fun hrest =>
      ⟨line_le_markAfter _ _ _, by simp only [index_markAfter]; exact Nat.le_succ _, hrest⟩

theorem le_advanceBy (c : Cursor) (n : Nat) : c.Le (c.advanceBy n) := by
  induction n generalizing c with
  | zero => exact .refl c
  | succ n ih => exact c.le_advance.trans (ih _)

theorem le_skip (c : Cursor) (p : Char → Bool) : c.Le (c.skip p) := c.le_advanceBy _

theorem le_skipComment (c : Cursor) : c.Le c.skipComment := by
  rw [skipComment]
  split
  · exact c.le_skip _
  · exact .refl c

theorem le_lineBreak (c : Cursor) : c.Le c.lineBreak.2 := by
  rw [lineBreak]
  split
  · exact c.le_advanceBy 2
  · split
    · exact c.le_advance
    · split
      · exact c.le_advance
      · exact .refl c
  · exact .refl c

/-! ## Characters of one line -/

theorem markAfter_of_inLine (m : Mark) (h : isBreak ch = false) (f : Found) :
    markAfter m ch f =
      ⟨m.index + 1, m.line, if ch == '\uFEFF' then m.column else m.column + 1⟩ := by
  have hb : (ch == '\n' || ch == '\u0085' || ch == '\u2028' || ch == '\u2029' ||
      (ch == '\r' && f != some '\n')) = false := by
    simp only [isBreak, Bool.or_eq_false_iff] at h
    obtain ⟨⟨⟨⟨h₁, h₂⟩, h₃⟩, h₄⟩, h₅⟩ := h
    rw [h₁, h₂, h₃, h₄, h₅]
    rfl
  rw [markAfter, hb]
  split
  · rename_i hf
    cases hf
  · split <;> rfl

/-- After characters of one line the cursor is still on that line. -/
theorem mark_advanceBy_of_inLine (h : c.rest = cs ++ more) (hcs : ∀ x ∈ cs, isBreak x = false) :
    (c.advanceBy cs.length).mark.line = c.mark.line ∧
      (c.advanceBy cs.length).mark.index = c.mark.index + cs.length ∧
      c.mark.column ≤ (c.advanceBy cs.length).mark.column := by
  induction cs generalizing c with
  | nil => exact ⟨rfl, rfl, Nat.le_refl _⟩
  | cons x cs ih =>
    have hrest : c.advance.rest = cs ++ more := by rw [rest_advance, h]; rfl
    have hmark : c.advance.mark =
        ⟨c.mark.index + 1, c.mark.line, if x == '\uFEFF' then c.mark.column else c.mark.column + 1⟩ := by
      rw [advance, h]
      exact markAfter_of_inLine _ (hcs x List.mem_cons_self) _
    obtain ⟨h₁, h₂, h₃⟩ := ih hrest fun y hy => hcs y (List.mem_cons_of_mem _ hy)
    rw [hmark] at h₁ h₂ h₃
    refine ⟨h₁, ?_, Nat.le_trans ?_ h₃⟩
    · rw [List.length_cons, advanceBy, h₂, Nat.add_assoc, Nat.add_comm 1]
    · dsimp only
      split
      · exact Nat.le_refl _
      · exact Nat.le_succ _

/-- A character of the line takes a column, but a byte order mark. -/
theorem column_advance (h : c.rest = ch :: more) (hb : isBreak ch = false) (hm : ch ≠ '\uFEFF') :
    c.advance.mark.column = c.mark.column + 1 := by
  rw [advance, h]
  simp [markAfter_of_inLine c.mark hb, hm]

theorem mark_advance_space (h : c.rest = ' ' :: more) :
    c.advance.mark = ⟨c.mark.index + 1, c.mark.line, c.mark.column + 1⟩ := by
  rw [advance, h]
  rfl

theorem mark_advanceBy_spaces {n : Nat} (h : c.rest = List.replicate n ' ' ++ more) :
    (c.advanceBy n).mark = ⟨c.mark.index + n, c.mark.line, c.mark.column + n⟩ := by
  induction n generalizing c with
  | zero => rfl
  | succ n ih =>
    rw [List.replicate_succ, List.cons_append] at h
    rw [advanceBy, ih (by rw [rest_advance, h]; rfl), mark_advance_space h]
    simp only [Nat.add_assoc, Nat.add_comm 1]

theorem mark_advance_newLine (h : c.rest = '\n' :: more) :
    c.advance.mark = ⟨c.mark.index + 1, c.mark.line + 1, 0⟩ := by
  rw [advance, h]
  rfl

end Folio.Yaml.Cursor

namespace Folio.Yaml

/-- A line end and the indentation of the next line. -/
def freshLine (n : Nat) : List Char := '\n' :: List.replicate n ' '

@[simp] theorem length_freshLine (n : Nat) : (freshLine n).length = n + 1 := by
  simp [freshLine]

namespace Cursor
variable {c : Cursor} {more : List Char}

/-- After indentation the cursor is in its column of the next line. -/
theorem mark_advanceBy_freshLine {n : Nat} (h : c.rest = freshLine n ++ more) :
    (c.advanceBy (n + 1)).mark = ⟨c.mark.index + (n + 1), c.mark.line + 1, n⟩ := by
  have hrest : c.advance.rest = List.replicate n ' ' ++ more := by
    rw [rest_advance, h]
    rfl
  rw [advanceBy, mark_advanceBy_spaces hrest, mark_advance_newLine h, Nat.zero_add, Nat.add_assoc,
    Nat.add_comm 1]

end Cursor

end Folio.Yaml
