/-
  Folio — plain scalars are read back.

  `Plain` says how a text may stand without quotes: as words with blanks between
  them, of which a single one may be folded onto a fresh line.

  * `Plain.plain_eq_of_colon`, `Plain.plain_eq_of_freshLine`: such a scalar is read
    as its text, up to a colon or over the line end after it.
-/
import Folio.Proofs.Yaml.Quoted

namespace Folio.Yaml

/-- Is the text one word, which no number sign starts and no colon ends? -/
structure IsWord (w : List Char) : Prop where
  solid : ∀ x ∈ w, Cursor.atBlank (some x) = false
  ne_nil : w ≠ []
  first : w.head? ≠ some '#'
  last : w.getLast? ≠ some ':'
  shown : ∀ x ∈ w, isAcceptable x = true

/-- The text `t` stands without quotes for the characters `cs`, with `n` spaces of
    indentation on fresh lines. -/
inductive Plain (n : Nat) : (cs t : List Char) → Prop where
  | word {w : List Char} (word : IsWord w) : Plain n w w
  | blanks {w cs t : List Char} (k : Nat) (word : IsWord w) (rest : Plain n cs t) :
      Plain n (w ++ (List.replicate (k + 1) ' ' ++ cs)) (w ++ (List.replicate (k + 1) ' ' ++ t))
  | fold {w cs t : List Char} (word : IsWord w) (rest : Plain n cs t) :
      Plain n (w ++ ' ' :: cs) (w ++ (freshLine n ++ t))

/-- Does a line that separates documents start here, as far as its first three
    characters tell? -/
def Separates (t : List Char) : Prop := t.take 3 = ['-', '-', '-'] ∨ t.take 3 = ['.', '.', '.']

/-- What may follow the line end after a node: something that is neither white space
    nor a comment nor a line that separates documents. -/
structure Follows (t : List Char) : Prop where
  solid : Solid t
  comment : t.head? ≠ some '#'
  mark : t.head? ≠ some '\uFEFF'
  separates : ¬Separates t

namespace Scalar
variable {n m indent : Nat} {c : Cursor} {w cs t more : List Char}

theorem atSeparator_of_not_separates (h : ¬Separates c.rest) : c.atSeparator = false := by
  simp only [Separates, not_or] at h
  simp [Cursor.atSeparator, Cursor.atTriple, h.1, h.2]

theorem not_separates_indented (h : ¬Separates t) (n : Nat) :
    ¬Separates (List.replicate n ' ' ++ t) := by
  cases n with
  | zero => exact h
  | succ n =>
    rw [List.replicate_succ, List.cons_append]
    rintro (h | h) <;> · rw [List.take_succ_cons] at h; cases h

/-- What follows a text does not make it a line that separates documents, unless it goes
    on with the sign of such a line. -/
theorem not_separates_append (h : ¬Separates t)
    (hmore : more.head? ≠ some '-' ∧ more.head? ≠ some '.') : ¬Separates (t ++ more) := by
  match t, more with
  | [], [] => exact h
  | [], y :: more =>
    rintro (h | h) <;>
    · rw [List.nil_append, List.take_succ_cons] at h
      simp [(List.cons.inj h).1] at hmore
  | [x], [] => exact h
  | [x], y :: more =>
    rintro (h | h) <;>
    · simp only [List.cons_append, List.nil_append, List.take_succ_cons, List.cons.injEq] at h
      simp [h.2.1] at hmore
  | [x, z], [] => exact h
  | [x, z], y :: more =>
    rintro (h | h) <;>
    · simp only [List.cons_append, List.nil_append, List.take_succ_cons, List.cons.injEq] at h
      simp [h.2.2.1] at hmore
  | x :: z :: w :: t, more => exact h

/-! ## Words -/

/-- Does a word end before this text? -/
def EndsWord (t : List Char) : Prop :=
  Cursor.atBlank t.head? = true ∨ ∃ r, t = ':' :: r ∧ Cursor.atBlank r.head? = true

theorem plainWord_eq_nil (h : EndsWord more) : plainWord false more = [] := by
  cases more with
  | nil => rfl
  | cons x more =>
    rw [plainWord, if_pos]
    rcases h with h | ⟨r, hr, h⟩
    · simp only [List.head?_cons] at h
      simp [h]
    · obtain ⟨rfl, rfl⟩ := List.cons.inj hr
      simp [endsAtColon, h]

theorem plainWord_eq (hw : IsWord w) (h : EndsWord more) : plainWord false (w ++ more) = w := by
  obtain ⟨hsolid, -, -, hlast, -⟩ := hw
  induction w with
  | nil => exact plainWord_eq_nil h
  | cons x w ih =>
    have hx := hsolid x List.mem_cons_self
    have hcolon : (x == ':' && endsAtColon false (w ++ more).head?) = false := by
      cases w with
      | nil =>
        have : x ≠ ':' := fun he => hlast (by simp [he])
        simp [this]
      | cons y w =>
        have hy := hsolid y (List.mem_cons_of_mem _ List.mem_cons_self)
        simp [endsAtColon, hy]
    rw [List.cons_append, plainWord, if_neg (by rw [hx, hcolon]; simp),
      ih (fun y hy => hsolid y (List.mem_cons_of_mem _ hy))]
    cases w with
    | nil => simp
    | cons y w => simpa using hlast

theorem endsWord_of_atBlank {x : Char} (h : Cursor.atBlank (some x) = true) :
    EndsWord (x :: more) := .inl h

/-! ## Gaps -/

theorem plainGap_blanks {k : Nat} {x : Char} (hx : Cursor.atBlank (some x) = false)
    (h : c.rest = List.replicate k ' ' ++ x :: more) :
    plainGap c = (List.replicate k ' ', c.advanceBy k, false) := by
  simp only [Cursor.atBlank, Option.all_some, Bool.or_eq_false_iff] at hx
  have hspan : (c.span fun ch => ch == ' ') = (List.replicate k ' ', c.advanceBy k) := by
    rw [Cursor.span_eq h (by simp) ?_, List.length_replicate]
    intro y hy
    obtain rfl : x = y := by simpa using hy
    simp [hx.1.1]
  have hpeek : (c.advanceBy k).peek = some x := by
    rw [Cursor.peek, Cursor.rest_advanceBy, h, List.drop_left' (List.length_replicate ..)]
    rfl
  rw [plainGap, hspan]
  simp [hpeek, hx.2]

/-- Blanks are passed over to what is solid. -/
theorem plainBreaks_eq (ht : Solid t) (h : c.rest = List.replicate n ' ' ++ t) {fuel : Nat}
    (hf : n < fuel) : plainBreaks fuel c = (some [], c.advanceBy n) := by
  induction n generalizing c fuel with
  | zero =>
    obtain ⟨fuel, rfl⟩ : ∃ k, fuel = k + 1 := ⟨fuel - 1, by omega⟩
    have hpeek : c.peek = t.head? := by
      rw [Cursor.peek, h]
      rfl
    rw [plainBreaks, hpeek]
    cases hx : t.head? with
    | none => rfl
    | some x =>
      have hsolid := ht x hx
      simp only [Cursor.atBlank, Option.all_some, Bool.or_eq_false_iff] at hsolid
      simp only [hsolid, Bool.false_eq_true, if_false]
      rfl
  | succ n ih =>
    obtain ⟨fuel, rfl⟩ : ∃ k, fuel = k + 1 := ⟨fuel - 1, by omega⟩
    rw [List.replicate_succ, List.cons_append] at h
    have hpeek : c.peek = some ' ' := by
      rw [Cursor.peek, h]
      rfl
    have hrest : c.advance.rest = List.replicate n ' ' ++ t := by
      rw [Cursor.rest_advance, h]
      rfl
    rw [plainBreaks, hpeek]
    simp only [beq_self_eq_true, if_true]
    exact ih hrest (by omega)

/-- A line end and indentation count as one blank. -/
theorem plainGap_freshLine (ht : Solid t) (hs : ¬Separates (List.replicate n ' ' ++ t))
    (h : c.rest = freshLine n ++ t) : plainGap c = ([' '], c.advanceBy (n + 1), true) := by
  have hspan : (c.span fun ch => ch == ' ') = ([], c) :=
    Cursor.span_eq_nil h (by decide)
  have hpeek : c.peek = some '\n' := by
    rw [Cursor.peek, h]
    rfl
  have hbreak : c.lineBreak = (['\n'], c.advance) :=
    lineBreak_eq (by decide) (by decide) h
  have hrest : c.advance.rest = List.replicate n ' ' ++ t := by
    rw [Cursor.rest_advance, h]
    rfl
  have hsep : c.advance.atSeparator = false := atSeparator_of_not_separates (by rwa [hrest])
  have hbreaks : plainBreaks c.advance.fuel c.advance = (some [], c.advance.advanceBy n) :=
    plainBreaks_eq ht hrest (by
      rw [Cursor.fuel, hrest, List.length_append, List.length_replicate]
      omega)
  rw [plainGap, hspan]
  simp only [hpeek, hbreak, hsep, hbreaks]
  rfl

/-! ## Scalars -/

/-- Does a plain scalar that is indented so far end at this gap? -/
def EndsPlain (indent : Nat) (gap : List Char × Cursor × Bool) : Prop :=
  gap.1.isEmpty = true ∨ gap.2.1.mark.column < indent

theorem plainFrom_word (hw : IsWord w) (hmore : EndsWord more) (hc : c.rest = w ++ more)
    (fuel : Nat) (gap : List Char) (stop : Mark) (newLine : Bool) :
    plainFrom false indent (fuel + 1) gap c stop newLine =
      if (plainGap (c.advanceBy w.length)).1.isEmpty ||
          (plainGap (c.advanceBy w.length)).2.1.peek == some '#' ||
          decide ((plainGap (c.advanceBy w.length)).2.1.mark.column < indent) then
        (gap ++ w, (c.advanceBy w.length).mark, (plainGap (c.advanceBy w.length)).2)
      else
        let r := plainFrom false indent fuel (plainGap (c.advanceBy w.length)).1
          (plainGap (c.advanceBy w.length)).2.1 (c.advanceBy w.length).mark
          (plainGap (c.advanceBy w.length)).2.2
        (gap ++ w ++ r.1, r.2) := by
  have hword : plainWord false c.rest = w := by rw [hc, plainWord_eq hw hmore]
  have hpeek : (c.peek == some '#' || w.isEmpty) = false := by
    obtain ⟨x, w, rfl⟩ := List.exists_cons_of_ne_nil hw.ne_nil
    have hx : x ≠ '#' := fun he => hw.first (by simp [he])
    rw [Cursor.peek, hc]
    simp [hx]
  rw [plainFrom, hword, hpeek]
  simp only [Bool.false_eq_true, if_false, Bool.not_false, Bool.true_and]

end Scalar

open Scalar

variable {n indent : Nat} {cs t more : List Char}

theorem Plain.exists_cons (h : Plain n cs t) :
    ∃ x r, t = x :: r ∧ Cursor.atBlank (some x) = false ∧ x ≠ '#' := by
  obtain ⟨w, r, hw, rfl⟩ : ∃ w r, IsWord w ∧ t = w ++ r := by
    cases h with
    | word word => exact ⟨_, [], word, (List.append_nil _).symm⟩
    | blanks k word _ => exact ⟨_, _, word, rfl⟩
    | fold word _ => exact ⟨_, _, word, rfl⟩
  obtain ⟨x, w, rfl⟩ := List.exists_cons_of_ne_nil hw.ne_nil
  exact ⟨x, w ++ r, rfl, hw.solid x List.mem_cons_self, fun he => hw.first (by simp [he])⟩

/-- A plain scalar is read up to where it ends. -/
theorem Plain.plainFrom_eq (h : Plain n cs t) (hn : 0 < n) (hi : indent ≤ n)
    (hmore : EndsWord more) {c : Cursor} (hc : c.rest = t ++ more) (hcol : indent ≤ c.mark.column + 1)
    (hend : EndsPlain indent (plainGap (c.advanceBy t.length))) (fuel : Nat) (hf : t.length < fuel)
    (gap : List Char) (stop : Mark) (newLine : Bool) :
    plainFrom false indent fuel gap c stop newLine =
      (gap ++ cs, (c.advanceBy t.length).mark, (plainGap (c.advanceBy t.length)).2) := by
  induction h generalizing c fuel gap stop newLine with
  | @word w word =>
    obtain ⟨fuel, rfl⟩ : ∃ k, fuel = k + 1 := ⟨fuel - 1, by omega⟩
    rw [plainFrom_word word hmore hc, if_pos]
    rcases hend with h | h <;> simp [h]
  | @blanks w cs t k word rest ih =>
    obtain ⟨fuel, rfl⟩ : ∃ k, fuel = k + 1 := ⟨fuel - 1, by omega⟩
    obtain ⟨x, r, rfl, hx, hx'⟩ := rest.exists_cons
    have hc' : c.rest = w ++ (List.replicate (k + 1) ' ' ++ (x :: r ++ more)) := by
      rw [hc]
      simp
    have hrest : (c.advanceBy w.length).rest = List.replicate (k + 1) ' ' ++ (x :: r ++ more) := by
      rw [Cursor.rest_advanceBy, hc', List.drop_left]
    have hgap := plainGap_blanks hx hrest
    have hcur : ((c.advanceBy w.length).advanceBy (k + 1)).rest = x :: r ++ more := by
      rw [Cursor.rest_advanceBy, hrest, List.drop_left' (List.length_replicate ..)]
    have hcol' : indent ≤ ((c.advanceBy w.length).advanceBy (k + 1)).mark.column := by
      rw [Cursor.mark_advanceBy_spaces hrest]
      have := (Cursor.mark_advanceBy_of_inLine hc' fun y hy =>
        isBreak_of_atBlank (word.solid y hy)).2.2
      dsimp only
      omega
    have hlen : (w ++ (List.replicate (k + 1) ' ' ++ x :: r)).length =
        w.length + ((k + 1) + (x :: r).length) := by simp
    rw [hlen, Cursor.advanceBy_add, Cursor.advanceBy_add] at hend ⊢
    rw [hlen] at hf
    have hih := ih hcur (Nat.le_succ_of_le hcol') hend fuel (by omega)
    rw [plainFrom_word word (endsWord_of_atBlank (by decide)) hc', if_neg]
    · simp only [hgap, hih, List.append_assoc]
    · rw [hgap, Cursor.peek, hcur]
      simp [hx', hcol']
  | @fold w cs t word rest ih =>
    obtain ⟨fuel, rfl⟩ : ∃ k, fuel = k + 1 := ⟨fuel - 1, by omega⟩
    obtain ⟨x, r, rfl, hx, hx'⟩ := rest.exists_cons
    have hc' : c.rest = w ++ (freshLine n ++ (x :: r ++ more)) := by
      rw [hc]
      simp
    have hrest : (c.advanceBy w.length).rest = freshLine n ++ (x :: r ++ more) := by
      rw [Cursor.rest_advanceBy, hc', List.drop_left]
    have hsep : ¬Separates (List.replicate n ' ' ++ (x :: r ++ more)) := by
      obtain ⟨n, rfl⟩ : ∃ k, n = k + 1 := ⟨n - 1, by omega⟩
      rw [List.replicate_succ, List.cons_append]
      rintro (h | h) <;> · rw [List.take_succ_cons] at h; cases h
    have hgap := plainGap_freshLine (solid_cons hx) hsep hrest
    have hcur : ((c.advanceBy w.length).advanceBy (n + 1)).rest = x :: r ++ more := by
      rw [Cursor.rest_advanceBy, hrest, ← length_freshLine, List.drop_left]
    have hcol' : indent ≤ ((c.advanceBy w.length).advanceBy (n + 1)).mark.column := by
      rw [Cursor.mark_advanceBy_freshLine hrest]
      exact hi
    have hlen : (w ++ (freshLine n ++ x :: r)).length = w.length + ((n + 1) + (x :: r).length) := by
      simp only [List.length_append, length_freshLine]
    rw [hlen, Cursor.advanceBy_add, Cursor.advanceBy_add] at hend ⊢
    rw [hlen] at hf
    have hih := ih hcur (Nat.le_succ_of_le hcol') hend fuel (by omega)
    rw [plainFrom_word word (endsWord_of_atBlank (by decide)) hc', if_neg]
    · simp [hgap, hih, List.append_assoc]
    · rw [hgap, Cursor.peek, hcur]
      simp [hx', hcol']

/-- **A plain scalar is read back** up to a colon. -/
theorem Plain.plain_eq_of_colon (h : Plain n cs t) (hn : 0 < n) (hi : indent ≤ n) {c : Cursor}
    (hcol : indent ≤ c.mark.column + 1) (hc : c.rest = t ++ ':' :: more)
    (hmore : Cursor.atBlank more.head? = true) :
    Scalar.plain false indent c =
      (cs, (c.advanceBy t.length).mark, c.advanceBy t.length, false) := by
  have hrest : (c.advanceBy t.length).rest = List.replicate 0 ' ' ++ ':' :: more := by
    rw [Cursor.rest_advanceBy, hc, List.drop_left]
    rfl
  have hgap := plainGap_blanks (by decide) hrest
  rw [Scalar.plain, h.plainFrom_eq hn hi (.inr ⟨more, rfl, hmore⟩) hc hcol (by rw [hgap]; exact .inl rfl) _
    (by rw [Cursor.fuel, hc, List.length_append]; omega), hgap]
  rfl

/-- **A plain scalar is read back** over the line end after it, if the next line is
    not indented as far. -/
theorem Plain.plain_eq_of_freshLine {m : Nat} (h : Plain n cs t) (hn : 0 < n) (hi : indent ≤ n)
    {c : Cursor} (hcol : indent ≤ c.mark.column + 1) (hc : c.rest = t ++ (freshLine m ++ more))
    (hm : m < indent) (hmore : Follows more) :
    Scalar.plain false indent c = (cs, (c.advanceBy t.length).mark,
      (c.advanceBy t.length).advanceBy (m + 1), true) := by
  have hrest : (c.advanceBy t.length).rest = freshLine m ++ more := by
    rw [Cursor.rest_advanceBy, hc, List.drop_left]
  have hgap := plainGap_freshLine hmore.solid (not_separates_indented hmore.separates m) hrest
  have hend : EndsPlain indent (plainGap (c.advanceBy t.length)) := by
    refine .inr ?_
    rw [hgap, Cursor.mark_advanceBy_freshLine hrest]
    exact hm
  rw [Scalar.plain, h.plainFrom_eq hn hi (endsWord_of_atBlank (by decide)) hc hcol hend _
    (by rw [Cursor.fuel, hc, List.length_append]; omega), hgap]
  rfl

end Folio.Yaml
