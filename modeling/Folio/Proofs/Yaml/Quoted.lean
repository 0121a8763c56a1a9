/-
  Folio — quoted scalars are read back.

  `Quoted` says how a text may stand between quotes: white space may be folded
  onto a fresh line, between single quotes line ends stand doubled, between double
  quotes some characters are escaped and a backslash joins lines.

  * `Scalar.quoted_eq`: such a scalar is read as its text.
-/
import Folio.Proofs.Yaml.Escape
import Folio.Yaml.Node

namespace Folio.Yaml

/-- Does the text start with what is not white space, if with anything? -/
def Solid (t : List Char) : Prop := ∀ x ∈ t.head?, Cursor.atBlank (some x) = false

/-- The text `t` stands between quotes for the characters `cs`, with `n` spaces of
    indentation on fresh lines.  A backslash may stand astray unless the text is
    `sound`. -/
inductive Quoted (double sound : Bool) (n : Nat) : (cs t : List Char) → Prop where
  | nil : Quoted double sound n [] []
  | bare {c : Char} {cs t : List Char} (plain : Scalar.isQuotedSpecial c = false)
      (shown : isAcceptable c = true) (rest : Quoted double sound n cs t) :
      Quoted double sound n (c :: cs) (c :: t)
  /-- A sign that means something between quotes of the other kind. -/
  | foreign {c : Char} {cs t : List Char}
      (sign : (if double then c = '\'' else c = '"' ∨ c = '\\'))
      (rest : Quoted double sound n cs t) : Quoted double sound n (c :: cs) (c :: t)
  | blank {cs t : List Char} (line : ∀ x ∈ t.head?, isBreak x = false)
      (rest : Quoted double sound n cs t) : Quoted double sound n (' ' :: cs) (' ' :: t)
  | doubled {cs t : List Char} (isSingle : double = false) (rest : Quoted double sound n cs t) :
      Quoted double sound n ('\'' :: cs) ('\'' :: '\'' :: t)
  | fold {cs t : List Char} (isSingle : double = false) (solid : Solid t)
      (rest : Quoted double sound n cs t) : Quoted double sound n (' ' :: cs) (freshLine n ++ t)
  | breaks {b : Char} {bs cs t : List Char} (isSingle : double = false)
      (ends : ∀ x ∈ b :: bs, isInnerBreak x = true) (solid : Solid t)
      (rest : Quoted double sound n cs t) :
      Quoted double sound n (b :: bs ++ cs)
        ((if b = '\n' then ['\n'] else []) ++ (b :: bs ++ (List.replicate n ' ' ++ t)))
  | escape {c : Char} {cs t : List Char} (isDouble : double = true)
      (rest : Quoted double sound n cs t) : Quoted double sound n (c :: cs) (Render.escapeOf c ++ t)
  | escapedBlank {cs t : List Char} (isDouble : double = true) (rest : Quoted double sound n cs t) :
      Quoted double sound n (' ' :: cs) ('\\' :: ' ' :: t)
  | joint {cs t : List Char} (isDouble : double = true) (solid : Solid t)
      (rest : Quoted double sound n cs t) : Quoted double sound n cs ('\\' :: (freshLine n ++ t))
  | stray {cs t : List Char} (isDouble : double = true) (unsound : sound = false)
      (rest : Quoted double sound n cs t) : Quoted double sound n cs ('\\' :: t)

namespace Scalar
variable {double : Bool} {n m : Nat} {start : Mark} {c c' e : Cursor} {cs more : List Char}

/-- The quote at either end. -/
def quote (double : Bool) : Char := if double then '"' else '\''

/-! ## White space -/

/-- A line end, but for the next-line character, stands for itself. -/
theorem lineBreak_eq {b : Char} (hb : isInnerBreak b = true) (hnel : b ≠ '\u0085')
    (h : c.rest = b :: more) : c.lineBreak = ([b], c.advance) := by
  have hb' : b = '\n' ∨ b = '\u2028' ∨ b = '\u2029' := by
    simp only [isInnerBreak, Bool.or_eq_true, beq_iff_eq] at hb
    tauto
  rw [Cursor.lineBreak, h]
  rcases hb' with rfl | rfl | rfl <;> rfl

theorem atSeparator_eq_false {x : Char} (hx : x ≠ '-' ∧ x ≠ '.') (h : c.rest = x :: more) :
    c.atSeparator = false := by
  simp [Cursor.atSeparator, Cursor.atTriple, h, hx.1, hx.2]

theorem isBreak_of_isInnerBreak {x : Char} (h : isInnerBreak x = true) : isBreak x = true := by
  simp only [isInnerBreak, isBreak, Bool.or_eq_true, beq_iff_eq] at h ⊢
  tauto

theorem not_blank_of_isInnerBreak {x : Char} (h : isInnerBreak x = true) :
    (x == ' ' || x == '\t') = false := by
  cases hx : (x == ' ' || x == '\t') with
  | false => rfl
  | true =>
    simp only [Bool.or_eq_true, beq_iff_eq] at hx
    rcases hx with rfl | rfl <;> exact absurd h (by decide)

/-- Line ends and indentation are passed over to what is solid. -/
theorem quotedBreaks_eq {bs t : List Char} (hn : 0 < n) (hbs : ∀ x ∈ bs, isInnerBreak x = true)
    (hnel : '\u0085' ∉ bs) (ht : Solid t) (h : c.rest = bs ++ (List.replicate n ' ' ++ t))
    {fuel : Nat} (hf : bs.length < fuel) :
    quotedBreaks start fuel c = .ok (bs, c.advanceBy (bs.length + n)) := by
  induction bs generalizing c fuel with
  | nil =>
    obtain ⟨fuel, rfl⟩ : ∃ k, fuel = k + 1 := ⟨fuel - 1, by omega⟩
    have hfirst : c.rest = ' ' :: (List.replicate (n - 1) ' ' ++ t) := by
      rw [h, ← List.cons_append, ← List.replicate_succ, Nat.sub_add_cancel hn]
      rfl
    have hspaces : (c.skip fun ch => ch == ' ' || ch == '\t') = c.advanceBy n := by
      rw [Cursor.skip_eq (by simpa using h) (by simp) ?_, List.length_replicate]
      intro x hx
      have := ht x hx
      simp only [Cursor.atBlank, Option.all_some, Bool.or_eq_false_iff] at this
      simp [this.1]
    have hpeek : (c.advanceBy n).peek.any isBreak = false := by
      have hrest : (c.advanceBy n).rest = t := by
        rw [Cursor.rest_advanceBy, h, List.nil_append,
          List.drop_left' (List.length_replicate ..)]
      rw [Cursor.peek, hrest]
      cases hx : t.head? with
      | none => rfl
      | some x =>
        have := ht x hx
        simp only [Cursor.atBlank, Option.all_some, Bool.or_eq_false_iff] at this
        exact this.2
    rw [quotedBreaks, if_neg (by rw [atSeparator_eq_false (by decide) hfirst]; simp), hspaces]
    simp [hpeek]
  | cons b bs ih =>
    obtain ⟨fuel, rfl⟩ : ∃ k, fuel = k + 1 := ⟨fuel - 1, by omega⟩
    have hb := hbs b List.mem_cons_self
    have hfirst : c.rest = b :: (bs ++ (List.replicate n ' ' ++ t)) := h
    have hne : b ≠ '-' ∧ b ≠ '.' := by
      constructor <;> rintro rfl <;> exact absurd hb (by decide)
    have hspaces : (c.skip fun ch => ch == ' ' || ch == '\t') = c :=
       Cursor.skip_eq_self hfirst (not_blank_of_isInnerBreak hb)
    have hbreak : c.lineBreak = ([b], c.advance) :=
      lineBreak_eq hb (fun hb => hnel (hb ▸ List.mem_cons_self)) hfirst
    have hrest : c.advance.rest = bs ++ (List.replicate n ' ' ++ t) := by
      rw [Cursor.rest_advance, hfirst]
      rfl
    have hih := ih (fun x hx => hbs x (List.mem_cons_of_mem _ hx))
      (fun hx => hnel (List.mem_cons_of_mem _ hx)) hrest
      (Nat.lt_of_succ_lt_succ (by simpa using hf))
    have hpeek : c.peek.any isBreak = true := by
      rw [Cursor.peek, hfirst]
      exact isBreak_of_isInnerBreak hb
    rw [quotedBreaks, if_neg (by rw [atSeparator_eq_false hne hfirst]; simp), hspaces]
    have hlen : (b :: bs).length + n = (bs.length + n) + 1 := Nat.add_right_comm ..
    simp only [hpeek, if_true, hbreak, hih, hlen]
    rfl

/-- White space with line ends, between words. -/
theorem quotedGap_breaks {b : Char} {bs t : List Char} (hn : 0 < n)
    (hbs : ∀ x ∈ b :: bs, isInnerBreak x = true) (hnel : '\u0085' ∉ b :: bs) (ht : Solid t)
    (h : c.rest = b :: bs ++ (List.replicate n ' ' ++ t)) :
    quotedGap start c = .ok (fold [b] bs, c.advanceBy (bs.length + 1 + n)) := by
  have hb := hbs b List.mem_cons_self
  have hspan : (c.span fun ch => ch == ' ' || ch == '\t') = ([], c) :=
    Cursor.span_eq_nil h (not_blank_of_isInnerBreak hb)
  have hbreak : c.lineBreak = ([b], c.advance) :=
    lineBreak_eq hb (fun hb => hnel (hb ▸ List.mem_cons_self)) h
  have hrest : c.advance.rest = bs ++ (List.replicate n ' ' ++ t) := by
    rw [Cursor.rest_advance, h]
    rfl
  have hbreaks : quotedBreaks start c.advance.fuel c.advance =
      .ok (bs, c.advance.advanceBy (bs.length + n)) :=
    quotedBreaks_eq hn (fun x hx => hbs x (List.mem_cons_of_mem _ hx))
      (fun hx => hnel (List.mem_cons_of_mem _ hx)) ht hrest (by
        rw [Cursor.fuel, hrest, List.length_append]
        omega)
  have hlen : bs.length + 1 + n = 1 + (bs.length + n) := by omega
  have hpeek : c.peek = some b := by
    rw [Cursor.peek, h]
    rfl
  rw [quotedGap, hspan]
  simp only [hpeek, isBreak_of_isInnerBreak hb, if_true, hbreak, hbreaks, hlen,
    Cursor.advanceBy_add c 1]
  rfl

/-- Blanks before a word. -/
theorem quotedGap_blanks {k : Nat} {x : Char} {t : List Char} (hx : Cursor.atBlank (some x) = false)
    (h : c.rest = List.replicate k ' ' ++ x :: t) :
    quotedGap start c = .ok (List.replicate k ' ', c.advanceBy k) := by
  simp only [Cursor.atBlank, Option.all_some, Bool.or_eq_false_iff] at hx
  have hspan : (c.span fun ch => ch == ' ' || ch == '\t') =
      (List.replicate k ' ', c.advanceBy k) := by
    rw [Cursor.span_eq h (by simp) ?_, List.length_replicate]
    intro y hy
    obtain rfl : x = y := by simpa using hy
    simp [hx.1]
  have hpeek : (c.advanceBy k).peek = some x := by
    rw [Cursor.peek, Cursor.rest_advanceBy, h, List.drop_left' (List.length_replicate ..)]
    rfl
  rw [quotedGap, hspan]
  simp only [hpeek, hx.2, Bool.false_eq_true, if_false]

/-! ## Words -/

theorem quotedWord_bare {x : Char} (hx : isQuotedSpecial x = false) (h : c.rest = x :: more)
    (fuel : Nat) : quotedWord double start (fuel + 1) c =
      (quotedWord double start (fuel + 1) c.advance).map fun r => (x :: r.1, r.2) := by
  have hrest : c.advance.rest = more := by
    rw [Cursor.rest_advance, h]
    rfl
  have hspan : (c.span fun ch => !isQuotedSpecial ch) =
      (x :: (c.advance.span fun ch => !isQuotedSpecial ch).1,
        (c.advance.span fun ch => !isQuotedSpecial ch).2) := by
    simp only [Cursor.span, h, hrest, List.takeWhile_cons, hx, Bool.not_false, if_true,
      List.length_cons]
    rfl
  rw [quotedWord, quotedWord, hspan]
  generalize c.advance.span (fun ch => !isQuotedSpecial ch) = r
  dsimp only
  split
  · rfl
  · split
    · cases quotedWord double start fuel (r.2.advanceBy 2) <;> rfl
    · split
      · cases quotedWord double start fuel r.2.advance <;> rfl
      · split
        · cases escape start r.2.advance with
          | error e => rfl
          | ok p =>
            obtain ⟨piece, c'⟩ := p
            cases hw : quotedWord double start fuel c' <;>
              simp [bind, Except.bind, Except.map, pure, Except.pure, hw]
        · rfl

/-- No word starts with a sign that means something. -/
theorem quotedWord_special {x : Char} (hx : isQuotedSpecial x = true) (h : c.rest = x :: more)
    (fuel : Nat) : quotedWord double start (fuel + 1) c =
      if x == '\'' && !double && c.peekAt 1 == some '\'' then
        (quotedWord double start fuel (c.advanceBy 2)).map fun r => ('\'' :: r.1, r.2)
      else if (double && x == '\'') || (!double && (x == '"' || x == '\\')) then
        (quotedWord double start fuel c.advance).map fun r => (x :: r.1, r.2)
      else if double && x == '\\' then do
        let p ← escape start c.advance
        (quotedWord double start fuel p.2).map fun r => (p.1 ++ r.1, r.2)
      else .ok ([], c) := by
  have hspan : (c.span fun ch => !isQuotedSpecial ch) = ([], c) :=
    Cursor.span_eq_nil h (by simp [hx])
  have hpeek : c.peek = some x := by
    rw [Cursor.peek, h]
    rfl
  rw [quotedWord, hspan]
  simp only [hpeek]
  split
  · cases quotedWord double start fuel (c.advanceBy 2) <;> rfl
  · split
    · cases quotedWord double start fuel c.advance <;> rfl
    · split
      · cases escape start c.advance with
        | error e => rfl
        | ok p => cases quotedWord double start fuel p.2 <;> rfl
      · rfl

/-! ## The rest of a scalar -/

/-- From the cursor on the rest of a scalar is read as `cs`, up to the cursor `e`.  The
    word that comes first takes fewer than `m` steps, what comes after it no more steps
    than there are characters. -/
def Tail (double : Bool) (start : Mark) (m : Nat) (c : Cursor) (cs : List Char) (e : Cursor) : Prop :=
  ∀ fuel : Nat, m < fuel → ∃ w c' g k, quotedWord double start fuel c = .ok (w, c') ∧
    (k ≤ m ∧ k ≤ c'.rest.length ∧
      ∀ fuel', k < fuel' → quotedFrom double start fuel' c' = .ok (g, e)) ∧ w ++ g = cs

theorem Tail.mono {m' : Nat} (h : Tail double start m c cs e) (hm : m ≤ m') :
    Tail double start m' c cs e := by
  intro fuel hf
  obtain ⟨w, c', g, k, hword, ⟨hk, hfrom⟩, hw⟩ := h fuel (by omega)
  exact ⟨w, c', g, k, hword, ⟨by omega, hfrom⟩, hw⟩

/-- What is read of a word before what follows it. -/
theorem Tail.piece (piece : List Char) (h : Tail double start m c' cs e)
    (hw : ∀ fuel, quotedWord double start (fuel + 1) c =
      (quotedWord double start fuel c').map fun r => (piece ++ r.1, r.2)) :
    Tail double start (m + 1) c (piece ++ cs) e := by
  intro fuel hf
  obtain ⟨fuel, rfl⟩ : ∃ k, fuel = k + 1 := ⟨fuel - 1, by omega⟩
  obtain ⟨w, c₁, g, k, hword, ⟨hk, hfrom⟩, rfl⟩ := h fuel (by omega)
  exact ⟨piece ++ w, c₁, g, k, by rw [hw, hword]; rfl, ⟨by omega, hfrom⟩, by rw [List.append_assoc]⟩

theorem Tail.bare {x : Char} (h : Tail double start m c.advance cs e)
    (hx : isQuotedSpecial x = false) (hc : c.rest = x :: more) :
    Tail double start m c (x :: cs) e := by
  intro fuel hf
  obtain ⟨fuel, rfl⟩ : ∃ k, fuel = k + 1 := ⟨fuel - 1, by omega⟩
  obtain ⟨w, c₁, g, k, hword, hfrom, rfl⟩ := h _ hf
  exact ⟨x :: w, c₁, g, k, by rw [quotedWord_bare hx hc, hword]; rfl, hfrom, rfl⟩

theorem quotedWord_atBlank {x : Char} (hx : Cursor.atBlank (some x) = true) (hc : c.rest = x :: more)
    (fuel : Nat) : quotedWord double start (fuel + 1) c = .ok ([], c) := by
  have hsp : isQuotedSpecial x = true := by simp [isQuotedSpecial, hx]
  have hnot : ∀ y : Char, Cursor.atBlank (some y) = false → (x == y) = false := by
    intro y hy
    simp only [beq_eq_false_iff_ne, ne_eq]
    rintro rfl
    simp [hx] at hy
  rw [quotedWord_special hsp hc]
  simp [hnot '\'' (by decide), hnot '"' (by decide), hnot '\\' (by decide)]

theorem quotedFrom_atBlank {x : Char} (hx : Cursor.atBlank (some x) = true) (hc : c.rest = x :: more)
    {g : List Char} (hg : quotedGap start c = .ok (g, c')) (fuel : Nat) :
    quotedFrom double start (fuel + 1) c = (do
      let (word, c) ← quotedWord double start c'.fuel c'
      let (more, c) ← quotedFrom double start fuel c
      return (g ++ word ++ more, c)) := by
  have hpeek : (c.peek == some (if double then '"' else '\'')) = false := by
    rw [Cursor.peek, hc]
    simp only [List.head?_cons, beq_eq_false_iff_ne, ne_eq, Option.some.injEq]
    rintro rfl
    cases double <;> exact absurd hx (by decide)
  rw [quotedFrom, hpeek]
  simp only [Bool.false_eq_true, if_false, hg]
  rfl

/-- White space before what follows it. -/
theorem Tail.gap {x : Char} {g : List Char} (h : Tail double start m c' cs e)
    (hx : Cursor.atBlank (some x) = true) (hc : c.rest = x :: more)
    (hg : quotedGap start c = .ok (g, c')) (hm : m ≤ c'.rest.length)
    (hl : c'.rest.length < c.rest.length) : Tail double start (m + 1) c (g ++ cs) e := by
  intro fuel hf
  obtain ⟨fuel, rfl⟩ : ∃ k, fuel = k + 1 := ⟨fuel - 1, by omega⟩
  obtain ⟨w, c₁, g', k, hword, ⟨hk, -, hfrom⟩, rfl⟩ := h c'.fuel (by rw [Cursor.fuel]; omega)
  refine ⟨[], c, g ++ w ++ g', k + 1, quotedWord_atBlank hx hc fuel,
    ⟨by omega, by omega, fun fuel' hf' => ?_⟩, by simp⟩
  obtain ⟨fuel', rfl⟩ : ∃ k, fuel' = k + 1 := ⟨fuel' - 1, by omega⟩
  rw [quotedFrom_atBlank hx hc hg, hword]
  simp only [bind, Except.bind, hfrom fuel' (by omega)]
  rfl

/-- A blank before others. -/
theorem Tail.blank {k : Nat} {x : Char} (h : Tail double start m c.advance cs e)
    (hx : Cursor.atBlank (some x) = false)
    (hc : c.rest = List.replicate (k + 2) ' ' ++ x :: more) :
    Tail double start m c (' ' :: cs) e := by
  have hadv : c.advance.rest = List.replicate (k + 1) ' ' ++ x :: more := by
    rw [Cursor.rest_advance, hc]
    rfl
  have hgap : quotedGap start c = .ok (List.replicate (k + 2) ' ', c.advanceBy (k + 2)) :=
    quotedGap_blanks hx hc
  have hgap' : quotedGap start c.advance =
      .ok (List.replicate (k + 1) ' ', c.advanceBy (k + 2)) := quotedGap_blanks hx hadv
  rw [List.replicate_succ, List.cons_append] at hc hadv
  intro fuel hf
  obtain ⟨fuel, rfl⟩ : ∃ k, fuel = k + 1 := ⟨fuel - 1, by omega⟩
  obtain ⟨w, c₁, g, l, hw, ⟨hl, hlen, hfrom⟩, rfl⟩ := h _ hf
  rw [quotedWord_atBlank (by decide) hadv] at hw
  obtain ⟨rfl, rfl⟩ := Prod.mk.inj (Except.ok.inj hw)
  refine ⟨[], c, ' ' :: g, l, quotedWord_atBlank (by decide) hc fuel,
    ⟨hl, Nat.le_trans hlen c.le_advance.rest, fun fuel' hf' => ?_⟩, rfl⟩
  have hfrom' := hfrom fuel' hf'
  obtain ⟨fuel', rfl⟩ : ∃ k, fuel' = k + 1 := ⟨fuel' - 1, by omega⟩
  rw [quotedFrom_atBlank (by decide) hadv hgap'] at hfrom'
  rw [quotedFrom_atBlank (by decide) hc hgap]
  simp only [bind, Except.bind] at hfrom' ⊢
  cases hw : quotedWord double start (c.advanceBy (k + 2)).fuel (c.advanceBy (k + 2)) with
  | error e => simp [hw] at hfrom'
  | ok r =>
    simp only [hw] at hfrom' ⊢
    cases hm : quotedFrom double start fuel' r.2 with
    | error e => simp [hm] at hfrom'
    | ok q =>
      simp only [hm, pure, Except.pure, Except.ok.injEq, Prod.mk.injEq] at hfrom' ⊢
      exact ⟨by rw [← hfrom'.1]; rfl, hfrom'.2⟩

/-- The quote at the end. -/
theorem Tail.end_ (hc : c.rest = quote double :: more)
    (hmore : double = false → more.head? ≠ some '\'') :
    Tail double start 0 c [] c.advance := by
  intro fuel hf
  obtain ⟨fuel, rfl⟩ : ∃ k, fuel = k + 1 := ⟨fuel - 1, by omega⟩
  have hsp : isQuotedSpecial (quote double) = true := by cases double <;> rfl
  refine ⟨[], c, [], 0, ?_, ⟨Nat.le_refl _, Nat.zero_le _, fun fuel' hf' => ?_⟩, rfl⟩
  · have hat : c.peekAt 1 = more.head? := by
      rw [Cursor.peekAt, hc]
      rfl
    rw [quotedWord_special hsp hc, hat]
    cases double with
    | true => rfl
    | false => simp [quote, hmore rfl]
  · obtain ⟨fuel', rfl⟩ : ∃ k, fuel' = k + 1 := ⟨fuel' - 1, by omega⟩
    have hpeek : (c.peek == some (if double then '"' else '\'')) = true := by
      rw [Cursor.peek, hc]
      cases double <;> rfl
    rw [quotedFrom, hpeek]
    rfl

end Scalar

/-! ## Quoted scalars -/

open Scalar

variable {double sound : Bool} {n : Nat} {cs t more : List Char}

theorem Solid.append_cons {x : Char} (h : Solid t) (hx : Cursor.atBlank (some x) = false)
    (more : List Char) :
    ∃ y r, t ++ x :: more = y :: r ∧ Cursor.atBlank (some y) = false := by
  cases t with
  | nil => exact ⟨x, more, rfl, hx⟩
  | cons y t => exact ⟨y, t ++ x :: more, rfl, h y rfl⟩

theorem atBlank_quote (double : Bool) : Cursor.atBlank (some (quote double)) = false := by
  cases double <;> decide

theorem isBreak_of_atBlank {x : Char} (h : Cursor.atBlank (some x) = false) : isBreak x = false := by
  simp only [Cursor.atBlank, Option.all_some, Bool.or_eq_false_iff] at h
  exact h.2

theorem solid_cons {x : Char} (h : Cursor.atBlank (some x) = false) : Solid (x :: t) := by
  intro y hy
  obtain rfl : x = y := by simpa using hy
  exact h

/-- Blanks between quotes lead to what is solid. -/
theorem Quoted.blanks (h : Quoted double sound n cs t) (ht : ∀ x ∈ t.head?, isBreak x = false) :
    ∃ k t', t = List.replicate k ' ' ++ t' ∧ Solid t' := by
  induction h with
  | blank line _ ih =>
    obtain ⟨k, t', rfl, hs⟩ := ih line
    exact ⟨k + 1, t', rfl, hs⟩
  | nil => exact ⟨0, [], rfl, fun x hx => nomatch hx⟩
  | bare plain _ _ =>
    refine ⟨0, _, rfl, solid_cons ?_⟩
    simp only [isQuotedSpecial, Bool.or_eq_false_iff] at plain
    exact plain.2
  | @foreign c _ _ sign _ =>
    refine ⟨0, _, rfl, solid_cons ?_⟩
    cases double with
    | true =>
      obtain rfl : c = '\'' := by simpa using sign
      decide
    | false =>
      rcases (show c = '"' ∨ c = '\\' by simpa using sign) with rfl | rfl <;> decide
  | doubled _ _ => exact ⟨0, _, rfl, solid_cons (by decide)⟩
  | fold _ _ _ => exact absurd (ht '\n' rfl) (by decide)
  | @breaks b bs _ t _ ends _ _ =>
    have hb := isBreak_of_isInnerBreak (ends b List.mem_cons_self)
    by_cases h : b = '\n'
    · exact absurd (ht '\n' (by simp [h])) (by decide)
    · have := ht b (by simp [h])
      simp [hb] at this
  | @escape c cs t _ _ =>
    rw [escapeOf_eq_cons, List.cons_append]
    exact ⟨0, _, rfl, solid_cons (by decide)⟩
  | escapedBlank _ _ | joint _ _ _ | stray _ _ _ => exact ⟨0, _, rfl, solid_cons (by decide)⟩

/-- What stands between quotes is read up to the quote that ends it. -/
theorem Quoted.tail (h : Quoted double true n cs t) (hn : 0 < n)
    (hnel : double = false → '\u0085' ∉ cs) (hmore : double = false → more.head? ≠ some '\'')
    (start : Mark) {c : Cursor} (hc : c.rest = t ++ quote double :: more) :
    Tail double start t.length c cs (c.advanceBy (t.length + 1)) := by
  have hq := atBlank_quote double
  induction h generalizing c with
  | nil => exact Tail.end_ hc hmore
  | bare plain _ _ ih =>
    have hadv := ih (fun hd => mt (List.mem_cons_of_mem _) (hnel hd)) (c := c.advance) (by
      rw [Cursor.rest_advance, hc]
      rfl)
    exact (hadv.mono (Nat.le_succ _)).bare plain hc
  | @foreign x cs t sign _ ih =>
    have hadv := ih (fun hd => mt (List.mem_cons_of_mem _) (hnel hd)) (c := c.advance) (by
      rw [Cursor.rest_advance, hc]
      rfl)
    refine Tail.piece [x] hadv fun fuel => ?_
    cases double with
    | true =>
      obtain rfl : x = '\'' := by simpa using sign
      rw [quotedWord_special (by decide) hc]
      simp
    | false =>
      rcases (show x = '"' ∨ x = '\\' by simpa using sign) with rfl | rfl <;>
      · rw [quotedWord_special (by decide) hc]
        simp
  | @blank cs t line rest ih =>
    have hadv := ih (fun hd => mt (List.mem_cons_of_mem _) (hnel hd)) (c := c.advance) (by
      rw [Cursor.rest_advance, hc]
      rfl)
    obtain ⟨k, t', rfl, hs⟩ := rest.blanks line
    obtain ⟨y, r, hy, hsolid⟩ := hs.append_cons hq more
    rw [← List.cons_append, ← List.replicate_succ, List.append_assoc, hy] at hc
    cases k with
    | succ k => exact (hadv.mono (Nat.le_succ _)).blank hsolid hc
    | zero =>
      have hrest : c.advance.rest = y :: r := by
        rw [Cursor.rest_advance, hc]
        rfl
      refine Tail.gap (x := ' ') hadv (by decide) hc (quotedGap_blanks hsolid hc) ?_ ?_
      · rw [hrest, ← hy]
        simp
      · rw [hrest, hc]
        simp
  | @doubled cs t single _ ih =>
    have hadv := ih (fun hd => mt (List.mem_cons_of_mem _) (hnel hd)) (c := c.advanceBy 2) (by
      rw [Cursor.rest_advanceBy, hc]
      rfl)
    refine (Tail.piece ['\''] hadv fun fuel => ?_).mono (Nat.le_succ _)
    have hat : c.peekAt 1 = some '\'' := by
      rw [Cursor.peekAt, hc]
      rfl
    rw [quotedWord_special (by decide) hc, hat, single]
    simp
  | @fold cs t single solid _ ih =>
    have hrest : (c.advanceBy (n + 1)).rest = t ++ quote double :: more := by
      rw [Cursor.rest_advanceBy, hc, ← length_freshLine, List.append_assoc, List.drop_left]
    have hadv := ih (fun hd => mt (List.mem_cons_of_mem _) (hnel hd)) hrest
    obtain ⟨y, r, hy, hsolid⟩ := solid.append_cons hq more
    have hgap : quotedGap start c = .ok (Scalar.fold ['\n'] [], c.advanceBy (0 + 1 + n)) :=
      quotedGap_breaks hn (by simp; decide) (by simp) (hy ▸ solid_cons hsolid)
        (by rw [hc, freshLine]; simp)
    have := Tail.gap (x := '\n') hadv (by decide) (by rw [hc]; rfl)
      (by simpa [Nat.add_comm 1] using hgap) (by rw [hrest]; simp) (by rw [hrest, hc]; simp)
    refine Tail.mono ?_ (m := t.length + 1) (by rw [List.length_append, length_freshLine]; omega)
    have hlen : (freshLine n ++ t).length + 1 = (n + 1) + (t.length + 1) := by
      rw [List.length_append, length_freshLine]
      omega
    rw [hlen, Cursor.advanceBy_add]
    exact this
  | @breaks b bs cs t single ends solid _ ih =>
    have hnel' := hnel single
    -- the first line end is written twice if it is an ordinary one
    obtain ⟨d, ds, hd, hfold, hall, hnel₂⟩ : ∃ d ds,
        (if b = '\n' then ['\n'] else []) ++ b :: bs = d :: ds ∧ Scalar.fold [d] ds = b :: bs ∧
          (∀ x ∈ d :: ds, isInnerBreak x = true) ∧ '\u0085' ∉ d :: ds := by
      have hb : '\u0085' ∉ b :: bs := fun hm => hnel' (List.mem_append_left _ hm)
      by_cases h : b = '\n'
      · subst h
        exact ⟨'\n', '\n' :: bs, rfl, by simp [Scalar.fold], by simpa using ends,
          by simpa using hb⟩
      · exact ⟨b, bs, by simp [h], by simp [Scalar.fold, h], ends, hb⟩
    have htext : (if b = '\n' then ['\n'] else []) ++ (b :: bs ++ (List.replicate n ' ' ++ t)) =
        d :: ds ++ (List.replicate n ' ' ++ t) := by
      rw [← List.append_assoc, hd]
    rw [htext] at hc ⊢
    have hrest : (c.advanceBy (ds.length + 1 + n)).rest = t ++ quote double :: more := by
      have hlen : ds.length + 1 + n = (d :: ds ++ List.replicate n ' ').length := by simp; omega
      rw [Cursor.rest_advanceBy, hc, hlen, ← List.append_assoc, List.append_assoc, List.drop_left]
    have hadv := ih (fun hs hm => hnel hs (List.mem_append_right _ hm)) hrest
    obtain ⟨y, r, hy, hsolid⟩ := solid.append_cons hq more
    have hgap : quotedGap start c = .ok (Scalar.fold [d] ds, c.advanceBy (ds.length + 1 + n)) :=
      quotedGap_breaks hn hall hnel₂ (hy ▸ solid_cons hsolid) (by rw [hc]; simp)
    rw [hfold] at hgap
    have hblank : Cursor.atBlank (some d) = true := by
      have := isBreak_of_isInnerBreak (hall d List.mem_cons_self)
      simp [Cursor.atBlank, this]
    have := Tail.gap hadv hblank hc hgap (by rw [hrest]; simp) (by rw [hrest, hc]; simp; omega)
    refine Tail.mono ?_ (m := t.length + 1) (by simp; omega)
    have hlen : (d :: ds ++ (List.replicate n ' ' ++ t)).length + 1 =
        (ds.length + 1 + n) + (t.length + 1) := by
      simp only [List.length_append, List.length_cons, List.length_replicate]
      omega
    rw [hlen, Cursor.advanceBy_add]
    exact this
  | @escape x cs t isDouble _ ih =>
    rw [escapeOf_eq_cons, List.cons_append, List.cons_append, List.append_assoc] at hc
    have hadv : c.advance.rest = (Render.escapeOf x).tail ++ (t ++ quote double :: more) := by
      rw [Cursor.rest_advance, hc]
      rfl
    have hrest : (c.advance.advanceBy (Render.escapeOf x).tail.length).rest =
        t ++ quote double :: more := by
      rw [Cursor.rest_advanceBy, hadv, List.drop_left]
    have htail := ih (fun hs => absurd (isDouble.symm.trans hs) (by decide)) hrest
    have := Tail.piece [x] htail (c := c) fun fuel => by
      rw [quotedWord_special (by decide) hc, isDouble, escape_escapeOf hadv]
      rfl
    have hlen : (Render.escapeOf x ++ t).length + 1 =
        1 + ((Render.escapeOf x).tail.length + (t.length + 1)) := by
      rw [escapeOf_eq_cons, List.cons_append, List.length_cons, List.length_append]
      simp only [List.tail_cons]
      omega
    rw [hlen, Cursor.advanceBy_add, Cursor.advanceBy_add]
    refine Tail.mono this ?_
    rw [escapeOf_eq_cons]
    simp
  | @escapedBlank cs t isDouble _ ih =>
    have hadv : c.advance.rest = ' ' :: (t ++ quote double :: more) := by
      rw [Cursor.rest_advance, hc]
      rfl
    have htail := ih (fun hs => absurd (isDouble.symm.trans hs) (by decide)) (c := c.advanceBy 2) (by
      rw [Cursor.rest_advanceBy, hc]
      rfl)
    have hescape : Scalar.escape start c.advance = .ok ([' '], c.advanceBy 2) := by
      rw [Scalar.escape, Cursor.peek, hadv]
      rfl
    refine (Tail.piece [' '] htail fun fuel => ?_).mono (Nat.le_succ _)
    rw [quotedWord_special (by decide) hc, isDouble, hescape]
    rfl
  | @joint cs t isDouble solid _ ih =>
    have hadv : c.advance.rest = freshLine n ++ (t ++ quote double :: more) := by
      rw [Cursor.rest_advance, hc, List.cons_append, List.append_assoc]
      rfl
    have hrest : (c.advance.advanceBy (n + 1)).rest = t ++ quote double :: more := by
      rw [Cursor.rest_advanceBy, hadv, ← length_freshLine, List.drop_left]
    have htail := ih (fun hs => absurd (isDouble.symm.trans hs) (by decide)) hrest
    obtain ⟨y, r, hy, hsolid⟩ := solid.append_cons hq more
    have hline : c.advance.advance.rest = List.replicate n ' ' ++ (t ++ quote double :: more) := by
      rw [Cursor.rest_advance, hadv]
      rfl
    have hbreaks : quotedBreaks start c.advance.fuel c.advance.advance =
        .ok ([], c.advance.advance.advanceBy (0 + n)) :=
      quotedBreaks_eq hn (by simp) (by simp) (hy ▸ solid_cons hsolid) hline (by simp [Cursor.fuel])
    have hescape : Scalar.escape start c.advance = .ok ([], c.advance.advanceBy (n + 1)) := by
      have hb : c.advance.lineBreak = (['\n'], c.advance.advance) :=
        lineBreak_eq (by decide) (by decide) hadv
      rw [Scalar.escape, Cursor.peek, hadv]
      simp only [freshLine, List.cons_append, List.head?_cons]
      rw [hb]
      simpa [escaped?, escapeWidth?, isBreak, Cursor.advanceBy] using hbreaks
    have := Tail.piece [] htail (c := c) fun fuel => by
      rw [quotedWord_special (by decide) hc, isDouble, hescape]
      rfl
    have hlen : ('\\' :: (freshLine n ++ t)).length + 1 = 1 + ((n + 1) + (t.length + 1)) := by
      simp only [List.length_cons, List.length_append, length_freshLine]
      omega
    rw [hlen, Cursor.advanceBy_add, Cursor.advanceBy_add]
    exact Tail.mono this (by simp)
  | stray _ unsound => cases unsound

/-- **A quoted scalar is read back.** -/
theorem Quoted.quoted_eq (h : Quoted double true n cs t) (hn : 0 < n)
    (hnel : double = false → '\u0085' ∉ cs) (hmore : double = false → more.head? ≠ some '\'')
    {c : Cursor} (hc : c.rest = quote double :: (t ++ quote double :: more)) :
    quoted double c = .ok (cs, c.advanceBy (t.length + 2)) := by
  have hrest : c.advance.rest = t ++ quote double :: more := by
    rw [Cursor.rest_advance, hc]
    rfl
  have hfuel : t.length < c.fuel := by
    rw [Cursor.fuel, hc]
    simp
    omega
  obtain ⟨w, c', g, k, hword, ⟨-, hk, hfrom⟩, rfl⟩ :=
    h.tail hn hnel hmore c.mark hrest _ hfuel
  have hadd : c.advance.advanceBy (t.length + 1) = c.advanceBy (t.length + 2) := rfl
  rw [quoted]
  simp only [hword, hfrom _ (show k < c'.fuel from Nat.lt_succ_of_le hk), bind, Except.bind, pure,
    Except.pure, hadd]

end Folio.Yaml
