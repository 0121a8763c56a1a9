/-
  Folio — scalars are written between double quotes.

  The characters are written one by one, what is not written yet being held back.
  Where a line gets too long a backslash ends it, and another one saves a space at
  the start of the next.  That second backslash is astray when the line is broken once
  more before its space is written, which only happens on very deep levels
  (`strays`).

  * `Render.exists_spelled`: what is written between double quotes.
-/
import Folio.Proofs.Yaml.Quoted
import Folio.Proofs.Yaml.Written.Line

namespace Folio.Yaml

/-! ## Characters -/

section
variable {c : Char} (h : Render.isBare c = true)
include h

theorem isAcceptable_of_isBare : isAcceptable c = true := by
  simp only [Render.isBare, Bool.and_eq_true, Bool.or_eq_true, decide_eq_true_eq] at h
  simp only [isAcceptable, Bool.or_eq_true, Bool.and_eq_true, decide_eq_true_eq, beq_iff_eq]
  omega

theorem isBreak_of_isBare : isBreak c = false := by
  cases hb : isBreak c with
  | false => rfl
  | true =>
    simp only [isBreak, Bool.or_eq_true, beq_iff_eq] at hb
    rcases hb with (((rfl | rfl) | rfl) | rfl) | rfl <;> exact absurd h (by decide)

theorem atBlank_of_isBare (hs : c ≠ ' ') : Cursor.atBlank (some c) = false := by
  have ht : c ≠ '\t' := by
    rintro rfl
    exact absurd h (by decide)
  simp [Cursor.atBlank, hs, ht, isBreak_of_isBare h]

end

namespace Render
variable {split sound : Bool} {n : Nat} {c : Char} {cs t : List Char}

/-- How a character is written on a line between double quotes. -/
def spelling (c : Char) : List Char := if isBare c then [c] else escapeOf c

/-- Does an escape that is not the first character come before a space that is not
    the last? -/
def strays (first : Bool) (cs : List Char) : Bool :=
  Look.hasPair (fun c => !isBare c) (· == ' ') (if first then cs.drop 1 else cs).dropLast

/-- The text `t` between double quotes, for the characters `cs`. -/
structure Spelled (split sound : Bool) (n : Nat) (cs t : List Char) : Prop where
  quoted : Quoted true sound n cs t
  head : ∀ x ∈ t.head?, x = '\\' ∨ isBare x = true ∧ cs.head? = some x
  /-- Without line ends every character is written on its own. -/
  whole : split = false → t = cs.flatMap spelling

namespace Spelled

theorem nil : Spelled split sound n [] [] := ⟨.nil, by simp, fun _ => rfl⟩

theorem line (h : Spelled split sound n cs t) : ∀ x ∈ t.head?, isBreak x = false := by
  intro x hx
  rcases h.head x hx with rfl | ⟨hb, -⟩
  · decide
  · exact isBreak_of_isBare hb

theorem solid (h : Spelled split sound n cs t) (hs : cs.head? ≠ some ' ') : Solid t := by
  intro x hx
  rcases h.head x hx with rfl | ⟨hb, he⟩
  · decide
  · refine atBlank_of_isBare hb ?_
    rintro rfl
    exact hs he

theorem quoted_bare (h : Spelled split sound n cs t) (hc : isBare c = true) :
    Quoted true sound n (c :: cs) (c :: t) := by
  by_cases hs : c = ' '
  · subst hs
    exact .blank h.line h.quoted
  · by_cases hq : c = '\''
    · subst hq
      exact .foreign rfl h.quoted
    · have h1 : c ≠ '"' := by rintro rfl; exact absurd hc (by decide)
      have h2 : c ≠ '\\' := by rintro rfl; exact absurd hc (by decide)
      refine .bare ?_ (isAcceptable_of_isBare hc) h.quoted
      simp [Scalar.isQuotedSpecial, hq, h1, h2, atBlank_of_isBare hc hs]

theorem bare (h : Spelled split sound n cs t) (hc : isBare c = true) :
    Spelled split sound n (c :: cs) (c :: t) where
  quoted := h.quoted_bare hc
  head := by simp [hc]
  whole hs := by rw [List.flatMap_cons, spelling, if_pos hc, ← h.whole hs]; rfl

theorem escape (h : Spelled split sound n cs t) (hc : isBare c = false) :
    Spelled split sound n (c :: cs) (escapeOf c ++ t) where
  quoted := .escape rfl h.quoted
  head := by
    rw [Scalar.escapeOf_eq_cons]
    simp
  whole hs := by rw [List.flatMap_cons, spelling, if_neg (by simp [hc]), ← h.whole hs]

/-- A line is ended before some characters. -/
theorem joint (h : Quoted true sound n cs t) (ht : Solid t) :
    Spelled true sound n cs ('\\' :: (freshLine n ++ t)) where
  quoted := .joint rfl ht h
  head := by simp
  whole := by simp

end Spelled

theorem strays_tail {first : Bool} {d : Char} (h : strays first (c :: d :: cs) = false) :
    strays false (d :: cs) = false := by
  cases first with
  | true => exact h
  | false =>
    simp only [strays, Bool.false_eq_true, if_false, List.dropLast_cons_cons] at h ⊢
    cases cs with
    | nil => rfl
    | cons e cs =>
      rw [List.dropLast_cons_cons] at h ⊢
      rw [Look.hasPair, Bool.or_eq_false_iff] at h
      exact h.2

theorem strays_of_escape {d : Char} (hc : isBare c = false) :
    strays false (c :: ' ' :: d :: cs) = true := by
  simp [strays, Look.hasPair, hc]

/-- Is a line ended at a character, the characters in `run` being held back? -/
def ends (split first : Bool) (c : Char) (cs run : List Char) (p : Page) : Bool :=
  split && !first && !cs.isEmpty && (c == ' ' || !isBare c || run.isEmpty) &&
    (if isBare c then decide (Page.width < p.column + run.length) else decide (Page.width + 1 < p.column))

theorem of_ends {first : Bool} {run : List Char} {p : Page} (h : ends split first c cs run p = true) :
    split = true ∧ first = false ∧ cs ≠ [] := by
  simp only [ends, Bool.and_eq_true, Bool.not_eq_true', List.isEmpty_eq_false_iff] at h
  exact ⟨h.1.1.1.1, h.1.1.1.2, h.1.1.2⟩

/-- On a fresh line after a backslash. -/
def joined (p : Page) (n : Nat) : Page := ((p.write ['\\']).indentTo n).inText

theorem joined_eq {p : Page} (hp : p.indenting = false) :
    joined p n = ⟨(freshLine n).reverse ++ '\\' :: p.text, n, false, false⟩ := by
  rw [joined, Page.indentTo_of_isPast (p := p.write ['\\']) (.inl hp)]
  rfl

theorem doubleChars_escaped {first : Bool} {run : List Char} {p : Page} (hc : isBare c = false) :
    doubleChars split n first run (c :: cs) p =
      let p := (p.write run.reverse).write (escapeOf c)
      if ends split first c cs [] p then
        doubleChars split n false [] cs
          (if cs.head? == some ' ' then (joined p n).write ['\\'] else joined p n)
      else doubleChars split n false [] cs p := by
  simp [doubleChars, ends, hc, joined]

theorem doubleChars_bare {first : Bool} {run : List Char} {p : Page} (hc : isBare c = true) :
    doubleChars split n first run (c :: cs) p =
      if ends split first c cs run p then
        doubleChars split n false [c] cs
          (if c == ' ' then (joined (p.write run.reverse) n).write ['\\']
          else joined (p.write run.reverse) n)
      else doubleChars split n false (c :: run) cs p := by
  simp [doubleChars, ends, hc, joined, Page.write_append]

/-- **What is written between double quotes**, after characters held back in `run`.  A
    space at the start stays where it is if the line is not too long yet. -/
theorem exists_spelled (cs : List Char) (first : Bool) (run : List Char) {p : Page}
    (hp : p.indenting = false)
    (hs : sound = true → split = true → n < Page.width ∨ strays first cs = false) :
    ∃ t, (doubleChars split n first run cs p).text = t.reverse ++ (run ++ p.text) ∧
      (doubleChars split n first run cs p).indenting = false ∧ Spelled split sound n cs t ∧
      (run = [] → p.column ≤ Page.width ∨ cs.length ≤ 1 → ∀ r, cs = ' ' :: r →
        ∃ u, t = ' ' :: u ∧ Quoted true sound n r u) := by
  induction cs generalizing first run p with
  | nil => exact ⟨[], by simp [doubleChars], hp, .nil, by simp⟩
  | cons c cs ih =>
    have hs' : sound = true → split = true → n < Page.width ∨ strays false cs = false := by
      intro h₁ h₂
      refine (hs h₁ h₂).imp_right fun h => ?_
      cases cs with
      | nil => rfl
      | cons d cs => exact strays_tail h
    cases hc : isBare c with
    | false =>
      rw [doubleChars_escaped hc]
      generalize hp' : (p.write run.reverse).write (escapeOf c) = p'
      have htext : p'.text = (escapeOf c).reverse ++ (run ++ p.text) := by simp [← hp']
      have hline : p'.indenting = false := by simp [← hp', hp]
      have hpending : ∀ r, c :: cs ≠ ' ' :: r := by
        rintro r h
        obtain ⟨rfl, -⟩ := List.cons.inj h
        exact absurd hc (by decide)
      dsimp only
      cases hend : ends split first c cs [] p' with
      | false =>
        obtain ⟨t, h₁, h₂, h₃, -⟩ := ih false [] hline hs'
        refine ⟨escapeOf c ++ t, ?_, h₂, h₃.escape hc, fun _ _ r h => absurd h (hpending r)⟩
        simp [h₁, htext]
      | true =>
        obtain ⟨rfl, rfl, hcs⟩ := of_ends hend
        have hj := joined_eq (n := n) hline
        by_cases hd : cs.head? = some ' '
        · obtain ⟨r, rfl⟩ := List.head?_eq_some_iff.1 hd
          obtain ⟨t, h₁, h₂, h₃, h₄⟩ := ih false [] (p := (joined p' n).write ['\\'])
            (by rw [hj]; rfl) hs'
          rw [if_pos rfl, if_pos (by simp)]
          refine ⟨escapeOf c ++ '\\' :: (freshLine n ++ '\\' :: t), ?_, h₂,
            (Spelled.joint ?_ (solid_cons (by decide))).escape hc, fun _ _ r h => absurd h (hpending r)⟩
          · rw [h₁, hj]
            simp [htext]
          -- the space may be parted from its backslash, unless the line is short enough
          · by_cases hshort : n + 1 ≤ Page.width ∨ r = []
            · obtain ⟨u, rfl, hu⟩ := h₄ rfl (by rw [hj]; simpa using hshort) r rfl
              exact .escapedBlank rfl hu
            · rw [not_or, Nat.not_le] at hshort
              refine .stray rfl ?_ h₃.quoted
              obtain ⟨d, r, rfl⟩ := List.exists_cons_of_ne_nil hshort.2
              rw [Bool.eq_false_iff]
              intro hsound
              rcases hs hsound rfl with h | h
              · omega
              · rw [strays_of_escape hc] at h
                cases h
        · obtain ⟨t, h₁, h₂, h₃, -⟩ := ih false [] (p := joined p' n)
            (by rw [hj]) hs'
          rw [if_pos rfl, if_neg (by simpa using hd)]
          refine ⟨escapeOf c ++ '\\' :: (freshLine n ++ t), ?_, h₂,
            (Spelled.joint h₃.quoted (h₃.solid hd)).escape hc, fun _ _ r h => absurd h (hpending r)⟩
          rw [h₁, hj]
          simp [htext]
    | true => 
      rw [doubleChars_bare hc]
      cases hend : ends split first c cs run p with
      | false =>
        obtain ⟨t, h₁, h₂, h₃, -⟩ := ih false (c :: run) hp hs'
        refine ⟨c :: t, ?_, h₂, h₃.bare hc, fun hrun _ r h => ?_⟩
        · simp [h₁]
        · obtain ⟨rfl, rfl⟩ := List.cons.inj h
          exact ⟨t, rfl, h₃.quoted⟩
      | true =>
        obtain ⟨rfl, rfl, hcs⟩ := of_ends hend
        have hj := joined_eq (p := p.write run.reverse) (n := n) hp
        have hpending : run = [] → p.column ≤ Page.width ∨ (c :: cs).length ≤ 1 → False := by
          rintro rfl hshort
          simp only [ends, hc, Bool.and_eq_true, decide_eq_true_eq, List.length_nil, if_true] at hend
          rcases hshort with h | h
          · omega
          · exact hcs (List.length_eq_zero_iff.1 (by simpa using h))
        by_cases hd : c = ' '
        · subst hd
          obtain ⟨t, h₁, h₂, h₃, -⟩ := ih false [' ']
            (p := (joined (p.write run.reverse) n).write ['\\']) (by rw [hj]; rfl) hs'
          rw [if_pos rfl, if_pos (by simp)]
          refine ⟨'\\' :: (freshLine n ++ '\\' :: ' ' :: t), ?_, h₂,
            .joint (.escapedBlank rfl h₃.quoted) (solid_cons (by decide)),
            fun hrun hshort => (hpending hrun hshort).elim⟩
          rw [h₁, hj]
          simp
        · obtain ⟨t, h₁, h₂, h₃, -⟩ := ih false [c]
            (p := joined (p.write run.reverse) n) (by rw [hj]) hs'
          rw [if_pos rfl, if_neg (by simpa using hd)]
          refine ⟨'\\' :: (freshLine n ++ c :: t), ?_, h₂,
            .joint (h₃.quoted_bare hc) (solid_cons (atBlank_of_isBare hc hd)),
            fun hrun hshort => (hpending hrun hshort).elim⟩
          rw [h₁, hj]
          simp

end Render

end Folio.Yaml
