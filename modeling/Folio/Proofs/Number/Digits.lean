/-
  Folio — which numbers are read.

  Decimal digits of any script, with a sign and a point or without, are a number.
  Only an integer with more digits than are converted is none, and one with digits in
  another sense.

  * `readInt_of_isDecimal`, `readFloat_of_isDecimal`: what digits are read as;
  * `readInt_of_isDigit_iff`: which texts of digits in any sense are integers.
-/
import Mathlib
import Folio.Number.Read
import Folio.Proofs.Text.Trim
import Folio.Proofs.Number.Decimal

namespace Folio

namespace Text

variable {c : Char}

/-- A decimal digit stands among the ten characters from a zero on. -/
theorem exists_zero_of_decimalValue? {d : Nat} (h : decimalValue? c = some d) :
    ∃ z ∈ decimalZeros, c.toNat = z + d ∧ d < 10 := by
  unfold decimalValue? at h
  dsimp only at h
  split at h
  · split at h
    · next hrange =>
      cases h
      exact ⟨0x30, List.mem_cons_self, by omega, by omega⟩
    · cases h
  · obtain ⟨z, hz, rfl⟩ := Option.map_eq_some_iff.1 h
    have hrange := List.find?_some hz
    simp only [Bool.and_eq_true, decide_eq_true_eq] at hrange
    exact ⟨z, List.mem_of_find?_eq_some hz, by omega, by omega⟩

theorem exists_decimalValue?_of_isDecimal (h : isDecimal c = true) :
    ∃ d, decimalValue? c = some d ∧ d < 10 := by
  obtain ⟨d, hd⟩ := Option.isSome_iff_exists.1 h
  obtain ⟨-, -, -, hlt⟩ := exists_zero_of_decimalValue? hd
  exact ⟨d, hd, hlt⟩

/-- No blank character stands among digits. -/
theorem isBlank_of_isDecimal (h : isDecimal c = true) : isBlank c = false := by
  obtain ⟨d, hd⟩ := Option.isSome_iff_exists.1 h
  obtain ⟨z, hz, hc, hlt⟩ := exists_zero_of_decimalValue? hd
  have hdisjoint : ∀ r ∈ blankRanges, ∀ z ∈ decimalZeros, r.2 < z ∨ z + 10 ≤ r.1 := by decide
  rw [isBlank, ← Bool.not_eq_true, Ranges.has_iff]
  rintro ⟨r, hr, hlow, hhigh⟩
  have := hdisjoint r hr z hz
  omega

/-- Nor among digits in any sense. -/
theorem isBlank_of_isDigit (h : isDigit c = true) : isBlank c = false := by
  rw [isDigit, Bool.or_eq_true] at h
  rcases h with h | h
  · exact isBlank_of_isDecimal h
  · obtain ⟨r, hr, hlow, hhigh⟩ := Ranges.has_iff.1 h
    have hdisjoint : ∀ b ∈ blankRanges, ∀ r ∈ specialDigitRanges, b.2 < r.1 ∨ r.2 < b.1 := by
      decide
    rw [isBlank, ← Bool.not_eq_true, Ranges.has_iff]
    rintro ⟨b, hb, hlow', hhigh'⟩
    have := hdisjoint b hb r hr
    omega

theorem ne_of_isDecimal {d : Char} (h : isDecimal c = true) (hd : isDecimal d = false) : c ≠ d := by
  rintro rfl
  rw [h] at hd
  cases hd

end Text

namespace Number

/-- The digits in base ten are the decimal digits. -/
theorem digitIn?_ten (c : Char) : digitIn? 10 c = Text.decimalValue? c := by
  unfold digitIn? Text.radixValue?
  cases hd : Text.decimalValue? c with
  | some d =>
    obtain ⟨-, -, -, hlt⟩ := Text.exists_zero_of_decimalValue? hd
    simp [hlt]
  | none =>
    dsimp only
    split
    · simp
    · split
      · simp
      · rfl

/-- The sign that a number can have. -/
def Signs (sgn : List Char) : Prop := sgn = [] ∨ sgn = ['+'] ∨ sgn = ['-']

section
variable {sgn ds es : List Char}

theorem digitsIn?_of_isDecimal (hne : ds ≠ []) (h : ∀ c ∈ ds, Text.isDecimal c = true) :
    digitsIn? 10 ds = some (ds.filterMap Text.decimalValue?) := by
  induction ds with
  | nil => exact absurd rfl hne
  | cons c ds ih =>
    obtain ⟨d, hd, -⟩ := Text.exists_decimalValue?_of_isDecimal (h c List.mem_cons_self)
    cases ds with
    | nil => simp [digitsIn?, digitIn?_ten, hd]
    | cons e ds =>
      have he : e ≠ '_' := Text.ne_of_isDecimal (h e (by simp)) (by decide)
      have ih := ih (List.cons_ne_nil _ _) fun c hc => h c (List.mem_cons_of_mem _ hc)
      simp [digitsIn?, he, digitIn?_ten, hd, ih]

/-- A character that is neither a decimal digit nor a low line is in no integer. -/
theorem digitsIn?_eq_none {c : Char} (hc : c ∈ ds) (hlow : c ≠ '_')
    (h : Text.isDecimal c = false) : digitsIn? 10 ds = none := by
  have hnone : digitIn? 10 c = none := by
    rw [digitIn?_ten]
    simpa [Text.isDecimal] using h
  fun_induction digitsIn? 10 ds <;> grind

theorem countDigits_of_isDecimal (h : ∀ c ∈ ds, Text.isDecimal c = true) :
    countDigits 10 ds = ds.length := by
  have hin : ∀ c ∈ ds, (c == '_' || (digitIn? 10 c).isSome) = true := by
    intro c hc
    obtain ⟨d, hd, -⟩ := Text.exists_decimalValue?_of_isDecimal (h c hc)
    simp [digitIn?_ten, hd]
  have hno : ∀ c ∈ ds, (c != '_') = true := by
    intro c hc
    simpa using Text.ne_of_isDecimal (h c hc) (d := '_') (by decide)
  rw [countDigits, List.takeWhile_eq_self_iff.2 hin, List.filter_eq_self.2 hno]

/-- The sign splits off digits and what follows them. -/
theorem sign_append (hsgn : Signs sgn) (hne : ds ≠ []) (h : ∀ c ∈ ds, Text.isDecimal c = true)
    (rest : List Char) : ∃ negative, sign (sgn ++ (ds ++ rest)) = (negative, ds ++ rest) := by
  obtain ⟨c, ds, rfl⟩ := List.exists_cons_of_ne_nil hne
  have hplus : c ≠ '+' := Text.ne_of_isDecimal (h c List.mem_cons_self) (by decide)
  have hminus : c ≠ '-' := Text.ne_of_isDecimal (h c List.mem_cons_self) (by decide)
  rcases hsgn with rfl | rfl | rfl
  · exact ⟨false, by simp [sign, hplus, hminus]⟩
  · exact ⟨false, rfl⟩
  · exact ⟨true, rfl⟩

theorem not_blank_of_mem_signs (hsgn : Signs sgn) {c : Char} (hc : c ∈ sgn) :
    Text.isBlank c = false := by
  rcases hsgn with rfl | rfl | rfl
  · cases hc
  · rw [List.mem_singleton.1 hc]; decide
  · rw [List.mem_singleton.1 hc]; decide

/-- **Digits are an integer, unless there are more than are converted.** -/
theorem readInt_of_isDecimal (hsgn : Signs sgn) (hne : ds ≠ [])
    (h : ∀ c ∈ ds, Text.isDecimal c = true) :
    (∃ i, readInt 10 (sgn ++ ds) = .ok i) ↔ ds.length ≤ maxDigits := by
  have htrim : Text.trim (sgn ++ ds) = sgn ++ ds := by
    refine Text.trim_eq_self fun c hc => ?_
    rcases List.mem_append.1 hc with hc | hc
    · exact not_blank_of_mem_signs hsgn hc
    · exact Text.isBlank_of_isDecimal (h c hc)
  obtain ⟨negative, hsign⟩ := sign_append hsgn hne h []
  rw [List.append_nil] at hsign
  have hvalues := digitsIn?_of_isDecimal hne h
  rw [← Nat.not_lt]
  by_cases hlong : maxDigits < ds.length
  · simp [readInt, htrim, hsign, dropBaseMark_ten, countDigits_of_isDecimal h, hlong]
  · simp [readInt, htrim, hsign, dropBaseMark_ten, countDigits_of_isDecimal h, hlong, hvalues]

/-- **Digits in any sense are an integer** if all of them are decimal digits, and not
    more than are converted. -/
theorem readInt_of_isDigit_iff (hne : ds ≠ []) (h : ∀ c ∈ ds, Text.isDigit c = true) {i : Int} :
    readInt 10 ds = .ok i ↔ (∀ c ∈ ds, Text.isDecimal c = true) ∧ ds.length ≤ maxDigits ∧
      i = Text.decimalNumber ds := by
  have htrim : Text.trim ds = ds :=
    Text.trim_eq_self fun c hc => Text.isBlank_of_isDigit (h c hc)
  have hsign : sign ds = (false, ds) := by
    cases ds with
    | nil => rfl
    | cons c ds =>
      have hc := h c List.mem_cons_self
      have hplus : c ≠ '+' := by rintro rfl; revert hc; decide
      have hminus : c ≠ '-' := by rintro rfl; revert hc; decide
      simp [sign, hplus, hminus]
  by_cases hdecimal : ∀ c ∈ ds, Text.isDecimal c = true
  · by_cases hlong : maxDigits < ds.length
    · simp [readInt, htrim, hsign, dropBaseMark_ten, countDigits_of_isDecimal hdecimal, hlong,
        Nat.not_le.2 hlong]
    · have hvalue : ofDigits 10 (ds.filterMap Text.decimalValue?) = Text.decimalNumber ds := rfl
      have hread : readInt 10 ds = .ok (Text.decimalNumber ds) := by
        simp [readInt, htrim, hsign, dropBaseMark_ten, countDigits_of_isDecimal hdecimal, hlong,
          digitsIn?_of_isDecimal hne hdecimal, hvalue]
      rw [hread, Except.ok.injEq]
      exact ⟨fun hi => ⟨hdecimal, Nat.not_lt.1 hlong, hi.symm⟩, fun hi => hi.2.2.symm⟩
  · obtain ⟨c, hc, hnot⟩ : ∃ c ∈ ds, Text.isDecimal c = false := by simpa using hdecimal
    have hlow : c ≠ '_' := by
      rintro rfl
      exact absurd (h _ hc) (by decide)
    have hnone := digitsIn?_eq_none hc hlow hnot
    refine iff_of_false (fun hread => ?_) fun hread => hdecimal hread.1
    simp only [readInt, htrim, hsign, dropBaseMark_ten, hnone] at hread
    split at hread <;> cases hread

theorem splitDigits?_of_isDecimal (h : ∀ c ∈ ds, Text.isDecimal c = true) {rest : List Char}
    (hrest : ∀ c ∈ rest.head?, c ≠ '_' ∧ Text.isDecimal c = false) (afterDigit : Bool) :
    ∃ values, splitDigits? afterDigit (ds ++ rest) = some (values, rest) ∧
      values.length = ds.length := by
  induction ds generalizing afterDigit with
  | nil =>
    cases rest with
    | nil => exact ⟨[], rfl, rfl⟩
    | cons c rest =>
      obtain ⟨hc, hd⟩ := hrest c rfl
      have hnone : Text.decimalValue? c = none := by
        simpa [Text.isDecimal] using hd
      exact ⟨[], by simp [splitDigits?, hc, hnone], rfl⟩
  | cons c ds ih =>
    obtain ⟨d, hd, -⟩ := Text.exists_decimalValue?_of_isDecimal (h c List.mem_cons_self)
    have hc : c ≠ '_' := Text.ne_of_isDecimal (h c List.mem_cons_self) (by decide)
    obtain ⟨values, hvalues, hlength⟩ := ih (fun c hc => h c (List.mem_cons_of_mem _ hc)) true
    exact ⟨d :: values, by simp [splitDigits?, hc, hd, hvalues], by simp [hlength]⟩

/-- **Digits around a point are a floating-point number.** -/
theorem readFloat_of_isDecimal (hsgn : Signs sgn) (hne : ds ≠ [])
    (hds : ∀ c ∈ ds, Text.isDecimal c = true) (hes : ∀ c ∈ es, Text.isDecimal c = true) :
    ∃ x, readFloat (sgn ++ (ds ++ '.' :: es)) = .ok x := by
  have htrim : Text.trim (sgn ++ (ds ++ '.' :: es)) = sgn ++ (ds ++ '.' :: es) := by
    refine Text.trim_eq_self fun c hc => ?_
    rw [List.mem_append, List.mem_append, List.mem_cons] at hc
    rcases hc with hc | hc | rfl | hc
    · exact not_blank_of_mem_signs hsgn hc
    · exact Text.isBlank_of_isDecimal (hds c hc)
    · decide
    · exact Text.isBlank_of_isDecimal (hes c hc)
  obtain ⟨negative, hsign⟩ := sign_append hsgn hne hds ('.' :: es)
  have hpoint : ∀ c ∈ ('.' :: es).head?, c ≠ '_' ∧ Text.isDecimal c = false := by
    simp
    decide
  obtain ⟨whole, hwhole, hlength⟩ := splitDigits?_of_isDecimal hds hpoint false
  have hnone : ∀ c ∈ ([] : List Char).head?, c ≠ '_' ∧ Text.isDecimal c = false := by simp
  obtain ⟨frac, hfrac, -⟩ := splitDigits?_of_isDecimal hes hnone false
  rw [List.append_nil] at hfrac
  have hwhole_ne : whole ≠ [] := by
    rintro rfl
    exact hne (List.length_eq_zero_iff.1 hlength.symm)
  have hmantissa : mantissa? (ds ++ '.' :: es) = some (whole ++ frac, frac.length, []) := by
    simp [mantissa?, hwhole, hfrac, hwhole_ne]
  obtain ⟨x, hx⟩ : ∃ x, unsigned? negative (ds ++ '.' :: es) = some x := by
    unfold unsigned?
    dsimp only
    split
    · exact ⟨_, rfl⟩
    · split
      · exact ⟨_, rfl⟩
      · rw [hmantissa]
        exact ⟨_, rfl⟩
  exact ⟨x, by simp [readFloat, htrim, hsign, hx]⟩

end

end Number

end Folio
