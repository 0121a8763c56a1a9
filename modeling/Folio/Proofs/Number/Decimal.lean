/-
  Folio — decimal integers read back.

  An integer is written in decimal digits, with a sign if it is negative.

  * `readInt_decimal`: reading it gives it back, if it has no more digits than
    are converted.
-/
import Mathlib
import Folio.Number.Read
import Folio.Proofs.Text.Trim

namespace Folio

namespace Number

/-- An integer in decimal digits. -/
def decimal (i : Int) : List Char :=
  if i < 0 then '-' :: Text.decimalText i.natAbs else Text.decimalText i.natAbs

/-! ## Digits -/

section
variable {c : Char} (h : c.isDigit = true)
include h

theorem toNat_of_isDigit : 48 ≤ c.toNat ∧ c.toNat ≤ 57 := by
  simpa [Char.isDigit, UInt32.le_iff_toNat_le] using h

theorem decimalValue?_of_isDigit : Text.decimalValue? c = some (c.toNat - 48) := by
  have h := toNat_of_isDigit h
  have hlt : c.toNat < 0x80 := by omega
  simp [Text.decimalValue?, hlt, h.1, h.2]

theorem isDecimal_of_isDigit : Text.isDecimal c = true := by
  rw [Text.isDecimal, decimalValue?_of_isDigit h]; rfl

theorem digitIn?_of_isDigit : digitIn? 10 c = some (c.toNat - 48) := by
  have hv := decimalValue?_of_isDigit h
  have hlt : c.toNat - 48 < 10 := by
    have := toNat_of_isDigit h
    omega
  simp [digitIn?, Text.radixValue?, hv, hlt]

theorem ne_of_isDigit {d : Char} (hd : d.isDigit = false) : c ≠ d := by
  rintro rfl
  rw [h] at hd
  cases hd

theorem isBlank_of_isDigit : Text.isBlank c = false := by
  have h := toNat_of_isDigit h
  simp [Text.isBlank, Text.blankRanges, Text.Ranges.has]
  omega

end

theorem isDigit_of_mem_decimalText {n : Nat} {c : Char} (h : c ∈ Text.decimalText n) :
    c.isDigit = true :=
  Nat.isDigit_of_mem_toDigits (by decide) (by decide) h

theorem digitsIn?_of_isDigit {cs : List Char} (hne : cs ≠ []) (h : ∀ c ∈ cs, c.isDigit = true) :
    digitsIn? 10 cs = some (cs.map fun c => c.toNat - 48) := by
  induction cs with
  | nil => exact absurd rfl hne
  | cons c cs ih =>
    have hc := digitIn?_of_isDigit (h c List.mem_cons_self)
    cases cs with
    | nil => simp [digitsIn?, hc]
    | cons d cs =>
      have hd : d ≠ '_' := ne_of_isDigit (h d (by simp)) (by decide)
      have ih' := ih (List.cons_ne_nil _ _) fun e he => h e (List.mem_cons_of_mem _ he)
      simp [digitsIn?, hd, hc, ih']

theorem countDigits_of_isDigit {cs : List Char} (h : ∀ c ∈ cs, c.isDigit = true) :
    countDigits 10 cs = cs.length := by
  have hin : ∀ c ∈ cs, (c == '_' || (digitIn? 10 c).isSome) = true := by
    intro c hc
    simp [digitIn?_of_isDigit (h c hc)]
  have hno : ∀ c ∈ cs, (c != '_') = true := by
    intro c hc
    simpa using ne_of_isDigit (h c hc) (d := '_') (by decide)
  rw [countDigits, List.takeWhile_eq_self_iff.2 hin, List.filter_eq_self.2 hno]

theorem dropBaseMark_ten (cs : List Char) : dropBaseMark 10 cs = cs := by
  unfold dropBaseMark
  split <;> simp

theorem sign_of_isDigit {cs : List Char} (h : ∀ c ∈ cs, c.isDigit = true) :
    sign cs = (false, cs) := by
  cases cs with
  | nil => rfl
  | cons c cs =>
    have hm : c ≠ '-' := ne_of_isDigit (h c List.mem_cons_self) (by decide)
    have hp : c ≠ '+' := ne_of_isDigit (h c List.mem_cons_self) (by decide)
    simp [sign, hm, hp]

/-! ## Integers -/

theorem decimal_ne_nil (i : Int) : decimal i ≠ [] := by
  unfold decimal
  split
  · exact List.cons_ne_nil _ _
  · exact Nat.toDigits_ne_nil

theorem mem_decimal {i : Int} {c : Char} (h : c ∈ decimal i) : c = '-' ∨ c.isDigit = true := by
  unfold decimal at h
  split at h
  · exact (List.mem_cons.1 h).imp_right isDigit_of_mem_decimalText
  · exact Or.inr (isDigit_of_mem_decimalText h)

/-- What is neither the sign nor a digit is not in an integer. -/
theorem not_mem_decimal {i : Int} {c : Char} (hm : c ≠ '-') (hd : c.isDigit = false) :
    c ∉ decimal i := fun h => (mem_decimal h).elim hm fun hd' => by rw [hd] at hd'; cases hd'

theorem not_blank_of_mem_decimal {i : Int} {c : Char} (h : c ∈ decimal i) :
    Text.isBlank c = false := by
  rcases mem_decimal h with rfl | hd
  exacts [by decide, isBlank_of_isDigit hd]

theorem sign_decimal (i : Int) :
    sign (decimal i) = (decide (i < 0), Text.decimalText i.natAbs) := by
  unfold decimal
  split
  · next h => simp [sign, h]
  · next h => simp [sign_of_isDigit fun c => isDigit_of_mem_decimalText, h]

/-- **An integer in decimal digits is read back.** -/
theorem readInt_decimal {i : Int} (h : (Text.decimalText i.natAbs).length ≤ maxDigits) :
    readInt 10 (decimal i) = .ok i := by
  have hdigits : ∀ c ∈ Text.decimalText i.natAbs, c.isDigit = true :=
    fun c => isDigit_of_mem_decimalText
  have hvalue : ofDigits 10 ((Text.decimalText i.natAbs).map fun c => c.toNat - 48) = i.natAbs := by
    rw [ofDigits, List.foldl_map]
    exact Nat.ofDigitChars_toDigits (by decide) (by decide)
  have hread : digitsIn? 10 (Text.decimalText i.natAbs) = some _ :=
    digitsIn?_of_isDigit Nat.toDigits_ne_nil hdigits
  have hsign : (if i < 0 then -(i.natAbs : Int) else i.natAbs) = i := by
    split <;> omega
  simp [readInt, Text.trim_eq_self fun c => not_blank_of_mem_decimal, sign_decimal,
    dropBaseMark_ten, countDigits_of_isDigit hdigits, Nat.not_lt.2 h, hread, hvalue, hsign,
    -Nat.cast_natAbs]

end Number

end Folio
