/-
  Folio — escapes are read back.

  A character that may not stand between double quotes is written as an escape: a
  letter, or its number in two, four or eight hexadecimal digits, as many as it
  needs.  Reading the escape gives the character.

  * `Scalar.escape_escapeOf`: an escape that is written is read as its character.
-/
import Folio.Proofs.Yaml.Cursor
import Folio.Yaml.Render
import Folio.Yaml.Token.Scalar
import Mathlib.Algebra.Group.Nat.Defs
import Mathlib.Data.List.Basic
import Mathlib.Tactic.Common

namespace Folio.Yaml.Scalar

/-! ## Hexadecimal digits -/

/-- The digits of a number as they stand in an escape. -/
def upperHex (n width : Nat) : List Char := (Text.hexText n width).map Char.toUpper

theorem hexValue?_digitChar {d : Nat} (h : d < 16) :
    Text.hexValue? (Char.toUpper d.digitChar) = some d := by
  have hall : ∀ d : Fin 16, Text.hexValue? (Char.toUpper (Nat.digitChar d)) = some d.val := by decide
  exact hall ⟨d, h⟩

theorem hexNumber_concat {cs : List Char} {c : Char} {d : Nat} (h : Text.hexValue? c = some d) :
    hexNumber (cs ++ [c]) = 16 * hexNumber cs + d := by
  simp [hexNumber, List.filterMap_append, h]

theorem hexNumber_toDigits (n : Nat) :
    hexNumber ((Nat.toDigits 16 n).map Char.toUpper) = n := by
  induction n using Nat.strongRecOn with
  | ind n ih =>
    by_cases hn : n < 16
    · rw [Nat.toDigits_of_lt_base hn, List.map_singleton, ← List.nil_append [_],
        hexNumber_concat (hexValue?_digitChar hn)]
      simp [hexNumber]
    · rw [Nat.toDigits_of_base_le (by decide) (by omega), List.map_append, List.map_singleton,
        hexNumber_concat (hexValue?_digitChar (Nat.mod_lt _ (by decide))), ih _ (by omega)]
      omega

theorem isHex_of_mem_toDigits (n : Nat) :
    ∀ c ∈ (Nat.toDigits 16 n).map Char.toUpper, (Text.hexValue? c).isSome = true := by
  induction n using Nat.strongRecOn with
  | ind n ih =>
    by_cases hn : n < 16
    · rw [Nat.toDigits_of_lt_base hn, List.map_singleton]
      simp [hexValue?_digitChar hn]
    · rw [Nat.toDigits_of_base_le (by decide) (by omega), List.map_append, List.map_singleton]
      intro c hc
      rcases List.mem_append.1 hc with hc | hc
      · exact ih _ (by omega) c hc
      · obtain rfl := List.mem_singleton.1 hc
        simp [hexValue?_digitChar (Nat.mod_lt n (by decide : 0 < 16))]

theorem upperHex_eq (n width : Nat) : upperHex n width =
    List.replicate (width - (Nat.toDigits 16 n).length) '0' ++
      (Nat.toDigits 16 n).map Char.toUpper := by
  have h : Char.toUpper '0' = '0' := by decide
  rw [upperHex, Text.hexText, List.map_append, List.map_replicate, h]

/-- The digits stand for the number. -/
theorem hexNumber_upperHex (n width : Nat) : hexNumber (upperHex n width) = n := by
  rw [upperHex_eq]
  generalize width - (Nat.toDigits 16 n).length = k
  induction k with
  | zero => exact hexNumber_toDigits n
  | succ k ih =>
    rw [List.replicate_succ, List.cons_append, hexNumber]
    exact ih

theorem isHex_of_mem_upperHex {n width : Nat} :
    ∀ c ∈ upperHex n width, (Text.hexValue? c).isSome = true := by
  intro c hc
  rw [upperHex_eq] at hc
  rcases List.mem_append.1 hc with hc | hc
  · obtain rfl := List.eq_of_mem_replicate hc
    decide
  · exact isHex_of_mem_toDigits n c hc

/-- A number that fits its width has that many digits. -/
theorem length_upperHex {n width : Nat} (hw : 0 < width) (h : n < 16 ^ width) :
    (upperHex n width).length = width := by
  have hle := (Nat.length_toDigits_le_iff (b := 16) (by decide) hw).2 h
  rw [upperHex_eq, List.length_append, List.length_replicate, List.length_map]
  omega

/-! ## Escapes -/

/-- An escape that is a letter stands for its character. -/
theorem escaped?_of_letter {ch l : Char} (h : Render.escapeLetter? ch = some l) :
    escaped? l = some ch := by
  unfold Render.escapeLetter? at h
  split at h
  all_goals try
    obtain rfl := Option.some.inj h
    rfl
  split at h
  · rename_i hz
    obtain rfl := Option.some.inj h
    exact congrArg some (Char.toNat_inj.1 hz.symm)
  · cases h

theorem notHex?_eq_none {c : Cursor} {digits more : List Char} (h : c.rest = digits ++ more)
    (hd : ∀ x ∈ digits, (Text.hexValue? x).isSome = true) : notHex? digits.length c = none := by
  rw [notHex?, List.find?_eq_none]
  intro f hf
  obtain ⟨i, hi, rfl⟩ := List.mem_map.1 hf
  have hlt := List.mem_range.1 hi
  have hat : c.peekAt i = some digits[i] := by
    rw [Cursor.peekAt, h, List.head?_drop, List.getElem?_append_left hlt,
      List.getElem?_eq_getElem hlt]
  rw [hat]
  simpa [Option.isSome_iff_ne_none] using hd _ (List.getElem_mem hlt)

theorem toNat_lt (ch : Char) : ch.toNat < 0x110000 := by
  have h : ch.val.toNat = ch.toNat := rfl
  rcases ch.valid with hv | hv <;> omega

/-- An escape by number is read as the character with that number. -/
theorem escape_number {start : Mark} {c : Cursor} {letter ch : Char} {width : Nat} {more : List Char}
    (hl : escaped? letter = none) (hw : escapeWidth? letter = some width) (hpos : 0 < width)
    (hch : ch.toNat < 16 ^ width) (h : c.rest = letter :: upperHex ch.toNat width ++ more) :
    escape start c = .ok ([ch], c.advanceBy (width + 1)) := by
  have hrest : c.advance.rest = upperHex ch.toNat width ++ more := by
    rw [Cursor.rest_advance, h]
    rfl
  have hlen := length_upperHex hpos hch
  have hnot : notHex? width c.advance = none := by
    have := notHex?_eq_none hrest isHex_of_mem_upperHex
    rwa [hlen] at this
  have htake : c.advance.rest.take width = upperHex ch.toNat width := by
    rw [hrest, List.take_append_of_le_length (by omega), List.take_of_length_le (by omega)]
  have hchar : charOf ch.toNat = .ok [ch] := by
    rw [charOf, if_pos (show ch.toNat.isValidChar from ch.valid), Char.ofNat_toNat]
  rw [escape, Cursor.peek, h, List.cons_append, List.head?_cons]
  simp only [hl, hw, hnot, htake, hexNumber_upperHex, hchar]
  rw [Nat.add_comm, Cursor.advanceBy_add]
  rfl

theorem escapeOf_eq_cons (ch : Char) :
    Render.escapeOf ch = '\\' :: (Render.escapeOf ch).tail := by
  rw [Render.escapeOf]
  split
  · rfl
  · dsimp only
    split
    · rfl
    · split <;> rfl

theorem toNat_of_isHex {c : Char} (h : (Text.hexValue? c).isSome = true) :
    0x20 ≤ c.toNat ∧ c.toNat ≤ 0x7E := by
  have hbounds : '0' ≤ c ∧ c ≤ '9' ∨ 'a' ≤ c ∧ c ≤ 'f' ∨ 'A' ≤ c ∧ c ≤ 'F' := by
    by_contra hno
    simp only [not_or] at hno
    rw [Text.hexValue?, if_neg hno.1, if_neg hno.2.1, if_neg hno.2.2] at h
    cases h
  have hle : ∀ {x y : Char}, x ≤ y → x.toNat ≤ y.toNat := fun h => h
  rcases hbounds with ⟨h1, h2⟩ | ⟨h1, h2⟩ | ⟨h1, h2⟩ <;>
  · have h1 := hle h1
    have h2 := hle h2
    simp only [Char.reduceToNat] at h1 h2
    omega

theorem toNat_of_escapeLetter {ch l : Char} (h : Render.escapeLetter? ch = some l) :
    0x20 ≤ l.toNat ∧ l.toNat ≤ 0x7E := by
  unfold Render.escapeLetter? at h
  split at h
  all_goals try
    obtain rfl := Option.some.inj h
    decide
  split at h
  · obtain rfl := Option.some.inj h
    decide
  · cases h

/-- An escape consists of ASCII characters that are shown. -/
theorem toNat_of_mem_escapeOf {ch x : Char} (h : x ∈ Render.escapeOf ch) :
    0x20 ≤ x.toNat ∧ x.toNat ≤ 0x7E := by
  have hnumber : ∀ {l : Char} {n w : Nat}, 0x20 ≤ l.toNat ∧ l.toNat ≤ 0x7E →
      x ∈ '\\' :: l :: upperHex n w → 0x20 ≤ x.toNat ∧ x.toNat ≤ 0x7E := by
    intro l n w hl hx
    rcases List.mem_cons.1 hx with rfl | hx
    · decide
    · rcases List.mem_cons.1 hx with rfl | hx
      · exact hl
      · exact toNat_of_isHex (isHex_of_mem_upperHex x hx)
  rw [Render.escapeOf] at h
  split at h
  · rename_i l hl
    rcases List.mem_cons.1 h with rfl | h
    · decide
    · obtain rfl := List.mem_singleton.1 h
      exact toNat_of_escapeLetter hl
  · dsimp only at h
    split at h
    · exact hnumber (by decide) h
    · split at h
      · exact hnumber (by decide) h
      · exact hnumber (by decide) h

theorem isBreak_of_toNat {x : Char} (h : 0x20 ≤ x.toNat ∧ x.toNat ≤ 0x7E) : isBreak x = false := by
  cases hx : isBreak x with
  | false => rfl
  | true =>
    simp only [isBreak, Bool.or_eq_true, beq_iff_eq] at hx
    rcases hx with (((rfl | rfl) | rfl) | rfl) | rfl <;> exact absurd h (by decide)

/-- **An escape is read as its character.** -/
theorem escape_escapeOf {start : Mark} {c : Cursor} {ch : Char} {more : List Char}
    (h : c.rest = (Render.escapeOf ch).tail ++ more) :
    escape start c = .ok ([ch], c.advanceBy (Render.escapeOf ch).tail.length) := by
  rw [Render.escapeOf] at h ⊢
  split at h
  · rename_i l hl
    simp only [List.tail_cons, List.length_singleton]
    simp only [List.tail_cons, List.singleton_append] at h
    rw [escape, Cursor.peek, h, List.head?_cons]
    simp only [escaped?_of_letter hl]
    rfl
  · rename_i hl
    have hupper : ∀ n w, (Text.hexText n w).map Char.toUpper = upperHex n w := fun _ _ => rfl
    have hvalid := toNat_lt ch
    simp only [hupper] at h ⊢
    split at h
    · rename_i h2
      have hlt : ch.toNat < 16 ^ 2 := by omega
      rw [if_pos h2, List.tail_cons, List.length_cons, length_upperHex (by decide) hlt]
      exact escape_number rfl rfl (by decide) hlt h
    · rename_i h2
      rw [if_neg h2]
      split at h
      · rename_i h4
        have hlt : ch.toNat < 16 ^ 4 := by omega
        rw [if_pos h4, List.tail_cons, List.length_cons, length_upperHex (by decide) hlt]
        exact escape_number rfl rfl (by decide) hlt h
      · rename_i h4
        have hlt : ch.toNat < 16 ^ 8 := by omega
        rw [if_neg h4, List.tail_cons, List.length_cons, length_upperHex (by decide) hlt]
        exact escape_number rfl rfl (by decide) hlt h

end Folio.Yaml.Scalar
