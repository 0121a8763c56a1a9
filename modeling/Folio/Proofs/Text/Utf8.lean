/-
  Folio — reading what is written in UTF-8.

  * `decode_encode`: the text of the octets of a text is the text;
  * `exists_char_of_mem_encode`: a small octet of a text is a character of its own.
-/
import Folio.Text.Utf8

namespace Folio.Utf8

/-! ## One character -/

/-- An octet that follows the first, while its bounds are the common ones. -/
theorem next?_of_le {p : Partly} {b : UInt8} {x : Nat} (hb : b.toNat = x + 0x80)
    (hlow : p.low ≤ x + 0x80) (hhigh : x + 0x80 ≤ p.high) :
    p.next? b = match p.more with
      | 0 => some (.inl (Char.ofNat (p.bits * 64 + x)))
      | m + 1 => some (.inr ⟨p.bits * 64 + x, p.width + 1, m, 0x80, 0xBF⟩) := by
  have hsub : x + 0x80 - 0x80 = x := Nat.add_sub_cancel ..
  rcases h : p.more with _ | m <;>
    simp only [Partly.next?, hb, hlow, hhigh, and_self, if_true, hsub, h]

theorem toNat_ofNat_of_lt {n : Nat} (h : n < 256) : (UInt8.ofNat n).toNat = n := by
  rw [UInt8.toNat_ofNat']
  omega

/-- What the first octet of three opens. -/
theorem lead_three {b : UInt8} {x : Nat} (hb : b.toNat = x + 0xE0) (hx : x < 16) :
    ∃ low high, lead b = .opens ⟨x, 1, 1, low, high⟩ ∧
      low = (if x = 0 then 0xA0 else 0x80) ∧ high = (if x = 13 then 0x9F else 0xBF) := by
  simp only [lead, hb]
  rw [if_neg (by omega), if_neg (by omega), if_neg (by omega)]
  by_cases h0 : x = 0
  · subst h0
    exact ⟨_, _, rfl, rfl, rfl⟩
  · rw [if_neg (by omega)]
    by_cases h13 : x = 13
    · subst h13
      exact ⟨_, _, rfl, rfl, rfl⟩
    · rw [if_neg (by omega), if_pos (by omega), Nat.add_sub_cancel]
      exact ⟨_, _, rfl, by rw [if_neg h0], by rw [if_neg h13]⟩

/-- What the first octet of four opens. -/
theorem lead_four {b : UInt8} {x : Nat} (hb : b.toNat = x + 0xF0) (hx : x < 5) :
    ∃ low high, lead b = .opens ⟨x, 1, 2, low, high⟩ ∧
      low = (if x = 0 then 0x90 else 0x80) ∧ high = (if x = 4 then 0x8F else 0xBF) := by
  simp only [lead, hb]
  rw [if_neg (by omega), if_neg (by omega), if_neg (by omega), if_neg (by omega), if_neg (by omega),
    if_neg (by omega)]
  by_cases h0 : x = 0
  · subst h0
    exact ⟨_, _, rfl, rfl, rfl⟩
  · rw [if_neg (by omega)]
    by_cases h4 : x = 4
    · subst h4
      exact ⟨_, _, rfl, rfl, rfl⟩
    · rw [if_pos (by omega), Nat.add_sub_cancel]
      exact ⟨_, _, rfl, by rw [if_neg h0], by rw [if_neg h4]⟩

theorem decodeFrom_encodeChar (c : Char) (rest : Octets) :
    decodeFrom none (String.utf8EncodeChar c ++ rest) = c :: decodeFrom none rest := by
  have hvalid : c.val.toNat < 0xD800 ∨ 0xDFFF < c.val.toNat ∧ c.val.toNat < 0x110000 := c.valid
  have hc : Char.ofNat c.val.toNat = c := Char.ofNat_toNat c
  unfold String.utf8EncodeChar
  dsimp only
  generalize c.val.toNat = v at hvalid hc
  split
  · have hb := toNat_ofNat_of_lt (n := v) (by omega)
    have hlead : lead (UInt8.ofNat v) = .whole c := by
      simp only [lead, hb]
      rw [if_pos (by omega), hc]
    simp only [List.cons_append, List.nil_append, decodeFrom, hlead]
  · split
    · have hb := toNat_ofNat_of_lt (n := v / 64 % 32 + 192) (by omega)
      have hb' := toNat_ofNat_of_lt (n := v % 64 + 128) (by omega)
      have hlead : lead (UInt8.ofNat (v / 64 % 32 + 192)) = .opens ⟨v / 64, 1, 0, 0x80, 0xBF⟩ := by
        simp only [lead, hb]
        rw [if_neg (by omega), if_neg (by omega), if_pos (by omega)]
        have : v / 64 % 32 + 192 - 192 = v / 64 := by omega
        rw [this]
      have hv : v / 64 * 64 + v % 64 = v := by omega
      simp only [List.cons_append, List.nil_append, decodeFrom, hlead]
      rw [next?_of_le hb' (by simp) (by simp only; omega)]
      simp only [hv, hc]
    · split
      · have hb := toNat_ofNat_of_lt (n := v / 4096 % 16 + 224) (by omega)
        have hb' := toNat_ofNat_of_lt (n := v / 64 % 64 + 128) (by omega)
        have hb'' := toNat_ofNat_of_lt (n := v % 64 + 128) (by omega)
        obtain ⟨low, high, hlead, hlow, hhigh⟩ := lead_three hb (by omega)
        have hv : (v / 4096 % 16 * 64 + v / 64 % 64) * 64 + v % 64 = v := by omega
        simp only [List.cons_append, List.nil_append, decodeFrom, hlead]
        rw [next?_of_le hb' (by simp only [hlow]; split <;> omega)
          (by simp only [hhigh]; split <;> omega)]
        simp only
        rw [next?_of_le hb'' (by simp) (by simp only; omega)]
        simp only [hv, hc]
      · have hb := toNat_ofNat_of_lt (n := v / 262144 % 8 + 240) (by omega)
        have hb1 := toNat_ofNat_of_lt (n := v / 4096 % 64 + 128) (by omega)
        have hb2 := toNat_ofNat_of_lt (n := v / 64 % 64 + 128) (by omega)
        have hb3 := toNat_ofNat_of_lt (n := v % 64 + 128) (by omega)
        obtain ⟨low, high, hlead, hlow, hhigh⟩ := lead_four hb (by omega)
        have hv : ((v / 262144 % 8 * 64 + v / 4096 % 64) * 64 + v / 64 % 64) * 64 + v % 64 = v := by
          omega
        simp only [List.cons_append, List.nil_append, decodeFrom, hlead]
        rw [next?_of_le hb1 (by simp only [hlow]; split <;> omega)
          (by simp only [hhigh]; split <;> omega)]
        simp only
        rw [next?_of_le hb2 (by simp) (by simp only; omega)]
        simp only
        rw [next?_of_le hb3 (by simp) (by simp only; omega)]
        simp only [hv, hc]

/-! ## Texts -/

/-- The text of the octets of a text is the text. -/
theorem decode_encode (cs : List Char) : decode (encode cs) = cs := by
  rw [decode]
  induction cs with
  | nil => rfl
  | cons c cs ih =>
    have hcons : encode (c :: cs) = String.utf8EncodeChar c ++ encode cs := rfl
    rw [hcons, decodeFrom_encodeChar, ih]

/-- A small octet of a text is a character of its own. -/
theorem exists_char_of_mem_encode {cs : List Char} {b : UInt8} (h : b ∈ encode cs)
    (hb : b.toNat < 128) : ∃ c ∈ cs, c.toNat = b.toNat := by
  obtain ⟨c, hc, hbc⟩ := List.mem_flatMap.1 h
  refine ⟨c, hc, ?_⟩
  have hlarge : ∀ {n : Nat}, n < 256 → 128 ≤ n → b ≠ UInt8.ofNat n := by
    rintro n hn hle rfl
    rw [toNat_ofNat_of_lt hn] at hb
    omega
  unfold String.utf8EncodeChar at hbc
  dsimp only at hbc
  split at hbc
  · next hv =>
    rw [List.mem_singleton.1 hbc]
    change c.val.toNat = _
    exact (toNat_ofNat_of_lt (by omega)).symm
  -- the octets of a longer character all have their highest bit set
  split at hbc
  all_goals try split at hbc
  all_goals simp only [List.mem_cons, List.not_mem_nil, or_false] at hbc
  · rcases hbc with h | h <;> exact absurd h (hlarge (by omega) (by omega))
  · rcases hbc with h | h | h <;> exact absurd h (hlarge (by omega) (by omega))
  · rcases hbc with h | h | h | h <;> exact absurd h (hlarge (by omega) (by omega))

end Folio.Utf8
