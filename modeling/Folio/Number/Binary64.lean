/-
  Folio — binary floating-point numbers of 64 bits.

  A finite number is `± mantissa · 2 ^ exponent` with a mantissa below `2 ^ 53`.
  All arithmetic is exact on natural numbers, followed by one rounding
  (`ofRatio`): to the nearest number, and of two nearest to the one with the
  even mantissa.

  * `roundDiv_mul_le`, `le_roundDiv_mul`: a rounded quotient is off by at most
    one half.
-/

namespace Folio

/-- A floating-point number. -/
inductive Binary64 where
  /-- `mantissa · 2 ^ exponent`, negated if `negative`. -/
  | finite (negative : Bool) (mantissa : Nat) (exponent : Int)
  | infinite (negative : Bool)
  /-- Not a number.  As a key one of these equals no other, so it is told where it
      comes from; one that comes from nowhere is the same everywhere. -/
  | nan (origin : Option Nat)
  deriving Repr, DecidableEq

namespace Binary64

/-! ## Rounding -/

/-- The integer nearest to a quotient; of two nearest the even one. -/
def roundDiv (num den : Nat) : Nat :=
  let q := num / den
  let r := num % den
  if 2 * r < den then q
  else if den < 2 * r then q + 1
  else if q % 2 = 0 then q else q + 1

theorem roundDiv_mul_le {num den : Nat} (h : 0 < den) :
    2 * (roundDiv num den * den) ≤ 2 * num + den := by
  have hd := Nat.div_add_mod num den
  have hm : num / den * den = den * (num / den) := Nat.mul_comm _ _
  have hs : (num / den + 1) * den = den * (num / den) + den := by
    rw [Nat.add_mul, hm, Nat.one_mul]
  simp only [roundDiv]
  split
  · omega
  · split
    · omega
    · split <;> omega

theorem le_roundDiv_mul {num den : Nat} (h : 0 < den) :
    2 * num ≤ 2 * (roundDiv num den * den) + den := by
  have hd := Nat.div_add_mod num den
  have hr := Nat.mod_lt num h
  have hm : num / den * den = den * (num / den) := Nat.mul_comm _ _
  have hs : (num / den + 1) * den = den * (num / den) + den := by
    rw [Nat.add_mul, hm, Nat.one_mul]
  simp only [roundDiv]
  split
  · omega
  · split
    · omega
    · split <;> omega

/-- The least exponent of a finite number. -/
def minExponent : Int := -1074

/-- The greatest exponent of a finite number. -/
def maxExponent : Int := 971

/-- Zero. -/
def zero (negative : Bool) : Binary64 := .finite negative 0 minExponent

/-- The quotient divided by `2 ^ e`, as numerator and denominator. -/
def scale (num den : Nat) (e : Int) : Nat × Nat :=
  if 0 ≤ e then (num, den * Nat.pow 2 e.toNat) else (num * Nat.pow 2 (-e).toNat, den)

/-- The exponent with which a quotient has a mantissa of 53 bits, or the least
    exponent if that is greater. -/
def exponentOf (num den : Nat) : Int :=
  let e : Int := (num.log2 : Int) - den.log2 - 52
  let (n, d) := scale num den e
  max minExponent (if n / d < 0x10000000000000 then e - 1 else e)

/-- The number nearest to a quotient. -/
def ofRatio (negative : Bool) (num den : Nat) : Binary64 :=
  if num = 0 then zero negative
  else
    let e := exponentOf num den
    let (n, d) := scale num den e
    let m := roundDiv n d
    let (m, e) := if m = 0x20000000000000 then (0x10000000000000, e + 1) else (m, e)
    if maxExponent < e then .infinite negative else .finite negative m e

/-- The number nearest to `digits · 10 ^ exponent`.  Exponents far out of range
    are not computed with. -/
def ofDecimal (negative : Bool) (digits : Nat) (exponent : Int) : Binary64 :=
  let size : Int := (Nat.toDigits 10 digits).length + exponent
  if digits = 0 ∨ size < -400 then zero negative
  else if 400 < size then .infinite negative
  else if 0 ≤ exponent then ofRatio negative (digits * Nat.pow 10 exponent.toNat) 1
  else ofRatio negative digits (Nat.pow 10 (-exponent).toNat)

/-- The number nearest to an integer. -/
def ofInt (i : Int) : Binary64 := ofRatio (i < 0) i.natAbs 1

/-! ## Values -/

/-- Is the number below zero, or its zero or infinity the negative one? -/
def isNegative : Binary64 → Bool
  | .finite s _ _ | .infinite s => s
  | .nan _ => false

/-- The number with the other sign. -/
def neg : Binary64 → Binary64
  | .finite s m e => .finite (!s) m e
  | .infinite s => .infinite (!s)
  | .nan o => .nan o

/-- The number, coming from a place if it is none. -/
def comingFrom (origin : Nat) : Binary64 → Binary64
  | .nan _ => .nan (some origin)
  | x => x

/-- The exact value of a finite number as a signed numerator over a
    denominator. -/
def ratio? : Binary64 → Option (Int × Nat)
  | .finite s m e =>
    let (n, d) := if 0 ≤ e then (m * Nat.pow 2 e.toNat, 1) else (m, Nat.pow 2 (-e).toNat)
    some (if s then -(n : Int) else n, d)
  | _ => none

/-- The number nearest to a signed quotient; `zeroSign` is the sign of a zero. -/
def ofSignedRatio (zeroSign : Bool) (num : Int) (den : Nat) : Binary64 :=
  if num = 0 then zero zeroSign else ofRatio (num < 0) num.natAbs den

/-- The rounded sum. -/
def add (x y : Binary64) : Binary64 :=
  match x, y with
  | .nan _, _ | _, .nan _ => .nan none
  | .infinite s, .infinite t => if s = t then .infinite s else .nan none
  | .infinite s, _ | _, .infinite s => .infinite s
  | .finite s _ _, .finite t _ _ =>
    match x.ratio?, y.ratio? with
    | some (n, d), some (m, e) => ofSignedRatio (s && t) (n * e + m * d) (d * e)
    | _, _ => .nan none

/-- The rounded product. -/
def mul (x y : Binary64) : Binary64 :=
  let s := x.isNegative != y.isNegative
  match x, y with
  | .nan _, _ | _, .nan _ => .nan none
  | .infinite _, .finite _ 0 _ | .finite _ 0 _, .infinite _ => .nan none
  | .infinite _, _ | _, .infinite _ => .infinite s
  | _, _ =>
    match x.ratio?, y.ratio? with
    | some (n, d), some (m, e) => ofRatio s (n * m).natAbs (d * e)
    | _, _ => .nan none

end Binary64

end Folio
