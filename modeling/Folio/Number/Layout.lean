/-
  Folio — how numbers are written.

  A floating-point number is written with the fewest digits that read back.  The
  reals that round to a finite number form an interval around it, which has its ends
  exactly if the mantissa is even.  For one, two, … digits the two decimals around
  the number are tried, and the first that lies in the interval is taken; of two the
  nearer, of two equally near the one with the even last digit.  Seventeen digits
  always suffice.

  The point stands among the digits while the number is neither very large nor very
  small; beyond that the first digit stands before the point and the power of ten
  follows.  What the formats disagree about is in a `FloatLayout`.
-/
import Folio.Number.Binary64
import Folio.Text.Digit

namespace Folio

/-! ## The shortest decimal -/

/-- A positive decimal number: `digits · 10 ^ exponent`. -/
structure Decimal where
  digits : Nat
  exponent : Int
  deriving Repr, DecidableEq

namespace Decimal

/-- The decimal without zeros at the end of its digits; `fuel` bounds their
    number. -/
def stripZeros : (fuel : Nat) → Decimal → Decimal
  | 0, d => d
  | fuel + 1, d =>
    if d.digits ≠ 0 ∧ d.digits % 10 = 0 then stripZeros fuel ⟨d.digits / 10, d.exponent + 1⟩
    else d

/-! ### Around a number -/

/-- Does the decimal `c / d` round to the number `num / den`?  The neighbours of
    the number are `gap / den` away, the lower one half as far if `halved`; a
    decimal halfway to a neighbour rounds to the number if that is `even`. -/
def hits (num den gap : Nat) (halved even : Bool) (c d : Nat) : Bool :=
  let far := 4 * max (num * d - c * den) (c * den - num * d)
  let reach := if halved && c * den < num * d then gap * d else 2 * gap * d
  far < reach || (even && far == reach)

/-- The nearest of the decimals with exponent `k` around a number that round to
    it. -/
def onGrid? (num den gap : Nat) (halved even : Bool) (k : Int) : Option Decimal :=
  let (n, d) := if 0 ≤ k then (num, den * Nat.pow 10 k.toNat) else (num * Nat.pow 10 (-k).toNat, den)
  let low := n / d
  let unit := if 0 ≤ k then (Nat.pow 10 k.toNat, 1) else (1, Nat.pow 10 (-k).toNat)
  let ok := fun c => hits num den gap halved even (c * unit.1) unit.2
  let near := n - low * d
  let far := (low + 1) * d - n
  match ok low, ok (low + 1) with
  | false, false => none
  | true, false => some ⟨low, k⟩
  | false, true => some ⟨low + 1, k⟩
  | true, true =>
    if near < far || (near = far && low % 2 = 0) then some ⟨low, k⟩ else some ⟨low + 1, k⟩

/-- The decimal exponent of the first digit of a positive quotient. -/
def firstPlace (num den : Nat) : Int :=
  let k : Int := (Nat.toDigits 10 num).length - (Nat.toDigits 10 den).length
  let below :=
    if 0 ≤ k then num < den * Nat.pow 10 k.toNat else num * Nat.pow 10 (-k).toNat < den
  if below then k - 1 else k

/-- The shortest decimal that rounds to `mantissa · 2 ^ exponent`. -/
def shortest (mantissa : Nat) (exponent : Int) : Decimal :=
  let (num, den) :=
    if 0 ≤ exponent then (mantissa * Nat.pow 2 exponent.toNat, 1)
    else (mantissa, Nat.pow 2 (-exponent).toNat)
  let gap := if 0 ≤ exponent then Nat.pow 2 exponent.toNat else 1
  let halved := mantissa == 0x10000000000000 && Binary64.minExponent < exponent
  let top := firstPlace num den
  match (List.range 17).findSome? fun i : Nat =>
      onGrid? num den gap halved (mantissa % 2 == 0) (top - (i : Int)) with
  | some d => stripZeros 20 d
  | none => ⟨num, 0⟩

end Decimal

/-! ## Layouts -/

/-- The choices of a format for floating-point numbers. -/
structure FloatLayout where
  /-- What stands for no number. -/
  nan : String
  /-- What stands for positive infinity. -/
  infinity : String
  /-- Is a point written after a single digit that a power of ten follows? -/
  pointed : Bool

namespace FloatLayout

/-- The layout of messages: `1e+20`, `inf`. -/
def plain : FloatLayout := ⟨"nan", "inf", false⟩

/-- The layout of YAML: `1.0e+20`, `.inf`. -/
def yaml : FloatLayout := ⟨".nan", ".inf", true⟩

/-- The layout of JSON: `1e+20`, `Infinity`. -/
def json : FloatLayout := ⟨"NaN", "Infinity", false⟩

/-- The power of ten after the digits: a sign and at least two digits. -/
def power (e : Int) : List Char :=
  'e' :: (if e < 0 then '-' else '+') :: Text.paddedDecimal e.natAbs 2

/-- A decimal whose first digit stands at the power `e` of ten. -/
def digits (l : FloatLayout) (ds : List Char) (e : Int) : List Char :=
  if e < -4 ∨ 16 ≤ e then
    match ds with
    | [d] => (if l.pointed then [d, '.', '0'] else [d]) ++ power e
    | d :: rest => d :: '.' :: rest ++ power e
    | [] => power e
  else if e < 0 then
    '0' :: '.' :: List.replicate (-e - 1).toNat '0' ++ ds
  else
    let whole := e.toNat + 1
    let frac := ds.drop whole
    ds.take whole ++ List.replicate (whole - ds.length) '0' ++
      '.' :: (if frac.isEmpty then ['0'] else frac)

/-- A number without its sign. -/
def magnitude (l : FloatLayout) : Binary64 → List Char
  | .finite _ 0 _ => ['0', '.', '0']
  | .finite _ m e =>
    let d := Decimal.shortest m e
    let ds := Text.decimalText d.digits
    l.digits ds (d.exponent + ds.length - 1)
  | .infinite _ => l.infinity.toList
  | .nan _ => l.nan.toList

/-- The text of a number. -/
def write (l : FloatLayout) (x : Binary64) : List Char :=
  (if x.isNegative then ['-'] else []) ++ l.magnitude x

end FloatLayout

/-- The decimal text of an integer. -/
def intText (i : Int) : List Char :=
  (if i < 0 then ['-'] else []) ++ Text.decimalText i.natAbs

end Folio
