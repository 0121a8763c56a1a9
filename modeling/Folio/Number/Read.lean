/-
  Folio — reading numbers.

  Numbers may have white space around them, a sign, digits of any script, and
  single low lines between digits.  What a text must be is said by two readers:
  `readInt` for integers in a base, `readFloat` for floating-point numbers.
-/
import Folio.Number.Binary64
import Folio.Text.Blank
import Folio.Text.Quoted

namespace Folio

/-- Why a text is not converted to a number, or a number to a text. -/
inductive NumberError where
  /-- It is no integer in this base. -/
  | notInt (base : Nat) (text : List Char)
  /-- It is an integer with more digits than are converted. -/
  | longInt (digits : Nat)
  /-- An integer has a text with more digits than are converted. -/
  | longText
  /-- It is no floating-point number. -/
  | notFloat (text : List Char)
  deriving Repr, DecidableEq

namespace Number

/-- The most decimal digits of an integer that are converted. -/
def maxDigits : Nat := 4300

end Number

/-- What a message says about a text that is no number.  A long text is cut
    off. -/
def NumberError.message : NumberError → String
  | .notInt base text =>
    "invalid literal for int() with base " ++ toString base ++ ": " ++
      String.ofList ((Text.quoted text).take 200)
  | .longInt digits =>
    "Exceeds the limit (" ++ toString Number.maxDigits ++
      " digits) for integer string conversion: value has " ++ toString digits ++
      " digits; use sys.set_int_max_str_digits() to increase the limit"
  | .longText =>
    "Exceeds the limit (" ++ toString Number.maxDigits ++
      " digits) for integer string conversion; use sys.set_int_max_str_digits() to increase the limit"
  | .notFloat text =>
    "could not convert string to float: " ++ String.ofList (Text.quoted text)

namespace Number

/-- Splits a sign off a text. -/
def sign (cs : List Char) : Bool × List Char :=
  match cs with
  | '-' :: rest => (true, rest)
  | '+' :: rest => (false, rest)
  | _ => (false, cs)

/-! ## Integers -/

/-- A text without the mark of its base, and the low line that may follow the
    mark.  The zero of the mark may be one of any script. -/
def dropBaseMark (base : Nat) (cs : List Char) : List Char :=
  let unmarked :=
    match cs with
    | zero :: c :: rest =>
      if Text.decimalValue? zero = some 0 ∧
          ((base = 16 ∧ (c = 'x' ∨ c = 'X')) ∨ (base = 8 ∧ (c = 'o' ∨ c = 'O')) ∨
            (base = 2 ∧ (c = 'b' ∨ c = 'B'))) then some rest
      else none
    | _ => none
  match unmarked with
  | some ('_' :: rest) => rest
  | some rest => rest
  | none => cs

/-- The value of a digit in a base. -/
def digitIn? (base : Nat) (c : Char) : Option Nat :=
  (Text.radixValue? c).filter (· < base)

/-- The digits in a base that the text consists of, with single low lines
    between them. -/
def digitsIn? (base : Nat) : List Char → Option (List Nat)
  | [] => none
  | [c] => (digitIn? base c).map ([·])
  | c :: '_' :: rest =>
    match digitIn? base c, digitsIn? base rest with
    | some d, some ds => some (d :: ds)
    | _, _ => none
  | c :: rest =>
    match digitIn? base c, digitsIn? base rest with
    | some d, some ds => some (d :: ds)
    | _, _ => none

/-- The value of digits in a base. -/
def ofDigits (base : Nat) (ds : List Nat) : Nat := ds.foldl (fun n d => base * n + d) 0

/-- How many digits in a base the text starts with, low lines not counted. -/
def countDigits (base : Nat) (cs : List Char) : Nat :=
  ((cs.takeWhile fun c => c == '_' || (digitIn? base c).isSome).filter (· != '_')).length

/-- The integer that a text is in a base. -/
def readInt (base : Nat) (text : List Char) : Except NumberError Int :=
  let (negative, cs) := sign (Text.trim text)
  let cs := dropBaseMark base cs
  let count := countDigits base cs
  let binary := base = 2 ∨ base = 8 ∨ base = 16
  if ¬binary ∧ maxDigits < count then .error (.longInt count)
  else
    match digitsIn? base cs with
    | some ds =>
      let n : Int := ofDigits base ds
      .ok (if negative then -n else n)
    | none => .error (.notInt base text)

/-! ## Floating-point numbers -/

/-- Decimal digits with single low lines between them, up to the first other
    character; none if a low line stands elsewhere.  The first argument says
    whether a digit comes before the text. -/
def splitDigits? : Bool → List Char → Option (List Nat × List Char)
  | _, [] => some ([], [])
  | afterDigit, c :: rest =>
    if c = '_' then
      if afterDigit && rest.head?.any Text.isDecimal then splitDigits? false rest else none
    else
      match Text.decimalValue? c with
      | none => some ([], c :: rest)
      | some d => (splitDigits? true rest).map fun r => (d :: r.1, r.2)

/-- The power of ten at the end of a number. -/
def exponent? : List Char → Option Int
  | [] => some 0
  | c :: rest =>
    if c = 'e' ∨ c = 'E' then
      let (negative, cs) := sign rest
      match splitDigits? false cs with
      | some (d :: ds, []) =>
        let n : Int := ofDigits 10 (d :: ds)
        some (if negative then -n else n)
      | _ => none
    else none

/-- The digits of a decimal number, those after the point counted. -/
def mantissa? (cs : List Char) : Option (List Nat × Nat × List Char) :=
  match splitDigits? false cs with
  | none => none
  | some (whole, '.' :: rest) =>
    match splitDigits? false rest with
    | some (frac, after) =>
      if whole.isEmpty && frac.isEmpty then none
      else some (whole ++ frac, frac.length, after)
    | none => none
  | some (whole, rest) => if whole.isEmpty then none else some (whole, 0, rest)

/-- The number that a text without sign is. -/
def unsigned? (negative : Bool) (cs : List Char) : Option Binary64 :=
  let word := String.ofList (cs.map Char.toLower)
  if word = "inf" ∨ word = "infinity" then some (.infinite negative)
  else if word = "nan" then some (.nan none)
  else
    match mantissa? cs with
    | none => none
    | some (ds, places, rest) =>
      (exponent? rest).map fun e => .ofDecimal negative (ofDigits 10 ds) (e - places)

/-- The floating-point number that a text is. -/
def readFloat (text : List Char) : Except NumberError Binary64 :=
  let (negative, cs) := sign (Text.trim text)
  match unsigned? negative cs with
  | some x => .ok x
  | none => .error (.notFloat text)

end Number

end Folio
