/-
  Folio — what scalars with a known tag stand for.

  Each conversion takes the text of a scalar.  Low lines inside numbers only
  separate digits.  Parts after colons count sixtieths.
-/
import Folio.Text.Case
import Folio.Yaml.Base64
import Folio.Yaml.Tag

namespace Folio.Yaml.Conversion

/-- The words for truth values, in lowercase. -/
def truths : List (String × Bool) :=
  [("yes", true), ("no", false), ("true", true), ("false", false), ("on", true), ("off", false)]

/-- A truth value. -/
def bool (cs : List Char) : Except Misfit Bool :=
  match truths.lookup (String.ofList (Text.lower cs)) with
  | some b => .ok b
  | none => .error .truth

/-- An integer in a base. -/
def intIn (base : Nat) (cs : List Char) : Except Misfit Int :=
  (Number.readInt base cs).mapError .number

/-- The digits of a number of base sixty, each converted on its own. -/
def parts {α : Type} (convert : List Char → Except Misfit α) (cs : List Char) :
    Except Misfit (List α) :=
  (Text.splitOn ':' cs).mapM convert

/-- An integer without its sign. -/
def magnitude (cs : List Char) : Except Misfit Int :=
  match cs with
  | [] => .error .emptyNumber
  | ['0'] => .ok 0
  | '0' :: 'b' :: rest => intIn 2 rest
  | '0' :: 'x' :: rest => intIn 16 rest
  | '0' :: _ => intIn 8 cs
  | _ =>
    if cs.contains ':' then
      (parts (intIn 10) cs).map fun ds => ds.foldl (fun n d => n * 60 + d) 0
    else intIn 10 cs

/-- An integer: binary, octal and hexadecimal ones start with a zero. -/
def int (cs : List Char) : Except Misfit Int :=
  let cs := cs.filter (· != '_')
  match cs with
  | '-' :: rest => (magnitude rest).map (- ·)
  | '+' :: rest => magnitude rest
  | _ => magnitude cs

/-- A floating-point number on its own. -/
def floatOf (cs : List Char) : Except Misfit Binary64 :=
  (Number.readFloat cs).mapError .number

/-- What a unit counts that so many places come after, each of sixtieths.  It may be
    too great for a floating-point number. -/
def sixtieths (places : Nat) : Except Misfit Binary64 :=
  match Binary64.ofInt (.ofNat (Nat.pow 60 places)) with
  | .infinite _ => .error .floatOverflow
  | x => .ok x

/-- The sum of sixtieths, the last part being the units. -/
def sumSixtieths (ds : List Binary64) : Except Misfit Binary64 :=
  (ds.reverse.zipIdx).foldlM
    (fun sum d => (sixtieths d.2).map fun unit => sum.add (d.1.mul unit)) (.zero false)

/-- A floating-point number without its sign, at a place. -/
def floatMagnitude (place : Nat) (cs : List Char) : Except Misfit Binary64 :=
  if cs = ".inf".toList then .ok (.infinite false)
  else if cs = ".nan".toList then .ok (.nan none)
  else if cs.contains ':' then (parts floatOf cs >>= sumSixtieths).map (·.comingFrom place)
  else (floatOf cs).map (·.comingFrom place)

/-- A floating-point number at a place.  Only `.nan` is the same everywhere. -/
def float (place : Nat) (cs : List Char) : Except Misfit Binary64 :=
  let cs := Text.lower (cs.filter (· != '_'))
  match cs with
  | [] => .error .emptyNumber
  | '-' :: rest => (floatMagnitude place rest).map Binary64.neg
  | '+' :: rest => floatMagnitude place rest
  | _ => floatMagnitude place cs

/-- A timestamp. -/
def timestamp (cs : List Char) : Except Misfit Timestamp :=
  match Timestamp.Fields.read? cs with
  | none => .error .timestamp
  | some f => (Timestamp.ofFields f).mapError .calendar

/-- Octets in base 64; characters beyond ASCII are a fault. -/
def binary (cs : List Char) : Except Problem Octets :=
  let ascii := fun c : Char => decide (c.toNat < 0x80)
  let start := (cs.takeWhile ascii).length
  let beyond := (cs.drop start).takeWhile fun c => !ascii c
  if beyond.isEmpty then (Base64.decode cs).mapError .base64
  else .error (.base64Text beyond start (start + beyond.length - 1))

end Folio.Yaml.Conversion
