/-
  Folio — UTF-8.

  A decoder reads the octets one by one.  Between two octets it is either at
  the boundary of two characters or inside one (`Partly`), and then it knows
  which octets may come next.

  * `decode` never fails: each maximal run of octets that starts a character
    but does not complete it is read as one replacement character;
  * `decode?` accepts well-formed text only, and says otherwise where the
    first fault is and of which kind (`Fault`);
  * `encode` is the inverse direction.
-/
import Folio.Text.Digit
import Folio.Text.Octets

namespace Folio.Utf8

/-! ## One octet -/

/-- A character whose first octets are read. -/
structure Partly where
  /-- The bits read so far. -/
  bits : Nat
  /-- How many octets are read. -/
  width : Nat
  /-- How many octets follow the next one. -/
  more : Nat
  /-- The least value of the next octet. -/
  low : Nat
  /-- The greatest value of the next octet. -/
  high : Nat
  deriving Repr, DecidableEq

/-- What an octet at the boundary of two characters starts. -/
inductive Lead where
  /-- A character of one octet. -/
  | whole (c : Char)
  /-- A longer character. -/
  | opens (p : Partly)
  /-- Nothing. -/
  | none

/-- The first octet of a character fixes its width.  The bounds on the second
    octet exclude overlong forms, surrogates and values past U+10FFFF. -/
def lead (b : UInt8) : Lead :=
  let n := b.toNat
  if n < 0x80 then .whole (Char.ofNat n)
  else if n < 0xC2 then .none
  else if n < 0xE0 then .opens ⟨n - 0xC0, 1, 0, 0x80, 0xBF⟩
  else if n = 0xE0 then .opens ⟨0, 1, 1, 0xA0, 0xBF⟩
  else if n = 0xED then .opens ⟨0xD, 1, 1, 0x80, 0x9F⟩
  else if n < 0xF0 then .opens ⟨n - 0xE0, 1, 1, 0x80, 0xBF⟩
  else if n = 0xF0 then .opens ⟨0, 1, 2, 0x90, 0xBF⟩
  else if n < 0xF4 then .opens ⟨n - 0xF0, 1, 2, 0x80, 0xBF⟩
  else if n = 0xF4 then .opens ⟨4, 1, 2, 0x80, 0x8F⟩
  else .none

/-- The character with one octet more, or what is still open of it; nothing if
    the octet cannot follow. -/
def Partly.next? (p : Partly) (b : UInt8) : Option (Char ⊕ Partly) :=
  let n := b.toNat
  if p.low ≤ n ∧ n ≤ p.high then
    let bits := p.bits * 64 + (n - 0x80)
    match p.more with
    | 0 => some (.inl (Char.ofNat bits))
    | m + 1 => some (.inr ⟨bits, p.width + 1, m, 0x80, 0xBF⟩)
  else none

/-! ## Reading that never fails -/

/-- The character that stands for octets that are no character. -/
def replacement : Char := '\uFFFD'

/-- The characters of `s` after an unfinished character `p`, if any. -/
def decodeFrom : Option Partly → Octets → List Char
  | none, [] => []
  | some _, [] => [replacement]
  | none, b :: rest =>
    match lead b with
    | .whole c => c :: decodeFrom none rest
    | .opens p => decodeFrom (some p) rest
    | .none => replacement :: decodeFrom none rest
  | some p, b :: rest =>
    match p.next? b with
    | some (.inl c) => c :: decodeFrom none rest
    | some (.inr q) => decodeFrom (some q) rest
    | none =>
      match lead b with
      | .whole c => replacement :: c :: decodeFrom none rest
      | .opens q => replacement :: decodeFrom (some q) rest
      | .none => replacement :: replacement :: decodeFrom none rest

/-- The text of some octets, with U+FFFD for each maximal run of octets that
    begins a character and does not complete it. -/
def decode (s : Octets) : List Char := decodeFrom none s

theorem length_decodeFrom_le (p : Option Partly) (s : Octets) :
    (decodeFrom p s).length ≤ p.toList.length + s.length := by
  fun_induction decodeFrom p s <;> simp_all <;> omega

/-- A text has no more characters than octets. -/
theorem length_decode_le (s : Octets) : (decode s).length ≤ s.length := by
  have h := length_decodeFrom_le none s
  rwa [Option.toList_none, List.length_nil, Nat.zero_add] at h

/-! ## Reading well-formed text -/

/-- Why octets are no text. -/
inductive FaultKind where
  /-- No character starts with this octet. -/
  | start
  /-- A character is not continued. -/
  | continuation
  /-- The text ends inside a character. -/
  | ending
  deriving Repr, DecidableEq

/-- The first place where octets are no text: the unfinished character starts
    at `position` with `octets`. -/
structure Fault where
  kind : FaultKind
  position : Nat
  octets : Octets
  deriving Repr, DecidableEq

/-- What a message says about a fault. -/
def Fault.message (f : Fault) : String :=
  let cause :=
    match f.kind with
    | .start => "invalid start byte"
    | .continuation => "invalid continuation byte"
    | .ending => "unexpected end of data"
  match f.octets with
  | [b] =>
    "'utf-8' codec can't decode byte 0x" ++ String.ofList (Text.hexText b.toNat 2) ++
      " in position " ++ toString f.position ++ ": " ++ cause
  | bs =>
    "'utf-8' codec can't decode bytes in position " ++ toString f.position ++ "-" ++
      toString (f.position + bs.length - 1) ++ ": " ++ cause

/-- Reads well-formed text; `position` counts the octets before `s`, and
    `opened` holds those of the unfinished character, latest first. -/
def decodeFrom? (position : Nat) :
    Option (Partly × Octets) → Octets → Except Fault (List Char)
  | none, [] => .ok []
  | some (_, opened), [] => .error ⟨.ending, position - opened.length, opened.reverse⟩
  | none, b :: rest =>
    match lead b with
    | .whole c => (c :: ·) <$> decodeFrom? (position + 1) none rest
    | .opens p => decodeFrom? (position + 1) (some (p, [b])) rest
    | .none => .error ⟨.start, position, [b]⟩
  | some (p, opened), b :: rest =>
    match p.next? b with
    | some (.inl c) => (c :: ·) <$> decodeFrom? (position + 1) none rest
    | some (.inr q) => decodeFrom? (position + 1) (some (q, b :: opened)) rest
    | none => .error ⟨.continuation, position - opened.length, opened.reverse⟩

/-- The text of some octets, if they are one. -/
def decode? (s : Octets) : Except Fault (List Char) := decodeFrom? 0 none s

/-! ## Writing -/

/-- The octets of a text. -/
def encode (cs : List Char) : Octets := cs.flatMap String.utf8EncodeChar

theorem encode_append (a b : List Char) : encode (a ++ b) = encode a ++ encode b := by
  simp [encode]

/-- The octets of a text. -/
def ofString (s : String) : Octets := encode s.toList

end Folio.Utf8
