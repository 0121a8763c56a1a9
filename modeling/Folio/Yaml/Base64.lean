/-
  Folio — octets in base 64.

  Four digits are three octets.  Characters that are no digits are passed over,
  and a group of two or three digits with the padding that completes it ends the
  text.
-/
import Folio.Yaml.Error

namespace Folio.Base64

/-- The digits. -/
def alphabet : List Char :=
  "ABCDEFGHIJKLMNOPQRSTUVWXYZabcdefghijklmnopqrstuvwxyz0123456789+/".toList

/-- The value of a digit. -/
def digit? (c : Char) : Option Nat := alphabet.idxOf? c

/-- The digit of a value. -/
def digit (n : Nat) : Char := alphabet.getD n '='

/-! ## Reading -/

/-- The octets of one to three octets' digits; a single digit is none. -/
def octetsOf : List Nat → Octets
  | [a, b] => [UInt8.ofNat (a * 4 + b / 16)]
  | [a, b, c] => [UInt8.ofNat (a * 4 + b / 16), UInt8.ofNat (b % 16 * 16 + c / 4)]
  | [a, b, c, d] =>
    [UInt8.ofNat (a * 4 + b / 16), UInt8.ofNat (b % 16 * 16 + c / 4),
      UInt8.ofNat (c % 4 * 64 + d)]
  | _ => []

/-- The octets from here on; `group` holds the digits since the last whole group
    of four, `pads` counts the padding since the last digit, and `count` the
    octets before the group. -/
def decodeFrom (group : List Nat) (pads count : Nat) :
    List Char → Except Yaml.Base64Error Octets
  | [] =>
    match group with
    | [] => .ok []
    | [_] => .error (.count (count / 3 * 4 + 1))
    | _ => .error .padding
  | c :: rest =>
    if c = '=' then
      if 2 ≤ group.length ∧ 4 ≤ group.length + pads + 1 then .ok (octetsOf group)
      else if 2 ≤ group.length then decodeFrom group (pads + 1) count rest
      else decodeFrom group pads count rest
    else
      match digit? c with
      | none => decodeFrom group pads count rest
      | some d =>
        let group := group ++ [d]
        if group.length = 4 then
          match decodeFrom [] 0 (count + 3) rest with
          | .ok bs => .ok (octetsOf group ++ bs)
          | .error e => .error e
        else decodeFrom group 0 count rest

/-- The octets that a text is in base 64. -/
def decode (cs : List Char) : Except Yaml.Base64Error Octets := decodeFrom [] 0 0 cs

/-! ## Writing -/

/-- The digits of octets, with padding. -/
def encodeGroups : Octets → List Char
  | [] => []
  | [a] =>
    let a := a.toNat
    [digit (a / 4), digit (a % 4 * 16), '=', '=']
  | [a, b] =>
    let (a, b) := (a.toNat, b.toNat)
    [digit (a / 4), digit (a % 4 * 16 + b / 16), digit (b % 16 * 4), '=']
  | a :: b :: c :: rest =>
    let (a, b, c) := (a.toNat, b.toNat, c.toNat)
    digit (a / 4) :: digit (a % 4 * 16 + b / 16) :: digit (b % 16 * 4 + c / 64) ::
      digit (c % 64) :: encodeGroups rest

/-- How many octets a line holds. -/
def lineOctets : Nat := 57

/-- The digits of octets in lines, each with its line end. -/
def encodeLines : (fuel : Nat) → Octets → List Char
  | 0, _ => []
  | fuel + 1, s =>
    if s.isEmpty then []
    else encodeGroups (s.take lineOctets) ++ '\n' :: encodeLines fuel (s.drop lineOctets)

/-- The digits of octets in lines, each with its line end. -/
def encode (s : Octets) : List Char := encodeLines (s.length + 1) s

end Folio.Base64
