/-
  Folio — upper and lower case.

  Uppercase maps each character on its own, some to several.  Lowercase does
  too, apart from the capital sigma, which has another small form at the end of
  a word.

  * `upper_append`: uppercase acts on each character alone;
  * `caseVariants` are the characters that agree with a character when case is
    ignored: those with the same lowercase letter, and those whose lowercase letter
    has the same capital;
  * `upperChar` may give several letters; `capital` is the first of them.
-/
import Folio.Text.CaseTable

namespace Folio.Text

/-- The uppercase of a character. -/
def upperChar (c : Char) : List Char :=
  if c.toNat < 0x80 then [c.toUpper]
  else
    match upperExpansions.lookup c.toNat with
    | some ns => ns.map Char.ofNat
    | none => [mapCase upperRuns c]

/-- A text in uppercase. -/
def upper (cs : List Char) : List Char := cs.flatMap upperChar

theorem upper_append (a b : List Char) : upper (a ++ b) = upper a ++ upper b := by
  simp [upper]

/-- The single lowercase letter of a character. -/
def lowerChar (c : Char) : Char :=
  if c.toNat < 0x80 then c.toLower
  else if c = '\u0130' then 'i'
  else mapCase lowerRuns c

/-- Does the character have case? -/
def isCased (c : Char) : Bool := casedRanges.has c.toNat

/-- Is the character passed over when the end of a word is sought? -/
def isCaseIgnorable (c : Char) : Bool := caseIgnorableRanges.has c.toNat

/-- Is the next character that counts a letter with case? -/
def meetsCased (cs : List Char) : Bool :=
  match cs.dropWhile isCaseIgnorable with
  | [] => false
  | c :: _ => isCased c

/-- A text in lowercase; `before` holds the characters before it, nearest
    first. -/
def lowerAfter : List Char → List Char → List Char
  | _, [] => []
  | before, c :: rest =>
    (if c = '\u03A3' then
        [if meetsCased before && !meetsCased rest then '\u03C2' else '\u03C3']
      else if c = '\u0130' then ['i', '\u0307']
      else [lowerChar c]) ++ lowerAfter (c :: before) rest

/-- A text in lowercase.  A capital sigma after a letter and before none is
    the last of its word. -/
def lower (cs : List Char) : List Char := lowerAfter [] cs

/-! ## Letters that differ in case only -/

/-- The small letters that share a capital with another small letter. -/
def caseTies : List (List Nat) :=
  [[0x69, 0x131], [0x73, 0x17F], [0xB5, 0x3BC], [0x345, 0x3B9, 0x1FBE], [0x390, 0x1FD3], [0x3B0,
   0x1FE3], [0x3B2, 0x3D0], [0x3B5, 0x3F5], [0x3B8, 0x3D1], [0x3BA, 0x3F0], [0x3C0, 0x3D6],
   [0x3C1, 0x3F1], [0x3C2, 0x3C3], [0x3C6, 0x3D5], [0x432, 0x1C80], [0x434, 0x1C81], [0x43E,
   0x1C82], [0x441, 0x1C83], [0x442, 0x1C84, 0x1C85], [0x44A, 0x1C86], [0x463, 0x1C87], [0x1C88,
   0xA64B], [0x1E61, 0x1E9B], [0xFB05, 0xFB06]]

/-- The small letters that agree with a small letter, itself included. -/
def agreeing (n : Nat) : List Nat := (caseTies.find? (·.contains n)).getD [n]

/-- The characters with this lowercase letter. -/
def withLower (n : Nat) : List Nat :=
  n :: ((if 0x61 ≤ n ∧ n ≤ 0x7A then [n - 0x20] else []) ++
    (if n = 0x69 then [0x130] else []) ++
    lowerRuns.filterMap fun r =>
      let m := ((n : Int) - r.shift).toNat
      if r.has m then some m else none)

/-- The characters that agree with a character when case is ignored. -/
def caseVariants (c : Char) : List Nat :=
  (agreeing (lowerChar c).toNat).flatMap withLower

/-- The first letter of the uppercase of a character. -/
def capital (c : Char) : Char := (upperChar c).headD c

end Folio.Text
