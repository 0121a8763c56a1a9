/-
  Folio — sets of characters, and white space.

  A set of characters is given by ranges of scalar values.  `isBlank` is the set of
  characters that separate words: the Unicode separators of spaces, lines and
  paragraphs, and the control characters that act as such.  `trim` removes them from
  both ends of a text.

  * `trimEnd_trimEnd`: trimming twice is trimming once.
-/
namespace Folio.Text

/-! ## Ranges -/

/-- A set of characters: the ranges of scalar values it consists of, both ends
    included, in ascending order. -/
abbrev Ranges := List (Nat × Nat)

/-- Does the character with this scalar value belong to the set? -/
def Ranges.has (rs : Ranges) (n : Nat) : Bool :=
  rs.any fun r => r.1 ≤ n && n ≤ r.2

theorem Ranges.has_iff {rs : Ranges} {n : Nat} :
    rs.has n = true ↔ ∃ r ∈ rs, r.1 ≤ n ∧ n ≤ r.2 := by
  simp [Ranges.has]

/-! ## White space -/

/-- The scalar values of the blank characters. -/
def blankRanges : Ranges :=
  [(0x09, 0x0D), (0x1C, 0x20), (0x85, 0x85), (0xA0, 0xA0), (0x1680, 0x1680),
    (0x2000, 0x200A), (0x2028, 0x2029), (0x202F, 0x202F), (0x205F, 0x205F), (0x3000, 0x3000)]

/-- Is the character white space? -/
def isBlank (c : Char) : Bool := blankRanges.has c.toNat

/-! ## Trimming -/

/-- A list without the longest run at its end on which `p` holds. -/
def dropWhileEnd {α : Type} (p : α → Bool) (xs : List α) : List α :=
  (xs.reverse.dropWhile p).reverse

/-- A text without the blank characters at its start. -/
def trimStart (cs : List Char) : List Char := cs.dropWhile isBlank

/-- A text without the blank characters at its end. -/
def trimEnd (cs : List Char) : List Char := dropWhileEnd isBlank cs

/-- A text without the blank characters at its ends. -/
def trim (cs : List Char) : List Char := trimEnd (trimStart cs)

theorem dropWhile_dropWhile {α : Type} (p : α → Bool) (xs : List α) :
    (xs.dropWhile p).dropWhile p = xs.dropWhile p := by
  induction xs with
  | nil => rfl
  | cons x xs ih => by_cases h : p x = true <;> simp [h, ih]

theorem trimEnd_trimEnd (cs : List Char) : trimEnd (trimEnd cs) = trimEnd cs := by
  simp [trimEnd, dropWhileEnd, dropWhile_dropWhile]

/-- Nothing but blank characters? -/
def allBlank (cs : List Char) : Bool := cs.all isBlank

end Folio.Text
