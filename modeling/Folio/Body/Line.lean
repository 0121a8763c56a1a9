/-
  Folio — the lines of a body.

  A line knows where it lies in the body and its text, which lacks the line
  end.  The forms that mark a heading, a fence or a list item at the start of
  a line allow the same small indentation.

  * `Line.ofOctets` are the lines of a text;
  * `stop_le_length`: they lie in it.
-/
import Folio.Text.Blank
import Folio.Text.Utf8

namespace Folio

/-- A line of a body. -/
structure Line where
  /-- The offset of its first octet. -/
  start : Nat
  /-- The offset after its line end. -/
  stop : Nat
  /-- Its text without the line end. -/
  text : List Char
  deriving Repr, DecidableEq

namespace Line

/-- The text of a line of octets. -/
def textOf (line : Octets) : List Char := Utf8.decode line.withoutLineEnd

/-- Lines that follow each other, the first at offset `start`. -/
def place (start : Nat) : List Octets → List Line
  | [] => []
  | l :: ls => ⟨start, start + l.length, textOf l⟩ :: place (start + l.length) ls

/-- The lines of a text. -/
def ofOctets (s : Octets) : List Line := place 0 s.lines

theorem start_le_of_mem_place {start : Nat} {ls : List Octets} {l : Line}
    (h : l ∈ place start ls) : start ≤ l.start ∧ l.start ≤ l.stop := by
  induction ls generalizing start with
  | nil => cases h
  | cons x ls ih =>
    rcases List.mem_cons.1 h with rfl | h
    · exact ⟨Nat.le_refl _, Nat.le_add_right _ _⟩
    · exact ⟨Nat.le_trans (Nat.le_add_right _ _) (ih h).1, (ih h).2⟩

theorem stop_le_of_mem_place {start : Nat} {ls : List Octets} {l : Line}
    (h : l ∈ place start ls) : l.stop ≤ start + ls.flatten.length := by
  induction ls generalizing start with
  | nil => cases h
  | cons x ls ih =>
    rw [List.flatten_cons, List.length_append]
    rcases List.mem_cons.1 h with rfl | h
    · exact Nat.add_le_add_left (Nat.le_add_right _ _) _
    · have := ih h
      omega

/-- A line of a text lies in it. -/
theorem stop_le_length {s : Octets} {l : Line} (h : l ∈ ofOctets s) : l.stop ≤ s.length := by
  have := stop_le_of_mem_place h
  rwa [Octets.flatten_lines, Nat.zero_add] at this

/-- Has the line no text? -/
def isBlank (l : Line) : Bool := Text.allBlank l.text

/-- Is the character a space or a tab? -/
def isSpaceOrTab (c : Char) : Bool := c == ' ' || c == '\t'

/-- A text without its indentation, if that is at most three spaces. -/
def dropIndent? (cs : List Char) : Option (List Char) :=
  if (cs.takeWhile (· == ' ')).length ≤ 3 then some (cs.dropWhile (· == ' ')) else none

end Line

end Folio
