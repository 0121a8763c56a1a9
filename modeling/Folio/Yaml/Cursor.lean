/-
  Folio — reading a text character by character.

  A cursor stands before the characters that are still to be read and knows its
  place.  A line ends at LF, CR, CR LF, U+0085, U+2028 or U+2029; a byte order
  mark takes no column.

  * `index_advance`: reading a character moves the cursor by one;
  * `Cursor.lineBreak` reads a line end as the character it stands for.
-/
import Folio.Yaml.Error

namespace Folio.Yaml

/-- A place in a text and what follows it. -/
structure Cursor where
  rest : List Char
  mark : Mark
  deriving Repr, DecidableEq, Inhabited

namespace Cursor

/-- Before the first character of a text. -/
def ofText (text : List Char) : Cursor := ⟨text, ⟨0, 0, 0⟩⟩

/-- The next character. -/
def peek (c : Cursor) : Found := c.rest.head?

/-- The character after the next `n`. -/
def peekAt (c : Cursor) (n : Nat) : Found := (c.rest.drop n).head?

/-- The place after a character that another may follow. -/
def markAfter (m : Mark) (c : Char) (following : Found) : Mark :=
  if c == '\n' || c == '\u0085' || c == '\u2028' || c == '\u2029' ||
      (c == '\r' && following != some '\n') then
    ⟨m.index + 1, m.line + 1, 0⟩
  else if c == '\uFEFF' then ⟨m.index + 1, m.line, m.column⟩
  else ⟨m.index + 1, m.line, m.column + 1⟩

/-- After the next character. -/
def advance (c : Cursor) : Cursor :=
  match c.rest with
  | [] => c
  | ch :: rest => ⟨rest, markAfter c.mark ch rest.head?⟩

theorem index_markAfter (m : Mark) (c : Char) (f : Found) :
    (markAfter m c f).index = m.index + 1 := by
  simp only [markAfter]
  split
  · rfl
  · split <;> rfl

theorem index_advance {c : Cursor} {ch : Char} {rest : List Char} (h : c.rest = ch :: rest) :
    c.advance.mark.index = c.mark.index + 1 := by
  simp [advance, h, index_markAfter]

/-- After the next `n` characters. -/
def advanceBy (c : Cursor) : Nat → Cursor
  | 0 => c
  | n + 1 => c.advance.advanceBy n

/-- The next characters as far as `p` holds, and the cursor after them. -/
def span (p : Char → Bool) (c : Cursor) : List Char × Cursor :=
  let cs := c.rest.takeWhile p
  (cs, c.advanceBy cs.length)

/-- After the next characters as far as `p` holds. -/
def skip (p : Char → Bool) (c : Cursor) : Cursor := (c.span p).2

/-- After the next spaces. -/
def skipSpaces (c : Cursor) : Cursor := c.skip (· == ' ')

/-- An upper bound for the number of characters to come. -/
def fuel (c : Cursor) : Nat := c.rest.length + 1

/-! ## Character classes -/

/-- Does a line end here, or the text? -/
def atBreak (f : Found) : Bool := f.all isBreak

/-- Does a space, a line end or the end of the text stand here? -/
def atSpace (f : Found) : Bool := f.all fun c => c == ' ' || isBreak c

/-- Does white space stand here, or the end of the text? -/
def atBlank (f : Found) : Bool := f.all fun c => c == ' ' || c == '\t' || isBreak c

/-- Is the character one of those of a name? -/
def isNameChar (c : Char) : Bool := c.isAlphanum || c == '-' || c == '_'

/-! ## Lines -/

/-- The character that a line end stands for, and the cursor after it; nothing
    if there is no line end. -/
def lineBreak (c : Cursor) : List Char × Cursor :=
  match c.rest with
  | '\r' :: '\n' :: _ => (['\n'], c.advanceBy 2)
  | ch :: _ =>
    if ch == '\u2028' || ch == '\u2029' then ([ch], c.advance)
    else if isBreak ch then (['\n'], c.advance)
    else ([], c)
  | [] => ([], c)

/-- After a comment, if one starts here. -/
def skipComment (c : Cursor) : Cursor :=
  if c.peek == some '#' then c.skip fun ch => !isBreak ch else c

/-- Do three such characters stand here, and white space after them? -/
def atTriple (ch : Char) (c : Cursor) : Bool :=
  c.rest.take 3 == [ch, ch, ch] && atBlank (c.peekAt 3)

/-- Does a line that separates documents start here? -/
def atSeparator (c : Cursor) : Bool := c.atTriple '-' || c.atTriple '.'

end Cursor

end Folio.Yaml
