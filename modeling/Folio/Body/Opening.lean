/-
  Folio — lines that open something.

  * A heading line is one to six number signs and a text, kept apart by spaces or
    tabs.  A run of number signs that closes the line, kept apart likewise, is not
    part of the text.
  * A fence is a run of at least three backticks or tildes at the start of a line.
    It is closed by a line that consists of a run of the same character, not shorter
    than the first.
  * A list item starts with a bullet, or with one to nine digits and a full stop or a
    parenthesis, followed by white space or nothing.
-/
import Folio.Body.Line
import Folio.Text.Digit

namespace Folio

/-! ## Headings -/

namespace Heading

/-- The text of a heading, given what follows the opening signs and the blanks
    after them. -/
def titleOf (cs : List Char) : List Char :=
  let body := Text.dropWhileEnd Line.isSpaceOrTab cs
  let unclosed := Text.dropWhileEnd (· == '#') body
  match unclosed.getLast? with
  | some c =>
    if unclosed.length < body.length && Line.isSpaceOrTab c then
      Text.dropWhileEnd Line.isSpaceOrTab unclosed
    else body
  | none => body

/-- The level and the text of a heading line. -/
def read? (line : List Char) : Option (Nat × List Char) :=
  match Line.dropIndent? line with
  | none => none
  | some cs =>
    let level := (cs.takeWhile (· == '#')).length
    let rest := cs.dropWhile (· == '#')
    if 1 ≤ level ∧ level ≤ 6 ∧ rest.head?.all Line.isSpaceOrTab then
      some (level, Text.trim (titleOf (rest.dropWhile Line.isSpaceOrTab)))
    else none

/-- Does the line open a section? -/
def opens (line : List Char) : Bool := (read? line).isSome

end Heading

/-! ## Code fences -/

/-- The line that opens a code block. -/
structure Fence where
  /-- The character it repeats. -/
  char : Char
  /-- How often it repeats the character. -/
  count : Nat
  /-- What the line says after the run. -/
  info : List Char
  deriving Repr, DecidableEq

namespace Fence

/-- The fence that a line opens. -/
def read? (line : List Char) : Option Fence :=
  match Line.dropIndent? line with
  | none | some [] => none
  | some (c :: rest) =>
    let more := (rest.takeWhile (· == c)).length
    if (c == '\x60' || c == '~') && 2 ≤ more then
      some ⟨c, more + 1, Text.trim (rest.drop more)⟩
    else none

/-- Does the line close the fence? -/
def closedBy (f : Fence) (line : List Char) : Bool :=
  let cs := Text.trim line
  f.count ≤ cs.length && cs.all (· == f.char)

/-- Does the line open a fence? -/
def opens (line : List Char) : Bool := (read? line).isSome

end Fence

/-! ## List items -/

namespace ListItem

/-- What follows the mark of an item. -/
def afterMark? (cs : List Char) : Option (List Char) :=
  match cs with
  | [] => none
  | c :: rest =>
    if c == '-' || c == '*' || c == '+' then some rest
    else
      let digits := (cs.takeWhile Text.isDecimal).length
      match cs.drop digits with
      | d :: rest =>
        if 1 ≤ digits && digits ≤ 9 && (d == '.' || d == ')') then some rest else none
      | [] => none

/-- Does the line start a list item? -/
def opens (line : List Char) : Bool :=
  match afterMark? (Text.trimStart line) with
  | some rest => rest.head?.all Text.isBlank
  | none => false

/-- Is the line indented far enough to continue an item? -/
def continues (line : List Char) : Bool :=
  line.head? == some '\t' || line.take 2 == [' ', ' ']

end ListItem

end Folio
