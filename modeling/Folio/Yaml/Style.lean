/-
  Folio — the styles of scalars.

  A scalar is written plain where that reads back as it is; else between single
  quotes; else, with escapes, between double quotes.  Which of these are possible
  follows from the characters of its text, and is noted in a `Look`.

  * `Look.ofText` is the look of a text, `Style.choose` the style chosen.
-/
import Folio.Yaml.Form

namespace Folio.Yaml

/-- Does the character end a line inside a scalar that is written? -/
def isInnerBreak (c : Char) : Bool :=
  c == '\n' || c == '\u0085' || c == '\u2028' || c == '\u2029'

/-- What the characters of a text allow. -/
structure Look where
  empty : Bool
  multiline : Bool
  plain : Bool
  singleQuoted : Bool
  block : Bool
  deriving Repr, DecidableEq

namespace Look

/-- Can the character be written outside double quotes? -/
def isOrdinary (c : Char) : Bool :=
  let n := c.toNat
  c == '\n' || (0x20 ≤ n && n ≤ 0x7E) ||
    ((n == 0x85 || (0xA0 ≤ n && n ≤ 0xD7FF) || (0xE000 ≤ n && n ≤ 0xFFFD) ||
      (0x10000 ≤ n && n < 0x10FFFF)) && c != '\uFEFF')

/-- White space, a line end or the end of the text. -/
def blankAt (f : Option Char) : Bool :=
  f.all fun c => c == ' ' || c == '\t' || c == Char.ofNat 0 || isBreak c

/-- Does the first character of a text mean something at the start of a plain
    scalar? -/
def startsWithIndicator (cs : List Char) : Bool :=
  match cs with
  | [] => false
  | c :: rest =>
    "#,[]\x7b\x7d&*!|>'\"%@\x60".toList.contains c ||
      ((c == '?' || c == ':' || c == '-') && blankAt rest.head?) ||
      cs.take 3 == ['-', '-', '-'] || cs.take 3 == ['.', '.', '.']

/-- Does a colon or a number sign after the first character mean something?  The
    first argument is the character before the text. -/
def hasIndicator : (before : Char) → List Char → Bool
  | _, [] => false
  | before, c :: rest =>
    (c == ':' && blankAt rest.head?) || (c == '#' && blankAt (some before)) ||
      hasIndicator c rest

/-- Does a character with one property come right before one with another? -/
def hasPair (p q : Char → Bool) : List Char → Bool
  | a :: b :: rest => (p a && q b) || hasPair p q (b :: rest)
  | _ => false

/-- The look of a text. -/
def ofText (cs : List Char) : Look :=
  match cs with
  | [] => ⟨true, false, true, true, false⟩
  | first :: rest =>
    let isSpace := fun c : Char => c == ' '
    let edge := fun c : Char => isSpace c || isInnerBreak c
    let last := (cs.getLast?).getD first
    let breaks := cs.any isInnerBreak
    let special := cs.any fun c => !isOrdinary c
    let breakSpace := hasPair isInnerBreak isSpace cs
    let spaceBreak := hasPair isSpace isInnerBreak cs
    { empty := false
      multiline := breaks
      plain :=
        !(edge first || edge last || breakSpace || spaceBreak || special || breaks ||
          startsWithIndicator cs || hasIndicator first rest)
      singleQuoted := !(breakSpace || spaceBreak || special)
      block := !(isSpace last || spaceBreak || special) }

end Look

/-- The styles of scalars. -/
inductive Style where
  | plain
  | singleQuoted
  | doubleQuoted
  | literal
  deriving Repr, DecidableEq

namespace Style

/-- Does the plain text read back with the tag? -/
def readsBack (tag : Tag) (cs : List Char) : Bool := Tag.ofPlain true cs == tag

/-- The style of a scalar, which may be a key on one line. -/
def choose (key : Bool) (tag : Tag) (cs : List Char) : Style :=
  let look := Look.ofText cs
  if tag = .binary then
    if !key && look.block then .literal else .doubleQuoted
  else if readsBack tag cs && !(key && (look.empty || look.multiline)) && look.plain then .plain
  else if look.singleQuoted && !(key && look.multiline) then .singleQuoted
  else .doubleQuoted

/-- Must the tag be written with a scalar of this style? -/
def needsTag (s : Style) (tag : Tag) (cs : List Char) : Bool :=
  match s with
  | .plain => !readsBack tag cs
  | _ => tag != .str

end Style

end Folio.Yaml
