/-
  Folio — reading scalars.

  A scalar is plain, between quotes, or a block of indented lines.  In all three
  a single line end inside folds into a space and further ones are kept, but for
  literal blocks, which keep every line end.

  * `Scalar.plain`, `Scalar.quoted` and `Scalar.block` read a scalar from its
    first character on.
-/
import Folio.Yaml.Token.Basic

namespace Folio.Yaml.Scalar

/-- What a run of line ends folds into: the first, if it is an ordinary one,
    is a space unless others follow. -/
def fold (first breaks : List Char) : List Char :=
  (if first ≠ ['\n'] then first else if breaks.isEmpty then [' '] else []) ++ breaks

/-! ## Plain scalars -/

/-- The characters that separate plain scalars inside brackets. -/
def isFlowIndicator (c : Char) : Bool :=
  c == ',' || c == '[' || c == ']' || c == '\x7b' || c == '\x7d'

/-- Does a colon before this character end a plain scalar? -/
def endsAtColon (flow : Bool) (following : Found) : Bool :=
  Cursor.atBlank following || (flow && following.any isFlowIndicator)

/-- The part of a plain scalar up to white space. -/
def plainWord (flow : Bool) : List Char → List Char
  | [] => []
  | c :: rest =>
    if Cursor.atBlank (some c) || (c == ':' && endsAtColon flow rest.head?) ||
        (flow && (isFlowIndicator c || c == '?')) then []
    else c :: plainWord flow rest

/-- The further line ends between two words, each with the spaces around it;
    nothing if a line separates documents. -/
def plainBreaks : (fuel : Nat) → Cursor → Option (List Char) × Cursor
  | 0, c => (some [], c)
  | fuel + 1, c =>
    match c.peek with
    | some ch =>
      if ch == ' ' then plainBreaks fuel c.advance
      else if isBreak ch then
        let (b, c) := c.lineBreak
        if c.atSeparator then (none, c)
        else
          let (bs, c) := plainBreaks fuel c
          (bs.map (b ++ ·), c)
      else (some [], c)
    | none => (some [], c)

/-- What lies between two words, the cursor after it, and whether that is on
    another line. -/
def plainGap (c : Cursor) : List Char × Cursor × Bool :=
  let (spaces, c) := c.span (· == ' ')
  if c.peek.any isBreak then
    let (first, c) := c.lineBreak
    if c.atSeparator then ([], c, true)
    else
      match plainBreaks c.fuel c with
      | (some breaks, c) => (fold first breaks, c, true)
      | (none, c) => ([], c, true)
  else (spaces, c, false)

/-- A plain scalar from a word on, after `gap`; the place after its last word,
    the cursor, and whether that is on another line than the last word. -/
def plainFrom (flow : Bool) (indent : Nat) :
    (fuel : Nat) → (gap : List Char) → Cursor → (stop : Mark) → (newLine : Bool) →
      List Char × Mark × Cursor × Bool
  | 0, _, c, stop, newLine => ([], stop, c, newLine)
  | fuel + 1, gap, c, stop, newLine =>
    let word := plainWord flow c.rest
    if c.peek == some '#' || word.isEmpty then ([], stop, c, newLine)
    else
      let c := c.advanceBy word.length
      let stop := c.mark
      let (next, c, newLine) := plainGap c
      if next.isEmpty || c.peek == some '#' || (!flow && c.mark.column < indent) then
        (gap ++ word, stop, c, newLine)
      else
        let (more, stop, c, newLine) := plainFrom flow indent fuel next c stop newLine
        (gap ++ word ++ more, stop, c, newLine)

/-- A plain scalar inside a collection with indentation `indent - 1`: its text,
    where it stops, the cursor, and whether a line end was read after it. -/
def plain (flow : Bool) (indent : Nat) (c : Cursor) : List Char × Mark × Cursor × Bool :=
  plainFrom flow indent c.fuel [] c c.mark false

/-! ## Quoted scalars -/

/-- The character of an escape that is a single letter or sign. -/
def escaped? : Char → Option Char
  | '0' => some (Char.ofNat 0)
  | 'a' => some '\x07'
  | 'b' => some '\x08'
  | 't' => some '\t'
  | '\t' => some '\t'
  | 'n' => some '\n'
  | 'v' => some '\x0b'
  | 'f' => some '\x0c'
  | 'r' => some '\r'
  | 'e' => some '\x1b'
  | ' ' => some ' '
  | '"' => some '"'
  | '\\' => some '\\'
  | '/' => some '/'
  | 'N' => some '\u0085'
  | '_' => some '\u00a0'
  | 'L' => some '\u2028'
  | 'P' => some '\u2029'
  | _ => none

/-- How many hexadecimal digits follow the letter of an escape. -/
def escapeWidth? : Char → Option Nat
  | 'x' => some 2
  | 'u' => some 4
  | 'U' => some 8
  | _ => none

/-- The line ends after a first one, and the white space around them. -/
def quotedBreaks (start : Mark) : (fuel : Nat) → Cursor → Except Error (List Char × Cursor)
  | 0, c => .ok ([], c)
  | fuel + 1, c =>
    if c.atSeparator then
      .error (.marked (some (.quoted, some start)) .documentSeparator c.mark)
    else
      let c := c.skip fun ch => ch == ' ' || ch == '\t'
      if c.peek.any isBreak then
        let (b, c) := c.lineBreak
        match quotedBreaks start fuel c with
        | .ok (bs, c) => .ok (b ++ bs, c)
        | .error e => .error e
      else .ok ([], c)

/-- The white space between the words of a quoted scalar. -/
def quotedGap (start : Mark) (c : Cursor) : Except Error (List Char × Cursor) :=
  let (spaces, c) := c.span fun ch => ch == ' ' || ch == '\t'
  match c.peek with
  | none => .error (.marked (some (.quoted, some start)) .endOfStream c.mark)
  | some ch =>
    if isBreak ch then
      let (first, c) := c.lineBreak
      match quotedBreaks start c.fuel c with
      | .ok (breaks, c) => .ok (fold first breaks, c)
      | .error e => .error e
    else .ok (spaces, c)

/-- The character with a number.  Half of a pair is none. -/
def charOf (n : Nat) : Except Error (List Char) :=
  if n.isValidChar then .ok [Char.ofNat n]
  else if n < 0x110000 then .error (.misfit (.unclear .surrogate))
  else if n < 0x80000000 then .error (.misfit .characterRange)
  else .error (.misfit .characterOverflow)

/-- The value of hexadecimal digits. -/
def hexNumber (cs : List Char) : Nat :=
  (cs.filterMap Text.hexValue?).foldl (fun n d => 16 * n + d) 0

/-- The first of the next `count` characters that is no hexadecimal digit. -/
def notHex? (count : Nat) (c : Cursor) : Option Found :=
  (((List.range count).map c.peekAt).find? fun f => (f.bind Text.hexValue?).isNone)

/-- What an escape stands for; the cursor is after the backslash. -/
def escape (start : Mark) (c : Cursor) : Except Error (List Char × Cursor) :=
  let bad := .error (.marked (some (.doubleQuoted, some start)) (.unknownEscape c.peek) c.mark)
  match c.peek with
  | none => bad
  | some ch =>
    match escaped? ch, escapeWidth? ch with
    | some r, _ => .ok ([r], c.advance)
    | none, some width =>
      let c := c.advance
      match notHex? width c with
      | some f =>
        .error (.marked (some (.doubleQuoted, some start)) (.notHexadecimal width f) c.mark)
      | none =>
        match charOf (hexNumber (c.rest.take width)) with
        | .ok cs => .ok (cs, c.advanceBy width)
        | .error e => .error e
    | none, none =>
      if isBreak ch then quotedBreaks start c.fuel c.lineBreak.2 else bad

/-- Does the character end a word of a quoted scalar, or mean something
    special in it? -/
def isQuotedSpecial (c : Char) : Bool :=
  c == '\'' || c == '"' || c == '\\' || Cursor.atBlank (some c)

/-- A word of a quoted scalar, its escapes replaced. -/
def quotedWord (double : Bool) (start : Mark) :
    (fuel : Nat) → Cursor → Except Error (List Char × Cursor)
  | 0, c => .ok ([], c)
  | fuel + 1, c => do
    let (word, c) := c.span fun ch => !isQuotedSpecial ch
    match c.peek with
    | none => return (word, c)
    | some ch =>
      if ch == '\'' && !double && c.peekAt 1 == some '\'' then
        let (more, c) ← quotedWord double start fuel (c.advanceBy 2)
        return (word ++ '\'' :: more, c)
      else if (double && ch == '\'') || (!double && (ch == '"' || ch == '\\')) then
        let (more, c) ← quotedWord double start fuel c.advance
        return (word ++ ch :: more, c)
      else if double && ch == '\\' then
        let (piece, c) ← escape start c.advance
        let (more, c) ← quotedWord double start fuel c
        return (word ++ piece ++ more, c)
      else return (word, c)

/-- The rest of a quoted scalar after a word. -/
def quotedFrom (double : Bool) (start : Mark) :
    (fuel : Nat) → Cursor → Except Error (List Char × Cursor)
  | 0, c => .ok ([], c)
  | fuel + 1, c =>
    if c.peek == some (if double then '"' else '\'') then .ok ([], c.advance)
    else do
      let (gap, c) ← quotedGap start c
      let (word, c) ← quotedWord double start c.fuel c
      let (more, c) ← quotedFrom double start fuel c
      return (gap ++ word ++ more, c)

/-- A quoted scalar; the cursor is before its first quote. -/
def quoted (double : Bool) (c : Cursor) : Except Error (List Char × Cursor) := do
  let start := c.mark
  let (word, c) ← quotedWord double start c.fuel c.advance
  let (more, c) ← quotedFrom double start c.fuel c
  return (word ++ more, c)

/-! ## Block scalars -/

/-- What becomes of the line ends at the end of a block scalar. -/
inductive Chomping where
  /-- None is kept. -/
  | strip
  /-- One is kept. -/
  | clip
  /-- All are kept. -/
  | keep
  deriving Repr, DecidableEq

/-- The chomping that a sign asks for. -/
def chomping? : Found → Option Chomping
  | some '+' => some .keep
  | some '-' => some .strip
  | _ => none

/-- The indentation that a digit asks for. -/
def increment? (start : Mark) (c : Cursor) : Except Error (Option Nat × Cursor) :=
  match c.peek with
  | some ch =>
    if Text.isAsciiDigit ch then
      if ch == '0' then
        .error (.marked (some (.blockScalar, some start)) .zeroIndentation c.mark)
      else .ok (some (ch.toNat - 0x30), c.advance)
    else .ok (none, c)
  | none => .ok (none, c)

/-- The header of a block scalar: a sign and a digit in either order, then the
    end of the line. -/
def blockHeader (start : Mark) (c : Cursor) :
    Except Error (Chomping × Option Nat × Cursor) := do
  let (chomping, increment, c) ← indicators
  if !Cursor.atSpace c.peek then
    throw (.marked (some (.blockScalar, some start)) (.notBlockHeader c.peek) c.mark)
  let c := c.skipSpaces.skipComment
  if !Cursor.atBreak c.peek then
    throw (.marked (some (.blockScalar, some start)) (.notCommentOrBreak c.peek) c.mark)
  return (chomping, increment, c.lineBreak.2)
where
  indicators : Except Error (Chomping × Option Nat × Cursor) := do
    match chomping? c.peek with
    | some chomping =>
      let (increment, c) ← increment? start c.advance
      return (chomping, increment, c)
    | none =>
      let (increment, c) ← increment? start c
      match increment, chomping? c.peek with
      | some n, some chomping => return (chomping, some n, c.advance)
      | _, _ => return (.clip, increment, c)

/-- The blank lines before the first line of a block, and the greatest
    indentation among them and that line. -/
def blockIndentation : (fuel : Nat) → Cursor → (deepest : Nat) → List Char × Nat × Cursor
  | 0, c, deepest => ([], deepest, c)
  | fuel + 1, c, deepest =>
    match c.peek with
    | some ch =>
      if isBreak ch then
        let (b, c) := c.lineBreak
        let (bs, deepest, c) := blockIndentation fuel c deepest
        (b ++ bs, deepest, c)
      else if ch == ' ' then
        blockIndentation fuel c.advance (max deepest c.advance.mark.column)
      else ([], deepest, c)
    | none => ([], deepest, c)

/-- After the spaces up to a column. -/
def skipIndent (indent : Nat) (c : Cursor) : Cursor :=
  c.advanceBy ((c.rest.take (indent - c.mark.column)).takeWhile (· == ' ')).length

/-- The blank lines from here on, and the cursor after the indentation of the
    next line. -/
def blockBreaks (indent : Nat) : (fuel : Nat) → Cursor → List Char × Cursor
  | 0, c => ([], c)
  | fuel + 1, c =>
    let c := skipIndent indent c
    if c.peek.any isBreak then
      let (b, c) := c.lineBreak
      let (bs, c) := blockBreaks indent fuel c
      (b ++ bs, c)
    else ([], c)

/-- Does a line of a block start with a space or a tab? -/
def isShifted (c : Cursor) : Bool := c.peek.any fun ch => ch == ' ' || ch == '\t'

/-- The lines of a block from here on, after blank lines `breaks`; the last line
    end and the blank lines after it stand apart. -/
def blockLines (folded : Bool) (indent : Nat) :
    (fuel : Nat) → (breaks : List Char) → Cursor → (last : List Char) →
      List Char × List Char × List Char × Cursor
  | 0, breaks, c, last => ([], last, breaks, c)
  | fuel + 1, breaks, c, last =>
    if c.mark.column == indent && c.peek.isSome then
      let shifted := isShifted c
      let (line, c) := c.span fun ch => !isBreak ch
      let (last, c) := c.lineBreak
      let (next, c) := blockBreaks indent c.fuel c
      if c.mark.column == indent && c.peek.isSome then
        let joint :=
          if folded && last == ['\n'] && !shifted && !isShifted c then
            (if next.isEmpty then [' '] else [])
          else last
        let (more, last, after, c) := blockLines folded indent fuel next c last
        (breaks ++ line ++ joint ++ more, last, after, c)
      else (breaks ++ line, last, next, c)
    else ([], last, breaks, c)

/-- A block scalar inside a collection with an indentation; the cursor is before
    its first sign. -/
def block (folded : Bool) (indent : Int) (c : Cursor) : Except Error (List Char × Cursor) := do
  let start := c.mark
  let (chomping, increment, c) ← blockHeader start c.advance
  let least := (max (indent + 1) 1).toNat
  let (breaks, column, c) :=
    match increment with
    | none =>
      let (breaks, deepest, c) := blockIndentation c.fuel c 0
      (breaks, max least deepest, c)
    | some n =>
      let column := least + n - 1
      let (breaks, c) := blockBreaks column c.fuel c
      (breaks, column, c)
  let (text, last, after, c) := blockLines folded column c.fuel breaks c []
  let tail :=
    match chomping with
    | .strip => []
    | .clip => last
    | .keep => last ++ after
  return (text ++ tail, c)

end Folio.Yaml.Scalar
