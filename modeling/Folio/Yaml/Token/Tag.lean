/-
  Folio — reading tags, anchors and directives.

  A tag is written out between angle brackets, or as a handle between
  exclamation marks and a suffix.  Suffixes are URIs, in which octets may be
  written in hexadecimal after a percent sign.
-/
import Folio.Yaml.Token.Basic

namespace Folio.Yaml

/-! ## URIs -/

/-- Is the character one of those of a URI? -/
def isUriChar (c : Char) : Bool :=
  Cursor.isNameChar c || ";/?:@&=+$,_.!~*'()[]%".toList.contains c

/-- The octets written in hexadecimal from here on. -/
def uriOctets (activity : Activity) (start : Mark) :
    (fuel : Nat) → Cursor → Except Error (Octets × Cursor)
  | 0, c => .ok ([], c)
  | fuel + 1, c =>
    if c.peek != some '%' then .ok ([], c)
    else
      let c := c.advance
      match (c.peekAt 0).bind Text.hexValue?, (c.peekAt 1).bind Text.hexValue? with
      | some a, some b =>
        match uriOctets activity start fuel (c.advanceBy 2) with
        | .ok (bs, c) => .ok (UInt8.ofNat (16 * a + b) :: bs, c)
        | .error e => .error e
      | none, _ =>
        .error (.marked (some (activity, some start)) (.notUriEscape (c.peekAt 0)) c.mark)
      | _, none =>
        .error (.marked (some (activity, some start)) (.notUriEscape (c.peekAt 1)) c.mark)

/-- The characters of a URI from here on. -/
def uriChars (activity : Activity) (start : Mark) :
    (fuel : Nat) → Cursor → Except Error (List Char × Cursor)
  | 0, c => .ok ([], c)
  | fuel + 1, c =>
    match c.peek with
    | none => .ok ([], c)
    | some ch =>
      if ch == '%' then do
        let place := c.mark
        let (bs, c) ← uriOctets activity start c.fuel c
        match Utf8.decode? bs with
        | .error f => throw (.marked (some (activity, some start)) (.uriOctets f) place)
        | .ok cs =>
          let (more, c) ← uriChars activity start fuel c
          return (cs ++ more, c)
      else if isUriChar ch then do
        let (more, c) ← uriChars activity start fuel c.advance
        return (ch :: more, c)
      else return ([], c)

/-- A URI that has at least one character. -/
def uri (scanning parsing : Activity) (start : Mark) (c : Cursor) :
    Except Error (List Char × Cursor) := do
  let (cs, after) ← uriChars scanning start c.fuel c
  if after.mark.index = c.mark.index then
    throw (.marked (some (parsing, some start)) (.notUri c.peek) c.mark)
  return (cs, after)

/-! ## Tags -/

/-- A handle: one exclamation mark, or a name between two. -/
def handle (activity : Activity) (start : Mark) (c : Cursor) :
    Except Error (List Char × Cursor) :=
  if c.peek != some '!' then
    .error (.marked (some (activity, some start)) (.notExclamation c.peek) c.mark)
  else if c.peekAt 1 == some ' ' then .ok (['!'], c.advance)
  else
    let (name, after) := c.advance.span Cursor.isNameChar
    if after.peek == some '!' then .ok ('!' :: name ++ ['!'], after.advance)
    else .error (.marked (some (activity, some start)) (.notExclamation after.peek) after.mark)

/-- Does another exclamation mark follow before the next space? -/
def hasHandle (c : Cursor) : Bool :=
  ((c.rest.drop 1).takeWhile fun ch => !Cursor.atSpace (some ch)).contains '!'

/-- The handle and the suffix of a tag; the cursor is before its first
    character. -/
def tagParts (start : Mark) (c : Cursor) :
    Except Error (Option (List Char) × List Char × Cursor) := do
  if c.peekAt 1 == some '<' then
    let (suffix, c) ← uri .tag .tagUri start (c.advanceBy 2)
    if c.peek != some '>' then
      throw (.marked (some (.tagUri, some start)) (.notClosed c.peek) c.mark)
    return (none, suffix, c.advance)
  else if Cursor.atBlank (c.peekAt 1) then return (none, ['!'], c.advance)
  else
    let (h, c) ← if hasHandle c then handle .tag start c else pure (['!'], c.advance)
    let (suffix, c) ← uri .tag .tagUri start c
    return (some h, suffix, c)

/-- A tag. -/
def tag (c : Cursor) : Except Error (TokenKind × Cursor) := do
  let start := c.mark
  let (h, suffix, c) ← tagParts start c
  if !Cursor.atSpace c.peek then
    throw (.marked (some (.tag, some start)) (.notSpace c.peek) c.mark)
  return (.tag h suffix, c)

/-! ## Anchors -/

/-- Can the character follow the name of an anchor? -/
def endsName (f : Found) : Bool :=
  Cursor.atBlank f || f.any fun c => "?:,]\x7d%@\x60".toList.contains c

/-- The name after the sign of an anchor or an alias. -/
def anchorName (activity : Activity) (c : Cursor) : Except Error (List Char × Cursor) :=
  let start := c.mark
  let (name, after) := c.advance.span Cursor.isNameChar
  if name.isEmpty || !endsName after.peek then
    .error (.marked (some (activity, some start)) (.notAlphanumeric after.peek) after.mark)
  else .ok (name, after)

/-! ## Directives -/

/-- A number in a directive. -/
def directiveNumber (start : Mark) (c : Cursor) : Except Error (Nat × Cursor) :=
  let (digits, after) := c.span Text.isAsciiDigit
  if digits.isEmpty then
    .error (.marked (some (.directive, some start)) (.notDigit c.peek) c.mark)
  else if Number.maxDigits < digits.length then
    .error (.misfit (.number (.longInt digits.length)))
  else .ok (Text.decimalNumber digits, after)

/-- The version after the name of its directive. -/
def version (start : Mark) (c : Cursor) : Except Error (TokenKind × Cursor) := do
  let (major, c) ← directiveNumber start c.skipSpaces
  if c.peek != some '.' then
    throw (.marked (some (.directive, some start)) (.notDigitOrPoint c.peek) c.mark)
  let (minor, c) ← directiveNumber start c.advance
  if !Cursor.atSpace c.peek then
    throw (.marked (some (.directive, some start)) (.notDigitOrSpace c.peek) c.mark)
  return (.version major minor, c)

/-- The handle and the URI after the name of their directive. -/
def handleDirective (start : Mark) (c : Cursor) : Except Error (TokenKind × Cursor) := do
  let (h, c) ← handle .directive start c.skipSpaces
  if c.peek != some ' ' then
    throw (.marked (some (.directive, some start)) (.notSpace c.peek) c.mark)
  let (u, c) ← uri .directive .directiveUri start c.skipSpaces
  if !Cursor.atSpace c.peek then
    throw (.marked (some (.directive, some start)) (.notSpace c.peek) c.mark)
  return (.handle h u, c)

/-- A directive: the token, where it stops, and the cursor on the next line. -/
def directive (c : Cursor) : Except Error (TokenKind × Mark × Cursor) := do
  let start := c.mark
  let (name, c) := c.advance.span Cursor.isNameChar
  if name.isEmpty || !Cursor.atSpace c.peek then
    throw (.marked (some (.directive, some start)) (.notAlphanumeric c.peek) c.mark)
  let (kind, c, stop) ←
    if name == "YAML".toList then
      (version start c).map fun (k, c) => (k, c, c.mark)
    else if name == "TAG".toList then
      (handleDirective start c).map fun (k, c) => (k, c, c.mark)
    else
      pure (.otherDirective, c.skip fun ch => !isBreak ch, c.mark)
  let c := c.skipSpaces.skipComment
  if !Cursor.atBreak c.peek then
    throw (.marked (some (.directive, some start)) (.notCommentOrBreak c.peek) c.mark)
  return (kind, stop, c.lineBreak.2)

end Folio.Yaml
