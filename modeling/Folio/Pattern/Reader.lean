/-
  Folio — reading the text of a pattern.

  A pattern is read token by token; a token is a character, or a backslash with
  the character after it.  A backslash that nothing follows is an error as soon
  as it comes next.

  * `Reader` is an action that reads tokens; `takeWhile` and `name` read several;
  * `setEscape` and `escape` read what a backslash introduces.
-/
import Folio.Pattern.Regex
import Folio.Text.CharName
import Folio.Text.Identifier

namespace Folio.Pattern

/-- A character of a pattern, or a backslash with a character. -/
inductive Token where
  | plain (c : Char)
  | escaped (c : Char)
  deriving Repr, DecidableEq

/-- The token as it is written. -/
def Token.text : Token → List Char
  | .plain c => [c]
  | .escaped c => ['\\', c]

/-- What an open parenthesis has begun. -/
inductive Opening where
  | group (number : Option Nat) (on off : Flags)
  | atomic
  /-- A view behind says whether it is the outermost. -/
  | look (behind outermost other : Bool)
  | whether (group : Nat)

/-- What stands before an open parenthesis in the part it belongs to. -/
structure Frame where
  opening : Opening
  /-- The position of the parenthesis. -/
  start : Nat
  verbose : Bool
  branches : List (List Regex)
  items : List Regex

/-- How far a pattern is read. -/
structure Reading where
  rest : List Char
  position : Nat
  /-- The flags for the whole pattern. -/
  flags : Flags
  /-- The names of groups. -/
  names : List (List Char × Nat)
  /-- The widths of the groups in order, as far as they are closed. -/
  groups : List (Option Width)
  /-- The number that the first group of the outermost view behind has, or
      would have. -/
  behindFrom : Option Nat
  /-- The numbers of groups that conditionals ask for, each with a position,
      latest first. -/
  asked : List (Nat × Nat)
  /-- The open parentheses, innermost first. -/
  frames : List Frame
  verbose : Bool
  /-- The branches before this one in this part, latest first. -/
  branches : List (List Regex)
  /-- The items of this branch, latest first. -/
  items : List Regex

/-- An action that reads a pattern. -/
abbrev Reader (α : Type) := StateT Reading (Except PatternError) α

namespace Reader

/-! ## Tokens -/

/-- A fault at a position. -/
def failAt {α : Type} (fault : PatternFault) (position : Nat) : Reader α :=
  throw (.malformed fault (some position))

/-- A fault that starts this many characters before the next token. -/
def fail {α : Type} (fault : PatternFault) (back : Nat) : Reader α := do
  failAt fault ((← get).position - back)

/-- The token that a text starts with. -/
def token? : List Char → Option Token
  | [] => none
  | '\\' :: c :: _ => some (.escaped c)
  | c :: _ => some (.plain c)

/-- The next token. -/
def peek : Reader (Option Token) := return token? (← get).rest

/-- Goes on at another place, where no backslash may stand alone. -/
def goTo (rest : List Char) (position : Nat) : Reader Unit := do
  match rest with
  | ['\\'] => failAt .endOfEscape position
  | _ => modify fun r => { r with rest, position }

/-- Past the next token. -/
def next : Reader (Option Token) := do
  let r ← get
  match token? r.rest with
  | none => return none
  | some t =>
    goTo (r.rest.drop t.text.length) (r.position + t.text.length)
    return some t

/-- Past a character, if it comes next. -/
def accept (c : Char) : Reader Bool := do
  if (← peek) == some (.plain c) then
    let _ ← next
    return true
  else return false

/-- The next characters that are of one kind, at most this many. -/
def takeWhile (kind : Char → Bool) : (most : Nat) → Reader (List Char)
  | 0 => return []
  | most + 1 => do
    match ← peek with
    | some (.plain c) =>
      if kind c then
        let _ ← next
        return c :: (← takeWhile kind most)
      else return []
    | _ => return []

/-- An upper bound for the number of tokens to come. -/
def fuel : Reader Nat := return (← get).rest.length + 1

/-- The text up to a character, and past that. -/
def nameUpTo (terminator : Char) (what : String) : (fuel : Nat) → List Char → Reader (List Char)
  | 0, found => return found
  | fuel + 1, found => do
    match ← next with
    | none =>
      if found.isEmpty then fail (.missingName what) 0
      else fail (.unterminatedName terminator) found.length
    | some t =>
      if t == .plain terminator then
        if found.isEmpty then fail (.missingName what) 1 else return found
      else nameUpTo terminator what fuel (found ++ t.text)

/-- A name, and past the character that ends it. -/
def name (terminator : Char) (what : String) : Reader (List Char) := do
  nameUpTo terminator what (← fuel) []

/-! ## Escapes -/

/-- Does the character count as a letter in an escape? -/
def isEscapeLetter (c : Char) : Bool := c.isAlpha

/-- The control character of an escape. -/
def control? : Char → Option Nat
  | 'a' => some 7
  | 'b' => some 8
  | 'f' => some 12
  | 'n' => some 10
  | 'r' => some 13
  | 't' => some 9
  | 'v' => some 11
  | '\\' => some 92
  | _ => none

/-- The class of an escape, and whether it is the characters outside. -/
def class? : Char → Option (CharClass × Bool)
  | 'd' => some (.digit, false)
  | 'D' => some (.digit, true)
  | 's' => some (.space, false)
  | 'S' => some (.space, true)
  | 'w' => some (.word, false)
  | 'W' => some (.word, true)
  | _ => none

/-- The number that digits write in a base. -/
def numberIn (base : Nat) (digits : List Char) : Nat :=
  Number.ofDigits base (digits.filterMap Text.radixValue?)

/-- Is the character one of the digits 0 to 7? -/
def isOctal (c : Char) : Bool := '0' ≤ c && c ≤ '7'

/-- Is the character a hexadecimal digit? -/
def isHex (c : Char) : Bool := (Text.hexValue? c).isSome

/-- The character with a number of so many hexadecimal digits. -/
def hexEscape (letter : Char) (width : Nat) : Reader Nat := do
  let digits ← takeWhile isHex width
  let escape := '\\' :: letter :: digits
  if digits.length ≠ width then fail (.incompleteEscape escape) escape.length
  let n := numberIn 16 digits
  if 0x110000 ≤ n then fail (.badEscape escape) escape.length
  return n

/-- The character with a name. -/
def namedEscape : Reader Nat := do
  if !(← accept '\x7b') then fail .missingBrace 0
  let name ← name '\x7d' "character name"
  match Text.charNamed? (String.ofList name) with
  | some n => return n
  | none => fail (.undefinedCharacter name) (name.length + 4)

/-- The character that octal digits stand for. -/
def octal (digits : List Char) : Reader Nat := do
  let n := numberIn 8 digits
  let escape := '\\' :: digits
  if 0o377 < n then fail (.octalEscape escape) escape.length
  return n

/-- The character that a backslash and another character stand for, if they are
    read alike in sets and outside. -/
def commonEscape (c : Char) : Reader Nat := do
  match c with
  | 'x' => hexEscape 'x' 2
  | 'u' => hexEscape 'u' 4
  | 'U' => hexEscape 'U' 8
  | 'N' => namedEscape
  | _ => if isEscapeLetter c then fail (.badEscape ['\\', c]) 2 else return c.toNat

/-- What a backslash and another character stand for in a set. -/
def setEscape (c : Char) : Reader SetItem := do
  match control? c, class? c with
  | some n, _ => return .single n
  | none, some (cls, outside) => return .ofClass cls outside
  | none, none =>
    if isOctal c then return .single (← octal (c :: (← takeWhile isOctal 2)))
    else if Text.isAsciiDigit c then fail (.badEscape ['\\', c]) 2
    else return .single (← commonEscape c)

/-- The place of an escape. -/
def place? : Char → Option Place
  | 'A' => some .textStart
  | 'Z' => some .textEnd
  | 'b' => some .wordEdge
  | 'B' => some .noWordEdge
  | _ => none

/-- Refuses a group that is open, or that stands in the view behind that is
    being read. -/
def checkBehind (group : Nat) : Reader Unit := do
  let r ← get
  match r.behindFrom with
  | none => return ()
  | some first =>
    if (r.groups[group - 1]?.join).isNone then fail .openGroup 0
    if first ≤ group then fail .groupInLookBehind 0

/-- What a group has matched, when `back` characters refer to it. -/
def again (group back : Nat) : Reader Regex := do
  if ((← get).groups[group - 1]?.join).isNone then fail .openGroup back
  checkBehind group
  return .again group

/-- A group by its number, or a character by octal digits, of which the first is
    not zero. -/
def numbered (digit : Char) : Reader Regex := do
  let more ← takeWhile Text.isAsciiDigit 1
  let third ←
    if isOctal digit && !more.isEmpty && more.all isOctal then takeWhile isOctal 1
    else pure []
  let digits := digit :: (more ++ third)
  if !third.isEmpty then return .single (← octal digits) false
  else
    let group := numberIn 10 digits
    if group ≤ (← get).groups.length then again group (digits.length + 1)
    else fail (.noSuchGroup group) digits.length

/-- What a backslash and another character stand for outside of sets. -/
def escape (c : Char) : Reader Regex := do
  match place? c, class? c, control? c with
  | some p, _, _ => return .place p
  | none, some (cls, outside), _ => return .set false [.ofClass cls outside]
  | none, none, some n => return .single n false
  | none, none, none =>
    if c = '0' then
      return .single (numberIn 8 (← takeWhile isOctal 2)) false
    else if Text.isAsciiDigit c then numbered c
    else return .single (← commonEscape c) false

end Reader

end Folio.Pattern
