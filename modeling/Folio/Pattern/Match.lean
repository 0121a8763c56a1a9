/-
  Folio — where a regular expression matches.

  An expression means a way to go on: from a place in the text it tries the ways
  to match there, in order, and with each of them what comes after, until one
  succeeds.

  * `Regex.goesOn` is this meaning, by recursion on the expression;
  * a repetition stops when it has matched nothing, so it ends;
  * `Pattern.search` tries each place of a text.
-/
import Folio.Pattern.Read
import Folio.Text.Blank
import Folio.Text.Case

namespace Folio

/-! ## Characters -/

namespace Flags

/-- The lowercase letter of a character. -/
def lower (f : Flags) (c : Char) : Char :=
  if f.contains .ascii then c.toLower else Text.lowerChar c

/-- The characters that match where a character is written. -/
def variants (f : Flags) (c : Char) : List Nat :=
  if !f.contains .ignoreCase then [c.toNat]
  else if f.contains .ascii then [c.toLower.toNat, c.toUpper.toNat]
  else Text.caseVariants c

/-- Is the character in the class? -/
def inClass (f : Flags) (c : Char) : CharClass → Bool
  | .digit => if f.contains .ascii then Text.isAsciiDigit c else Text.isDecimal c
  | .space =>
    if f.contains .ascii then c == ' ' || ('\t' ≤ c && c ≤ '\r') else Text.isBlank c
  | .word => if f.contains .ascii then c == '_' || c.isAlphanum else Text.isWord c

/-- Is the character what an item of a set lists?  Beyond the first 2^16
    characters, sets treat case in a simpler way: a single character stands for
    no capital, and a range for the capitals and small letters in it. -/
def listed (f : Flags) (c : Char) : SetItem → Bool
  | .single n =>
    if f.contains .ignoreCase && 0x10000 ≤ n then (f.lower c).toNat == n
    else (f.variants c).contains n
  | .range low high =>
    if f.contains .ignoreCase && 0x10000 ≤ high then
      let small := f.lower c
      let inRange (n : Nat) : Bool := low ≤ n && n ≤ high
      inRange small.toNat || inRange (Text.capital small).toNat ||
        (f.variants c).any fun n => n < 0x10000 && inRange n
    else (f.variants c).any fun n => low ≤ n && n ≤ high
  | .ofClass cls outside => f.inClass c cls != outside

/-- Do the characters agree? -/
def agree (f : Flags) (a b : Char) : Bool :=
  if f.contains .ignoreCase then f.lower a == f.lower b else a == b

end Flags

/-! ## Places in a text -/

/-- A place in a text, and where groups have matched so far. -/
structure Spot where
  /-- The characters before the place, nearest first. -/
  before : List Char
  position : Nat
  rest : List Char
  /-- Groups and the positions where they started, latest first. -/
  starts : List (Nat × Nat)
  /-- Groups and the positions where they ended, latest first. -/
  ends : List (Nat × Nat)

/-- A way to go on from a place, if there is one. -/
abbrev Way := Spot → Option Spot

namespace Spot

/-- Before the first character of a text. -/
def ofText (text : List Char) : Spot := ⟨[], 0, text, [], []⟩

/-- The first and the last position of what a group has matched. -/
def span? (s : Spot) (group : Nat) : Option (Nat × Nat) :=
  match s.starts.lookup group, s.ends.lookup group with
  | some a, some b => if a ≤ b then some (a, b) else none
  | _, _ => none

/-- What a group has matched. -/
def matched? (s : Spot) (group : Nat) : Option (List Char) :=
  (s.span? group).map fun (a, b) => ((s.before.drop (s.position - b)).take (b - a)).reverse

/-- Is a character of a word on exactly one side? -/
def atWordEdge (s : Spot) (f : Flags) : Bool :=
  s.before.head?.any (f.inClass · .word) != s.rest.head?.any (f.inClass · .word)

/-- Is this such a place?  An empty text has no place that depends on words. -/
def isAt (s : Spot) (f : Flags) : Place → Bool
  | .textStart => s.before.isEmpty
  | .textEnd => s.rest.isEmpty
  | .lineStart =>
    s.before.isEmpty || (f.contains .multiline && s.before.head? == some '\n')
  | .lineEnd =>
    s.rest.isEmpty || s.rest == ['\n'] || (f.contains .multiline && s.rest.head? == some '\n')
  | .wordEdge => !(s.before.isEmpty && s.rest.isEmpty) && s.atWordEdge f
  | .noWordEdge => !(s.before.isEmpty && s.rest.isEmpty) && !s.atWordEdge f

/-- The place so many characters before, if there is one. -/
def back? (s : Spot) (width : Nat) : Option Spot :=
  if s.position < width then none
  else
    some { s with
      before := s.before.drop width
      position := s.position - width
      rest := (s.before.take width).reverse ++ s.rest }

/-- Goes on after the next character, if it is one of these. -/
def step (accepts : Char → Bool) (way : Way) : Way := fun s =>
  match s.rest with
  | [] => none
  | c :: rest =>
    if accepts c then
      way { s with before := c :: s.before, position := s.position + 1, rest }
    else none

end Spot

namespace Regex

/-! ## Repetition -/

/-- Goes on after exactly `n` matches of a body. -/
def times (body : Way → Way) : (n : Nat) → Way → Way
  | 0, way, s => way s
  | n + 1, way, s => body (fun s => times body n way s) s

/-- May the body be matched once more?  Not if no more are allowed, nor if the
    last match was empty. -/
def mayRepeat (left last : Option Nat) (s : Spot) : Bool :=
  left != some 0 && last != some s.position

/-- Goes on after as many matches of a body as possible. -/
def many (body : Way → Way) (way : Way) : (fuel : Nat) → (left last : Option Nat) → Way
  | 0, _, _, s => way s
  | fuel + 1, left, last, s =>
    if mayRepeat left last s then
      (body (fun t => many body way fuel (left.map (· - 1)) (some s.position) t) s).or (way s)
    else way s

/-- Goes on after as few matches of a body as possible. -/
def few (body : Way → Way) (way : Way) : (fuel : Nat) → (left last : Option Nat) → Way
  | 0, _, _, s => way s
  | fuel + 1, left, last, s =>
    (way s).or
      (if mayRepeat left last s then
        body (fun t => few body way fuel (left.map (· - 1)) (some s.position) t) s
      else none)

/-- The place after as many matches of a body as possible, each the first of its
    kind. -/
def most (body : Way) : (fuel : Nat) → (left last : Option Nat) → Spot → Spot
  | 0, _, _, s => s
  | fuel + 1, left, last, s =>
    if mayRepeat left last s then
      match body s with
      | some t => most body fuel (left.map (· - 1)) (some s.position) t
      | none => s
    else s

/-- Goes on after a repeated body. -/
def repeating (greed : Greed) (least : Nat) (greatest : Option Nat) (body : Way → Way)
    (way : Way) : Way :=
  let left := greatest.map (· - least)
  match greed with
  | .greedy => times body least fun s => many body way (s.rest.length + 2) left none s
  | .lazy => times body least fun s => few body way (s.rest.length + 2) left none s
  | .possessive => fun s =>
    match times (fun next s => (body some s).bind next) least some s with
    | some t => way (most (body some) (t.rest.length + 2) left none t)
    | none => none

/-! ## Expressions -/

/-- Goes on after the characters of a text, if they come next. -/
def follows (f : Flags) : List Char → Way → Way
  | [], way => way
  | c :: cs, way => Spot.step (f.agree c) (follows f cs way)

/-- Goes on with what a look at the text has found, at the place it started
    from. -/
def looking (found : Option Spot) (other : Bool) (way : Way) : Way := fun s =>
  match found, other with
  | none, true => way s
  | some t, false => way { s with starts := t.starts, ends := t.ends }
  | _, _ => none

/-- Goes on after a match of an expression. -/
def goesOn (f : Flags) : Regex → Way → Way
  | empty, way => way
  | single n other, way => Spot.step (fun c => (f.variants c).contains n != other) way
  | any, way => Spot.step (fun c => c != '\n' || f.contains .dotAll) way
  | set other items, way => Spot.step (fun c => items.any (f.listed c) != other) way
  | place p, way => fun s => if s.isAt f p then way s else none
  | again g, way => fun s =>
    match s.matched? g with
    | some cs => follows f cs way s
    | none => none
  | seq first second, way => goesOn f first (goesOn f second way)
  | alt first second, way => fun s => (goesOn f first way s).or (goesOn f second way s)
  | repeated greed least greatest body, way =>
    repeating greed least greatest (goesOn f body) way
  | group none on off body, way => goesOn (f.within on off) body way
  | group (some n) on off body, way => fun s =>
    goesOn (f.within on off) body
      (fun t => way { t with ends := (n, t.position) :: t.ends })
      { s with starts := (n, s.position) :: s.starts }
  | atomic body, way => fun s => (goesOn f body some s).bind way
  | look behind other body, way => fun s =>
    let found :=
      match behind with
      | none => goesOn f body some s
      | some w => (s.back? w.least).bind (goesOn f body some)
    looking found other way s
  | whether g yes no, way => fun s =>
    if (s.span? g).isSome then goesOn f yes way s else goesOn f no way s

end Regex

/-! ## Patterns -/

/-- A pattern that is read. -/
structure Pattern where
  text : String
  flags : Flags
  body : Regex
  deriving Repr, DecidableEq

namespace Pattern

/-- Reads a pattern. -/
def ofString (text : String) : Except PatternError Pattern :=
  match Regex.ofPattern text.toList with
  | .ok (body, flags) => .ok ⟨text, flags, body⟩
  | .error e => .error e

/-- Does the pattern match from a place, or from one after it? -/
def searchFrom (p : Pattern) : (before : List Char) → (position : Nat) → List Char → Bool
  | before, position, [] => (p.body.goesOn p.flags some ⟨before, position, [], [], []⟩).isSome
  | before, position, c :: rest =>
    (p.body.goesOn p.flags some ⟨before, position, c :: rest, [], []⟩).isSome ||
      searchFrom p (c :: before) (position + 1) rest

/-- Does the pattern match somewhere in the text? -/
def search (p : Pattern) (text : String) : Bool := p.searchFrom [] 0 text.toList

end Pattern

end Folio
