/-
  Folio — the words of a command line.

  A word that starts with a dash is an option, if it is not alone and no number;
  an option may be shortened as long as only one begins like it.  All other words
  go to the places that a grammar has for them.  After a word of two dashes there
  are no options.

  * `Grammar.read` reads words by a grammar.  It does so from left to right, so
    that a call for help counts if no error comes before it.
-/
import Folio.Number.Read

namespace Folio

/-- What an option takes. -/
inductive OptionKind where
  /-- Nothing: it calls for help. -/
  | help
  /-- Nothing. -/
  | flag
  | text
  | number
  deriving Repr, DecidableEq

/-- Does an option of this kind take a value? -/
def OptionKind.takesValue : OptionKind → Bool
  | text | number => true
  | help | flag => false

/-- An option. -/
structure OptionRule where
  /-- The long name, without dashes. -/
  name : String
  /-- The letter that stands for it after a single dash. -/
  letter : Option Char
  kind : OptionKind
  deriving Repr, DecidableEq

/-- A place for words that are no options. -/
inductive WordPlace where
  /-- One word. -/
  | one
  /-- One word or more. -/
  | several
  /-- A word and all that follows it. -/
  | command
  deriving Repr, DecidableEq

/-- What words a command line may have. -/
structure Grammar where
  options : List OptionRule
  places : List WordPlace

/-- Why the words of a command line are not followed. -/
inductive WordStop where
  /-- They call for help. -/
  | help
  /-- They are wrong. -/
  | wrong
  /-- Nothing is left of a value: one word of two dashes is taken from the words
      of a place or an option, and it was the only one. -/
  | noValue
  deriving Repr, DecidableEq

/-- What an option is given. -/
inductive OptionValue where
  | on
  | text (s : String)
  | number (i : Int)
  deriving Repr, DecidableEq

/-- The words of a command line, as a grammar reads them. -/
structure Reading where
  /-- The options and their values, in order. -/
  options : List (String × OptionValue)
  /-- The words of each place. -/
  places : List (List String)
  /-- Words that nothing takes. -/
  extra : List String
  deriving Repr, DecidableEq

/-- A word and what it may be. -/
inductive Word where
  | plain (s : String)
  /-- Two dashes. -/
  | dashes
  /-- An option, by its long name or its letter, and what is written after it in
      one word. -/
  | option (s : String) (rule : OptionRule) (byLetter : Bool) (attached : Option (List Char))
  /-- What looks like an option but is none. -/
  | unknown (s : String)

namespace Word

/-- The word as it is written. -/
def written : Word → String
  | plain s | option s _ _ _ | unknown s => s
  | dashes => "--"

/-- Is it an option, or does it look like one? -/
def isOption : Word → Bool
  | plain _ | dashes => false
  | option .. | unknown _ => true

end Word

namespace Grammar

/-! ## What a word is -/

/-- The option with a letter. -/
def withLetter? (g : Grammar) (c : Char) : Option OptionRule :=
  g.options.find? (·.letter == some c)

/-- Cuts a word at its first equals sign. -/
def cutAtEquals (cs : List Char) : List Char × Option (List Char) :=
  (cs.takeWhile (· != '='),
    match cs.dropWhile (· != '=') with
    | [] => none
    | _ :: value => some value)

/-- Is what follows a dash a negative number?  A line feed may end it. -/
def isNumber (cs : List Char) : Bool :=
  let cs := if cs.getLast? = some '\n' then cs.dropLast else cs
  match cs.dropWhile Text.isDecimal with
  | [] => !cs.isEmpty
  | c :: fraction => c == '.' && !fraction.isEmpty && fraction.all Text.isDecimal

/-- A word that is no known option: it is plain if it is a number or has a
    space. -/
def noOption (word : String) (afterDash : List Char) : Word :=
  if isNumber afterDash || word.toList.contains ' ' then .plain word else .unknown word

/-- A word that starts with two dashes and goes on with `cs`. -/
def longWord (g : Grammar) (word : String) (cs : List Char) : Except WordStop Word :=
  let (name, value) := cutAtEquals cs
  match g.options.find? (·.name.toList == name) with
  | some rule => .ok (.option word rule false value)
  | none =>
    match g.options.filter fun o => name.isPrefixOf o.name.toList with
    | [] => .ok (noOption word ('-' :: cs))
    | [rule] => .ok (.option word rule false value)
    | _ => .error .wrong

/-- A word that starts with one dash and goes on with `c` and `cs`. -/
def shortWord (g : Grammar) (word : String) (c : Char) (cs : List Char) : Word :=
  match g.withLetter? c with
  | none => noOption word (c :: cs)
  | some rule =>
    match cs with
    | [] => .option word rule true none
    | '=' :: value => .option word rule true (some value)
    | cs => .option word rule true (some cs)

/-- What a word is where options are. -/
def word (g : Grammar) (s : String) : Except WordStop Word :=
  match s.toList with
  | '-' :: '-' :: cs => g.longWord s cs
  | '-' :: c :: cs => .ok (g.shortWord s c cs)
  | _ => .ok (.plain s)

/-- What words are. -/
def words (g : Grammar) : List String → Except WordStop (List Word)
  | [] => .ok []
  | s :: ss =>
    if s = "--" then .ok (.dashes :: ss.map .plain)
    else
      match g.word s with
      | .error e => .error e
      | .ok w => (g.words ss).map (w :: ·)

/-! ## Options -/

/-- An option that nothing is attached to takes its value from the next word. -/
def alone (rule : OptionRule) (rest : List Word) :
    Except WordStop (List (OptionRule × String) × List Word) :=
  if rule.kind.takesValue then
    match rest with
    | .plain s :: rest => .ok ([(rule, s)], rest)
    | _ => .error .wrong
  else .ok ([(rule, "")], rest)

/-- Options that are given by letters: what is attached to one that takes nothing
    is more letters. -/
def letters (g : Grammar) (rule : OptionRule) (rest : List Word) :
    List Char → Except WordStop (List (OptionRule × String) × List Word)
  | [] => alone rule rest
  | c :: cs =>
    if rule.kind.takesValue then .ok ([(rule, String.ofList (c :: cs))], rest)
    else
      match g.withLetter? c with
      | none => .error .wrong
      | some next => (g.letters next rest cs).map fun r => ((rule, "") :: r.1, r.2)

/-- The options in a word, with their values, and the words that are left. -/
def optionsIn (g : Grammar) (rule : OptionRule) (byLetter : Bool) (rest : List Word) :
    Option (List Char) → Except WordStop (List (OptionRule × String) × List Word)
  | none => alone rule rest
  | some attached =>
    if rule.kind.takesValue then .ok ([(rule, String.ofList attached)], rest)
    else if byLetter && !attached.isEmpty then g.letters rule rest attached
    else .error .wrong

/-- What an option is given. -/
def valueOf (rule : OptionRule) (s : String) : Except WordStop OptionValue :=
  match rule.kind with
  | .help => .error .help
  | .flag => .ok .on
  | .text => if s = "--" then .error .noValue else .ok (.text s)
  | .number =>
    if s = "--" then .error .noValue
    else
      match Number.readInt 10 s.toList with
      | .ok i => .ok (.number i)
      | .error _ => .error .wrong

/-! ## Places -/

/-- The words that a place takes, and those that are left; nothing if the first
    words do not fit it. -/
def take? (place : WordPlace) (words : List Word) : Option (List Word × List Word) :=
  let before := words.takeWhile fun w => w matches .dashes
  match place, words.drop before.length with
  | .one, .plain s :: .dashes :: rest => some (before ++ [.plain s, .dashes], rest)
  | .one, .plain s :: rest => some (before ++ [.plain s], rest)
  | .several, .plain s :: rest =>
    let more := rest.takeWhile (!·.isOption)
    some (before ++ .plain s :: more, rest.drop more.length)
  | .command, .plain s :: rest => some (before ++ .plain s :: rest, [])
  | _, _ => none

/-- The words of a place.  One word of two dashes is left out, but not before a
    command. -/
def wordsOf (place : WordPlace) (taken : List Word) : Except WordStop (List String) :=
  let ss := taken.map (·.written)
  match place, ss.erase "--" with
  | .command, _ => .ok ss
  | .one, [] => .error .noValue
  | _, ss => .ok ss

/-- Fills as many places as the first words fit. -/
def fill : List WordPlace → List Word →
    Except WordStop (List (List String) × List WordPlace × List Word)
  | [], words => .ok ([], [], words)
  | place :: places, words =>
    match take? place words with
    | none => .ok ([], place :: places, words)
    | some (taken, rest) =>
      match wordsOf place taken with
      | .error e => .error e
      | .ok ss => (fill places rest).map fun r => (ss :: r.1, r.2)

/-! ## Reading -/

/-- Reads words; `fuel` bounds their number. -/
def readWords (g : Grammar) :
    (fuel : Nat) → Reading → List WordPlace → List Word → Except WordStop Reading
  | 0, r, places, _ | _ + 1, r, places, [] =>
    if places.isEmpty then .ok r else .error .wrong
  | fuel + 1, r, places, .unknown s :: rest =>
    g.readWords fuel { r with extra := r.extra ++ [s] } places rest
  | fuel + 1, r, places, .option _ rule byLetter attached :: rest =>
    match g.optionsIn rule byLetter rest attached with
    | .error e => .error e
    | .ok (options, rest) =>
      match options.mapM fun o => (valueOf o.1 o.2).map (o.1.name, ·) with
      | .error e => .error e
      | .ok options => g.readWords fuel { r with options := r.options ++ options } places rest
  | fuel + 1, r, places, w :: rest =>
    match fill places (w :: rest) with
    | .error e => .error e
    | .ok ([], _, _) =>
      g.readWords fuel { r with extra := r.extra ++ [w.written] } places rest
    | .ok (found, places, rest) =>
      g.readWords fuel { r with places := r.places ++ found } places rest

/-- Reads words by a grammar. -/
def read (g : Grammar) (words : List String) : Except WordStop Reading :=
  match g.words words with
  | .error e => .error e
  | .ok ws => g.readWords (ws.length + 1) ⟨[], [], []⟩ g.places ws

end Grammar

namespace Reading

/-- The value that an option is given last. -/
def last? (r : Reading) (name : String) : Option OptionValue :=
  ((r.options.filter (·.1 == name)).getLast?).map (·.2)

/-- Is an option given? -/
def has (r : Reading) (name : String) : Bool := (r.last? name).isSome

/-- The text that an option is given. -/
def text? (r : Reading) (name : String) : Option String :=
  match r.last? name with
  | some (.text s) => some s
  | _ => none

/-- The number that an option is given. -/
def number? (r : Reading) (name : String) : Option Int :=
  match r.last? name with
  | some (.number i) => some i
  | _ => none

end Reading

end Folio
