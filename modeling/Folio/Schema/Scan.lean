/-
  Folio — the tokens of a schema source.

  At each place of a source one lexeme starts: a token, or something between
  tokens.  A lexeme tells how long it is and which token it is, if any.  Each kind
  of lexeme counts the line ends that it passes in its own way, and the count of
  the lines is carried from one lexeme to the next.

  * `Token.scan` reads the tokens from a place on;
  * `Token.ofSource` reads those of a whole source.
-/
import Folio.Number.Read
import Folio.Schema.Error
import Folio.Text.Search

namespace Folio.Schema

/-- What starts at a place: the number of its characters after the first, the
    line ends that it counts, and the token it is. -/
structure Lexeme where
  more : Nat
  lines : Nat
  kind : Option TokenKind
  deriving Repr, DecidableEq

namespace Lexeme

/-- Something between tokens. -/
def gap (more lines : Nat) : Lexeme := ⟨more, lines, none⟩

/-- The line of the token that starts on a line: the end of a line is told before
    it is counted, any other token after its line ends are. -/
def tokenLine (l : Lexeme) (line : Nat) : Nat :=
  if l.kind = some .newline then line else line + l.lines

/-! ## Texts -/

/-- The character that a backslash and another character stand for. -/
def escape? : Char → Option Char
  | 'n' => some '\n'
  | 't' => some '\t'
  | 'r' => some '\r'
  | 'b' => some '\x08'
  | 'f' => some '\x0c'
  | '\\' => some '\\'
  | '"' => some '"'
  | '/' => some '/'
  | _ => none

/-- A text up to its closing quote, its length in the source with that quote, and
    the count of line ends there; `lines` counts those before. -/
def quoted (lines : Nat) : List Char → Except SchemaError (List Char × Nat × Nat)
  | [] => .error (.located .unterminatedText 0)
  | '"' :: _ => .ok ([], 1, lines)
  | ['\\'] => .error (.located (.badEscape none) lines)
  | '\\' :: e :: rest =>
    match escape? e with
    | none => .error (.located (.badEscape (some e)) lines)
    | some c => (quoted lines rest).map fun (cs, n, k) => (c :: cs, n + 2, k)
  | c :: rest =>
    (quoted (if c = '\n' then lines + 1 else lines) rest).map fun (cs, n, k) => (c :: cs, n + 1, k)

/-- The number of marks before the quote that opens a raw text, and the length
    of the whole opening: a quote after `r`, after marks, or after both. -/
def rawOpening? (cs : List Char) : Option (Nat × Nat) :=
  let (lead, rest) := if cs.head? = some 'r' then (1, cs.drop 1) else (0, cs)
  let marks := (rest.takeWhile (· == '#')).length
  if (rest.drop marks).head? = some '"' && 0 < lead + marks then
    some (marks, lead + marks + 1)
  else none

/-- A raw text that ends at a quote with so many marks after it. -/
def raw (marks opening : Nat) (cs : List Char) : Except SchemaError Lexeme :=
  let closing := '"' :: List.replicate marks '#'
  let rest := cs.drop opening
  match Text.find? closing rest with
  | none => .error (.located .unterminatedRawText 0)
  | some n =>
    let text := rest.take n
    .ok ⟨opening + n + marks, text.count '\n', some (.scalar (.text (String.ofList text)))⟩

/-! ## Numbers and words -/

/-- Decimal digits with low lines after the first of them. -/
def digits (cs : List Char) : List Char :=
  if cs.head?.any Text.isDecimal then cs.takeWhile fun c => c == '_' || Text.isDecimal c
  else []

/-- The number at the start of a text as it is written, or nothing. -/
def numberText (cs : List Char) : List Char :=
  let sign := cs.take (if cs.head? = some '+' ∨ cs.head? = some '-' then 1 else 0)
  let whole := digits (cs.drop sign.length)
  let after := cs.drop (sign.length + whole.length)
  let places := if after.head? = some '.' then digits (after.drop 1) else []
  if whole.isEmpty then []
  else if places.isEmpty then sign ++ whole
  else sign ++ whole ++ '.' :: places

/-- The value of a number as it is written. -/
def number (text : List Char) : Except SchemaError Scalar :=
  let clean := text.filter (· != '_')
  if clean.contains '.' then (Number.readFloat clean |>.mapError .number).map .float
  else (Number.readInt 10 clean |>.mapError .number).map .int

/-- Can the character stand in a word? -/
def isWordChar (c : Char) : Bool :=
  !Text.isBlank c &&
    !(['\x7b', '\x7d', '(', ')', '[', ']', '/', '\\', '"', '#', ';', '='].contains c)

/-- The value that a keyword stands for; its mark may be left out. -/
def keyword? (word : List Char) : Option Scalar :=
  match String.ofList word with
  | "true" => some (.bool true)
  | "false" => some (.bool false)
  | "null" => some .null
  | _ => none

/-- A sign of one character. -/
def sign? : Char → Option TokenKind
  | '\x7b' => some .opening
  | '\x7d' => some .closing
  | ';' => some .semicolon
  | '=' => some .equals
  | _ => none

/-! ## Lexemes -/

/-- A comment up to the end of its line; the characters after its first slash
    are given. -/
def lineComment (rest : List Char) : Lexeme :=
  gap (rest.takeWhile (· != '\n')).length 0

/-- A comment between stars; the characters after its first slash are given. -/
def blockComment (rest : List Char) : Except SchemaError Lexeme :=
  match Text.find? ['*', '/'] (rest.drop 1) with
  | none => .error (.located .unterminatedComment 0)
  | some n => .ok (gap (n + 3) ((rest.take (n + 1)).count '\n'))

/-- A backslash that says that the line goes on; the characters after it are
    given. -/
def continuation (rest : List Char) : Except SchemaError Lexeme :=
  match Text.find? ['\n'] rest with
  | none => .error .lastLineGoesOn
  | some n => .ok (gap (n + 1) 1)

/-- A keyword after its mark; the characters after the mark are given. -/
def keyword (rest : List Char) : Except SchemaError Lexeme :=
  let word := rest.takeWhile isWordChar
  match keyword? word with
  | some s => .ok ⟨word.length, 0, some (.scalar s)⟩
  | none => .error (.located (.unknownKeyword (String.ofList ('#' :: word))) 0)

/-- A number, a keyword without its mark or a word. -/
def word (cs : List Char) : Except SchemaError Lexeme :=
  let num := numberText cs
  if !num.isEmpty then
    (number num).map fun s => ⟨num.length - 1, 0, some (.scalar s)⟩
  else
    match cs.takeWhile isWordChar with
    | [] => .error (.located (.unexpectedCharacter (cs.headD ' ')) 0)
    | word =>
      let kind := ((keyword? word).map .scalar).getD (.word (String.ofList word))
      .ok ⟨word.length - 1, 0, some kind⟩

/-- The lexeme that starts with a character; `rest` follows the character. -/
def read (c : Char) (rest : List Char) : Except SchemaError Lexeme :=
  if c == ' ' || c == '\t' || c == '\r' || c == '\uFEFF' then .ok (gap 0 0)
  else if c == '\n' then .ok ⟨0, 1, some .newline⟩
  else if c == '\\' && (rest.head? == some '\n' || rest.head? == some '\r') then
    continuation rest
  else if c == '/' && rest.head? == some '/' then .ok (lineComment rest)
  else if c == '/' && rest.head? == some '*' then blockComment rest
  else
    match sign? c with
    | some kind => .ok ⟨0, 0, some kind⟩
    | none =>
      if c == '"' then
        (quoted 0 rest).map fun (cs, n, k) => ⟨n, k, some (.scalar (.text (String.ofList cs)))⟩
      else
        match rawOpening? (c :: rest) with
        | some (marks, opening) => raw marks opening (c :: rest)
        | none => if c == '#' then keyword rest else word (c :: rest)

end Lexeme

namespace Token

/-- The tokens from a place on, which is on a line. -/
def scan (line : Nat) : List Char → Except SchemaError (List Token)
  | [] => .ok [⟨.ending, line⟩]
  | c :: rest =>
    match Lexeme.read c rest with
    | .error e => .error (e.below line)
    | .ok l =>
      match scan (line + l.lines) (rest.drop l.more) with
      | .error e => .error e
      | .ok tokens =>
        match l.kind with
        | none => .ok tokens
        | some kind => .ok (⟨kind, l.tokenLine line⟩ :: tokens)
termination_by cs => cs.length

/-- The tokens of a source. -/
def ofSource (source : List Char) : Except SchemaError (List Token) := scan 1 source

end Token

end Folio.Schema
