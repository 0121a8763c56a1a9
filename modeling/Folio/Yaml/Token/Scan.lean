/-
  Folio — the tokens of a text.

  Whether a scalar, or anything else on one line, is a key shows only at the
  colon after it.  So a token that may be a key is held back, with all tokens
  after it, until the colon comes or can no longer come; only then are the tokens
  delivered, if need be with those of a key and of a mapping's start before them.

  * `Scanner.fetch` reads the next token;
  * `Token.scan` delivers the tokens of a text up to the first error.
-/
import Folio.Yaml.Token.Scalar
import Folio.Yaml.Token.Tag

namespace Folio.Yaml

/-- A token that a colon may make a key. -/
structure SimpleKey where
  /-- How many tokens come before it. -/
  number : Nat
  /-- Must the colon come? -/
  required : Bool
  mark : Mark
  deriving Repr, DecidableEq

/-- What is known between two tokens. -/
structure Scanner where
  cursor : Cursor
  /-- How many brackets and braces are open. -/
  flowLevel : Nat
  /-- The column of the innermost block collection; −1 outside all. -/
  indent : Int
  /-- The columns of the collections around it, innermost first. -/
  indents : List Int
  /-- May a key start here? -/
  keyAllowed : Bool
  /-- The tokens that may be keys, by the number of open brackets. -/
  keys : List (Nat × SimpleKey)
  /-- How many tokens are delivered. -/
  taken : Nat
  /-- The tokens that are not delivered yet. -/
  queue : List Token
  /-- Is the end of the text reached? -/
  done : Bool

namespace Scanner

/-- Before the first character. -/
def ofText (text : List Char) : Scanner :=
  let c := Cursor.ofText text
  { cursor := c, flowLevel := 0, indent := -1, indents := [], keyAllowed := true
    keys := [], taken := 0, queue := [⟨.streamStart, c.mark, c.mark⟩], done := false }

/-! ## Keys -/

/-- The error of a key whose colon does not come. -/
def missingColon (s : Scanner) (k : SimpleKey) : Error :=
  .marked (some (.simpleKey, some k.mark)) .noColon s.cursor.mark

/-- How far a colon may be from the start of its key. -/
def maxKeyLength : Nat := 1024

/-- Can the colon of a key no longer come? -/
def isStale (s : Scanner) (k : SimpleKey) : Bool :=
  k.mark.line != s.cursor.mark.line || maxKeyLength < s.cursor.mark.index - k.mark.index

/-- Without the keys whose colon can no longer come. -/
def dropStaleKeys (s : Scanner) : Except Error Scanner :=
  match s.keys.find? fun k => s.isStale k.2 && k.2.required with
  | some k => .error (s.missingColon k.2)
  | none => .ok { s with keys := s.keys.filter fun k => !s.isStale k.2 }

/-- Without the key at the present level. -/
def dropKey (s : Scanner) : Except Error Scanner :=
  match s.keys.lookup s.flowLevel with
  | none => .ok s
  | some k =>
    if k.required then .error (s.missingColon k)
    else .ok { s with keys := s.keys.filter fun e => e.1 != s.flowLevel }

/-- The next token may be a key, if one may start here. -/
def saveKey (s : Scanner) : Except Error Scanner :=
  if s.keyAllowed then do
    let s ← s.dropKey
    let key : SimpleKey :=
      { number := s.taken + s.queue.length
        required := s.flowLevel == 0 && s.indent == (s.cursor.mark.column : Int)
        mark := s.cursor.mark }
    return { s with keys := s.keys ++ [(s.flowLevel, key)] }
  else return s

/-- Is the first token of the queue one that may be a key? -/
def holdsBack (s : Scanner) : Bool :=
  (s.keys.map fun k => k.2.number).min? == some s.taken

/-! ## Tokens -/

/-- With one token more. -/
def push (s : Scanner) (kind : TokenKind) (start stop : Mark) : Scanner :=
  { s with queue := s.queue ++ [⟨kind, start, stop⟩] }

/-- With a token of no length. -/
def pushHere (s : Scanner) (kind : TokenKind) : Scanner :=
  s.push kind s.cursor.mark s.cursor.mark

/-- With a token that the next `n` characters are. -/
def take (s : Scanner) (kind : TokenKind) (n : Nat) : Scanner :=
  let c := s.cursor.advanceBy n
  { s.push kind s.cursor.mark c.mark with cursor := c }

/-- With a token before the one that has this number. -/
def insert (s : Scanner) (number : Nat) (kind : TokenKind) (mark : Mark) : Scanner :=
  let i := number - s.taken
  { s with queue := s.queue.take i ++ ⟨kind, mark, mark⟩ :: s.queue.drop i }

/-- The block collections that are indented further than a column end. -/
def unwindTo (column : Int) : List Int → Scanner → Scanner
  | [], s => s
  | outer :: rest, s =>
    if column < s.indent then
      unwindTo column rest { s.pushHere .blockEnd with indent := outer, indents := rest }
    else s

/-- The block collections that are indented further than a column end, unless
    brackets are open. -/
def unwind (s : Scanner) (column : Int) : Scanner :=
  if s.flowLevel = 0 then unwindTo column s.indents s else s

/-- A block collection starts at a column, unless one has that column. -/
def indentTo (s : Scanner) (column : Nat) : Option Scanner :=
  if s.indent < column then
    some { s with indents := s.indent :: s.indents, indent := column }
  else none

/-! ## Each kind of token -/

/-- After white space, line ends and comments; a key may start on a new line. -/
def toNextToken : (fuel : Nat) → Scanner → Scanner
  | 0, s => s
  | fuel + 1, s =>
    let c := s.cursor.skipSpaces.skipComment
    if c.peek.any isBreak then
      toNextToken fuel
        { s with cursor := c.lineBreak.2, keyAllowed := s.keyAllowed || s.flowLevel == 0 }
    else { s with cursor := c }

/-- After a byte order mark at the start of the text. -/
def skipByteOrderMark (s : Scanner) : Scanner :=
  if s.cursor.mark.index = 0 ∧ s.cursor.peek = some '\uFEFF' then
    { s with cursor := s.cursor.advance }
  else s

/-- The end of the text. -/
def fetchEnd (s : Scanner) : Except Error Scanner := do
  let s ← (s.unwind (-1)).dropKey
  return { s.pushHere .streamEnd with keyAllowed := false, keys := [], done := true }

/-- A directive. -/
def fetchDirective (s : Scanner) : Except Error Scanner := do
  let s ← (s.unwind (-1)).dropKey
  let (kind, stop, c) ← directive s.cursor
  return { s.push kind s.cursor.mark stop with cursor := c, keyAllowed := false }

/-- The start or the end of a document. -/
def fetchDocument (s : Scanner) (kind : TokenKind) : Except Error Scanner := do
  let s ← (s.unwind (-1)).dropKey
  return { s.take kind 3 with keyAllowed := false }

/-- An opening bracket or brace. -/
def fetchFlowStart (s : Scanner) (kind : TokenKind) : Except Error Scanner := do
  let s ← s.saveKey
  return { s.take kind 1 with flowLevel := s.flowLevel + 1, keyAllowed := true }

/-- A closing bracket or brace. -/
def fetchFlowEnd (s : Scanner) (kind : TokenKind) : Except Error Scanner := do
  let s ← s.dropKey
  return { s.take kind 1 with flowLevel := s.flowLevel - 1, keyAllowed := false }

/-- A comma between the entries of a flow collection. -/
def fetchFlowEntry (s : Scanner) : Except Error Scanner := do
  let s ← { s with keyAllowed := true }.dropKey
  return s.take .flowEntry 1

/-- With the start of a block collection, if one starts here; an error if it may
    not. -/
def openBlock (s : Scanner) (kind : TokenKind) (problem : Problem) : Except Error Scanner :=
  if s.flowLevel ≠ 0 then .ok s
  else if !s.keyAllowed then .error (.marked none problem s.cursor.mark)
  else
    match s.indentTo s.cursor.mark.column with
    | some s => .ok (s.pushHere kind)
    | none => .ok s

/-- The dash of an entry. -/
def fetchBlockEntry (s : Scanner) : Except Error Scanner := do
  let s ← s.openBlock .blockSequenceStart .sequenceEntry
  let s ← { s with keyAllowed := true }.dropKey
  return s.take .blockEntry 1

/-- The question mark of a key. -/
def fetchKey (s : Scanner) : Except Error Scanner := do
  let s ← s.openBlock .blockMappingStart .mappingKey
  let s ← { s with keyAllowed := s.flowLevel == 0 }.dropKey
  return s.take .key 1

/-- The token that turns out to be a key gets a key token, and that of a block
    mapping if it starts one. -/
def confirmKey (s : Scanner) (k : SimpleKey) : Scanner :=
  let s := { s with keys := s.keys.filter fun e => e.1 != s.flowLevel }
  let s := s.insert k.number .key k.mark
  let s :=
    if s.flowLevel = 0 then
      match s.indentTo k.mark.column with
      | some s => s.insert k.number .blockMappingStart k.mark
      | none => s
    else s
  { s with keyAllowed := false }

/-- The colon before a value. -/
def fetchValue (s : Scanner) : Except Error Scanner := do
  match s.keys.lookup s.flowLevel with
  | some k => return (s.confirmKey k).take .value 1
  | none =>
    let s ← s.openBlock .blockMappingStart .mappingValue
    let s ← { s with keyAllowed := s.flowLevel == 0 }.dropKey
    return s.take .value 1

/-- A token that may be a key, and after which none may start. -/
def fetchInline (s : Scanner) (read : Cursor → Except Error (TokenKind × Cursor)) :
    Except Error Scanner := do
  let s ← s.saveKey
  let (kind, c) ← read s.cursor
  return { s.push kind s.cursor.mark c.mark with cursor := c, keyAllowed := false }

/-- A block scalar. -/
def fetchBlockScalar (s : Scanner) (folded : Bool) : Except Error Scanner := do
  let s ← { s with keyAllowed := true }.dropKey
  let (text, c) ← Scalar.block folded s.indent s.cursor
  return { s.push (.scalar false text) s.cursor.mark c.mark with cursor := c }

/-- A plain scalar; a key may start on a new line after it. -/
def fetchPlain (s : Scanner) : Except Error Scanner := do
  let s ← s.saveKey
  let (text, stop, c, newLine) :=
    Scalar.plain (s.flowLevel != 0) (s.indent + 1).toNat s.cursor
  return { s.push (.scalar true text) s.cursor.mark stop with cursor := c, keyAllowed := newLine }

/-! ## The next token -/

/-- Does a plain scalar start here? -/
def startsPlain (s : Scanner) (ch : Char) : Bool :=
  !(Cursor.atBlank (some ch) || "-?:,[]\x7b\x7d#&*!|>'\"%@\x60".toList.contains ch) ||
    (!Cursor.atBlank (s.cursor.peekAt 1) &&
      (ch == '-' || (s.flowLevel == 0 && (ch == '?' || ch == ':'))))

/-- Does a sign stand alone here, so that it means something? -/
def standsAlone (s : Scanner) : Bool := Cursor.atBlank (s.cursor.peekAt 1)

/-- Reads a token that starts with a character. -/
def fetchAt (s : Scanner) (ch : Char) : Except Error Scanner :=
  let flow := s.flowLevel != 0
  let first := s.cursor.mark.column == 0
  if ch == '%' && first then s.fetchDirective
  else if first && s.cursor.atTriple '-' then s.fetchDocument .documentStart
  else if first && s.cursor.atTriple '.' then s.fetchDocument .documentEnd
  else if ch == '[' then s.fetchFlowStart .flowSequenceStart
  else if ch == '\x7b' then s.fetchFlowStart .flowMappingStart
  else if ch == ']' then s.fetchFlowEnd .flowSequenceEnd
  else if ch == '\x7d' then s.fetchFlowEnd .flowMappingEnd
  else if ch == ',' then s.fetchFlowEntry
  else if ch == '-' && s.standsAlone then s.fetchBlockEntry
  else if ch == '?' && (flow || s.standsAlone) then s.fetchKey
  else if ch == ':' && (flow || s.standsAlone) then s.fetchValue
  else if ch == '*' then
    s.fetchInline fun c => (anchorName .alias c).map fun r => (.alias r.1, r.2)
  else if ch == '&' then
    s.fetchInline fun c => (anchorName .anchor c).map fun r => (.anchor r.1, r.2)
  else if ch == '!' then s.fetchInline tag
  else if ch == '|' && !flow then s.fetchBlockScalar false
  else if ch == '>' && !flow then s.fetchBlockScalar true
  else if ch == '\'' then
    s.fetchInline fun c => (Scalar.quoted false c).map fun r => (.scalar false r.1, r.2)
  else if ch == '"' then
    s.fetchInline fun c => (Scalar.quoted true c).map fun r => (.scalar false r.1, r.2)
  else if s.startsPlain ch then s.fetchPlain
  else .error (.marked (some (.token, none)) (.noToken ch) s.cursor.mark)

/-- Reads the next token. -/
def fetch (s : Scanner) : Except Error Scanner := do
  let s := s.skipByteOrderMark
  let s ← (toNextToken s.cursor.fuel s).dropStaleKeys
  let s := s.unwind s.cursor.mark.column
  match s.cursor.peek with
  | none => s.fetchEnd
  | some ch => s.fetchAt ch

end Scanner

/-! ## All tokens -/

/-- The tokens of a text up to the first error, and that error. -/
structure Tokens where
  items : List Token
  error : Option Error

namespace Token

/-- The tokens that the scanner delivers from here on. -/
def deliver : (fuel : Nat) → Scanner → Tokens
  | 0, _ => ⟨[], none⟩
  | fuel + 1, s =>
    let more : Except Error (Scanner × Bool) :=
      if s.done then .ok (s, false)
      else if s.queue.isEmpty then .ok (s, true)
      else s.dropStaleKeys.map fun s => (s, s.holdsBack)
    match more with
    | .error e => ⟨[], some e⟩
    | .ok (s, true) =>
      match s.fetch with
      | .error e => ⟨[], some e⟩
      | .ok s => deliver fuel s
    | .ok (s, false) =>
      match s.queue with
      | [] => ⟨[], none⟩
      | t :: queue =>
        let rest := deliver fuel { s with queue, taken := s.taken + 1 }
        ⟨t :: rest.items, rest.error⟩

/-- The tokens of a text.  Each character gives rise to one step of reading and
    few tokens, which bounds the number of steps. -/
def scan (text : List Char) : Tokens := deliver (8 * text.length + 16) (.ofText text)

end Token

end Folio.Yaml
