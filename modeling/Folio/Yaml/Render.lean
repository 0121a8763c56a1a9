/-
  Folio — writing YAML.

  Collections are written as blocks, empty ones as brackets.  A sequence inside a
  mapping is not indented further than its key.  Long scalars are folded at
  spaces once a line is past its width.

  A `Page` holds what is written and what the next sign has to know: the column,
  whether white space comes last, and whether the line holds nothing but
  indentation and the signs that add to it.

  * `Yaml.render` is the text of a mapping.
-/
import Folio.Yaml.Style

namespace Folio.Yaml

/-- A text that is being written. -/
structure Page where
  /-- The characters so far, latest first. -/
  text : List Char
  column : Nat
  /-- Does white space come last? -/
  spaced : Bool
  /-- Has the line no text yet? -/
  indenting : Bool

namespace Page

/-- Nothing written. -/
def empty : Page := ⟨[], 0, true, true⟩

/-- How long a line may become before it is folded. -/
def width : Nat := 80

/-- With characters that do not end a line. -/
def write (p : Page) (cs : List Char) : Page :=
  { p with text := cs.reverse ++ p.text, column := p.column + cs.length }

/-- With a line end, which some other character than LF may be. -/
def newLine (p : Page) (c : Char := '\n') : Page := ⟨c :: p.text, 0, true, true⟩

/-- With spaces up to the indentation, on a new line if the line has text. -/
def indentTo (p : Page) (indent : Nat) : Page :=
  let p :=
    if !p.indenting || indent < p.column || (p.column == indent && !p.spaced) then p.newLine
    else p
  if p.column < indent then
    { p.write (List.replicate (indent - p.column) ' ') with spaced := true }
  else p

/-- With a sign, set off by a space if it has to be; `adds` says whether the sign
    counts as indentation. -/
def sign (p : Page) (cs : List Char) (setOff : Bool) (adds : Bool := false) : Page :=
  let q := if p.spaced || !setOff then p.write cs else p.write (' ' :: cs)
  { q with spaced := false, indenting := p.indenting && adds }

/-- With text on the line. -/
def inText (p : Page) : Page := { p with spaced := false, indenting := false }

end Page

/-! ## Scalars -/

namespace Render

/-- The kinds of characters in a scalar that is folded. -/
inductive CharKind where
  | space
  | lineEnd
  | word
  deriving DecidableEq

/-- The kind of a character. -/
def kindOf (c : Char) : CharKind :=
  if c == ' ' then .space else if isInnerBreak c then .lineEnd else .word

/-- The longest runs of characters of one kind. -/
def runs (cs : List Char) : List (List Char) :=
  cs.splitBy fun a b => kindOf a == kindOf b

/-- Is the run a single space at which a long line is folded? -/
def foldsAt (p : Page) (split : Bool) (run : List Char) : Bool :=
  split && run == [' '] && Page.width < p.column

/-- A plain scalar. -/
def plain (p : Page) (split : Bool) (indent : Nat) (cs : List Char) : Page :=
  if cs.isEmpty then p
  else
    let p := (if p.spaced then p else p.write [' ']).inText
    (runs cs).foldl (fun p run =>
      if foldsAt p split run then (p.indentTo indent).inText else p.write run) p

/-- The runs of a scalar between single quotes; `first` says whether the run is
    the first. -/
def singleRuns (split : Bool) (indent : Nat) : (first : Bool) → List (List Char) → Page → Page
  | _, [], p => p
  | first, run :: rest, p =>
    let p :=
      match run.head?.map kindOf with
      | some .lineEnd =>
        let p := if run.head? == some '\n' then p.newLine else p
        (run.foldl (fun p c => p.newLine c) p).indentTo indent
      | some .space =>
        if foldsAt p split run && !first && !rest.isEmpty then p.indentTo indent else p.write run
      | _ => p.write (run.flatMap fun c => if c == '\'' then ['\'', '\''] else [c])
    singleRuns split indent false rest p

/-- A scalar between single quotes. -/
def singleQuoted (p : Page) (split : Bool) (indent : Nat) (cs : List Char) : Page :=
  (singleRuns split indent true (runs cs) (p.sign ['\''] true)).sign ['\''] false

/-- The letter of an escape of one letter. -/
def escapeLetter? (c : Char) : Option Char :=
  match c with
  | '\x07' => some 'a'
  | '\x08' => some 'b'
  | '\t' => some 't'
  | '\n' => some 'n'
  | '\x0b' => some 'v'
  | '\x0c' => some 'f'
  | '\r' => some 'r'
  | '\x1b' => some 'e'
  | '"' => some '"'
  | '\\' => some '\\'
  | '\u0085' => some 'N'
  | '\u2028' => some 'L'
  | '\u2029' => some 'P'
  | _ => if c.toNat = 0 then some '0' else none

/-- Is the character written as it is between double quotes? -/
def isBare (c : Char) : Bool :=
  let n := c.toNat
  ((0x20 ≤ n && n ≤ 0x7E) || (0xA0 ≤ n && n ≤ 0xD7FF) || (0xE000 ≤ n && n ≤ 0xFFFD)) &&
    c != '"' && c != '\\' && c != '\u2028' && c != '\u2029' && c != '\uFEFF'

/-- The escape of a character. -/
def escapeOf (c : Char) : List Char :=
  match escapeLetter? c with
  | some l => ['\\', l]
  | none =>
    let n := c.toNat
    let digits := fun w => (Text.hexText n w).map Char.toUpper
    if n ≤ 0xFF then '\\' :: 'x' :: digits 2
    else if n ≤ 0xFFFF then '\\' :: 'u' :: digits 4
    else '\\' :: 'U' :: digits 8

/-- The characters between double quotes; `run` holds those that are not written
    yet, latest first, and `first` says whether the next is the first of all.
    A long line is folded before a space or next to an escape, after a
    backslash. -/
def doubleChars (split : Bool) (indent : Nat) :
    (first : Bool) → (run : List Char) → List Char → Page → Page
  | _, run, [], p => p.write run.reverse
  | first, run, c :: rest, p =>
    let escaped := !isBare c
    let p := if escaped then (p.write run.reverse).write (escapeOf c) else p
    let run := if escaped then [] else run
    let long :=
      if escaped then Page.width + 1 < p.column else Page.width < p.column + run.length
    if split && !first && !rest.isEmpty && (c == ' ' || escaped || run.isEmpty) && long then
      let p := ((p.write (run.reverse ++ ['\\'])).indentTo indent).inText
      let next := if escaped then rest.head? else some c
      let p := if next == some ' ' then p.write ['\\'] else p
      doubleChars split indent false (if escaped then [] else [c]) rest p
    else doubleChars split indent false (if escaped then [] else c :: run) rest p

/-- A scalar between double quotes. -/
def doubleQuoted (p : Page) (split : Bool) (indent : Nat) (cs : List Char) : Page :=
  (doubleChars split indent true [] cs (p.sign ['"'] true)).sign ['"'] false

/-- What follows the sign of a literal block to say how its line ends count. -/
def blockHints (cs : List Char) : List Char :=
  match cs with
  | [] => []
  | c :: _ =>
    let last := cs.reverse
    (if c == ' ' || isInnerBreak c then ['2'] else []) ++
      (if !last.head?.any isInnerBreak then ['-']
      else if last.length == 1 || (last.drop 1).head?.any isInnerBreak then ['+']
      else [])

/-- A literal block. -/
def literal (p : Page) (indent : Nat) (cs : List Char) : Page :=
  let p := (p.sign ('|' :: blockHints cs) true).newLine
  (cs.splitBy fun a b => (kindOf a == .lineEnd) == (kindOf b == .lineEnd)).foldl (fun p run =>
    if run.head?.map kindOf == some .lineEnd then run.foldl (fun p c => p.newLine c) p
    else (p.indentTo indent).write run) p

/-- A scalar in a style; one that is a key is not split. -/
def scalar (p : Page) (key : Bool) (indent : Nat) (style : Style) (cs : List Char) : Page :=
  match style with
  | .plain => plain p (!key) indent cs
  | .singleQuoted => singleQuoted p (!key) indent cs
  | .doubleQuoted => doubleQuoted p (!key) indent cs
  | .literal => literal p indent cs

/-! ## Properties -/

/-- The name of an anchor: at least three digits. -/
def anchorName (n : Nat) : List Char := 'i' :: 'd' :: Text.paddedDecimal n 3

/-- With an anchor, if there is one. -/
def anchor (p : Page) (a : AnchorNumber) : Page :=
  match a with
  | none => p
  | some n => p.sign ('&' :: anchorName n) true

/-- The short form of a known tag. -/
def tagText (t : Tag) : List Char := '!' :: '!' :: t.uri.drop Tag.base.length

/-- How long a key on one line may be, its anchor and its tag counted. -/
def maxKeyLength : Nat := 128

/-- The length of an anchor's name. -/
def anchorLength (a : AnchorNumber) : Nat := (a.map fun n => (anchorName n).length).getD 0

/-- Can the form be a key on one line? -/
def isSimpleKey : Form → Bool
  | .alias n => (anchorName n).length < maxKeyLength
  | .scalar a tag cs =>
    let look := Look.ofText cs
    anchorLength a + (tagText tag).length + cs.length < maxKeyLength &&
      !look.empty && !look.multiline
  | .sequence a items => anchorLength a + (tagText .seq).length < maxKeyLength && items.isEmpty
  | .mapping a tag entries =>
    anchorLength a + (tagText tag).length < maxKeyLength && entries.isEmpty

/-! ## Nodes -/

/-- Where a form stands. -/
structure Place where
  /-- The indentation around it. -/
  indent : Nat
  /-- Is it a key or a value of a mapping? -/
  inMapping : Bool
  /-- Is it a key on one line? -/
  isKey : Bool

mutual

/-- With the form of a value at a place. -/
def node (p : Page) (at_ : Place) : Form → Page
  | .alias n => p.sign ('*' :: anchorName n) true
  | .scalar a tag cs =>
    let style := Style.choose at_.isKey tag cs
    let p := anchor p a
    let p := if style.needsTag tag cs then p.sign (tagText tag) true else p
    scalar p at_.isKey (at_.indent + 2) style cs
  | .sequence a items =>
    let p := anchor p a
    if items.isEmpty then (p.sign ['['] true).sign [']'] false
    else
      let indent := if at_.inMapping && !p.indenting then at_.indent else at_.indent + 2
      sequence p indent items
  | .mapping a tag entries =>
    let p := anchor p a
    let p := if tag = .map then p else p.sign (tagText tag) true
    if entries.isEmpty then (p.sign ['\x7b'] true).sign ['\x7d'] false
    else mapping p (at_.indent + 2) entries

/-- With the items of a block sequence. -/
def sequence (p : Page) (indent : Nat) : List Form → Page
  | [] => p
  | f :: fs =>
    let p := (p.indentTo indent).sign ['-'] true true
    sequence (node p ⟨indent, false, false⟩ f) indent fs

/-- With the entries of a block mapping. -/
def mapping (p : Page) (indent : Nat) : List (Form × Form) → Page
  | [] => p
  | (k, v) :: es =>
    let p := p.indentTo indent
    let p :=
      if isSimpleKey k then (node p ⟨indent, true, true⟩ k).sign [':'] false
      else
        let p := node (p.sign ['?'] true true) ⟨indent, true, false⟩ k
        (p.indentTo indent).sign [':'] true true
    mapping (node p ⟨indent, true, false⟩ v) indent es

end

end Render

/-- The text of a mapping with at least one entry. -/
def render (es : Entries) : List Char :=
  match Form.ofValue (.map none es) with
  | .mapping _ _ fs => ((Render.mapping .empty 0 fs).indentTo 0).text.reverse
  | _ => []

end Folio.Yaml
