/-
  Folio — what can be wrong with a YAML text.

  A fault of form has a place in the text (`Mark`) and is described by a
  `Problem`; an `Activity` says what was being read, and where that started.  A
  fault of another sort has no place: the text holds a character that YAML
  excludes, or a scalar that its tag does not fit (`Misfit`).

  * `Error.problem` is the short description, `Error.full` the long one, which
    shows the places.
-/
import Folio.Number.Read
import Folio.Text.Quoted
import Folio.Text.Utf8
import Folio.Yaml.Timestamp

namespace Folio.Yaml

/-! ## Places -/

/-- A place in a text; all three count from zero. -/
structure Mark where
  index : Nat
  line : Nat
  column : Nat
  deriving Repr, DecidableEq, Inhabited

/-- Does the character end a line? -/
def isBreak (c : Char) : Bool :=
  c == '\n' || c == '\r' || c == '\u0085' || c == '\u2028' || c == '\u2029'

namespace Mark

/-- How far a snippet reaches to each side of its place. -/
def reach : Nat := 36

/-- The part of a line before a place and the part after it, both cut off with
    an ellipsis where they are long. -/
def sides (text : List Char) (m : Mark) : List Char × List Char :=
  let before := ((text.take m.index).reverse.takeWhile fun c => !isBreak c).take (reach + 1)
  let after := ((text.drop m.index).takeWhile fun c => !isBreak c).take (reach + 1)
  let left :=
    if reach < before.length then " ... ".toList ++ (before.take (reach - 4)).reverse
    else before.reverse
  let right :=
    if reach < after.length then after.take (reach - 4) ++ " ... ".toList else after
  (left, right)

/-- The line of a place, with a caret below the place. -/
def snippet (text : List Char) (m : Mark) : List Char :=
  let (left, right) := m.sides text
  "    ".toList ++ left ++ right ++ '\n' :: List.replicate (4 + left.length) ' ' ++ ['^']

/-- A place as messages show it. -/
def display (text : List Char) (m : Mark) : String :=
  "  in \"<unicode string>\", line " ++ toString (m.line + 1) ++ ", column " ++
    toString (m.column + 1) ++ ":\n" ++ String.ofList (m.snippet text)

end Mark

/-! ## Faults of form -/

/-- A character of the text, or its end. -/
abbrev Found := Option Char

/-- What is found, in quotes; the end of the text counts as the character
    zero. -/
def quotedFound (c : Found) : String :=
  String.ofList (Text.quoted [c.getD (Char.ofNat 0)])

/-- What was being read. -/
inductive Activity where
  | token
  | simpleKey
  | directive
  /-- A tag prefix in a directive. -/
  | directiveUri
  | alias
  | anchor
  | tag
  /-- The text of a tag. -/
  | tagUri
  | blockScalar
  | doubleQuoted
  | quoted
  | node
  | blockNode
  | flowNode
  | blockCollection
  | blockMapping
  | flowSequence
  | flowMapping
  /-- A stream of a single document. -/
  | single
  /-- The node that an anchor first names. -/
  | firstAnchor (name : List Char)
  | mapping
  | orderedMap
  | pairs
  deriving Repr, DecidableEq

/-- What a message says about an activity. -/
def Activity.text : Activity → String
  | .token => "while scanning for the next token"
  | .simpleKey => "while scanning a simple key"
  | .directive => "while scanning a directive"
  | .directiveUri => "while parsing a directive"
  | .alias => "while scanning an alias"
  | .anchor => "while scanning an anchor"
  | .tag => "while scanning a tag"
  | .tagUri => "while parsing a tag"
  | .blockScalar => "while scanning a block scalar"
  | .doubleQuoted => "while scanning a double-quoted scalar"
  | .quoted => "while scanning a quoted scalar"
  | .node => "while parsing a node"
  | .blockNode => "while parsing a block node"
  | .flowNode => "while parsing a flow node"
  | .blockCollection => "while parsing a block collection"
  | .blockMapping => "while parsing a block mapping"
  | .flowSequence => "while parsing a flow sequence"
  | .flowMapping => "while parsing a flow mapping"
  | .single => "expected a single document in the stream"
  | .firstAnchor name =>
    "found duplicate anchor " ++ String.ofList (Text.quoted name) ++ "; first occurrence"
  | .mapping => "while constructing a mapping"
  | .orderedMap => "while constructing an ordered map"
  | .pairs => "while constructing pairs"

/-- Why octets in base 64 cannot be read. -/
inductive Base64Error where
  /-- So many digits are no whole number of octets. -/
  | count (digits : Nat)
  /-- The last group is not filled up. -/
  | padding
  deriving Repr, DecidableEq

/-- What a message says about octets in base 64. -/
def Base64Error.text : Base64Error → String
  | .count n =>
    "Invalid base64-encoded string: number of data characters (" ++ toString n ++
      ") cannot be 1 more than a multiple of 4"
  | .padding => "Incorrect padding"

/-- What is wrong at a place. -/
inductive Problem where
  | noToken (c : Char)
  | noColon
  | sequenceEntry
  | mappingKey
  | mappingValue
  | notAlphanumeric (c : Found)
  | notDigitOrPoint (c : Found)
  | notDigitOrSpace (c : Found)
  | notDigit (c : Found)
  | notSpace (c : Found)
  | notCommentOrBreak (c : Found)
  | notExclamation (c : Found)
  | notClosed (c : Found)
  | notUri (c : Found)
  | notUriEscape (c : Found)
  | uriOctets (f : Utf8.Fault)
  | zeroIndentation
  | notBlockHeader (c : Found)
  | notHexadecimal (count : Nat) (c : Found)
  | unknownEscape (c : Found)
  | endOfStream
  | documentSeparator
  | duplicateVersion
  | incompatibleVersion
  | duplicateHandle (handle : List Char)
  | notDocumentStart (token : String)
  | undefinedHandle (handle : List Char)
  | noContent (token : String)
  | notBlockEnd (token : String)
  | notCommaOrBracket (token : String)
  | notCommaOrBrace (token : String)
  | undefinedAlias (name : List Char)
  | secondDocument
  | secondAnchor
  | unknownTag (tag : List Char)
  /-- A key that its mapping has already, as messages show it. -/
  | duplicateKey (key : String)
  | unhashableKey
  /-- A node of another kind than expected. -/
  | kind (expected found : String)
  /-- An ordered map has an item that is no single pair. -/
  | itemCount (count : Nat)
  | base64 (e : Base64Error)
  /-- The characters from `first` to `last` are beyond ASCII. -/
  | base64Text (chars : List Char) (first last : Nat)
  deriving Repr, DecidableEq

namespace Problem

/-- Characters that ASCII lacks, as messages show them. -/
def nonAscii (chars : List Char) (first last : Nat) : String :=
  match chars with
  | [c] =>
    "'ascii' codec can't encode character '" ++ String.ofList (Text.numericEscape c.toNat) ++
      "' in position " ++ toString first ++ ": ordinal not in range(128)"
  | _ =>
    "'ascii' codec can't encode characters in position " ++ toString first ++ "-" ++
      toString last ++ ": ordinal not in range(128)"

/-- What a message says about a problem. -/
def text : Problem → String
  | .noToken c => "found character " ++ quotedFound c ++ " that cannot start any token"
  | .noColon => "could not find expected ':'"
  | .sequenceEntry => "sequence entries are not allowed here"
  | .mappingKey => "mapping keys are not allowed here"
  | .mappingValue => "mapping values are not allowed here"
  | .notAlphanumeric c =>
    "expected alphabetic or numeric character, but found " ++ quotedFound c
  | .notDigitOrPoint c => "expected a digit or '.', but found " ++ quotedFound c
  | .notDigitOrSpace c => "expected a digit or ' ', but found " ++ quotedFound c
  | .notDigit c => "expected a digit, but found " ++ quotedFound c
  | .notSpace c => "expected ' ', but found " ++ quotedFound c
  | .notCommentOrBreak c => "expected a comment or a line break, but found " ++ quotedFound c
  | .notExclamation c => "expected '!', but found " ++ quotedFound c
  | .notClosed c => "expected '>', but found " ++ quotedFound c
  | .notUri c => "expected URI, but found " ++ quotedFound c
  | .notUriEscape c =>
    "expected URI escape sequence of 2 hexadecimal numbers, but found " ++ quotedFound c
  | .uriOctets f => f.message
  | .zeroIndentation => "expected indentation indicator in the range 1-9, but found 0"
  | .notBlockHeader c =>
    "expected chomping or indentation indicators, but found " ++ quotedFound c
  | .notHexadecimal n c =>
    "expected escape sequence of " ++ toString n ++ " hexadecimal numbers, but found " ++
      quotedFound c
  | .unknownEscape c => "found unknown escape character " ++ quotedFound c
  | .endOfStream => "found unexpected end of stream"
  | .documentSeparator => "found unexpected document separator"
  | .duplicateVersion => "found duplicate YAML directive"
  | .incompatibleVersion => "found incompatible YAML document (version 1.* is required)"
  | .duplicateHandle h => "duplicate tag handle " ++ String.ofList (Text.quoted h)
  | .notDocumentStart t => "expected '<document start>', but found " ++ Text.quotedString t
  | .undefinedHandle h => "found undefined tag handle " ++ String.ofList (Text.quoted h)
  | .noContent t => "expected the node content, but found " ++ Text.quotedString t
  | .notBlockEnd t => "expected <block end>, but found " ++ Text.quotedString t
  | .notCommaOrBracket t => "expected ',' or ']', but got " ++ Text.quotedString t
  | .notCommaOrBrace t => "expected ',' or '\x7d', but got " ++ Text.quotedString t
  | .undefinedAlias a => "found undefined alias " ++ String.ofList (Text.quoted a)
  | .secondDocument => "but found another document"
  | .secondAnchor => "second occurrence"
  | .unknownTag t =>
    "could not determine a constructor for the tag " ++ String.ofList (Text.quoted t)
  | .duplicateKey k => "found duplicate key " ++ k
  | .unhashableKey => "found unhashable key"
  | .kind expected found => "expected " ++ expected ++ ", but found " ++ found
  | .itemCount n => "expected a single mapping item, but found " ++ toString n ++ " items"
  | .base64 e => "failed to decode base64 data: " ++ e.text
  | .base64Text cs first last =>
    "failed to convert base64 data into ascii: " ++ nonAscii cs first last

end Problem

/-! ## Other faults -/

/-- What a text can hold that has no value here. -/
inductive Unclear where
  /-- The number of a character that is half of a pair. -/
  | surrogate
  /-- An alias inside of the node that its anchor names. -/
  | loop
  /-- A sign for merging or for a value, in a mapping that is read in more than one way. -/
  | sign
  deriving Repr, DecidableEq

/-- A scalar or a node that its tag does not fit. -/
inductive Misfit where
  | number (e : NumberError)
  | calendar (e : CalendarError)
  /-- A scalar where a mapping's entries are wanted. -/
  | scalarEntries
  /-- A character number past the last. -/
  | characterRange
  /-- A character number past all bounds. -/
  | characterOverflow
  /-- A number with so many parts that the first counts more than any floating-point
      number. -/
  | floatOverflow
  /-- A text that is no timestamp. -/
  | timestamp
  /-- A text that is no truth value. -/
  | truth
  /-- A number without digits. -/
  | emptyNumber
  /-- A sequence where a mapping's entries are wanted. -/
  | sequenceEntries
  /-- A collection as a key. -/
  | collectionKey
  /-- A mapping as a timestamp. -/
  | mappingTime
  /-- No fault: nothing is said of the text. -/
  | unclear (u : Unclear)
  deriving Repr, DecidableEq

/-- What a message says about a misfit that concerns a value; the other misfits
    concern a kind and have no message. -/
def Misfit.message? : Misfit → Option String
  | .number e => some e.message
  | .calendar e => some e.message
  | .scalarEntries => some "not enough values to unpack (expected 2, got 1)"
  | .characterRange => some "chr() arg not in range(0x110000)"
  | _ => none

/-- What is wrong with a text. -/
inductive Error where
  /-- A character that YAML excludes. -/
  | unacceptable (c : Char) (position : Nat)
  /-- A problem at a place, while doing something that started at a place. -/
  | marked (activity : Option (Activity × Option Mark)) (problem : Problem) (mark : Mark)
  /-- A scalar that its tag does not fit. -/
  | misfit (m : Misfit)
  deriving Repr, DecidableEq

namespace Error

/-- An excluded character and its position. -/
def unacceptableText (c : Char) (position : Nat) : String :=
  "unacceptable character #x" ++ String.ofList (Text.hexText c.toNat 4) ++
    ": special characters are not allowed\n  in \"<unicode string>\", position " ++
    toString position

/-- The place of an error, if it has one. -/
def mark? : Error → Option Mark
  | .marked _ _ m => some m
  | _ => none

/-- The short description of an error. -/
def problem : Error → String
  | .unacceptable c position => unacceptableText c position
  | .marked _ p _ => p.text
  | .misfit _ => ""

/-- The long description of an error in a text, with the places it involves.
    Where both places are the same, it is shown once. -/
def full (text : List Char) : Error → String
  | .unacceptable c position => unacceptableText c position
  | .marked activity p m =>
    let context :=
      match activity with
      | none => []
      | some (a, none) => [a.text]
      | some (a, some start) =>
        if start.line = m.line ∧ start.column = m.column then [a.text]
        else [a.text, start.display text]
    "\n".intercalate (context ++ [p.text, m.display text])
  | .misfit _ => ""

end Error

end Folio.Yaml
