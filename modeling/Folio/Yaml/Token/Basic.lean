/-
  Folio — the tokens of YAML.

  Indentation counts as tokens of its own: a block collection has a token where
  it starts and one where it ends.
-/
import Folio.Yaml.Cursor

namespace Folio.Yaml

/-- What the tokens of a text say. -/
inductive TokenKind where
  | streamStart
  | streamEnd
  /-- The version of YAML that a document follows. -/
  | version (major minor : Nat)
  /-- A short form of tags. -/
  | handle (handle uri : List Char)
  /-- A directive without meaning. -/
  | otherDirective
  | documentStart
  | documentEnd
  | blockSequenceStart
  | blockMappingStart
  | blockEnd
  | flowSequenceStart
  | flowSequenceEnd
  | flowMappingStart
  | flowMappingEnd
  | key
  | value
  | blockEntry
  | flowEntry
  | alias (name : List Char)
  | anchor (name : List Char)
  /-- A tag; without a handle the suffix is the whole of it. -/
  | tag (handle : Option (List Char)) (suffix : List Char)
  /-- A scalar; a plain one is neither quoted nor a block scalar. -/
  | scalar (plain : Bool) (text : List Char)
  deriving Repr, DecidableEq, Inhabited

/-- What messages call a token. -/
def TokenKind.name : TokenKind → String
  | .streamStart => "<stream start>"
  | .streamEnd => "<stream end>"
  | .version .. | .handle .. | .otherDirective => "<directive>"
  | .documentStart => "<document start>"
  | .documentEnd => "<document end>"
  | .blockSequenceStart => "<block sequence start>"
  | .blockMappingStart => "<block mapping start>"
  | .blockEnd => "<block end>"
  | .flowSequenceStart => "["
  | .flowSequenceEnd => "]"
  | .flowMappingStart => "\x7b"
  | .flowMappingEnd => "\x7d"
  | .key => "?"
  | .value => ":"
  | .blockEntry => "-"
  | .flowEntry => ","
  | .alias _ => "<alias>"
  | .anchor _ => "<anchor>"
  | .tag .. => "<tag>"
  | .scalar .. => "<scalar>"

/-- Is the token a directive? -/
def TokenKind.isDirective : TokenKind → Bool
  | .version .. | .handle .. | .otherDirective => true
  | _ => false

/-- A token with the places where it starts and stops. -/
structure Token where
  kind : TokenKind
  start : Mark
  stop : Mark
  deriving Repr, DecidableEq, Inhabited

end Folio.Yaml
