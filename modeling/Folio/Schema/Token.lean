/-
  Folio — the words of schema sources.

  A token is a value, a name, a sign or the end of a line.  It stands on the line
  of its last character.
-/
import Folio.Yaml.Display

namespace Folio.Schema

/-- A value in a schema source. -/
inductive Scalar where
  | text (s : String)
  | int (i : Int)
  | float (x : Binary64)
  | bool (b : Bool)
  | null
  deriving Repr, DecidableEq

namespace Scalar

/-- The value as a value of YAML. -/
def toValue : Scalar → Value
  | text s => .text s
  | int i => .int i
  | float x => .float x
  | bool b => .bool b
  | null => .null

/-- The value as it stands in messages and lists of values. -/
def plainText (s : Scalar) : String := s.toValue.plainText

end Scalar

/-- The kinds of tokens. -/
inductive TokenKind where
  /-- A word without quotes. -/
  | word (s : String)
  | scalar (s : Scalar)
  | equals
  | opening
  | closing
  | semicolon
  | newline
  /-- The end of the source. -/
  | ending
  deriving Repr, DecidableEq

namespace TokenKind

/-- What messages call the kind. -/
def name : TokenKind → String
  | word _ => "ident"
  | scalar (.text _) => "string"
  | scalar (.int _) | scalar (.float _) => "number"
  | scalar (.bool _) => "bool"
  | scalar .null => "null"
  | equals => "="
  | opening => "\x7b"
  | closing => "\x7d"
  | semicolon => ";"
  | newline => "newline"
  | ending => "eof"

/-- The name that the token can be of a node or a property. -/
def name? : TokenKind → Option String
  | word s | scalar (.text s) => some s
  | _ => none

/-- The value that the token can be. -/
def value? : TokenKind → Option Scalar
  | word s => some (.text s)
  | scalar s => some s
  | _ => none

end TokenKind

/-- A token and the line of its last character. -/
structure Token where
  kind : TokenKind
  line : Nat
  deriving Repr, DecidableEq

end Folio.Schema
