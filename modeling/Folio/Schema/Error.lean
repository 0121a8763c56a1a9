/-
  Folio — what can be wrong with a schema source.

  Most errors stand on a line of the source.  The others are errors of what is
  read inside of it: a line that should go on, a number, a pattern.

  * `SchemaError.message` is the wording, `SchemaError.full` adds the line.
-/
import Folio.Pattern.Error
import Folio.Schema.Kind
import Folio.Schema.Token

namespace Folio

open Schema (Kind TokenKind)

/-- What is wrong on a line of a schema source. -/
inductive SchemaProblem where
  /-- A backslash in a text before a character that it cannot escape, or before
      none. -/
  | badEscape (c : Option Char)
  | unterminatedText
  | unterminatedRawText
  | unterminatedComment
  | unknownKeyword (word : String)
  | unexpectedCharacter (c : Char)
  /-- A brace is not closed. -/
  | unclosed
  /-- A brace is closed that is not open. -/
  | unopened
  | expectedName (found : TokenKind)
  | expectedValue (found : TokenKind)
  | unknownNode (name : String)
  /-- A node without the name of what it declares. -/
  | missingName (what : String)
  | notText (key node : String)
  | notBool (key node : String)
  | notCount (key node : String)
  | badPattern (pattern : String) (e : PatternError)
  | unknownKind (node kind : String)
  /-- A pattern for values that match none. -/
  | pointlessPattern (what name : String) (kind : Kind)
  | noValues (field : String)
  | unknownInTable (node : String)
  | sameColumn (name : String)
  | unknownInSection (section_ node : String)
  | sameSection (name : String)
  | unknownInType (type node : String)
  | sameField (name type : String)
  | unknownCardinality (text relation : String)
  | noPattern (rule : String)
  | unknownStrategy (rule text : String)
  | sameRelation (name : String)
  | sameType (name : String)
  deriving Repr, DecidableEq

/-- Why a source is no schema. -/
inductive SchemaError where
  | located (problem : SchemaProblem) (line : Nat)
  /-- A backslash says that the line goes on, but there is no next line. -/
  | lastLineGoesOn
  | number (e : NumberError)
  /-- A pattern asks for what patterns cannot do. -/
  | pattern (text : String) (e : PatternError)
  deriving Repr, DecidableEq

namespace SchemaProblem

/-- What a message says of a key whose value is of the wrong kind. -/
def propertyMessage (key node expected : String) : String :=
  "property '" ++ key ++ "' on '" ++ node ++ "' must be " ++ expected

/-- What a message says of a problem. -/
def message : SchemaProblem → String
  | badEscape c => "invalid escape '\\" ++ String.ofList c.toList ++ "' in string"
  | unterminatedText => "unterminated string"
  | unterminatedRawText => "unterminated raw string"
  | unterminatedComment => "unterminated block comment"
  | unknownKeyword word => "unknown keyword '" ++ word ++ "'"
  | unexpectedCharacter c => "unexpected character " ++ String.ofList (Text.quoted [c])
  | unclosed => "unclosed '\x7b'"
  | unopened => "unexpected '\x7d'"
  | expectedName found => "expected node name, found '" ++ found.name ++ "'"
  | expectedValue found => "expected a value, found '" ++ found.name ++ "'"
  | unknownNode name => "unknown top-level node: '" ++ name ++ "'"
  | missingName what => what ++ " node missing name"
  | notText key node => propertyMessage key node "a string"
  | notBool key node => propertyMessage key node "#true or #false"
  | notCount key node => propertyMessage key node "a non-negative integer"
  | badPattern pattern e =>
    "invalid pattern " ++ Text.quotedString pattern ++ ": " ++ e.message pattern.toList
  | unknownKind node kind => "unknown " ++ node ++ " type: '" ++ kind ++ "'"
  | pointlessPattern what name kind =>
    what ++ " '" ++ name ++ "' of type " ++ kind.name ++ " cannot have a pattern"
  | noValues field => "enum field '" ++ field ++ "' has no values defined"
  | unknownInTable node => "unknown node in table: '" ++ node ++ "'"
  | sameColumn name => "duplicate column '" ++ name ++ "' in table"
  | unknownInSection section_ node =>
    "unknown node in section '" ++ section_ ++ "': '" ++ node ++ "'"
  | sameSection name => "duplicate section '" ++ name ++ "' among siblings"
  | unknownInType type node => "unknown node in type '" ++ type ++ "': '" ++ node ++ "'"
  | sameField name type => "duplicate field '" ++ name ++ "' in type '" ++ type ++ "'"
  | unknownCardinality text relation =>
    "unknown cardinality '" ++ text ++ "' for relation '" ++ relation ++
      "', expected 'one' or 'many'"
  | noPattern rule => "ref-format '" ++ rule ++ "' missing pattern"
  | unknownStrategy rule text =>
    "ref-format '" ++ rule ++ "' has unknown strategy '" ++ text ++
      "', expected one of string-id, relative-path"
  | sameRelation name => "duplicate relation name '" ++ name ++ "'"
  | sameType name => "duplicate type '" ++ name ++ "'"

end SchemaProblem

namespace SchemaError

/-- The error with its line counted from another. -/
def below (line : Nat) : SchemaError → SchemaError
  | located problem l => located problem (line + l)
  | e => e

/-- The line of the error, or zero. -/
def line : SchemaError → Nat
  | located _ l => l
  | _ => 0

/-- What a message says of an error, without its line. -/
def message : SchemaError → String
  | located problem _ => problem.message
  | lastLineGoesOn => "substring not found"
  | number e => e.message
  | pattern text e => e.message text.toList

/-- What a message says of an error. -/
def full (e : SchemaError) : String :=
  if e.line = 0 then e.message else e.message ++ " (line " ++ toString e.line ++ ")"

end SchemaError

end Folio
