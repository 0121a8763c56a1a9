/-
  Folio — JSON texts.

  A JSON text is written over several lines, each level two columns further in.
  Only ASCII characters are written: other characters are escaped by the numbers
  of their UTF-16 units.

  * `JsonTree.write` writes a tree, `JsonTree.quoted` a text.
-/
import Folio.Number.Layout

namespace Folio

/-- What a JSON text says. -/
inductive JsonTree where
  | null
  | bool (b : Bool)
  | int (i : Int)
  | float (x : Binary64)
  | text (s : String)
  | list (items : List JsonTree)
  | object (members : List (String × JsonTree))
  deriving Repr, Inhabited

namespace JsonTree

/-- A text, or nothing. -/
def ofText? : Option String → JsonTree
  | some s => text s
  | none => null

/-- A list of texts. -/
def texts (ss : List String) : JsonTree := list (ss.map text)

/-! ## Scalars -/

/-- The escape of a UTF-16 unit. -/
def unitEscape (n : Nat) : List Char := '\\' :: 'u' :: Text.hexText n 4

/-- A character as it is written in a text. -/
def charText (c : Char) : List Char :=
  if c = '"' ∨ c = '\\' then ['\\', c]
  else if ' ' ≤ c ∧ c ≤ '~' then [c]
  else if c = '\n' then ['\\', 'n']
  else if c = '\r' then ['\\', 'r']
  else if c = '\t' then ['\\', 't']
  else if c = '\x08' then ['\\', 'b']
  else if c = '\x0c' then ['\\', 'f']
  else if c.toNat < 0x10000 then unitEscape c.toNat
  else
    let n := c.toNat - 0x10000
    unitEscape (0xD800 + n / 0x400) ++ unitEscape (0xDC00 + n % 0x400)

/-- A text in quotes. -/
def quoted (s : String) : List Char := '"' :: s.toList.flatMap charText ++ ['"']

/-- A truth value. -/
def boolText (b : Bool) : String := if b then "true" else "false"

/-! ## Trees -/

/-- The start of a line at a level. -/
def lineStart (level : Nat) : List Char := '\n' :: List.replicate (2 * level) ' '

mutual

/-- A tree at a level. -/
def writeAt (level : Nat) : JsonTree → List Char
  | null => "null".toList
  | bool b => (boolText b).toList
  | int i => intText i
  | float x => FloatLayout.json.write x
  | text s => quoted s
  | list [] => ['[', ']']
  | list (item :: items) =>
    '[' :: lineStart (level + 1) ++ writeAt (level + 1) item ++ writeItems (level + 1) items ++
      lineStart level ++ [']']
  | object [] => ['\x7b', '\x7d']
  | object ((key, value) :: members) =>
    '\x7b' :: lineStart (level + 1) ++ quoted key ++ ':' :: ' ' :: writeAt (level + 1) value ++
      writeMembers (level + 1) members ++ lineStart level ++ ['\x7d']

/-- The items after the first. -/
def writeItems (level : Nat) : List JsonTree → List Char
  | [] => []
  | item :: items => ',' :: lineStart level ++ writeAt level item ++ writeItems level items

/-- The members after the first. -/
def writeMembers (level : Nat) : List (String × JsonTree) → List Char
  | [] => []
  | (key, value) :: members =>
    ',' :: lineStart level ++ quoted key ++ ':' :: ' ' :: writeAt level value ++
      writeMembers level members

end

/-- A tree as a text. -/
def write (t : JsonTree) : String := String.ofList (writeAt 0 t)

end JsonTree

end Folio
