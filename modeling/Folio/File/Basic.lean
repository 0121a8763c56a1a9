/-
  Folio — files.

  What a program sees of the files around it is what reading at each path gives:
  the octets of a file, or why there are none.

  * `Files.readText` reads a file as text: UTF-8, with any line end as a line
    feed.
-/
import Folio.Text.Quoted
import Folio.Text.Utf8

namespace Folio

/-- Why a file cannot be read. -/
inductive FileError where
  | notFound
  /-- A file where the path needs a folder. -/
  | notFolder
  /-- The path is that of a folder. -/
  | isFolder
  | nameTooLong
  /-- The path holds a character that paths cannot hold. -/
  | nullCharacter
  /-- Another failure of the system, with its number and description. -/
  | other (number : Nat) (description : String)
  deriving Repr, DecidableEq

namespace FileError

/-- The number and the description that the system gives to an error; none if it
    is not asked. -/
def systemError? : FileError → Option (Nat × String)
  | notFound => some (2, "No such file or directory")
  | notFolder => some (20, "Not a directory")
  | isFolder => some (21, "Is a directory")
  | nameTooLong => some (36, "File name too long")
  | nullCharacter => none
  | other number description => some (number, description)

/-- What a message says of an error at a path. -/
def message (path : String) (e : FileError) : String :=
  match e.systemError? with
  | some (number, description) =>
    "[Errno " ++ toString number ++ "] " ++ description ++ ": " ++ Text.quotedString path
  | none => "embedded null byte"

end FileError

/-- What reading at each path gives. -/
abbrev Files := String → Except FileError Octets

/-! ## Texts -/

/-- A text with a line feed for each line end. -/
def Text.withLineFeeds : List Char → List Char
  | [] => []
  | '\r' :: '\n' :: cs => '\n' :: withLineFeeds cs
  | '\r' :: cs => '\n' :: withLineFeeds cs
  | c :: cs => c :: withLineFeeds cs

/-- Why a file cannot be read as a text. -/
inductive TextFileError where
  | file (e : FileError)
  | notText (f : Utf8.Fault)
  deriving Repr, DecidableEq

/-- The text of a file. -/
def Files.readText (files : Files) (path : String) : Except TextFileError (List Char) :=
  match files path with
  | .error e => .error (.file e)
  | .ok octets =>
    match Utf8.decode? octets with
    | .error f => .error (.notText f)
    | .ok cs => .ok (Text.withLineFeeds cs)

end Folio
