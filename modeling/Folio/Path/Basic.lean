/-
  Folio — paths.

  A path is written with slashes between its components.  One slash at the start
  makes it absolute, and so do two, which are kept; more than two are as one.

  * `Path` is a path without empty components and dots, the way folders are
    compared;
  * `Path.normalized` also takes back a component before two dots, the way
    documents are told apart.
-/
import Folio.Text.Search

namespace Folio

/-- A path: the slashes it starts with, and components that are neither empty
    nor a dot. -/
structure Path where
  root : List Char
  parts : List (List Char)
  deriving Repr, DecidableEq

namespace Path

/-- The slashes at the start that a path keeps. -/
def rootOf : List Char → List Char
  | '/' :: '/' :: '/' :: _ => ['/']
  | '/' :: '/' :: _ => ['/', '/']
  | '/' :: _ => ['/']
  | _ => []

/-- The components between slashes that are neither empty nor a dot. -/
def components (cs : List Char) : List (List Char) :=
  (Text.splitOn '/' cs).filter fun part => part != [] && part != ['.']

/-- Reads a path. -/
def ofString (s : String) : Path := ⟨rootOf s.toList, components s.toList⟩

/-- Writes a path; the empty one is a dot. -/
def write (root : List Char) (parts : List (List Char)) : String :=
  match root ++ ['/'].intercalate parts with
  | [] => "."
  | cs => String.ofList cs

/-- The path as it is written. -/
def text (p : Path) : String := write p.root p.parts

/-- The path without its last component. -/
def parent (p : Path) : Path := { p with parts := p.parts.dropLast }

/-- The last component. -/
def name (p : Path) : List Char := p.parts.getLastD []

/-- The last component without what follows its last dot; a dot at its start or
    end is no such dot. -/
def stem (p : Path) : List Char :=
  let name := p.name
  let after := name.reverse.takeWhile (· != '.')
  let before := name.dropLast.take (name.length - after.length - 1)
  if after.isEmpty || before.isEmpty || after.length == name.length then name else before

/-! ## Normal forms -/

/-- The components with each pair of dots taking back the component before it;
    those taken so far come latest first.  Nothing comes before the root. -/
def resolveDots (absolute : Bool) (taken : List (List Char)) :
    List (List Char) → List (List Char)
  | [] => taken.reverse
  | part :: parts =>
    if part = ['.', '.'] then
      match taken with
      | [] => resolveDots absolute (if absolute then [] else [part]) parts
      | last :: before =>
        resolveDots absolute (if last = ['.', '.'] then part :: taken else before) parts
    else resolveDots absolute (part :: taken) parts

/-- The normal form of a path as it is written. -/
def normalized (s : String) : String :=
  let p := ofString s
  write p.root (resolveDots (!p.root.isEmpty) [] p.parts)

/-- What comes before the last slash of a path.  Slashes at its end are left
    out, unless it has nothing else. -/
def directory (s : String) : String :=
  let head := (s.toList.reverse.dropWhile (· != '/')).reverse
  let bare := (head.reverse.dropWhile (· == '/')).reverse
  String.ofList (if bare.isEmpty then head else bare)

/-- A path seen from a directory. -/
def join (directory path : String) : String :=
  let d := directory.toList
  if path.toList.head? = some '/' then path
  else if d.isEmpty || d.getLast? = some '/' then directory ++ path
  else directory ++ "/" ++ path

end Path

end Folio
