/-
  Folio — trees of files.

  A tree holds files in folders, and a path is a walk through it that starts in the
  outermost folder.  Each step needs a folder to start from, also one that stays
  where it is.  Outside of the tree there are folders, but nothing is known by
  name.

  * `FileTree.read` is what reading at a path gives.
-/
import Folio.File.Basic
import Folio.Path.Basic

namespace Folio

/-- Files, each with the names that lead to it. -/
structure FileTree where
  files : List (List (List Char) × Octets)

namespace FileTree

/-- The tree of some files; of several at one path the last one counts. -/
def ofFiles (files : List (String × Octets)) : FileTree :=
  ⟨files.reverse.map fun (path, octets) =>
    (Path.resolveDots false [] (Path.ofString path).parts, octets)⟩

/-- Where a walk has come to. -/
inductive Place where
  /-- A folder in the tree, with the names that lead to it. -/
  | folder (names : List (List Char))
  /-- A folder outside. -/
  | outside
  | file (octets : Octets)

/-- The longest name, in octets. -/
def maxName : Nat := 255

/-- The longest path, in octets. -/
def maxPath : Nat := 4095

/-- What has a name that some names lead to. -/
def named (t : FileTree) (names : List (List Char)) : Except FileError Place :=
  match t.files.lookup names with
  | some octets => .ok (.file octets)
  | none =>
    if t.files.any fun f => names.isPrefixOf f.1 then .ok (.folder names) else .error .notFound

/-- A step to a name. -/
def step (t : FileTree) (place : Place) (name : List Char) : Except FileError Place :=
  match place with
  | .file _ => .error .notFolder
  | .outside =>
    if name = [] ∨ name = ['.'] ∨ name = ['.', '.'] then .ok .outside
    else if maxName < (Utf8.encode name).length then .error .nameTooLong
    else .error .notFound
  | .folder names =>
    if name = [] ∨ name = ['.'] then .ok place
    else if name = ['.', '.'] then
      .ok (if names.isEmpty then .outside else .folder names.dropLast)
    else if maxName < (Utf8.encode name).length then .error .nameTooLong
    else t.named (names ++ [name])

/-- What reading at a path gives. -/
def read (t : FileTree) : Files := fun path =>
  let cs := path.toList
  if cs.contains '\x00' then .error .nullCharacter
  else if cs.isEmpty then .error .notFound
  else if maxPath < (Utf8.encode cs).length then .error .nameTooLong
  else
    let start : Place := if cs.head? = some '/' then .outside else .folder []
    match (Text.splitOn '/' cs).foldlM t.step start with
    | .error e => .error e
    | .ok (.file octets) => .ok octets
    | .ok _ => .error .isFolder

end FileTree

end Folio
