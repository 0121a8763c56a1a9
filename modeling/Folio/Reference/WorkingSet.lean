/-
  Folio — working sets.

  A working set holds the paths of the documents that references can point at,
  in normal form and each once.  A document is known by its path, by its name in
  uppercase and by the id that its name starts with.  Names and ids are entered in
  one table, path by path, and what is entered stays.

  * `Path.idOf` is the id, `WorkingSet.named?` looks names and ids up;
  * `Names.lookup_ofPaths`: what is found is the first document with the name or the
    id.
-/
import Folio.Path.Basic
import Folio.Text.Case
import Folio.Text.Digit

namespace Folio

namespace Path

/-- The name of a document: its last component in uppercase, without its
    ending. -/
def nameOf (path : String) : List Char := Text.upper (ofString path).stem

/-- The letters and the number that a name starts with, if a hyphen or nothing
    follows them. -/
def leadingId? (name : List Char) : Option (List Char) :=
  let letters := name.takeWhile fun c => 'A' ≤ c && c ≤ 'Z'
  let rest := name.drop letters.length
  let digits := (rest.drop 1).takeWhile Text.isDecimal
  let after := rest.drop (digits.length + 1)
  if letters.isEmpty || digits.isEmpty || rest.head? != some '-' then none
  else if after.isEmpty || after.head? == some '-' || after == ['\n'] then
    some (letters ++ '-' :: digits)
  else none

/-- The id of a document: the id that its name starts with, or its name, with
    hyphens for low lines. -/
def idOf (path : String) : List Char :=
  let name := (nameOf path).map fun c => if c = '_' then '-' else c
  (leadingId? name).getD name

/-- What a document is found by, its path apart: its name and its id. -/
def keys (path : String) : List (List Char) := [nameOf path, idOf path]

end Path

/-! ## Names -/

/-- Names and ids with the paths that they stand for. -/
abbrev Names := List (List Char × String)

namespace Names

/-- Enters a path under a name, unless the name stands for a path already. -/
def enter (names : Names) (path : String) (key : List Char) : Names :=
  match names.lookup key with
  | some _ => names
  | none => names ++ [(key, path)]

/-- Enters a path under its name and its id. -/
def enterKeys (names : Names) (path : String) : Names :=
  (Path.keys path).foldl (enter · path) names

theorem lookup_enter (names : Names) (path : String) (key k : List Char) :
    (names.enter path key).lookup k =
      (names.lookup k).or (if k = key then some path else none) := by
  unfold enter
  split
  · next p hp =>
    by_cases hk : k = key
    · subst hk; rw [hp]; rfl
    · simp [hk]
  · rw [List.lookup_append, List.lookup_cons]
    by_cases hk : k = key
    · simp [hk]
    · simp [hk, beq_eq_false_iff_ne.2 hk]

/-- What stands for a path stays; the new path fills what is left of its keys. -/
theorem lookup_enterKeys (names : Names) (path : String) (k : List Char) :
    (names.enterKeys path).lookup k =
      (names.lookup k).or (if (Path.keys path).contains k then some path else none) := by
  unfold enterKeys
  generalize Path.keys path = keys
  induction keys generalizing names with
  | nil => simp
  | cons key keys ih =>
    rw [List.foldl_cons, ih, lookup_enter, Option.or_assoc, List.contains_cons]
    by_cases hk : k = key
    · simp [hk]
    · simp [hk, beq_eq_false_iff_ne.2 hk]

/-- What the names and ids of some paths stand for. -/
def ofPaths (paths : List String) : Names := paths.foldl enterKeys []

/-- **A name or an id stands for the first path that has it.** -/
theorem lookup_ofPaths (paths : List String) (k : List Char) :
    (ofPaths paths).lookup k = paths.find? fun p => (Path.keys p).contains k := by
  have hfrom : ∀ names : Names, (paths.foldl enterKeys names).lookup k =
      (names.lookup k).or (paths.find? fun p => (Path.keys p).contains k) := by
    induction paths with
    | nil => simp
    | cons path paths ih =>
      intro names
      rw [List.foldl_cons, ih, lookup_enterKeys, Option.or_assoc, List.find?_cons]
      split <;> simp_all
  rw [ofPaths, hfrom, List.lookup_nil, Option.none_or]

end Names

/-! ## Working sets -/

/-- The paths that references can point at, in normal form and in order. -/
structure WorkingSet where
  paths : List String
  deriving Repr, DecidableEq

namespace WorkingSet

/-- Enters a path, unless its normal form is there already. -/
def enter (paths : List String) (path : String) : List String :=
  let p := Path.normalized path
  if p ∈ paths then paths else paths ++ [p]

/-- The working set of some paths; of paths with one normal form the first
    counts. -/
def ofPaths (paths : List String) : WorkingSet := ⟨paths.foldl enter []⟩

/-- Is the path among those of the set? -/
def has (w : WorkingSet) (path : String) : Bool := w.paths.contains (Path.normalized path)

/-- What a name or an id stands for, in any case. -/
def named? (w : WorkingSet) (key : String) : Option String :=
  (Names.ofPaths w.paths).lookup (Text.upper key.toList)

theorem named?_eq (w : WorkingSet) (key : String) :
    w.named? key = w.paths.find? fun p => (Path.keys p).contains (Text.upper key.toList) :=
  Names.lookup_ofPaths w.paths _

end WorkingSet

end Folio
