/-
  Folio — the paths of a working set.

  Paths are entered one by one, and one whose normal form is there already is passed
  over.  So a working set has the normal forms of its paths, each once and where it
  first occurs, and a name stands for the first of them that has it.

  * `WorkingSet.paths_ofPaths`: the paths of a working set;
  * `WorkingSet.pairwise_idxOf_ofPaths`: their order;
  * `WorkingSet.named?_eq_some_iff_isFirst`: what a name stands for.
-/
import Mathlib.Data.List.Induction
import Mathlib.Data.List.Basic
import Folio.Proofs.Path.Normal
import Folio.Reference.WorkingSet

namespace Folio

/-! ## First occurrences -/

section
variable {α : Type}

/-- The first element of a list that has a property. -/
def IsFirst (P : α → Prop) (xs : List α) (x : α) : Prop :=
  ∃ before after, xs = before ++ x :: after ∧ P x ∧ ∀ y ∈ before, ¬ P y

theorem find?_eq_some_iff_isFirst {P : α → Prop} {p : α → Bool} (hp : ∀ x, p x = true ↔ P x)
    {xs : List α} {x : α} : xs.find? p = some x ↔ IsFirst P xs x := by
  rw [List.find?_eq_some_iff_append]
  constructor
  · rintro ⟨hx, before, after, hxs, hbefore⟩
    exact ⟨before, after, hxs, (hp x).1 hx, fun y hy h => by simpa [(hp y).2 h] using hbefore y hy⟩
  · rintro ⟨before, after, hxs, hx, hbefore⟩
    exact ⟨(hp x).2 hx, before, after, hxs, fun y hy => by simpa using mt (hp y).1 (hbefore y hy)⟩

variable [BEq α] [LawfulBEq α]

theorem eraseDups_append_singleton_of_mem {xs : List α} {x : α} (h : x ∈ xs) :
    (xs ++ [x]).eraseDups = xs.eraseDups := by
  rw [List.eraseDups_append, List.cons_removeAll, List.contains_iff_mem.2 h]
  simp

theorem eraseDups_append_singleton_of_not_mem {xs : List α} {x : α} (h : x ∉ xs) :
    (xs ++ [x]).eraseDups = xs.eraseDups ++ [x] := by
  have hnew : xs.contains x = false := by simpa using h
  rw [List.eraseDups_append, List.cons_removeAll, hnew]
  simp [List.eraseDups_cons]

/-- Elements without repetitions stand in the order of their first occurrences. -/
theorem pairwise_idxOf_eraseDups (xs : List α) :
    xs.eraseDups.Pairwise fun x y => xs.idxOf x < xs.idxOf y := by
  induction xs using List.reverseRecOn with
  | nil => exact List.Pairwise.nil
  | append_singleton xs z ih =>
    have hold : ∀ x ∈ xs.eraseDups, (xs ++ [z]).idxOf x = xs.idxOf x := fun x hx =>
      List.idxOf_append_of_mem (List.mem_eraseDups.1 hx)
    have hkept : xs.eraseDups.Pairwise fun x y => (xs ++ [z]).idxOf x < (xs ++ [z]).idxOf y :=
      ih.imp_of_mem fun hx hy hxy => by rwa [hold _ hx, hold _ hy]
    by_cases hz : z ∈ xs
    · rwa [eraseDups_append_singleton_of_mem hz]
    · rw [eraseDups_append_singleton_of_not_mem hz]
      refine List.pairwise_append.2 ⟨hkept, List.pairwise_singleton _ z, fun x hx y hy => ?_⟩
      obtain rfl := List.mem_singleton.1 hy
      rw [hold x hx, List.idxOf_append_of_notMem hz]
      exact Nat.lt_of_lt_of_le (List.idxOf_lt_length_of_mem (List.mem_eraseDups.1 hx))
        (Nat.le_add_right _ _)

end

namespace WorkingSet

/-! ## Paths -/

/-- **The paths of a working set** are the normal forms, each where it first occurs. -/
theorem paths_ofPaths (ps : List String) :
    (ofPaths ps).paths = (ps.map Path.normalized).eraseDups := by
  unfold ofPaths
  dsimp only
  induction ps using List.reverseRecOn with
  | nil => rfl
  | append_singleton ps p ih =>
    rw [List.foldl_append, List.foldl_cons, List.foldl_nil, ih, List.map_append, List.map_singleton,
      enter]
    by_cases h : Path.normalized p ∈ ps.map Path.normalized
    · rw [if_pos (List.mem_eraseDups.2 h), eraseDups_append_singleton_of_mem h]
    · rw [if_neg (mt List.mem_eraseDups.1 h), eraseDups_append_singleton_of_not_mem h]

theorem mem_paths_ofPaths {ps : List String} {path : String} :
    path ∈ (ofPaths ps).paths ↔ ∃ p ∈ ps, Path.normalized p = path := by
  rw [paths_ofPaths, List.mem_eraseDups, List.mem_map]

/-- Paths stand in the order in which their normal forms first occur. -/
theorem pairwise_idxOf_ofPaths (ps : List String) :
    (ofPaths ps).paths.Pairwise fun p q =>
      (ps.map Path.normalized).idxOf p < (ps.map Path.normalized).idxOf q := by
  rw [paths_ofPaths]
  exact pairwise_idxOf_eraseDups _

/-- A path is in a working set of paths in any way to write it. -/
theorem has_iff {w : WorkingSet} {path : String} :
    w.has path = true ↔ Path.normalized path ∈ w.paths := by
  rw [has, List.contains_iff_mem]

/-! ## Names -/

/-- A name in any case: that of a document, or its id. -/
def Fits (key path : String) : Prop :=
  Path.nameOf path = Text.upper key.toList ∨ Path.idOf path = Text.upper key.toList

theorem contains_keys_iff {key path : String} :
    (Path.keys path).contains (Text.upper key.toList) = true ↔ Fits key path := by
  rw [List.contains_iff_mem, Path.keys, List.mem_cons, List.mem_singleton, Fits, eq_comm,
    @eq_comm _ (Text.upper key.toList) (Path.idOf path)]

/-- **A name stands for the first path that it fits.** -/
theorem named?_eq_some_iff_isFirst {w : WorkingSet} {key path : String} :
    w.named? key = some path ↔ IsFirst (Fits key) w.paths path := by
  rw [named?_eq]
  exact find?_eq_some_iff_isFirst fun _ => contains_keys_iff

theorem named?_eq_none_iff {w : WorkingSet} {key : String} :
    w.named? key = none ↔ ∀ path ∈ w.paths, ¬ Fits key path := by
  rw [named?_eq, List.find?_eq_none]
  simp only [contains_keys_iff]

/-- Of documents with one name in two folders the first one counts. -/
example : (ofPaths ["a/ab-1.md", "b/AB_1.md", "a/./ab-1.md"]).named? "Ab-1" = some "a/ab-1.md" := by
  decide +kernel

end WorkingSet

end Folio
