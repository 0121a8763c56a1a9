/-
  Folio — finding and replacing parts of a list.

  All searches go from the left and take the first place that fits; the places
  that `replaceAll` treats do not overlap.

  * `dropStart?_eq_some_iff`: a list starts with another if something follows it there;
  * `find?_append`: a part that ends a list is found there;
  * `exists_of_find?_eq_some`: what is found stands there, and nowhere before;
  * `intercalate_splitOn`: joining the parts of a split list gives it back.
-/

namespace Folio.Text

variable {α : Type} [DecidableEq α]

/-- What follows `start` in the list, if the list starts with it. -/
def dropStart? : (start xs : List α) → Option (List α)
  | [], xs => some xs
  | _ :: _, [] => none
  | s :: start, x :: xs => if s = x then dropStart? start xs else none

theorem dropStart?_eq_some_iff {start xs ys : List α} :
    dropStart? start xs = some ys ↔ xs = start ++ ys := by
  induction start generalizing xs with
  | nil => simp [dropStart?]
  | cons s start ih =>
    cases xs with
    | nil => simp [dropStart?]
    | cons x xs =>
      by_cases h : s = x
      · simp [dropStart?, h, ih]
      · have hne : x ≠ s := fun e => h e.symm
        simp [dropStart?, h, hne]

theorem dropStart?_append (start xs : List α) : dropStart? start (start ++ xs) = some xs :=
  dropStart?_eq_some_iff.2 rfl

/-- Does the list end with these elements? -/
def endsWith (finish xs : List α) : Bool :=
  (dropStart? finish.reverse xs.reverse).isSome

theorem endsWith_iff {finish xs : List α} : endsWith finish xs = true ↔ finish <:+ xs := by
  rw [endsWith, Option.isSome_iff_exists, ← List.reverse_prefix]
  exact exists_congr fun ys => by rw [dropStart?_eq_some_iff, eq_comm]

/-- Where the part first occurs in the list. -/
def find? (part : List α) : (xs : List α) → Option Nat
  | [] => if part.isEmpty then some 0 else none
  | x :: xs =>
    if (dropStart? part (x :: xs)).isSome then some 0 else (find? part xs).map (· + 1)

/-- A part first occurs at the end of a list in which it does not occur, if its
    first element is none of its later ones. -/
theorem find?_append {x : α} {part xs : List α} (hx : x ∉ part) (h : ¬ (x :: part) <:+: xs)
    (ys : List α) : find? (x :: part) (xs ++ (x :: part) ++ ys) = some xs.length := by
  induction xs with
  | nil => simp [find?, dropStart?, dropStart?_append]
  | cons z zs ih =>
    have hz : dropStart? (x :: part) (z :: (zs ++ (x :: part) ++ ys)) = none := by
      refine Option.eq_none_iff_forall_not_mem.2 fun rest hrest => ?_
      have he : z :: zs ++ ((x :: part) ++ ys) = x :: part ++ rest := by
        simpa using dropStart?_eq_some_iff.1 hrest
      rcases List.append_eq_append_iff.1 he with ⟨as, hpart, hys⟩ | ⟨cs, hzs, -⟩
      · cases as with
        | nil => exact h ⟨[], [], by simp [hpart]⟩
        | cons a as =>
          obtain ⟨rfl, -⟩ := List.cons.inj hys
          obtain ⟨-, hpart⟩ := List.cons.inj hpart
          exact hx (hpart ▸ List.mem_append_right _ List.mem_cons_self)
      · exact h ⟨[], cs, by simp [hzs]⟩
    have hzs : ¬ (x :: part) <:+: zs := fun ⟨s, t, he⟩ => h ⟨z :: s, t, by simp [← he]⟩
    have ih := ih hzs
    simp only [List.cons_append] at ih ⊢
    rw [find?, hz, ih]
    rfl

/-- A part that is found stands there, and nowhere before. -/
theorem exists_of_find?_eq_some {part xs : List α} {n : Nat} (h : find? part xs = some n) :
    ∃ before after, xs = before ++ part ++ after ∧ before.length = n ∧
      ∀ b a, xs = b ++ part ++ a → n ≤ b.length := by
  induction xs generalizing n with
  | nil =>
    simp only [find?, List.isEmpty_iff, Option.ite_none_right_eq_some, Option.some.injEq] at h
    obtain ⟨rfl, rfl⟩ := h
    exact ⟨[], [], rfl, rfl, fun _ _ _ => Nat.zero_le _⟩
  | cons x xs ih =>
    rw [find?] at h
    split at h
    · next hstart =>
      obtain ⟨after, hafter⟩ := Option.isSome_iff_exists.1 hstart
      cases h
      exact ⟨[], after, dropStart?_eq_some_iff.1 hafter, rfl, fun _ _ _ => Nat.zero_le _⟩
    · next hstart =>
      obtain ⟨m, hm, rfl⟩ := Option.map_eq_some_iff.1 h
      obtain ⟨before, after, rfl, hlen, hfirst⟩ := ih hm
      refine ⟨x :: before, after, rfl, congrArg (· + 1) hlen, fun b a he => ?_⟩
      cases b with
      | nil => exact absurd (Option.isSome_iff_exists.2 ⟨a, dropStart?_eq_some_iff.2 he⟩) hstart
      | cons y b => exact Nat.succ_le_succ (hfirst b a (List.cons.inj he).2)

/-- The list with a new part for each occurrence of an old one; `skip` elements
    at its start belong to an occurrence that is already replaced. -/
def replaceFrom (old new : List α) : (skip : Nat) → List α → List α
  | _, [] => []
  | skip + 1, _ :: xs => replaceFrom old new skip xs
  | 0, x :: xs =>
    if (dropStart? old (x :: xs)).isSome then
      new ++ replaceFrom old new (old.length - 1) xs
    else x :: replaceFrom old new 0 xs

/-- The list with a new part for each occurrence of a nonempty old one. -/
def replaceAll (old new xs : List α) : List α := replaceFrom old new 0 xs

/-- The parts of a list between the elements equal to `sep`. -/
def splitOn (sep : α) : List α → List (List α)
  | [] => [[]]
  | x :: xs =>
    if x = sep then [] :: splitOn sep xs
    else
      match splitOn sep xs with
      | [] => [[x]]
      | part :: parts => (x :: part) :: parts

theorem splitOn_ne_nil (sep : α) (xs : List α) : splitOn sep xs ≠ [] := by
  cases xs with
  | nil => simp [splitOn]
  | cons x xs =>
    simp only [splitOn]
    split
    · simp
    · split <;> simp

/-- The parts of a text between the characters equal to `sep`. -/
def splitString (sep : Char) (s : String) : List String :=
  (splitOn sep s.toList).map String.ofList

/-- Joining the parts of a split list gives it back. -/
theorem intercalate_splitOn (sep : α) (xs : List α) :
    [sep].intercalate (splitOn sep xs) = xs := by
  induction xs with
  | nil => rfl
  | cons x xs ih =>
    obtain ⟨p, ps, h⟩ := List.exists_cons_of_ne_nil (splitOn_ne_nil sep xs)
    rw [h] at ih
    by_cases hx : x = sep
    · simpa [splitOn, hx, h, List.intercalate, List.intersperse] using ih
    · cases ps <;> simp_all [splitOn, List.intercalate, List.intersperse]

end Folio.Text
