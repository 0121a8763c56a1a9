/-
  Folio — normal forms of paths.

  Components that hold no slash and are neither empty nor a dot are read back as they
  are written (`Path.ofString_write`).  Once pairs of dots have taken back what they can,
  those that are left come first, and only in a path without a root
  (`Path.IsResolved`); nothing is left for them to take back.  So the normal form of a
  normal form is itself.

  * `Text.splitOn_intercalate`: parts without separators are read back;
  * `Path.resolveDots_of_isResolved`: components that stay as they are;
  * `Path.normalized_normalized`: normal forms are taken once.
-/
import Folio.Path.Basic

namespace Folio

/-! ## Parts between separators -/

namespace Text

variable {α : Type} [DecidableEq α] {sep : α}

/-- The parts on the two sides of a separator. -/
theorem splitOn_append (xs ys : List α) :
    splitOn sep (xs ++ sep :: ys) = splitOn sep xs ++ splitOn sep ys := by
  induction xs with
  | nil => simp [splitOn]
  | cons x xs ih =>
    by_cases hx : x = sep
    · simp [splitOn, hx, ih]
    · obtain ⟨part, parts, h⟩ := List.exists_cons_of_ne_nil (splitOn_ne_nil sep xs)
      simp [splitOn, hx, ih, h]

theorem splitOn_of_not_mem {part : List α} (h : sep ∉ part) : splitOn sep part = [part] := by
  induction part with
  | nil => rfl
  | cons x part ih =>
    obtain ⟨hx, hpart⟩ := not_or.1 (mt List.mem_cons.2 h)
    have hne : x ≠ sep := fun e => hx e.symm
    simp [splitOn, hne, ih hpart]

theorem splitOn_append_cons {part : List α} (h : sep ∉ part) (xs : List α) :
    splitOn sep (part ++ sep :: xs) = part :: splitOn sep xs := by
  rw [splitOn_append, splitOn_of_not_mem h]
  rfl

/-- Parts that hold no separator are read back as they are joined. -/
theorem splitOn_intercalate {parts : List (List α)} (hne : parts ≠ [])
    (h : ∀ part ∈ parts, sep ∉ part) : splitOn sep ([sep].intercalate parts) = parts := by
  induction parts with
  | nil => exact absurd rfl hne
  | cons part parts ih =>
    have hpart : sep ∉ part := h part List.mem_cons_self
    cases parts with
    | nil => rw [List.intercalate_singleton, splitOn_of_not_mem hpart]
    | cons next parts =>
      have hrest := ih (List.cons_ne_nil _ _) fun p hp => h p (List.mem_cons_of_mem _ hp)
      rw [List.intercalate_cons_cons, List.append_assoc, List.singleton_append,
        splitOn_append_cons hpart, hrest]

/-- Parts are joined in two goes, with a separator between. -/
theorem intercalate_append {β : Type} {sep : List β} {xs ys : List (List β)}
    (hxs : xs ≠ []) (hys : ys ≠ []) :
    sep.intercalate (xs ++ ys) = sep.intercalate xs ++ (sep ++ sep.intercalate ys) := by
  induction xs with
  | nil => exact absurd rfl hxs
  | cons x xs ih =>
    cases xs with
    | nil =>
      obtain ⟨y, ys, rfl⟩ := List.exists_cons_of_ne_nil hys
      simp [List.intercalate_cons_cons]
    | cons next xs =>
      have hrest := ih (List.cons_ne_nil _ _)
      simp only [List.cons_append, List.intercalate_cons_cons, List.append_assoc] at hrest ⊢
      rw [hrest]

theorem not_mem_of_mem_splitOn {xs part : List α} (h : part ∈ splitOn sep xs) : sep ∉ part := by
  induction xs generalizing part with
  | nil => simp_all [splitOn]
  | cons x xs ih =>
    rw [splitOn] at h
    split at h
    · rcases List.mem_cons.1 h with rfl | h
      · exact List.not_mem_nil
      · exact ih h
    · next hx =>
      obtain ⟨p, ps, hps⟩ := List.exists_cons_of_ne_nil (splitOn_ne_nil sep xs)
      rw [hps] at h ih
      rcases List.mem_cons.1 h with rfl | h
      · intro hmem
        rcases List.mem_cons.1 hmem with rfl | hmem
        · exact hx rfl
        · exact ih List.mem_cons_self hmem
      · exact ih (List.mem_cons_of_mem _ h)

end Text

namespace Path

/-! ## Reading what is written -/

/-- Something that can stand between slashes and is kept. -/
structure IsPart (part : List Char) : Prop where
  ne_nil : part ≠ []
  ne_dot : part ≠ ['.']
  no_slash : '/' ∉ part

theorem isPart_of_mem_components {cs part : List Char} (h : part ∈ components cs) : IsPart part := by
  obtain ⟨hmem, hkept⟩ := List.mem_filter.1 h
  have hkept : part ≠ [] ∧ part ≠ ['.'] := by simpa using hkept
  exact ⟨hkept.1, hkept.2, Text.not_mem_of_mem_splitOn hmem⟩

/-- The components on the two sides of a slash. -/
theorem components_append_slash (xs ys : List Char) :
    components (xs ++ '/' :: ys) = components xs ++ components ys := by
  rw [components, Text.splitOn_append, List.filter_append]
  rfl

theorem components_slash (cs : List Char) : components ('/' :: cs) = components cs :=
  components_append_slash [] cs

theorem components_intercalate {parts : List (List Char)} (h : ∀ part ∈ parts, IsPart part) :
    components (['/'].intercalate parts) = parts := by
  by_cases hne : parts = []
  · subst hne; rfl
  · rw [components, Text.splitOn_intercalate hne fun p hp => (h p hp).no_slash]
    exact List.filter_eq_self.2 fun p hp => by simp [(h p hp).ne_nil, (h p hp).ne_dot]

theorem head?_intercalate {parts : List (List Char)} (h : ∀ part ∈ parts, IsPart part) :
    (['/'].intercalate parts).head? ≠ some '/' := by
  cases parts with
  | nil => simp
  | cons part parts =>
    obtain ⟨hne, -, hslash⟩ := h part List.mem_cons_self
    obtain ⟨c, cs, rfl⟩ := List.exists_cons_of_ne_nil hne
    have hc : c ≠ '/' := fun e => hslash (e ▸ List.mem_cons_self)
    cases parts with
    | nil => simpa using hc
    | cons next parts => simpa [List.intercalate_cons_cons] using hc

theorem rootOf_cases (cs : List Char) :
    rootOf cs = [] ∨ rootOf cs = ['/'] ∨ rootOf cs = ['/', '/'] := by
  unfold rootOf
  split <;> simp

/-- What follows the slashes at the start does not count for the root. -/
theorem rootOf_append_left {cs : List Char} (h : cs.head? ≠ some '/') (xs : List Char) :
    rootOf (xs ++ cs) = rootOf xs := by
  cases cs with
  | nil => rw [List.append_nil]
  | cons c cs =>
    have hc : c ≠ '/' := by simpa using h
    rcases xs with _ | ⟨x, _ | ⟨y, _ | ⟨z, xs⟩⟩⟩
    · simp [rootOf, hc]
    · by_cases hx : x = '/' <;> simp [rootOf, hx, hc]
    · by_cases hx : x = '/' <;> by_cases hy : y = '/' <;> simp [rootOf, hx, hy, hc]
    · by_cases hx : x = '/' <;> by_cases hy : y = '/' <;> by_cases hz : z = '/' <;>
        simp [rootOf, hx, hy, hz]

/-- A root is read back if no slash follows it. -/
theorem rootOf_append {cs : List Char} (h : cs.head? ≠ some '/') {root : List Char}
    (hroot : root = [] ∨ root = ['/'] ∨ root = ['/', '/']) : rootOf (root ++ cs) = root := by
  rw [rootOf_append_left h]
  rcases hroot with rfl | rfl | rfl <;> rfl

theorem components_append {root : List Char}
    (hroot : root = [] ∨ root = ['/'] ∨ root = ['/', '/']) (cs : List Char) :
    components (root ++ cs) = components cs := by
  rcases hroot with rfl | rfl | rfl
  · rfl
  · exact components_slash cs
  · exact (components_slash ('/' :: cs)).trans (components_slash cs)

/-- **A path is read back as it is written.** -/
theorem ofString_write {root : List Char} {parts : List (List Char)}
    (hroot : root = [] ∨ root = ['/'] ∨ root = ['/', '/']) (h : ∀ part ∈ parts, IsPart part) :
    ofString (write root parts) = ⟨root, parts⟩ := by
  have hread : rootOf (root ++ ['/'].intercalate parts) = root ∧
      components (root ++ ['/'].intercalate parts) = parts :=
    ⟨rootOf_append (head?_intercalate h) hroot,
      (components_append hroot _).trans (components_intercalate h)⟩
  unfold write
  split
  · next hnil =>
    -- the empty path is written as a dot, which is no component
    rw [hnil] at hread
    obtain ⟨rfl, rfl⟩ := hread
    decide
  · rw [ofString, String.toList_ofList, hread.1, hread.2]

/-- A path is never written as nothing. -/
theorem write_ne_empty (root : List Char) (parts : List (List Char)) : write root parts ≠ "" := by
  unfold write
  split
  · decide
  · next hne =>
    intro h
    exact hne (by simpa using congrArg String.toList h)

/-- A path as reading leaves it: a root that is kept, and components. -/
structure IsProper (p : Path) : Prop where
  root : p.root = [] ∨ p.root = ['/'] ∨ p.root = ['/', '/']
  parts : ∀ part ∈ p.parts, IsPart part

theorem isProper_ofString (s : String) : (ofString s).IsProper :=
  ⟨rootOf_cases s.toList, fun _ => isPart_of_mem_components⟩

theorem IsProper.parent {p : Path} (h : p.IsProper) : p.parent.IsProper :=
  ⟨h.root, fun part hpart => h.parts part (List.dropLast_subset _ hpart)⟩

theorem IsProper.ofString_text {p : Path} (h : p.IsProper) : ofString p.text = p :=
  ofString_write h.root h.parts

/-- Paths that are written alike are the same. -/
theorem IsProper.text_inj {p q : Path} (hp : p.IsProper) (hq : q.IsProper) :
    p.text = q.text ↔ p = q :=
  ⟨fun h => by rw [← hp.ofString_text, h, hq.ofString_text], fun h => by rw [h]⟩

/-! ## Pairs of dots -/

/-- Components, the latest first, that no pair of dots among them can take back: such a
    pair has only others before it, and the path has no root. -/
def IsResolved (absolute : Bool) : List (List Char) → Prop
  | [] => True
  | part :: taken =>
    (part = ['.', '.'] → absolute = false ∧ ∀ p ∈ taken, p = ['.', '.']) ∧
      IsResolved absolute taken

variable {absolute : Bool} {taken parts : List (List Char)}

theorem IsResolved.of_append {later : List (List Char)} (h : IsResolved absolute (later ++ taken)) :
    IsResolved absolute taken := by
  induction later with
  | nil => exact h
  | cons part later ih => exact ih h.2

/-- **What a component does**: it is taken, or it is a pair of dots and the first one
    taken, or it takes back another or joins other pairs of dots. -/
theorem resolveDots_cons (absolute : Bool) (taken parts : List (List Char)) (part : List Char) :
    ∃ taken', resolveDots absolute taken (part :: parts) = resolveDots absolute taken' parts ∧
      ((part ≠ ['.', '.'] ∧ taken' = part :: taken) ∨
        (part = ['.', '.'] ∧ taken = [] ∧ taken' = if absolute then [] else [part]) ∨
        ∃ last before, taken = last :: before ∧ part = ['.', '.'] ∧
          taken' = if last = ['.', '.'] then part :: taken else before) := by
  by_cases hdots : part = ['.', '.']
  · cases taken with
    | nil => exact ⟨_, by simp [resolveDots, hdots], Or.inr (Or.inl ⟨hdots, rfl, rfl⟩)⟩
    | cons last before =>
      exact ⟨_, by simp [resolveDots, hdots], Or.inr (Or.inr ⟨last, before, rfl, hdots, rfl⟩)⟩
  · exact ⟨_, by simp [resolveDots, hdots], Or.inl ⟨hdots, rfl⟩⟩

theorem isResolved_resolveDots (h : IsResolved absolute taken) :
    IsResolved absolute (resolveDots absolute taken parts).reverse := by
  induction parts generalizing taken with
  | nil => simpa [resolveDots] using h
  | cons part parts ih =>
    obtain ⟨taken', heq, hcases⟩ := resolveDots_cons absolute taken parts part
    rw [heq]
    refine ih ?_
    rcases hcases with ⟨hdots, rfl⟩ | ⟨-, rfl, rfl⟩ | ⟨last, before, rfl, -, rfl⟩
    · exact ⟨fun e => absurd e hdots, h⟩
    · cases absolute with
      | true => trivial
      | false => exact ⟨fun _ => ⟨rfl, fun p hp => absurd hp List.not_mem_nil⟩, trivial⟩
    · split
      · next hlast =>
        obtain ⟨hrelative, hall⟩ := h.1 hlast
        exact ⟨fun _ => ⟨hrelative, List.forall_mem_cons.2 ⟨hlast, hall⟩⟩, h⟩
      · exact h.2

/-- **Components with nothing to take back** stay as they are. -/
theorem resolveDots_of_isResolved (h : IsResolved absolute (parts.reverse ++ taken)) :
    resolveDots absolute taken parts = taken.reverse ++ parts := by
  induction parts generalizing taken with
  | nil => simp [resolveDots]
  | cons part parts ih =>
    have hnext : IsResolved absolute (parts.reverse ++ (part :: taken)) := by simpa using h
    have hrest : resolveDots absolute (part :: taken) parts = taken.reverse ++ part :: parts := by
      simpa using ih hnext
    obtain ⟨taken', heq, hcases⟩ := resolveDots_cons absolute taken parts part
    rw [heq]
    rcases hcases with ⟨-, rfl⟩ | ⟨hdots, rfl, rfl⟩ | ⟨last, before, rfl, hdots, rfl⟩
    · exact hrest
    · obtain ⟨rfl, -⟩ := hnext.of_append.1 hdots
      exact hrest
    · obtain ⟨-, hall⟩ := hnext.of_append.1 hdots
      rw [if_pos (hall last List.mem_cons_self)]
      exact hrest

/-- Components are taken one after the other. -/
theorem resolveDots_append (absolute : Bool) (taken xs ys : List (List Char)) :
    resolveDots absolute taken (xs ++ ys) =
      resolveDots absolute (resolveDots absolute taken xs).reverse ys := by
  induction xs generalizing taken with
  | nil => simp [resolveDots]
  | cons x xs ih =>
    simp only [List.cons_append, resolveDots]
    split
    · split
      · exact ih _
      · exact ih _
    · exact ih _

theorem mem_resolveDots {p : List Char} (h : p ∈ resolveDots absolute taken parts) :
    p ∈ taken ∨ p ∈ parts := by
  induction parts generalizing taken with
  | nil => simpa [resolveDots] using h
  | cons part parts ih =>
    obtain ⟨taken', heq, hcases⟩ := resolveDots_cons absolute taken parts part
    rw [heq] at h
    rcases ih h with h | h
    · -- nothing is taken but what was there and the component itself
      have hsub : taken' ⊆ part :: taken := by
        rcases hcases with ⟨-, rfl⟩ | ⟨-, rfl, rfl⟩ | ⟨last, before, rfl, -, rfl⟩
        · exact List.Subset.refl _
        · cases absolute <;> simp
        · split
          · exact List.Subset.refl _
          · exact fun x hx => List.mem_cons_of_mem _ (List.mem_cons_of_mem _ hx)
      rcases List.mem_cons.1 (hsub h) with rfl | h
      · exact Or.inr List.mem_cons_self
      · exact Or.inl h
    · exact Or.inr (List.mem_cons_of_mem _ h)

/-- The path with pairs of dots having taken back what they can. -/
def resolved (p : Path) : Path := ⟨p.root, resolveDots (!p.root.isEmpty) [] p.parts⟩

theorem normalized_eq (s : String) : normalized s = (ofString s).resolved.text := rfl

theorem IsProper.resolved {p : Path} (h : p.IsProper) : p.resolved.IsProper where
  root := h.root
  parts part hpart := by
    rcases mem_resolveDots hpart with hpart | hpart
    · exact absurd hpart List.not_mem_nil
    · exact h.parts part hpart

/-- **A normal form is read** as the path in which dots have been resolved. -/
theorem ofString_normalized (s : String) : ofString (normalized s) = (ofString s).resolved :=
  (isProper_ofString s).resolved.ofString_text

theorem resolved_resolved (p : Path) : p.resolved.resolved = p.resolved := by
  have hresolved : IsResolved (!p.root.isEmpty)
      ((resolveDots (!p.root.isEmpty) [] p.parts).reverse ++ []) := by
    rw [List.append_nil]
    exact isResolved_resolveDots trivial
  rw [resolved, resolved, resolveDots_of_isResolved hresolved]
  rfl

/-- **The normal form of a normal form is itself.** -/
theorem normalized_normalized (s : String) : normalized (normalized s) = normalized s := by
  rw [normalized_eq, ofString_normalized, resolved_resolved, normalized_eq]

end Path

end Folio
