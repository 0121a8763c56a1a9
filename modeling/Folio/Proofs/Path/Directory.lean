/-
  Folio — paths seen from a directory.

  A path is joined to a directory by a slash, so the components of both come one after
  the other, and the root is that of the directory (`Path.ofString_join`).  What a path
  has before its last component is read as its directory (`Path.ofString_of_endsInName`).
  Dots are resolved from the left, and an ordinary name at the end stays where it is; so
  two ways to write a path, with such a name at the end, have directories that differ
  only in the way they are written.

  * `Path.normalized_join_directory`: what is seen from the directories of two paths with
    one normal form is the same.
-/
import Mathlib.Data.List.DropRight
import Folio.Proofs.Path.Normal

namespace Folio

namespace Path

/-! ## Joined paths -/

/-- Slashes at the end add no component. -/
theorem components_append_slashes {zs : List Char} (hz : ∀ z ∈ zs, z = '/') (xs : List Char) :
    components (xs ++ zs) = components xs := by
  induction zs generalizing xs with
  | nil => rw [List.append_nil]
  | cons z zs ih =>
    obtain ⟨rfl, hzs⟩ := List.forall_mem_cons.1 hz
    rw [components_append_slash, ← List.nil_append zs, ih hzs]
    exact List.append_nil _

/-- A slash at the end parts the components like one between them. -/
theorem components_append_of_ends {xs : List Char} (h : xs = [] ∨ xs.getLast? = some '/')
    (ys : List Char) : components (xs ++ ys) = components xs ++ components ys := by
  rcases h with rfl | h
  · rfl
  · obtain ⟨xs, rfl⟩ := List.getLast?_eq_some_iff.1 h
    rw [List.append_assoc, List.singleton_append, components_append_slash,
      components_append_slashes (fun z hz => List.mem_singleton.1 hz)]

/-- Only what comes before the last character that is no slash counts for the root. -/
theorem rootOf_append_of_not_slash {xs : List Char} {c : Char} (h : xs.getLast? = some c)
    (hc : c ≠ '/') (ys : List Char) : rootOf (xs ++ ys) = rootOf xs := by
  obtain ⟨xs, rfl⟩ := List.getLast?_eq_some_iff.1 h
  have hfirst : ∀ zs : List Char, (c :: zs).head? ≠ some '/' := fun zs e => hc (Option.some.inj e)
  rw [List.append_assoc, List.singleton_append, rootOf_append_left (hfirst ys),
    rootOf_append_left (hfirst [])]

/-- **A path without a root, seen from a directory**, has the root of the directory and
    the components of both. -/
theorem ofString_join (directory : String) {path : String} (h : path.toList.head? ≠ some '/') :
    ofString (join directory path) =
      ⟨(ofString directory).root, (ofString directory).parts ++ (ofString path).parts⟩ := by
  unfold join
  dsimp only
  rw [if_neg h]
  split
  · next hends =>
    have hends : directory.toList = [] ∨ directory.toList.getLast? = some '/' := by
      simpa using hends
    simp only [ofString, String.toList_append]
    rw [rootOf_append_left h, components_append_of_ends hends]
  · next hends =>
    obtain ⟨hne, hlast⟩ : directory.toList ≠ [] ∧ directory.toList.getLast? ≠ some '/' := by
      simpa using hends
    obtain ⟨c, hc⟩ := Option.ne_none_iff_exists'.1 (mt List.getLast?_eq_none_iff.1 hne)
    have hslash : c ≠ '/' := fun e => hlast (e ▸ hc)
    have hjoined : (directory ++ "/" ++ path).toList = directory.toList ++ '/' :: path.toList := by
      simp
    simp only [ofString, hjoined]
    rw [rootOf_append_of_not_slash hc hslash, components_append_slash]

/-! ## Directories -/

/-- What a path has up to its last slash. -/
def beforeName (s : String) : List Char := s.toList.rdropWhile (· != '/')

/-- What follows the last slash of a path. -/
def lastName (s : String) : List Char := s.toList.rtakeWhile (· != '/')

/-- The path ends in an ordinary name, neither empty nor dots that stand for a
    directory. -/
def EndsInName (s : String) : Prop := lastName s ∉ [[], ['.'], ['.', '.']]

instance (s : String) : Decidable (EndsInName s) :=
  inferInstanceAs (Decidable (lastName s ∉ [[], ['.'], ['.', '.']]))

theorem beforeName_append_lastName (s : String) : beforeName s ++ lastName s = s.toList :=
  List.rdropWhile_append_rtakeWhile

theorem beforeName_ends (s : String) : beforeName s = [] ∨ (beforeName s).getLast? = some '/' := by
  by_cases h : beforeName s = []
  · exact Or.inl h
  · have hlast : (beforeName s).getLast h = '/' := by
      simpa [beforeName] using List.rdropWhile_last_not (· != '/') s.toList h
    exact Or.inr (by rw [List.getLast?_eq_getLast_of_ne_nil h, hlast])

theorem slash_not_mem_lastName (s : String) : '/' ∉ lastName s := by
  intro h
  have hkept := List.mem_rtakeWhile_imp h
  simp at hkept

/-- The directory is read like what comes before the last slash. -/
theorem ofString_directory (s : String) :
    ofString (directory s) = ⟨rootOf (beforeName s), components (beforeName s)⟩ := by
  have hdirectory : (directory s).toList = if ((beforeName s).rdropWhile (· == '/')).isEmpty then
      beforeName s else (beforeName s).rdropWhile (· == '/') := String.toList_ofList
  rw [ofString, hdirectory]
  split
  · rfl
  · next hbare =>
    have hbare : (beforeName s).rdropWhile (· == '/') ≠ [] := by simpa using hbare
    have hsplit : (beforeName s).rdropWhile (· == '/') ++ (beforeName s).rtakeWhile (· == '/') =
        beforeName s := List.rdropWhile_append_rtakeWhile
    have hslashes : ∀ z ∈ (beforeName s).rtakeWhile (· == '/'), z = '/' := fun z hz => by
      simpa using List.mem_rtakeWhile_imp hz
    have hlast := List.rdropWhile_last_not (· == '/') (beforeName s) hbare
    have hroot := rootOf_append_of_not_slash (List.getLast?_eq_getLast_of_ne_nil hbare)
      (by simpa using hlast) ((beforeName s).rtakeWhile (· == '/'))
    have hparts := components_append_slashes hslashes ((beforeName s).rdropWhile (· == '/'))
    rw [hsplit] at hroot hparts
    rw [hroot, hparts]

/-- **A path that ends in a name** has it as its last component, after those of its
    directory. -/
theorem ofString_of_endsInName {s : String} (h : EndsInName s) :
    ofString s = ⟨(ofString (directory s)).root, (ofString (directory s)).parts ++ [lastName s]⟩ := by
  obtain ⟨hne, hdot, -⟩ : lastName s ≠ [] ∧ lastName s ≠ ['.'] ∧ lastName s ≠ ['.', '.'] := by
    simpa [EndsInName] using h
  have hname : components (lastName s) = [lastName s] := by
    rw [components, Text.splitOn_of_not_mem (slash_not_mem_lastName s)]
    simp [hne, hdot]
  have hfirst : (lastName s).head? ≠ some '/' := fun e =>
    slash_not_mem_lastName s (List.mem_of_mem_head? e)
  rw [ofString_directory, ofString, ← beforeName_append_lastName, rootOf_append_left hfirst,
    components_append_of_ends (beforeName_ends s), hname]

/-! ## Normal forms -/

/-- Dots are resolved from the left: what comes later finds the path resolved. -/
theorem resolved_append (root : List Char) (xs ys : List (List Char)) :
    (⟨root, xs ++ ys⟩ : Path).resolved =
      ⟨root, resolveDots (!root.isEmpty) (resolved ⟨root, xs⟩).parts.reverse ys⟩ := by
  rw [resolved, resolveDots_append]
  rfl

/-- An ordinary name at the end stays there. -/
theorem resolved_append_name (root : List Char) (xs : List (List Char)) {name : List Char}
    (h : name ≠ ['.', '.']) : (⟨root, xs ++ [name]⟩ : Path).resolved =
      ⟨root, (resolved ⟨root, xs⟩).parts ++ [name]⟩ := by
  simp [resolved_append, resolveDots, h]

theorem resolved_of_append_name {x y : Path} {m n : List Char} (hm : m ≠ ['.', '.'])
    (hn : n ≠ ['.', '.'])
    (h : (⟨x.root, x.parts ++ [m]⟩ : Path).resolved = (⟨y.root, y.parts ++ [n]⟩ : Path).resolved) :
    x.resolved = y.resolved := by
  rw [resolved_append_name _ _ hm, resolved_append_name _ _ hn] at h
  obtain ⟨hroot, hparts⟩ := Path.mk.inj h
  exact congrArg₂ Path.mk hroot (List.append_inj' hparts rfl).1

/-- Two ways to write a path that ends in a name have directories with one normal form. -/
theorem resolved_directory {p q : String} (hp : EndsInName p) (hq : EndsInName q)
    (h : normalized p = normalized q) :
    (ofString (directory p)).resolved = (ofString (directory q)).resolved := by
  have hresolved : (ofString p).resolved = (ofString q).resolved := by
    rw [← ofString_normalized, h, ofString_normalized]
  have hdots : ∀ {s}, EndsInName s → lastName s ≠ ['.', '.'] := fun hs e => hs (by simp [e])
  rw [ofString_of_endsInName hp, ofString_of_endsInName hq] at hresolved
  exact resolved_of_append_name (hdots hp) (hdots hq) hresolved

/-- What is seen from a directory depends on its normal form only. -/
theorem normalized_join_congr {a b : String} (h : (ofString a).resolved = (ofString b).resolved)
    (path : String) : normalized (join a path) = normalized (join b path) := by
  by_cases hroot : path.toList.head? = some '/'
  · simp only [join, if_pos hroot]
  · have hroots : (ofString a).root = (ofString b).root := (Path.mk.inj h).1
    rw [normalized_eq, normalized_eq, ofString_join a hroot, ofString_join b hroot, resolved_append,
      resolved_append, h, hroots]

/-- **Seen from the directories of two ways to write a path**, with an ordinary name at
    the end, a path is the same. -/
theorem normalized_join_directory {p q : String} (hp : EndsInName p) (hq : EndsInName q)
    (h : normalized p = normalized q) (path : String) :
    normalized (join (directory p) path) = normalized (join (directory q) path) :=
  normalized_join_congr (resolved_directory hp hq h) path

/-- Where pairs of dots end a path, its directory depends on how it is written. -/
example : normalized "x/.." = normalized "." ∧
    normalized (join (directory "x/..") "b") = "x/b" ∧
    normalized (join (directory ".") "b") = "b" := by
  decide

end Path

end Folio
