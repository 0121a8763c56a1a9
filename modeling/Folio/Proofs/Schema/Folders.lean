/-
  Folio — the type of a folder.

  Folders are compared as they are written, by how their texts end, and of several the
  longest text counts.  What is meant are components: a directory lies in a folder with
  whose components it ends, and the folder with the most components counts.  Lengths of
  texts tell the same because all folders of one directory are ends of it, so that each
  is an end of the longer ones.

  * `Path.Contains`: a folder and a directory, by components;
  * `Schema.folderHas_iff`: how the texts end tells what the components say;
  * `Path.Contains.length_text_lt_iff`: and so do the lengths of the texts;
  * `Schema.typeOf_typeOfPath?`: the type of a path is one with a folder that contains
    it and has the most components, the first if several have that folder.
-/
import Mathlib.Data.List.MinMax
import Folio.Proofs.Path.Normal
import Folio.Schema.Basic

namespace Folio

namespace Schema

/-- **The largest element that is found** is larger than all that come before it. -/
theorem exists_split_of_mem_argmax {α : Type} {f : α → Nat} {xs : List α} {x : α}
    (h : x ∈ xs.argmax f) :
    ∃ before after, xs = before ++ x :: after ∧ ∀ y ∈ before, f y < f x := by
  induction xs using List.reverseRecOn with
  | nil => simp at h
  | append_singleton xs last ih =>
    rw [List.argmax_concat] at h
    cases hbest : xs.argmax f with
    | none =>
      rw [hbest] at h
      obtain rfl := List.argmax_eq_none.1 hbest
      obtain rfl : last = x := by simpa using h
      exact ⟨[], [], rfl, by simp⟩
    | some best =>
      simp only [hbest] at h
      split at h
      · next hlt =>
        obtain rfl : last = x := by simpa using h
        exact ⟨xs, [], rfl, fun y hy => (List.le_of_mem_argmax hy hbest).trans_lt hlt⟩
      · obtain rfl : best = x := by simpa using h
        obtain ⟨before, after, rfl, hbefore⟩ := ih hbest
        exact ⟨before, after ++ [last], by simp, hbefore⟩

/-- What the largest of the values comes from is the first that has such a value. -/
theorem exists_split_of_mem_argmax_filterMap {α β : Type} {f : α → Option β} {g : β → Nat}
    {xs : List α} {b : β} (h : b ∈ (xs.filterMap f).argmax g) :
    ∃ before x after, xs = before ++ x :: after ∧ f x = some b ∧
      ∀ y ∈ before, ∀ c, f y = some c → g c < g b := by
  obtain ⟨kept, rest, hsplit, hkept⟩ := exists_split_of_mem_argmax h
  obtain ⟨first, later, rfl, rfl, hlater⟩ := List.filterMap_eq_append_iff.1 hsplit
  obtain ⟨skipped, x, after, rfl, hskipped, hx, -⟩ := List.filterMap_eq_cons_iff.1 hlater
  refine ⟨first ++ skipped, x, after, by simp, hx, fun y hy c hc => ?_⟩
  rcases List.mem_append.1 hy with hy | hy
  · exact hkept c (List.mem_filterMap.2 ⟨y, hy, hc⟩)
  · exact absurd (hc.symm.trans (hskipped y hy)) (Option.some_ne_none c)

end Schema

/-! ## Folders by their components -/

namespace Path

/-- The directory of a path that names none. -/
def here : Path := ⟨[], []⟩

theorem isProper_here : here.IsProper := ⟨Or.inl rfl, fun _ hpart => absurd hpart List.not_mem_nil⟩

/-- The folder contains the documents of the directory: the directory ends with its
    components, and if there are none, it is no directory. -/
def Contains (folder directory : Path) : Prop :=
  if folder = here then directory = here else folder.parts <:+ directory.parts

variable {p folder folder' directory : Path}

theorem eq_here_iff (hroot : p.root = []) : p = here ↔ p.parts = [] := by
  obtain ⟨root, parts⟩ := p
  obtain rfl : root = [] := hroot
  simp [here]

theorem Contains.suffix (h : folder.Contains directory) : folder.parts <:+ directory.parts := by
  unfold Contains at h
  split at h
  · next hhere =>
    rw [hhere]
    exact List.nil_suffix
  · exact h

/-- A path with components is written as its root and them. -/
theorem IsProper.toList_text (hp : p.IsProper) (hne : p.parts ≠ []) :
    p.text.toList = p.root ++ ['/'].intercalate p.parts := by
  unfold text write
  split
  · next hnil =>
    have hparts := components_intercalate hp.parts
    rw [(List.append_eq_nil_iff.1 hnil).2] at hparts
    exact absurd hparts.symm hne
  · rw [String.toList_ofList]

theorem IsProper.components_text (hp : p.IsProper) : components p.text.toList = p.parts :=
  congrArg Path.parts hp.ofString_text

/-- What a path ends with after a slash are its last components. -/
theorem IsProper.suffix_text_iff (hp : p.IsProper) {parts : List (List Char)}
    (hparts : ∀ part ∈ parts, IsPart part) (hne : parts ≠ []) :
    (p = ⟨[], parts⟩ ∨ '/' :: ['/'].intercalate parts <:+ p.text.toList) ↔
      parts <:+ p.parts := by
  constructor
  · rintro (rfl | ⟨start, htext⟩)
    · exact List.suffix_refl _
    · refine ⟨components start, ?_⟩
      rw [← hp.components_text, ← htext, components_append_slash, components_intercalate hparts]
  · rintro ⟨first, hfirst⟩
    have htext := hp.toList_text (hfirst ▸ List.append_ne_nil_of_right_ne_nil first hne)
    rw [htext, ← hfirst]
    by_cases hnil : first = []
    · -- nothing comes before the components but the root, which ends with a slash
      subst hnil
      obtain rfl : parts = p.parts := hfirst
      rcases hp.root with hroot | hroot | hroot
      · exact Or.inl (by rw [← hroot])
      · exact Or.inr ⟨[], by rw [hroot]; rfl⟩
      · exact Or.inr ⟨['/'], by rw [hroot]; rfl⟩
    · refine Or.inr ⟨p.root ++ ['/'].intercalate first, ?_⟩
      rw [Text.intercalate_append hnil hne, List.append_assoc]
      rfl

/-- A relative path with more components that ends like another is written longer. -/
theorem IsProper.length_text_lt {q : Path} (hp : p.IsProper) (hq : q.IsProper)
    (hroot : p.root = []) (hne : p.parts ≠ []) (hsuffix : p.parts <:+ q.parts)
    (hlt : p.parts.length < q.parts.length) : p.text.length < q.text.length := by
  obtain ⟨first, hfirst⟩ := hsuffix
  have hnil : first ≠ [] := by
    rintro rfl
    rw [← hfirst] at hlt
    exact lt_irrefl _ hlt
  have hq' := hq.toList_text (hfirst ▸ List.append_ne_nil_of_right_ne_nil first hne)
  rw [← hfirst, Text.intercalate_append hnil hne] at hq'
  rw [← String.length_toList, ← String.length_toList, hp.toList_text hne, hroot, hq']
  simp only [List.length_append, List.length_cons, List.length_nil]
  omega

theorem Contains.suffix_of_length_le (h : folder.Contains directory)
    (h' : folder'.Contains directory) (hle : folder.parts.length ≤ folder'.parts.length) :
    folder.parts <:+ folder'.parts :=
  List.suffix_of_suffix_length_le h.suffix h'.suffix hle

theorem Contains.length_text_lt (h : folder.Contains directory) (h' : folder'.Contains directory)
    (hp : folder.IsProper) (hp' : folder'.IsProper) (hroot : folder.root = [])
    (hlt : folder.parts.length < folder'.parts.length) :
    folder.text.length < folder'.text.length := by
  refine hp.length_text_lt hp' hroot ?_ (h.suffix_of_length_le h' hlt.le) hlt
  intro hnil
  -- the dot contains no directory, and what contains none has no components
  obtain rfl := (eq_here_iff hroot).2 hnil
  obtain rfl : directory = here := by simpa [Contains] using h
  rw [List.suffix_nil.1 h'.suffix] at hlt
  exact lt_irrefl _ hlt

/-- **Of two relative folders of one directory** the one with more components is
    written longer. -/
theorem Contains.length_text_lt_iff (h : folder.Contains directory)
    (h' : folder'.Contains directory) (hp : folder.IsProper) (hp' : folder'.IsProper)
    (hroot : folder.root = []) (hroot' : folder'.root = []) :
    folder.text.length < folder'.text.length ↔ folder.parts.length < folder'.parts.length := by
  refine ⟨fun hlt => ?_, h.length_text_lt h' hp hp' hroot⟩
  rcases lt_trichotomy folder.parts.length folder'.parts.length with hlen | hlen | hlen
  · exact hlen
  · have hparts := (h.suffix_of_length_le h' hlen.le).eq_of_length hlen
    rw [text, text, hroot, hroot', hparts] at hlt
    exact absurd hlt (lt_irrefl _)
  · exact absurd hlt (h'.length_text_lt h hp' hp hroot' hlen).not_gt

end Path

/-! ## The type of a path -/

namespace Schema

/-- **The texts of a folder and a directory** tell what their components say. -/
theorem folderHas_iff {folder directory : Path} (hf : folder.IsProper) (hd : directory.IsProper)
    (hroot : folder.root = []) :
    folderHas folder.text directory.text = true ↔ folder.Contains directory := by
  have hdot : ∀ {p : Path}, p.IsProper → (p.text = "." ↔ p = Path.here) := fun hp =>
    hp.text_inj Path.isProper_here
  unfold folderHas Path.Contains
  by_cases hhere : folder = Path.here
  · rw [if_pos ((hdot hf).2 hhere), if_pos hhere, decide_eq_true_iff, hdot hd]
  · have hne : folder.parts ≠ [] := fun hnil => hhere ((Path.eq_here_iff hroot).2 hnil)
    have hfolder : folder = ⟨[], folder.parts⟩ := by rw [← hroot]
    rw [if_neg (mt (hdot hf).1 hhere), if_neg hhere, Bool.or_eq_true, decide_eq_true_iff,
      hd.text_inj hf, Text.endsWith_iff, hf.toList_text hne, hroot, List.nil_append,
      ← hd.suffix_text_iff hf.parts hne, ← hfolder]

/-- The folder of a type. -/
def DocType.path? (t : DocType) : Option Path := t.folder.map Path.ofString

/-- The type has the folder, and the document lies in it. -/
def DocType.Keeps (t : DocType) (folder : Path) (path : String) : Prop :=
  t.path? = some folder ∧ folder.Contains (Path.ofString path).parent

/-- The folder of the type, if it has one, does not start with a slash. -/
def DocType.IsRelative (t : DocType) : Prop := ∀ folder ∈ t.path?, folder.root = []

instance (t : DocType) : Decidable t.IsRelative :=
  inferInstanceAs (Decidable (∀ folder ∈ t.path?, folder.root = []))

/-- What the search for the type of a path keeps of a type. -/
def DocType.fit? (path : String) (t : DocType) : Option (DocType × Nat) :=
  match t.folder with
  | none => none
  | some folder =>
    let folder := (Path.ofString folder).text
    if folderHas folder (Path.ofString path).parent.text then some (t, folder.length) else none

theorem typeOfPath?_eq (s : Schema) (path : String) :
    s.typeOfPath? path = ((s.types.filterMap (·.fit? path)).argmax (·.2)).map (·.1) := by
  unfold typeOfPath? List.argmax
  simp only
  congr 2
  funext best f
  cases best <;> rfl

theorem DocType.fit?_eq_some_iff {t : DocType} (ht : t.IsRelative) {path : String}
    {f : DocType × Nat} :
    t.fit? path = some f ↔ ∃ folder, t.Keeps folder path ∧ f = (t, folder.text.length) := by
  have hproper : ∀ p : String, (Path.ofString p).IsProper := Path.isProper_ofString
  unfold fit? Keeps path?
  cases hfolder : t.folder with
  | none => simp
  | some folder =>
    have hroot : (Path.ofString folder).root = [] := ht _ (by simp [path?, hfolder])
    have hhas := folderHas_iff (hproper folder) (hproper path).parent hroot
    simp only [Option.map_some, Option.some.injEq, exists_eq_left', and_assoc, ← hhas]
    split
    · next h => simp [h, eq_comm]
    · next h => simp [h]

theorem DocType.Keeps.isProper {t : DocType} {folder : Path} {path : String}
    (h : t.Keeps folder path) : folder.IsProper := by
  obtain ⟨written, -, rfl⟩ := Option.map_eq_some_iff.1 h.1
  exact Path.isProper_ofString written

/-- **The type of a path**: none, if no type has a folder that contains the path; else a
    type with such a folder, of those with the most components the one that is declared
    first. -/
inductive TypeOf (s : Schema) (path : String) : Option DocType → Prop
  | none (h : ∀ t ∈ s.types, ∀ folder, ¬ t.Keeps folder path) : TypeOf s path none
  | some {before after : List DocType} {t : DocType} {folder : Path}
      (htypes : s.types = before ++ t :: after) (hkeeps : t.Keeps folder path)
      (hmost : ∀ t' ∈ s.types, ∀ folder', t'.Keeps folder' path →
        folder'.parts.length ≤ folder.parts.length)
      (hfirst : ∀ t' ∈ before, t'.path? ≠ some folder) : TypeOf s path (some t)

theorem typeOf_typeOfPath? {s : Schema} (hs : ∀ t ∈ s.types, t.IsRelative) (path : String) :
    s.TypeOf path (s.typeOfPath? path) := by
  rw [typeOfPath?_eq]
  have hfit : ∀ t ∈ s.types, ∀ folder, t.Keeps folder path →
      t.fit? path = some (t, folder.text.length) := fun t ht folder hkeeps =>
    (DocType.fit?_eq_some_iff (hs t ht)).2 ⟨folder, hkeeps, rfl⟩
  cases hbest : (s.types.filterMap (·.fit? path)).argmax (·.2) with
  | none =>
    have hnone := List.filterMap_eq_nil_iff.1 (List.argmax_eq_none.1 hbest)
    exact TypeOf.none fun t ht folder hkeeps =>
      Option.some_ne_none _ ((hfit t ht folder hkeeps).symm.trans (hnone t ht))
  | some best =>
    obtain ⟨before, t, after, htypes, hbestFit, hbefore⟩ :=
      exists_split_of_mem_argmax_filterMap hbest
    have ht : t ∈ s.types := htypes ▸ List.mem_append_right _ List.mem_cons_self
    obtain ⟨folder, hkeeps, rfl⟩ := (DocType.fit?_eq_some_iff (hs t ht)).1 hbestFit
    refine TypeOf.some htypes hkeeps (fun t' ht' folder' hkeeps' => ?_) fun t' ht' hpath => ?_
    · have hfound := List.mem_filterMap.2 ⟨t', ht', hfit t' ht' folder' hkeeps'⟩
      have hlen : folder'.text.length ≤ folder.text.length :=
        List.le_of_mem_argmax (f := Prod.snd) hfound hbest
      refine not_lt.1 fun hlt => hlen.not_gt ?_
      exact (hkeeps.2.length_text_lt_iff hkeeps'.2 hkeeps.isProper hkeeps'.isProper
        (hs t ht folder hkeeps.1) (hs t' ht' folder' hkeeps'.1)).2 hlt
    · -- a type with the same folder is kept with the same length, so it would come first
      have ht'' : t' ∈ s.types := htypes ▸ List.mem_append_left _ ht'
      exact lt_irrefl _ (hbefore t' ht' (t', _) (hfit t' ht'' folder ⟨hpath, hkeeps.2⟩))

/-- Types two of which have one folder, written in two ways. -/
def nestedTypes : Schema where
  types := [{ name := "doc", folder := some "docs" }, { name := "draft", folder := some "a/docs" },
    { name := "again", folder := some "./a//docs" }, { name := "top", folder := some "." },
    { name := "loose" }]

theorem typeOf_nestedTypes :
    nestedTypes.TypeOf "x/a/docs/f.md" (nestedTypes.typeOfPath? "x/a/docs/f.md") ∧
      (nestedTypes.typeOfPath? "x/a/docs/f.md").map (·.name) = some "draft" ∧
      (nestedTypes.typeOfPath? "f.md").map (·.name) = some "top" ∧
      (nestedTypes.typeOfPath? "mydocs/f.md").map (·.name) = none :=
  ⟨typeOf_typeOfPath? (by decide) _, by decide, by decide, by decide⟩

end Schema

end Folio
