/-
  Folio — the headings that lead to a section.

  Looking for a section goes down, from a section to a child with the next heading; the
  path of a section is read off on the way up, from a section to its parent
  (`Body.parent?`).  In the tree of headings each step down is undone by one up.  So what is
  found lies as many steps below the sections on the way as there are headings left, and
  where sections side by side have different headings, the path of a section leads to it.

  * `find?_append`: sections below others;
  * `IsHeadingTree.of_descend?`, `IsHeadingTree.of_find?`: where headings lead to, from a
    section and in the whole body;
  * `Document.find?_pathOf`: looking up sections, and their paths.
-/
import Folio.Document.Lookup
import Folio.Proofs.Body.Below
import Folio.Proofs.Outcome

namespace Folio

namespace Body

/-! ## Down -/

section
variable (b : Body)

theorem descend?_append (path rest : List String) (s : Section) :
    b.descend? (path ++ rest) s = (b.descend? path s).bind (b.descend? rest) := by
  induction path generalizing s with
  | nil => rfl
  | cons heading path ih =>
    rw [List.cons_append, descend?, descend?, Option.bind_assoc]
    exact congrArg _ (funext ih)

/-- **A section below another** is found from there. -/
theorem find?_append {path : List String} (hpath : path ≠ []) (rest : List String) :
    b.find? (path ++ rest) = (b.find? path).bind (b.descend? rest) := by
  cases path with
  | nil => exact absurd rfl hpath
  | cons heading path =>
    rw [List.cons_append, find?, find?, Option.bind_assoc]
    exact congrArg _ (funext (b.descend?_append path rest))

end

theorem of_firstNamed?_eq_some {ss : List Section} {heading : String} {s : Section}
    (h : firstNamed? ss heading = some s) : s ∈ ss ∧ s.heading = heading :=
  ⟨List.mem_of_find?_eq_some h, by simpa using List.find?_some h⟩

/-- Where headings differ, a section is the first with its heading. -/
theorem firstNamed?_of_nodup {ss : List Section} {s : Section} (hd : (ss.map (·.heading)).Nodup)
    (hs : s ∈ ss) : firstNamed? ss s.heading = some s := by
  cases hfirst : firstNamed? ss s.heading with
  | none => simpa using List.find?_eq_none.1 hfirst s hs
  | some t =>
    obtain ⟨ht, hheading⟩ := of_firstNamed?_eq_some hfirst
    rw [List.inj_on_of_nodup_map hd ht hs hheading]

/-! ## Up -/

/-- The section that a section is directly part of. -/
def parent? (b : Body) (s : Section) : Option Section := s.parent.bind fun i => b.sections[i]?

/-- The section that lies some steps above a section. -/
def ancestor? (b : Body) : (steps : Nat) → Section → Option Section
  | 0, s => some s
  | steps + 1, s => (b.ancestor? steps s).bind b.parent?

theorem pathAbove_of_parent? {b : Body} {s p : Section} (fuel : Nat) (hp : b.parent? s = some p) :
    b.pathAbove (fuel + 1) s = b.pathAbove fuel p ++ [p.heading] := by
  rw [pathAbove, ← parent?, hp]

theorem pathAbove_eq_nil {b : Body} {s : Section} (fuel : Nat) (hp : b.parent? s = none) :
    b.pathAbove fuel s = [] := by
  cases fuel with
  | zero => rfl
  | succ fuel => rw [pathAbove, ← parent?, hp]

theorem pathOf_of_mem_roots {b : Body} {s : Section} (hs : s ∈ b.roots) :
    b.pathOf s = [s.heading] := by
  have hp : b.parent? s = none := by
    rw [parent?, Option.isNone_iff_eq_none.1 (List.mem_filter.1 hs).2]
    rfl
  rw [pathOf, pathAbove_eq_nil _ hp, List.nil_append]

namespace IsHeadingTree
variable {b : Body} (h : b.IsHeadingTree) {s t p : Section}
include h

theorem getElem?_index (hs : s ∈ b.sections) : b.sections[s.index]? = some s := by
  obtain ⟨i, hi⟩ := List.mem_iff_getElem?.1 hs
  rwa [h.index hi]

theorem mem_roots_or (hs : s ∈ b.sections) : s ∈ b.roots ∨ ∃ p, b.parent? s = some p := by
  cases hp : s.parent with
  | none => exact .inl (List.mem_filter.2 ⟨hs, by rw [hp]; rfl⟩)
  | some i =>
    obtain ⟨-, p, hpi, -⟩ := (h.isParent_iff (h.getElem?_index hs)).1 ⟨s, h.getElem?_index hs, hp⟩
    exact .inr ⟨p, by rw [parent?, hp]; exact hpi⟩

/-- A parent comes before its children. -/
theorem of_parent? (hs : s ∈ b.sections) (hp : b.parent? s = some p) :
    p ∈ b.sections ∧ p.index < s.index := by
  obtain ⟨i, hi, hpi⟩ := Option.bind_eq_some_iff.1 hp
  refine ⟨List.mem_of_getElem? hpi, ?_⟩
  rw [h.index hpi]
  exact ((h.isParent_iff (h.getElem?_index hs)).1 ⟨s, h.getElem?_index hs, hi⟩).1

/-- The children of a section are those that it is the parent of. -/
theorem mem_children_iff (hs : s ∈ b.sections) :
    t ∈ b.children s ↔ t ∈ b.sections ∧ b.parent? t = some s := by
  have hi := h.getElem?_index hs
  rw [Body.children, List.mem_filterMap]
  constructor
  · rintro ⟨j, hj, ht⟩
    obtain ⟨c, hc, hp⟩ := ((h.children hi).2 j).1 hj
    obtain rfl : c = t := Option.some.inj (hc.symm.trans ht)
    exact ⟨List.mem_of_getElem? ht, by rw [parent?, hp]; exact hi⟩
  · rintro ⟨ht, hp⟩
    obtain ⟨i, hparent, his⟩ := Option.bind_eq_some_iff.1 hp
    have hj := h.getElem?_index ht
    exact ⟨t.index, ((h.children his).2 _).2 ⟨t, hj, hparent⟩, hj⟩

/-! ## Paths -/

/-- A section does not lie deeper than there are sections before it. -/
theorem pathAbove_eq {n m : Nat} (hs : s ∈ b.sections) (hn : s.index ≤ n) (hm : s.index ≤ m) :
    b.pathAbove n s = b.pathAbove m s := by
  induction n generalizing m s with
  | zero =>
    have hp : b.parent? s = none := Option.eq_none_iff_forall_not_mem.2 fun p hp => by
      have := (h.of_parent? hs hp).2
      omega
    rw [pathAbove_eq_nil 0 hp, pathAbove_eq_nil m hp]
  | succ n ih =>
    cases hp : b.parent? s with
    | none => rw [pathAbove_eq_nil _ hp, pathAbove_eq_nil _ hp]
    | some p =>
      obtain ⟨hmem, hlt⟩ := h.of_parent? hs hp
      obtain ⟨m, rfl⟩ := Nat.exists_eq_succ_of_ne_zero (show m ≠ 0 by omega)
      have hpath : b.pathAbove n p = b.pathAbove m p := ih hmem (by omega) (by omega)
      rw [pathAbove_of_parent? n hp, pathAbove_of_parent? m hp, hpath]

/-- **The path of a section** goes on from that of its parent. -/
theorem pathOf_of_parent? (hs : s ∈ b.sections) (hp : b.parent? s = some p) :
    b.pathOf s = b.pathOf p ++ [s.heading] := by
  obtain ⟨hmem, hlt⟩ := h.of_parent? hs hp
  have hlen := (List.getElem?_eq_some_iff.1 (h.getElem?_index hs)).1
  have hdeep : b.pathAbove b.sections.length s = b.pathAbove (b.sections.length + 1) s :=
    h.pathAbove_eq hs (by omega) (by omega)
  rw [pathOf, hdeep, pathAbove_of_parent? _ hp, pathOf]

/-! ## Down and up -/

/-- **Where headings lead to from a section**: as many steps up lead back, and the path goes
    on with these headings. -/
theorem of_descend? {path : List String} (hs : s ∈ b.sections) (ht : b.descend? path s = some t) :
    t ∈ b.sections ∧ b.ancestor? path.length t = some s ∧ b.pathOf t = b.pathOf s ++ path := by
  induction path generalizing s with
  | nil =>
    obtain rfl := Option.some.inj ht
    exact ⟨hs, rfl, (List.append_nil _).symm⟩
  | cons heading path ih =>
    obtain ⟨c, hc, hct⟩ := Option.bind_eq_some_iff.1 ht
    obtain ⟨hchild, rfl⟩ := of_firstNamed?_eq_some hc
    obtain ⟨hmem, hparent⟩ := (h.mem_children_iff hs).1 hchild
    obtain ⟨htmem, hsteps, hpath⟩ := ih hmem hct
    refine ⟨htmem, ?_, ?_⟩
    · rw [List.length_cons, ancestor?, hsteps]
      exact hparent
    · rw [hpath, h.pathOf_of_parent? hmem hparent, List.append_assoc, List.singleton_append]

/-- What is found lies below a section with the first heading. -/
theorem of_find? {path : List String} (hf : b.find? path = some t) :
    t ∈ b.sections ∧ path <:+ b.pathOf t := by
  cases path with
  | nil => cases hf
  | cons heading path =>
    obtain ⟨s, hs, ht⟩ := Option.bind_eq_some_iff.1 hf
    obtain ⟨hmem, rfl⟩ : s ∈ b.sections ∧ s.heading = heading := by
      rcases Option.or_eq_some_iff.1 hs with hs | ⟨-, hs⟩
      · exact (of_firstNamed?_eq_some hs).imp_left List.mem_of_mem_filter
      · exact of_firstNamed?_eq_some hs
    obtain ⟨htmem, -, hpath⟩ := h.of_descend? hmem ht
    refine ⟨htmem, ?_⟩
    rw [hpath, pathOf, List.append_assoc]
    exact List.suffix_append _ _

/-- What is found by the first of the headings lies above what is found by all. -/
theorem exists_above_of_find? {path rest : List String} (hpath : path ≠ [])
    (hf : b.find? (path ++ rest) = some t) :
    ∃ s, b.find? path = some s ∧ b.ancestor? rest.length t = some s := by
  rw [find?_append b hpath] at hf
  obtain ⟨s, hs, ht⟩ := Option.bind_eq_some_iff.1 hf
  exact ⟨s, hs, (h.of_descend? (h.of_find? hs).1 ht).2.1⟩

end IsHeadingTree

/-! ## Headings that differ -/

/-- Sections side by side have different headings. -/
structure HeadingsDiffer (b : Body) : Prop where
  roots : (b.roots.map (·.heading)).Nodup
  children : ∀ s ∈ b.sections, ((b.children s).map (·.heading)).Nodup

/-- **The path of a section leads to it** where sections side by side have different
    headings. -/
theorem HeadingsDiffer.find?_pathOf_eq {b : Body} (hd : b.HeadingsDiffer) (h : b.IsHeadingTree)
    {s : Section} (hs : s ∈ b.sections) : b.find? (b.pathOf s) = some s := by
  induction hi : s.index using Nat.strong_induction_on generalizing s with
  | _ i ih =>
    subst hi
    rcases h.mem_roots_or hs with hroot | ⟨p, hp⟩
    · rw [pathOf_of_mem_roots hroot, find?, firstNamed?_of_nodup hd.roots hroot]
      rfl
    · obtain ⟨hmem, hlt⟩ := h.of_parent? hs hp
      have hne : b.pathOf p ≠ [] := List.append_ne_nil_of_right_ne_nil _ (List.cons_ne_nil _ _)
      have hchild : s ∈ b.children p := (h.mem_children_iff hmem).2 ⟨hs, hp⟩
      rw [h.pathOf_of_parent? hs hp, find?_append b hne, ih _ hlt hmem rfl, Option.bind_some, descend?,
        firstNamed?_of_nodup (hd.children p hmem) hchild]
      rfl

end Body

namespace Document

/-- **Finding sections, and the paths of sections.**  A section that is found by some
    headings has a path that ends with these, and fewer of them lead to a section above it;
    where sections side by side have different headings, each section is found by its
    path. -/
theorem find?_pathOf {raw : Octets} {file : Option String} {d : Document}
    (h : parse raw file = .ok d) :
    (∀ path s, d.body.find? path = some s →
      s ∈ d.body.sections ∧ path <:+ d.body.pathOf s ∧
      ∀ above rest, above ++ rest = path → above ≠ [] →
        ∃ t, d.body.find? above = some t ∧ d.body.ancestor? rest.length s = some t) ∧
    (d.body.HeadingsDiffer → ∀ s ∈ d.body.sections, d.body.find? (d.body.pathOf s) = some s) := by
  have htree := (isHeadingTree_of_parse h).2
  refine ⟨fun path s hs => ?_, fun hd s hs => hd.find?_pathOf_eq htree hs⟩
  obtain ⟨hmem, hsuffix⟩ := htree.of_find? hs
  refine ⟨hmem, hsuffix, fun above rest hpath habove => ?_⟩
  subst hpath
  exact htree.exists_above_of_find? habove hs

/-- A heading may come twice, if not side by side. -/
theorem find?_pathOf_of_nested :
    ∃ d, parse (Utf8.ofString "# a\n### b\n## c\n### b\n") none = .ok d ∧ d.body.HeadingsDiffer ∧
      (∀ s ∈ d.body.sections, d.body.find? (d.body.pathOf s) = some s) ∧
      ∃ s, d.body.find? ["c", "b"] = some s ∧ ["c", "b"] <:+ d.body.pathOf s ∧
        ∃ t, d.body.find? ["c"] = some t ∧ d.body.ancestor? 1 s = some t := by
  have hd : (parse (Utf8.ofString "# a\n### b\n## c\n### b\n") none).map (·.body.sections) =
      .ok [⟨"a", 1, 0, 4, 21, 0, none, [1, 2], []⟩, ⟨"b", 3, 4, 10, 10, 1, some 0, [], []⟩,
        ⟨"c", 2, 10, 15, 21, 2, some 0, [3], []⟩, ⟨"b", 3, 15, 21, 21, 3, some 2, [], []⟩] := by
    decide +kernel
  obtain ⟨d, hp, hsections⟩ := map_eq_ok_iff.1 hd
  have hdiffer : d.body.HeadingsDiffer := by
    constructor
    · simp [Body.roots, hsections]
    · simp [Body.children, hsections]
  obtain ⟨hfound, hpaths⟩ := find?_pathOf hp
  have hfind : ∃ s, d.body.find? ["c", "b"] = some s := by
    simp [Body.find?, Body.firstNamed?, Body.descend?, Body.roots, Body.children, hsections]
  obtain ⟨s, hs⟩ := hfind
  obtain ⟨-, hsuffix, habove⟩ := hfound _ s hs
  exact ⟨d, hp, hdiffer, hpaths hdiffer, s, hs, hsuffix, habove ["c"] ["b"] rfl (by simp)⟩

end Document

end Folio
