/-
  Folio — outlines show all headings, in order.

  An outline goes down from the sections at the top to their children, and theirs.  In the
  tree of headings a child comes after its parent, so this ends (`Outline.IsOf`); and a
  section is followed by those below it, child by child, before the next section beside it
  (`Body.withBelow_eq`).  So the headings of an outline, each before those below it, are
  those of all sections in their order.  With them come the tables that sections hold, in
  the order in which they lie in the body.

  * `Body.sections_eq_flatMap`: the sections, from the top down;
  * `Body.tables_eq_flatMap`: the tables, section by section;
  * `Document.outline_shows_all`: what the outline of a document shows.
-/
import Folio.Document.Outline
import Folio.Proofs.Body.HeadingPath
import Folio.Proofs.Body.Owners

namespace Folio

/-! ## Going through an outline -/

namespace Outline

/-- What an outline shows of one section. -/
structure Heading where
  text : String
  level : Nat
  tables : List (List String × List Row)

mutual

/-- The headings of an outline, each before those below it. -/
def headings : Outline → List Heading
  | .mk heading level tables children => ⟨heading, level, tables⟩ :: allHeadings children

/-- The headings of some outlines. -/
def allHeadings : List Outline → List Heading
  | [] => []
  | o :: os => headings o ++ allHeadings os

end

theorem allHeadings_map {α : Type} (f : α → Outline) (xs : List α) :
    allHeadings (xs.map f) = xs.flatMap fun x => (f x).headings := by
  induction xs with
  | nil => rfl
  | cons x xs ih => rw [List.map_cons, allHeadings, ih, List.flatMap_cons]

/-- What an outline shows of a section. -/
def headingOf (b : Body) (s : Section) : Heading :=
  ⟨s.heading, s.level, (b.tablesOf s).map fun t => (t.columns, t.rows)⟩

/-- Going down from a section to its children, and to theirs, ends with the outline. -/
inductive IsOf (b : Body) : Section → Outline → Prop where
  | mk {s : Section} {children : List Outline} (h : List.Forall₂ (IsOf b) (b.children s) children) :
    IsOf b s
      (.mk s.heading s.level ((b.tablesOf s).map fun t => (t.columns, t.rows)) children)

end Outline

/-- Lists in ascending order are the same if they have the same members. -/
theorem eq_of_ascending {α : Type} {f : α → Nat} {xs ys : List α} (hxs : xs.Pairwise (f · < f ·))
    (hys : ys.Pairwise (f · < f ·)) (h : ∀ a, a ∈ xs ↔ a ∈ ys) : xs = ys := by
  have : Std.Antisymm fun a b : α => f a < f b := ⟨fun _ _ hab hba => absurd hab (Nat.lt_asymm hba)⟩
  have : Std.Irrefl fun a b : α => f a < f b := ⟨fun _ => Nat.lt_irrefl _⟩
  exact hxs.eq_of_mem_iff hys h

namespace Body

open Classical in
/-- A section and those below it, in their order. -/
noncomputable def withBelow (b : Body) (s : Section) : List Section :=
  b.sections.filter fun t => b.Owns s.index (some t.index)

namespace IsHeadingTree
variable {b : Body} (h : b.IsHeadingTree) {s t c e : Section}
include h

theorem ascending : b.sections.Pairwise (·.index < ·.index) := by
  rw [List.pairwise_iff_getElem]
  intro i j hi hj hij
  rwa [h.index (List.getElem?_eq_getElem hi), h.index (List.getElem?_eq_getElem hj)]

omit h in
theorem mem_withBelow : t ∈ b.withBelow s ↔ t ∈ b.sections ∧ b.Owns s.index (some t.index) := by
  simp [withBelow]

/-! ## A section and its children -/

theorem isParent_of_mem_children (hs : s ∈ b.sections) (hc : c ∈ b.children s) :
    c ∈ b.sections ∧ b.IsParent s.index c.index := by
  obtain ⟨hmem, hp⟩ := (h.mem_children_iff hs).1 hc
  obtain ⟨i, hi, his⟩ := Option.bind_eq_some_iff.1 hp
  exact ⟨hmem, c, h.getElem?_index hmem, by rw [hi, h.index his]⟩

/-- What is below a section is one of its children or below one. -/
theorem mem_withBelow_iff (hs : s ∈ b.sections) :
    t ∈ b.withBelow s ↔ t = s ∨ ∃ c ∈ b.children s, t ∈ b.withBelow c := by
  rw [mem_withBelow, owns_some_iff]
  constructor
  · rintro ⟨ht, heq | hbelow⟩
    · have hi := h.getElem?_index ht
      rw [heq, h.getElem?_index hs] at hi
      exact .inl (Option.some.inj hi).symm
    · obtain ⟨j, ⟨c, hc, hp⟩, hj⟩ := Relation.TransGen.head'_iff.1 hbelow
      have hchild : c ∈ b.children s := (h.mem_children_iff hs).2
        ⟨List.mem_of_getElem? hc, by rw [parent?, hp]; exact h.getElem?_index hs⟩
      rw [← h.index hc, Relation.reflTransGen_iff_eq_or_transGen] at hj
      exact .inr ⟨c, hchild, mem_withBelow.2 ⟨ht, owns_some_iff.2 hj⟩⟩
  · rintro (rfl | ⟨c, hc, ht⟩)
    · exact ⟨hs, .inl rfl⟩
    · obtain ⟨-, hp⟩ := h.isParent_of_mem_children hs hc
      obtain ⟨ht, howns⟩ := mem_withBelow.1 ht
      refine ⟨ht, .inr ?_⟩
      rcases owns_some_iff.1 howns with heq | hbelow
      · exact .single (heq ▸ hp)
      · exact .head hp hbelow

theorem index_le_of_mem_withBelow (hs : s ∈ b.sections) (ht : t ∈ b.withBelow s) :
    s.index ≤ t.index :=
  ((h.owns_iff_levels (h.getElem?_index hs)).1 (mem_withBelow.1 ht).2).1

/-- What is below a section comes before a later one of no lower level. -/
theorem index_lt_of_mem_withBelow (hc : c ∈ b.sections) (he : e ∈ b.sections)
    (hlt : c.index < e.index) (hle : e.level ≤ c.level) (ht : t ∈ b.withBelow c) :
    t.index < e.index := by
  obtain ⟨-, -, hlower⟩ := (h.owns_iff_levels (h.getElem?_index hc)).1 (mem_withBelow.1 ht).2
  by_contra hge
  exact absurd (hlower _ e (h.getElem?_index he) hlt (Nat.not_lt.1 hge)) (Nat.not_lt.2 hle)

/-- Sections side by side, with those below each, are in order. -/
theorem ascending_flatMap {cs : List Section} (hcs : cs.Pairwise (·.index < ·.index))
    (hmem : ∀ c ∈ cs, c ∈ b.sections)
    (hle : ∀ c ∈ cs, ∀ e ∈ cs, c.index < e.index → e.level ≤ c.level) :
    (cs.flatMap b.withBelow).Pairwise (·.index < ·.index) := by
  refine List.pairwise_flatMap.2 ⟨fun c _ => h.ascending.filter _, ?_⟩
  refine hcs.imp_of_mem fun {c e} hc he hlt t ht u hu => ?_
  exact Nat.lt_of_lt_of_le
    (h.index_lt_of_mem_withBelow (hmem c hc) (hmem e he) hlt (hle c hc e he hlt) ht)
    (h.index_le_of_mem_withBelow (hmem e he) hu)

theorem children_ascending (hs : s ∈ b.sections) :
    (b.children s).Pairwise (·.index < ·.index) := by
  refine List.Pairwise.filterMap _ (fun i j hij c hc e he => ?_) (h.children (h.getElem?_index hs)).1
  rwa [h.index hc, h.index he]

/-- **A section and those below it** are the section and, child by child, those below
    them. -/
theorem withBelow_eq (hs : s ∈ b.sections) :
    b.withBelow s = s :: (b.children s).flatMap b.withBelow := by
  refine eq_of_ascending (h.ascending.filter _) (List.pairwise_cons.2 ⟨fun t ht => ?_, ?_⟩) fun t => ?_
  · obtain ⟨c, hc, ht⟩ := List.mem_flatMap.1 ht
    obtain ⟨hmem, hp⟩ := h.isParent_of_mem_children hs hc
    exact Nat.lt_of_lt_of_le ((h.isParent_iff (h.getElem?_index hmem)).1 hp).1
      (h.index_le_of_mem_withBelow hmem ht)
  · refine h.ascending_flatMap (h.children_ascending hs)
      (fun c hc => (h.isParent_of_mem_children hs hc).1) fun c hc e he hlt => ?_
    obtain ⟨hcmem, hcp⟩ := h.isParent_of_mem_children hs hc
    obtain ⟨hemem, hep⟩ := h.isParent_of_mem_children hs he
    obtain ⟨-, -, -, -, hbetween⟩ := (h.isParent_iff (h.getElem?_index hemem)).1 hep
    exact hbetween _ c (h.getElem?_index hcmem)
      ((h.isParent_iff (h.getElem?_index hcmem)).1 hcp).1 hlt
  · rw [h.mem_withBelow_iff hs, List.mem_cons, List.mem_flatMap]

/-- Each section is below one at the top. -/
theorem exists_root (ht : t ∈ b.sections) : ∃ r ∈ b.roots, t ∈ b.withBelow r := by
  induction hi : t.index using Nat.strong_induction_on generalizing t with
  | _ i ih =>
    subst hi
    rcases h.mem_roots_or ht with hroot | ⟨p, hp⟩
    · exact ⟨t, hroot, mem_withBelow.2 ⟨ht, owns_some_iff.2 (.inl rfl)⟩⟩
    · obtain ⟨hpmem, hlt⟩ := h.of_parent? ht hp
      obtain ⟨r, hr, hpr⟩ := ih _ hlt hpmem rfl
      have hparent := (h.isParent_of_mem_children hpmem ((h.mem_children_iff hpmem).2 ⟨ht, hp⟩)).2
      refine ⟨r, hr, mem_withBelow.2 ⟨ht, owns_some_iff.2 (.inr ?_)⟩⟩
      rcases owns_some_iff.1 (mem_withBelow.1 hpr).2 with heq | hbelow
      · exact .single (heq ▸ hparent)
      · exact .tail hbelow hparent

/-- **The sections of a body** are those at the top, each with those below it. -/
theorem sections_eq_flatMap : b.sections = b.roots.flatMap b.withBelow := by
  refine eq_of_ascending h.ascending (h.ascending_flatMap (h.ascending.filter _)
    (fun c hc => List.mem_of_mem_filter hc) fun c hc e he hlt => ?_) fun t => ?_
  · by_contra hlevel
    obtain ⟨k, -, -, f, hf, hp⟩ := h.exists_isParent (h.getElem?_index (List.mem_of_mem_filter hc))
      (h.getElem?_index (List.mem_of_mem_filter he)) hlt (Nat.not_le.1 hlevel)
    rw [h.getElem?_index (List.mem_of_mem_filter he)] at hf
    have hroot := (List.mem_filter.1 he).2
    rw [Option.some.inj hf, hp] at hroot
    cases hroot
  · rw [List.mem_flatMap]
    refine ⟨h.exists_root, ?_⟩
    rintro ⟨r, -, ht⟩
    exact (mem_withBelow.1 ht).1

/-! ## Tables -/

/-- **The tables of sections**, section by section, are in their order. -/
theorem tables_eq_flatMap (hd : b.IsDivided) (hl : ∀ t ∈ b.tables, b.Lies t.start t.owner) :
    b.sections.flatMap b.tablesOf = b.tables.filter (·.owner.isSome) := by
  have hstarts := hd.tables_increasing
  have howner : ∀ {s t}, s ∈ b.sections → t ∈ b.tablesOf s → t ∈ b.tables ∧ t.owner = some s.index := by
    intro s t hs ht
    obtain ⟨j, hj, htj⟩ := List.mem_filterMap.1 ht
    obtain ⟨u, hu, ho⟩ := ((h.tables (h.getElem?_index hs)).2 j).1 hj
    rw [Option.some.inj (htj.symm.trans hu)]
    exact ⟨List.mem_of_getElem? hu, ho⟩
  refine eq_of_ascending (f := (·.start)) (List.pairwise_flatMap.2 ⟨fun s hs => ?_, ?_⟩)
    (hstarts.filter _) fun t => ?_
  · refine List.Pairwise.filterMap _ (fun i j hij t ht u hu => ?_) (h.tables (h.getElem?_index hs)).1
    obtain ⟨hi, rfl⟩ := List.getElem?_eq_some_iff.1 ht
    obtain ⟨hj, rfl⟩ := List.getElem?_eq_some_iff.1 hu
    exact List.pairwise_iff_getElem.1 hstarts i j hi hj hij
  · refine h.ascending.imp_of_mem fun {s e} hs he hlt t ht u hu => ?_
    -- the heading of the later section lies between them
    obtain ⟨htmem, hto⟩ := howner hs ht
    obtain ⟨humem, huo⟩ := howner he hu
    have hei := h.getElem?_index he
    have hbefore := (hl t htmem).before hei (by rw [hto]; exact hlt)
    have hafter := (hl u humem).after hei (by rw [huo]; exact Nat.lt_succ_self _)
    have := (h.bounds e he).1
    omega
  · rw [List.mem_flatMap, List.mem_filter]
    constructor
    · rintro ⟨s, hs, ht⟩
      obtain ⟨hmem, ho⟩ := howner hs ht
      exact ⟨hmem, by rw [ho]; rfl⟩
    · rintro ⟨ht, ho⟩
      obtain ⟨i, ho⟩ := Option.isSome_iff_exists.1 ho
      have hi : i < b.sections.length := by
        have := (hl t ht).upTo_le
        rwa [ho] at this
      obtain ⟨j, hj⟩ := List.mem_iff_getElem?.1 ht
      refine ⟨b.sections[i], List.getElem_mem hi, List.mem_filterMap.2 ⟨j, ?_, hj⟩⟩
      exact ((h.tables (List.getElem?_eq_getElem hi)).2 j).2 ⟨t, hj, ho⟩

end IsHeadingTree

end Body

/-! ## Outlines -/

namespace Outline
variable {b : Body} (h : b.IsHeadingTree) {s : Section} {fuel : Nat}
include h

/-- A section has no more sections below it than after it. -/
theorem isOf_ofSection (hs : s ∈ b.sections) (hf : b.sections.length ≤ fuel + s.index) :
    IsOf b s (ofSection b fuel s) ∧
      (ofSection b fuel s).headings = (b.withBelow s).map (headingOf b) := by
  have hlen := (List.getElem?_eq_some_iff.1 (h.getElem?_index hs)).1
  induction fuel generalizing s with
  | zero => omega
  | succ fuel ih =>
    have hchild : ∀ c ∈ b.children s, IsOf b c (ofSection b fuel c) ∧
        (ofSection b fuel c).headings = (b.withBelow c).map (headingOf b) := fun c hc => by
      obtain ⟨hmem, hp⟩ := h.isParent_of_mem_children hs hc
      have hlt := ((h.isParent_iff (h.getElem?_index hmem)).1 hp).1
      exact ih hmem (by omega) (List.getElem?_eq_some_iff.1 (h.getElem?_index hmem)).1
    constructor
    · exact .mk (List.forall₂_map_right_iff.2 (List.forall₂_same.2 fun c hc => (hchild c hc).1))
    · rw [ofSection, headings, allHeadings_map, h.withBelow_eq hs, List.map_cons, List.map_flatMap]
      exact congrArg _ (List.flatMap_congr fun c hc => (hchild c hc).2)

end Outline

namespace Document

/-- **The outline of a document** is what going down its sections ends with; its headings are
    those of all sections in the order of the body, and the tables with them are those that sections
    hold, in the order of the body. -/
theorem outline_shows_all {raw : Octets} {file : Option String} {d : Document}
    (h : parse raw file = .ok d) :
    List.Forall₂ (Outline.IsOf d.body) d.body.roots (Outline.ofBody d.body) ∧
    (Outline.allHeadings (Outline.ofBody d.body)).map (fun o => (o.text, o.level)) =
      d.body.sections.map (fun s => (s.heading, s.level)) ∧
    d.body.sections.Pairwise (·.headingStart < ·.headingStart) ∧
    (Outline.allHeadings (Outline.ofBody d.body)).flatMap (·.tables) =
      (d.body.tables.filter (·.owner.isSome)).map (fun t => (t.columns, t.rows)) ∧
    d.body.tables.Pairwise (·.start < ·.start) := by
  have htree := (isHeadingTree_of_parse h).2
  have hbody := body_of_parse h
  have hdivided := hbody ▸ Body.isDivided_ofOctets (raw.drop d.bodyOffset)
  have hroot : ∀ s ∈ d.body.roots,
      Outline.IsOf d.body s (Outline.ofSection d.body (d.body.sections.length + 1) s) ∧
        (Outline.ofSection d.body (d.body.sections.length + 1) s).headings =
          (d.body.withBelow s).map (Outline.headingOf d.body) :=
    fun s hs => Outline.isOf_ofSection htree (List.mem_of_mem_filter hs) (by omega)
  have hshown : Outline.allHeadings (Outline.ofBody d.body) =
      d.body.sections.map (Outline.headingOf d.body) := by
    rw [Outline.ofBody, Outline.allHeadings_map, List.flatMap_congr fun s hs => (hroot s hs).2,
      ← List.map_flatMap, ← htree.sections_eq_flatMap]
  refine ⟨?_, ?_, hbody ▸ Body.sections_increasing _, ?_, hdivided.tables_increasing⟩
  · exact List.forall₂_map_right_iff.2 (List.forall₂_same.2 fun s hs => (hroot s hs).1)
  · rw [hshown, List.map_map]
    rfl
  · have htables := htree.tables_eq_flatMap hdivided
      fun t ht => by rw [hbody] at ht ⊢; exact Body.tables_lie ht
    rw [hshown, List.flatMap_map, ← htables, List.map_flatMap]
    rfl

/-- A table before all headings is not shown, and a level may be skipped. -/
theorem outline_shows_all_of_skipped :
    ∃ d, parse (Utf8.ofString "|o|\n|-|\n# a\n|x|\n|-|\n|1|\n### b\n## c\n|y|\n|-|\n") none = .ok d ∧
      d.body.tables.length = 3 ∧
      List.Forall₂ (Outline.IsOf d.body) d.body.roots (Outline.ofBody d.body) ∧
      (Outline.allHeadings (Outline.ofBody d.body)).map (fun o => (o.text, o.level)) =
        [("a", 1), ("b", 3), ("c", 2)] ∧
      ((Outline.allHeadings (Outline.ofBody d.body)).flatMap (·.tables)).map
        (fun t => (t.1, t.2.length)) = [(["x"], 1), (["y"], 0)] := by
  have hd : (parse (Utf8.ofString "|o|\n|-|\n# a\n|x|\n|-|\n|1|\n### b\n## c\n|y|\n|-|\n") none).map
      (fun d => (d.body.sections.map fun s => (s.heading, s.level),
        d.body.tables.map fun t => (t.columns, t.rows.length, t.owner))) =
      .ok ([("a", 1), ("b", 3), ("c", 2)],
        [(["o"], 0, none), (["x"], 1, some 0), (["y"], 0, some 2)]) := by decide +kernel
  obtain ⟨d, hp, hd⟩ := map_eq_ok_iff.1 hd
  obtain ⟨hsections, htables⟩ := Prod.mk.inj hd
  obtain ⟨hof, hheadings, -, hshown, -⟩ := outline_shows_all hp
  have howned : ((d.body.tables.filter (·.owner.isSome)).map fun t => (t.columns, t.rows)).map
      (fun t => (t.1, t.2.length)) =
      ((d.body.tables.map fun t => (t.columns, t.rows.length, t.owner)).filter (·.2.2.isSome)).map
        fun t => (t.1, t.2.1) := by
    rw [List.filter_map, List.map_map, List.map_map]
    rfl
  have hlength := congrArg List.length htables
  rw [List.length_map] at hlength
  refine ⟨d, hp, hlength, hof, hheadings.trans hsections, ?_⟩
  rw [hshown, howned, htables]
  rfl

end Document

end Folio
