/-
  Folio — the sections of a body form the tree of its headings.

  What a reader of a body may rely on (`Body.IsHeadingTree`): where each section
  lies, what it is part of, what is part of it and which tables it holds, each in
  terms of the headings and their levels alone.

  * `isHeadingTree_ofOctets`: the body of every text is such a tree;
  * `isHeadingTree_of_parse`: so is the body of every document.
-/
import Folio.Document.Basic
import Folio.Proofs.Body.Links
import Folio.Proofs.Outcome

namespace Folio

/-- The level and the title of a heading and where its line starts and stops. -/
def Piece.heading? : Piece → Option (Nat × String × Nat × Nat)
  | .heading level title start stop => some (level, title, start, stop)
  | _ => none

namespace Body

/-- The sections follow each other without gaps from one offset to another. -/
def Tiles (start stop : Nat) : List Section → Prop
  | [] => start = stop
  | s :: ss => s.headingStart = start ∧ start < s.stop ∧ Tiles s.stop stop ss

/-- The sections of a body are the tree of its headings. -/
structure IsHeadingTree (b : Body) : Prop where
  /-- There is a section for each heading. -/
  headings : b.sections.map (fun s => (s.level, s.heading, s.headingStart, s.start)) =
    (Piece.ofLines b.octets.length (Line.ofOctets b.octets)).filterMap Piece.heading?
  /-- A section knows its place. -/
  index : ∀ {i : Nat} {s : Section}, b.sections[i]? = some s → s.index = i
  /-- A section has a heading and lies in the body. -/
  bounds : ∀ s ∈ b.sections, s.headingStart < s.start ∧ s.start ≤ s.stop ∧
    s.stop ≤ b.octets.length
  /-- A section ends where the first later one of no lower level starts. -/
  stop : ∀ {i : Nat} {s : Section}, b.sections[i]? = some s →
    s.stop = (((b.sections.drop (i + 1)).find? (·.level ≤ s.level)).map (·.headingStart)).getD
      b.octets.length
  /-- A section is part of the nearest earlier one of a higher level. -/
  parent : ∀ {i : Nat} {s : Section}, b.sections[i]? = some s →
    s.parent = ((b.sections.take i).reverse.find? (·.level < s.level)).map (·.index)
  /-- The children of a section are those that it is the parent of, in order. -/
  children : ∀ {i : Nat} {s : Section}, b.sections[i]? = some s →
    s.children.Pairwise (· < ·) ∧
      ∀ j, j ∈ s.children ↔ ∃ c, b.sections[j]? = some c ∧ c.parent = some i
  /-- The children fill the section from the first of them to its end. -/
  tiles : ∀ s ∈ b.sections, ∀ c cs, b.children s = c :: cs →
    s.start ≤ c.headingStart ∧ Tiles c.headingStart s.stop (c :: cs)
  /-- The tables of a section are those that it is the owner of, in order. -/
  tables : ∀ {i : Nat} {s : Section}, b.sections[i]? = some s →
    s.tables.Pairwise (· < ·) ∧
      ∀ j, j ∈ s.tables ↔ ∃ t, b.tables[j]? = some t ∧ t.owner = some i
  /-- The tables of a section lie in it, before its children. -/
  within : ∀ s ∈ b.sections, ∀ t ∈ b.tablesOf s, s.start ≤ t.start ∧ t.start < t.stop ∧
    t.stop ≤ s.stop ∧ ∀ c ∈ b.children s, t.stop ≤ c.headingStart

namespace Draft
variable {d : Draft} {i j : Nat} {s c : Section}

/-! ## Places -/

theorem getElem?_headingLines (hs : d.sections[i]? = some s) :
    d.headingLines[i]? = some (s.headingStart, s.start) := by
  rw [headingLines, List.getElem?_map, Array.getElem?_toList, hs]; rfl

theorem Nested.index_eq (h : d.Nested) (hs : d.sections[i]? = some s) : s.index = i :=
  h.placed i (.ofSection s) (by rw [getElem?_marks, hs]; rfl)

/-- A heading is that of the section at its place. -/
theorem Nested.exists_of_mem_marks (h : d.Nested) {m : Mark} (hm : m ∈ d.marks) :
    ∃ s, d.sections[m.index]? = some s ∧ Mark.ofSection s = m := by
  have hi := h.placed.mem_iff.1 hm
  rw [getElem?_marks] at hi
  exact Option.map_eq_some_iff.1 hi

/-- Where a section stops, the body ends or a later section starts. -/
theorem Nested.stop_cases (h : d.Nested) (hs : d.sections[i]? = some s) :
    s.stop = d.total ∨ ∃ j c, d.sections[j]? = some c ∧ i < j ∧ s.stop = c.headingStart := by
  rw [h.stop hs]
  cases hm : Mark.next? d.marks (.ofSection s) with
  | none => exact Or.inl rfl
  | some m =>
    obtain ⟨hmem, hlt, -⟩ := (Mark.next?_eq_some_iff h.placed).1 hm
    obtain ⟨c, hc, rfl⟩ := h.exists_of_mem_marks hmem
    exact Or.inr ⟨_, c, hc, h.index_eq hs ▸ hlt, rfl⟩

namespace Laid
variable (h : d.Laid d.total)
include h

theorem heading_lt (hs : d.sections[i]? = some s) : s.headingStart < s.start ∧ s.start ≤ d.total :=
  h.headings _ (List.mem_of_getElem? (getElem?_headingLines hs))

/-- A later section starts after the heading of an earlier one. -/
theorem start_le (hs : d.sections[i]? = some s) (hc : d.sections[j]? = some c) (hij : i < j) :
    s.start ≤ c.headingStart := by
  obtain ⟨hi, hsi⟩ := List.getElem?_eq_some_iff.1 (getElem?_headingLines hs)
  obtain ⟨hj, hcj⟩ := List.getElem?_eq_some_iff.1 (getElem?_headingLines hc)
  have hle := List.pairwise_iff_getElem.1 h.ordered i j hi hj hij
  rwa [hsi, hcj] at hle

theorem stop_bounds (hn : d.Nested) (hs : d.sections[i]? = some s) :
    s.start ≤ s.stop ∧ s.stop ≤ d.total := by
  rcases hn.stop_cases hs with he | ⟨j, c, hc, hij, he⟩
  · rw [he]; exact ⟨(h.heading_lt hs).2, Nat.le_refl _⟩
  · have := h.start_le hs hc hij
    have := h.heading_lt hc
    omega

/-- A table lies in its owner, before all later sections. -/
theorem table_bounds (hn : d.Nested) (hs : d.sections[i]? = some s) {t : Table} (ht : t ∈ d.tables)
    (ho : t.owner = some i) : s.start ≤ t.start ∧ t.start < t.stop ∧ t.stop ≤ s.stop ∧
      ∀ {j : Nat} {c : Section}, d.sections[j]? = some c → i < j → t.stop ≤ c.headingStart := by
  have hlater : ∀ {j : Nat} {c : Section}, d.sections[j]? = some c → i < j →
      t.stop ≤ c.headingStart := by
    intro j c hc hij
    have hmem : (c.headingStart, c.start) ∈ d.headingLines.drop (i + 1) := by
      refine List.mem_of_getElem? (i := j - (i + 1)) ?_
      rw [List.getElem?_drop, Nat.add_sub_cancel' hij, getElem?_headingLines hc]
    exact h.after t ht i ho _ hmem
  have hmem : (s.headingStart, s.start) ∈ d.headingLines.take (i + 1) := by
    refine List.mem_of_getElem? (i := i) ?_
    rw [List.getElem?_take, if_pos (Nat.lt_succ_self i), getElem?_headingLines hs]
  refine ⟨h.before t ht i ho _ hmem, (h.tables t ht).1, ?_, hlater⟩
  · rcases hn.stop_cases hs with he | ⟨j, c, hc, hij, he⟩
    · rw [he]; exact (h.tables t ht).2
    · rw [he]; exact hlater hc hij

end Laid

/-! ## Children -/

theorem getElem?_parents : d.parents[j]? = some (some i) ↔
    ∃ c, d.sections[j]? = some c ∧ c.parent = some i := by
  rw [parents, List.getElem?_map, Array.getElem?_toList, Option.map_eq_some_iff]

theorem getElem?_owners : d.owners[j]? = some (some i) ↔
    ∃ t, d.tables.reverse[j]? = some t ∧ t.owner = some i := by
  rw [owners, List.getElem?_map, Option.map_eq_some_iff]

theorem mem_tail_iff_of_sorted {P : Nat → Prop} {js : List Nat} (hsorted : (j :: js).Pairwise (· < ·))
    (hjs : ∀ k, k ∈ j :: js ↔ P k) (k : Nat) : k ∈ js ↔ j < k ∧ P k := by
  obtain ⟨hj, -⟩ := List.pairwise_cons.1 hsorted
  constructor
  · exact fun hk => ⟨hj k hk, (hjs k).1 (List.mem_cons_of_mem _ hk)⟩
  · rintro ⟨hjk, hk⟩
    rcases List.mem_cons.1 ((hjs k).2 hk) with rfl | hk
    · exact absurd hjk (Nat.lt_irrefl _)
    · exact hk

namespace Nested
variable (h : d.Nested) (hs : d.sections[i]? = some s)
include h hs

/-- The parent of a section is the heading above it. -/
theorem parent_eq_some_iff (hc : d.sections[j]? = some c) :
    c.parent = some i ↔ Mark.above? d.marks (.ofSection c) = some (.ofSection s) := by
  rw [h.parent hc, Option.map_eq_some_iff]
  constructor
  · rintro ⟨m, hm, hi⟩
    obtain ⟨hmem, -⟩ := (Mark.above?_eq_some_iff h.placed).1 hm
    rw [hm, h.placed.eq_of_index hmem (mark_mem hs) (hi.trans (h.index_eq hs).symm)]
  · exact fun hm => ⟨_, hm, h.index_eq hs⟩

theorem lt_of_parent (hc : d.sections[j]? = some c) (hp : c.parent = some i) : i < j := by
  have hm := (h.parent_eq_some_iff hs hc).1 hp
  have hlt := ((Mark.above?_eq_some_iff h.placed).1 hm).2.1
  change s.index < c.index at hlt
  rwa [h.index_eq hs, h.index_eq hc] at hlt

/-- A child ends where the next one starts, or where its parent ends. -/
theorem stop_child (hc : d.sections[j]? = some c) (hp : c.parent = some i) :
    (∃ k e, d.sections[k]? = some e ∧ e.parent = some i ∧ j < k ∧ c.stop = e.headingStart ∧
        ∀ m f, d.sections[m]? = some f → f.parent = some i → j < m → k ≤ m) ∨
      (c.stop = s.stop ∧ ∀ k e, d.sections[k]? = some e → e.parent = some i → k ≤ j) := by
  have hm := (h.parent_eq_some_iff hs hc).1 hp
  rcases Mark.next?_of_above? h.placed (mark_mem hc) hm with ⟨n, hn, hns⟩ | ⟨hn, hlast⟩
  · obtain ⟨hmem, hlt, -, hgap⟩ := (Mark.next?_eq_some_iff h.placed).1 hn
    obtain ⟨e, he, rfl⟩ := h.exists_of_mem_marks hmem
    refine Or.inl ⟨_, e, he, (h.parent_eq_some_iff hs he).2 hns, h.index_eq hc ▸ hlt, ?_, ?_⟩
    · rw [h.stop hc, hn]; rfl
    · intro m f hf hfp hjm
      -- a child in between would be of no lower level than `c`, and end it
      by_contra hk
      rw [← h.index_eq hf] at hjm hk
      rw [← h.index_eq hc] at hjm
      have hfm := (h.parent_eq_some_iff hs hf).1 hfp
      exact absurd (hgap _ (mark_mem hf) hjm (Nat.not_le.1 hk))
        (Nat.not_lt.2 (Mark.level_le_of_siblings h.placed hm hfm (mark_mem hc) hjm))
  · refine Or.inr ⟨by rw [h.stop hc, h.stop hs, hn], fun k e he hep => ?_⟩
    by_contra hk
    rw [← h.index_eq he, ← h.index_eq hc] at hk
    exact hlast _ (mark_mem he) (Nat.not_le.1 hk) ((h.parent_eq_some_iff hs he).1 hep)

/-- The children from one on fill the parent up to its end. -/
theorem tiles (hl : d.Laid d.total) (js : List Nat) (hc : d.sections[j]? = some c)
    (hp : c.parent = some i) (hsorted : (j :: js).Pairwise (· < ·))
    (hjs : ∀ k, k ∈ js ↔ j < k ∧ ∃ e, d.sections[k]? = some e ∧ e.parent = some i) :
    Tiles c.headingStart s.stop (c :: js.filterMap (d.sections.toList[·]?)) := by
  have hlt : c.headingStart < c.stop :=
    Nat.lt_of_lt_of_le (hl.heading_lt hc).1 (hl.stop_bounds h hc).1
  induction js generalizing j c with
  | nil =>
    refine ⟨rfl, hlt, ?_⟩
    rcases h.stop_child hs hc hp with ⟨k, e, he, hep, hjk, -⟩ | ⟨hstop, -⟩
    · exact absurd ((hjs k).2 ⟨hjk, e, he, hep⟩) List.not_mem_nil
    · exact hstop
  | cons k js ih =>
    obtain ⟨hj, hsorted'⟩ := List.pairwise_cons.1 hsorted
    obtain ⟨hk, hsorted''⟩ := List.pairwise_cons.1 hsorted'
    obtain ⟨hjk, e, he, hep⟩ := (hjs k).1 List.mem_cons_self
    have hstop : c.stop = e.headingStart := by
      rcases h.stop_child hs hc hp with ⟨m, f, hf, hfp, hjm, hstop, hfirst⟩ | ⟨-, hlast⟩
      · have hmk : m ≤ k := hfirst k e he hep hjk
        have hkm : k ≤ m := by
          rcases List.mem_cons.1 ((hjs m).2 ⟨hjm, f, hf, hfp⟩) with rfl | hm
          · exact Nat.le_refl _
          · exact Nat.le_of_lt (hk m hm)
        obtain rfl := Nat.le_antisymm hmk hkm
        rw [he] at hf
        rwa [Option.some.inj hf]
      · exact absurd (hlast k e he hep) (Nat.not_le.2 hjk)
    rw [List.filterMap_cons_some (Array.getElem?_toList.trans he)]
    refine ⟨rfl, hlt, hstop ▸ ih he hep hsorted' (fun m => ?_) ?_⟩
    · rw [mem_tail_iff_of_sorted hsorted' hjs]
      exact and_congr_right fun hkm => and_iff_right (Nat.lt_trans hjk hkm)
    · exact Nat.lt_of_lt_of_le (hl.heading_lt he).1 (hl.stop_bounds h he).1

end Nested

/-! ## Headings -/

/-- What the headings of the sections so far say and where they lie. -/
def headings (d : Draft) : List (Nat × String × Nat × Nat) :=
  d.sections.toList.map fun s => (s.level, s.heading, s.headingStart, s.start)

theorem headings_add (d : Draft) (p : Piece) :
    (d.add p).headings = d.headings ++ p.heading?.toList := by
  cases p with
  | heading level title headingStart start =>
    exact map_addHeading d level title headingStart start
      (fun s => (s.level, s.heading, s.headingStart, s.start)) fun _ _ _ => rfl
  | table t =>
    refine Eq.trans ?_ (List.append_nil _).symm
    exact map_addTable d t (fun s => (s.level, s.heading, s.headingStart, s.start)) fun _ _ => rfl
  | blank | code _ _ _ | item _ _ => exact (List.append_nil _).symm
  | text indented start stop =>
    refine Eq.trans ?_ (List.append_nil _).symm
    rw [add]
    split
    · rw [headings, (frame_grow d stop).sections, headings]
    · rfl

theorem headings_ofPieces (total : Nat) (ps : List Piece) :
    (ofPieces total ps).headings = ps.filterMap Piece.heading? := by
  have h : ∀ d : Draft, (ps.foldl add d).headings = d.headings ++ ps.filterMap Piece.heading? := by
    induction ps with
    | nil => exact fun d => (List.append_nil _).symm
    | cons p ps ih =>
      intro d
      rw [List.foldl_cons, ih, headings_add, List.append_assoc]
      cases hp : p.heading? with
      | none => rw [List.filterMap_cons_none hp]; rfl
      | some e => rw [List.filterMap_cons_some hp]; rfl
  exact h (empty total)

theorem total_ofPieces (total : Nat) (ps : List Piece) : (ofPieces total ps).total = total :=
  List.foldlRecOn (motive := fun d => d.total = total) ps add rfl fun _ h p _ => (total_add _ p).trans h

/-! ## Bodies -/

theorem next?_marks (d : Draft) (m : Mark) : Mark.next? d.marks m =
    ((d.sections.toList.drop (m.index + 1)).find? (·.level ≤ m.level)).map Mark.ofSection := by
  rw [Mark.next?, marks, ← List.map_drop, List.find?_map]; rfl

theorem above?_marks (d : Draft) (m : Mark) : Mark.above? d.marks m =
    ((d.sections.toList.take m.index).reverse.find? (·.level < m.level)).map Mark.ofSection := by
  rw [Mark.above?, marks, ← List.map_take, ← List.map_reverse, List.find?_map]; rfl

/-- What holds while a body is read makes it the tree of its headings. -/
theorem isHeadingTree {octets : Octets} (hn : d.Nested) (hk : d.Linked) (hl : d.Laid d.total)
    (ht : d.total = octets.length)
    (hh : d.headings =
      (Piece.ofLines octets.length (Line.ofOctets octets)).filterMap Piece.heading?) :
    (Body.mk octets d.sections.toList d.tables.reverse d.blocks.reverse).IsHeadingTree where
  headings := hh
  index hs := hn.index_eq (Array.getElem?_toList ▸ hs)
  bounds s hs := by
    obtain ⟨i, hs⟩ := List.mem_iff_getElem?.1 hs
    rw [Array.getElem?_toList] at hs
    exact ⟨(hl.heading_lt hs).1, ht ▸ hl.stop_bounds hn hs⟩
  stop hs := by
    rw [Array.getElem?_toList] at hs
    rw [hn.stop hs, next?_marks, Option.map_map, ← ht, ← hn.index_eq hs]
    rfl
  parent hs := by
    rw [Array.getElem?_toList] at hs
    rw [hn.parent hs, above?_marks, Option.map_map, ← hn.index_eq hs]
    rfl
  children hs := by
    rw [Array.getElem?_toList] at hs
    obtain ⟨hsorted, hmem⟩ := hk.children hs
    refine ⟨hsorted, fun j => (hmem j).trans ?_⟩
    rw [getElem?_parents, Array.getElem?_toList]
  tiles s hs c cs hc := by
    obtain ⟨i, hs⟩ := List.mem_iff_getElem?.1 hs
    rw [Array.getElem?_toList] at hs
    obtain ⟨hsorted, hmem⟩ := hk.children hs
    have hchild : ∀ j, j ∈ s.children ↔ ∃ c, d.sections[j]? = some c ∧ c.parent = some i :=
      fun j => (hmem j).trans getElem?_parents
    change s.children.filterMap (d.sections.toList[·]?) = c :: cs at hc
    cases hjs : s.children with
    | nil => rw [hjs] at hc; cases hc
    | cons j js =>
      rw [hjs] at hc hsorted hchild
      obtain ⟨e, he, hep⟩ := (hchild j).1 List.mem_cons_self
      rw [List.filterMap_cons_some (Array.getElem?_toList.trans he)] at hc
      cases hc
      exact ⟨hl.start_le hs he (hn.lt_of_parent hs he hep),
        hn.tiles hs hl js he hep hsorted (mem_tail_iff_of_sorted hsorted hchild)⟩
  tables hs := by
    rw [Array.getElem?_toList] at hs
    obtain ⟨hsorted, hmem⟩ := hk.tables hs
    exact ⟨hsorted, fun j => (hmem j).trans getElem?_owners⟩
  within s hs t htab := by
    obtain ⟨i, hs⟩ := List.mem_iff_getElem?.1 hs
    rw [Array.getElem?_toList] at hs
    obtain ⟨j, hj, hjt⟩ := List.mem_filterMap.1 htab
    obtain ⟨t', ht', ho⟩ := getElem?_owners.1 (((hk.tables hs).2 j).1 hj)
    obtain rfl : t' = t := Option.some.inj (ht'.symm.trans hjt)
    have hmem := List.mem_reverse.1 (List.mem_of_getElem? ht')
    obtain ⟨h1, h2, h3, h4⟩ := hl.table_bounds hn hs hmem ho
    refine ⟨h1, h2, h3, fun c hc => ?_⟩
    obtain ⟨k, hk', hc⟩ := List.mem_filterMap.1 hc
    obtain ⟨c', hc', hp⟩ := getElem?_parents.1 (((hk.children hs).2 k).1 hk')
    rw [Array.getElem?_toList, hc'] at hc
    cases hc
    exact h4 hc' (hn.lt_of_parent hs hc' hp)

end Draft

/-- **The body of every text is the tree of its headings.** -/
theorem isHeadingTree_ofOctets (s : Octets) : (ofOctets s).IsHeadingTree := by
  have hr := Piece.run_ofOctets s
  have ht := Draft.total_ofPieces s.length (Piece.ofLines s.length (Line.ofOctets s))
  refine Draft.isHeadingTree (Draft.nested_ofPieces _ _) (Draft.linked_ofPieces _ _) ?_ ht
    (Draft.headings_ofPieces _ _)
  rw [ht]
  exact Draft.laid_ofPieces hr

end Body

namespace Document

/-- **The body of every document is the tree of its headings**, and it is all of
    the file from its offset on. -/
theorem isHeadingTree_of_parse {raw : Octets} {path : Option String} {d : Document}
    (h : parse raw path = .ok d) :
    d.body.octets = raw.drop d.bodyOffset ∧ d.body.IsHeadingTree := by
  simp only [parse] at h
  split at h
  · cases h
  · cases h
    exact ⟨rfl, Body.isHeadingTree_ofOctets _⟩

/-- A level may be skipped on the way down and on the way up. -/
theorem isHeadingTree_of_skipped_levels :
    ∃ d, parse (Utf8.ofString "## a\n|x|\n|-|\n# b\n### c\n## d\n") none = .ok d ∧
      d.body.sections.map (fun s => (s.stop, s.parent, s.children, s.tables)) =
        [(13, none, [], [0]), (28, none, [2, 3], []), (23, some 1, [], []), (28, some 1, [], [])] ∧
      d.body.IsHeadingTree := by
  have hd : (parse (Utf8.ofString "## a\n|x|\n|-|\n# b\n### c\n## d\n") none).map
      (·.body.sections.map fun s => (s.stop, s.parent, s.children, s.tables)) =
        .ok [(13, none, [], [0]), (28, none, [2, 3], []), (23, some 1, [], []),
          (28, some 1, [], [])] := by decide +kernel
  obtain ⟨d, hp, hsections⟩ := map_eq_ok_iff.1 hd
  exact ⟨d, hp, hsections, (isHeadingTree_of_parse hp).2⟩

end Document

end Folio
