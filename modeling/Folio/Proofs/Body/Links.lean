/-
  Folio — the links between the sections and tables of a body, and their order.

  A section lists the places of its children and of its tables, and these are the
  reverse of the links from the children to their parent and from the tables to
  their owner (`Draft.Linked`).  Headings and tables come in the order in which
  they lie in the body, and a table lies between the heading of its owner and the
  next heading (`Draft.Laid`).

  * `linked_ofPieces`, `laid_ofPieces`: both hold of the pieces of a whole body.
-/
import Folio.Proofs.Body.Draft

namespace Folio.Body.Draft

/-! ## Reverse links -/

/-- The places are those of the links to `i`, in ascending order. -/
def Reverse (links : List (Option Nat)) (i : Nat) (places : List Nat) : Prop :=
  places.Pairwise (· < ·) ∧ ∀ j, j ∈ places ↔ links[j]? = some (some i)

theorem reverse_nil {links : List (Option Nat)} {i : Nat} (h : some i ∉ links) :
    Reverse links i [] :=
  ⟨List.Pairwise.nil, fun _ => ⟨fun hj => absurd hj List.not_mem_nil,
    fun hj => absurd (List.mem_of_getElem? hj) h⟩⟩

/-- One link more is one place more, if it is a link to `i`. -/
theorem Reverse.append {links : List (Option Nat)} {i : Nat} {places : List Nat}
    (h : Reverse links i places) (x : Option Nat) :
    Reverse (links ++ [x]) i (if x = some i then places ++ [links.length] else places) := by
  obtain ⟨hp, hm⟩ := h
  have hlt : ∀ j ∈ places, j < links.length :=
    fun j hj => (List.getElem?_eq_some_iff.1 ((hm j).1 hj)).1
  have hold : ∀ j, j < links.length → (j ∈ places ↔ (links ++ [x])[j]? = some (some i)) :=
    fun j hj => by rw [List.getElem?_append_left hj, hm]
  have hlast : (links ++ [x])[links.length]? = some x := List.getElem?_concat_length ..
  split
  · next hx =>
    refine ⟨List.pairwise_append.2 ⟨hp, List.pairwise_singleton _ _, fun j hj k hk => ?_⟩, fun j => ?_⟩
    · rw [List.mem_singleton.1 hk]; exact hlt j hj
    · rw [List.mem_append, List.mem_singleton]
      rcases Nat.lt_trichotomy j links.length with hj | rfl | hj
      · rw [← hold j hj]; exact or_iff_left (Nat.ne_of_lt hj)
      · rw [hlast, hx]; simp
      · rw [List.getElem?_eq_none (by simpa using Nat.succ_le_of_lt hj)]
        refine ⟨?_, fun hj => by cases hj⟩
        rintro (hj' | rfl)
        · exact absurd (hlt j hj') (Nat.lt_asymm hj)
        · exact absurd hj (Nat.lt_irrefl _)
  · next hx =>
    refine ⟨hp, fun j => ?_⟩
    rcases Nat.lt_trichotomy j links.length with hj | rfl | hj
    · exact hold j hj
    · rw [hlast]
      exact ⟨fun hj => absurd (hlt _ hj) (Nat.lt_irrefl _), fun hj => absurd (Option.some.inj hj) hx⟩
    · rw [List.getElem?_eq_none (by simpa using Nat.succ_le_of_lt hj)]
      exact ⟨fun hj' => absurd (hlt j hj') (Nat.lt_asymm hj), fun hj => by cases hj⟩

/-! ## Links of drafts -/

/-- The parents of the sections so far. -/
def parents (d : Draft) : List (Option Nat) := d.sections.toList.map (·.parent)

/-- The owners of the tables so far, in order. -/
def owners (d : Draft) : List (Option Nat) := d.tables.reverse.map (·.owner)

/-- Children and tables are the reverse of parents and owners. -/
structure Linked (d : Draft) : Prop where
  parents_lt : ∀ {i : Nat}, some i ∈ d.parents → i < d.sections.size
  owners_lt : ∀ {i : Nat}, some i ∈ d.owners → i < d.sections.size
  children : ∀ {i : Nat} {s : Section}, d.sections[i]? = some s → Reverse d.parents i s.children
  tables : ∀ {i : Nat} {s : Section}, d.sections[i]? = some s → Reverse d.owners i s.tables

section
variable {d : Draft}

/-- No heading has ended the latest section. -/
theorem Nested.last_opened (h : d.Nested) (hd : d.sections.size ≠ 0) :
    ∃ o ∈ d.opened, o.index + 1 = d.sections.size := by
  obtain ⟨k, hk⟩ : ∃ k, d.marks[d.sections.size - 1]? = some k :=
    ⟨_, List.getElem?_eq_getElem (by rw [length_marks]; omega)⟩
  have hki := h.placed _ _ hk
  refine ⟨⟨k.index, k.level⟩, (h.mem_opened _).2 ⟨k, List.mem_of_getElem? hk, rfl,
    Mark.next?_last (by rw [hki, length_marks]; omega)⟩, ?_⟩
  change k.index + 1 = _
  omega

/-- Only the latest section holds what comes next. -/
theorem Nested.owner_last (h : d.Nested) {i : Nat} (hi : d.owner = some i) :
    i + 1 = d.sections.size := by
  obtain ⟨o, ho, rfl⟩ := Option.map_eq_some_iff.1 hi
  obtain ⟨rest, hr⟩ := List.head?_eq_some_iff.1 ho
  obtain ⟨m, hm, hom, -⟩ := (h.mem_opened o).1 (by rw [hr]; exact List.mem_cons_self)
  have hoi : o.index = m.index := by rw [hom]
  have hlt := length_marks d ▸ h.placed.index_lt hm
  -- the latest section is open, so it is the innermost one
  obtain ⟨k, hopen, hk⟩ := h.last_opened (by omega)
  have hp := h.opened
  rw [hr] at hopen hp
  rcases List.mem_cons.1 hopen with he | he
  · rw [← he]; exact hk
  · have hlt' : k.index < o.index := ((List.pairwise_cons.1 hp).1 _ he).1
    omega

theorem Nested.parent?_lt (h : d.Nested) {level i : Nat} (hi : d.parent? level = some i) :
    i < d.sections.size := by
  rw [h.parent?_eq 0] at hi
  obtain ⟨a, ha, rfl⟩ := Option.map_eq_some_iff.1 hi
  exact length_marks d ▸ h.placed.index_lt ((Mark.above?_eq_some_iff h.placed).1 ha).1

theorem parents_addHeading (d : Draft) (level : Nat) (heading : String) (headingStart start : Nat) :
    (d.addHeading level heading headingStart start).parents = d.parents ++ [d.parent? level] :=
  map_addHeading d level heading headingStart start (·.parent) fun _ _ _ => rfl

theorem parents_addTable (d : Draft) (t : Table) : (d.addTable t).parents = d.parents :=
  map_addTable d t (·.parent) fun _ _ => rfl

theorem owners_addTable (d : Draft) (t : Table) : (d.addTable t).owners = d.owners ++ [d.owner] := by
  rw [owners, addTable, addBlock, List.reverse_cons, List.map_append]; rfl

theorem length_parents (d : Draft) : d.parents.length = d.sections.size := by simp [parents]

theorem length_owners (d : Draft) : d.owners.length = d.tables.length := by simp [owners]

namespace Linked
variable (h : d.Linked) (hn : d.Nested)
include h hn

theorem addHeading (level : Nat) (heading : String) (headingStart start : Nat) :
    (d.addHeading level heading headingStart start).Linked := by
  have hp := parents_addHeading d level heading headingStart start
  have ho : (d.addHeading level heading headingStart start).owners = d.owners := rfl
  have hsize := size_addHeading d level heading headingStart start
  refine ⟨fun hi => ?_, fun hi => ?_, fun hs => ?_, fun hs => ?_⟩
  · rw [hp] at hi
    rw [hsize]
    rcases List.mem_append.1 hi with hi | hi
    · exact Nat.lt_succ_of_lt (h.parents_lt hi)
    · exact Nat.lt_succ_of_lt (hn.parent?_lt (List.mem_singleton.1 hi).symm)
  · rw [hsize]; exact Nat.lt_succ_of_lt (h.owners_lt (ho ▸ hi))
  · rw [hp]
    rw [getElem?_addHeading] at hs
    split at hs
    · next hi =>
      cases hs
      refine reverse_nil fun hmem => ?_
      rw [hi] at hmem
      rcases List.mem_append.1 hmem with hmem | hmem
      · exact absurd (h.parents_lt hmem) (Nat.lt_irrefl _)
      · exact absurd (hn.parent?_lt (List.mem_singleton.1 hmem).symm) (Nat.lt_irrefl _)
    · obtain ⟨s, hs', rfl⟩ := Option.map_eq_some_iff.1 hs
      rw [← length_parents]
      exact (h.children hs').append _
  · rw [ho]
    rw [getElem?_addHeading] at hs
    split at hs
    · next hi =>
      cases hs
      exact reverse_nil fun hmem => absurd (hi ▸ h.owners_lt hmem) (Nat.lt_irrefl _)
    · obtain ⟨s, hs', rfl⟩ := Option.map_eq_some_iff.1 hs
      have ht := h.tables hs'
      exact ht

theorem addTable (t : Table) : (d.addTable t).Linked := by
  have hp := parents_addTable d t
  have ho := owners_addTable d t
  have hsize : (d.addTable t).sections.size = d.sections.size := size_amend ..
  refine ⟨fun hi => ?_, fun hi => ?_, fun hs => ?_, fun hs => ?_⟩
  · rw [hsize]; exact h.parents_lt (hp ▸ hi)
  · rw [hsize]
    rw [ho] at hi
    rcases List.mem_append.1 hi with hi | hi
    · exact h.owners_lt hi
    · exact Nat.lt_of_succ_le (Nat.le_of_eq (hn.owner_last (List.mem_singleton.1 hi).symm))
  · rw [hp]
    rw [getElem?_addTable] at hs
    obtain ⟨s, hs', rfl⟩ := Option.map_eq_some_iff.1 hs
    have hc := h.children hs'
    exact hc
  · rw [ho]
    rw [getElem?_addTable] at hs
    obtain ⟨s, hs', rfl⟩ := Option.map_eq_some_iff.1 hs
    rw [← length_owners]
    exact (h.tables hs').append _

theorem add (p : Piece) : (d.add p).Linked := by
  rcases add_cases d p with ⟨level, title, headingStart, start, -, he⟩ | ⟨t, -, he⟩ | hf
  · rw [he]; exact h.addHeading hn level title headingStart start
  · rw [he]; exact h.addTable hn t
  · have hp : (d.add p).parents = d.parents := by rw [parents, hf.sections, parents]
    have ho : (d.add p).owners = d.owners := by rw [owners, hf.tables, owners]
    constructor
    · rw [hp, hf.sections]; exact h.parents_lt
    · rw [ho, hf.sections]; exact h.owners_lt
    · rw [hp, hf.sections]; exact h.children
    · rw [ho, hf.sections]; exact h.tables

end Linked

theorem linked_empty (total : Nat) : (empty total).Linked where
  parents_lt hi := by cases hi
  owners_lt hi := by cases hi
  children hs := by cases hs
  tables hs := by cases hs

/-- **Links go both ways, whatever the pieces of a body.** -/
theorem linked_ofPieces (total : Nat) (ps : List Piece) : (ofPieces total ps).Linked :=
  (List.foldlRecOn (motive := fun d => d.Nested ∧ d.Linked) ps Draft.add
    ⟨nested_empty total, linked_empty total⟩ fun _ h p _ => ⟨h.1.add p, h.2.add h.1 p⟩).2

/-! ## Order -/

/-- Where the heading lines so far start and stop. -/
def headingLines (d : Draft) : List (Nat × Nat) :=
  d.sections.toList.map fun s => (s.headingStart, s.start)

/-- Up to an offset, headings and tables come one after the other, and a table
    comes after the heading of its owner and before the next one. -/
structure Laid (d : Draft) (pos : Nat) : Prop where
  headings : ∀ p ∈ d.headingLines, p.1 < p.2 ∧ p.2 ≤ pos
  ordered : d.headingLines.Pairwise fun p q => p.2 ≤ q.1
  tables : ∀ t ∈ d.tables, t.start < t.stop ∧ t.stop ≤ pos
  before : ∀ t ∈ d.tables, ∀ i, t.owner = some i →
    ∀ p ∈ d.headingLines.take (i + 1), p.2 ≤ t.start
  after : ∀ t ∈ d.tables, ∀ i, t.owner = some i →
    ∀ p ∈ d.headingLines.drop (i + 1), t.stop ≤ p.1

theorem headingLines_addHeading (d : Draft) (level : Nat) (heading : String)
    (headingStart start : Nat) :
    (d.addHeading level heading headingStart start).headingLines =
      d.headingLines ++ [(headingStart, start)] :=
  map_addHeading d level heading headingStart start (fun s => (s.headingStart, s.start))
    fun _ _ _ => rfl

theorem headingLines_addTable (d : Draft) (t : Table) : (d.addTable t).headingLines = d.headingLines :=
  map_addTable d t (fun s => (s.headingStart, s.start)) fun _ _ => rfl

theorem length_headingLines (d : Draft) : d.headingLines.length = d.sections.size := by
  simp [headingLines]

namespace Laid
variable {pos : Nat} (h : d.Laid pos)
include h

theorem mono {pos' : Nat} (hp : pos ≤ pos') : d.Laid pos' where
  headings p hm := ⟨(h.headings p hm).1, Nat.le_trans (h.headings p hm).2 hp⟩
  ordered := h.ordered
  tables t ht := ⟨(h.tables t ht).1, Nat.le_trans (h.tables t ht).2 hp⟩
  before := h.before
  after := h.after

theorem addHeading (hl : d.Linked) (level : Nat) (heading : String) {headingStart start : Nat}
    (hpos : pos ≤ headingStart) (hlt : headingStart < start) :
    (d.addHeading level heading headingStart start).Laid start := by
  have hh := headingLines_addHeading d level heading headingStart start
  -- the owner of an earlier table is an earlier section
  have hown : ∀ t ∈ d.tables, ∀ i, t.owner = some i → i + 1 ≤ d.headingLines.length := by
    intro t ht i hi
    rw [length_headingLines]
    exact hl.owners_lt (List.mem_map.2 ⟨t, List.mem_reverse.2 ht, hi⟩)
  refine ⟨?_, ?_, ?_, ?_, ?_⟩
  · intro p hp
    rw [hh] at hp
    rcases List.mem_append.1 hp with hp | hp
    · obtain ⟨h1, h2⟩ := h.headings p hp
      exact ⟨h1, by omega⟩
    · rw [List.mem_singleton.1 hp]
      exact ⟨hlt, Nat.le_refl _⟩
  · rw [hh]
    refine List.pairwise_append.2 ⟨h.ordered, List.pairwise_singleton _ _, fun p hp q hq => ?_⟩
    rw [List.mem_singleton.1 hq]
    exact Nat.le_trans (h.headings p hp).2 hpos
  · intro t ht
    obtain ⟨h1, h2⟩ := h.tables t ht
    exact ⟨h1, by omega⟩
  · intro t ht i hi
    rw [hh, List.take_append_of_le_length (hown t ht i hi)]
    exact h.before t ht i hi
  · intro t ht i hi p hp
    rw [hh, List.drop_append_of_le_length (hown t ht i hi)] at hp
    rcases List.mem_append.1 hp with hp | hp
    · exact h.after t ht i hi p hp
    · rw [List.mem_singleton.1 hp]
      exact Nat.le_trans (h.tables t ht).2 hpos

theorem addTable (hn : d.Nested) {t : Table} (hpos : pos ≤ t.start) (hlt : t.start < t.stop) :
    (d.addTable t).Laid t.stop := by
  have hh := headingLines_addTable d t
  refine ⟨?_, ?_, ?_, ?_, ?_⟩
  · intro p hp
    obtain ⟨h1, h2⟩ := h.headings p (hh ▸ hp)
    exact ⟨h1, by omega⟩
  · rw [hh]; exact h.ordered
  · intro u hu
    rcases List.mem_cons.1 hu with rfl | hu
    · exact ⟨hlt, Nat.le_refl _⟩
    · obtain ⟨h1, h2⟩ := h.tables u hu
      exact ⟨h1, by omega⟩
  · intro u hu i hi p hp
    rw [hh] at hp
    rcases List.mem_cons.1 hu with rfl | hu
    · exact Nat.le_trans (h.headings p (List.mem_of_mem_take hp)).2 hpos
    · exact h.before u hu i hi p hp
  · intro u hu i hi p hp
    rw [hh] at hp
    rcases List.mem_cons.1 hu with rfl | hu
    · rw [hn.owner_last hi, List.drop_eq_nil_of_le (Nat.le_of_eq (length_headingLines d))] at hp
      cases hp
    · exact h.after u hu i hi p hp

/-- A piece that comes after all that is known keeps the order. -/
theorem add (hn : d.Nested) (hl : d.Linked) {p : Piece} {ps : List Piece} {stop : Nat}
    (hr : Piece.Run pos stop (p :: ps)) : (d.add p).Laid (p.after pos) := by
  rcases add_cases d p with ⟨level, title, headingStart, start, rfl, he⟩ | ⟨t, rfl, he⟩ | hf
  · obtain ⟨h1, h2, -⟩ := hr
    rw [he]
    exact h.addHeading hl level title h1 h2
  · obtain ⟨h1, h2, -⟩ := hr
    rw [he]
    exact h.addTable hn h1 h2
  · have hh : (d.add p).headingLines = d.headingLines := by
      rw [headingLines, hf.sections, headingLines]
    have hd := h.mono hr.tail.1
    constructor
    · rw [hh]; exact hd.headings
    · rw [hh]; exact hd.ordered
    · rw [hf.tables]; exact hd.tables
    · rw [hf.tables, hh]; exact hd.before
    · rw [hf.tables, hh]; exact hd.after

end Laid

theorem laid_foldl {pos stop : Nat} {ps : List Piece} (hn : d.Nested) (hl : d.Linked)
    (h : d.Laid pos) (hr : Piece.Run pos stop ps) : (ps.foldl Draft.add d).Laid stop := by
  induction ps generalizing d pos with
  | nil => exact h.mono hr
  | cons p ps ih => exact ih (hn.add p) (hl.add hn p) (h.add hn hl hr) hr.tail.2

theorem laid_empty (total : Nat) : (empty total).Laid 0 where
  headings p hp := by cases hp
  ordered := List.Pairwise.nil
  tables t ht := by cases ht
  before t ht := by cases ht
  after t ht := by cases ht

/-- **Headings and tables come in the order of the pieces.** -/
theorem laid_ofPieces {total : Nat} {ps : List Piece} (hr : Piece.Run 0 total ps) :
    (ofPieces total ps).Laid total :=
  laid_foldl (nested_empty total) (linked_empty total) (laid_empty total) hr

end

end Folio.Body.Draft
