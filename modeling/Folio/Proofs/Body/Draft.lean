/-
  Folio — the open sections of a body while it is read.

  After every piece the open sections are those that no heading has ended, and
  the others end where the heading that ends them starts (`Draft.Nested`).

  * `add_cases`: what a piece can change;
  * `nested_ofPieces`: sections end where they should, whatever the pieces.
-/
import Folio.Proofs.Body.Layout
import Folio.Proofs.Body.Nesting

namespace Folio.Body.Draft

/-! ## What a piece changes -/

theorem getElem?_close (stop : Nat) (closed : List Opened) (sections : Array Section) (i : Nat) :
    (close stop closed sections)[i]? = (sections[i]?).map fun s =>
      { s with stop := if closed.any (·.index == i) then stop else s.stop } := by
  induction closed generalizing sections with
  | nil => simp [close]
  | cons o closed ih =>
    have hc : close stop (o :: closed) sections =
        close stop closed (sections.modify o.index fun s => { s with stop }) := rfl
    rw [hc, ih, Array.getElem?_modify]
    by_cases h : o.index = i
    · simp [h, Function.comp_def]
    · simp [h]

theorem getElem?_amend (place : Option Nat) (change : Section → Section) (sections : Array Section)
    (i : Nat) : (amend place change sections)[i]? = (sections[i]?).map fun s =>
      if place = some i then change s else s := by
  cases place with
  | none => simp [amend]
  | some p =>
    rw [amend, Array.getElem?_modify]
    by_cases h : p = i <;> simp [h]

theorem size_close (stop : Nat) (closed : List Opened) (sections : Array Section) :
    (close stop closed sections).size = sections.size := by
  induction closed generalizing sections with
  | nil => rfl
  | cons o closed ih => exact (ih _).trans Array.size_modify

theorem size_amend (place : Option Nat) (change : Section → Section) (sections : Array Section) :
    (amend place change sections).size = sections.size := by
  cases place with
  | none => rfl
  | some p => exact Array.size_modify

section
variable (d : Draft) (level : Nat) (heading : String) (headingStart start : Nat)

theorem size_addHeading : (d.addHeading level heading headingStart start).sections.size =
    d.sections.size + 1 := by
  rw [addHeading, Array.size_push, size_amend, size_close]

/-- A heading changes where the sections that it closes stop and the children of
    its parent, and opens a section. -/
theorem getElem?_addHeading (i : Nat) :
    (d.addHeading level heading headingStart start).sections[i]? =
      if i = d.sections.size then
        some ⟨heading, level, headingStart, start, d.total, i, d.parent? level, [], []⟩
      else (d.sections[i]?).map fun s =>
        { s with
          stop := if (d.closed level).any (·.index == i) then headingStart else s.stop
          children :=
            if d.parent? level = some i then s.children ++ [d.sections.size] else s.children } := by
  rw [addHeading, Array.getElem?_push, size_amend, size_close]
  split
  · next h => rw [h]
  · rw [getElem?_amend, getElem?_close, Option.map_map]
    refine congrArg (Option.map · _) (funext fun s => ?_)
    by_cases h : d.parent? level = some i <;> simp [h]

/-- What neither an end nor a child of a section changes gets one entry more. -/
theorem map_addHeading {α : Type} (f : Section → α)
    (hf : ∀ (s : Section) stop children, f { s with stop, children } = f s) :
    (d.addHeading level heading headingStart start).sections.toList.map f =
      d.sections.toList.map f ++
        [f ⟨heading, level, headingStart, start, d.total, d.sections.size, d.parent? level, [], []⟩] := by
  refine List.ext_getElem? fun i => ?_
  rw [List.getElem?_map, Array.getElem?_toList, getElem?_addHeading]
  have hlen : (d.sections.toList.map f).length = d.sections.size := by simp
  split
  · next h => rw [h, ← hlen, List.getElem?_concat_length]; rfl
  · next h =>
    rcases Nat.lt_or_ge i d.sections.size with hi | hi
    · rw [List.getElem?_append_left (by omega), List.getElem?_map, Array.getElem?_toList,
        Option.map_map]
      exact congrArg (Option.map · _) (funext fun s => hf s _ _)
    · rw [Array.getElem?_eq_none hi, List.getElem?_eq_none]
      · rfl
      · rw [List.length_append, List.length_singleton]; omega

/-- A table changes the tables of its owner. -/
theorem getElem?_addTable (t : Table) (i : Nat) :
    (d.addTable t).sections[i]? = (d.sections[i]?).map fun s =>
      { s with tables := if d.owner = some i then s.tables ++ [d.tables.length] else s.tables } := by
  rw [addTable, addBlock, getElem?_amend]
  refine congrArg (Option.map · _) (funext fun s => ?_)
  by_cases h : d.owner = some i <;> simp [h]

/-- A table changes nothing else of a section. -/
theorem map_addTable {α : Type} (t : Table) (f : Section → α)
    (hf : ∀ (s : Section) tables, f { s with tables } = f s) :
    (d.addTable t).sections.toList.map f = d.sections.toList.map f := by
  refine List.ext_getElem? fun i => ?_
  rw [List.getElem?_map, Array.getElem?_toList, getElem?_addTable, List.getElem?_map,
    Array.getElem?_toList, Option.map_map]
  exact congrArg (Option.map · _) (funext fun s => hf s _)

end

/-- What is left as it is by a piece that is neither a heading nor a table. -/
structure Frame (d d' : Draft) : Prop where
  total : d'.total = d.total
  sections : d'.sections = d.sections
  opened : d'.opened = d.opened
  tables : d'.tables = d.tables

theorem frame_grow (d : Draft) (stop : Nat) : Frame d (d.grow stop) := by
  unfold grow
  split <;> exact ⟨rfl, rfl, rfl, rfl⟩

/-- **What a piece can do.** -/
theorem add_cases (d : Draft) (p : Piece) :
    (∃ level title headingStart start, p = .heading level title headingStart start ∧
      d.add p = d.addHeading level title headingStart start) ∨
    (∃ t, p = .table t ∧ d.add p = d.addTable t) ∨ Frame d (d.add p) := by
  cases p with
  | heading level title headingStart start => exact Or.inl ⟨_, _, _, _, rfl, rfl⟩
  | table t => exact Or.inr (Or.inl ⟨t, rfl, rfl⟩)
  | blank | code _ _ _ | item _ _ => exact Or.inr (Or.inr ⟨rfl, rfl, rfl, rfl⟩)
  | text indented start stop =>
    refine Or.inr (Or.inr ?_)
    rw [add]
    split
    · exact frame_grow d stop
    · exact ⟨rfl, rfl, rfl, rfl⟩

theorem total_add (d : Draft) (p : Piece) : (d.add p).total = d.total := by
  rcases add_cases d p with ⟨_, _, _, _, -, h⟩ | ⟨_, -, h⟩ | h
  · rw [h]; rfl
  · rw [h]; rfl
  · exact h.total

/-! ## The headings -/

/-- The headings so far. -/
def marks (d : Draft) : List Mark := d.sections.toList.map Mark.ofSection

theorem getElem?_marks (d : Draft) (i : Nat) : d.marks[i]? = (d.sections[i]?).map Mark.ofSection := by
  rw [marks, List.getElem?_map, Array.getElem?_toList]

theorem length_marks (d : Draft) : d.marks.length = d.sections.size := by
  rw [marks, List.length_map, Array.length_toList]

theorem mark_mem {d : Draft} {i : Nat} {s : Section} (h : d.sections[i]? = some s) :
    Mark.ofSection s ∈ d.marks :=
  List.mem_of_getElem? (by rw [getElem?_marks, h]; rfl)

theorem marks_addHeading (d : Draft) (level : Nat) (heading : String) (headingStart start : Nat) :
    (d.addHeading level heading headingStart start).marks =
      d.marks ++ [⟨d.sections.size, level, headingStart⟩] :=
  map_addHeading d level heading headingStart start Mark.ofSection fun _ _ _ => rfl

/-! ## Open sections -/

/-- The open sections are those that no heading ends, innermost first; the others
    end where the heading that ends them starts. -/
structure Nested (d : Draft) : Prop where
  placed : Mark.Placed d.marks
  opened : d.opened.Pairwise fun a b => b.index < a.index ∧ b.level < a.level
  mem_opened : ∀ o, o ∈ d.opened ↔
    ∃ m ∈ d.marks, o = ⟨m.index, m.level⟩ ∧ Mark.next? d.marks m = none
  stop : ∀ {i : Nat} {s : Section}, d.sections[i]? = some s →
    s.stop = ((Mark.next? d.marks (.ofSection s)).map (·.start)).getD d.total
  parent : ∀ {i : Nat} {s : Section}, d.sections[i]? = some s →
    s.parent = (Mark.above? d.marks (.ofSection s)).map (·.index)

theorem mem_takeWhile_of_pairwise {α : Type} {r : α → α → Prop} {p : α → Bool} {l : List α} {x : α}
    (hl : l.Pairwise r) (hp : ∀ a b, r a b → p b = true → p a = true) :
    x ∈ l.takeWhile p ↔ x ∈ l ∧ p x = true := by
  induction l with
  | nil => simp
  | cons a l ih =>
    obtain ⟨ha, hl⟩ := List.pairwise_cons.1 hl
    cases hpa : p a with
    | true =>
      rw [List.takeWhile_cons_of_pos hpa, List.mem_cons, ih hl, List.mem_cons]
      constructor
      · rintro (rfl | ⟨hx, hpx⟩)
        exacts [⟨Or.inl rfl, hpa⟩, ⟨Or.inr hx, hpx⟩]
      · rintro ⟨rfl | hx, hpx⟩
        exacts [Or.inl rfl, Or.inr ⟨hx, hpx⟩]
    | false =>
      rw [List.takeWhile_cons_of_neg (by simp [hpa])]
      refine ⟨fun h => absurd h List.not_mem_nil, ?_⟩
      rintro ⟨hx, hpx⟩
      rcases List.mem_cons.1 hx with rfl | hx
      · rw [hpa] at hpx; cases hpx
      · rw [hp a x (ha x hx) hpx] at hpa; cases hpa

theorem mem_dropWhile_of_pairwise {α : Type} {r : α → α → Prop} {p : α → Bool} {l : List α} {x : α}
    (hl : l.Pairwise r) (hp : ∀ a b, r a b → p b = true → p a = true) :
    x ∈ l.dropWhile p ↔ x ∈ l ∧ p x = false := by
  induction l with
  | nil => simp
  | cons a l ih =>
    obtain ⟨ha, hl⟩ := List.pairwise_cons.1 hl
    cases hpa : p a with
    | true =>
      rw [List.dropWhile_cons_of_pos hpa, ih hl, List.mem_cons]
      constructor
      · rintro ⟨hx, hpx⟩; exact ⟨Or.inr hx, hpx⟩
      · rintro ⟨rfl | hx, hpx⟩
        · rw [hpa] at hpx; cases hpx
        · exact ⟨hx, hpx⟩
    | false =>
      rw [List.dropWhile_cons_of_neg (by simp [hpa])]
      refine ⟨fun hx => ⟨hx, ?_⟩, And.left⟩
      rcases List.mem_cons.1 hx with rfl | hx
      · exact hpa
      · cases hpx : p x with
        | true => rw [hp a x (ha x hx) hpx] at hpa; cases hpa
        | false => rfl

namespace Nested
variable {d : Draft} (h : d.Nested) {level : Nat} {o : Opened}
include h

theorem mem_closed : o ∈ d.closed level ↔ o ∈ d.opened ∧ level ≤ o.level := by
  rw [closed, mem_takeWhile_of_pairwise h.opened, decide_eq_true_eq]
  intro a b hab hb
  rw [decide_eq_true_eq] at hb ⊢
  omega

theorem mem_around : o ∈ d.around level ↔ o ∈ d.opened ∧ o.level < level := by
  rw [around, mem_dropWhile_of_pairwise h.opened, decide_eq_false_iff_not, Nat.not_le]
  intro a b hab hb
  rw [decide_eq_true_eq] at hb ⊢
  omega

/-- A heading closes a section if it is not below it and nothing has closed it. -/
theorem any_closed_iff {i : Nat} {s : Section} (hs : d.sections[i]? = some s) :
    (d.closed level).any (·.index == i) = true ↔
      Mark.next? d.marks (.ofSection s) = none ∧ level ≤ s.level := by
  have hi : s.index = i := h.placed i (.ofSection s) (by rw [getElem?_marks, hs]; rfl)
  rw [List.any_eq_true]
  constructor
  · rintro ⟨o, ho, hoi⟩
    obtain ⟨ho, hle⟩ := h.mem_closed.1 ho
    obtain ⟨m, hm, rfl, hn⟩ := (h.mem_opened o).1 ho
    have hms : m = .ofSection s :=
      h.placed.eq_of_index hm (mark_mem hs) ((beq_iff_eq.1 hoi).trans hi.symm)
    subst hms
    exact ⟨hn, hle⟩
  · rintro ⟨hn, hle⟩
    refine ⟨⟨s.index, s.level⟩, h.mem_closed.2 ⟨?_, hle⟩, beq_iff_eq.2 hi⟩
    exact (h.mem_opened _).2 ⟨_, mark_mem hs, rfl, hn⟩

/-- The parent of a new section is the nearest earlier one of a higher level. -/
theorem parent?_eq (start : Nat) :
    d.parent? level = (Mark.above? d.marks ⟨d.sections.size, level, start⟩).map (·.index) := by
  cases ha : Mark.above? d.marks ⟨d.sections.size, level, start⟩ with
  | none =>
    have hnone := (Mark.above?_eq_none_iff h.placed).1 ha
    have haround : d.around level = [] := by
      refine List.eq_nil_iff_forall_not_mem.2 fun o ho => ?_
      obtain ⟨ho, hlt⟩ := h.mem_around.1 ho
      obtain ⟨m, hm, rfl, -⟩ := (h.mem_opened o).1 ho
      exact absurd (hnone m hm (length_marks d ▸ h.placed.index_lt hm)) (Nat.not_le.2 hlt)
    rw [parent?, haround]; rfl
  | some a =>
    obtain ⟨ham, -, hlt, hbet⟩ := (Mark.above?_eq_some_iff h.placed).1 ha
    have hlast : ∀ k ∈ d.marks, a.index < k.index → level ≤ k.level :=
      fun k hk hak => hbet k hk (length_marks d ▸ h.placed.index_lt hk) hak
    have hopen : (⟨a.index, a.level⟩ : Opened) ∈ d.around level := by
      refine h.mem_around.2 ⟨(h.mem_opened _).2 ⟨a, ham, rfl, ?_⟩, hlt⟩
      exact (Mark.next?_eq_none_iff h.placed).2 fun k hk hak => Nat.lt_of_lt_of_le hlt (hlast k hk hak)
    rw [parent?]
    cases hc : d.around level with
    | nil => rw [hc] at hopen; cases hopen
    | cons o rest =>
      rw [hc] at hopen
      rcases List.mem_cons.1 hopen with rfl | hrest
      · rfl
      · -- the innermost section left would be a nearer one
        have hp := h.opened.sublist (List.dropWhile_sublist (level ≤ ·.level))
        rw [← around, hc] at hp
        have hao := ((List.pairwise_cons.1 hp).1 _ hrest).1
        obtain ⟨ho, holt⟩ := h.mem_around.1 (by rw [hc]; exact List.mem_cons_self)
        obtain ⟨m, hm, rfl, -⟩ := (h.mem_opened o).1 ho
        exact absurd (hlast m hm hao) (Nat.not_le.2 holt)

/-- A heading closes just the open sections that it ends. -/
theorem stop_addHeading (headingStart : Nat) {i : Nat} {s : Section} (hs : d.sections[i]? = some s) :
    (if (d.closed level).any (·.index == i) then headingStart else s.stop) =
      ((Mark.next? (d.marks ++ [⟨d.sections.size, level, headingStart⟩]) (.ofSection s)).map
        (·.start)).getD d.total := by
  rw [Mark.next?_append (h.placed.index_lt (mark_mem hs))]
  change _ = (((Mark.next? d.marks (.ofSection s)).or
    (if level ≤ s.level then some _ else none)).map _).getD d.total
  cases hn : Mark.next? d.marks (.ofSection s) with
  | some n =>
    have hopen : ¬ (d.closed level).any (·.index == i) = true := by
      rw [h.any_closed_iff hs, hn]
      rintro ⟨h, -⟩; cases h
    rw [if_neg hopen, h.stop hs, hn]
    rfl
  | none =>
    by_cases hle : level ≤ s.level
    · rw [if_pos ((h.any_closed_iff hs).2 ⟨hn, hle⟩), Option.none_or, if_pos hle]
      rfl
    · rw [if_neg fun hc => hle ((h.any_closed_iff hs).1 hc).2, Option.none_or, if_neg hle, h.stop hs,
        hn]

theorem addHeading (heading : String) (headingStart start : Nat) :
    (d.addHeading level heading headingStart start).Nested := by
  have hm := marks_addHeading d level heading headingStart start
  refine ⟨?_, ?_, ?_, ?_, ?_⟩
  · rw [hm]; exact h.placed.append (length_marks d).symm
  · refine List.pairwise_cons.2 ⟨fun o ho => ?_, h.opened.sublist (List.dropWhile_sublist _)⟩
    obtain ⟨ho, hlt⟩ := h.mem_around.1 ho
    obtain ⟨m, hm, rfl, -⟩ := (h.mem_opened o).1 ho
    exact ⟨length_marks d ▸ h.placed.index_lt hm, hlt⟩
  · intro o
    rw [hm]
    constructor
    · intro ho
      rcases List.mem_cons.1 ho with rfl | ho
      · refine ⟨_, List.mem_append_right _ List.mem_cons_self, rfl, Mark.next?_last ?_⟩
        rw [List.length_append, length_marks]; rfl
      · obtain ⟨ho, hlt⟩ := h.mem_around.1 ho
        obtain ⟨m, hm, rfl, hn⟩ := (h.mem_opened o).1 ho
        refine ⟨m, List.mem_append_left _ hm, rfl, ?_⟩
        rw [Mark.next?_append (h.placed.index_lt hm), hn, if_neg (Nat.not_le.2 hlt)]
        rfl
    · rintro ⟨m, hmem, rfl, hn⟩
      rcases List.mem_append.1 hmem with hmem | hmem
      · rw [Mark.next?_append (h.placed.index_lt hmem), Option.or_eq_none_iff] at hn
        obtain ⟨hn, hlt⟩ := hn
        refine List.mem_cons_of_mem _ (h.mem_around.2 ⟨(h.mem_opened _).2 ⟨m, hmem, rfl, hn⟩, ?_⟩)
        by_contra hle
        rw [if_pos (Nat.not_lt.1 hle)] at hlt
        cases hlt
      · rw [List.mem_singleton.1 hmem]
        exact List.mem_cons_self
  · intro i s hs
    rw [getElem?_addHeading] at hs
    rw [hm]
    split at hs
    · next hi =>
      cases hs
      rw [Mark.next?_last (by rw [List.length_append, length_marks, ← hi]; rfl)]
      rfl
    · obtain ⟨s, hs', rfl⟩ := Option.map_eq_some_iff.1 hs
      exact h.stop_addHeading headingStart hs'
  · intro i s hs
    rw [getElem?_addHeading] at hs
    rw [hm]
    split at hs
    · next hi =>
      cases hs
      change d.parent? level = (Mark.above? _ ⟨i, level, headingStart⟩).map _
      rw [Mark.above?_append (Nat.le_of_eq (hi.trans (length_marks d).symm)), hi]
      exact h.parent?_eq headingStart
    · obtain ⟨s, hs', rfl⟩ := Option.map_eq_some_iff.1 hs
      change s.parent = (Mark.above? _ (.ofSection s)).map _
      rw [Mark.above?_append (Nat.le_of_lt (h.placed.index_lt (mark_mem hs')))]
      exact h.parent hs'

/-- Only headings open or end sections. -/
theorem congr {d' : Draft} (ht : d'.total = d.total) (ho : d'.opened = d.opened)
    (hm : d'.marks = d.marks)
    (hs : ∀ {i : Nat} {s' : Section}, d'.sections[i]? = some s' → ∃ s, d.sections[i]? = some s ∧
      Mark.ofSection s' = .ofSection s ∧ s'.stop = s.stop ∧ s'.parent = s.parent) : d'.Nested where
  placed := by rw [hm]; exact h.placed
  opened := by rw [ho]; exact h.opened
  mem_opened := by rw [ho, hm]; exact h.mem_opened
  stop hs' := by
    obtain ⟨s, hs, hmark, hstop, -⟩ := hs hs'
    rw [hstop, hmark, hm, ht]; exact h.stop hs
  parent hs' := by
    obtain ⟨s, hs, hmark, -, hparent⟩ := hs hs'
    rw [hparent, hmark, hm]; exact h.parent hs

theorem addTable (t : Table) : (d.addTable t).Nested := by
  refine h.congr rfl rfl (map_addTable d t Mark.ofSection fun _ _ => rfl) fun hs' => ?_
  rw [getElem?_addTable] at hs'
  obtain ⟨s, hs, rfl⟩ := Option.map_eq_some_iff.1 hs'
  exact ⟨s, hs, rfl, rfl, rfl⟩

theorem add (p : Piece) : (d.add p).Nested := by
  rcases add_cases d p with ⟨level, title, headingStart, start, -, he⟩ | ⟨t, -, he⟩ | hf
  · rw [he]; exact h.addHeading title headingStart start
  · rw [he]; exact h.addTable t
  · refine h.congr hf.total hf.opened (by rw [marks, hf.sections, marks]) fun hs => ?_
    rw [hf.sections] at hs
    exact ⟨_, hs, rfl, rfl, rfl⟩

end Nested

theorem nested_empty (total : Nat) : (empty total).Nested where
  placed i m hm := by cases hm
  opened := List.Pairwise.nil
  mem_opened o := ⟨fun ho => (by cases ho), fun ⟨m, hm, _⟩ => (by cases hm)⟩
  stop hs := by cases hs
  parent hs := by cases hs

/-- **Sections end where they should, whatever the pieces of a body.** -/
theorem nested_ofPieces (total : Nat) (ps : List Piece) : (ofPieces total ps).Nested :=
  List.foldlRecOn ps Draft.add (nested_empty total) fun _ h p _ => h.add p

end Folio.Body.Draft
