/-
  Folio — the blocks of a body divide its text.

  Blocks come one after the other, each from the start of a line to the end of one,
  and every line of text outside of headings lies in just one of them
  (`Body.IsDivided`).  Only the latest block ever grows, and only if it is a paragraph
  or a list item; so a block that has others behind it stays as it is, and the blocks
  of tables keep the places of their tables.

  * `Draft.Divides.add`: what each piece keeps;
  * `isDivided_ofOctets`: so it is with every body.
-/
import Folio.Proofs.Body.Blocks

namespace Folio

/-! ## Lines of pieces -/

section
variable {start stop : Nat} {ls : List Line} {l : Line}

/-- A line lies between the offsets where the lines start and stop. -/
theorem Line.Run.bounds (h : Line.Run start stop ls) (hl : l ∈ ls) :
    start ≤ l.start ∧ l.start < l.stop ∧ l.stop ≤ stop := by
  obtain ⟨above, below, rfl⟩ := List.append_of_mem hl
  obtain ⟨m, h1, h2⟩ := Line.run_append.1 h
  have hm := h1.le
  obtain ⟨h3, h4, h5⟩ := h2
  have hstop := h5.le
  omega

namespace Piece
variable {ps : List Piece} {p : Piece} {a b : Nat}

/-- A piece reaches from the start of a line to the end of one. -/
theorem Cut.edges (h : Cut ls ps) (hp : p ∈ ps) (hs : p.span? = some (a, b)) :
    (∃ l ∈ ls, l.start = a) ∧ ∃ l ∈ ls, l.stop = b := by
  induction h with
  | nil => cases hp
  | blank hl h ih =>
    rcases List.mem_cons.1 hp with rfl | hp
    · cases hs
    · obtain ⟨⟨l, hl, ha⟩, m, hm, hb⟩ := ih hp
      exact ⟨⟨l, List.mem_cons_of_mem _ hl, ha⟩, m, List.mem_cons_of_mem _ hm, hb⟩
  | @piece l taken ls q ps hq ht h ih =>
    rcases List.mem_cons.1 hp with rfl | hp
    · obtain ⟨rfl, rfl⟩ := Prod.mk.inj (Option.some.inj (hq.symm.trans hs))
      have hlast : taken.getLast?.getD l ∈ l :: taken := List.mem_of_getLast? List.getLast?_cons
      exact ⟨⟨l, List.mem_cons_self, rfl⟩, _, List.mem_append_left _ hlast, rfl⟩
    · obtain ⟨⟨l, hl, ha⟩, m, hm, hb⟩ := ih hp
      exact ⟨⟨l, List.mem_append_right _ hl, ha⟩, m, List.mem_append_right _ hm, hb⟩

/-- A line is blank, or it is the line of a heading, or it lies in another piece. -/
theorem Cut.cover (h : Cut ls ps) (hr : Line.Run start stop ls) (hl : l ∈ ls) :
    l.isBlank = true ∨ (∃ p ∈ ps, p.isHeading = true ∧ p.span? = some (l.start, l.stop)) ∨
      ∃ p ∈ ps, p.isHeading = false ∧ ∃ a b, p.span? = some (a, b) ∧ a ≤ l.start ∧ l.stop ≤ b := by
  induction h generalizing start with
  | nil => cases hl
  | blank hb h ih =>
    rcases List.mem_cons.1 hl with rfl | hl
    · exact .inl hb
    · rcases ih hr.2.2 hl with hb | ⟨p, hp, hs⟩ | ⟨p, hp, hs⟩
      · exact .inl hb
      · exact .inr (.inl ⟨p, List.mem_cons_of_mem _ hp, hs⟩)
      · exact .inr (.inr ⟨p, List.mem_cons_of_mem _ hp, hs⟩)
  | @piece first taken ls p ps hq ht h ih =>
    obtain ⟨m, h1, h2⟩ := Line.run_append.1 hr
    rcases List.mem_append.1 hl with hl | hl
    · cases hh : p.isHeading with
      | true =>
        obtain rfl := ht hh
        obtain rfl := List.mem_singleton.1 hl
        exact .inr (.inl ⟨p, List.mem_cons_self, hh, hq⟩)
      | false =>
        obtain ⟨hlo, -, hhi⟩ := h1.bounds hl
        exact .inr (.inr ⟨p, List.mem_cons_self, hh, _, _, hq, h1.1.symm ▸ hlo,
          h1.stop_getLast.symm ▸ hhi⟩)
    · rcases ih h2 hl with hb | ⟨p, hp, hs⟩ | ⟨p, hp, hs⟩
      · exact .inl hb
      · exact .inr (.inl ⟨p, List.mem_cons_of_mem _ hp, hs⟩)
      · exact .inr (.inr ⟨p, List.mem_cons_of_mem _ hp, hs⟩)

end Piece

end

namespace Body

/-- The blocks of a body divide its text. -/
structure IsDivided (b : Body) : Prop where
  /-- No block is empty. -/
  nonempty : ∀ k ∈ b.blocks, k.start < k.stop
  /-- A block reaches from the start of a line to the end of one. -/
  edges : ∀ k ∈ b.blocks, (∃ l ∈ Line.ofOctets b.octets, l.start = k.start) ∧
    ∃ l ∈ Line.ofOctets b.octets, l.stop = k.stop
  /-- Blocks come in the order in which they start. -/
  increasing : b.blocks.Pairwise (·.start < ·.start)
  /-- They do not overlap. -/
  disjoint : b.blocks.Pairwise (·.stop ≤ ·.start)
  /-- A line that is neither blank nor a heading of a section lies in one block. -/
  cover : ∀ l ∈ Line.ofOctets b.octets, l.isBlank = false →
    (∀ s ∈ b.sections, s.headingStart ≠ l.start) →
      ∃! k, k ∈ b.blocks ∧ k.start ≤ l.start ∧ l.stop ≤ k.stop
  /-- The blocks of tables are the tables. -/
  tables : (b.blocks.filter (·.kind = .table)).map (fun k => (k.start, k.stop, k.owner)) =
    b.tables.map fun t => (t.start, t.stop, t.owner)

namespace Draft

/-! ## What each piece keeps -/

/-- The part of the text is in a block. -/
def Holds (d : Draft) (start stop : Nat) : Prop :=
  ∃ k ∈ d.blocks, k.start ≤ start ∧ stop ≤ k.stop

/-- The blocks of tables are the tables. -/
def TablesMatch (d : Draft) : Prop :=
  (d.blocks.filter (·.kind = .table)).map (fun k => (k.start, k.stop, k.owner)) =
    d.tables.map fun t => (t.start, t.stop, t.owner)

/-- The blocks up to an offset come one after the other, the latest first, each from
    one of some offsets to one of others; only a paragraph or an item may grow, and the
    blocks of tables are the tables. -/
structure Divides (starts stops : Nat → Prop) (d : Draft) (pos : Nat) : Prop where
  blocks : ∀ k ∈ d.blocks, starts k.start ∧ stops k.stop ∧ k.start < k.stop ∧ k.stop ≤ pos
  ordered : d.blocks.Pairwise fun k j => j.stop ≤ k.start
  growing : d.growing = true → ∃ k ∈ d.blocks.head?, k.kind = .paragraph ∨ k.kind = .listItem
  tables : d.TablesMatch

section
variable {starts stops : Nat → Prop} {d : Draft} {pos stop : Nat} {p : Piece} {ps : List Piece}

/-- A block that takes a line is a paragraph or an item. -/
theorem Divides.kind_of_takes (h : Divides starts stops d pos) {indented : Bool} {k : Block}
    {ks : List Block} (ht : d.takes indented = true) (hd : d.blocks = k :: ks) :
    k.kind = .paragraph ∨ k.kind = .listItem := by
  simp only [takes, hd, List.head?_cons, Option.any_some, Bool.or_eq_true, Bool.and_eq_true,
    beq_iff_eq] at ht
  rcases ht with hg | ⟨-, hk⟩
  · obtain ⟨j, hj, hkind⟩ := h.growing hg
    rw [hd] at hj
    exact Option.some.inj hj ▸ hkind
  · exact .inr hk

theorem Divides.tablesMatch_add (h : Divides starts stops d pos) (p : Piece) :
    (d.add p).TablesMatch := by
  have ht := h.tables
  unfold TablesMatch at ht ⊢
  cases p with
  | blank | heading _ _ _ _ => exact ht
  | code _ _ _ | item _ _ => simpa [Draft.add, addBlock, addItem] using ht
  | table t => simpa [Draft.add, addTable, addBlock, owner] using ht
  | text indented start stop =>
    rw [Draft.add]
    split
    · next htake =>
      rw [grow]
      split
      · exact ht
      · next k ks hd =>
        have hk : k.kind ≠ .table := by
          rcases h.kind_of_takes htake hd with hk | hk <;> simp [hk]
        simpa [hd, hk] using ht
    · simpa [addBlock] using ht

theorem Divides.add (h : Divides starts stops d pos) (hr : Piece.Run pos stop (p :: ps))
    (hp : ∀ {a b : Nat}, p.span? = some (a, b) → starts a ∧ stops b) :
    Divides starts stops (d.add p) (p.after pos) := by
  have hpos := hr.tail.1
  have hold : ∀ k ∈ d.blocks,
      starts k.start ∧ stops k.stop ∧ k.start < k.stop ∧ k.stop ≤ p.after pos := fun k hk =>
    let ⟨h1, h2, h3, h4⟩ := h.blocks k hk
    ⟨h1, h2, h3, Nat.le_trans h4 hpos⟩
  cases d.step_add p with
  | heading hh hb hg =>
    exact ⟨hb ▸ hold, hb ▸ h.ordered, (fun hg' => by rw [hg] at hg'; cases hg'),
      h.tablesMatch_add _⟩
  | block k hh ho hs hbo hb hstray hg =>
    unfold Piece.Run at hr
    rw [hs] at hr
    obtain ⟨h1, h2⟩ := hp hs
    have hafter : p.after pos = k.stop := by rw [Piece.after, hs]; rfl
    refine ⟨?_, ?_, ?_, h.tablesMatch_add p⟩
    · rw [hb]
      intro j hj
      rcases List.mem_cons.1 hj with rfl | hj
      · exact ⟨h1, h2, hr.2.1, Nat.le_of_eq hafter.symm⟩
      · exact hold j hj
    · rw [hb]
      exact List.pairwise_cons.2 ⟨fun j hj => Nat.le_trans (h.blocks j hj).2.2.2 hr.1, h.ordered⟩
    · rw [hb]
      exact fun hg' => ⟨k, rfl, hg hg'⟩
  | @grow indented a b _ k ks hh ho ht hd hb =>
    obtain ⟨hle, hlt, -⟩ := hr
    obtain ⟨h1, -, h3, h4⟩ := h.blocks k (by rw [hd]; exact List.mem_cons_self)
    have hstops := (hp rfl).2
    have hkind := h.kind_of_takes ht hd
    have hord := h.ordered
    rw [hd] at hord
    refine ⟨?_, ?_, ?_, h.tablesMatch_add _⟩
    · rw [hb]
      intro j hj
      rcases List.mem_cons.1 hj with rfl | hj
      · exact ⟨h1, hstops, by dsimp only; omega, Nat.le_refl _⟩
      · exact hold j (by rw [hd]; exact List.mem_cons_of_mem _ hj)
    · rw [hb]
      exact List.pairwise_cons.2 ⟨(List.pairwise_cons.1 hord).1, (List.pairwise_cons.1 hord).2⟩
    · rw [hb]
      exact fun _ => ⟨_, rfl, hkind⟩
  | idle hh ho hb hg hstray hidle =>
    exact ⟨hb ▸ hold, hb ▸ h.ordered, fun hg' => hb ▸ h.growing (hg hg'), h.tablesMatch_add p⟩

/-- What is in a block stays in one. -/
theorem Divides.holds_add (h : Divides starts stops d pos) (hr : Piece.Run pos stop (p :: ps))
    {a b : Nat} (hh : d.Holds a b) : (d.add p).Holds a b := by
  obtain ⟨k, hk, hka, hkb⟩ := hh
  unfold Holds
  cases d.step_add p with
  | heading _ hb _ => rw [hb]; exact ⟨k, hk, hka, hkb⟩
  | block _ _ _ _ _ hb _ _ => rw [hb]; exact ⟨k, List.mem_cons_of_mem _ hk, hka, hkb⟩
  | grow j _ _ _ _ hd hb =>
    obtain ⟨hle, hlt, -⟩ := hr
    have hj := (h.blocks j (by rw [hd]; exact List.mem_cons_self)).2.2.2
    rw [hb]
    rw [hd] at hk
    rcases List.mem_cons.1 hk with rfl | hk
    · exact ⟨_, List.mem_cons_self, hka, by dsimp only; omega⟩
    · exact ⟨k, List.mem_cons_of_mem _ hk, hka, hkb⟩
  | idle _ _ hb _ _ _ => rw [hb]; exact ⟨k, hk, hka, hkb⟩

/-- A piece other than a heading is in a block after it. -/
theorem Divides.holds_piece (h : Divides starts stops d pos) (hr : Piece.Run pos stop (p :: ps))
    (hp : p.isHeading = false) {a b : Nat} (hs : p.span? = some (a, b)) : (d.add p).Holds a b := by
  unfold Holds
  cases d.step_add p with
  | heading => cases hp
  | block k _ _ hk _ hb _ _ =>
    obtain ⟨rfl, rfl⟩ := Prod.mk.inj (Option.some.inj (hk.symm.trans hs))
    rw [hb]
    exact ⟨k, List.mem_cons_self, Nat.le_refl _, Nat.le_refl _⟩
  | grow k _ _ _ _ hd hb =>
    obtain ⟨rfl, rfl⟩ := Prod.mk.inj (Option.some.inj hs)
    obtain ⟨hle, hlt, -⟩ := hr
    obtain ⟨-, -, h3, h4⟩ := h.blocks k (by rw [hd]; exact List.mem_cons_self)
    rw [hb]
    exact ⟨_, List.mem_cons_self, by dsimp only; omega, Nat.le_refl _⟩
  | idle _ _ _ _ _ hidle =>
    rcases hidle with rfl | ⟨hg, hd⟩
    · cases hs
    · -- a block that may grow is there
      obtain ⟨k, hk, -⟩ := h.growing hg
      rw [hd] at hk
      cases hk

/-! ## Runs of pieces -/

theorem Divides.foldl (h : Divides starts stops d pos) (hr : Piece.Run pos stop ps)
    (hp : ∀ p ∈ ps, ∀ {a b : Nat}, p.span? = some (a, b) → starts a ∧ stops b) :
    Divides starts stops (ps.foldl Draft.add d) stop ∧
      (∀ {a b : Nat}, d.Holds a b → (ps.foldl Draft.add d).Holds a b) ∧
      ∀ p ∈ ps, p.isHeading = false → ∀ {a b : Nat}, p.span? = some (a, b) →
        (ps.foldl Draft.add d).Holds a b := by
  induction ps generalizing d pos with
  | nil =>
    refine ⟨⟨fun k hk => ?_, h.ordered, h.growing, h.tables⟩, fun hh => hh, fun p hp => by cases hp⟩
    obtain ⟨h1, h2, h3, h4⟩ := h.blocks k hk
    exact ⟨h1, h2, h3, Nat.le_trans h4 hr⟩
  | cons p ps ih =>
    obtain ⟨h1, h2, h3⟩ := ih (h.add hr (hp p List.mem_cons_self)) hr.tail.2
      fun q hq => hp q (List.mem_cons_of_mem _ hq)
    refine ⟨h1, fun hh => h2 (h.holds_add hr hh), fun q hq hqh a b hs => ?_⟩
    rcases List.mem_cons.1 hq with rfl | hq
    · exact h2 (h.holds_piece hr hqh hs)
    · exact h3 q hq hqh hs

theorem divides_empty (total : Nat) : Divides starts stops (empty total) 0 where
  blocks k hk := by cases hk
  ordered := List.Pairwise.nil
  growing hg := by cases hg
  tables := rfl

end

end Draft

/-! ## Bodies -/

/-- Blocks that do not overlap lie one before the other. -/
theorem apart_of_pairwise {ks : List Block} (h : ks.Pairwise (·.stop ≤ ·.start)) {k j : Block}
    (hk : k ∈ ks) (hj : j ∈ ks) (hne : k ≠ j) : k.stop ≤ j.start ∨ j.stop ≤ k.start := by
  have h' : ks.Pairwise fun k j => k.stop ≤ j.start ∨ j.stop ≤ k.start := h.imp Or.inl
  have : Std.Symm fun k j : Block => k.stop ≤ j.start ∨ j.stop ≤ k.start := ⟨fun _ _ => Or.symm⟩
  exact h'.forall hk hj hne

/-- There is a section for a heading among the pieces. -/
theorem exists_section_of_heading {s : Octets} {p : Piece} {a b : Nat}
    (hp : p ∈ Piece.ofLines s.length (Line.ofOctets s)) (hh : p.isHeading = true)
    (hs : p.span? = some (a, b)) : ∃ t ∈ (ofOctets s).sections, t.headingStart = a := by
  cases p with
  | heading level title start stop =>
    obtain ⟨rfl, rfl⟩ := Prod.mk.inj (Option.some.inj hs)
    have hmem : (level, title, start, stop) ∈
        (Piece.ofLines s.length (Line.ofOctets s)).filterMap Piece.heading? :=
      List.mem_filterMap.2 ⟨_, hp, rfl⟩
    have hheadings := (isHeadingTree_ofOctets s).headings
    rw [octets_ofOctets] at hheadings
    rw [← hheadings] at hmem
    obtain ⟨t, ht, he⟩ := List.mem_map.1 hmem
    exact ⟨t, ht, congrArg (·.2.2.1) he⟩
  | _ => cases hh

/-- **The blocks of every body divide its text.** -/
theorem isDivided_ofOctets (s : Octets) : (ofOctets s).IsDivided := by
  have hrun := Line.run_ofOctets s
  have hcut := Piece.cut_ofLines hrun
  have hr := hcut.run hrun
  have hedges : ∀ p ∈ Piece.ofLines s.length (Line.ofOctets s), ∀ {a b : Nat},
      p.span? = some (a, b) → (∃ l ∈ Line.ofOctets s, l.start = a) ∧ ∃ l ∈ Line.ofOctets s, l.stop = b :=
    fun p hp {a b} hs => hcut.edges hp hs
  have hempty : Draft.Divides (fun a => ∃ l ∈ Line.ofOctets s, l.start = a)
      (fun b => ∃ l ∈ Line.ofOctets s, l.stop = b) (Draft.empty s.length) 0 := Draft.divides_empty _
  obtain ⟨hd, -, hholds⟩ := hempty.foldl hr hedges
  have hblocks : ∀ k ∈ (ofOctets s).blocks, (∃ l ∈ Line.ofOctets s, l.start = k.start) ∧
      (∃ l ∈ Line.ofOctets s, l.stop = k.stop) ∧ k.start < k.stop ∧ k.stop ≤ s.length :=
    fun k hk => hd.blocks k (List.mem_reverse.1 hk)
  have hdisjoint : (ofOctets s).blocks.Pairwise (·.stop ≤ ·.start) :=
    List.pairwise_reverse.2 hd.ordered
  refine ⟨fun k hk => (hblocks k hk).2.2.1, fun k hk => ⟨(hblocks k hk).1, (hblocks k hk).2.1⟩, ?_,
    hdisjoint, fun l hl hb hs => ?_, ?_⟩
  · refine hdisjoint.imp_of_mem fun {k j} hk _ hle => ?_
    exact Nat.lt_of_lt_of_le (hblocks k hk).2.2.1 hle
  · obtain ⟨k, hk, hka, hkb⟩ : ∃ k ∈ (ofOctets s).blocks, k.start ≤ l.start ∧ l.stop ≤ k.stop := by
      rcases hcut.cover hrun hl with hb' | ⟨p, hp, hh, hspan⟩ | ⟨p, hp, hh, a, b, hspan, ha, hb'⟩
      · rw [hb] at hb'; cases hb'
      · obtain ⟨t, ht, hts⟩ := exists_section_of_heading hp hh hspan
        exact absurd hts (hs t ht)
      · obtain ⟨k, hk, hka, hkb⟩ := hholds p hp hh hspan
        exact ⟨k, List.mem_reverse.2 hk, Nat.le_trans hka ha, Nat.le_trans hb' hkb⟩
    refine ⟨k, ⟨hk, hka, hkb⟩, fun j ⟨hj, hja, hjb⟩ => ?_⟩
    by_contra hne
    have hl' := hrun.bounds hl
    rcases apart_of_pairwise hdisjoint hj hk hne with h | h <;> omega
  · change List.map _ (List.filter _ (List.reverse _)) = List.map _ (List.reverse _)
    rw [List.filter_reverse, List.map_reverse, List.map_reverse]
    exact congrArg List.reverse hd.tables

end Body

end Folio
