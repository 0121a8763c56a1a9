/-
  Folio — which section holds what.

  What is met while a body is read belongs to the innermost section that is open then.  So
  it starts after the headings up to that of its owner and before all others
  (`Body.Lies`).  A section reaches up to the next one of no lower level, and so what starts
  between its ends belongs to it or to a section below it (`Body.Owns`).

  * `blocks_lie`, `tables_lie`: where the blocks and the tables of every body lie;
  * `IsHeadingTree.lies_in_iff_owns`: what starts between the ends of a section;
  * `Document.blocksOf_eq_filter`: the blocks of a section.
-/
import Folio.Document.Lookup
import Folio.Proofs.Body.Below
import Folio.Proofs.Body.Cover
import Folio.Proofs.Outcome

namespace Folio

namespace Body

/-- The offset lies in the body, after the headings up to that of an owner and before the
    others. -/
structure Lies (b : Body) (pos : Nat) (owner : Option Nat) : Prop where
  lt : pos < b.octets.length
  upTo_le : Draft.upTo owner ≤ b.sections.length
  after : ∀ {i : Nat} {s : Section}, b.sections[i]? = some s → i < Draft.upTo owner → s.start ≤ pos
  before : ∀ {i : Nat} {s : Section}, b.sections[i]? = some s → Draft.upTo owner ≤ i →
    pos < s.headingStart

/-- **Where the blocks of a body lie.** -/
theorem blocks_lie {s : Octets} {k : Block} (hk : k ∈ (ofOctets s).blocks) :
    (ofOctets s).Lies k.start k.owner := by
  have hsound := Draft.sound_foldl (Draft.sound_empty s.length) (Piece.run_ofOctets s)
  have hsits := hsound.begun.sits k (List.mem_reverse.1 hk)
  refine ⟨Nat.lt_of_lt_of_le hsits.lt hsits.stop_le, ?_, fun hs hlt => ?_, fun hs hle => ?_⟩
  · have hlen := hsits.upTo_le
    rwa [Draft.length_headingLines, ← Array.length_toList] at hlen
  · exact hsits.start_le (Array.getElem?_toList ▸ hs) hlt
  · exact hsits.start_lt (Array.getElem?_toList ▸ hs) hle

/-- **Where the tables of a body lie.** -/
theorem tables_lie {s : Octets} {t : Table} (ht : t ∈ (ofOctets s).tables) :
    (ofOctets s).Lies t.start t.owner := by
  have hmem := List.mem_map_of_mem (f := fun t : Table => (t.start, t.stop, t.owner)) ht
  rw [← (isDivided_ofOctets s).tables] at hmem
  obtain ⟨k, hk, he⟩ := List.mem_map.1 hmem
  obtain ⟨hstart, -, howner⟩ : k.start = t.start ∧ k.stop = t.stop ∧ k.owner = t.owner := by
    simpa using he
  rw [← hstart, ← howner]
  exact blocks_lie (List.mem_of_mem_filter hk)

/-- The tables of a body come in the order in which they start. -/
theorem IsDivided.tables_increasing {b : Body} (h : b.IsDivided) :
    b.tables.Pairwise (·.start < ·.start) := by
  have hblocks : ((b.blocks.filter (·.kind = .table)).map fun k => (k.start, k.stop, k.owner)).Pairwise
      fun x y => x.1 < y.1 := List.pairwise_map.2 (h.increasing.filter _)
  rw [h.tables, List.pairwise_map] at hblocks
  exact hblocks

/-! ## Sections -/

/-- The sections of a body come in the order of their headings. -/
theorem sections_increasing (s : Octets) :
    (ofOctets s).sections.Pairwise (·.headingStart < ·.headingStart) := by
  have hlaid := (Draft.sound_foldl (Draft.sound_empty s.length) (Piece.run_ofOctets s)).laid
  have hlines := hlaid.ordered.imp_of_mem (S := fun p q => p.1 < q.1) fun hp _ hle =>
    Nat.lt_of_lt_of_le (hlaid.headings _ hp).1 hle
  rwa [Draft.headingLines, List.pairwise_map] at hlines

/-- The owner is the section at a place, or a section below it. -/
def Owns (b : Body) (i : Nat) (owner : Option Nat) : Prop :=
  ∃ j, owner = some j ∧ (j = i ∨ b.Below i j)

theorem owns_some_iff {b : Body} {i j : Nat} : b.Owns i (some j) ↔ j = i ∨ b.Below i j := by
  simp [Owns]

namespace IsHeadingTree
variable {b : Body} (h : b.IsHeadingTree) {i j : Nat} {s : Section}
include h

theorem stop_eq_next? (hs : b.sections[i]? = some s) : s.stop =
    ((Mark.next? (b.sections.map Mark.ofSection) (.ofSection s)).map (·.start)).getD
      b.octets.length := by
  rw [h.stop hs, Mark.next?, ← List.map_drop, List.find?_map, Option.map_map]
  change _ = (Option.map _ ((b.sections.drop (s.index + 1)).find? _)).getD _
  rw [h.index hs]
  rfl

/-- **Where a section ends**: where the body ends, or at the first later section of no lower
    level. -/
theorem stop_cases (hs : b.sections[i]? = some s) :
    (s.stop = b.octets.length ∧ ∀ k e, b.sections[k]? = some e → i < k → s.level < e.level) ∨
    ∃ n e, b.sections[n]? = some e ∧ i < n ∧ e.level ≤ s.level ∧ s.stop = e.headingStart ∧
      ∀ k f, b.sections[k]? = some f → i < k → k < n → s.level < f.level := by
  have hlater : ∀ {k e}, b.sections[k]? = some e → i < k →
      Mark.ofSection e ∈ b.sections.map Mark.ofSection ∧ (Mark.ofSection s).index < e.index :=
    fun {k e} he hik => ⟨List.mem_map_of_mem (List.mem_of_getElem? he), by
      rw [h.index he]
      exact (h.index hs).trans_lt hik⟩
  rw [h.stop_eq_next? hs]
  cases hnext : Mark.next? (b.sections.map Mark.ofSection) (.ofSection s) with
  | none =>
    refine .inl ⟨rfl, fun k e he hik => ?_⟩
    obtain ⟨hmem, hlt⟩ := hlater he hik
    exact (Mark.next?_eq_none_iff h.placed).1 hnext _ hmem hlt
  | some m =>
    obtain ⟨hm, hlt, hle, hbetween⟩ := (Mark.next?_eq_some_iff h.placed).1 hnext
    obtain ⟨e, he, rfl⟩ := h.mark_mem_iff.1 hm
    refine .inr ⟨e.index, e, he, (h.index hs).symm.trans_lt hlt, hle, rfl,
      fun k f hf hik hkn => ?_⟩
    obtain ⟨hmem, hlt⟩ := hlater hf hik
    exact hbetween _ hmem hlt ((h.index hf).trans_lt hkn)

theorem owns_iff_levels (hs : b.sections[i]? = some s) : b.Owns i (some j) ↔
    i ≤ j ∧ j < b.sections.length ∧
      ∀ k e, b.sections[k]? = some e → i < k → k ≤ j → s.level < e.level := by
  rw [owns_some_iff, h.below_iff_levels hs]
  constructor
  · rintro (rfl | ⟨hij, hj, hlower⟩)
    · refine ⟨Nat.le_refl _, (List.getElem?_eq_some_iff.1 hs).1, fun k e _ hik hkj => ?_⟩
      exact absurd hik (Nat.not_lt.2 hkj)
    · exact ⟨Nat.le_of_lt hij, hj, hlower⟩
  · rintro ⟨hij, hj, hlower⟩
    rcases Nat.lt_or_eq_of_le hij with hij | rfl
    · exact .inr ⟨hij, hj, hlower⟩
    · exact .inl rfl

/-- **What lies between the ends of a section** belongs to it or to a section below it. -/
theorem lies_in_iff_owns (hs : b.sections[i]? = some s) {pos : Nat} {owner : Option Nat}
    (hl : b.Lies pos owner) : s.start ≤ pos ∧ pos < s.stop ↔ b.Owns i owner := by
  have hheading : ∀ {k : Nat} {e : Section}, b.sections[k]? = some e → e.headingStart < e.start :=
    fun he => (h.bounds _ (List.mem_of_getElem? he)).1
  cases owner with
  | none =>
    -- before all headings
    refine iff_of_false (fun ⟨hstart, _⟩ => ?_) (by rintro ⟨j, ⟨⟩, -⟩)
    have := hl.before hs (Nat.zero_le i)
    have := hheading hs
    omega
  | some j =>
    rw [h.owns_iff_levels hs]
    constructor
    · rintro ⟨hstart, hstop⟩
      have hij : i ≤ j := by
        by_contra hlt
        have := hl.before hs (Nat.not_le.1 hlt)
        have := hheading hs
        omega
      refine ⟨hij, hl.upTo_le, fun k e he hik hkj => ?_⟩
      rcases h.stop_cases hs with ⟨-, hlower⟩ | ⟨n, f, hf, -, -, hn, hlower⟩
      · exact hlower k e he hik
      · refine hlower k e he hik (Nat.lt_of_le_of_lt hkj ?_)
        by_contra hnj
        have := hl.after hf (Nat.lt_succ_of_le (Nat.not_lt.1 hnj))
        have := hheading hf
        omega
    · rintro ⟨hij, -, hlower⟩
      refine ⟨hl.after hs (Nat.lt_succ_of_le hij), ?_⟩
      rcases h.stop_cases hs with ⟨hend, -⟩ | ⟨n, f, hf, hin, hle, hn, -⟩
      · rw [hend]
        exact hl.lt
      · rw [hn]
        refine hl.before hf (Nat.succ_le_of_lt ?_)
        by_contra hnj
        exact absurd (hlower n f hf hin (Nat.not_lt.1 hnj)) (Nat.not_lt.2 hle)

end IsHeadingTree

end Body

namespace Document

theorem body_of_parse {raw : Octets} {file : Option String} {d : Document}
    (h : parse raw file = .ok d) : d.body = Body.ofOctets (raw.drop d.bodyOffset) := by
  simp only [parse] at h
  split at h
  · cases h
  · cases h; rfl

open Classical in
/-- **The blocks of a section**, of one kind or all, are those that belong to it or to a
    section below it, in the order in which they start. -/
theorem blocksOf_eq_filter {raw : Octets} {file : Option String} {d : Document}
    (h : parse raw file = .ok d) {s : Section} (hs : s ∈ d.body.sections) (kind : Option BlockKind) :
    d.body.blocksOf s kind =
      (d.body.blocks.filter fun k => (∀ x ∈ kind, x = k.kind) ∧ d.body.Owns s.index k.owner) ∧
    (d.body.blocksOf s kind).Pairwise (·.start < ·.start) := by
  have htree := (isHeadingTree_of_parse h).2
  have hdivided := body_of_parse h ▸ Body.isDivided_ofOctets (raw.drop d.bodyOffset)
  obtain ⟨i, hi⟩ := List.mem_iff_getElem?.1 hs
  refine ⟨List.filter_congr fun k hk => ?_, hdivided.increasing.filter _⟩
  have hlies : d.body.Lies k.start k.owner := by
    rw [body_of_parse h] at hk ⊢
    exact Body.blocks_lie hk
  have hin := htree.lies_in_iff_owns hi hlies
  have hkind : kind.all (· == k.kind) = true ↔ ∀ x ∈ kind, x = k.kind := by
    cases kind <;> simp
  rw [Bool.eq_iff_iff, Bool.and_eq_true, Bool.and_eq_true, decide_eq_true_eq, decide_eq_true_eq,
    decide_eq_true_eq, hkind, hin, htree.index hi, and_comm]

/-- An item goes on below the heading after it, and belongs to the section before. -/
theorem blocksOf_eq_filter_of_stray :
    ∃ d s, parse (Utf8.ofString "# a\n- x\n## b\n  y\n# c\nz\n") none = .ok d ∧
      s ∈ d.body.sections ∧ s.heading = "a" ∧
      d.body.blocksOf s (some .listItem) = [⟨.listItem, 4, 17, some 0, "", true⟩] ∧
      ∀ k, k ∈ d.body.blocksOf s none ↔ k ∈ d.body.blocks ∧ d.body.Owns s.index k.owner := by
  have hd : (parse (Utf8.ofString "# a\n- x\n## b\n  y\n# c\nz\n") none).map
      (fun d => (d.body.sections.head?, d.body.blocks)) =
        .ok (some ⟨"a", 1, 0, 4, 17, 0, none, [1], []⟩,
          [⟨.listItem, 4, 17, some 0, "", true⟩, ⟨.paragraph, 21, 23, some 2, "", false⟩]) := by
    decide +kernel
  obtain ⟨d, hp, hd⟩ := map_eq_ok_iff.1 hd
  obtain ⟨hsections, hblocks⟩ := Prod.mk.inj hd
  have hs := List.mem_of_head? hsections
  refine ⟨d, _, hp, hs, rfl, ?_, fun k => ?_⟩
  · simp [Body.blocksOf, hblocks]
  · rw [(blocksOf_eq_filter hp hs none).1]
    simp

end Document

end Folio
