/-
  Folio — which blocks keep to their section.

  A block should lie in the section that holds it and not reach across a heading
  (`Body.Keeps`).  All blocks but list items do.  A list item does not if an
  indented line after a later heading continues it: such a line continues the
  latest block if that is an item, whatever section holds it (`Draft.Strays`),
  though a new item goes on with a list of the same section only.

  * `Draft.step_add`: what a piece does to headings and blocks;
  * `Draft.crosses_add_iff`, `Draft.crosses_foldl_iff`: one piece, and a whole
    run of pieces, make a block cross a heading just if a line strays;
  * `blocks_keep_iff`: so it is with the blocks of every body.
-/
import Folio.Proofs.Body.HeadingTree

namespace Folio.Body

/-- A block does not reach across a heading and lies in the section that holds
    it. -/
structure Keeps (b : Body) (k : Block) : Prop where
  apart : ∀ s ∈ b.sections, ¬ (k.start ≤ s.headingStart ∧ s.headingStart < k.stop)
  within : ∀ {i : Nat} {s : Section}, b.sections[i]? = some s → k.owner = some i →
    s.start ≤ k.start ∧ k.stop ≤ s.stop

namespace Draft

/-- The piece is an indented line and the latest block an item of an earlier
    section. -/
def Strays (d : Draft) : Piece → Prop
  | .text true _ _ => ∃ b ∈ d.blocks.head?, b.kind = .listItem ∧ b.owner ≠ d.owner
  | _ => False

/-! ## What a piece does -/

/-- What a piece can do to the headings and the blocks. -/
inductive Step (d : Draft) : Piece → Draft → Prop where
  /-- There is one heading more. -/
  | heading {level : Nat} {title : String} {start stop : Nat} {d' : Draft}
      (hh : d'.headingLines = d.headingLines ++ [(start, stop)]) (hb : d'.blocks = d.blocks)
      (hg : d'.growing = false) : Step d (.heading level title start stop) d'
  /-- There is one block more, of the innermost open section.  Only paragraphs and
      items may grow. -/
  | block {p : Piece} {d' : Draft} (b : Block) (hh : d'.headingLines = d.headingLines)
      (ho : d'.owner = d.owner) (hp : p.span? = some (b.start, b.stop)) (hbo : b.owner = d.owner)
      (hb : d'.blocks = b :: d.blocks) (hs : ¬ d.Strays p)
      (hg : d'.growing = true → b.kind = .paragraph ∨ b.kind = .listItem) : Step d p d'
  /-- The latest block reaches up to the end of the piece. -/
  | grow {indented : Bool} {start stop : Nat} {d' : Draft} (b : Block) (bs : List Block)
      (hh : d'.headingLines = d.headingLines) (ho : d'.owner = d.owner)
      (ht : d.takes indented = true) (hd : d.blocks = b :: bs)
      (hb : d'.blocks = { b with stop } :: bs) : Step d (.text indented start stop) d'
  /-- Headings and blocks stay as they are: the piece is a blank line, unless a block
      may grow and there is none. -/
  | idle {p : Piece} {d' : Draft} (hh : d'.headingLines = d.headingLines)
      (ho : d'.owner = d.owner) (hb : d'.blocks = d.blocks)
      (hg : d'.growing = true → d.growing = true) (hs : ¬ d.Strays p)
      (hp : p = .blank ∨ d.growing = true ∧ d.blocks = []) : Step d p d'

/-- A line that strays continues the latest block. -/
theorem takes_of_strays {d : Draft} {indented : Bool} {start stop : Nat}
    (h : d.Strays (.text indented start stop)) : d.takes indented = true := by
  cases indented with
  | false => cases h
  | true =>
    obtain ⟨b, hb, hk, -⟩ := h
    simp [takes, Option.mem_def.1 hb, hk]

theorem step_add (d : Draft) (p : Piece) : d.Step p (d.add p) := by
  cases p with
  | blank => exact .idle rfl rfl rfl (fun h => by cases h) (fun h => h) (.inl rfl)
  | heading level title start stop => exact .heading (headingLines_addHeading ..) rfl rfl
  | code info start stop => exact .block _ rfl rfl rfl rfl rfl (fun h => h) (fun h => by cases h)
  | table t =>
    exact .block _ (headingLines_addTable d t) rfl rfl rfl rfl (fun h => h) (fun h => by cases h)
  | item start stop => exact .block _ rfl rfl rfl rfl rfl (fun h => h) (fun _ => .inr rfl)
  | text indented start stop =>
    rw [add]
    split
    · next ht =>
      rw [grow]
      split
      · next hd =>
        have hg : d.growing = true := by simpa [takes, hd] using ht
        refine .idle rfl rfl rfl (fun h => h) (fun hs => ?_) (.inr ⟨hg, hd⟩)
        cases indented with
        | false => cases hs
        | true =>
          obtain ⟨b, hb, -⟩ := hs
          rw [hd] at hb
          cases hb
      · next b bs hd => exact .grow b bs rfl rfl ht hd rfl
    · next ht =>
      exact .block _ rfl rfl rfl rfl rfl (fun hs => ht (takes_of_strays hs)) (fun _ => .inl rfl)

/-! ## Blocks among headings -/

/-- How many headings there are up to that of an owner. -/
def upTo (owner : Option Nat) : Nat := owner.elim 0 (· + 1)

/-- A block that ends before an offset starts after the heading of its owner and
    before the next heading. -/
structure Sits (hs : List (Nat × Nat)) (pos : Nat) (b : Block) : Prop where
  lt : b.start < b.stop
  stop_le : b.stop ≤ pos
  upTo_le : upTo b.owner ≤ hs.length
  before : ∀ p ∈ hs.take (upTo b.owner), p.2 ≤ b.start
  behind : ∀ p ∈ hs.drop (upTo b.owner), b.start < p.1

/-- The block reaches across a heading after that of its owner. -/
def Crosses (hs : List (Nat × Nat)) (b : Block) : Prop :=
  ∃ p ∈ hs.drop (upTo b.owner), p.1 < b.stop

section
variable {hs : List (Nat × Nat)} {pos pos' start stop : Nat} {b : Block}

namespace Sits
variable (h : Sits hs pos b)
include h

theorem mono (hp : pos ≤ pos') : Sits hs pos' b :=
  { h with stop_le := Nat.le_trans h.stop_le hp }

theorem append (hp : pos ≤ start) : Sits (hs ++ [(start, stop)]) pos b where
  lt := h.lt
  stop_le := h.stop_le
  upTo_le := by
    have := h.upTo_le
    rw [List.length_append]
    omega
  before := by
    rw [List.take_append_of_le_length h.upTo_le]
    exact h.before
  behind p hmem := by
    rw [List.drop_append_of_le_length h.upTo_le] at hmem
    rcases List.mem_append.1 hmem with hmem | hmem
    · exact h.behind p hmem
    · have hlt := h.lt
      have hle := h.stop_le
      rw [List.mem_singleton.1 hmem]
      change b.start < start
      omega

theorem grow (hp : pos ≤ stop) : Sits hs stop { b with stop } where
  lt := Nat.lt_of_lt_of_le h.lt (Nat.le_trans h.stop_le hp)
  stop_le := Nat.le_refl _
  upTo_le := h.upTo_le
  before := h.before
  behind := h.behind

/-- A block does not cross a heading that starts after it. -/
theorem crosses_append (hp : pos ≤ start) : Crosses (hs ++ [(start, stop)]) b ↔ Crosses hs b := by
  unfold Crosses
  rw [List.drop_append_of_le_length h.upTo_le]
  constructor
  · rintro ⟨p, hmem, hlt⟩
    rcases List.mem_append.1 hmem with hmem | hmem
    · exact ⟨p, hmem, hlt⟩
    · have hle := h.stop_le
      rw [List.mem_singleton.1 hmem] at hlt
      change start < b.stop at hlt
      omega
  · rintro ⟨p, hmem, hlt⟩
    exact ⟨p, List.mem_append_left _ hmem, hlt⟩

theorem crosses_grow (hp : pos ≤ stop) (hc : Crosses hs b) : Crosses hs { b with stop } := by
  obtain ⟨p, hmem, hlt⟩ := hc
  exact ⟨p, hmem, Nat.lt_of_lt_of_le hlt (Nat.le_trans h.stop_le hp)⟩

end Sits

end

section
variable {d : Draft}

/-- What comes next comes after all headings. -/
theorem Nested.upTo_owner (h : d.Nested) : upTo d.owner = d.headingLines.length := by
  rw [length_headingLines]
  cases ho : d.owner with
  | some i => exact h.owner_last ho
  | none =>
    by_contra hne
    obtain ⟨o, hmem, -⟩ := h.last_opened (Ne.symm hne)
    rw [owner, Option.map_eq_none_iff, List.head?_eq_none_iff] at ho
    rw [ho] at hmem
    cases hmem

/-- No heading comes after that of the innermost open section. -/
theorem Nested.drop_eq_nil (h : d.Nested) : d.headingLines.drop (upTo d.owner) = [] :=
  List.drop_eq_nil_of_le (Nat.le_of_eq h.upTo_owner.symm)

theorem Nested.not_crosses (h : d.Nested) {b : Block} (hb : b.owner = d.owner) :
    ¬ Crosses d.headingLines b := by
  rintro ⟨p, hp, -⟩
  rw [hb, h.drop_eq_nil] at hp
  cases hp

/-- The block that a piece starts comes after all headings. -/
theorem Nested.sits (h : d.Nested) {pos : Nat} (hl : d.Laid pos) {b : Block}
    (hb : b.owner = d.owner) (hpos : pos ≤ b.start) (hlt : b.start < b.stop) :
    Sits d.headingLines b.stop b where
  lt := hlt
  stop_le := Nat.le_refl _
  upTo_le := by rw [hb, h.upTo_owner]
  before p hp := Nat.le_trans (hl.headings p (List.mem_of_mem_take hp)).2 hpos
  behind p hp := by rw [hb, h.drop_eq_nil] at hp; cases hp

/-- A block of an earlier section that reaches past the latest heading crosses
    it. -/
theorem Nested.crosses (h : d.Nested) {pos : Nat} (hl : d.Laid pos) {b : Block}
    (hle : upTo b.owner ≤ d.headingLines.length) (hb : b.owner ≠ d.owner) (hpos : pos ≤ b.stop) :
    Crosses d.headingLines b := by
  have hlt : upTo b.owner < d.headingLines.length := by
    refine Nat.lt_of_le_of_ne hle fun he => hb ?_
    rw [← h.upTo_owner] at he
    cases hbo : b.owner <;> cases hdo : d.owner <;> simp [hbo, hdo, upTo] at he ⊢
    exact he
  have hmem := List.getElem_mem hlt
  refine ⟨_, List.mem_of_getElem? (i := 0) ?_, Nat.lt_of_lt_of_le (hl.headings _ hmem).1
    (Nat.le_trans (hl.headings _ hmem).2 hpos)⟩
  rw [List.getElem?_drop, Nat.add_zero, List.getElem?_eq_getElem hlt]

end

/-! ## Runs of pieces -/

/-- The blocks up to an offset sit among the headings, and one that any text may
    continue is of the innermost open section or crosses a heading already. -/
structure Begun (d : Draft) (pos : Nat) : Prop where
  sits : ∀ b ∈ d.blocks, Sits d.headingLines pos b
  growing : d.growing = true → ∀ b ∈ d.blocks.head?, b.owner = d.owner ∨ Crosses d.headingLines b

/-- A block of some kind crosses a heading. -/
def HasCrossing (d : Draft) (kind : BlockKind) : Prop :=
  ∃ b ∈ d.blocks, b.kind = kind ∧ Crosses d.headingLines b

section
variable {d : Draft} {pos stop : Nat} {p : Piece} {ps : List Piece}

namespace Begun
variable (h : d.Begun pos)
include h

/-- A block of an earlier section grows only if it crosses a heading already or
    the line strays. -/
theorem strays_of_takes {indented : Bool} {b : Block} {bs : List Block} (start : Nat)
    (ht : d.takes indented = true) (hd : d.blocks = b :: bs) (hne : b.owner ≠ d.owner)
    (hc : ¬ Crosses d.headingLines b) :
    b.kind = .listItem ∧ d.Strays (.text indented start stop) := by
  have hg : d.growing = false := by
    by_contra hg
    rcases h.growing (Bool.eq_true_of_not_eq_false hg) b (by rw [hd]; rfl) with ho | ho
    exacts [hne ho, hc ho]
  simp only [takes, hg, hd, Bool.false_or, List.head?_cons, Option.any_some, Bool.and_eq_true,
    beq_iff_eq] at ht
  obtain ⟨rfl, hk⟩ := ht
  exact ⟨hk, b, by rw [hd]; rfl, hk, hne⟩

theorem add (hn : d.Nested) (hl : d.Laid pos) (hr : Piece.Run pos stop (p :: ps)) :
    (d.add p).Begun (p.after pos) := by
  have hold : ∀ b ∈ d.blocks, Sits d.headingLines (p.after pos) b :=
    fun b hb => (h.sits b hb).mono hr.tail.1
  cases d.step_add p with
  | heading hh hb hg =>
    obtain ⟨hpos, hlt, -⟩ := hr
    constructor
    · rw [hb, hh]
      exact fun b hmem => ((h.sits b hmem).append hpos).mono (Nat.le_trans hpos (Nat.le_of_lt hlt))
    · rw [hg]
      exact fun hg' => by cases hg'
  | block b hh ho hp hbo hb hs =>
    unfold Piece.Run at hr
    rw [hp] at hr
    have hstop : p.after pos = b.stop := by rw [Piece.after, hp]; rfl
    constructor
    · intro c hc
      rw [hb] at hc
      rw [hh]
      rcases List.mem_cons.1 hc with rfl | hc
      · rw [hstop]; exact hn.sits hl hbo hr.1 hr.2.1
      · exact hold c hc
    · intro _ c hc
      rw [hb] at hc
      cases hc
      rw [ho]
      exact Or.inl hbo
  | grow b bs hh ho ht hd hb =>
    obtain ⟨hpos, hlt, -⟩ := hr
    have hb' : b ∈ d.blocks := by rw [hd]; exact List.mem_cons_self
    constructor
    · intro c hc
      rw [hb] at hc
      rw [hh]
      rcases List.mem_cons.1 hc with rfl | hc
      · exact (h.sits b hb').grow (Nat.le_trans hpos (Nat.le_of_lt hlt))
      · exact hold c (by rw [hd]; exact List.mem_cons_of_mem _ hc)
    · intro _ c hc
      rw [hb] at hc
      cases hc
      rw [hh, ho]
      by_cases hbo : b.owner = d.owner
      · exact Or.inl hbo
      · exact Or.inr (hn.crosses hl (h.sits b hb').upTo_le hbo
          (Nat.le_trans hpos (Nat.le_of_lt hlt)))
  | idle hh ho hb hg hs =>
    constructor
    · rw [hb, hh]; exact hold
    · rw [hb, hh, ho]; exact fun hg' => h.growing (hg hg')

/-- **A piece makes a block cross a heading just if it is a line that strays**,
    and then the block is a list item. -/
theorem crosses_add_iff (hn : d.Nested) (hl : d.Laid pos) (hr : Piece.Run pos stop (p :: ps))
    {kind : BlockKind} :
    (d.add p).HasCrossing kind ↔ d.HasCrossing kind ∨ kind = .listItem ∧ d.Strays p := by
  unfold HasCrossing
  cases d.step_add p with
  | heading hh hb hg =>
    obtain ⟨hpos, hlt, -⟩ := hr
    rw [hh, hb]
    constructor
    · rintro ⟨b, hmem, hk, hc⟩
      exact Or.inl ⟨b, hmem, hk, ((h.sits b hmem).crosses_append hpos).1 hc⟩
    · rintro (⟨b, hmem, hk, hc⟩ | ⟨-, hs⟩)
      · exact ⟨b, hmem, hk, ((h.sits b hmem).crosses_append hpos).2 hc⟩
      · exact hs.elim
  | block b hh ho hp hbo hb hs =>
    rw [hh, hb]
    constructor
    · rintro ⟨c, hmem, hk, hc⟩
      rcases List.mem_cons.1 hmem with rfl | hmem
      · exact absurd hc (hn.not_crosses hbo)
      · exact Or.inl ⟨c, hmem, hk, hc⟩
    · rintro (⟨c, hmem, hk, hc⟩ | ⟨-, hs'⟩)
      · exact ⟨c, List.mem_cons_of_mem _ hmem, hk, hc⟩
      · exact absurd hs' hs
  | @grow indented start stop _ b bs hh ho ht hd hb =>
    obtain ⟨hpos, hlt, -⟩ := hr
    have hle : pos ≤ stop := Nat.le_trans hpos (Nat.le_of_lt hlt)
    have hsits : Sits d.headingLines pos b := h.sits b (by rw [hd]; exact List.mem_cons_self)
    rw [hh, hb, hd]
    constructor
    · rintro ⟨c, hmem, hk, hc⟩
      rcases List.mem_cons.1 hmem with rfl | hmem
      · have hne : b.owner ≠ d.owner :=
          fun hbo => hn.not_crosses (b := { b with stop }) hbo hc
        by_cases hcb : Crosses d.headingLines b
        · exact Or.inl ⟨b, List.mem_cons_self, hk, hcb⟩
        · obtain ⟨hkb, hs⟩ := h.strays_of_takes start ht hd hne hcb
          exact Or.inr ⟨hk.symm.trans hkb, hs⟩
      · exact Or.inl ⟨c, List.mem_cons_of_mem _ hmem, hk, hc⟩
    · rintro (⟨c, hmem, hk, hc⟩ | ⟨rfl, hs⟩)
      · rcases List.mem_cons.1 hmem with rfl | hmem
        · exact ⟨_, List.mem_cons_self, hk, hsits.crosses_grow hle hc⟩
        · exact ⟨c, List.mem_cons_of_mem _ hmem, hk, hc⟩
      · cases indented with
        | false => exact hs.elim
        | true =>
          obtain ⟨c, hc, hk, hne⟩ := hs
          rw [hd] at hc
          cases hc
          exact ⟨_, List.mem_cons_self, hk, hn.crosses hl hsits.upTo_le hne hle⟩
  | idle hh ho hb hg hs =>
    rw [hh, hb]
    exact (or_iff_left fun hs' => hs hs'.2).symm

end Begun

/-- What holds after each piece of a body. -/
structure Sound (d : Draft) (pos : Nat) : Prop where
  nested : d.Nested
  linked : d.Linked
  laid : d.Laid pos
  begun : d.Begun pos

theorem Sound.add (h : d.Sound pos) (hr : Piece.Run pos stop (p :: ps)) :
    (d.add p).Sound (p.after pos) :=
  ⟨h.nested.add p, h.linked.add h.nested p, h.laid.add h.nested h.linked hr,
    h.begun.add h.nested h.laid hr⟩

/-- Among the pieces to come is a line that strays when it is met. -/
def StraysIn (d : Draft) (ps : List Piece) : Prop :=
  ∃ before p after, ps = before ++ p :: after ∧ (before.foldl Draft.add d).Strays p

theorem straysIn_cons : d.StraysIn (p :: ps) ↔ d.Strays p ∨ (d.add p).StraysIn ps := by
  constructor
  · rintro ⟨before, q, after, he, hs⟩
    cases before with
    | nil =>
      obtain ⟨rfl, rfl⟩ := List.cons.inj he
      exact Or.inl hs
    | cons r before =>
      obtain ⟨rfl, rfl⟩ := List.cons.inj he
      exact Or.inr ⟨before, q, after, rfl, hs⟩
  · rintro (hs | ⟨before, q, after, rfl, hs⟩)
    · exact ⟨[], p, ps, rfl, hs⟩
    · exact ⟨p :: before, q, after, rfl, hs⟩

/-- **A run of pieces makes a block cross a heading just if one of them is a line
    that strays.** -/
theorem crosses_foldl_iff (h : d.Sound pos) (hr : Piece.Run pos stop ps) {kind : BlockKind} :
    (ps.foldl Draft.add d).HasCrossing kind ↔
      d.HasCrossing kind ∨ kind = .listItem ∧ d.StraysIn ps := by
  induction ps generalizing d pos with
  | nil =>
    refine (or_iff_left ?_).symm
    rintro ⟨-, before, p, after, he, -⟩
    cases before <;> cases he
  | cons p ps ih =>
    rw [List.foldl_cons, ih (h.add hr) hr.tail.2,
      h.begun.crosses_add_iff h.nested h.laid hr, straysIn_cons, or_assoc, and_or_left]

theorem sound_empty (total : Nat) : (empty total).Sound 0 where
  nested := nested_empty total
  linked := linked_empty total
  laid := laid_empty total
  begun := ⟨fun b hb => (by cases hb), fun hg => (by cases hg)⟩

theorem sound_foldl (h : d.Sound pos) (hr : Piece.Run pos stop ps) :
    (ps.foldl Draft.add d).Sound stop := by
  induction ps generalizing d pos with
  | nil =>
    exact ⟨h.nested, h.linked, h.laid.mono hr,
      fun b hb => (h.begun.sits b hb).mono hr, h.begun.growing⟩
  | cons p ps ih => exact ih (h.add hr) hr.tail.2

/-- At first there is no block that could cross a heading. -/
theorem crosses_ofPieces_iff {total : Nat} (hr : Piece.Run 0 total ps) {kind : BlockKind} :
    (ofPieces total ps).HasCrossing kind ↔ kind = .listItem ∧ (empty total).StraysIn ps := by
  rw [ofPieces, crosses_foldl_iff (sound_empty total) hr]
  refine or_iff_right ?_
  rintro ⟨b, hb, -⟩
  cases hb

/-- A block starts after the headings up to that of its owner. -/
theorem Sits.start_le {b : Block} (h : Sits d.headingLines pos b) {j : Nat} {c : Section}
    (hc : d.sections[j]? = some c) (hj : j < upTo b.owner) : c.start ≤ b.start := by
  refine h.before (c.headingStart, c.start) (List.mem_of_getElem? (i := j) ?_)
  rw [List.getElem?_take, if_pos hj, getElem?_headingLines hc]

/-- It starts before the headings after that of its owner. -/
theorem Sits.start_lt {b : Block} (h : Sits d.headingLines pos b) {j : Nat} {c : Section}
    (hc : d.sections[j]? = some c) (hj : upTo b.owner ≤ j) : b.start < c.headingStart := by
  refine h.behind (c.headingStart, c.start) (List.mem_of_getElem? (i := j - upTo b.owner) ?_)
  rw [List.getElem?_drop, Nat.add_sub_cancel' hj, getElem?_headingLines hc]

/-- A block keeps to its section just if it crosses no heading after that of its
    owner. -/
theorem Sound.keeps_iff (h : d.Sound pos) (ht : d.total = pos) {octets : Octets} {b : Block}
    (hb : b ∈ d.blocks) :
    (Body.mk octets d.sections.toList d.tables.reverse d.blocks.reverse).Keeps b ↔
      ¬ Crosses d.headingLines b := by
  subst ht
  have hs := h.begun.sits b hb
  constructor
  · rintro hk ⟨p, hp, hlt⟩
    obtain ⟨s, hmem, rfl⟩ := List.mem_map.1 (List.mem_of_mem_drop hp)
    exact hk.apart s hmem ⟨Nat.le_of_lt (hs.behind _ hp), hlt⟩
  · intro hc
    -- the headings after that of the owner start behind the block
    have hlater : ∀ {j : Nat} {c : Section}, d.sections[j]? = some c → upTo b.owner ≤ j →
        b.stop ≤ c.headingStart := by
      intro j c hj hle
      by_contra hlt
      refine hc ⟨(c.headingStart, c.start), List.mem_of_getElem? (i := j - upTo b.owner) ?_,
        Nat.not_le.1 hlt⟩
      rw [List.getElem?_drop, Nat.add_sub_cancel' hle, getElem?_headingLines hj]
    constructor
    · rintro s hmem ⟨h1, h2⟩
      obtain ⟨j, hj⟩ := List.mem_iff_getElem?.1 hmem
      rw [Array.getElem?_toList] at hj
      rcases Nat.lt_or_ge j (upTo b.owner) with hlt | hle
      · have := hs.start_le hj hlt
        have := (h.laid.heading_lt hj).1
        omega
      · have := hlater hj hle
        omega
    · intro i s hi ho
      rw [Array.getElem?_toList] at hi
      have hup : upTo b.owner = i + 1 := by rw [ho]; rfl
      refine ⟨hs.start_le hi (by omega), ?_⟩
      rcases h.nested.stop_cases hi with he | ⟨j, c, hj, hij, he⟩
      · rw [he]; exact hs.stop_le
      · rw [he]; exact hlater hj (by omega)

end

end Draft

/-! ## Bodies -/

/-- Some line of the text strays: it is indented and continues an item of an
    earlier section. -/
def HasStray (s : Octets) : Prop :=
  (Draft.empty s.length).StraysIn (Piece.ofLines s.length (Line.ofOctets s))

/-- **All blocks of a body keep to their sections but for list items, and these
    do just if no indented line continues an item of an earlier section.** -/
theorem blocks_keep_iff (s : Octets) :
    (∀ b ∈ (ofOctets s).blocks, b.kind ≠ .listItem → (ofOctets s).Keeps b) ∧
      ((∀ b ∈ (ofOctets s).blocks, (ofOctets s).Keeps b) ↔ ¬ HasStray s) := by
  have hr := Piece.run_ofOctets s
  have hkeeps : ∀ b ∈ (ofOctets s).blocks, (ofOctets s).Keeps b ↔ ¬ Draft.Crosses
      (Draft.ofPieces s.length (Piece.ofLines s.length (Line.ofOctets s))).headingLines b :=
    fun b hb => (Draft.sound_foldl (Draft.sound_empty s.length) hr).keeps_iff
      (Draft.total_ofPieces _ _) (List.mem_reverse.1 hb)
  have hcross : ∀ b ∈ (ofOctets s).blocks, ¬ (ofOctets s).Keeps b →
      b.kind = .listItem ∧ HasStray s := by
    intro b hb hk
    rw [hkeeps b hb, not_not] at hk
    exact (Draft.crosses_ofPieces_iff hr).1 ⟨b, List.mem_reverse.1 hb, rfl, hk⟩
  refine ⟨fun b hb hk => ?_, fun h hs => ?_, fun hs b hb => ?_⟩
  · by_contra hn
    exact hk (hcross b hb hn).1
  · obtain ⟨b, hb, -, hc⟩ := (Draft.crosses_ofPieces_iff hr).2 ⟨rfl, hs⟩
    have hb' := List.mem_reverse.2 hb
    exact (hkeeps b hb').1 (h b hb') hc
  · by_contra hn
    exact hs (hcross b hb hn).2

/-- An indented line after a heading continues the item before it. -/
theorem item_crosses_heading : ∃ d, Document.parse (Utf8.ofString "- a\n# H\n  b\n") none = .ok d ∧
    ∃ b ∈ d.body.blocks, ∃ s ∈ d.body.sections,
      b.start ≤ s.headingStart ∧ s.headingStart < b.stop := by
  have hd : (Document.parse (Utf8.ofString "- a\n# H\n  b\n") none).map
      (fun d => (d.body.blocks, d.body.sections)) =
        .ok ([⟨.listItem, 0, 12, none, "", true⟩], [⟨"H", 1, 4, 8, 12, 0, none, [], []⟩]) := by
    decide +kernel
  obtain ⟨d, hp, hd⟩ := map_eq_ok_iff.1 hd
  obtain ⟨hb, hs⟩ := Prod.mk.inj hd
  refine ⟨d, hp, ?_⟩
  rw [hb, hs]
  exact ⟨_, List.mem_singleton_self _, _, List.mem_singleton_self _, by decide, by decide⟩

end Folio.Body
