/-
  Folio — the headings of a body, told by its fences alone.

  Cutting a body into pieces takes several lines at once for a table, and tables,
  items and paragraphs look for fences and headings of their own.  None of this
  changes which lines are headings: it is enough to go through the lines and to
  know which fence is open (`Sight.all`, `Heading.found`).  Such a run can be taken
  apart at every line.  A draft loses nothing of what is seen so to the items and
  paragraphs it remembers.

  * `sights_ofLines`: the pieces of lines show what the lines show one by one;
  * `headings_ofLines`: they have the headings found so;
  * `exists_of_found_eq`: a heading is found at a line outside all fences;
  * `sections_eq_sights`: the sections and the code blocks of every body.
-/
import Folio.Proofs.Body.HeadingTree
import Folio.Proofs.Text.Trim

namespace Folio

/-! ## What a line can be -/

section
variable {line rest : List Char} {c : Char}

theorem Line.eq_of_dropIndent? (h : dropIndent? line = some (c :: rest)) :
    ∃ indent, line = indent ++ c :: rest ∧ ∀ x ∈ indent, x = ' ' := by
  unfold dropIndent? at h
  split at h
  · refine ⟨line.takeWhile (· == ' '), ?_, fun x hx => ?_⟩
    · rw [← Option.some.inj h, List.takeWhile_append_dropWhile]
    · simpa using List.all_eq_true.1 List.all_takeWhile x hx
  · cases h

/-- A line that starts with a sign starts with it when it is trimmed. -/
theorem Line.exists_trim (h : dropIndent? line = some (c :: rest)) (hc : Text.isBlank c = false) :
    ∃ rest', Text.trim line = c :: rest' := by
  obtain ⟨indent, rfl, hi⟩ := eq_of_dropIndent? h
  refine ⟨Text.dropWhileEnd Text.isBlank rest, ?_⟩
  have hstart : Text.trimStart (indent ++ c :: rest) = c :: rest := by
    rw [Text.trimStart, List.dropWhile_append_of_pos fun x hx => by rw [hi x hx]; decide,
      List.dropWhile_cons_of_neg (by simp [hc])]
  rw [Text.trim, hstart, Text.trimEnd, Text.dropWhileEnd_cons hc]

/-- The signs that fences and headings start with. -/
theorem Fence.sign_of_read? {f : Fence} (h : read? line = some f) :
    ∃ c rest, Line.dropIndent? line = some (c :: rest) ∧ (c = '\x60' ∨ c = '~') := by
  unfold read? at h
  split at h
  · cases h
  · cases h
  · next c rest hd =>
    refine ⟨c, rest, hd, ?_⟩
    by_contra hc
    rw [not_or] at hc
    simp [hc.1, hc.2] at h

theorem Heading.sign_of_read? {r : Nat × List Char} (h : read? line = some r) :
    ∃ rest, Line.dropIndent? line = some ('#' :: rest) := by
  unfold read? at h
  split at h
  · cases h
  · next cs hd =>
    cases cs with
    | nil => simp at h
    | cons c rest =>
      refine ⟨rest, ?_⟩
      have hc : c = '#' := by
        by_contra hc
        simp [hc] at h
      rw [hd, hc]

/-- A line that opens a fence is no heading. -/
theorem Heading.read?_eq_none_of_fence {f : Fence} (h : Fence.read? line = some f) :
    read? line = none := by
  refine Option.eq_none_iff_forall_not_mem.2 fun r hr => ?_
  obtain ⟨c, rest, hd, hc⟩ := Fence.sign_of_read? h
  obtain ⟨rest', hd'⟩ := sign_of_read? hr
  rw [hd] at hd'
  obtain ⟨rfl, -⟩ := List.cons.inj (Option.some.inj hd')
  simp at hc

/-- A line that starts with a sign other than white space is not blank. -/
theorem Line.not_allBlank (h : dropIndent? line = some (c :: rest)) (hc : Text.isBlank c = false) :
    Text.allBlank line = false := by
  obtain ⟨indent, rfl, -⟩ := eq_of_dropIndent? h
  simp [Text.allBlank, hc]

theorem Fence.read?_eq_none_of_blank (h : Text.allBlank line = true) : read? line = none := by
  refine Option.eq_none_iff_forall_not_mem.2 fun f hf => ?_
  obtain ⟨c, rest, hd, rfl | rfl⟩ := sign_of_read? hf
  all_goals rw [Line.not_allBlank hd (by decide)] at h; cases h

theorem Heading.read?_eq_none_of_blank (h : Text.allBlank line = true) : read? line = none := by
  refine Option.eq_none_iff_forall_not_mem.2 fun r hr => ?_
  obtain ⟨rest, hd⟩ := sign_of_read? hr
  rw [Line.not_allBlank hd (by decide)] at h; cases h

/-! ## Separators of tables -/

namespace Row

theorem cut_of_ne {c : Char} (hb : c ≠ '\\') (hp : c ≠ '|') (cs : List Char) :
    cut (c :: cs) = cut.before [c] (cut cs) := by
  rw [cut]
  · exact fun h _ => hb h
  · exact fun _ _ h _ => hb h
  · exact hp

theorem cut_cons {c : Char} (hb : c ≠ '\\') (hp : c ≠ '|') (cs : List Char) :
    ∃ part parts, cut (c :: cs) = (c :: part) :: parts := by
  rw [cut_of_ne hb hp]
  cases cut cs with
  | nil => exact ⟨[], [], by rw [cut.before]⟩
  | cons part parts => exact ⟨part, parts, by rw [cut.before]; rfl⟩

/-- A line that starts with another sign than a pipe, a dash or a colon does not
    separate names from rows: its first cell starts with that sign. -/
theorem isSeparator_eq_false {cs : List Char} (h : Text.trim line = c :: cs)
    (hblank : Text.isBlank c = false) (hc : c ≠ '\\' ∧ c ≠ '|' ∧ c ≠ '-' ∧ c ≠ ':') :
    isSeparator line = false := by
  obtain ⟨hb, hp, hd, hcolon⟩ := hc
  obtain ⟨part, parts, hcut⟩ := cut_cons hb hp cs
  have htrim : ∃ p, Text.trim (c :: part) = c :: p := by
    refine ⟨Text.dropWhileEnd Text.isBlank part, ?_⟩
    rw [Text.trim, Text.trimStart, List.dropWhile_cons_of_neg (by simp [hblank]), Text.trimEnd,
      Text.dropWhileEnd_cons hblank]
  obtain ⟨p, htrim⟩ := htrim
  have hun : ∃ q, unescape (c :: p) = c :: q := by
    refine ⟨Text.replaceFrom ['\\', '|'] ['|'] 0 p, ?_⟩
    rw [unescape, Text.replaceAll, Text.replaceFrom, Text.dropStart?, if_neg (Ne.symm hb)]
    rfl
  obtain ⟨q, hun⟩ := hun
  have hrule : isRule (c :: q) = false := by
    simp [isRule, hd, hcolon]
  have hcells : cellsOf line = [] ∨ ∃ more, cellsOf line = (c :: q) :: more := by
    have hhead : (some c == some '|') = false := by simpa using hp
    rw [cellsOf, h, hcut]
    simp only [List.map_cons, htrim, List.head?_cons, hhead, Bool.false_eq_true, ↓reduceIte]
    split
    · cases parts with
      | nil => exact Or.inl rfl
      | cons x xs =>
        rw [List.map_cons, List.dropLast_cons_of_ne_nil (by simp)]
        exact Or.inr ⟨_, by rw [List.map_cons, hun]⟩
    · exact Or.inr ⟨_, by rw [List.map_cons, hun]⟩
  rcases hcells with he | ⟨more, he⟩ <;> simp [isSeparator, he, hrule]

theorem not_isSeparator_of_fence {f : Fence} (h : Fence.read? line = some f) :
    isSeparator line = false := by
  obtain ⟨c, rest, hd, rfl | rfl⟩ := Fence.sign_of_read? h
  all_goals
    obtain ⟨rest', ht⟩ := Line.exists_trim hd (by decide)
    exact isSeparator_eq_false ht (by decide) (by decide)

theorem not_isSeparator_of_heading {r : Nat × List Char} (h : Heading.read? line = some r) :
    isSeparator line = false := by
  obtain ⟨rest, hd⟩ := Heading.sign_of_read? h
  obtain ⟨rest', ht⟩ := Line.exists_trim hd (by decide)
  exact isSeparator_eq_false ht (by decide) (by decide)

end Row

end

/-! ## What the lines show -/

/-- The lines of a table are neither fences nor headings. -/
theorem Table.plain_of_read? {names : Line} {lines after : List Line} {t : Table}
    (h : read? names lines = some (t, after)) :
    ∃ taken, lines = taken ++ after ∧
      ∀ l ∈ taken, Fence.read? l.text = none ∧ Heading.read? l.text = none := by
  cases lines with
  | nil => cases h
  | cons rule rest =>
    simp only [read?] at h
    split at h
    · next hstart =>
      obtain ⟨-, rfl⟩ := Prod.mk.inj (Option.some.inj h)
      refine ⟨rule :: rest.takeWhile (isRow ·.text), ?_, fun l hl => ?_⟩
      · rw [List.cons_append, List.takeWhile_append_dropWhile]
      · rcases List.mem_cons.1 hl with rfl | hl
        · simp only [startsWith, Bool.and_eq_true] at hstart
          have hsep := hstart.1.2
          constructor
          · refine Option.eq_none_iff_forall_not_mem.2 fun f hf => ?_
            rw [Row.not_isSeparator_of_fence hf] at hsep; cases hsep
          · refine Option.eq_none_iff_forall_not_mem.2 fun r hr => ?_
            rw [Row.not_isSeparator_of_heading hr] at hsep; cases hsep
        · have hrow := List.all_eq_true.1 List.all_takeWhile l hl
          simp only [isRow, Bool.and_eq_true, Bool.not_eq_true', Heading.opens, Fence.opens,
            Option.isSome_eq_false_iff, Option.isNone_iff_eq_none] at hrow
          exact ⟨hrow.2, hrow.1.2⟩
    · cases h

/-- What a line outside of all fences shows. -/
inductive Sight where
  | heading (level : Nat) (title : String) (start stop : Nat)
  | fence (start : Nat) (info : String)
  deriving Repr, DecidableEq

namespace Sight

/-- What the lines show, line by line: outside of fences every heading line and every
    line that opens a fence, and inside one nothing before the line that closes it. -/
def all : (open? : Option Fence) → List Line → List Sight
  | _, [] => []
  | some f, l :: lines => all (if f.closedBy l.text then none else some f) lines
  | none, l :: lines =>
    match Fence.read? l.text with
    | some f => .fence l.start (String.ofList f.info) :: all (some f) lines
    | none =>
      match Heading.read? l.text with
      | some (level, title) =>
        .heading level (String.ofList title) l.start l.stop :: all none lines
      | none => all none lines

/-- The level and the title of a heading and where its line starts and stops. -/
def heading? : Sight → Option (Nat × String × Nat × Nat)
  | .heading level title start stop => some (level, title, start, stop)
  | .fence .. => none

/-- What a piece shows. -/
def ofPiece? : Piece → Option Sight
  | .heading level title start stop => some (.heading level title start stop)
  | .code info start _ => some (.fence start info)
  | .blank | .table _ | .item .. | .text .. => none

end Sight

namespace Piece
variable {f : Fence} {l : Line}

theorem afterFence_cons_of_closed (h : f.closedBy l.text = true) (lines : List Line) :
    afterFence f (l :: lines) = lines := by
  rw [afterFence, List.dropWhile_cons_of_neg (by simp [h])]; rfl

theorem afterFence_cons_of_open (h : ¬ f.closedBy l.text = true) (lines : List Line) :
    afterFence f (l :: lines) = afterFence f lines := by
  rw [afterFence, List.dropWhile_cons_of_pos (by simpa using h), afterFence]

theorem fenceStop_cons_of_closed (h : f.closedBy l.text = true) (total : Nat) (lines : List Line) :
    fenceStop f total (l :: lines) = l.stop := by
  simp [fenceStop, h]

theorem fenceStop_cons_of_open (h : ¬ f.closedBy l.text = true) (total : Nat) (lines : List Line) :
    fenceStop f total (l :: lines) = fenceStop f total lines := by
  simp [fenceStop, h]

end Piece

namespace Sight

section
variable {lines more : List Line}

/-- Lines that are neither fences nor headings show nothing. -/
theorem all_of_plain (h : ∀ l ∈ lines, Fence.read? l.text = none ∧ Heading.read? l.text = none) :
    all none (lines ++ more) = all none more := by
  induction lines with
  | nil => rfl
  | cons l lines ih =>
    obtain ⟨hf, hh⟩ := h l List.mem_cons_self
    rw [List.cons_append, all, hf, hh]
    exact ih fun m hm => h m (List.mem_cons_of_mem _ hm)

/-- Inside a fence nothing shows before the line that closes it. -/
theorem all_fence (f : Fence) (lines : List Line) :
    all (some f) lines = all none (Piece.afterFence f lines) := by
  induction lines with
  | nil => rfl
  | cons l lines ih =>
    rw [all]
    by_cases hc : f.closedBy l.text = true
    · rw [if_pos hc, Piece.afterFence_cons_of_closed hc]
    · rw [if_neg hc, ih, Piece.afterFence_cons_of_open hc]

end

/-- **The pieces of lines show what the lines show one by one.** -/
theorem sights_ofLines (total : Nat) (lines : List Line) :
    (Piece.ofLines total lines).filterMap ofPiece? = all none lines := by
  fun_induction Piece.ofLines total lines with
  | case1 => rfl
  | case2 l rest hb ih =>
    rw [List.filterMap_cons_none rfl, ih, all, Fence.read?_eq_none_of_blank hb,
      Heading.read?_eq_none_of_blank hb]
  | case3 l rest hb f hf ih =>
    have hsome : ofPiece? (.code (String.ofList f.info) l.start (Piece.fenceStop f total rest)) =
        some (.fence l.start (String.ofList f.info)) := rfl
    rw [List.filterMap_cons_some hsome, ih, ← all_fence, all, hf]
  | case4 l rest hb hf level title hh ih =>
    have hsome : ofPiece? (.heading level (String.ofList title) l.start l.stop) =
        some (.heading level (String.ofList title) l.start l.stop) := rfl
    rw [List.filterMap_cons_some hsome, ih, all, hf, hh]
  | case5 l rest hb hf hh t after ht ih =>
    -- the lines of a table are taken at once, but none of them would have shown anything
    obtain ⟨taken, rfl, hplain⟩ := Table.plain_of_read? ht
    rw [List.filterMap_cons_none rfl, ih, all, hf, hh, all_of_plain hplain]
  | case6 l rest hb hf hh ht ih =>
    have hnone : ofPiece? (Piece.ofLine l) = none := by
      unfold Piece.ofLine
      split <;> rfl
    rw [List.filterMap_cons_none hnone, ih, all, hf, hh]

end Sight

/-! ## Going through the lines -/

/-- The fence that is open after a line, given the one that is open before it. -/
def Fence.after (open? : Option Fence) (line : List Char) : Option Fence :=
  match open? with
  | some f => if f.closedBy line then none else some f
  | none => read? line

/-- The fence that is open after some lines. -/
def Fence.afterAll (open? : Option Fence) (lines : List Line) : Option Fence :=
  lines.foldl (fun open? l => after open? l.text) open?

theorem Fence.afterAll_append (open? : Option Fence) (lines more : List Line) :
    afterAll open? (lines ++ more) = afterAll (afterAll open? lines) more :=
  List.foldl_append

namespace Heading

/-- The heading that a line is, with its place. -/
def ofLine? (l : Line) : Option (Nat × String × Nat × Nat) :=
  (read? l.text).map fun r => (r.1, String.ofList r.2, l.start, l.stop)

/-- The headings of lines: the heading lines outside fences. -/
def found : (open? : Option Fence) → List Line → List (Nat × String × Nat × Nat)
  | _, [] => []
  | some f, l :: lines => found (Fence.after (some f) l.text) lines
  | none, l :: lines => (ofLine? l).toList ++ found (Fence.after none l.text) lines

section
variable {open? : Option Fence} {lines more : List Line}

theorem found_append : found open? (lines ++ more) =
    found open? lines ++ found (Fence.afterAll open? lines) more := by
  induction lines generalizing open? with
  | nil => rfl
  | cons l lines ih =>
    cases open? with
    | none => rw [List.cons_append, found, ih, found, List.append_assoc]; rfl
    | some f => rw [List.cons_append, found, ih, found]; rfl

end

/-- The headings are among what the lines show. -/
theorem found_eq_filterMap (open? : Option Fence) (lines : List Line) :
    found open? lines = (Sight.all open? lines).filterMap Sight.heading? := by
  induction lines generalizing open? with
  | nil => rw [Sight.all]; rfl
  | cons l lines ih =>
    cases open? with
    | some f => rw [found, ih, Sight.all, Fence.after]
    | none =>
      rw [found, ih, Sight.all, Fence.after, ofLine?]
      cases hf : Fence.read? l.text with
      | some f => rw [read?_eq_none_of_fence hf]; rfl
      | none => cases read? l.text <;> rfl

/-- **Fences alone tell which lines are headings.** -/
theorem headings_ofLines (total : Nat) (lines : List Line) :
    (Piece.ofLines total lines).filterMap Piece.heading? = found none lines := by
  rw [found_eq_filterMap, ← Sight.sights_ofLines total, List.filterMap_filterMap]
  refine List.filterMap_congr fun p _ => ?_
  cases p <;> rfl

/-- A heading is found at a line outside all fences, and after it none is open. -/
theorem exists_of_found_eq {open? : Option Fence} {lines : List Line}
    {before after : List (Nat × String × Nat × Nat)} {h : Nat × String × Nat × Nat}
    (hf : found open? lines = before ++ h :: after) :
    ∃ above l below, lines = above ++ l :: below ∧ found open? above = before ∧
      Fence.afterAll open? above = none ∧ ofLine? l = some h ∧ Fence.after none l.text = none ∧
      found none below = after := by
  induction lines generalizing open? before with
  | nil => simp [found] at hf
  | cons l lines ih =>
    cases open? with
    | some f =>
      obtain ⟨above, m, below, rfl, h1, h2, h3⟩ := ih hf
      exact ⟨l :: above, m, below, rfl, h1, h2, h3⟩
    | none =>
      rw [found] at hf
      cases hl : ofLine? l with
      | none =>
        rw [hl] at hf
        obtain ⟨above, m, below, rfl, h1, h2, h3⟩ := ih hf
        exact ⟨l :: above, m, below, rfl, by rw [found, hl, h1]; rfl, h2, h3⟩
      | some h' =>
        rw [hl] at hf
        have hafter : Fence.after none l.text = none := by
          refine Option.eq_none_iff_forall_not_mem.2 fun f hf => ?_
          rw [ofLine?, read?_eq_none_of_fence hf] at hl
          cases hl
        cases before with
        | nil =>
          obtain ⟨rfl, hrest⟩ := List.cons.inj hf
          exact ⟨[], l, lines, rfl, rfl, rfl, hl, hafter, hafter ▸ hrest⟩
        | cons b before =>
          obtain ⟨rfl, hrest⟩ := List.cons.inj hf
          obtain ⟨above, m, below, rfl, h1, h2, h3⟩ := ih hrest
          exact ⟨l :: above, m, below, rfl, by rw [found, hl, h1]; rfl, h2, h3⟩

end Heading

/-! ## Sections and code blocks -/

/-- A fence: where it starts and what it says. -/
def Sight.fence? : Sight → Option (Nat × String)
  | .fence start info => some (start, info)
  | .heading .. => none

/-- Where a code block starts and what its fence says. -/
def Block.fence? (b : Block) : Option (Nat × String) :=
  if b.kind = .code then some (b.start, b.info) else none

namespace Body

namespace Draft

/-- The code blocks so far. -/
def fences (d : Draft) : List (Nat × String) := d.blocks.reverse.filterMap Block.fence?

/-- A block that grows starts where it did. -/
theorem fences_grow (d : Draft) (stop : Nat) : (d.grow stop).fences = d.fences := by
  unfold grow
  split
  · rfl
  · next b bs hd => rw [fences, fences, hd]; simp only [List.reverse_cons, List.filterMap_append]; rfl

theorem fences_add (d : Draft) (p : Piece) :
    (d.add p).fences = d.fences ++ ((Sight.ofPiece? p).bind Sight.fence?).toList := by
  cases p with
  | blank | heading _ _ _ _ => exact (List.append_nil _).symm
  | code _ _ _ | table _ | item _ _ =>
    simp only [fences, add, addBlock, addTable, addItem, List.reverse_cons, List.filterMap_append]
    rfl
  | text indented start stop =>
    rw [add]
    split
    · rw [fences_grow]; exact (List.append_nil _).symm
    · simp only [fences, addBlock, List.reverse_cons, List.filterMap_append]
      rfl

theorem fences_ofPieces (total : Nat) (ps : List Piece) : (ofPieces total ps).fences =
    ps.filterMap fun p => (Sight.ofPiece? p).bind Sight.fence? := by
  have h : ∀ d : Draft, (ps.foldl add d).fences =
      d.fences ++ ps.filterMap fun p => (Sight.ofPiece? p).bind Sight.fence? := by
    induction ps with
    | nil => exact fun d => (List.append_nil _).symm
    | cons p ps ih =>
      intro d
      rw [List.foldl_cons, ih, fences_add, List.append_assoc, List.filterMap_cons]
      cases (Sight.ofPiece? p).bind Sight.fence? <;> rfl
  exact h (empty total)

end Draft

/-- **The sections and the code blocks of a body are what its lines show one by one**:
    the sections are the heading lines outside of fences, and the code blocks start at
    the lines outside of fences that open one. -/
theorem sections_eq_sights (s : Octets) :
    (ofOctets s).sections.map (fun t => (t.level, t.heading, t.headingStart, t.start)) =
        (Sight.all none (Line.ofOctets s)).filterMap Sight.heading? ∧
      (ofOctets s).blocks.filterMap Block.fence? =
        (Sight.all none (Line.ofOctets s)).filterMap Sight.fence? := by
  constructor
  · rw [(isHeadingTree_ofOctets s).headings, octets_ofOctets, Heading.headings_ofLines,
      Heading.found_eq_filterMap]
  · rw [← Sight.sights_ofLines s.length, List.filterMap_filterMap]
    exact Draft.fences_ofPieces _ _

end Body

end Folio
