/-
  Folio — lines at other offsets.

  Reading a body never compares offsets: lines at other offsets are cut into the same
  pieces, and pieces at other offsets make the same sections, tables and blocks, all at
  these other offsets.  The offsets may be any: nothing is asked of the change.

  * `Piece.ofLines_move`: lines at other offsets;
  * `Draft.move_add`, `Draft.move_ofPieces`: one piece and all pieces at other offsets.
-/
import Folio.Proofs.Body.Draft
import Folio.Proofs.Body.Fences

namespace Folio

/-! ## Cutting by the first line -/

namespace Piece
variable {total : Nat} {l : Line} {rest : List Line}

theorem ofLines_blank (hb : l.isBlank = true) :
    ofLines total (l :: rest) = .blank :: ofLines total rest := by
  rw [ofLines, if_pos hb]

theorem ofLines_fence {f : Fence} (hf : Fence.read? l.text = some f) :
    ofLines total (l :: rest) = .code (String.ofList f.info) l.start (fenceStop f total rest) ::
      ofLines total (afterFence f rest) := by
  have hb : ¬ l.isBlank = true := fun hb => by rw [Fence.read?_eq_none_of_blank hb] at hf; cases hf
  rw [ofLines, if_neg hb, hf]

theorem ofLines_heading {level : Nat} {title : List Char}
    (hh : Heading.read? l.text = some (level, title)) :
    ofLines total (l :: rest) =
      .heading level (String.ofList title) l.start l.stop :: ofLines total rest := by
  have hb : ¬ l.isBlank = true := fun hb => by rw [Heading.read?_eq_none_of_blank hb] at hh; cases hh
  have hf : Fence.read? l.text = none := Option.eq_none_iff_forall_not_mem.2 fun f hf => by
    rw [Heading.read?_eq_none_of_fence hf] at hh; cases hh
  rw [ofLines, if_neg hb, hf, hh]

section
variable (hb : ¬ l.isBlank = true) (hf : Fence.read? l.text = none) (hh : Heading.read? l.text = none)
include hb hf hh

theorem ofLines_table {t : Table} {after : List Line} (ht : Table.read? l rest = some (t, after)) :
    ofLines total (l :: rest) = .table t :: ofLines total after := by
  rw [ofLines, if_neg hb, hf, hh]
  dsimp only
  split
  · next t' after' ht' =>
    obtain ⟨rfl, rfl⟩ := Prod.mk.inj (Option.some.inj (ht'.symm.trans ht))
    rfl
  · next ht' => rw [ht'] at ht; cases ht

theorem ofLines_line (ht : Table.read? l rest = none) :
    ofLines total (l :: rest) = ofLine l :: ofLines total rest := by
  rw [ofLines, if_neg hb, hf, hh]
  dsimp only
  split
  · next t' after' ht' => rw [ht'] at ht; cases ht
  · rfl

end

end Piece

/-! ## Other offsets -/

section
variable (f : Nat → Nat)

/-- The line at other offsets. -/
def Line.move (l : Line) : Line := ⟨f l.start, f l.stop, l.text⟩

/-- The table at other offsets. -/
def Table.move (t : Table) : Table := { t with start := f t.start, stop := f t.stop }

/-- The block at other offsets. -/
def Block.move (b : Block) : Block := { b with start := f b.start, stop := f b.stop }

/-- The section at other offsets. -/
def Section.move (s : Section) : Section :=
  { s with headingStart := f s.headingStart, start := f s.start, stop := f s.stop }

/-- The piece at other offsets. -/
def Piece.move : Piece → Piece
  | .blank => .blank
  | .heading level title start stop => .heading level title (f start) (f stop)
  | .code info start stop => .code info (f start) (f stop)
  | .table t => .table (t.move f)
  | .item start stop => .item (f start) (f stop)
  | .text indented start stop => .text indented (f start) (f stop)

/-! ## Lines -/

namespace Piece

theorem afterFence_move (fence : Fence) (ls : List Line) :
    afterFence fence (ls.map (Line.move f)) = (afterFence fence ls).map (Line.move f) := by
  rw [afterFence, List.dropWhile_map, ← List.map_drop]; rfl

theorem fenceStop_move (fence : Fence) (total : Nat) (ls : List Line) :
    fenceStop fence (f total) (ls.map (Line.move f)) = f (fenceStop fence total ls) := by
  rw [fenceStop, List.find?_map, fenceStop, Option.map_map]
  have hcomp : ((fun l : Line => fence.closedBy l.text) ∘ Line.move f) =
      fun l => fence.closedBy l.text := rfl
  rw [hcomp]
  cases ls.find? fun l => fence.closedBy l.text <;> rfl

theorem table_move (names rule : Line) (rows : List Line) :
    Table.ofLines (names.move f) (rule.move f) (rows.map (Line.move f)) =
      (Table.ofLines names rule rows).move f := by
  rw [Table.ofLines, List.map_map, List.getLast?_map, Option.getD_map]
  rfl

theorem read?_move (names : Line) (ls : List Line) :
    Table.read? (names.move f) (ls.map (Line.move f)) =
      (Table.read? names ls).map fun r => (r.1.move f, r.2.map (Line.move f)) := by
  cases ls with
  | nil => rfl
  | cons rule rest =>
    have hrow : (fun l : Line => Table.isRow l.text) ∘ Line.move f = fun l => Table.isRow l.text := rfl
    rw [List.map_cons, Table.read?, Table.read?, List.takeWhile_map, List.dropWhile_map, hrow]
    change (if Table.startsWith names.text rule.text = true then _ else _) = _
    split
    · rw [Option.map_some, table_move]
    · rfl

theorem ofLine_move (l : Line) : ofLine (l.move f) = (ofLine l).move f := by
  unfold ofLine
  change (if ListItem.opens l.text = true then _ else _) = _
  split <;> rfl

/-- **Lines at other offsets are cut into the same pieces.** -/
theorem ofLines_move (total : Nat) (ls : List Line) :
    ofLines (f total) (ls.map (Line.move f)) = (ofLines total ls).map (move f) := by
  fun_induction ofLines total ls with
  | case1 => rw [List.map_nil, ofLines]; rfl
  | case2 l rest hb ih =>
    have hb' : (l.move f).isBlank = true := hb
    rw [List.map_cons, ofLines_blank hb', ih]; rfl
  | case3 l rest hb fence hf ih =>
    have hf' : Fence.read? (l.move f).text = some fence := hf
    rw [List.map_cons, ofLines_fence hf', fenceStop_move, afterFence_move, ih]; rfl
  | case4 l rest hb hf level title hh ih =>
    have hh' : Heading.read? (l.move f).text = some (level, title) := hh
    rw [List.map_cons, ofLines_heading hh', ih]; rfl
  | case5 l rest hb hf hh t after ht ih =>
    rw [List.map_cons, ofLines_table (l := l.move f) hb hf hh (t := t.move f)
      (by rw [read?_move, ht]; rfl), ih]
    rfl
  | case6 l rest hb hf hh ht ih =>
    rw [List.map_cons, ofLines_line (l := l.move f) hb hf hh (by rw [read?_move, ht]; rfl),
      ofLine_move, ih]
    rfl

end Piece

/-! ## Pieces -/

namespace Body.Draft

/-- The draft at other offsets. -/
def move (d : Draft) : Draft :=
  { d with
    total := f d.total
    sections := d.sections.map (Section.move f)
    tables := d.tables.map (Table.move f)
    blocks := d.blocks.map (Block.move f) }

theorem move_grow (d : Draft) (stop : Nat) : (d.grow stop).move f = (d.move f).grow (f stop) := by
  cases hd : d.blocks <;> simp [grow, move, hd, Block.move]

theorem takes_move (d : Draft) (indented : Bool) : (d.move f).takes indented = d.takes indented := by
  cases hd : d.blocks <;> simp [takes, move, hd, Block.move]

theorem move_addHeading (d : Draft) (level : Nat) (heading : String) (headingStart start : Nat) :
    (d.addHeading level heading headingStart start).move f =
      (d.move f).addHeading level heading (f headingStart) (f start) := by
  have hsize : (d.move f).sections.size = d.sections.size := Array.size_map ..
  have hs : (d.addHeading level heading headingStart start).sections.map (Section.move f) =
      ((d.move f).addHeading level heading (f headingStart) (f start)).sections := by
    refine Array.ext_getElem? fun i => ?_
    rw [Array.getElem?_map, getElem?_addHeading, getElem?_addHeading, hsize]
    split
    · rfl
    · change _ = ((d.sections.map (Section.move f))[i]?).map _
      rw [Array.getElem?_map, Option.map_map, Option.map_map]
      refine congrArg (Option.map · _) (funext fun s => ?_)
      have hclosed : (d.move f).closed level = d.closed level := rfl
      simp only [Function.comp_apply, hclosed, Section.move, apply_ite f]
      rfl
  have ho : (d.addHeading level heading headingStart start).opened =
      ((d.move f).addHeading level heading (f headingStart) (f start)).opened :=
    congrArg (fun n => Opened.mk n level :: d.around level) hsize.symm
  exact congrArg₂ (fun ss os =>
    { (d.move f).addHeading level heading (f headingStart) (f start) with
      sections := ss, opened := os }) hs ho

theorem move_addTable (d : Draft) (t : Table) :
    (d.addTable t).move f = (d.move f).addTable (t.move f) := by
  have hs : (d.addTable t).sections.map (Section.move f) =
      ((d.move f).addTable (t.move f)).sections := by
    refine Array.ext_getElem? fun i => ?_
    have hlen : (d.move f).tables.length = d.tables.length := List.length_map ..
    rw [Array.getElem?_map, getElem?_addTable, getElem?_addTable, hlen]
    change _ = ((d.sections.map (Section.move f))[i]?).map _
    rw [Array.getElem?_map, Option.map_map, Option.map_map]
    rfl
  exact congrArg (fun ss => { (d.move f).addTable (t.move f) with sections := ss }) hs

theorem move_addItem (d : Draft) (start stop : Nat) :
    (d.addItem start stop).move f = (d.move f).addItem (f start) (f stop) := by
  cases hd : d.blocks <;> simp [addItem, addBlock, move, hd, Block.move, owner]

/-- **A piece at other offsets adds the same at other offsets.** -/
theorem move_add (d : Draft) (p : Piece) : (d.add p).move f = (d.move f).add (p.move f) := by
  cases p with
  | blank | code _ _ _ => rfl
  | heading level title start stop => exact move_addHeading f d level title start stop
  | table t => exact move_addTable f d t
  | item start stop => exact move_addItem f d start stop
  | text indented start stop =>
    simp only [add, Piece.move, takes_move]
    split
    · exact move_grow f d stop
    · rfl

theorem move_ofPieces (total : Nat) (ps : List Piece) :
    (ofPieces total ps).move f = ofPieces (f total) (ps.map (Piece.move f)) := by
  have h : ∀ d : Draft, (ps.foldl add d).move f = (ps.map (Piece.move f)).foldl add (d.move f) := by
    induction ps with
    | nil => exact fun d => rfl
    | cons p ps ih => intro d; rw [List.foldl_cons, ih, move_add]; rfl
  rw [ofPieces, h]
  simp [move, empty, ofPieces]

end Body.Draft

end

end Folio
