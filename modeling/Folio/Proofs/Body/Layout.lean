/-
  Folio — where the lines and the pieces of a body lie.

  The lines of a body follow each other from its start to its end (`Line.Run`).
  Each piece is made of some of them (`Piece.Cut`), so the pieces come in order and do
  not overlap (`Piece.Run`); blank lines leave gaps between them.

  * `Line.run_ofOctets`: the lines of a text;
  * `Piece.cut_ofLines`, `Piece.run_ofOctets`: the pieces of lines, and of a text.
-/
import Mathlib
import Folio.Body.Piece
import Folio.Proofs.Text.Lines

namespace Folio

namespace Line

/-- The lines follow each other from one offset to another, none of them empty. -/
def Run (start stop : Nat) : List Line → Prop
  | [] => start = stop
  | l :: ls => l.start = start ∧ start < l.stop ∧ Run l.stop stop ls

theorem run_place (start : Nat) {ls : List Octets} (h : ∀ l ∈ ls, l ≠ []) :
    Run start (start + ls.flatten.length) (place start ls) := by
  induction ls generalizing start with
  | nil => rfl
  | cons l ls ih =>
    have hl : 0 < l.length := List.length_pos_iff.2 (h l List.mem_cons_self)
    refine ⟨rfl, Nat.lt_add_of_pos_right hl, ?_⟩
    rw [List.flatten_cons, List.length_append, ← Nat.add_assoc]
    exact ih (start + l.length) fun m hm => h m (List.mem_cons_of_mem _ hm)

theorem place_append (start : Nat) (ls ms : List Octets) :
    place start (ls ++ ms) = place start ls ++ place (start + ls.flatten.length) ms := by
  induction ls generalizing start with
  | nil => rfl
  | cons l ls ih =>
    simp [place, ih, Nat.add_assoc]

/-- A cut of the lines of a text is a cut of the text. -/
theorem place_eq_append_iff {start : Nat} {ls : List Octets} {above below : List Line} :
    place start ls = above ++ below ↔ ∃ as bs, ls = as ++ bs ∧ above = place start as ∧
      below = place (start + as.flatten.length) bs := by
  constructor
  · intro h
    induction above generalizing start ls with
    | nil => exact ⟨[], ls, rfl, rfl, h.symm⟩
    | cons l above ih =>
      cases ls with
      | nil => cases h
      | cons x ls =>
        obtain ⟨hl, h⟩ : ⟨start, start + x.length, textOf x⟩ = l ∧
            place (start + x.length) ls = above ++ below := List.cons.inj h
        obtain ⟨as, bs, rfl, rfl, rfl⟩ := ih h
        refine ⟨x :: as, bs, rfl, by rw [place, hl], ?_⟩
        rw [List.flatten_cons, List.length_append, Nat.add_assoc]
  · rintro ⟨as, bs, rfl, rfl, rfl⟩
    exact place_append start as bs

/-- **The lines of a text follow each other from its start to its end.** -/
theorem run_ofOctets (s : Octets) : Run 0 s.length (ofOctets s) := by
  have h := run_place 0 fun l => Octets.ne_nil_of_mem_lines (s := s) (l := l)
  rwa [Octets.flatten_lines, Nat.zero_add] at h

section
variable {start stop : Nat} {ls ms : List Line}

theorem Run.le (h : Run start stop ls) : start ≤ stop := by
  induction ls generalizing start with
  | nil => exact Nat.le_of_eq h
  | cons l ls ih => exact Nat.le_trans (Nat.le_of_lt h.2.1) (ih h.2.2)

theorem run_append : Run start stop (ls ++ ms) ↔ ∃ m, Run start m ls ∧ Run m stop ms := by
  induction ls generalizing start with
  | nil => exact ⟨fun h => ⟨start, rfl, h⟩, fun ⟨m, h, h'⟩ => h ▸ h'⟩
  | cons l ls ih =>
    constructor
    · rintro ⟨h1, h2, h3⟩
      obtain ⟨m, h3, h4⟩ := ih.1 h3
      exact ⟨m, ⟨h1, h2, h3⟩, h4⟩
    · rintro ⟨m, ⟨h1, h2, h3⟩, h4⟩
      exact ⟨h1, h2, ih.2 ⟨m, h3, h4⟩⟩

/-- The last of some lines stops where they stop. -/
theorem Run.stop_getLast {l : Line} (h : Run start stop (l :: ls)) :
    (ls.getLast?.getD l).stop = stop := by
  induction ls generalizing start l with
  | nil => exact h.2.2
  | cons m ls ih =>
    rw [List.getLast?_cons, Option.getD_some]
    exact ih h.2.2

end

end Line

namespace Piece

/-- The offsets where a piece starts and stops; a blank line has no part in the
    body. -/
def span? : Piece → Option (Nat × Nat)
  | .blank => none
  | .heading _ _ start stop | .code _ start stop | .item start stop | .text _ start stop =>
    some (start, stop)
  | .table t => some (t.start, t.stop)

/-- Is the piece a heading? -/
def isHeading : Piece → Bool
  | .heading .. => true
  | _ => false

/-! ## Which lines a piece is made of -/

/-- The pieces are made of the lines, in order: a blank line is a piece of its own, and
    any other piece reaches from the start of a line to the end of one.  Only a heading
    is made of one line always. -/
inductive Cut : List Line → List Piece → Prop where
  | nil : Cut [] []
  | blank {l : Line} {ls : List Line} {ps : List Piece} (hl : l.isBlank = true) (h : Cut ls ps) :
      Cut (l :: ls) (.blank :: ps)
  | piece {l : Line} {taken ls : List Line} {p : Piece} {ps : List Piece}
      (hp : p.span? = some (l.start, (taken.getLast?.getD l).stop))
      (ht : p.isHeading = true → taken = []) (h : Cut ls ps) : Cut (l :: taken ++ ls) (p :: ps)

/-- A piece of one line. -/
theorem Cut.single {l : Line} {ls : List Line} {p : Piece} {ps : List Piece}
    (hp : p.span? = some (l.start, l.stop)) (h : Cut ls ps) : Cut (l :: ls) (p :: ps) :=
  have hlines : l :: ls = l :: [] ++ ls := rfl
  hlines ▸ .piece hp (fun _ => rfl) h

/-- A code block takes the lines up to the one that closes its fence, or all. -/
theorem exists_taken_fence {start total : Nat} {l : Line} {ls : List Line} (f : Fence)
    (h : Line.Run start total (l :: ls)) :
    ∃ taken, ls = taken ++ afterFence f ls ∧
      fenceStop f total ls = (taken.getLast?.getD l).stop := by
  have hs := List.takeWhile_append_dropWhile (p := fun l => !f.closedBy l.text) (l := ls)
  unfold fenceStop afterFence
  rw [List.find?_eq_head?_dropWhile_not]
  cases hd : ls.dropWhile fun l => !f.closedBy l.text with
  | nil => exact ⟨ls, (List.append_nil _).symm, h.stop_getLast.symm⟩
  | cons c rest =>
    rw [hd] at hs
    refine ⟨ls.takeWhile (fun l => !f.closedBy l.text) ++ [c], ?_, ?_⟩
    · rw [List.append_assoc]; exact hs.symm
    · rw [List.getLast?_concat]; rfl

/-- A table takes the lines up to the first that is no row. -/
theorem exists_taken_table {names : Line} {ls after : List Line} {t : Table}
    (ht : Table.read? names ls = some (t, after)) :
    ∃ taken, ls = taken ++ after ∧ t.start = names.start ∧
      t.stop = (taken.getLast?.getD names).stop := by
  cases ls with
  | nil => cases ht
  | cons rule rest =>
    simp only [Table.read?] at ht
    split at ht
    · cases ht
      refine ⟨rule :: rest.takeWhile (Table.isRow ·.text), ?_, rfl, ?_⟩
      · rw [List.cons_append, List.takeWhile_append_dropWhile]
      · rw [List.getLast?_cons]; rfl
    · cases ht

/-- **The pieces of lines that follow each other are made of these.** -/
theorem cut_ofLines {start total : Nat} {ls : List Line} (h : Line.Run start total ls) :
    Cut ls (ofLines total ls) := by
  fun_induction ofLines total ls generalizing start with
  | case1 => exact .nil
  | case2 l rest hb ih => exact .blank hb (ih h.2.2)
  | case3 l rest hb f hf ih =>
    obtain ⟨taken, he, hstop⟩ := exists_taken_fence f h
    have hrun := h
    rw [he, ← List.cons_append, Line.run_append] at hrun
    obtain ⟨m, -, hm⟩ := hrun
    have hspan : (Piece.code (String.ofList f.info) l.start (fenceStop f total rest)).span? =
        some (l.start, (taken.getLast?.getD l).stop) := by
      rw [← hstop]
      rfl
    have hcut := Cut.piece hspan (fun hh => by cases hh) (ih hm)
    rwa [List.cons_append, ← he] at hcut
  | case4 l rest hb hf level title hh ih =>
    exact .single rfl (ih h.2.2)
  | case5 l rest hb hf hh t after ht ih =>
    obtain ⟨taken, rfl, hstart, hstop⟩ := exists_taken_table ht
    rw [← List.cons_append, Line.run_append] at h
    obtain ⟨m, -, hm⟩ := h
    exact .piece (by rw [← hstart, ← hstop]; rfl) (fun hh => by cases hh) (ih hm)
  | case6 l rest hb hf hh ht ih =>
    refine .single ?_ (ih h.2.2)
    unfold ofLine
    split <;> rfl

/-! ## Order -/

/-- The pieces come in order between two offsets, and none of them is empty or
    overlaps another. -/
def Run (start stop : Nat) : List Piece → Prop
  | [] => start ≤ stop
  | p :: ps =>
    match p.span? with
    | none => Run start stop ps
    | some (a, b) => start ≤ a ∧ a < b ∧ Run b stop ps

/-- The offset that the pieces after `p` start from. -/
def after (pos : Nat) (p : Piece) : Nat := (p.span?.map (·.2)).getD pos

theorem Run.tail {pos stop : Nat} {p : Piece} {ps : List Piece} (h : Run pos stop (p :: ps)) :
    pos ≤ p.after pos ∧ Run (p.after pos) stop ps := by
  unfold Run at h
  unfold after
  split at h
  · next hp => rw [hp]; exact ⟨Nat.le_refl _, h⟩
  · next a b hp => rw [hp]; exact ⟨Nat.le_trans h.1 (Nat.le_of_lt h.2.1), h.2.2⟩

theorem Run.mono {start start' stop : Nat} {ps : List Piece} (h : Run start' stop ps)
    (hs : start ≤ start') : Run start stop ps := by
  induction ps with
  | nil => exact Nat.le_trans hs h
  | cons p ps ih =>
    unfold Run at h ⊢
    split at h
    · exact ih h
    · exact ⟨Nat.le_trans hs h.1, h.2⟩

/-- **Pieces that are made of lines come in order.** -/
theorem Cut.run {start total : Nat} {ls : List Line} {ps : List Piece} (h : Cut ls ps)
    (hr : Line.Run start total ls) : Run start total ps := by
  induction h generalizing start with
  | nil => exact Nat.le_of_eq hr
  | blank hl h ih => exact (ih hr.2.2).mono (Nat.le_of_lt hr.2.1)
  | piece hp ht h ih =>
    obtain ⟨m, h1, h2⟩ := Line.run_append.1 hr
    have hm := h1.stop_getLast
    unfold Run
    rw [hp]
    exact ⟨Nat.le_of_eq h1.1.symm, hm ▸ h1.1 ▸ Nat.lt_of_lt_of_le h1.2.1 h1.2.2.le, hm ▸ ih h2⟩

/-- The pieces of a text come in order. -/
theorem run_ofOctets (s : Octets) : Run 0 s.length (ofLines s.length (Line.ofOctets s)) :=
  (cut_ofLines (Line.run_ofOctets s)).run (Line.run_ofOctets s)

end Piece

end Folio
