/-
  Folio — what stands between the fences of a code block.

  The lines between two fences leave no trace but where the closing one stops: what
  comes before a fence is cut into pieces without looking at it, and what comes after
  the closing one does not look back.  So with other lines between its fences a code
  block ends elsewhere, all that comes after it moves along, and the rest stays.

  * `Piece.exists_ofLines_append`: what comes before a fence is cut without it;
  * `exists_lines_of_fenced`: the lines around a code block;
  * `parts_of_fenced`: other lines between the fences of a code block.
-/
import Folio.Proofs.Body.Cover
import Folio.Proofs.Body.Moved
import Folio.Proofs.Document.Splice

namespace Folio

/-! ## Lines around a fence -/

section
variable {f : Fence} {l m : Line} {above rest ls : List Line}

/-- Lines that overlap are one line. -/
theorem Line.Run.eq_of_overlap {start stop : Nat} (h : Line.Run start stop ls) (hl : l ∈ ls)
    (hm : m ∈ ls) (h1 : l.start < m.stop) (h2 : m.start < l.stop) : l = m := by
  obtain ⟨above, below, rfl⟩ := List.append_of_mem hl
  obtain ⟨mid, habove, hbelow⟩ := Line.run_append.1 h
  rcases List.mem_append.1 hm with hm | hm
  · have := habove.bounds hm
    have := hbelow.1
    omega
  · rcases List.mem_cons.1 hm with rfl | hm
    · rfl
    · have := hbelow.2.2.bounds hm
      omega

/-- What holds of the texts of all lines. -/
theorem Line.forall_place {p : List Char → Prop} {ls : List Octets} {start : Nat} :
    (∀ l ∈ place start ls, p l.text) ↔ ∀ x ∈ ls, p (textOf x) := by
  induction ls generalizing start with
  | nil => simp [place]
  | cons x ls ih => simp [place, ih]

/-- Lines that open no fence leave none open. -/
theorem Fence.afterAll_of_plain (h : ∀ l ∈ ls, read? l.text = none) : afterAll none ls = none := by
  induction ls with
  | nil => rfl
  | cons l ls ih =>
    have hl : after none l.text = none := h l List.mem_cons_self
    rw [afterAll, List.foldl_cons, hl]
    exact ih fun m hm => h m (List.mem_cons_of_mem _ hm)

namespace Piece

/-- What closes a fence closes it whatever comes behind. -/
theorem afterFence_append (h : Fence.afterAll (some f) above = none) (more : List Line) :
    afterFence f (above ++ more) = afterFence f above ++ more ∧
      (∀ total total', fenceStop f total (above ++ more) = fenceStop f total' above) ∧
      Fence.afterAll none (afterFence f above) = none := by
  induction above with
  | nil => cases h
  | cons l above ih =>
    rw [Fence.afterAll, List.foldl_cons, Fence.after] at h
    by_cases hc : f.closedBy l.text = true
    · rw [if_pos hc] at h
      rw [List.cons_append, afterFence_cons_of_closed hc, afterFence_cons_of_closed hc]
      refine ⟨rfl, fun total total' => ?_, h⟩
      rw [fenceStop_cons_of_closed hc, fenceStop_cons_of_closed hc]
    · rw [if_neg hc] at h
      obtain ⟨h1, h2, h3⟩ := ih h
      rw [List.cons_append, afterFence_cons_of_open hc, afterFence_cons_of_open hc]
      refine ⟨h1, fun total total' => ?_, h3⟩
      rw [fenceStop_cons_of_open hc, fenceStop_cons_of_open hc, h2 total total']

/-- What comes behind a fence comes behind lines that close it. -/
theorem exists_taken_of_afterFence (h : afterFence f ls ≠ []) :
    ∃ taken, ls = taken ++ afterFence f ls ∧ Fence.afterAll (some f) taken = none := by
  induction ls with
  | nil => exact absurd rfl h
  | cons l ls ih =>
    by_cases hc : f.closedBy l.text = true
    · rw [afterFence_cons_of_closed hc]
      exact ⟨[l], rfl, if_pos hc⟩
    · rw [afterFence_cons_of_open hc] at h ⊢
      obtain ⟨taken, he, ht⟩ := ih h
      refine ⟨l :: taken, congrArg (l :: ·) he, ?_⟩
      rw [Fence.afterAll, List.foldl_cons, Fence.after, if_neg hc]
      exact ht

/-- A table ends before a fence, whatever comes behind. -/
theorem read?_append (hl : (Fence.read? l.text).isSome) (names : Line) (more : List Line) :
    Table.read? names (ls ++ l :: more) =
      (Table.read? names ls).map fun r => (r.1, r.2 ++ l :: more) := by
  obtain ⟨f, hf⟩ := Option.isSome_iff_exists.1 hl
  have hrow : ¬ Table.isRow l.text = true := by
    simp [Table.isRow, Fence.opens, hf]
  cases ls with
  | nil =>
    have hrule : Table.startsWith names.text l.text = false := by
      rw [Table.startsWith, Row.not_isSeparator_of_fence hf, Bool.and_false, Bool.false_and]
    simp only [List.nil_append, Table.read?, hrule]
    rfl
  | cons rule rest =>
    have hrows : (rest ++ l :: more).takeWhile (Table.isRow ·.text) =
          rest.takeWhile (Table.isRow ·.text) ∧
        (rest ++ l :: more).dropWhile (Table.isRow ·.text) =
          rest.dropWhile (Table.isRow ·.text) ++ l :: more := by
      induction rest with
      | nil => simp [hrow]
      | cons r rest ih => by_cases hr : Table.isRow r.text = true <;> simp [hr, ih]
    rw [List.cons_append, Table.read?, Table.read?, hrows.1, hrows.2]
    split <;> rfl

/-- **What comes before a fence is cut without it.** -/
theorem exists_ofLines_append (h : Fence.afterAll none above = none) :
    ∃ ps, ∀ (total : Nat) (l : Line) (rest : List Line), (Fence.read? l.text).isSome →
      ofLines total (above ++ l :: rest) = ps ++ ofLines total (l :: rest) := by
  fun_induction ofLines 0 above with
  | case1 => exact ⟨[], fun _ _ _ _ => rfl⟩
  | case2 l rest hb ih =>
    rw [Fence.afterAll, List.foldl_cons, Fence.after, Fence.read?_eq_none_of_blank hb] at h
    obtain ⟨ps, hps⟩ := ih h
    refine ⟨.blank :: ps, fun total m more hm => ?_⟩
    rw [List.cons_append, ofLines_blank hb, hps total m more hm]
    rfl
  | case3 l rest hb f hf ih =>
    rw [Fence.afterAll, List.foldl_cons, Fence.after, hf] at h
    obtain ⟨-, -, hnone⟩ := afterFence_append h []
    obtain ⟨ps, hps⟩ := ih hnone
    refine ⟨.code (String.ofList f.info) l.start (fenceStop f 0 rest) :: ps,
      fun total m more hm => ?_⟩
    obtain ⟨hafter, hstop, -⟩ := afterFence_append h (m :: more)
    rw [List.cons_append, ofLines_fence hf, hafter, hstop total 0, hps total m more hm]
    rfl
  | case4 l rest hb hf level title hh ih =>
    rw [Fence.afterAll, List.foldl_cons, Fence.after, hf] at h
    obtain ⟨ps, hps⟩ := ih h
    refine ⟨.heading level (String.ofList title) l.start l.stop :: ps, fun total m more hm => ?_⟩
    rw [List.cons_append, ofLines_heading hh, hps total m more hm]
    rfl
  | case5 l rest hb hf hh t after ht ih =>
    obtain ⟨taken, rfl, hplain⟩ := Table.plain_of_read? ht
    have htaken := Fence.afterAll_of_plain fun m hm => (hplain m hm).1
    rw [Fence.afterAll, List.foldl_cons, Fence.after, hf, ← Fence.afterAll, Fence.afterAll_append,
      htaken] at h
    obtain ⟨ps, hps⟩ := ih h
    refine ⟨.table t :: ps, fun total m more hm => ?_⟩
    rw [List.cons_append, ofLines_table hb hf hh (by rw [read?_append hm, ht]; rfl),
      hps total m more hm]
    rfl
  | case6 l rest hb hf hh ht ih =>
    rw [Fence.afterAll, List.foldl_cons, Fence.after, hf] at h
    obtain ⟨ps, hps⟩ := ih h
    refine ⟨ofLine l :: ps, fun total m more hm => ?_⟩
    rw [List.cons_append, ofLines_line hb hf hh (by rw [read?_append hm, ht]; rfl),
      hps total m more hm]
    rfl

/-- A code block starts where a line outside of all fences opens one, and stops with it. -/
theorem exists_lines_of_code {total : Nat} {info : String} {a b : Nat}
    (h : .code info a b ∈ ofLines total ls) : ∃ above l rest f, ls = above ++ l :: rest ∧
      Fence.afterAll none above = none ∧ Fence.read? l.text = some f ∧ l.start = a ∧
      fenceStop f total rest = b := by
  fun_induction ofLines total ls with
  | case1 => cases h
  | case2 l rest hb ih =>
    obtain ⟨above, m, more, f, rfl, hopen, hm⟩ := ih ((List.mem_cons.1 h).resolve_left (by rintro ⟨⟩))
    refine ⟨l :: above, m, more, f, rfl, ?_, hm⟩
    rw [Fence.afterAll, List.foldl_cons, Fence.after, Fence.read?_eq_none_of_blank hb]
    exact hopen
  | case3 l rest hb f hf ih =>
    rcases List.mem_cons.1 h with he | h
    · cases he
      exact ⟨[], l, rest, f, rfl, rfl, hf, rfl, rfl⟩
    · have hne : afterFence f rest ≠ [] := fun he => by rw [he, ofLines] at h; cases h
      obtain ⟨taken, he, htaken⟩ := exists_taken_of_afterFence hne
      obtain ⟨above, m, more, g, hafter, hopen, hm⟩ := ih h
      refine ⟨l :: (taken ++ above), m, more, g, ?_, ?_, hm⟩
      · rw [he, hafter, List.cons_append, List.append_assoc]
      · rw [Fence.afterAll, List.foldl_cons, Fence.after, hf, ← Fence.afterAll,
          Fence.afterAll_append, htaken]
        exact hopen
  | case4 l rest hb hf level title hh ih =>
    obtain ⟨above, m, more, f, rfl, hopen, hm⟩ := ih ((List.mem_cons.1 h).resolve_left (by rintro ⟨⟩))
    refine ⟨l :: above, m, more, f, rfl, ?_, hm⟩
    rw [Fence.afterAll, List.foldl_cons, Fence.after, hf]
    exact hopen
  | case5 l rest hb hf hh t after ht ih =>
    obtain ⟨taken, rfl, hplain⟩ := Table.plain_of_read? ht
    obtain ⟨above, m, more, f, rfl, hopen, hm⟩ := ih ((List.mem_cons.1 h).resolve_left (by rintro ⟨⟩))
    refine ⟨l :: (taken ++ above), m, more, f, ?_, ?_, hm⟩
    · rw [List.cons_append, List.append_assoc]
    · rw [Fence.afterAll, List.foldl_cons, Fence.after, hf, ← Fence.afterAll, Fence.afterAll_append,
        Fence.afterAll_of_plain fun x hx => (hplain x hx).1]
      exact hopen
  | case6 l rest hb hf hh ht ih =>
    have hne : .code info a b ≠ ofLine l := by
      unfold ofLine
      split <;> rintro ⟨⟩
    obtain ⟨above, m, more, f, rfl, hopen, hm⟩ := ih ((List.mem_cons.1 h).resolve_left hne)
    refine ⟨l :: above, m, more, f, rfl, ?_, hm⟩
    rw [Fence.afterAll, List.foldl_cons, Fence.after, hf]
    exact hopen

end Piece

end

/-! ## Code blocks -/

namespace Body

namespace Draft
variable {starts stops : Nat → Prop} {d : Draft} {pos stop : Nat} {p : Piece} {ps : List Piece}

/-- Only a fence makes a code block, which does not grow. -/
theorem Divides.code_of_mem_add (h : Divides starts stops d pos) {k : Block}
    (hk : k ∈ (d.add p).blocks) (hc : k.kind = .code) :
    k ∈ d.blocks ∨ p = .code k.info k.start k.stop := by
  have hold : ∀ {b : Block}, k ∈ b :: d.blocks → b.kind ≠ .code → k ∈ d.blocks :=
    fun hk hb => (List.mem_cons.1 hk).resolve_left fun he => hb (he ▸ hc)
  cases p with
  | blank | heading _ _ _ _ => exact .inl hk
  | code info start stop =>
    rcases List.mem_cons.1 hk with rfl | hk
    · exact .inr rfl
    · exact .inl hk
  | table t => exact .inl (hold hk (by rintro ⟨⟩))
  | item start stop => exact .inl (hold hk (by rintro ⟨⟩))
  | text indented start stop =>
    rw [Draft.add] at hk
    split at hk
    · next ht =>
      rw [grow] at hk
      split at hk
      · exact .inl hk
      · next b bs hd =>
        rcases List.mem_cons.1 hk with rfl | hk
        · rcases h.kind_of_takes ht hd with hb | hb <;> · rw [hc] at hb; cases hb
        · exact .inl (by rw [hd]; exact List.mem_cons_of_mem _ hk)
    · exact .inl (hold hk (by rintro ⟨⟩))

theorem Divides.code_of_mem_foldl (h : Divides starts stops d pos) (hr : Piece.Run pos stop ps)
    (hp : ∀ p ∈ ps, ∀ {a b : Nat}, p.span? = some (a, b) → starts a ∧ stops b) {k : Block}
    (hk : k ∈ (ps.foldl Draft.add d).blocks) (hc : k.kind = .code) :
    k ∈ d.blocks ∨ .code k.info k.start k.stop ∈ ps := by
  induction ps generalizing d pos with
  | nil => exact .inl hk
  | cons p ps ih =>
    rcases ih (h.add hr (hp p List.mem_cons_self)) hr.tail.2
      (fun q hq => hp q (List.mem_cons_of_mem _ hq)) hk with hk | hk
    · rcases h.code_of_mem_add hk hc with hk | rfl
      · exact .inl hk
      · exact .inr List.mem_cons_self
    · exact .inr (List.mem_cons_of_mem _ hk)

end Draft

/-- A code block between two fences: its first line opens one, and its last line closes
    it. -/
structure IsFenced (s : Octets) (b : Block) (f : Fence) (l m : Line) : Prop where
  block : b ∈ (ofOctets s).blocks
  code : b.kind = .code
  opening : l ∈ Line.ofOctets s ∧ l.start = b.start ∧ Fence.read? l.text = some f
  closing : m ∈ Line.ofOctets s ∧ m.stop = b.stop ∧ f.closedBy m.text = true
  apart : l.stop ≤ m.start

section
variable {s : Octets} {b : Block} {f : Fence} {l m : Line}

/-- The lines before a code block, between its fences and behind it. -/
theorem exists_lines_of_fenced (h : IsFenced s b f l m) : ∃ above content below,
    Line.ofOctets s = above ++ l :: (content ++ m :: below) ∧
      Fence.afterAll none above = none ∧ ∀ c ∈ content, f.closedBy c.text = false := by
  have hrun := Line.run_ofOctets s
  have hcut := Piece.cut_ofLines hrun
  have hcode : .code b.info b.start b.stop ∈ Piece.ofLines s.length (Line.ofOctets s) := by
    have hempty : Draft.Divides (fun _ => True) (fun _ => True) (Draft.empty s.length) 0 :=
      Draft.divides_empty _
    have hmem := hempty.code_of_mem_foldl (hcut.run hrun) (fun _ _ _ _ _ => ⟨trivial, trivial⟩)
      (List.mem_reverse.1 h.block) h.code
    exact hmem.resolve_left List.not_mem_nil
  obtain ⟨above, l', rest, g, hs, hopen, hg, hstart, hstop⟩ := Piece.exists_lines_of_code hcode
  have hl' : l' ∈ Line.ofOctets s := by
    rw [hs]; exact List.mem_append_right _ List.mem_cons_self
  have hlb := hrun.bounds h.opening.1
  have hlb' := hrun.bounds hl'
  have hll : l' = l := by
    have := h.opening.2.1
    exact hrun.eq_of_overlap hl' h.opening.1 (by omega) (by omega)
  subst hll
  obtain rfl : g = f := Option.some.inj (hg.symm.trans h.opening.2.2)
  have hmb := hrun.bounds h.closing.1
  -- the closing line comes after the opening one
  have hm : m ∈ rest := by
    have hmem := h.closing.1
    rw [hs] at hmem hrun
    obtain ⟨mid, habove, hrest⟩ := Line.run_append.1 hrun
    have hle := h.apart
    rcases List.mem_append.1 hmem with hmem | hmem
    · have := habove.bounds hmem
      have := hrest.1
      omega
    · rcases List.mem_cons.1 hmem with rfl | hmem
      · omega
      · exact hmem
  cases hfind : rest.find? fun l => g.closedBy l.text with
  | none => exact absurd h.closing.2.2 (List.find?_eq_none.1 hfind m hm)
  | some c =>
    obtain ⟨hc, content, below, rfl, hcontent⟩ := List.find?_eq_some_iff_append.1 hfind
    have hcs : c.stop = b.stop := by rw [← hstop, Piece.fenceStop, hfind]; rfl
    have hcm : c ∈ Line.ofOctets s := by
      rw [hs]
      exact List.mem_append_right _ (List.mem_cons_of_mem _
        (List.mem_append_right _ List.mem_cons_self))
    have hcb := hrun.bounds hcm
    obtain rfl : c = m := by
      have := h.closing.2.1
      exact hrun.eq_of_overlap hcm h.closing.1 (by omega) (by omega)
    exact ⟨above, content, below, hs, hopen, fun x hx => by simpa using hcontent x hx⟩

/-- The octets of these lines. -/
theorem exists_octets_of_fenced (h : IsFenced s b f l m) : ∃ above x content y below,
    Octets.lines s = above ++ x :: (content ++ y :: below) ∧
      Fence.afterAll none (Line.place 0 above) = none ∧
      (∀ c ∈ content, f.closedBy (Line.textOf c) = false) ∧
      l = ⟨above.flatten.length, above.flatten.length + x.length, Line.textOf x⟩ ∧
      m = ⟨l.stop + content.flatten.length, l.stop + content.flatten.length + y.length,
        Line.textOf y⟩ := by
  obtain ⟨above, content, below, hs, hopen, hcontent⟩ := exists_lines_of_fenced h
  obtain ⟨as, xs, hlines, rfl, hxs⟩ := Line.place_eq_append_iff.1 hs
  rw [Nat.zero_add] at hxs
  cases xs with
  | nil => cases hxs
  | cons x xs =>
    obtain ⟨hl, hys⟩ := List.cons.inj hxs
    obtain ⟨cs, ys, rfl, rfl, hbs⟩ := Line.place_eq_append_iff.1 hys.symm
    cases ys with
    | nil => cases hbs
    | cons y bs =>
      obtain ⟨hm, -⟩ := List.cons.inj hbs
      exact ⟨as, x, cs, y, bs, hlines, hopen,
        Line.forall_place (p := (f.closedBy · = false)).1 hcontent, hl, by rw [hm, hl]⟩

end

/-! ## Other lines between the fences -/

/-- Where an offset is once a number of octets have taken the place of others before
    `place`. -/
def shifted (place old new offset : Nat) : Nat :=
  if offset < place then offset else offset + new - old

section
variable {place old new : Nat}

theorem shifted_of_lt {offset : Nat} (h : offset < place) : shifted place old new offset = offset :=
  if_pos h

theorem shifted_of_le {offset : Nat} (h : place ≤ offset) :
    shifted place old new offset = offset + new - old := if_neg (Nat.not_lt.2 h)

/-- Lines before the place stay. -/
theorem map_move_shifted {ls : List Octets} {start : Nat} (h : start + ls.flatten.length < place) :
    (Line.place start ls).map (Line.move (shifted place old new)) = Line.place start ls := by
  refine (List.map_congr_left fun l hl => ?_).trans (List.map_id _)
  have h1 := Line.start_le_of_mem_place hl
  have h2 := Line.stop_le_of_mem_place hl
  rw [Line.move, shifted_of_lt (by omega), shifted_of_lt (by omega)]
  rfl

/-- Lines from the place on move along. -/
theorem place_shifted {ls : List Octets} {start : Nat} (h : place ≤ start) (hold : old ≤ place) :
    (Line.place start ls).map (Line.move (shifted place old new)) =
      Line.place (start + new - old) ls := by
  induction ls generalizing start with
  | nil => rfl
  | cons l ls ih =>
    have hstop : start + l.length + new - old = start + new - old + l.length := by omega
    have hle : place ≤ start + l.length := by omega
    rw [Line.place, List.map_cons, ih hle, Line.move, shifted_of_le h, shifted_of_le hle,
      Line.place, hstop]

end

/-- What is between two fences leaves no trace but where the closing one stops. -/
theorem ofLines_fenced {f : Fence} {total : Nat} {l m : Line} {content below : List Line}
    (hf : Fence.read? l.text = some f) (hm : f.closedBy m.text = true)
    (hc : ∀ c ∈ content, f.closedBy c.text = false) :
    Piece.ofLines total (l :: (content ++ m :: below)) =
      .code (String.ofList f.info) l.start m.stop :: Piece.ofLines total below := by
  have hskip : Piece.fenceStop f total (content ++ m :: below) = m.stop ∧
      Piece.afterFence f (content ++ m :: below) = below := by
    induction content with
    | nil => exact ⟨Piece.fenceStop_cons_of_closed hm _ _, Piece.afterFence_cons_of_closed hm _⟩
    | cons c content ih =>
      have hopen : ¬ f.closedBy c.text = true := by simp [hc c List.mem_cons_self]
      rw [List.cons_append, Piece.fenceStop_cons_of_open hopen, Piece.afterFence_cons_of_open hopen]
      exact ih fun c hc' => hc c (List.mem_cons_of_mem _ hc')
  rw [Piece.ofLines_fence hf, hskip.1, hskip.2]

/-- Lines with others between the fences of a code block are cut into the same pieces, at
    other offsets from the closing fence on. -/
theorem ofLines_fenced_move {move : Nat → Nat} {f : Fence} {l m m' : Line}
    {above content content' below : List Line} (total : Nat)
    (hopen : Fence.afterAll none above = none) (hf : Fence.read? l.text = some f)
    (hm : f.closedBy m.text = true) (hc : ∀ c ∈ content, f.closedBy c.text = false)
    (hc' : ∀ c ∈ content', f.closedBy c.text = false)
    (habove : above.map (Line.move move) = above) (hl : l.move move = l)
    (hm' : m'.text = m.text ∧ m'.stop = move m.stop) :
    Piece.ofLines (move total) (above ++ l :: (content' ++ m' :: below.map (Line.move move))) =
      (Piece.ofLines total (above ++ l :: (content ++ m :: below))).map (Piece.move move) := by
  obtain ⟨ps, hps⟩ := Piece.exists_ofLines_append hopen
  have hfence : (Fence.read? l.text).isSome := by rw [hf]; rfl
  have hstart : move l.start = l.start := congrArg Line.start hl
  -- the pieces before the fence are those of lines that stay
  have hkept : ps.map (Piece.move move) = ps := by
    have h := Piece.ofLines_move move total (above ++ [l])
    rw [List.map_append, habove, List.map_singleton, hl, hps _ l [] hfence, hps _ l [] hfence,
      List.map_append, ← Piece.ofLines_move, List.map_singleton, hl] at h
    exact (List.append_cancel_right h).symm
  have hclose' : f.closedBy m'.text = true := by rw [hm'.1]; exact hm
  rw [hps _ _ _ hfence, hps _ _ _ hfence, ofLines_fenced hf hclose' hc', ofLines_fenced hf hm hc,
    Piece.ofLines_move, List.map_append, hkept, List.map_cons, Piece.move, hstart, hm'.2]

/-- A text that ends its last line with LF does so before any other text. -/
theorem cutsLines_of_lines_end {new : Octets} (h : ∀ x ∈ Octets.lines new, x.getLast? = some 10)
    (rest : Octets) : Octets.CutsLines new rest := by
  rcases List.eq_nil_or_concat' (Octets.lines new) with hn | ⟨xs, x, hx⟩
  · exact .inl (Octets.lines_eq_nil.1 hn)
  · have hend : x.getLast? = some 10 := h x (by rw [hx]; simp)
    have hnew : new = xs.flatten ++ x := by
      rw [← Octets.flatten_lines new, hx]; simp
    rw [hnew]
    exact .inr (.inr (.inl (by rw [List.getLast?_append, hend]; rfl)))

/-- The lines of a text with others in place of some. -/
theorem lines_replace {s new : Octets} {above content below : List Octets} {x y : Octets}
    (hs : Octets.lines s = above ++ x :: (content ++ y :: below)) (hx : x.getLast? = some 10)
    (hnew : ∀ z ∈ Octets.lines new, z.getLast? = some 10) :
    let changed := s.replace (above.flatten.length + x.length)
      (above.flatten.length + x.length + content.flatten.length) new
    Octets.lines changed = above ++ x :: (Octets.lines new ++ y :: below) ∧
      changed.length + content.flatten.length = s.length + new.length := by
  intro changed
  have hfirst : Octets.lines s = (above ++ [x]) ++ (content ++ y :: below) := by simp [hs]
  have hlast : Octets.lines s = (above ++ [x] ++ content) ++ (y :: below) := by simp [hs]
  have htext : s = above.flatten ++ x ++ content.flatten ++ (y :: below).flatten := by
    rw [← Octets.flatten_lines s, hs]; simp
  have hchanged : changed = (above ++ [x]).flatten ++ (new ++ (y :: below).flatten) := by
    have htake : s.take (above.flatten.length + x.length) = above.flatten ++ x := by
      rw [htext, List.append_assoc, List.take_left' List.length_append]
    have hdrop : s.drop (above.flatten.length + x.length + content.flatten.length) =
        (y :: below).flatten := by
      rw [htext, List.drop_left' (by rw [List.length_append, List.length_append])]
    change s.take _ ++ new ++ s.drop _ = _
    rw [htake, hdrop]
    simp
  have hcut : Octets.CutsLines (above ++ [x]).flatten (new ++ (y :: below).flatten) :=
    .inr (.inr (.inl (by simp [hx])))
  constructor
  · rw [hchanged, Octets.lines_append hcut, Octets.lines_append (cutsLines_of_lines_end hnew _),
      Octets.lines_flatten_of_lines_eq hfirst, Octets.lines_flatten_of_lines_eq_append hlast]
    simp
  · rw [hchanged, htext]
    simp only [List.length_append, List.flatten_append, List.flatten_singleton]
    omega

/-- Where two lines and what is around them come to lie. -/
theorem place_two (above between below : List Octets) (x y : Octets) :
    Line.place 0 (above ++ x :: (between ++ y :: below)) =
      Line.place 0 above ++
        ⟨above.flatten.length, above.flatten.length + x.length, Line.textOf x⟩ ::
          (Line.place (above.flatten.length + x.length) between ++
            ⟨above.flatten.length + x.length + between.flatten.length,
              above.flatten.length + x.length + between.flatten.length + y.length,
              Line.textOf y⟩ ::
            Line.place (above.flatten.length + x.length + between.flatten.length + y.length)
              below) := by
  rw [Line.place_append, Nat.zero_add, Line.place, Line.place_append, Line.place]

section
variable {s : Octets} {b : Block} {f : Fence} {l m : Line} {new : Octets}

/-- The text with other lines between the fences is cut into the same pieces, which move. -/
theorem pieces_fenced (h : IsFenced s b f l m) (hl : (s.slice l.start l.stop).getLast? = some 10)
    (hnew : ∀ x ∈ Octets.lines new, x.getLast? = some 10 ∧ f.closedBy (Line.textOf x) = false) :
    let move := shifted b.stop (m.start - l.stop) new.length
    let changed := s.replace l.stop m.start new
    changed.length = move s.length ∧
      Piece.ofLines changed.length (Line.ofOctets changed) =
        (Piece.ofLines s.length (Line.ofOctets s)).map (Piece.move move) := by
  obtain ⟨above, x, content, y, below, hs, hopen, hcontent, rfl, rfl⟩ := exists_octets_of_fenced h
  have hf := h.opening.2.2
  have hclose := h.closing.2.2
  have hstop : _ = b.stop := h.closing.2.1
  dsimp only at hl hf hclose hstop ⊢
  have htext : s = above.flatten ++ x ++ (content.flatten ++ (y ++ below.flatten)) := by
    rw [← Octets.flatten_lines s, hs]; simp
  have hend : x.getLast? = some 10 := by
    have hx : s.slice above.flatten.length (above.flatten.length + x.length) = x := by
      rw [Octets.slice, htext, List.take_left' List.length_append, List.drop_left' rfl]
    rwa [hx] at hl
  have hy : 0 < y.length := List.length_pos_iff.2 (Octets.ne_nil_of_mem_lines (s := s) (by simp [hs]))
  have hle := congrArg List.length htext
  simp only [List.length_append] at hle
  obtain ⟨hlines, hlength⟩ := lines_replace hs hend fun z hz => (hnew z hz).1
  rw [Nat.add_sub_cancel_left, ← hstop]
  generalize s.replace _ _ new = changed at hlines hlength ⊢
  have htotal : changed.length = shifted (above.flatten.length + x.length +
      content.flatten.length + y.length) content.flatten.length new.length s.length := by
    rw [shifted_of_le (by omega)]; omega
  have hnewlen : (Octets.lines new).flatten.length = new.length := by rw [Octets.flatten_lines]
  have hbelow : (Line.place (above.flatten.length + x.length + content.flatten.length + y.length)
        below).map (Line.move (shifted (above.flatten.length + x.length +
          content.flatten.length + y.length) content.flatten.length new.length)) =
      Line.place (above.flatten.length + x.length + (Octets.lines new).flatten.length + y.length)
        below := by
    rw [place_shifted (Nat.le_refl _) (by omega), hnewlen]
    congr 1
    omega
  refine ⟨htotal, ?_⟩
  rw [Line.ofOctets, Line.ofOctets, hs, hlines, place_two, place_two, htotal, ← hbelow]
  refine ofLines_fenced_move _ hopen hf hclose ?_ ?_ (map_move_shifted (by omega)) ?_ ⟨rfl, ?_⟩
  · exact Line.forall_place (p := (f.closedBy · = false)).2 hcontent
  · exact Line.forall_place (p := (f.closedBy · = false)).2 fun z hz => (hnew z hz).2
  · have hstay : ∀ n ≤ above.flatten.length + x.length, shifted (above.flatten.length + x.length +
        content.flatten.length + y.length) content.flatten.length new.length n = n :=
      fun n hn => shifted_of_lt (by omega)
    rw [Line.move, hstay _ (Nat.le_add_right _ _), hstay _ (Nat.le_refl _)]
  · rw [shifted_of_le (Nat.le_refl _), hnewlen]
    dsimp only
    omega

/-- **Other lines between the fences of a code block.**  Sections, tables and blocks stay
    as they are, but that the end of the code block and all offsets behind it move by the
    difference of the lengths. -/
theorem parts_of_fenced (h : IsFenced s b f l m)
    (hl : (s.slice l.start l.stop).getLast? = some 10)
    (hnew : ∀ x ∈ Octets.lines new, x.getLast? = some 10 ∧ f.closedBy (Line.textOf x) = false) :
    let move := shifted b.stop (m.start - l.stop) new.length
    let changed := ofOctets (s.replace l.stop m.start new)
    changed.sections = (ofOctets s).sections.map (Section.move move) ∧
      changed.tables = (ofOctets s).tables.map (Table.move move) ∧
      changed.blocks = (ofOctets s).blocks.map (Block.move move) := by
  intro move changed
  obtain ⟨hlength, hpieces⟩ := pieces_fenced h hl hnew
  have hdraft : Draft.ofPieces (s.replace l.stop m.start new).length
        (Piece.ofLines (s.replace l.stop m.start new).length
          (Line.ofOctets (s.replace l.stop m.start new))) =
      (Draft.ofPieces s.length (Piece.ofLines s.length (Line.ofOctets s))).move move := by
    rw [Draft.move_ofPieces, hpieces, hlength]
  refine ⟨?_, ?_, ?_⟩
  · exact (congrArg (·.sections.toList) hdraft).trans Array.toList_map
  · exact (congrArg (·.tables.reverse) hdraft).trans List.map_reverse.symm
  · exact (congrArg (·.blocks.reverse) hdraft).trans List.map_reverse.symm

end

/-- A heading and a longer fence of the other kind between two fences: neither opens a
    section or a block, and the heading behind them moves. -/
theorem parts_of_fenced_heading :
    IsFenced (Utf8.ofString "# A\n~~~\nx\n~~~\n# B\n") ⟨.code, 4, 14, some 0, "", false⟩ ⟨'~', 3, []⟩
        ⟨4, 8, "~~~".toList⟩ ⟨10, 14, "~~~".toList⟩ ∧
      ((Utf8.ofString "# A\n~~~\nx\n~~~\n# B\n").slice 4 8).getLast? = some 10 ∧
      (∀ x ∈ Octets.lines (Utf8.ofString "# C\n```\n"), x.getLast? = some 10 ∧
        Fence.closedBy ⟨'~', 3, []⟩ (Line.textOf x) = false) ∧
      (ofOctets (Utf8.ofString "# A\n~~~\n# C\n```\n~~~\n# B\n")).sections.map
        (fun s => (s.heading, s.headingStart, s.stop)) = [("A", 0, 20), ("B", 20, 24)] := by
  have hcode : IsFenced (Utf8.ofString "# A\n~~~\nx\n~~~\n# B\n")
      ⟨.code, 4, 14, some 0, "", false⟩ ⟨'~', 3, []⟩ ⟨4, 8, "~~~".toList⟩ ⟨10, 14, "~~~".toList⟩ := by
    refine ⟨?_, rfl, ?_, ?_, by decide⟩ <;> decide +kernel
  have hend : ((Utf8.ofString "# A\n~~~\nx\n~~~\n# B\n").slice 4 8).getLast? = some 10 := by
    decide +kernel
  have hnew : ∀ x ∈ Octets.lines (Utf8.ofString "# C\n```\n"), x.getLast? = some 10 ∧
      Fence.closedBy ⟨'~', 3, []⟩ (Line.textOf x) = false := by decide +kernel
  refine ⟨hcode, hend, hnew, ?_⟩
  have hchanged : (Utf8.ofString "# A\n~~~\nx\n~~~\n# B\n").replace 8 10 (Utf8.ofString "# C\n```\n") =
      Utf8.ofString "# A\n~~~\n# C\n```\n~~~\n# B\n" := by decide +kernel
  rw [← hchanged, (parts_of_fenced hcode hend hnew).1]
  decide +kernel

end Body

end Folio
