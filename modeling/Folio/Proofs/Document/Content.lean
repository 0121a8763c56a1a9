/-
  Folio — replacing the content of a section.

  The content of a section starts after its heading line and ends before the next
  heading of no lower level.  No fence is open at either place, so the lines before
  and after it say the same whatever lines stand between them, as long as these
  close their fences; and the header is found again, because the first line of the
  body stays.

  * `sections_replace`: the sections of a body with another content in one of them;
  * `content_splice`: the same of a document, whose header stays as it is.
-/
import Folio.Proofs.Body.Below
import Folio.Proofs.Body.Fences
import Folio.Proofs.Document.Splice
import Folio.Proofs.Outcome

namespace Folio

/-- What the heading line of a section says, and where it lies. -/
def Section.opening (s : Section) : Nat × String × Nat × Nat :=
  (s.level, s.heading, s.headingStart, s.start)

/-- The same heading, further on by a number of octets. -/
structure Section.Moved (by' : Int) (s s' : Section) : Prop where
  heading : s'.heading = s.heading
  level : s'.level = s.level
  headingStart : (s'.headingStart : Int) = s.headingStart + by'
  start : (s'.start : Int) = s.start + by'

/-! ## Lines further on -/

namespace Heading

/-- A heading further on by some octets. -/
def shift (n : Nat) (h : Nat × String × Nat × Nat) : Nat × String × Nat × Nat :=
  (h.1, h.2.1, h.2.2.1 + n, h.2.2.2 + n)

theorem afterAll_place (open? : Option Fence) (start start' : Nat) (ls : List Octets) :
    Fence.afterAll open? (Line.place start ls) = Fence.afterAll open? (Line.place start' ls) := by
  induction ls generalizing open? start start' with
  | nil => rfl
  | cons l ls ih => exact ih _ _ _

theorem found_place (open? : Option Fence) (start n : Nat) (ls : List Octets) :
    found open? (Line.place (start + n) ls) = (found open? (Line.place start ls)).map (shift n) := by
  induction ls generalizing open? start with
  | nil => rfl
  | cons l ls ih =>
    have hplace : start + n + l.length = start + l.length + n := by omega
    cases open? with
    | some f => simp only [Line.place, found, hplace, ih]
    | none =>
      simp only [Line.place, found, hplace, ih, List.map_append]
      cases h : read? (Line.textOf l) <;> simp [ofLine?, h, shift]

/-- The last of the headings of some lines are those of the lines from the first of
    them on. -/
theorem exists_cut {start : Nat} {ls : List Octets} {hs after : List (Nat × String × Nat × Nat)}
    (h : found none (Line.place start ls) = hs ++ after) :
    ∃ content rest, ls = content ++ rest ∧
      found none (Line.place (start + content.flatten.length) rest) = after ∧
      (after.head?.map (·.2.2.1)).getD (start + ls.flatten.length) =
        start + content.flatten.length := by
  cases after with
  | nil => exact ⟨ls, [], (List.append_nil ls).symm, rfl, rfl⟩
  | cons a after =>
    obtain ⟨aboves, line, belows, hlines, -, -, hline, hnone, hrest⟩ := exists_of_found_eq h
    obtain ⟨content, rest, rfl, -, hbs⟩ := Line.place_eq_append_iff.1 hlines
    refine ⟨content, rest, rfl, ?_, ?_⟩
    · rw [← hbs, found, hline, hnone, hrest]; rfl
    · cases rest with
      | nil => cases hbs
      | cons l rest =>
        obtain ⟨rfl, -⟩ : line = _ ∧ _ := List.cons.inj hbs
        obtain ⟨r, -, rfl⟩ := Option.map_eq_some_iff.1 hline
        rfl

end Heading

/-- Sections with the same headings at two distances. -/
theorem Section.forall₂_moved {hs : List (Nat × String × Nat × Nat)} {ss ss' : List Section}
    {m n : Nat} (h : ss.map opening = hs.map (Heading.shift m))
    (h' : ss'.map opening = hs.map (Heading.shift n)) :
    List.Forall₂ (Moved (n - m)) ss ss' := by
  induction hs generalizing ss ss' with
  | nil =>
    rw [List.map_eq_nil_iff.1 h, List.map_eq_nil_iff.1 h']
    exact .nil
  | cons e hs ih =>
    obtain ⟨s, ss, rfl, hs, hss⟩ := List.map_eq_cons_iff.1 h
    obtain ⟨s', ss', rfl, hs', hss'⟩ := List.map_eq_cons_iff.1 h'
    refine .cons ?_ (ih hss hss')
    simp only [opening, Heading.shift, Prod.mk.injEq] at hs hs'
    obtain ⟨h1, h2, h3, h4⟩ := hs
    obtain ⟨h1', h2', h3', h4'⟩ := hs'
    exact ⟨h2'.trans h2.symm, h1'.trans h1.symm, by omega, by omega⟩

theorem Heading.shift_zero : shift 0 = id := rfl

theorem Section.moved_zero {s s' : Section} (h : s'.opening = s.opening) : s.Moved 0 s' := by
  simp only [opening, Prod.mk.injEq] at h
  exact ⟨h.2.1, h.1, by omega, by omega⟩

/-! ## Bodies -/

namespace Body

theorem found_ofOctets (s : Octets) :
    Heading.found none (Line.ofOctets s) = (ofOctets s).sections.map Section.opening := by
  rw [← Heading.headings_ofLines s.length]
  exact (isHeadingTree_ofOctets s).headings.symm

section
variable {octets : Octets} {before below after : List Section} {s : Section}
  (hb : (ofOctets octets).sections = before ++ s :: (below ++ after))
  (hbelow : ∀ e ∈ below, s.level < e.level) (hafter : ∀ e ∈ after.head?, e.level ≤ s.level)
include hb hbelow hafter

/-- The lines up to the heading of a section, those of its content and the others. -/
theorem exists_lines_of_section : ∃ above l content rest,
    Octets.lines octets = (above ++ [l]) ++ content ++ rest ∧
      s.headingStart = above.flatten.length ∧ s.start = (above ++ [l]).flatten.length ∧
      s.stop = s.start + content.flatten.length ∧
      Heading.found none (Line.place 0 (above ++ [l])) = (before ++ [s]).map Section.opening ∧
      Fence.afterAll none (Line.place 0 (above ++ [l])) = none ∧
      Heading.found none (Line.place s.stop rest) = after.map Section.opening := by
  have htree := isHeadingTree_ofOctets octets
  have hfound := found_ofOctets octets
  have hstop := htree.stop_of_sections_eq hb hbelow hafter
  rw [octets_ofOctets] at hstop
  rw [hb, List.map_append, List.map_cons] at hfound
  obtain ⟨aboves, line, belows, hlines, habove, hopen, hline, hnone, hrest⟩ :=
    Heading.exists_of_found_eq hfound
  obtain ⟨above, ls, hls, rfl, hbs⟩ := Line.place_eq_append_iff.1 hlines
  obtain ⟨l, ls, rfl⟩ : ∃ l ls', ls = l :: ls' := by
    cases ls with
    | nil => cases hbs
    | cons l ls => exact ⟨l, ls, rfl⟩
  obtain ⟨rfl, rfl⟩ := List.cons.inj hbs
  obtain ⟨r, hr, hse⟩ := Option.map_eq_some_iff.1 hline
  obtain ⟨hs1, hs2⟩ : above.flatten.length = s.headingStart ∧
      above.flatten.length + l.length = s.start := by
    have := congrArg (·.2.2) hse
    simpa [Section.opening] using this
  have hstart : s.start = (above ++ [l]).flatten.length := by simp [← hs2]
  have hhead : (after.map Section.opening).head?.map (·.2.2.1) = after.head?.map (·.headingStart) := by
    cases after <;> rfl
  rw [List.map_append] at hrest
  obtain ⟨content, rest, rfl, hfin, hcut⟩ := Heading.exists_cut hrest
  have hlines' : Octets.lines octets = (above ++ [l]) ++ content ++ rest := by simp [hls]
  have htotal : octets.length =
      (above ++ [l]).flatten.length + (content ++ rest).flatten.length := by
    rw [← Octets.flatten_lines octets, hlines', List.append_assoc, List.flatten_append,
      List.length_append]
  have hs2' : 0 + above.flatten.length + l.length = s.start := by omega
  rw [hs2'] at hfin hcut
  rw [hhead, hstart, ← htotal, ← hstart, ← hstop] at hcut
  have hplace : Line.place 0 (above ++ [l]) = Line.place 0 above ++
      [⟨0 + above.flatten.length, 0 + above.flatten.length + l.length, Line.textOf l⟩] := by
    rw [Line.place_append]; rfl
  refine ⟨above, l, content, rest, hlines', hs1.symm, hstart, hcut, ?_, ?_, hcut ▸ hfin⟩
  · rw [hplace, Heading.found_append, habove, hopen, Heading.found, hline, List.map_append]
    rfl
  · rw [hplace, Fence.afterAll_append, hopen]
    exact hnone

/-- **The sections of a body with another content in one of them**: those below it
    are gone, and the later ones move. -/
theorem sections_replace (hlast : (octets.slice s.headingStart s.start).getLast? = some 10)
    {new : Octets} (hnew : new = [] ∨ new.getLast? = some 10)
    (hno : (ofOctets new).sections = []) (hopen : Fence.afterAll none (Line.ofOctets new) = none) :
    (octets.take s.start).getLast? = some 10 ∧ ∃ before' s' after',
      (ofOctets (octets.replace s.start s.stop new)).sections = before' ++ s' :: after' ∧
        List.Forall₂ (Section.Moved 0) before before' ∧ s.Moved 0 s' ∧
        s'.stop = s.start + new.length ∧
        List.Forall₂ (Section.Moved (new.length - (s.stop - s.start))) after after' := by
  obtain ⟨above, l, content, rest, hlines, hs1, hs2, hs3, habove, hnone, hrest⟩ :=
    exists_lines_of_section hb hbelow hafter
  have hoctets : octets = (above ++ [l]).flatten ++ (content.flatten ++ rest.flatten) := by
    rw [← List.flatten_append, ← List.flatten_append, ← List.append_assoc, ← hlines,
      Octets.flatten_lines]
  have htake : octets.take s.start = (above ++ [l]).flatten := by
    rw [hoctets, List.take_left' hs2.symm]
  have hdrop : octets.drop s.stop = rest.flatten := by
    rw [hoctets, ← List.append_assoc, List.drop_left' (by rw [List.length_append, hs3, hs2])]
  have hend : (above ++ [l]).flatten.getLast? = some 10 := by
    rw [Octets.slice, htake, hs1, List.flatten_append, List.drop_left, List.flatten_singleton] at hlast
    simp [hlast]
  have hnewcut : Octets.CutsLines new rest.flatten :=
    hnew.elim Or.inl fun h => Or.inr (Or.inr (Or.inl h))
  have hlines' : Octets.lines (octets.replace s.start s.stop new) =
      (above ++ [l]) ++ (Octets.lines new ++ rest) := by
    rw [Octets.replace, htake, hdrop, List.append_assoc,
      Octets.lines_append (Or.inr (Or.inr (Or.inl hend))), Octets.lines_append hnewcut,
      Octets.lines_flatten_of_lines_eq_append hlines, Octets.lines_flatten_of_lines_eq
        (hlines.trans (List.append_assoc ..))]
  have hnone' : Heading.found none (Line.place s.start (Octets.lines new)) = [] := by
    rw [← Nat.zero_add s.start, Heading.found_place, ← Line.ofOctets, found_ofOctets, hno]
    rfl
  have hopen' : Fence.afterAll none (Line.place s.start (Octets.lines new)) = none := by
    rw [Heading.afterAll_place none s.start 0]
    exact hopen
  have hfound := found_ofOctets (octets.replace s.start s.stop new)
  rw [Line.ofOctets, hlines', Line.place_append 0 (above ++ [l]), Nat.zero_add, ← hs2,
    Line.place_append s.start (Octets.lines new), Octets.flatten_lines, Heading.found_append, hnone,
    Heading.found_append, hopen', hnone', habove, List.nil_append, Heading.found_place,
    List.map_append, List.append_assoc] at hfound
  obtain ⟨before', ss, hb', hbefore, hss⟩ := List.map_eq_append_iff.1 hfound.symm
  obtain ⟨s', after', rfl, hs', hafter'⟩ := List.map_eq_cons_iff.1 hss
  rw [hs3, Heading.found_place] at hrest
  have hmoved := Section.forall₂_moved hrest.symm hafter'
  have hby : (new.length : Int) - content.flatten.length = new.length - (s.stop - s.start) := by
    omega
  rw [hby] at hmoved
  have hbefore' : List.Forall₂ (Section.Moved 0) before before' :=
    Section.forall₂_moved (m := 0) (n := 0) (by rw [Heading.shift_zero, List.map_id])
      (by rw [Heading.shift_zero, List.map_id, hbefore])
  have hs'moved := Section.moved_zero hs'
  have hafterlevel : ∀ e ∈ after'.head?, e.level ≤ s'.level := by
    intro e he
    cases hmoved with
    | nil => cases he
    | cons hm _ =>
      obtain rfl := Option.some.inj he
      rw [hm.level, hs'moved.level]
      exact hafter _ rfl
  have hstop := (isHeadingTree_ofOctets octets).stop_of_sections_eq hb hbelow hafter
  have hbelow' : ∀ e ∈ ([] : List Section), s'.level < e.level := fun e he => absurd he List.not_mem_nil
  have hstop' := (isHeadingTree_ofOctets (octets.replace s.start s.stop new)).stop_of_sections_eq
    hb' hbelow' hafterlevel
  have hlen : (octets.replace s.start s.stop new).length = s.start + new.length + rest.flatten.length := by
    rw [Octets.replace, htake, hdrop, List.length_append, List.length_append, hs2]
  have hlen' : octets.length = s.stop + rest.flatten.length := by
    rw [hoctets, List.length_append, List.length_append, hs3, hs2, Nat.add_assoc]
  refine ⟨htake ▸ hend, before', s', after', hb', hbefore', hs'moved, ?_, hmoved⟩
  rw [octets_ofOctets] at hstop hstop'
  cases hmoved with
  | nil =>
    change s.stop = octets.length at hstop
    rw [hstop']
    change (octets.replace s.start s.stop new).length = _
    omega
  | cons hm _ =>
    have hh := hm.headingStart
    rw [hstop']
    change s.stop = _ at hstop
    change _ = _
    simp only [List.head?_cons, Option.map_some, Option.getD_some] at hstop ⊢
    omega

end

end Body

/-! ## Documents -/

namespace Header
variable {raw a b c : Octets}

/-- Without a header no marker line comes first. -/
theorem split_eq_none_iff : split raw = ⟨none, markLength raw, none⟩ ↔
    ∀ first ∈ (Octets.lines (raw.drop (markLength raw))).head?, opens first = false := by
  simp only [split]
  rw [← markLength]
  cases Octets.lines (raw.drop (markLength raw)) with
  | nil => simp
  | cons first rest =>
    simp only [List.head?_cons, Option.mem_some_iff, forall_eq', Bool.not_eq_true']
    constructor
    · intro h
      by_contra ho
      rw [if_neg ho] at h
      split at h <;> cases h
    · exact fun ho => if_pos ho

/-- A line end is no part of a byte order mark. -/
theorem markLength_of_last (ha : a.getLast? = some 10) : markLength (a ++ c) = markLength a := by
  rcases Nat.lt_or_ge a.length 3 with hlt | hge
  · match a, hlt with
    | [x], _ =>
      obtain rfl : x = 10 := by simpa using ha
      rfl
    | [x, y], _ =>
      obtain rfl : y = 10 := by simpa using ha
      simp [markLength, byteOrderMark, List.isPrefixOf]
  · exact markLength_append hge

theorem markLength_cases (raw : Octets) :
    (markLength raw = 3 ∧ raw.take 3 = byteOrderMark) ∨ markLength raw = 0 := by
  unfold markLength
  split
  · next h =>
    obtain ⟨rest, rfl⟩ := List.isPrefixOf_iff_prefix.1 h
    exact Or.inl ⟨rfl, rfl⟩
  · exact Or.inr rfl

/-- A file without a header has none either with another end, as long as its first
    line stays. -/
theorem split_eq_none_append (ha : a.getLast? = some 10) (hraw : raw.drop (markLength raw) = a ++ b)
    (h : split raw = ⟨none, markLength raw, none⟩) :
    split (raw.take (markLength raw) ++ (a ++ c)) = ⟨none, markLength raw, none⟩ := by
  have hmark : markLength (raw.take (markLength raw) ++ (a ++ c)) = markLength raw ∧
      (raw.take (markLength raw)).length = markLength raw := by
    rcases markLength_cases raw with ⟨hm, ht⟩ | hm
    · rw [hm, ht]; exact ⟨rfl, rfl⟩
    · rw [hm] at hraw ⊢
      refine ⟨?_, rfl⟩
      rw [List.take_zero, List.nil_append, markLength_of_last ha, ← hm,
        ← List.drop_zero (l := raw), hraw, markLength_of_last ha]
  have hcut : ∀ c, Octets.CutsLines a c := fun c => Or.inr (Or.inr (Or.inl ha))
  have hne : Octets.lines a ≠ [] := fun he => by rw [Octets.lines_eq_nil.1 he] at ha; cases ha
  rw [split_eq_none_iff, hraw, Octets.lines_append (hcut b)] at h
  have hiff := @split_eq_none_iff (raw.take (markLength raw) ++ (a ++ c))
  rw [hmark.1, List.drop_left' hmark.2, Octets.lines_append (hcut c)] at hiff
  obtain ⟨first, rest, he⟩ := List.exists_cons_of_ne_nil hne
  rw [he] at h hiff
  exact hiff.2 h

end Header

namespace Document
variable {raw : Octets} {path : Option String} {d : Document}

/-- A document whose body starts with the same lines keeps its header. -/
theorem parse_of_same_start (h : parse raw path = .ok d) (he : d.headerError = none) {a b : Octets}
    (hb : d.body.octets = a ++ b) (ha : a.getLast? = some 10) (c : Octets) :
    ∃ d', d.reread (d.raw.take d.bodyOffset ++ (a ++ c)) = .ok d' ∧ SameHeader d d' ∧
      d'.body = Body.ofOctets (a ++ c) := by
  have hne : a ≠ [] := fun he => by rw [he] at ha; cases ha
  cases hh : d.hasHeader with
  | true =>
    obtain ⟨header, hs, hlen, hok, -⟩ := split_of_hasHeader h hh
    have hc : Octets.CutsLines (d.raw.take d.bodyOffset) (a ++ c) := by
      have hcut := Header.cutsLines_of_split hs
      rw [hb] at hcut
      obtain ⟨x, a, rfl⟩ := List.exists_cons_of_ne_nil hne
      simpa [Octets.CutsLines] using hcut
    have hs' := (Header.split_append_iff hs).2 hc
    have hp : parse (d.raw.take d.bodyOffset ++ (a ++ c)) d.path = .ok ⟨d.path,
        d.raw.take d.bodyOffset ++ (a ++ c), d.header, true, d.headerError, d.bodyOffset,
        Body.ofOctets (a ++ c)⟩ := by
      refine parse_eq_ok_iff.2 ⟨d.header, d.headerError, by rw [hs', hlen]; exact hok, ?_⟩
      simp only [hs', hlen, List.drop_left' hlen, Option.isSome_some]
    rw [reread, hp]
    exact ⟨_, rfl, ⟨rfl, rfl, hh.symm, rfl, rfl⟩, rfl⟩
  | false =>
    obtain ⟨es, e, hok, rfl⟩ := parse_eq_ok_iff.1 h
    change e = none at he
    subst he
    rcases Header.split_cases raw with hs | ⟨hs, -⟩ | ⟨octets, offset, hs⟩
    · rw [hs] at hok hb ⊢
      cases hok
      have hlen : (raw.take (Header.markLength raw)).length = Header.markLength raw := by
        rcases Header.markLength_cases raw with ⟨hm, ht⟩ | hm
        · rw [hm, ht]; rfl
        · rw [hm]; rfl
      have hs' := Header.split_eq_none_append (c := c) ha hb hs
      have hp : parse (raw.take (Header.markLength raw) ++ (a ++ c)) path = .ok ⟨path,
          raw.take (Header.markLength raw) ++ (a ++ c), [], false, none, Header.markLength raw,
          Body.ofOctets (a ++ c)⟩ := by
        refine parse_eq_ok_iff.2 ⟨[], none, by rw [hs']; rfl, ?_⟩
        simp only [hs', List.drop_left' hlen, Option.isSome_none]
      rw [reread, hp]
      exact ⟨_, rfl, ⟨rfl, rfl, rfl, rfl, rfl⟩, rfl⟩
    · rw [hs] at hok; cases hok
    · rw [hs] at hh; cases hh

/-- **Replacing the content of a section.**  The header stays, the sections below it
    are gone, the earlier ones stay where they are and the later ones move. -/
theorem content_splice (h : parse raw path = .ok d) (he : d.headerError = none) {i : Nat} {s : Section}
    (hs : d.sections[i]? = some s)
    (hlast : (d.body.octets.slice s.headingStart s.start).getLast? = some 10) {new : Octets}
    (hnew : new = [] ∨ new.getLast? = some 10) (hno : (Body.ofOctets new).sections = [])
    (hopen : Fence.afterAll none (Line.ofOctets new) = none) :
    ∃ d', d.splice s.start s.stop new = .ok d' ∧ SameHeader d d' ∧
      d'.body.octets = d.body.octets.replace s.start s.stop new ∧
      ∃ before below after before' s' after',
        d.sections = before ++ s :: (below ++ after) ∧ before.length = i ∧
        (∀ j, d.body.Below i j ↔ i < j ∧ j ≤ i + below.length) ∧
        d'.sections = before' ++ s' :: after' ∧
        List.Forall₂ (Section.Moved 0) before before' ∧ s.Moved 0 s' ∧
        s'.stop = s.start + new.length ∧
        List.Forall₂ (Section.Moved (new.length - (s.stop - s.start))) after after' := by
  obtain ⟨octets, hbody⟩ : ∃ octets, d.body = Body.ofOctets octets := by
    obtain ⟨es, e, -, rfl⟩ := parse_eq_ok_iff.1 h
    exact ⟨_, rfl⟩
  have htree : d.body.IsHeadingTree := hbody ▸ Body.isHeadingTree_ofOctets octets
  obtain ⟨-, hle, hstop⟩ := htree.bounds s (List.mem_of_getElem? hs)
  obtain ⟨hi, hsi⟩ := List.getElem?_eq_some_iff.1 hs
  -- what is below the section are the later sections up to one of no lower level
  have hsections : d.body.sections = d.sections.take i ++ s ::
      ((d.sections.drop (i + 1)).takeWhile (s.level < ·.level) ++
        (d.sections.drop (i + 1)).dropWhile (s.level < ·.level)) := by
    rw [List.takeWhile_append_dropWhile, ← hsi, List.getElem_cons_drop, List.take_append_drop]
    rfl
  generalize hbefore : d.sections.take i = before at hsections
  generalize hbelow : (d.sections.drop (i + 1)).takeWhile (s.level < ·.level) = below at hsections
  generalize hafter : (d.sections.drop (i + 1)).dropWhile (s.level < ·.level) = after at hsections
  have hlen : before.length = i := by
    rw [← hbefore, List.length_take_of_le (Nat.le_of_lt hi)]
  have hlower : ∀ e ∈ below, s.level < e.level := fun e hm =>
    of_decide_eq_true (List.all_eq_true.1 List.all_takeWhile e (hbelow ▸ hm))
  have hnext : ∀ e ∈ after.head?, e.level ≤ s.level := fun e hm => by
    have hp := List.head?_dropWhile_not (fun e : Section => decide (s.level < e.level))
      (d.sections.drop (i + 1))
    rw [hafter, Option.mem_def.1 hm] at hp
    simpa using hp
  have hoctets : octets = d.body.octets := by rw [hbody, Body.octets_ofOctets]
  subst hoctets
  have hsections' : (Body.ofOctets d.body.octets).sections = before ++ s :: (below ++ after) :=
    hbody ▸ hsections
  obtain ⟨hcut, before', s', after', hs', hmoved⟩ :=
    Body.sections_replace hsections' hlower hnext hlast hnew hno hopen
  obtain ⟨d', hd', hsame, hbody'⟩ := parse_of_same_start h he
    (List.take_append_drop s.start d.body.octets).symm hcut (new ++ d.body.octets.drop s.stop)
  have hreplace : d.body.octets.take s.start ++ (new ++ d.body.octets.drop s.stop) =
      d.body.octets.replace s.start s.stop new := (List.append_assoc ..).symm
  have hsplice : d.splice s.start s.stop new = .ok d' := by
    rw [splice, if_pos ⟨by omega, by omega, by omega⟩, Int.toNat_natCast, Int.toNat_natCast,
      List.append_assoc]
    exact hd'
  rw [hreplace] at hbody'
  refine ⟨d', hsplice, hsame, by rw [hbody', Body.octets_ofOctets], before, below, after,
    before', s', after', hsections, hlen, fun j => ?_, ?_, hmoved⟩
  · rw [← hlen]
    exact htree.below_iff hsections hlower hnext
  · rw [Document.sections, hbody']
    exact hs'


/-- Not even a table that is cut off takes the next heading for a row. -/
theorem content_splice_table :
    ∃ d, parse (Utf8.ofString "---\na: 1\n---\n# A\n## B\nx\n# |C|\n") none = .ok d ∧
      d.headerError = none ∧ ∃ s, d.sections[0]? = some s ∧
      (d.body.octets.slice s.headingStart s.start).getLast? = some 10 ∧
      (Body.ofOctets (Utf8.ofString "|x|\n|-|\n")).sections = [] ∧
      Fence.afterAll none (Line.ofOctets (Utf8.ofString "|x|\n|-|\n")) = none ∧
      ∃ d', d.splice s.start s.stop (Utf8.ofString "|x|\n|-|\n") = .ok d' ∧ SameHeader d d' ∧
        d'.sections.map (fun s => (s.heading, s.start, s.stop)) = [("A", 4, 12), ("|C|", 18, 18)] := by
  have hparse : (parse (Utf8.ofString "---\na: 1\n---\n# A\n## B\nx\n# |C|\n") none).map
      (fun d => (d.headerError, d.body.octets)) =
      .ok (none, Utf8.ofString "# A\n## B\nx\n# |C|\n") := by decide +kernel
  have hsplice : ((parse (Utf8.ofString "---\na: 1\n---\n# A\n## B\nx\n# |C|\n") none).toOption.bind
      fun d => (d.splice 4 11 (Utf8.ofString "|x|\n|-|\n")).toOption.map fun d' =>
        (d.sections.map fun s => (s.headingStart, s.start, s.stop),
          d'.sections.map fun s => (s.heading, s.start, s.stop))) =
      some ([(0, 4, 11), (4, 9, 11), (11, 17, 17)], [("A", 4, 12), ("|C|", 18, 18)]) := by
    decide +kernel
  obtain ⟨d, hp, hparts⟩ := map_eq_ok_iff.1 hparse
  obtain ⟨he, ho⟩ := Prod.mk.inj hparts
  obtain ⟨_, d', hp', hd', hplaces⟩ := exists_of_computed hsplice
  obtain ⟨hss, hsections⟩ := Prod.mk.inj hplaces
  obtain rfl := Except.ok.inj (hp.symm.trans hp')
  obtain ⟨s, ss, hs, hplace, -⟩ := List.map_eq_cons_iff.1 hss
  obtain ⟨h1, h2, h3⟩ : s.headingStart = 0 ∧ s.start = 4 ∧ s.stop = 11 := by simpa using hplace
  have hget : d.sections[0]? = some s := by rw [hs]; rfl
  have hlast : (d.body.octets.slice s.headingStart s.start).getLast? = some 10 := by
    rw [ho, h1, h2]; decide
  have hno : (Body.ofOctets (Utf8.ofString "|x|\n|-|\n")).sections = [] := by decide +kernel
  have hopen : Fence.afterAll none (Line.ofOctets (Utf8.ofString "|x|\n|-|\n")) = none := by
    decide +kernel
  obtain ⟨d'', hd'', hsame, -⟩ :=
    content_splice hp he hget hlast (Or.inr (by decide)) hno hopen
  rw [h2, h3] at hd''
  obtain rfl := Except.ok.inj (hd''.symm.trans hd')
  exact ⟨d, hp, he, s, hget, hlast, hno, hopen, d'', by rw [h2, h3]; exact hd'', hsame, hsections⟩

end Document

end Folio
