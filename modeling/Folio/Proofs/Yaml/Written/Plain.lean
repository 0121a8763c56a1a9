/-
  Folio — plain scalars are written.

  A plain scalar is words with spaces between them.  A number sign starts none of the
  words and a colon ends none, and what is true of the whole text in this way is true
  of what comes after a gap (`Unmarked`), so the words are written one after another.

  * `Render.exists_plain`: what is written without quotes;
  * `Plain.plainStart`: it may stand where a scalar starts.
-/
import Folio.Proofs.Yaml.Layout
import Folio.Proofs.Yaml.Written.Single

namespace Folio.Yaml

/-! ## Texts that can be plain -/

/-- A text in which no sign means something, its start apart. -/
structure Unmarked (cs : List Char) : Prop where
  ordinary : ∀ c ∈ cs, Look.isOrdinary c = true
  line : ∀ c ∈ cs, isInnerBreak c = false
  comment : ∀ as bs, cs = as ++ '#' :: bs → as ≠ [] ∧ as.getLast? ≠ some ' '
  colon : ∀ as bs, cs = as ++ ':' :: bs → bs ≠ [] ∧ bs.head? ≠ some ' '
  last : cs.getLast? ≠ some ' '

namespace Unmarked
variable {w cs : List Char}

/-- What comes after a gap. -/
theorem after (h : Unmarked (w ++ ' ' :: cs)) (hcs : cs ≠ []) : Unmarked cs where
  ordinary c hc := h.ordinary c (by simp [hc])
  line c hc := h.line c (by simp [hc])
  comment as bs he := by
    have hlast := (h.comment (w ++ ' ' :: as) bs (by simp [he])).2
    rcases List.eq_nil_or_concat' as with rfl | ⟨as, a, rfl⟩
    · simp at hlast
    · refine ⟨by simp, ?_⟩
      rw [List.getLast?_concat]
      rwa [← List.cons_append, ← List.append_assoc, List.getLast?_concat] at hlast
  colon as bs he := h.colon (w ++ ' ' :: as) bs (by simp [he])
  last := by
    have hlast := h.last
    obtain ⟨c, hc⟩ := Option.ne_none_iff_exists'.1 (mt List.getLast?_eq_none_iff.1 hcs)
    simpa [List.getLast?_append, List.getLast?_cons, hc] using hlast

/-- The first word. -/
theorem isWord {k : List Char} (h : Unmarked (w ++ k)) (hw : Render.IsRun .word w)
    (hk : k = [] ∨ k.head? = some ' ') : IsWord w where
  solid x hx := Render.atBlank_of_word (hw.kind x hx) (h.ordinary x (List.mem_append_left _ hx))
  ne_nil := hw.ne_nil
  first he := by
    obtain ⟨r, rfl⟩ := List.head?_eq_some_iff.1 he
    exact (h.comment [] (r ++ k) rfl).1 rfl
  last he := by
    obtain ⟨as, rfl⟩ := List.getLast?_eq_some_iff.1 he
    obtain ⟨h1, h2⟩ := h.colon as k (by simp)
    exact hk.elim h1 h2
  shown x hx := Render.isAcceptable_of_isOrdinary (h.ordinary x (List.mem_append_left _ hx))

end Unmarked

namespace Look
variable {cs : List Char}

theorem of_blankAt {f : Option Char} (h : blankAt f = false) : f ≠ none ∧ f ≠ some ' ' := by
  constructor <;> rintro rfl <;> exact absurd h (by decide)

/-- A text that can stand without quotes: its start and what is after it. -/
theorem of_plain (hne : cs ≠ []) (h : (ofText cs).plain = true) :
    startsWithIndicator cs = false ∧ Unmarked cs ∧ ∀ x ∈ cs.head?, x ≠ ' ' := by
  obtain ⟨c, cs, rfl⟩ := List.exists_cons_of_ne_nil hne
  simp only [ofText, Bool.not_eq_true', Bool.or_eq_false_iff, beq_eq_false_iff_ne] at h
  obtain ⟨⟨⟨⟨⟨⟨⟨hfirst, hlast⟩, -⟩, -⟩, hspecial⟩, hbreaks⟩, hstart⟩, hsign⟩ := h
  refine ⟨hstart, ⟨fun x hx => ?_, fun x hx => ?_, fun as bs he => ?_, fun as bs he => ?_, ?_⟩, ?_⟩
  · simpa using List.any_eq_false.1 hspecial x hx
  · simpa using List.any_eq_false.1 hbreaks x hx
  · cases as with
    | nil =>
      obtain ⟨rfl, -⟩ := List.cons.inj he
      exact absurd hstart (by simp [startsWithIndicator])
    | cons a as =>
      obtain ⟨rfl, rfl⟩ := List.cons.inj he
      have hbefore := (of_blankAt ((not_indicator hsign).2 rfl)).2
      refine ⟨List.cons_ne_nil _ _, ?_⟩
      rwa [List.getLast?_cons]
  · have hafter : blankAt bs.head? = false := by
      cases as with
      | nil =>
        obtain ⟨rfl, rfl⟩ := List.cons.inj he
        simp only [startsWithIndicator, Bool.or_eq_false_iff, Bool.and_eq_false_imp] at hstart
        exact hstart.1.1.2 (by decide)
      | cons a as =>
        obtain ⟨rfl, rfl⟩ := List.cons.inj he
        exact (not_indicator hsign).1 rfl
    have := of_blankAt hafter
    exact ⟨fun h => this.1 (by rw [h]; rfl), this.2⟩
  · intro he
    rw [he] at hlast
    exact hlast.1 rfl
  · intro x hx
    obtain rfl := Option.some.inj hx
    exact hfirst.1

end Look

/-- A plain scalar starts with a word, which ends the characters or comes before a
    space. -/
theorem Plain.exists_word {n : Nat} {cs t : List Char} (h : Plain n cs t) :
    ∃ w k u, IsWord w ∧ cs = w ++ k ∧ t = w ++ u ∧ (k = [] ∨ k.head? = some ' ') ∧
      u.head? ≠ some '-' ∧ u.head? ≠ some '.' := by
  cases h with
  | word word => exact ⟨_, [], [], word, by simp, by simp, .inl rfl, by simp, by simp⟩
  | blanks k word rest =>
    exact ⟨_, _, _, word, rfl, rfl, .inr (by simp [List.replicate_succ]),
      by simp [List.replicate_succ], by simp [List.replicate_succ]⟩
  | fold word rest => exact ⟨_, _, _, word, rfl, rfl, .inr rfl, by simp [freshLine], by simp [freshLine]⟩

/-- **A plain scalar may stand where a scalar starts**, since no sign starts it. -/
theorem Plain.plainStart {n : Nat} {cs t : List Char} (h : Plain n cs t)
    (hstart : Look.startsWithIndicator cs = false) : PlainStart t := by
  obtain ⟨w, k, u, hw, rfl, rfl, hk, hu⟩ := h.exists_word
  obtain ⟨x, w, rfl⟩ := List.exists_cons_of_ne_nil hw.ne_nil
  simp only [Look.startsWithIndicator, List.cons_append, Bool.or_eq_false_iff,
    Bool.and_eq_false_imp, beq_eq_false_iff_ne] at hstart
  obtain ⟨⟨⟨hsign, halone⟩, hdashes⟩, hpoints⟩ := hstart
  refine ⟨fun y hy => ?_, fun y hy hmeant => ?_, Scalar.not_separates_append ?_ hu⟩
  · obtain rfl : x = y := by simpa using hy
    exact hsign
  · obtain rfl : x = y := by simpa using hy
    have hnext := halone (by rcases hmeant with rfl | rfl | rfl <;> rfl)
    cases w with
    | nil =>
      rcases hk with rfl | hk
      · exact absurd hnext (by decide)
      · obtain ⟨k, rfl⟩ := List.head?_eq_some_iff.1 hk
        exact absurd hnext (by simp [Look.blankAt])
    | cons y w => exact hw.solid y (by simp)
  · have htake : ∀ s, s.length = 3 → (x :: w).take 3 = s → (x :: (w ++ k)).take 3 = s := by
      rintro s hlen rfl
      rw [List.length_take] at hlen
      rw [← List.cons_append, List.take_append_of_le_length (by omega)]
    rintro (he | he)
    · exact hdashes (htake _ rfl he)
    · exact hpoints (htake _ rfl he)

/-! ## Writing -/

namespace Render
variable {split : Bool} {n : Nat}

/-- One run of a plain scalar. -/
def plainRun (split : Bool) (n : Nat) (p : Page) (run : List Char) : Page :=
  if foldsAt p split run then (p.indentTo n).inText else p.write run

theorem eq_replicate_of_isRun {g : List Char} (hg : IsRun .space g) :
    ∃ j, g = List.replicate (j + 1) ' ' := by
  obtain ⟨c, r, rfl⟩ := List.exists_cons_of_ne_nil hg.ne_nil
  exact ⟨r.length, List.eq_replicate_iff.2 ⟨rfl, fun x hx => kindOf_eq_space.1 (hg.kind x hx)⟩⟩

theorem plainRun_word {run : List Char} {p : Page} (hw : IsRun .word run) :
    plainRun split n p run = p.write run := by
  refine if_neg fun h => ?_
  simp only [foldsAt, Bool.and_eq_true, beq_iff_eq] at h
  have := hw.kind ' ' (by simp [h.1.2])
  exact absurd this (by decide)

/-- **What is written without quotes.** -/
theorem exists_plain (split : Bool) (n : Nat) : ∀ (rs : List (List Char)), rs ≠ [] →
    Alternate true rs → Unmarked rs.flatten → ∀ {p : Page}, p.indenting = false →
      ∃ t, (rs.foldl (plainRun split n) p).text = t.reverse ++ p.text ∧
        (rs.foldl (plainRun split n) p).indenting = false ∧ Plain n rs.flatten t ∧
        (split = false → t = rs.flatten)
  | [], hne, _, _, _, _ => absurd rfl hne
  | [w], _, .word hw _, hcs, p, hp => by
    refine ⟨w, ?_, ?_, ?_, fun _ => by simp⟩
    · rw [List.foldl_cons, plainRun_word hw]; rfl
    · rw [List.foldl_cons, plainRun_word hw]; exact hp
    · have hword : Unmarked (w ++ []) := by simpa using hcs
      simpa using Plain.word (n := n) (hword.isWord hw (.inl rfl))
  | w :: g :: rest, _, .word hw (.gap (k := k) hk hg others), hcs, p, hp => by
    rw [List.flatten_cons, List.flatten_cons] at hcs
    -- a gap without line ends is spaces
    obtain rfl : k = .space := by
      obtain ⟨c, r, rfl⟩ := List.exists_cons_of_ne_nil hg.ne_nil
      have hc := hcs.line c (by simp)
      have hkind := hg.kind c List.mem_cons_self
      cases k with
      | space => rfl
      | word => exact absurd rfl hk
      | lineEnd => rw [kindOf_eq_lineEnd.1 hkind] at hc; cases hc
    obtain ⟨j, rfl⟩ := eq_replicate_of_isRun hg
    have hfirst : IsWord w := hcs.isWord hw (.inr (by simp [List.replicate_succ]))
    have hrest : rest.flatten ≠ [] := by
      intro he
      have := hcs.last
      rw [he, List.append_nil, List.replicate_succ', ← List.append_assoc, List.getLast?_concat] at this
      exact this rfl
    have hafter : Unmarked rest.flatten := by
      rw [List.replicate_succ', List.append_assoc, List.singleton_append, ← List.append_assoc] at hcs
      exact hcs.after hrest
    have hne : rest ≠ [] := by rintro rfl; exact hrest rfl
    rw [List.foldl_cons, List.foldl_cons, plainRun_word hw, List.flatten_cons, List.flatten_cons]
    have hline : (p.write w).indenting = false := hp
    by_cases hfold : foldsAt (p.write w) split (List.replicate (j + 1) ' ') = true
    · obtain ⟨hs, hj⟩ : split = true ∧ List.replicate (j + 1) ' ' = [' '] := by
        simp only [foldsAt, Bool.and_eq_true, beq_iff_eq] at hfold
        exact hfold.1
      obtain ⟨t, h1, h2, h3, -⟩ := exists_plain split n rest hne others hafter
        (p := ((p.write w).indentTo n).inText) rfl
      rw [plainRun, if_pos hfold, hj]
      refine ⟨w ++ (freshLine n ++ t), ?_, h2, .fold hfirst h3, fun h => absurd (hs.symm.trans h) (by decide)⟩
      rw [h1, Page.indentTo_of_isPast (.inl hline)]
      simp [Page.inText]
    · obtain ⟨t, h1, h2, h3, h4⟩ := exists_plain split n rest hne others hafter
        (p := (p.write w).write (List.replicate (j + 1) ' ')) hline
      rw [plainRun, if_neg hfold]
      refine ⟨w ++ (List.replicate (j + 1) ' ' ++ t), ?_, h2, .blanks j hfirst h3, fun h => by rw [h4 h]⟩
      rw [h1]
      simp

end Render

end Folio.Yaml
