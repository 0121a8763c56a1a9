/-
  Folio — scalars are written between single quotes.

  A scalar without double quotes is written in runs of spaces, line ends and other
  characters.  Spaces next to line ends would need double quotes, so every other run
  is a word.  Words are written with their quotes doubled, a single space may be folded
  onto a fresh line, and line ends stand doubled if the first is an ordinary one.

  * `Render.exists_alternate`: the runs of a text without spaces next to line ends;
  * `Render.exists_single`: what is written between single quotes.
-/
import Folio.Proofs.Yaml.Page
import Folio.Proofs.Yaml.Quoted
import Folio.Proofs.Yaml.Written.Line

namespace Folio.Yaml

/-! ## What a look tells -/

namespace Look
variable {p q : Char → Bool} {before x y : Char} {cs as bs : List Char}

theorem not_pair (h : hasPair p q (as ++ x :: y :: bs) = false) (hx : p x = true) : q y = false := by
  induction as with
  | nil =>
    rw [List.nil_append, hasPair, hx, Bool.true_and, Bool.or_eq_false_iff] at h
    exact h.1
  | cons a as ih =>
    refine ih ?_
    cases as with
    | nil =>
      rw [List.cons_append, List.nil_append, hasPair, Bool.or_eq_false_iff] at h
      exact h.2
    | cons b as =>
      rw [List.cons_append, List.cons_append, hasPair, Bool.or_eq_false_iff] at h
      exact h.2

/-- A colon comes before no blank, and a number sign after none. -/
theorem not_indicator (h : hasIndicator before (as ++ x :: bs) = false) :
    (x = ':' → blankAt bs.head? = false) ∧ (x = '#' → blankAt (some (as.getLast?.getD before)) = false) := by
  induction as generalizing before with
  | nil =>
    simp only [List.nil_append, hasIndicator, Bool.or_eq_false_iff, Bool.and_eq_false_imp,
      beq_iff_eq] at h
    exact h.1
  | cons a as ih =>
    rw [List.cons_append, hasIndicator, Bool.or_eq_false_iff] at h
    obtain ⟨h₁, h₂⟩ := ih h.2
    refine ⟨h₁, ?_⟩
    rwa [List.getLast?_cons]

/-- A text that can stand between single quotes. -/
theorem of_singleQuoted (h : (ofText cs).singleQuoted = true) :
    hasPair isInnerBreak (fun c => c == ' ') cs = false ∧
      hasPair (fun c => c == ' ') isInnerBreak cs = false ∧ ∀ c ∈ cs, isOrdinary c = true := by
  cases cs with
  | nil => exact ⟨rfl, rfl, by simp⟩
  | cons c cs =>
    simp only [ofText, Bool.not_eq_true', Bool.or_eq_false_iff] at h
    exact ⟨h.1.1, h.1.2, fun x hx => by simpa using List.any_eq_false.1 h.2 x hx⟩

theorem singleQuoted_of_plain (h : (ofText cs).plain = true) : (ofText cs).singleQuoted = true := by
  cases cs with
  | nil => rfl
  | cons c cs =>
    simp only [ofText, Bool.not_eq_true', Bool.or_eq_false_iff] at h ⊢
    exact ⟨⟨h.1.1.1.1.1.2, h.1.1.1.1.2⟩, h.1.1.1.2⟩

theorem line_of_multiline (h : (ofText cs).multiline = false) : ∀ c ∈ cs, isInnerBreak c = false := by
  cases cs with
  | nil => simp
  | cons c cs => exact fun x hx => by simpa using List.any_eq_false.1 h x hx

end Look

namespace Render

/-- A run of characters of a kind. -/
structure IsRun (k : CharKind) (run : List Char) : Prop where
  ne_nil : run ≠ []
  kind : ∀ c ∈ run, kindOf c = k

/-- Every other run is a word; `word` says whether the first one is. -/
inductive Alternate : (word : Bool) → List (List Char) → Prop where
  | nil (word : Bool) : Alternate word []
  | word {run : List Char} {rest : List (List Char)} (isRun : IsRun .word run)
      (others : Alternate false rest) : Alternate true (run :: rest)
  | gap {k : CharKind} {run : List Char} {rest : List (List Char)} (isGap : k ≠ .word)
      (isRun : IsRun k run) (others : Alternate true rest) : Alternate false (run :: rest)

/-- Runs of which the first starts with a word character. -/
theorem Alternate.word_of_head {word : Bool} {rs : List (List Char)} (h : Alternate word rs)
    (hne : rs ≠ []) (hhead : ∀ c ∈ rs.flatten.head?, kindOf c = .word) : word = true := by
  cases h with
  | nil => exact absurd rfl hne
  | word => rfl
  | @gap k run rest isGap isRun _ =>
    obtain ⟨c, run, rfl⟩ := List.exists_cons_of_ne_nil isRun.ne_nil
    exact absurd ((isRun.kind c List.mem_cons_self).symm.trans (hhead c rfl)) isGap

theorem flatten_runs (cs : List Char) : (runs cs).flatten = cs := List.flatten_splitBy ..

theorem runs_ne_nil {cs : List Char} (h : cs ≠ []) : runs cs ≠ [] := fun he => h (by
  rw [← flatten_runs cs, he]
  rfl)

theorem isRun_of_mem_runs {cs run : List Char} (h : run ∈ runs cs) : ∃ k, IsRun k run := by
  have hne := List.ne_nil_of_mem_splitBy h
  obtain ⟨c, rest, rfl⟩ := List.exists_cons_of_ne_nil hne
  exact ⟨kindOf c, hne, fun d hd => kind_eq_of_mem_splitBy h hd⟩

theorem kindOf_eq_space {c : Char} : kindOf c = .space ↔ c = ' ' := by
  rw [kindOf]
  split
  · simp_all
  · split <;> simp_all

theorem kindOf_eq_lineEnd {c : Char} : kindOf c = .lineEnd ↔ isInnerBreak c = true := by
  rw [kindOf]
  split
  · rename_i h
    obtain rfl := beq_iff_eq.1 h
    simp [isInnerBreak]
  · split <;> simp_all

theorem kindOf_eq_word {c : Char} : kindOf c = .word ↔ c ≠ ' ' ∧ isInnerBreak c = false := by
  rw [kindOf]
  split
  · simp_all
  · split <;> simp_all

/-- Runs of which none of spaces is next to one of line ends. -/
theorem alternate_of_isChain {rs : List (List Char)} (hruns : ∀ r ∈ rs, ∃ k, IsRun k r)
    (hchain : rs.IsChain fun a b => ∃ ha hb, (kindOf (a.getLast ha) == kindOf (b.head hb)) = false)
    (hpair : ∀ as x y bs, rs.flatten = as ++ x :: y :: bs → kindOf x ≠ kindOf y →
      kindOf x = .word ∨ kindOf y = .word) : ∃ word, Alternate word rs := by
  induction rs with
  | nil => exact ⟨true, .nil true⟩
  | cons r rs ih =>
    obtain ⟨k, hr⟩ := hruns r List.mem_cons_self
    obtain ⟨w, hw⟩ := ih (fun s hs => hruns s (List.mem_cons_of_mem _ hs)) hchain.tail
      fun as x y bs h => hpair (r ++ as) x y bs (by rw [List.flatten_cons, h, List.append_assoc])
    cases rs with
    | nil =>
      by_cases hk : k = .word
      · subst hk
        exact ⟨true, .word hr (.nil false)⟩
      · exact ⟨false, .gap hk hr (.nil true)⟩
    | cons s rs =>
      obtain ⟨ha, hb, hne⟩ := List.isChain_cons_cons.1 hchain |>.1
      have hlast : kindOf (r.getLast ha) = k := hr.kind _ (List.getLast_mem ha)
      have hne : kindOf (r.getLast ha) ≠ kindOf (s.head hb) := by simpa using hne
      have hpair := hpair (r.dropLast) (r.getLast ha) (s.head hb) (s.tail ++ rs.flatten) (by
        calc r ++ (s ++ rs.flatten)
            = r.dropLast ++ [r.getLast ha] ++ (s.head hb :: s.tail ++ rs.flatten) := by
              rw [List.dropLast_append_getLast ha, List.cons_head_tail hb]
          _ = r.dropLast ++ r.getLast ha :: s.head hb :: (s.tail ++ rs.flatten) := by
              rw [List.append_assoc, List.singleton_append, List.cons_append]) hne
      cases hw with
      | word hs others =>
        have hk : k ≠ .word := by
          rw [← hlast, ← hs.kind _ (List.head_mem hb)]
          exact hne
        exact ⟨false, .gap hk hr (.word hs others)⟩
      | gap isGap hs others =>
        rw [hlast, hs.kind _ (List.head_mem hb)] at hpair
        obtain rfl := hpair.resolve_right isGap
        exact ⟨true, .word hr (.gap isGap hs others)⟩

/-- **The runs of a text** in which no space is next to a line end. -/
theorem exists_alternate {cs : List Char}
    (hbs : Look.hasPair isInnerBreak (fun c => c == ' ') cs = false)
    (hsb : Look.hasPair (fun c => c == ' ') isInnerBreak cs = false) :
    ∃ word, Alternate word (runs cs) := by
  refine alternate_of_isChain (fun r => isRun_of_mem_runs)
    (List.isChain_getLast_head_splitBy (fun a b => kindOf a == kindOf b) cs) fun as x y bs h hne => ?_
  rw [runs, List.flatten_splitBy] at h
  subst h
  by_contra! hnot
  cases hx : kindOf x with
  | word => exact hnot.1 hx
  | space =>
    cases hy : kindOf y with
    | word => exact hnot.2 hy
    | space => exact hne (hx.trans hy.symm)
    | lineEnd =>
      have := Look.not_pair hsb (beq_iff_eq.2 (kindOf_eq_space.1 hx))
      rw [kindOf_eq_lineEnd.1 hy] at this
      cases this
  | lineEnd =>
    cases hy : kindOf y with
    | word => exact hnot.2 hy
    | lineEnd => exact hne (hx.trans hy.symm)
    | space =>
      have := Look.not_pair hbs (kindOf_eq_lineEnd.1 hx)
      simp [kindOf_eq_space.1 hy] at this

end Render

end Folio.Yaml

namespace Folio.Yaml.Render
variable {split sound : Bool} {n : Nat} {c : Char} {cs t : List Char}

/-! ## Words -/

theorem isAcceptable_of_isOrdinary (h : Look.isOrdinary c = true) : isAcceptable c = true := by
  simp only [Look.isOrdinary, Bool.or_eq_true, Bool.and_eq_true, decide_eq_true_eq, beq_iff_eq] at h
  simp only [isAcceptable, Bool.or_eq_true, Bool.and_eq_true, decide_eq_true_eq, beq_iff_eq]
  rcases h with (rfl | h) | ⟨((h | h) | h) | h, -⟩
  · decide
  all_goals omega

/-- A character of a word is no white space. -/
theorem atBlank_of_word (hc : kindOf c = .word) (ho : Look.isOrdinary c = true) :
    Cursor.atBlank (some c) = false := by
  obtain ⟨hs, hb⟩ := kindOf_eq_word.1 hc
  have ht : c ≠ '\t' := by rintro rfl; exact absurd ho (by decide)
  have hr : c ≠ '\r' := by rintro rfl; exact absurd ho (by decide)
  simp only [isInnerBreak, Bool.or_eq_false_iff, beq_eq_false_iff_ne] at hb
  simp [Cursor.atBlank, isBreak, hs, ht, hr, hb]

/-- How a character is written on a line between single quotes. -/
def doubled (c : Char) : List Char := if c == '\'' then ['\'', '\''] else [c]

theorem quoted_doubled (hc : kindOf c = .word) (ho : Look.isOrdinary c = true)
    (h : Quoted false sound n cs t) : Quoted false sound n (c :: cs) (doubled c ++ t) := by
  rw [doubled]
  split
  · rename_i hq
    obtain rfl := beq_iff_eq.1 hq
    exact .doubled rfl h
  · rename_i hq
    by_cases hf : c = '"' ∨ c = '\\'
    · exact .foreign hf h
    · rw [not_or] at hf
      refine .bare ?_ (isAcceptable_of_isOrdinary ho) h
      simp only [beq_iff_eq] at hq
      simp [Scalar.isQuotedSpecial, hq, hf, atBlank_of_word hc ho]

theorem quoted_word {w : List Char} (hw : ∀ c ∈ w, kindOf c = .word)
    (ho : ∀ c ∈ w, Look.isOrdinary c = true) (h : Quoted false sound n cs t) :
    Quoted false sound n (w ++ cs) (w.flatMap doubled ++ t) := by
  induction w with
  | nil => exact h
  | cons c w ih =>
    rw [List.flatMap_cons, List.append_assoc]
    exact quoted_doubled (hw c List.mem_cons_self) (ho c List.mem_cons_self)
      (ih (fun x hx => hw x (List.mem_cons_of_mem _ hx)) fun x hx => ho x (List.mem_cons_of_mem _ hx))

theorem solid_word {w : List Char} (hw : IsRun .word w) (ho : ∀ c ∈ w, Look.isOrdinary c = true) :
    Solid (w.flatMap doubled ++ t) := by
  obtain ⟨c, w, rfl⟩ := List.exists_cons_of_ne_nil hw.ne_nil
  have hc := atBlank_of_word (hw.kind c List.mem_cons_self) (ho c List.mem_cons_self)
  rw [List.flatMap_cons, doubled]
  split
  · exact solid_cons (by decide)
  · exact solid_cons hc

/-! ## Gaps -/

theorem quoted_blanks (k : Nat) (ht : Solid t) (h : Quoted false sound n cs t) :
    Quoted false sound n (List.replicate k ' ' ++ cs) (List.replicate k ' ' ++ t) := by
  induction k with
  | zero => exact h
  | succ k ih =>
    rw [List.replicate_succ, List.cons_append, List.cons_append]
    refine .blank (fun x hx => ?_) ih
    cases k with
    | zero =>
      have := ht x hx
      simp only [Cursor.atBlank, Option.all_some, Bool.or_eq_false_iff] at this
      exact this.2
    | succ k =>
      obtain rfl : ' ' = x := by simpa [List.replicate_succ] using hx
      decide

theorem flatMap_doubled_blanks (k : Nat) :
    (List.replicate k ' ').flatMap doubled = List.replicate k ' ' := by
  induction k with
  | zero => rfl
  | succ k ih =>
    rw [List.replicate_succ, List.flatMap_cons, ih]
    rfl

/-- Line ends one after another. -/
theorem foldl_newLine (bs : List Char) (hbs : bs ≠ []) (p : Page) :
    bs.foldl (fun p c => p.newLine c) p = ⟨bs.reverse ++ p.text, 0, true, true⟩ := by
  induction bs generalizing p with
  | nil => exact absurd rfl hbs
  | cons b bs ih =>
    cases bs with
    | nil => rfl
    | cons c bs =>
      rw [List.foldl_cons, ih (List.cons_ne_nil _ _)]
      simp [Page.newLine]

/-! ## Scalars -/

/-- **What is written between single quotes.** -/
theorem exists_single {word : Bool} {rs : List (List Char)} (h : Alternate word rs)
    (ho : ∀ r ∈ rs, ∀ c ∈ r, Look.isOrdinary c = true) (first : Bool) {p : Page}
    (hp : p.indenting = false ∨ n ≤ p.column) (hgap : word = false → p.IsPast n) :
    ∃ t, (singleRuns split n first rs p).text = t.reverse ++ p.text ∧
      Quoted false sound n rs.flatten t ∧ (word = true → Solid t) ∧
      (split = false → (∀ c ∈ rs.flatten, isInnerBreak c = false) → t = rs.flatten.flatMap doubled) := by
  induction h generalizing first p with
  | nil word => exact ⟨[], rfl, .nil, fun _ _ hx => (nomatch hx), fun _ _ => rfl⟩
  | @word run rest isRun others ih =>
    have hrun := ho run List.mem_cons_self
    have hhead : run.head?.map kindOf = some .word := by
      obtain ⟨c, r, rfl⟩ := List.exists_cons_of_ne_nil isRun.ne_nil
      exact congrArg some (isRun.kind c List.mem_cons_self)
    have hpast : (p.write (run.flatMap doubled)).IsPast n := by
      refine hp.imp id fun hcol => ?_
      have : 0 < (run.flatMap doubled).length := by
        obtain ⟨c, r, rfl⟩ := List.exists_cons_of_ne_nil isRun.ne_nil
        rw [List.flatMap_cons, doubled]
        split <;> simp
      rw [Page.column_write]
      omega
    obtain ⟨t, h₁, h₂, -, h₄⟩ := ih (fun r hr => ho r (List.mem_cons_of_mem _ hr)) false
      (hpast.imp id Nat.le_of_lt) fun _ => hpast
    refine ⟨run.flatMap doubled ++ t, ?_, quoted_word isRun.kind hrun h₂, fun _ => solid_word isRun hrun,
      fun hs hb => ?_⟩
    · have hstep : singleRuns split n first (run :: rest) p =
          singleRuns split n false rest (p.write (run.flatMap doubled)) := by
        rw [singleRuns, hhead]
        rfl
      rw [hstep, h₁]
      simp
    · rw [List.flatten_cons, List.flatMap_append,
        h₄ hs fun c hc => hb c (by rw [List.flatten_cons]; exact List.mem_append_right _ hc)]
  | @gap k run rest isGap isRun others ih =>
    have hpast := hgap rfl
    have hih := fun q hq => ih (fun r hr => ho r (List.mem_cons_of_mem _ hr)) false (p := q)
      hq (by simp)
    obtain ⟨c, r, rfl⟩ := List.exists_cons_of_ne_nil isRun.ne_nil
    have hc := isRun.kind c List.mem_cons_self
    cases k with
    | word => exact absurd rfl isGap
    | space =>
      have hspaces : c :: r = List.replicate (r.length + 1) ' ' :=
        List.eq_replicate_iff.2 ⟨rfl, fun x hx => kindOf_eq_space.1 (isRun.kind x hx)⟩
      by_cases hfold : (foldsAt p split (c :: r) && !first && !rest.isEmpty) = true
      · obtain ⟨t, h₁, h₂, h₃, -⟩ := hih (p.indentTo n) (.inr (by rw [Page.column_indentTo]))
        have hone : split = true ∧ c :: r = [' '] := by
          simp only [foldsAt, Bool.and_eq_true, beq_iff_eq] at hfold
          exact ⟨hfold.1.1.1.1, hfold.1.1.1.2⟩
        refine ⟨freshLine n ++ t, ?_, ?_, by simp, fun hs => absurd (hone.1.symm.trans hs) (by decide)⟩
        · rw [singleRuns, List.head?_cons, Option.map_some, hc]
          simp only [hfold, if_true]
          rw [h₁, Page.indentTo_of_isPast hpast]
          simp
        · rw [List.flatten_cons, hone.2]
          exact .fold rfl (h₃ rfl) h₂
      · obtain ⟨t, h₁, h₂, h₃, h₄⟩ := hih (p.write (c :: r)) ((hpast.write _).imp id Nat.le_of_lt)
        refine ⟨c :: r ++ t, ?_, ?_, by simp, fun hs hb => ?_⟩
        · rw [singleRuns, List.head?_cons, Option.map_some, hc]
          simp only [hfold, Bool.false_eq_true, if_false]
          rw [h₁]
          simp
        · rw [List.flatten_cons, hspaces]
          exact quoted_blanks _ (h₃ rfl) h₂
        · rw [List.flatten_cons, List.flatMap_append,
            h₄ hs fun c hc => hb c (by rw [List.flatten_cons]; exact List.mem_append_right _ hc), hspaces]
          rw [flatMap_doubled_blanks]
    | lineEnd =>
      have hends : ∀ x ∈ c :: r, isInnerBreak x = true := fun x hx => kindOf_eq_lineEnd.1 (isRun.kind x hx)
      have hpage : ((c :: r).foldl (fun p c => p.newLine c)
          (if some c == some '\n' then p.newLine else p)).indentTo n =
          ⟨((if c = '\n' then ['\n'] else []) ++ (c :: r ++ List.replicate n ' ')).reverse ++ p.text, n,
            true, true⟩ := by
        rw [foldl_newLine _ (List.cons_ne_nil _ _), Page.indentTo_of_newLine rfl rfl rfl]
        by_cases hn : c = '\n' <;> simp [hn, Page.newLine]
      obtain ⟨t, h₁, h₂, h₃, -⟩ := hih _ (.inr (congrArg Page.column hpage).ge)
      refine ⟨(if c = '\n' then ['\n'] else []) ++ (c :: r ++ (List.replicate n ' ' ++ t)), ?_,
        .breaks rfl hends (h₃ rfl) h₂, by simp, fun _ hb => ?_⟩
      · rw [singleRuns, List.head?_cons, Option.map_some, hc]
        simp only
        rw [h₁, hpage]
        simp
      · have := hb c (by simp)
        rw [hends c List.mem_cons_self] at this
        cases this

end Folio.Yaml.Render
