/-
  Folio — reading the tokens of a layout.

  A layout is read sign by sign: after each token the scanner goes to the next one,
  and the collections that do not reach as far end there.

  * `Scanner.inBlock`: the states outside brackets;
  * `Scanner.next_scalar_colon`, `Scanner.reaches_scalar_line`: a scalar is read as
    one token.
-/
import Folio.Proofs.Yaml.Deliver
import Folio.Proofs.Yaml.Layout

namespace Folio.Yaml.Scanner

variable {s σ r : Scanner} {c : Cursor} {i : Int} {is : List Int} {a : Bool} {q : List Token}
  {keys : List (Nat × SimpleKey)} {t more : List Char}

/-! ## Going to the next token -/

theorem toNextToken_blanks {k : Nat} (hc : s.cursor.rest = List.replicate k ' ' ++ t) (ht : Solid t)
    (hn : t.head? ≠ some '#') (fuel : Nat) :
    toNextToken (fuel + 1) s = { s with cursor := s.cursor.advanceBy k } := by
  have hspaces : s.cursor.skipSpaces = s.cursor.advanceBy k := by
    rw [Cursor.skipSpaces, Cursor.skip_eq hc (by simp) ?_, List.length_replicate]
    intro x hx
    have := ht x hx
    simp only [Cursor.atBlank, Option.all_some, Bool.or_eq_false_iff] at this
    exact this.1.1
  have hrest : (s.cursor.advanceBy k).rest = t := by
    rw [Cursor.rest_advanceBy, hc, List.drop_left' (List.length_replicate ..)]
  have hcomment : (s.cursor.advanceBy k).skipComment = s.cursor.advanceBy k := by
    rw [Cursor.skipComment, Cursor.peek, hrest, if_neg (by simpa using hn)]
  have hpeek : (s.cursor.advanceBy k).peek.any isBreak = false := by
    rw [Cursor.peek, hrest]
    cases hx : t.head? with
    | none => rfl
    | some x => exact isBreak_of_atBlank (ht x hx)
  rw [toNextToken, hspaces, hcomment, if_neg (by simp [hpeek])]

theorem skipByteOrderMark_eq (h : s.cursor.rest.head? ≠ some '\uFEFF') : s.skipByteOrderMark = s := by
  rw [skipByteOrderMark, if_neg fun hm => h hm.2]

/-- Blanks are passed over. -/
theorem skip_blanks {k : Nat} (hc : s.cursor.rest = List.replicate k ' ' ++ t) (ht : Solid t)
    (hn : t.head? ≠ some '#') (hm : t.head? ≠ some '\uFEFF') :
    s.skip = { s with cursor := s.cursor.advanceBy k } := by
  have hmark : s.skipByteOrderMark = s := by
    refine skipByteOrderMark_eq ?_
    rw [hc]
    cases k with
    | zero => exact hm
    | succ k => simp [List.replicate_succ]
  rw [skip, hmark]
  exact toNextToken_blanks hc ht hn _

/-- A line end and indentation are passed over, and a key may come. -/
theorem skip_freshLine {m : Nat} (hc : s.cursor.rest = freshLine m ++ t) (ht : Solid t)
    (hn : t.head? ≠ some '#') (hflow : s.flowLevel = 0) :
    s.skip = { s with cursor := s.cursor.advanceBy (m + 1), keyAllowed := true } := by
  have hmark : s.skipByteOrderMark = s := skipByteOrderMark_eq (by rw [hc]; simp [freshLine])
  have hspaces : s.cursor.skipSpaces = s.cursor :=
    Cursor.skip_eq_self hc (by decide)
  have hpeek : s.cursor.peek = some '\n' := by
    rw [Cursor.peek, hc]
    rfl
  have hcomment : s.cursor.skipComment = s.cursor := by
    rw [Cursor.skipComment, hpeek]
    rfl
  have hbreak : s.cursor.lineBreak = (['\n'], s.cursor.advance) :=
    Scalar.lineBreak_eq (by decide) (by decide) hc
  have hrest : s.cursor.advance.rest = List.replicate m ' ' ++ t := by
    rw [Cursor.rest_advance, hc]
    rfl
  obtain ⟨fuel, hfuel⟩ : ∃ k, s.cursor.fuel = k + 2 :=
    ⟨s.cursor.rest.length - 1, by rw [Cursor.fuel, hc]; simp [freshLine]⟩
  rw [skip, hmark, hfuel, toNextToken, hspaces, hcomment, hpeek, if_pos (by rfl), hbreak,
    toNextToken_blanks (s := { s with
      cursor := s.cursor.advance, keyAllowed := s.keyAllowed || s.flowLevel == 0 }) hrest ht hn]
  simp [hflow, Cursor.advanceBy]

/-- At the next token keys that can no longer come are dropped, unless they must. -/
theorem settle_eq (hs : s.skip = r)
    (hk : ∀ e ∈ r.keys, r.isStale e.2 = true → e.2.required = false) :
    s.settle = .ok
      (({ r with keys := r.keys.filter fun e => !r.isStale e.2 } : Scanner).unwind
        r.cursor.mark.column) := by
  rw [settle, hs, dropStaleKeys_eq_ok_iff.2 ⟨hk, rfl⟩]
  rfl

/-! ## Outside brackets -/

/-- Outside brackets, when no token is delivered. -/
def inBlock (c : Cursor) (indent : Int) (indents : List Int) (allowed : Bool)
    (keys : List (Nat × SimpleKey)) (queue : List Token) : Scanner :=
  { cursor := c, flowLevel := 0, indent, indents, keyAllowed := allowed, keys, taken := 0, queue
    done := false }

/-- No collection ends that reaches as far. -/
theorem unwind_of_le {column : Int} (h : s.indent ≤ column) : s.unwind column = s := by
  rw [unwind]
  split
  · cases hi : s.indents with
    | nil => rfl
    | cons outer rest => rw [unwindTo, if_neg (by omega)]
  · rfl

/-- The innermost collection ends. -/
theorem unwind_of_lt {column o : Int} (h : column < i) :
    (inBlock c i (o :: is) a keys q).unwind column =
      (inBlock c o is a keys (q ++ [⟨.blockEnd, c.mark, c.mark⟩])).unwind column := by
  simp only [unwind, inBlock, if_true]
  rw [unwindTo, if_pos h]
  rfl

theorem started_nil (h : s.keys = []) : s.Started := fun e he => by
  rw [h] at he
  cases he

/-- A token is read, up to its end. -/
def Gets (σ s : Scanner) : Prop :=
  ∃ σ', Reaches σ σ' ∧ next σ' = .ok s ∧ s.cursor.rest.length < σ'.cursor.rest.length

theorem reaches_of_next {σ' : Scanner} (hn : next σ = .ok s)
    (hl : s.cursor.rest.length < σ.cursor.rest.length) (hd : s.done = false) (hst : s.Started)
    (hs : s.settle = .ok σ') : Reaches σ σ' :=
  .single ⟨s, hn, hd, hst, hs, hl⟩

theorem Gets.of_next (hn : next σ = .ok s) (hl : s.cursor.rest.length < σ.cursor.rest.length) :
    Gets σ s := ⟨σ, .refl, hn, hl⟩

theorem Gets.of_reaches {σ' : Scanner} (h : Reaches σ σ') (hs : Gets σ' s) : Gets σ s := by
  obtain ⟨τ, hτ, hn, hl⟩ := hs
  exact ⟨τ, h.trans hτ, hn, hl⟩

theorem Gets.reaches {σ' : Scanner} (h : Gets σ (inBlock c i is a [] q))
    (hs : (inBlock c i is a [] q).settle = .ok σ') : Reaches σ σ' := by
  obtain ⟨τ, hτ, hn, hl⟩ := h
  exact hτ.trans (reaches_of_next hn hl rfl (started_nil rfl) hs)

/-- Blanks before what a block collection holds. -/
theorem settle_blanks {k : Nat} (hc : c.rest = List.replicate k ' ' ++ t) (ht : Solid t)
    (hn : t.head? ≠ some '#') (hm : t.head? ≠ some '\uFEFF') (hi : i ≤ (c.advanceBy k).mark.column) :
    (inBlock c i is a [] q).settle = .ok (inBlock (c.advanceBy k) i is a [] q) := by
  rw [settle_eq (skip_blanks (s := inBlock c i is a [] q) hc ht hn hm) (by simp [inBlock]),
    unwind_of_le (by exact hi)]
  rfl

/-- Right before what is solid nothing is passed over. -/
theorem settle_here (hc : c.rest = t) (ht : Solid t) (hn : t.head? ≠ some '#')
    (hm : t.head? ≠ some '\uFEFF') (hi : i ≤ c.mark.column)
    (hk : ∀ e ∈ keys, (inBlock c i is a keys q).isStale e.2 = false) :
    (inBlock c i is a keys q).settle = .ok (inBlock c i is a keys q) := by
  have hfilter : (inBlock c i is a keys q).keys.filter (fun e =>
      !(inBlock c i is a keys q).isStale e.2) = keys :=
    List.filter_eq_self.2 fun e he => by simp [hk e he]
  have hskip : (inBlock c i is a keys q).skip = inBlock c i is a keys q :=
    skip_blanks (k := 0) hc ht hn hm
  rw [settle_eq hskip (fun e he hs => by simp [hk e he] at hs), hfilter]
  exact congrArg Except.ok (unwind_of_le hi)

/-- A line end before what a block collection holds. -/
theorem settle_freshLine {m : Nat} (is : List Int) (keys : List (Nat × SimpleKey))
    (hc : c.rest = freshLine m ++ t) (ht : Solid t)
    (hn : t.head? ≠ some '#')
    (hk : ∀ e ∈ keys, e.2.mark.line ≤ c.mark.line ∧ e.2.required = false) :
    (inBlock c i is a keys q).settle =
      .ok ((inBlock (c.advanceBy (m + 1)) i is true [] q).unwind m) := by
  have hmark := Cursor.mark_advanceBy_freshLine hc
  rw [settle_eq (skip_freshLine (s := inBlock c i is a keys q) hc ht hn rfl)
    fun e he _ => (hk e he).2]
  have hstale : (inBlock (c.advanceBy (m + 1)) i is true keys q).keys.filter (fun e =>
      !(inBlock (c.advanceBy (m + 1)) i is true keys q).isStale e.2) = [] := by
    refine List.filter_eq_nil_iff.2 fun e he => ?_
    have := (hk e he).1
    simp only [isStale, inBlock, hmark, Bool.not_eq_true', Bool.not_eq_false, Bool.or_eq_true,
      bne_iff_ne]
    left
    omega
  have hcol : (c.advanceBy (m + 1)).mark.column = m := by rw [hmark]
  simp only [inBlock] at hstale ⊢
  rw [hstale, hcol]

/-! ## Signs -/

theorem peek_eq {x : Char} (h : c.rest = x :: more) : c.peek = some x := by
  rw [Cursor.peek, h]
  rfl

theorem peekAt_one {x : Char} (h : c.rest = x :: more) : c.peekAt 1 = more.head? := by
  rw [Cursor.peekAt, h]
  rfl

theorem next_eq {x : Char} (h : s.cursor.rest = x :: more) : next s = s.fetchAt x := by
  rw [next, peek_eq h]

theorem atTriple_of_ne {x y : Char} (hx : x ≠ y) (h : c.rest = x :: more) : c.atTriple y = false := by
  simp [Cursor.atTriple, h, hx]

theorem atTriple_of_alone {x : Char} (ha : Cursor.atBlank more.head? = true)
    (h : c.rest = x :: more) (y : Char) (hy : Cursor.atBlank (some y) = false) :
    c.atTriple y = false := by
  cases more with
  | nil => simp [Cursor.atTriple, h]
  | cons z more =>
    have : z ≠ y := by
      rintro rfl
      simp [hy] at ha
    simp [Cursor.atTriple, h, this]

/-- The dash of an item. -/
theorem fetchAt_dash (ha : Cursor.atBlank more.head? = true) (hc : s.cursor.rest = '-' :: more) :
    s.fetchAt '-' = s.fetchBlockEntry := by
  have h1 : s.cursor.atTriple '-' = false := atTriple_of_alone ha hc '-' (by decide)
  have h2 : s.cursor.atTriple '.' = false := atTriple_of_alone ha hc '.' (by decide)
  have h3 : s.standsAlone = true := by rw [standsAlone, peekAt_one hc, ha]
  simp [fetchAt, h1, h2, h3]

/-- The question mark of a key. -/
theorem fetchAt_question (ha : Cursor.atBlank more.head? = true) (hc : s.cursor.rest = '?' :: more) :
    s.fetchAt '?' = s.fetchKey := by
  have h1 : s.cursor.atTriple '-' = false := atTriple_of_alone ha hc '-' (by decide)
  have h2 : s.cursor.atTriple '.' = false := atTriple_of_alone ha hc '.' (by decide)
  have h3 : s.standsAlone = true := by rw [standsAlone, peekAt_one hc, ha]
  simp [fetchAt, h1, h2, h3]

/-- The colon before a value. -/
theorem fetchAt_colon (ha : Cursor.atBlank more.head? = true) (hc : s.cursor.rest = ':' :: more) :
    s.fetchAt ':' = s.fetchValue := by
  have h1 : s.cursor.atTriple '-' = false := atTriple_of_alone ha hc '-' (by decide)
  have h2 : s.cursor.atTriple '.' = false := atTriple_of_alone ha hc '.' (by decide)
  have h3 : s.standsAlone = true := by rw [standsAlone, peekAt_one hc, ha]
  simp [fetchAt, h1, h2, h3]

/-- Quotes. -/
theorem fetchAt_quote (double : Bool) (hc : s.cursor.rest = Scalar.quote double :: more) :
    s.fetchAt (Scalar.quote double) = s.fetchInline fun c =>
      (Scalar.quoted double c).map fun r => (.scalar false r.1, r.2) := by
  cases double with
  | true =>
    have h1 : s.cursor.atTriple '-' = false := atTriple_of_ne (by decide) hc
    have h2 : s.cursor.atTriple '.' = false := atTriple_of_ne (by decide) hc
    simp [fetchAt, Scalar.quote, h1, h2]
  | false =>
    have h1 : s.cursor.atTriple '-' = false := atTriple_of_ne (by decide) hc
    have h2 : s.cursor.atTriple '.' = false := atTriple_of_ne (by decide) hc
    simp [fetchAt, Scalar.quote, h1, h2]

/-- A text that may start a plain scalar does so, whatever follows. -/
theorem fetchAt_plain {x : Char} (hx : Cursor.atBlank (some x) = false) (ht : PlainStart (x :: t))
    (hmore : more.head? ≠ some '-' ∧ more.head? ≠ some '.') (hflow : s.flowLevel = 0)
    (hc : s.cursor.rest = x :: (t ++ more)) : s.fetchAt x = s.fetchPlain := by
  have hsep : ¬Separates s.cursor.rest := by
    rw [hc, ← List.cons_append]
    exact Scalar.not_separates_append ht.separates hmore
  simp only [Separates, not_or] at hsep
  have h1 : s.cursor.atTriple '-' = false := by simp [Cursor.atTriple, hsep.1]
  have h2 : s.cursor.atTriple '.' = false := by simp [Cursor.atTriple, hsep.2]
  have hsign := ht.sign x rfl
  simp only [String.reduceToList, List.contains_cons, List.contains_nil, Bool.or_false,
    Bool.or_eq_false_iff, beq_eq_false_iff_ne, ne_eq] at hsign
  have halone : x = '-' ∨ x = '?' ∨ x = ':' → s.standsAlone = false := by
    intro h
    have hb := ht.alone x rfl h
    rw [standsAlone, peekAt_one hc]
    cases t with
    | nil => simp [Cursor.atBlank] at hb
    | cons y t => exact hb
  have hstart : s.startsPlain x = true := by
    simp only [startsPlain, hx, hflow, Bool.false_or, beq_self_eq_true, Bool.true_and,
      Bool.or_eq_true, Bool.and_eq_true, Bool.not_eq_true', beq_iff_eq]
    by_cases h : x = '-' ∨ x = '?' ∨ x = ':'
    · exact .inr ⟨halone h, h⟩
    · simp only [not_or] at h
      refine .inl ?_
      simp [hsign, h]
  rw [fetchAt]
  simp only [h1, h2, hstart, hsign, beq_iff_eq, Bool.and_false, Bool.false_eq_true, if_false, if_true]
  by_cases h : x = '-' ∨ x = '?' ∨ x = ':'
  · have := halone h
    simp [this, hflow, hsign]
  · simp only [not_or] at h
    simp [h, hsign]

/-! ## Scalars -/

/-- The key that a token here may be. -/
def savedKeys (c : Cursor) (i : Int) (a : Bool) (q : List Token) : List (Nat × SimpleKey) :=
  if a then [(0, ⟨q.length, i == (c.mark.column : Int), c.mark⟩)] else []

theorem saveKey_inBlock : (inBlock c i is a [] q).saveKey =
    .ok (inBlock c i is a (savedKeys c i a q) q) := by
  cases a with
  | false => rfl
  | true =>
    simp only [saveKey, inBlock, dropKey, List.lookup_nil, savedKeys, if_true]
    simp [bind, Except.bind, pure, Except.pure]

variable {n m : Nat} {plain : Bool} {cs : List Char} {c' : Cursor}

theorem fetchInline_quoted {double : Bool} (h : Scalar.quoted double c = .ok (cs, c')) :
    ((inBlock c i is a [] q).fetchInline fun c =>
      (Scalar.quoted double c).map fun r => (.scalar false r.1, r.2)) =
      .ok (inBlock c' i is false (savedKeys c i a q)
        (q ++ [⟨.scalar false cs, c.mark, c'.mark⟩])) := by
  have hcur : (inBlock c i is a (savedKeys c i a q) q).cursor = c := rfl
  rw [fetchInline, saveKey_inBlock]
  simp only [bind, Except.bind, hcur, h, Except.map]
  rfl

theorem fetchPlain_inBlock {stop : Mark} {newLine : Bool}
    (h : Scalar.plain false (i + 1).toNat c = (cs, stop, c', newLine)) :
    (inBlock c i is a [] q).fetchPlain =
      .ok (inBlock c' i is newLine (savedKeys c i a q)
        (q ++ [⟨.scalar true cs, c.mark, stop⟩])) := by
  have hcur : (inBlock c i is a (savedKeys c i a q) q).cursor = c := rfl
  have hflow : ((inBlock c i is a (savedKeys c i a q) q).flowLevel != 0) = false := rfl
  have hind : (inBlock c i is a (savedKeys c i a q) q).indent = i := rfl
  rw [fetchPlain, saveKey_inBlock]
  simp only [bind, Except.bind, hcur, hflow, hind, h]
  rfl

theorem exists_cons_of_scalarLaid {sound : Bool} (h : ScalarLaid sound n plain cs t) :
    ∃ x u, t = x :: u ∧ Cursor.atBlank (some x) = false ∧ x ≠ '#' ∧ x ≠ '\uFEFF' := by
  cases h with
  | plain start mark text =>
    obtain ⟨x, u, rfl, hx, hx'⟩ := text.exists_cons
    exact ⟨x, u, rfl, hx, hx', fun he => mark (by simp [he])⟩
  | quoted double _ text =>
    exact ⟨Scalar.quote double, _, rfl, atBlank_quote double, by cases double <;> decide,
      by cases double <;> decide⟩

theorem not_separates_of_scalarLaid {sound : Bool} (h : ScalarLaid sound n plain cs t) :
    ¬Separates t := by
  cases h with
  | plain start mark text => exact start.separates
  | quoted double _ text =>
    cases double <;>
    · rintro (h | h) <;> · rw [List.take_succ_cons] at h; cases h

/-- A scalar before a colon. -/
theorem next_scalar_colon (is : List Int) (h : ScalarLaid true n plain cs t) (hn : 0 < n)
    (hi : (i + 1).toNat ≤ n) (hcol : i ≤ c.mark.column) (hc : c.rest = t ++ ':' :: more)
    (hmore : Cursor.atBlank more.head? = true) :
    ∃ tok : Token, tok.kind = .scalar plain cs ∧ next (inBlock c i is a [] q) =
      .ok (inBlock (c.advanceBy t.length) i is false (savedKeys c i a q) (q ++ [tok])) := by
  cases h with
  | plain start mark text =>
    have hread := text.plain_eq_of_colon hn hi (by omega) hc hmore
    obtain ⟨x, u, rfl, hx, -⟩ := text.exists_cons
    refine ⟨⟨.scalar true cs, c.mark, (c.advanceBy (x :: u).length).mark⟩, rfl, ?_⟩
    rw [next_eq (s := inBlock c i is a [] q) hc, fetchAt_plain hx start (by simp) rfl hc]
    exact fetchPlain_inBlock hread
  | @quoted _ b double nextLine text =>
    have hc' : c.rest = Scalar.quote double :: (b ++ Scalar.quote double :: (':' :: more)) := by
      rw [hc]
      simp
    have hread := text.quoted_eq hn (nextLine rfl) (by simp) hc'
    refine ⟨⟨.scalar false cs, c.mark, (c.advanceBy (b.length + 2)).mark⟩, rfl, ?_⟩
    rw [next_eq (s := inBlock c i is a [] q) hc, fetchAt_quote double hc, fetchInline_quoted hread]
    simp

/-- On the line after that of the keys these are dropped. -/
theorem settle_line (hc : c.rest = more) (hmore : Follows more)
    (hk : ∀ e ∈ keys, e.2.mark.line < c.mark.line ∧ e.2.required = false) :
    (inBlock c i is a keys q).settle = .ok ((inBlock c i is a [] q).unwind c.mark.column) := by
  have hskip : (inBlock c i is a keys q).skip = inBlock c i is a keys q :=
    skip_blanks (k := 0) hc hmore.solid hmore.comment hmore.mark
  have hstale : (inBlock c i is a keys q).keys.filter (fun e =>
      !(inBlock c i is a keys q).isStale e.2) = [] := by
    refine List.filter_eq_nil_iff.2 fun e he => ?_
    have := (hk e he).1
    simp only [isStale, inBlock, Bool.not_eq_true', Bool.not_eq_false, Bool.or_eq_true, bne_iff_ne]
    left
    omega
  rw [settle_eq hskip fun e he _ => (hk e he).2, hstale]
  rfl

/-- A scalar at the end of a line. -/
theorem reaches_scalar_line (is : List Int) (h : ScalarLaid true n plain cs t) (hn : 0 < n)
    (hi : (i + 1).toNat ≤ n) (hcol : i < c.mark.column) (hc : c.rest = t ++ (freshLine m ++ more))
    (hm : m ≤ i) (hmore : Follows more) :
    ∃ tok : Token, tok.kind = .scalar plain cs ∧ Reaches (inBlock c i is a [] q)
      ((inBlock (c.advanceBy (t.length + (m + 1))) i is true [] (q ++ [tok])).unwind m) := by
  have hkeys : ∀ e ∈ savedKeys c i a q, e.2.mark = c.mark ∧ e.2.required = false := by
    intro e he
    rw [savedKeys] at he
    split at he
    · obtain rfl := List.mem_singleton.1 he
      exact ⟨rfl, by simp; omega⟩
    · cases he
  have hline : (c.advanceBy t.length).rest = freshLine m ++ more := by
    rw [Cursor.rest_advanceBy, hc, List.drop_left]
  have hle := (c.le_advanceBy t.length).line
  have hmark := Cursor.mark_advanceBy_freshLine hline
  have hrest : (c.advanceBy (t.length + (m + 1))).rest = more := by
    rw [Cursor.advanceBy_add, Cursor.rest_advanceBy, hline, ← length_freshLine, List.drop_left]
  rw [← Cursor.advanceBy_add] at hmark
  cases h with
  | plain start mark text =>
    have hread := text.plain_eq_of_freshLine hn hi (by omega) hc (by omega) hmore
    obtain ⟨x, u, rfl, hx, -⟩ := text.exists_cons
    rw [← Cursor.advanceBy_add] at hread
    refine ⟨⟨.scalar true cs, c.mark, (c.advanceBy (x :: u).length).mark⟩, rfl,
      reaches_of_next (s := inBlock (c.advanceBy ((x :: u).length + (m + 1))) i is true
        (savedKeys c i a q) (q ++ [⟨.scalar true cs, c.mark, (c.advanceBy (x :: u).length).mark⟩]))
        ?_ ?_ rfl (fun e he => ?_) ?_⟩
    · rw [next_eq (s := inBlock c i is a [] q) hc, fetchAt_plain hx start (by simp [freshLine]) rfl hc]
      exact fetchPlain_inBlock hread
    · change (c.advanceBy _).rest.length < c.rest.length
      rw [hrest, hc]
      simp only [List.length_append, List.length_cons]
      omega
    · simp only [inBlock, (hkeys e he).1, hmark]
      omega
    · rw [settle_line hrest hmore fun e he => ⟨?_, (hkeys e he).2⟩, hmark]
      rw [(hkeys e he).1, hmark]
      dsimp only
      omega
  | @quoted _ b double nextLine text =>
    have hc' : c.rest = Scalar.quote double :: (b ++ Scalar.quote double :: (freshLine m ++ more)) := by
      rw [hc]
      simp
    have hread := text.quoted_eq hn (nextLine rfl) (by simp [freshLine]) hc'
    have hlen : (Scalar.quote double :: (b ++ [Scalar.quote double])).length = b.length + 2 := by simp
    rw [hlen] at hrest hmark hline hle ⊢
    refine ⟨⟨.scalar false cs, c.mark, (c.advanceBy (b.length + 2)).mark⟩, rfl,
      reaches_of_next (s := inBlock (c.advanceBy (b.length + 2)) i is false
        (savedKeys c i a q) (q ++ [⟨.scalar false cs, c.mark, (c.advanceBy (b.length + 2)).mark⟩]))
        ?_ ?_ rfl (fun e he => ?_) ?_⟩
    · rw [next_eq (s := inBlock c i is a [] q) hc, fetchAt_quote double hc, fetchInline_quoted hread]
    · simp only [inBlock, hline, hc, List.length_append, List.length_cons]
      omega
    · simp only [inBlock, (hkeys e he).1]
      exact hle
    · rw [settle_freshLine _ _ hline hmore.solid hmore.comment fun e he => ⟨?_, (hkeys e he).2⟩,
        ← Cursor.advanceBy_add]
      rw [(hkeys e he).1]
      exact hle

end Folio.Yaml.Scanner
