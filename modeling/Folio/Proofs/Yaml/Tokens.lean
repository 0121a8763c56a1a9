/-
  Folio — the tokens of a layout.

  A text laid out for a form is read as tokens that stand for the form.  Each sign
  opens its collection if it is indented further than the one around it, and what
  is indented less ends it.

  * `Scanner.arrives_node`: the tokens of a form after a sign;
  * `Token.scan_laid`: the tokens of a text that is a mapping.
-/
import Folio.Proofs.Yaml.Fetch

namespace Folio.Yaml.Scanner

variable {s σ r : Scanner} {c c' : Cursor} {i : Int} {is js : List Int} {a : Bool} {q o : List Token}
  {keys : List (Nat × SimpleKey)} {t more : List Char} {n m : Nat}

/-! ## Signs of blocks -/

/-- At the column `n` a collection starts, with the tokens `o`, unless one has that
    column. -/
def Opens (kind : TokenKind) (c : Cursor) (i : Int) (is : List Int) (n : Nat) (js : List Int)
    (o : List Token) : Prop :=
  (i = n ∧ js = is ∧ o = []) ∨ (i < n ∧ js = i :: is ∧ o = [⟨kind, c.mark, c.mark⟩])

theorem Opens.le {kind : TokenKind} (h : Opens kind c i is n js o) : i ≤ n := by
  rcases h with ⟨h, -⟩ | ⟨h, -⟩ <;> omega

theorem openBlock_inBlock {kind : TokenKind} (h : Opens kind c i is n js o) (hn : c.mark.column = n)
    (p : Problem) : (inBlock c i is true keys q).openBlock kind p =
      .ok (inBlock c n js true keys (q ++ o)) := by
  rw [openBlock_eq]
  rcases h with ⟨rfl, rfl, rfl⟩ | ⟨hlt, rfl, rfl⟩
  · rw [List.append_nil]
    simp [inBlock, hn]
  · subst hn
    simp only [inBlock, ne_eq, not_true_eq_false, if_false, Bool.true_eq_false, hlt, if_true]
    rfl

theorem length_advance_lt {x : Char} (hc : c.rest = x :: more) :
    c.advance.rest.length < c.rest.length := by
  rw [Cursor.rest_advance, hc]
  simp

/-- The dash of an item. -/
theorem gets_dash (h : Opens .blockSequenceStart c i is n js o) (hn : c.mark.column = n)
    (hc : c.rest = '-' :: more) (ha : Cursor.atBlank more.head? = true) :
    Gets (inBlock c i is true [] q) (inBlock c.advance n js true []
      (q ++ (o ++ [⟨.blockEntry, c.mark, c.advance.mark⟩]))) := by
  refine .of_next ?_ (length_advance_lt hc)
  rw [next_eq (s := inBlock c i is true [] q) hc, fetchAt_dash ha hc, fetchBlockEntry,
    openBlock_inBlock h hn, ← List.append_assoc]
  rfl

/-- The question mark of a key. -/
theorem gets_question (h : Opens .blockMappingStart c i is n js o) (hn : c.mark.column = n)
    (hc : c.rest = '?' :: more) (ha : Cursor.atBlank more.head? = true) :
    Gets (inBlock c i is true [] q) (inBlock c.advance n js true []
      (q ++ (o ++ [⟨.key, c.mark, c.advance.mark⟩]))) := by
  refine .of_next ?_ (length_advance_lt hc)
  rw [next_eq (s := inBlock c i is true [] q) hc, fetchAt_question ha hc, fetchKey,
    openBlock_inBlock h hn, ← List.append_assoc]
  rfl

/-- The colon after a key with a sign of its own. -/
theorem gets_colon (is : List Int) (hn : c.mark.column = n) (hc : c.rest = ':' :: more)
    (ha : Cursor.atBlank more.head? = true) :
    Gets (inBlock c n is true [] q)
      (inBlock c.advance n is true [] (q ++ [⟨.value, c.mark, c.advance.mark⟩])) := by
  refine .of_next ?_ (length_advance_lt hc)
  rw [next_eq (s := inBlock c n is true [] q) hc, fetchAt_colon ha hc, fetchValue_eq]
  have hopen : Opens .blockMappingStart c n is n is [] := .inl ⟨rfl, rfl, rfl⟩
  have hkeys : (inBlock c n is true [] q).keys.lookup (inBlock c n is true [] q).flowLevel = none := rfl
  rw [hkeys]
  simp only [fetchValueAlone]
  rw [openBlock_inBlock hopen hn, List.append_nil]
  rfl

/-- A key on one line and its colon. -/
theorem gets_key {plain : Bool} {cs : List Char} (h : ScalarLaid true (n + 2) plain cs t)
    (hline : ∀ x ∈ t, isBreak x = false) (hlen : t.length ≤ maxKeyLength)
    (hopen : Opens .blockMappingStart c i is n js o) (hn : c.mark.column = n)
    (hc : c.rest = t ++ ':' :: more) (ha : Cursor.atBlank more.head? = true) :
    ∃ k v w : Token, k.kind = .key ∧ v.kind = .scalar plain cs ∧ w.kind = .value ∧
      Gets (inBlock c i is true [] q) (inBlock (c.advanceBy (t.length + 1)) n js false []
        (q ++ (o ++ [k, v, w]))) := by
  have hle := hopen.le
  obtain ⟨tok, htok, hnext⟩ := next_scalar_colon (a := true) (q := q) (i := i) is h
    (by omega) (by omega) (by omega) hc ha
  have hrest : (c.advanceBy t.length).rest = ':' :: more := by
    rw [Cursor.rest_advanceBy, hc, List.drop_left]
  have hmark := Cursor.mark_advanceBy_of_inLine hc hline
  have hkeys : savedKeys c i true q = [(0, ⟨q.length, i == (c.mark.column : Int), c.mark⟩)] := rfl
  rw [hkeys] at hnext
  generalize hk : (⟨q.length, i == (c.mark.column : Int), c.mark⟩ : SimpleKey) = key at hnext
  have hnumber : key.number = q.length := by rw [← hk]
  have hkmark : key.mark = c.mark := by rw [← hk]
  have hsettle : (inBlock (c.advanceBy t.length) i is false [(0, key)] (q ++ [tok])).settle =
      .ok (inBlock (c.advanceBy t.length) i is false [(0, key)] (q ++ [tok])) := by
    refine settle_here hrest (solid_cons (by decide)) (by simp) (by simp) (by omega) fun e he => ?_
    obtain rfl := List.mem_singleton.1 he
    simp only [isStale, inBlock, hkmark, hmark.1, hmark.2.1, bne_self_eq_false, Bool.false_or,
      decide_eq_false_iff_not]
    omega
  have hreaches := reaches_of_next hnext
    (by
      change (c.advanceBy t.length).rest.length < c.rest.length
      obtain ⟨x, u, rfl, -⟩ := exists_cons_of_scalarLaid h
      rw [hrest, hc, List.length_append]
      simp only [List.length_cons]
      omega)
    rfl
    (fun e he => by
      obtain rfl := List.mem_singleton.1 he
      rw [hkmark]
      exact Nat.le_of_eq hmark.1.symm)
    hsettle
  refine ⟨⟨.key, c.mark, c.mark⟩, tok,
    ⟨.value, (c.advanceBy t.length).mark, (c.advanceBy (t.length + 1)).mark⟩, rfl, htok, rfl,
    .of_reaches hreaches (.of_next ?_ ?_)⟩
  · have hlookup : (inBlock (c.advanceBy t.length) i is false [(0, key)] (q ++ [tok])).keys.lookup
        (inBlock (c.advanceBy t.length) i is false [(0, key)] (q ++ [tok])).flowLevel = some key := rfl
    have htake : (q ++ [tok]).take q.length = q := List.take_left
    have hdrop : (q ++ [tok]).drop q.length = [tok] := List.drop_left
    rw [next_eq (s := inBlock (c.advanceBy t.length) i is false [(0, key)] (q ++ [tok])) hrest,
      fetchAt_colon ha hrest, fetchValue_eq, hlookup]
    simp only [confirmKey_eq, openAt, Scanner.insert, inBlock, hnumber, hkmark, hn, Nat.sub_zero,
      htake, hdrop, true_and]
    rcases hopen with ⟨rfl, rfl, rfl⟩ | ⟨hlt, rfl, rfl⟩
    · rw [if_neg (by omega)]
      simp [take, push, Cursor.advanceBy_add c t.length 1]
    · rw [if_pos hlt]
      have htake' : (q ++ (⟨.key, c.mark, c.mark⟩ : Token) :: [tok]).take q.length = q :=
        List.take_left
      have hdrop' : (q ++ (⟨.key, c.mark, c.mark⟩ : Token) :: [tok]).drop q.length =
        ⟨.key, c.mark, c.mark⟩ :: [tok] := List.drop_left
      simp [take, push, htake', hdrop', Cursor.advanceBy_add c t.length 1]
  · change (c.advanceBy (t.length + 1)).rest.length < (c.advanceBy t.length).rest.length
    rw [Cursor.advanceBy_add]
    exact length_advance_lt hrest

/-! ## Empty collections -/

theorem fetchAt_bracket (hc : s.cursor.rest = '[' :: more) :
    s.fetchAt '[' = s.fetchFlowStart .flowSequenceStart := by
  have h1 : s.cursor.atTriple '-' = false := atTriple_of_ne (by decide) hc
  have h2 : s.cursor.atTriple '.' = false := atTriple_of_ne (by decide) hc
  simp [fetchAt, h1, h2]

theorem fetchAt_bracketEnd (hc : s.cursor.rest = ']' :: more) :
    s.fetchAt ']' = s.fetchFlowEnd .flowSequenceEnd := by
  have h1 : s.cursor.atTriple '-' = false := atTriple_of_ne (by decide) hc
  have h2 : s.cursor.atTriple '.' = false := atTriple_of_ne (by decide) hc
  simp [fetchAt, h1, h2]

theorem fetchAt_brace (hc : s.cursor.rest = '\x7b' :: more) :
    s.fetchAt '\x7b' = s.fetchFlowStart .flowMappingStart := by
  have h1 : s.cursor.atTriple '-' = false := atTriple_of_ne (by decide) hc
  have h2 : s.cursor.atTriple '.' = false := atTriple_of_ne (by decide) hc
  simp [fetchAt, h1, h2]

theorem fetchAt_braceEnd (hc : s.cursor.rest = '\x7d' :: more) :
    s.fetchAt '\x7d' = s.fetchFlowEnd .flowMappingEnd := by
  have h1 : s.cursor.atTriple '-' = false := atTriple_of_ne (by decide) hc
  have h2 : s.cursor.atTriple '.' = false := atTriple_of_ne (by decide) hc
  simp [fetchAt, h1, h2]

/-- From a settled state tokens with a property are read, up to what follows at the column
    `m`, where the collections that are indented further end. -/
def Yields (σ : Scanner) (n : Nat) (is : List Int) (q : List Token) (m : Nat) (more : List Char)
    (P : List TokenKind → Prop) : Prop :=
  ∃ ts c', P (ts.map Token.kind) ∧ c'.rest = more ∧ c'.mark.column = m ∧
    Reaches σ ((inBlock c' n is true [] (q ++ ts)).unwind m)

/-- The same from the end of a token. -/
def Arrives (s : Scanner) (n : Nat) (is : List Int) (q : List Token) (m : Nat) (more : List Char)
    (P : List TokenKind → Prop) : Prop :=
  ∃ σ, s.settle = .ok σ ∧ Yields σ n is q m more P

/-- Brackets with nothing between them. -/
theorem arrives_brackets {x y : Char} {k₁ k₂ : TokenKind}
    (hx : ∀ (s : Scanner) {more}, s.cursor.rest = x :: more → s.fetchAt x = s.fetchFlowStart k₁)
    (hy : ∀ (s : Scanner) {more}, s.cursor.rest = y :: more → s.fetchAt y = s.fetchFlowEnd k₂)
    (hxs : Follows [x]) (hys : Follows [y]) (hc : c.rest = ' ' :: x :: y :: (freshLine m ++ more))
    (hmore : Follows more) (hn : n < c.mark.column) :
    Arrives (inBlock c n is a [] q) n is q m more fun ks => ks = [k₁, k₂] := by
  have hmark := Cursor.mark_advance_space hc
  have hr₁ : c.advance.rest = x :: y :: (freshLine m ++ more) := by
    rw [Cursor.rest_advance, hc]
    rfl
  have hr₂ : c.advance.advance.rest = y :: (freshLine m ++ more) := by
    rw [Cursor.rest_advance, hr₁]
    rfl
  have hr₃ : c.advance.advance.advance.rest = freshLine m ++ more := by
    rw [Cursor.rest_advance, hr₂]
    rfl
  have hbreak : ∀ {x}, Follows [x] → ∀ z ∈ [x], isBreak z = false := fun h z hz => by
    obtain rfl := List.mem_singleton.1 hz
    exact isBreak_of_atBlank (h.solid z rfl)
  have hm₂ := Cursor.mark_advanceBy_of_inLine (hr₁ : c.advance.rest = [x] ++ _) (hbreak hxs)
  have hm₃ := Cursor.mark_advanceBy_of_inLine (hr₂ : c.advance.advance.rest = [y] ++ _) (hbreak hys)
  simp only [List.length_singleton, Cursor.advanceBy] at hm₂ hm₃
  -- a blank comes before the first bracket
  have hs₁ : (inBlock c n is a [] q).settle = .ok (inBlock c.advance n is a [] q) :=
    settle_blanks (k := 1) hc (solid_cons (hxs.solid x rfl)) (by simpa using hxs.comment)
      (by simpa using hxs.mark) (by simp only [Cursor.advanceBy, hmark]; omega)
  have hn₁ : next (inBlock c.advance n is a [] q) = .ok { inBlock c.advance.advance n is true
      (savedKeys c.advance n a q) (q ++ [⟨k₁, c.advance.mark, c.advance.advance.mark⟩]) with
        flowLevel := 1 } := by
    rw [next_eq (s := inBlock c.advance n is a [] q) hr₁, hx _ hr₁, fetchFlowStart, saveKey_inBlock]
    rfl
  have hkeys : ∀ e ∈ savedKeys c.advance n a q, e.1 = 0 ∧ e.2.mark = c.advance.mark ∧
      e.2.required = false := by
    intro e he
    rw [savedKeys] at he
    split at he
    · obtain rfl := List.mem_singleton.1 he
      refine ⟨rfl, rfl, ?_⟩
      simp only [hmark, beq_eq_false_iff_ne, ne_eq]
      omega
    · cases he
  generalize savedKeys c.advance n a q = keys at hn₁ hkeys
  generalize hq : q ++ [(⟨k₁, c.advance.mark, c.advance.advance.mark⟩ : Token)] = q' at hn₁
  have hfresh : ∀ e ∈ keys, ({ inBlock c.advance.advance n is true keys q' with
      flowLevel := 1 } : Scanner).isStale e.2 = false := by
    intro e he
    simp only [isStale, inBlock, (hkeys e he).2.1, hm₂.1, hm₂.2.1, bne_self_eq_false, Bool.false_or,
      decide_eq_false_iff_not, maxKeyLength]
    omega
  have hskip : ({ inBlock c.advance.advance n is true keys q' with flowLevel := 1 } : Scanner).skip =
      { inBlock c.advance.advance n is true keys q' with flowLevel := 1 } :=
    skip_blanks (s := { inBlock c.advance.advance n is true keys q' with flowLevel := 1 }) (k := 0)
      hr₂ (solid_cons (hys.solid y rfl)) (by simpa using hys.comment) (by simpa using hys.mark)
  have hs₂ : ({ inBlock c.advance.advance n is true keys q' with flowLevel := 1 } : Scanner).settle =
      .ok { inBlock c.advance.advance n is true keys q' with flowLevel := 1 } := by
    have hfilter : keys.filter (fun e => !({ inBlock c.advance.advance n is true keys q' with
        flowLevel := 1 } : Scanner).isStale e.2) = keys :=
      List.filter_eq_self.2 fun e he => by simp [hfresh e he]
    rw [settle_eq hskip fun e he hs => by simp [hfresh e he] at hs]
    exact congrArg (fun keys => Except.ok ({ inBlock c.advance.advance n is true keys q' with
      flowLevel := 1 } : Scanner)) hfilter
  have hlookup : keys.lookup 1 = none := by
    cases hl : keys.lookup 1 with
    | none => rfl
    | some k => exact absurd (hkeys _ (mem_of_lookup hl)).1 Nat.one_ne_zero
  have hn₂ : next { inBlock c.advance.advance n is true keys q' with flowLevel := 1 } =
      .ok (inBlock c.advance.advance.advance n is false keys
        (q' ++ [⟨k₂, c.advance.advance.mark, c.advance.advance.advance.mark⟩])) := by
    rw [next_eq (s := { inBlock c.advance.advance n is true keys q' with flowLevel := 1 }) hr₂,
      hy _ hr₂, fetchFlowEnd, dropKey]
    simp only [inBlock, hlookup]
    rfl
  have hs₃ := settle_freshLine (i := n) (a := false)
    (q := q' ++ [⟨k₂, c.advance.advance.mark, c.advance.advance.advance.mark⟩]) is keys hr₃ hmore.solid
    hmore.comment fun e he => ⟨by rw [(hkeys e he).2.1]; omega, (hkeys e he).2.2⟩
  have hcol : (c.advance.advance.advance.advanceBy (m + 1)).mark.column = m := by
    rw [Cursor.mark_advanceBy_freshLine hr₃]
  have hstarted : ∀ c', c.advance.mark.line ≤ c'.mark.line → ∀ s : Scanner, s.cursor = c' →
      s.keys = keys → s.Started := by
    rintro c' hle s rfl hs e he
    rw [hs] at he
    rw [(hkeys e he).2.1]
    exact hle
  refine ⟨_, hs₁, [⟨k₁, c.advance.mark, c.advance.advance.mark⟩,
    ⟨k₂, c.advance.advance.mark, c.advance.advance.advance.mark⟩],
    c.advance.advance.advance.advanceBy (m + 1), rfl, ?_, hcol, ?_⟩
  · rw [Cursor.rest_advanceBy, hr₃, ← length_freshLine, List.drop_left]
  · refine (reaches_of_next hn₁ (length_advance_lt hr₁) rfl
      (hstarted _ (Nat.le_of_eq hm₂.1.symm) _ rfl rfl) hs₂).trans
      (reaches_of_next hn₂ (length_advance_lt hr₂) rfl (hstarted c.advance.advance.advance (by omega) _ rfl rfl) ?_)
    rw [hs₃, ← hq]
    simp only [List.append_assoc, List.cons_append, List.nil_append]

/-! ## Tokens one after another -/

variable {P Q : List TokenKind → Prop}

theorem Yields.mono (h : Yields σ n is q m more P) (hPQ : ∀ ks, P ks → Q ks) :
    Yields σ n is q m more Q := by
  obtain ⟨ts, c', hP, h⟩ := h
  exact ⟨ts, c', hPQ _ hP, h⟩

theorem Arrives.mono (h : Arrives s n is q m more P) (hPQ : ∀ ks, P ks → Q ks) :
    Arrives s n is q m more Q := by
  obtain ⟨σ, hs, h⟩ := h
  exact ⟨σ, hs, h.mono hPQ⟩

/-- Some tokens and then those from there on. -/
theorem Gets.yields {ts : List Token} (h : Gets σ (inBlock c n is a [] (q ++ ts)))
    (hs : Arrives (inBlock c n is a [] (q ++ ts)) n is (q ++ ts) m more P) :
    Yields σ n is q m more fun ks => ∃ ls, ks = ts.map Token.kind ++ ls ∧ P ls := by
  obtain ⟨σ', hσ', us, c', hP, hrest, hcol, hr⟩ := hs
  exact ⟨ts ++ us, c', ⟨_, List.map_append, hP⟩, hrest, hcol,
    (h.reaches hσ').trans (by rwa [← List.append_assoc])⟩

/-- What follows at the column of the collection goes on with it. -/
theorem Arrives.then {more' : List Char} (h : Arrives s n is q n more' P)
    (hnext : ∀ c' ts, c'.rest = more' → c'.mark.column = n →
      Yields (inBlock c' n is true [] (q ++ ts)) n is (q ++ ts) m more Q) :
    Arrives s n is q m more fun ks => ∃ js ls, ks = js ++ ls ∧ P js ∧ Q ls := by
  obtain ⟨σ, hσ, ts, c', hP, hrest, hcol, hr⟩ := h
  obtain ⟨us, c'', hQ, hrest', hcol', hr'⟩ := hnext c' ts hrest hcol
  rw [unwind_of_le (by exact Int.le_refl _)] at hr
  exact ⟨σ, hσ, ts ++ us, c'', ⟨_, _, List.map_append, hP, hQ⟩, hrest', hcol',
    hr.trans (by rwa [← List.append_assoc])⟩

/-- What follows further left ends the collection. -/
theorem Yields.pop {k : Nat} (h : Yields σ k (n :: is) q m more P) (hm : m < k) :
    Yields σ n is q m more fun ks => ∃ ls, ks = ls ++ [.blockEnd] ∧ P ls := by
  obtain ⟨ts, c', hP, hrest, hcol, hr⟩ := h
  rw [unwind_of_lt (by exact_mod_cast hm)] at hr
  exact ⟨ts ++ [⟨.blockEnd, c'.mark, c'.mark⟩], c', ⟨_, List.map_append, hP⟩, hrest, hcol,
    by rwa [← List.append_assoc]⟩

/-! ## Starts -/

theorem blank_of_laid {sound below : Bool} {f : Form} (h : f.Laid sound n below t) :
    ∃ x u, t = x :: u ∧ Cursor.atBlank (some x) = true := by
  match f, h with
  | .scalar _ _ _, ⟨_, u, ht, _⟩ => exact ⟨' ', u, ht, by decide⟩
  | .sequence _ fs, h =>
    simp only [Form.Laid] at h
    split at h
    · exact ⟨' ', _, h, by decide⟩
    · rename_i hne
      split at h
      · match fs, h with
        | _ :: _, ⟨_, _, ht, _⟩ => exact ⟨'\n', _, ht, by decide⟩
        | [], _ => exact absurd rfl hne
      · obtain ⟨u, ht, -⟩ := h
        exact ⟨' ', u, ht, by decide⟩
  | .mapping _ _ es, h =>
    simp only [Form.Laid] at h
    obtain ⟨-, h⟩ := h
    split at h
    · exact ⟨' ', _, h, by decide⟩
    · rename_i hne
      split at h
      · match es, h with
        | (_, _) :: _, ⟨_, _, _, ht, _⟩ => exact ⟨'\n', _, ht, by decide⟩
        | [], _ => exact absurd rfl hne
      · obtain ⟨u, ht, -⟩ := h
        exact ⟨' ', u, ht, by decide⟩

/-- A sign that stands alone may come after a line end. -/
theorem follows_sign {x y : Char} (hx : Follows [x]) (hy : Cursor.atBlank (some y) = true) :
    Follows (x :: y :: more) where
  solid := solid_cons (hx.solid x rfl)
  comment := by simpa using hx.comment
  mark := by simpa using hx.mark
  separates := by
    have h1 : y ≠ '-' := by rintro rfl; exact absurd hy (by decide)
    have h2 : y ≠ '.' := by rintro rfl; exact absurd hy (by decide)
    rintro (h | h) <;>
    · simp only [List.take_succ_cons, List.cons.injEq] at h
      simp [h1, h2] at h

theorem follows_dash : Follows ['-'] := ⟨solid_cons (by decide), by simp, by simp, by simp [Separates]⟩

theorem follows_question : Follows ['?'] :=
  ⟨solid_cons (by decide), by simp, by simp, by simp [Separates]⟩

theorem follows_colon : Follows [':'] :=
  ⟨solid_cons (by decide), by simp, by simp, by simp [Separates]⟩

theorem follows_key {sound plain : Bool} {cs : List Char} (h : ScalarLaid sound n plain cs t) :
    Follows (t ++ ':' :: more) := by
  have hsep := not_separates_of_scalarLaid h
  obtain ⟨x, u, rfl, hx, hx', hx''⟩ := exists_cons_of_scalarLaid h
  exact ⟨solid_cons hx, by simpa using hx', by simpa using hx'',
    Scalar.not_separates_append hsep (by simp)⟩

/-- The entries of a mapping may come after a line end. -/
theorem follows_entries {sound : Bool} {es : List (Form × Form)} (hne : es ≠ [])
    (h : Form.EntriesLaid sound n es (freshLine n ++ t)) (more : List Char) : Follows (t ++ more) := by
  obtain ⟨⟨k, v⟩, es, rfl⟩ := List.exists_cons_of_ne_nil hne
  obtain ⟨key, u, w, ht, -, h⟩ := h
  obtain rfl := List.append_cancel_left ht
  rcases h with ⟨hk, -⟩ | ⟨u', rfl, hk, -⟩
  · match k, hk with
    | .scalar _ _ _, ⟨plain, hk, _⟩ =>
      rw [List.append_assoc, List.cons_append]
      exact follows_key hk
  · obtain ⟨x, u'', rfl, hx⟩ := blank_of_laid hk
    exact follows_sign follows_question hx

/-- The items of a sequence may come after a line end. -/
theorem follows_items {sound : Bool} {fs : List Form} (hne : fs ≠ [])
    (h : Form.ItemsLaid sound n fs (freshLine n ++ t)) (more : List Char) : Follows (t ++ more) := by
  obtain ⟨f, fs, rfl⟩ := List.exists_cons_of_ne_nil hne
  obtain ⟨u, v, ht, hf, -⟩ := h
  obtain rfl := List.append_cancel_left ht
  obtain ⟨x, u', rfl, hx⟩ := blank_of_laid hf
  exact follows_sign follows_dash hx

/-! ## Forms -/

theorem exists_dash {sound : Bool} {fs : List Form} (hne : fs ≠ [])
    (h : Form.ItemsLaid sound n fs t) :
    ∃ u, t = freshLine n ++ '-' :: u ∧ Cursor.atBlank u.head? = true := by
  obtain ⟨f, fs, rfl⟩ := List.exists_cons_of_ne_nil hne
  obtain ⟨u, v, rfl, hf, -⟩ := h
  obtain ⟨x, u, rfl, hx⟩ := blank_of_laid hf
  exact ⟨_, rfl, hx⟩

theorem exists_entry {sound : Bool} {es : List (Form × Form)} (hne : es ≠ [])
    (h : Form.EntriesLaid sound n es t) : ∃ u, t = freshLine n ++ u := by
  obtain ⟨⟨k, v⟩, es, rfl⟩ := List.exists_cons_of_ne_nil hne
  obtain ⟨key, u, w, rfl, -⟩ := h
  exact ⟨_, rfl⟩

/-- A sequence whose first dash stands here. -/
theorem yields_sequence {fs : List Form} {u : List Char} (hopen : Opens .blockSequenceStart c i is n js o)
    (hcol : c.mark.column = n) (hc : c.rest = '-' :: u) (hu : Cursor.atBlank u.head? = true)
    (h : ∀ {q : List Token}, Arrives (inBlock c.advance n js true [] q) n js q m more fun ks =>
      Form.ItemKinds fs (.blockEntry :: ks)) :
    Yields (inBlock c i is true [] q) n js q m more fun ks =>
      ∃ ls, ks = o.map Token.kind ++ ls ∧ Form.ItemKinds fs ls :=
  ((gets_dash hopen hcol hc hu).yields h).mono fun ks ⟨ls, hks, hls⟩ =>
    ⟨.blockEntry :: ls, by rw [hks]; simp, hls⟩

mutual

/-- A form after a sign of a collection. -/
theorem arrives_node : ∀ (f : Form) {n : Nat} {below : Bool} {t : List Char},
    f.Laid true n below t → ∀ {c : Cursor} {is : List Int} {q : List Token} {m : Nat}
      {more : List Char}, c.rest = t ++ (freshLine m ++ more) → Follows more → m ≤ n →
      n < c.mark.column → (below = false → c.mark.column = n + 1) →
      Arrives (inBlock c n is (!below) [] q) n is q m more (f.Kinds below)
  | .scalar a tag cs, n, below, t, h, c, is, q, m, more, hc, hmore, hm, hn, hcol => by
    obtain ⟨plain, u, rfl, hu, htag⟩ := h
    obtain ⟨x, u', hx, hsolid, hx', hx''⟩ := exists_cons_of_scalarLaid hu
    have hcol₁ : (c.advanceBy 1).mark.column = c.mark.column + 1 :=
      congrArg Mark.column (Cursor.mark_advance_space hc)
    have hrest : (c.advanceBy 1).rest = u ++ (freshLine m ++ more) := by
      rw [Cursor.rest_advanceBy, hc]
      rfl
    have hline : ((c.advanceBy 1).advanceBy u.length).rest = freshLine m ++ more := by
      rw [Cursor.rest_advanceBy, hrest, List.drop_left]
    obtain ⟨tok, htok, hr⟩ := reaches_scalar_line (i := n) (a := !below) (q := q) is hu
      (by omega) (by omega) (by omega) hrest (by omega) hmore
    refine ⟨_, settle_blanks (k := 1) hc (by rw [hx]; exact solid_cons hsolid) (by simp [hx, hx'])
      (by simp [hx, hx'']) (by omega), [tok], _, ⟨plain, by simp [htok], htag⟩, ?_, ?_, hr⟩
    · rw [Cursor.advanceBy_add, Cursor.rest_advanceBy, hline, ← length_freshLine, List.drop_left]
    · rw [Cursor.advanceBy_add, Cursor.mark_advanceBy_freshLine hline]
  | .sequence a fs, n, below, t, h, c, is, q, m, more, hc, hmore, hm, hn, hcol => by
    simp only [Form.Laid] at h
    by_cases hne : fs.isEmpty = true
    · simp only [Form.Kinds, hne, if_true] at h ⊢
      subst h
      exact arrives_brackets (fun _ _ => fetchAt_bracket) (fun _ _ => fetchAt_bracketEnd)
        ⟨solid_cons (by decide), by simp, by simp, by simp [Separates]⟩
        ⟨solid_cons (by decide), by simp, by simp, by simp [Separates]⟩ hc hmore hn
    · have hne' : fs ≠ [] := by simpa using hne
      simp only [Form.Kinds, hne] at h ⊢
      cases below with
      | true =>
        simp only [if_true] at h ⊢
        obtain ⟨u, rfl, hu⟩ := exists_dash hne' h
        have hc' : c.rest = freshLine n ++ ('-' :: (u ++ (freshLine m ++ more))) := by
          rw [hc, List.append_assoc, List.cons_append]
        have hmark := Cursor.mark_advanceBy_freshLine hc'
        have hrest : (c.advanceBy (n + 1)).rest = '-' :: (u ++ (freshLine m ++ more)) := by
          rw [Cursor.rest_advanceBy, hc', ← length_freshLine, List.drop_left]
        have hsettle := settle_freshLine (i := n) (a := false) (q := q) is [] hc'
          (solid_cons (by decide)) (by simp) (by simp)
        rw [unwind_of_le (by exact Int.le_refl _)] at hsettle
        have hcol' : (c.advanceBy (n + 1)).mark.column = n := by rw [hmark]
        have hu' : Cursor.atBlank (u ++ (freshLine m ++ more)).head? = true := by
          cases u with
          | nil => rfl
          | cons x u => exact hu
        refine ⟨_, hsettle, (yields_sequence (.inl ⟨rfl, rfl, rfl⟩) hcol' hrest hu' fun {q} =>
          arrives_items fs hne' h (q := q) ?_ hmore hm ?_).mono fun ks ⟨ls, hks, hls⟩ => ?_⟩
        · rw [Cursor.rest_advance, hrest]
          rfl
        · rw [Cursor.column_advance hrest (by decide) (by decide), hcol']
        · rw [hks]
          exact hls
      | false =>
        simp only [Bool.false_eq_true, if_false] at h ⊢
        obtain ⟨u, rfl, h⟩ := h
        obtain ⟨w, hw, hb⟩ := exists_dash hne' h
        obtain rfl := List.append_cancel_left hw
        have hrest : (c.advanceBy 1).rest = '-' :: (w ++ (freshLine m ++ more)) := by
          rw [Cursor.rest_advanceBy, hc]
          rfl
        have hcol₁ : (c.advanceBy 1).mark.column = n + 2 := by
          have := congrArg Mark.column (Cursor.mark_advance_space hc)
          exact this.trans (congrArg (· + 1) (hcol rfl))
        have hsettle : (inBlock c n is true [] q).settle =
            .ok (inBlock (c.advanceBy 1) n is true [] q) := settle_blanks (k := 1) hc
          (solid_cons (by decide)) (by simp) (by simp) (by omega)
        have hw' : Cursor.atBlank (w ++ (freshLine m ++ more)).head? = true := by
          cases w with
          | nil => rfl
          | cons x w => exact hb
        refine ⟨_, hsettle, ((yields_sequence (.inr ⟨by omega, rfl, rfl⟩) hcol₁ hrest hw' fun {q} =>
          arrives_items fs hne' h (q := q) ?_ hmore (by omega) ?_).pop (by omega)).mono
          fun ks ⟨ls, hks, js, hjs, hls⟩ => ⟨js, ?_, hls⟩⟩
        · rw [Cursor.rest_advance, hrest]
          rfl
        · rw [Cursor.column_advance hrest (by decide) (by decide), hcol₁]
        · rw [hks, hjs]
          rfl
  | .mapping a tag es, n, below, t, h, c, is, q, m, more, hc, hmore, hm, hn, hcol => by
    simp only [Form.Laid] at h
    obtain ⟨htag, h⟩ := h
    by_cases hne : es.isEmpty = true
    · simp only [Form.Kinds, hne, if_true, htag, true_and] at h ⊢
      subst h
      exact arrives_brackets (fun _ _ => fetchAt_brace) (fun _ _ => fetchAt_braceEnd)
        ⟨solid_cons (by decide), by simp, by simp, by simp [Separates]⟩
        ⟨solid_cons (by decide), by simp, by simp, by simp [Separates]⟩ hc hmore hn
    · have hne' : es ≠ [] := by simpa using hne
      simp only [Form.Kinds, hne, htag, true_and] at h ⊢
      -- the entries start further right than the sign, on its line or on the next one
      obtain ⟨u, c₁, hu, hrest, hcol₁, hsettle⟩ : ∃ u c₁,
          Form.EntriesLaid true (n + 2) es (freshLine (n + 2) ++ u) ∧
            c₁.rest = u ++ (freshLine m ++ more) ∧ c₁.mark.column = n + 2 ∧
            (inBlock c n is (!below) [] q).settle = .ok (inBlock c₁ n is true [] q) := by
        cases below with
        | true =>
          simp only [if_true] at h
          obtain ⟨u, rfl⟩ := exists_entry hne' h
          have hfollows := follows_entries hne' h (freshLine m ++ more)
          have hc' : c.rest = freshLine (n + 2) ++ (u ++ (freshLine m ++ more)) := by
            rw [hc, List.append_assoc]
          have hmark := Cursor.mark_advanceBy_freshLine hc'
          have hsettle := settle_freshLine (i := n) (a := false) (q := q) is [] hc'
            hfollows.solid hfollows.comment (by simp)
          rw [unwind_of_le (by simp only [inBlock]; omega)] at hsettle
          exact ⟨u, _, h, by rw [Cursor.rest_advanceBy, hc', ← length_freshLine, List.drop_left],
            by rw [hmark], hsettle⟩
        | false =>
          simp only [Bool.false_eq_true, if_false] at h
          obtain ⟨u, rfl, h⟩ := h
          have hfollows := follows_entries hne' h (freshLine m ++ more)
          have hcol₁ : (c.advanceBy 1).mark.column = n + 2 := by
            have := congrArg Mark.column (Cursor.mark_advance_space hc)
            exact this.trans (congrArg (· + 1) (hcol rfl))
          exact ⟨u, c.advanceBy 1, h, by rw [Cursor.rest_advanceBy, hc]; rfl, hcol₁,
            settle_blanks (k := 1) hc hfollows.solid hfollows.comment hfollows.mark (by omega)⟩
      exact ⟨_, hsettle, ((yields_entries es hne' hu hrest hmore (by omega) hcol₁
        (.inr ⟨by omega, rfl, rfl⟩)).pop (by omega)).mono fun ks ⟨ls, hks, js, hjs, hls⟩ =>
        ⟨js, by rw [hks, hjs]; rfl, hls⟩⟩

/-- The items of a sequence after the dash of the first. -/
theorem arrives_items : ∀ (fs : List Form) {n : Nat} {t : List Char}, fs ≠ [] →
    Form.ItemsLaid true n fs (freshLine n ++ '-' :: t) → ∀ {c : Cursor} {is : List Int}
      {q : List Token} {m : Nat} {more : List Char}, c.rest = t ++ (freshLine m ++ more) →
      Follows more → m ≤ n → c.mark.column = n + 1 →
      Arrives (inBlock c n is true [] q) n is q m more fun ks =>
        Form.ItemKinds fs (.blockEntry :: ks)
  | f :: fs, n, t, _, h, c, is, q, m, more, hc, hmore, hm, hcol => by
    obtain ⟨u, v, ht, hf, hfs⟩ := h
    obtain rfl := (List.cons.inj (List.append_cancel_left ht)).2
    by_cases hne : fs = []
    · subst hne
      obtain rfl := hfs
      exact (arrives_node f hf (by rw [hc, List.append_nil]) hmore hm (by omega) fun _ => hcol).mono
        fun ks hks => ⟨ks, [], by simp, hks, rfl⟩
    · obtain ⟨w, rfl, hw⟩ := exists_dash hne hfs
      have hw' : Cursor.atBlank (w ++ (freshLine m ++ more)).head? = true := by
        cases w with
        | nil => rfl
        | cons x w => exact hw
      have hfollows : Follows ('-' :: w ++ (freshLine m ++ more)) := follows_items hne hfs _
      have hitem : Arrives (inBlock c n is true [] q) n is q n ('-' :: (w ++ (freshLine m ++ more)))
          (f.Kinds false) :=
        arrives_node f hf (by rw [hc]; simp) hfollows (Nat.le_refl _) (by omega) fun _ => hcol
      refine (hitem.then
        fun c' ts hrest hcol' => yields_sequence (.inl ⟨rfl, rfl, rfl⟩) hcol' hrest hw' fun {q} =>
          arrives_items fs hne hfs (q := q) ?_ hmore hm ?_).mono fun ks ⟨js, ls, hks, hjs, is, his, hls⟩ =>
        ⟨js, ls, by rw [hks], hjs, by rw [his]; exact hls⟩
      · rw [Cursor.rest_advance, hrest]
        rfl
      · rw [Cursor.column_advance hrest (by decide) (by decide), hcol']

/-- The entries of a mapping, which may start there. -/
theorem yields_entries : ∀ (es : List (Form × Form)) {n : Nat} {t : List Char}, es ≠ [] →
    Form.EntriesLaid true n es (freshLine n ++ t) → ∀ {c : Cursor} {i : Int} {is js : List Int}
      {q o : List Token} {m : Nat} {more : List Char}, c.rest = t ++ (freshLine m ++ more) →
      Follows more → m ≤ n → c.mark.column = n → Opens .blockMappingStart c i is n js o →
      Yields (inBlock c i is true [] q) n js q m more fun ks =>
        ∃ ls, ks = o.map Token.kind ++ ls ∧ Form.EntryKinds es ls
  | (k, v) :: es, n, t, _, h, c, i, is, js, q, o, m, more, hc, hmore, hm, hcol, hopen => by
    obtain ⟨key, u, w, ht, hes, hkv⟩ := h
    obtain rfl := List.append_cancel_left ht
    -- the key, with its sign or without, up to the colon
    obtain ⟨below, ts, c₁, hgets, hrest, hcol₁, hcol₂, hv, ks, hks, hk⟩ : ∃ below ts c₁,
        Gets (inBlock c i is true [] q) (inBlock c₁ n js (!below) [] (q ++ (o ++ ts))) ∧
          c₁.rest = u ++ (w ++ (freshLine m ++ more)) ∧ n < c₁.mark.column ∧
          (below = false → c₁.mark.column = n + 1) ∧ v.Laid true n below u ∧
          ∃ ks, ts.map Token.kind = .key :: (ks ++ [.value]) ∧ k.Kinds false ks := by
      have hvalue : ∀ {b : Bool}, v.Laid true n b u →
          Cursor.atBlank (u ++ (w ++ (freshLine m ++ more))).head? = true := fun hv => by
        obtain ⟨x, u, rfl, hx⟩ := blank_of_laid hv
        exact hx
      rcases hkv with ⟨hk, hv⟩ | ⟨t, rfl, hk, hv⟩
      · match k, hk with
        | .scalar a tag cs, ⟨plain, hk, htag, hline, hlen⟩ =>
          have hc' : c.rest = key ++ ':' :: (u ++ (w ++ (freshLine m ++ more))) := by
            rw [hc]
            simp
          obtain ⟨k₁, k₂, k₃, h₁, h₂, h₃, hgets⟩ :=
            gets_key (q := q) hk hline (hlen rfl) hopen hcol hc' (hvalue hv)
          have hrest : (c.advanceBy key.length).rest = ':' :: (u ++ (w ++ (freshLine m ++ more))) := by
            rw [Cursor.rest_advanceBy, hc', List.drop_left]
          have hmark := (Cursor.mark_advanceBy_of_inLine hc' hline).2.2
          have hcolon : (c.advanceBy (key.length + 1)).mark.column =
              (c.advanceBy key.length).mark.column + 1 := by
            rw [Cursor.advanceBy_add]
            exact Cursor.column_advance hrest (by decide) (by decide)
          exact ⟨true, [k₁, k₂, k₃], _, hgets, by
            rw [Cursor.advanceBy_add, Cursor.rest_advanceBy, hrest]
            rfl, by omega, by simp, hv, [.scalar plain cs], by simp [h₁, h₂, h₃], plain, rfl, htag⟩
      · obtain ⟨x, t', rfl, hx⟩ := blank_of_laid hk
        have hc' : c.rest = '?' :: (x :: t' ++ (freshLine n ++
            (':' :: (u ++ (w ++ (freshLine m ++ more)))))) := by
          rw [hc]
          simp
        have hcol₁ : c.advance.mark.column = n + 1 := by
          rw [Cursor.column_advance hc' (by decide) (by decide), hcol]
        have hrest₁ : c.advance.rest = x :: t' ++ (freshLine n ++
            (':' :: (u ++ (w ++ (freshLine m ++ more))))) := by
          rw [Cursor.rest_advance, hc']
          rfl
        have hgets := gets_question (q := q) hopen hcol hc' hx
        have hfollows : Follows (':' :: (u ++ (w ++ (freshLine m ++ more)))) := by
          obtain ⟨y, u', rfl, hy⟩ := blank_of_laid hv
          exact follows_sign follows_colon hy
        have hkey : Arrives (inBlock c.advance n js true []
            (q ++ (o ++ [⟨.key, c.mark, c.advance.mark⟩]))) n js
            (q ++ (o ++ [⟨.key, c.mark, c.advance.mark⟩])) n
            (':' :: (u ++ (w ++ (freshLine m ++ more)))) (k.Kinds false) :=
          arrives_node k hk hrest₁ hfollows (Nat.le_refl _) (by omega) fun _ => hcol₁
        obtain ⟨σ, hσ, ts, c', hks, hrest', hcol', hr⟩ := hkey
        rw [unwind_of_le (by exact Int.le_refl _)] at hr
        have hcolon := gets_colon (q := q ++ (o ++ [⟨.key, c.mark, c.advance.mark⟩]) ++ ts) js hcol'
          hrest' (hvalue hv)
        refine ⟨false, ⟨.key, c.mark, c.advance.mark⟩ :: (ts ++ [⟨.value, c'.mark, c'.advance.mark⟩]),
          c'.advance, ?_, ?_, ?_, fun _ => ?_, hv, ts.map Token.kind, by simp, hks⟩
        · have := Gets.of_reaches ((hgets.reaches hσ).trans hr) hcolon
          simpa using this
        · rw [Cursor.rest_advance, hrest']
          rfl
        · rw [Cursor.column_advance hrest' (by decide) (by decide)]
          omega
        · rw [Cursor.column_advance hrest' (by decide) (by decide), hcol']
    -- the value and the other entries
    refine (hgets.yields (P := fun ks => ∃ js ls, ks = js ++ ls ∧ v.Kinds below js ∧
      Form.EntryKinds es ls) ?_).mono fun ks' ⟨ls, hks', is', ls', hls, his', hls'⟩ => ?_
    · by_cases hne : es = []
      · subst hne
        obtain rfl := hes
        exact (arrives_node v hv (by rw [hrest, List.nil_append]) hmore hm hcol₁ hcol₂).mono
          fun ks hks => ⟨ks, [], by simp, hks, rfl⟩
      · obtain ⟨t, rfl⟩ := exists_entry hne hes
        have hvalue : Arrives (inBlock c₁ n js (!below) [] (q ++ (o ++ ts))) n js (q ++ (o ++ ts)) n
            (t ++ (freshLine m ++ more)) (v.Kinds below) :=
          arrives_node v hv (by rw [hrest]; simp) (follows_entries hne hes _) (Nat.le_refl _) hcol₁ hcol₂
        refine (hvalue.then
          fun c' ts hrest hcol' => yields_entries es hne hes hrest hmore hm hcol'
            (.inl ⟨rfl, rfl, rfl⟩)).mono fun ks ⟨js, ls, hks, hjs, is, his, hls⟩ =>
          ⟨js, ls, hks, hjs, by rw [his]; exact hls⟩
    · exact ⟨.key :: (ks ++ .value :: (is' ++ ls')), by rw [hks', hls]; simp [hks], ks, is', ls', below,
        rfl, hk, his', hls'⟩

end

end Folio.Yaml.Scanner

namespace Folio.Yaml.Token
open Scanner

/-- **The tokens of a mapping** that is laid out from column zero. -/
theorem scan_laid {es : List (Form × Form)} {t : List Char} (hne : es ≠ [])
    (h : Form.EntriesLaid true 0 es (freshLine 0 ++ t)) :
    ∃ ts ls, scan (t ++ ['\n']) = ⟨ts, none⟩ ∧
      ts.map Token.kind = .streamStart :: .blockMappingStart :: (ls ++ [.blockEnd, .streamEnd]) ∧
      Form.EntryKinds es ls := by
  have hend : Follows [] := ⟨by simp [Solid], by simp, by simp, by simp [Separates]⟩
  have hstart := follows_entries hne h ['\n']
  have htext : Scanner.ofText (t ++ ['\n']) =
      inBlock (Cursor.ofText (t ++ ['\n'])) (-1) [] true []
        [⟨.streamStart, ⟨0, 0, 0⟩, ⟨0, 0, 0⟩⟩] := rfl
  have hsettle : (Scanner.ofText (t ++ ['\n'])).settle = .ok (Scanner.ofText (t ++ ['\n'])) := by
    rw [htext]
    exact settle_here (t := t ++ ['\n']) rfl hstart.solid hstart.comment hstart.mark (by omega)
      fun e he => nomatch he
  have hyields : Yields (inBlock (Cursor.ofText (t ++ ['\n'])) (-1) [] true []
      [⟨.streamStart, ⟨0, 0, 0⟩, ⟨0, 0, 0⟩⟩]) 0 [-1] [⟨.streamStart, ⟨0, 0, 0⟩, ⟨0, 0, 0⟩⟩] 0 [] _ :=
    yields_entries es hne h rfl hend (Nat.le_refl _) rfl (.inr ⟨by decide, rfl, rfl⟩)
  obtain ⟨ts, c', ⟨ls, hls, hes⟩, hrest, -, hr⟩ := hyields
  rw [← htext, unwind_of_le (by exact Int.le_refl _)] at hr
  have hnext : ∀ q : List Token, next (inBlock c' (0 : Nat) [-1] true [] q) =
      .ok { inBlock c' (-1) [] false [] (q ++ [⟨.blockEnd, c'.mark, c'.mark⟩] ++
        [⟨.streamEnd, c'.mark, c'.mark⟩]) with done := true } := by
    intro q
    rw [next, show (inBlock c' (0 : Nat) [-1] true [] q).cursor.peek = none by
      rw [Cursor.peek, inBlock, hrest]; rfl]
    rfl
  refine ⟨_, ls, scan_of_reaches hsettle hr (hnext _) rfl, ?_, hes⟩
  simp [inBlock, hls]

end Folio.Yaml.Token
