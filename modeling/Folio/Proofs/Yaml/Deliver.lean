/-
  Folio — tokens are delivered as they are read.

  Tokens leave the queue while others are still read, but no reader looks at the
  tokens in front of those that may be keys.  So a scanner that has delivered some
  tokens is one that has not, without these (`Scanner.ahead`), and all tokens
  delivered are those in the queue when nothing is delivered at all.

  * `Tame`: what every reader of tokens keeps;
  * `Token.scan_of_run`: the tokens of a text from a run of readers.
-/
import Folio.Proofs.Yaml.Cursor
import Folio.Yaml.Token.Scan
import Mathlib.Data.List.Basic
import Mathlib.Logic.Relation
import Mathlib.Tactic.Common

namespace Folio.Yaml.Scanner

/-! ## Reading in two steps -/

/-- After what comes before the next token. -/
def skip (s : Scanner) : Scanner := toNextToken s.skipByteOrderMark.cursor.fuel s.skipByteOrderMark

/-- At the next token, with the collections ended that do not reach as far. -/
def settle (s : Scanner) : Except Error Scanner := do
  let s ← s.skip.dropStaleKeys
  return s.unwind s.cursor.mark.column

/-- Reads the token that stands here. -/
def next (s : Scanner) : Except Error Scanner :=
  match s.cursor.peek with
  | none => s.fetchEnd
  | some ch => s.fetchAt ch

theorem fetch_eq (s : Scanner) : s.fetch = s.settle >>= next := by
  rw [fetch, settle, skip]
  cases (toNextToken s.skipByteOrderMark.cursor.fuel s.skipByteOrderMark).dropStaleKeys <;> rfl

/-! ## Ahead -/

/-- With the first tokens delivered. -/
def ahead (k : Nat) (s : Scanner) : Scanner :=
  { s with queue := s.queue.drop k, taken := s.taken + k }

/-- May as many tokens be delivered?  None that may be a key is among them. -/
structure Fits (k : Nat) (s : Scanner) : Prop where
  length : k ≤ s.queue.length
  keys : ∀ e ∈ s.keys, s.taken + k ≤ e.2.number

/-- How many tokens there are, counted those that will end collections. -/
def size (s : Scanner) : Nat := s.queue.length + s.indents.length

/-- What a reader keeps of the tokens before it, of which some may be delivered, and
    how many it adds. -/
structure After (n k : Nat) (s s' : Scanner) : Prop where
  fits : Fits k s'
  take : s'.queue.take k = s.queue.take k
  taken : s'.taken = s.taken
  size : s'.size ≤ s.size + n

theorem After.trans {n m k : Nat} {s s' s'' : Scanner} (h : After n k s s') (h' : After m k s' s'') :
    After (n + m) k s s'' :=
  ⟨h'.fits, h'.take.trans h.take, h'.taken.trans h.taken, by have := h.size; have := h'.size; omega⟩

theorem After.refl {k : Nat} {s : Scanner} (h : Fits k s) : After 0 k s s := ⟨h, rfl, rfl, Nat.le_refl _⟩

/-- A change that does not look at tokens that are delivered. -/
structure Mild (n : Nat) (u : Scanner → Scanner) : Prop where
  ahead {k : Nat} {s : Scanner} : Fits k s → u (s.ahead k) = (u s).ahead k
  after {k : Nat} {s : Scanner} : Fits k s → After n k s (u s)

/-- A reader that does not look at tokens that are delivered. -/
structure Tame (n : Nat) (f : Scanner → Except Error Scanner) : Prop where
  ahead {k : Nat} {s : Scanner} : Fits k s → f (s.ahead k) = (f s).map (ahead k)
  after {k : Nat} {s s' : Scanner} : Fits k s → f s = .ok s' → After n k s s'

section
variable {n m : Nat} {u v : Scanner → Scanner} {f g : Scanner → Except Error Scanner}

theorem Mild.comp (hu : Mild n u) (hv : Mild m v) : Mild (n + m) fun s => v (u s) where
  ahead h := by simp only [hu.ahead h, hv.ahead (hu.after h).fits]
  after h := (hu.after h).trans (hv.after (hu.after h).fits)

theorem Mild.tame (hu : Mild n u) : Tame n fun s => .ok (u s) where
  ahead h := congrArg Except.ok (hu.ahead h)
  after h hs := Except.ok.inj hs ▸ hu.after h

theorem Tame.bind (hf : Tame n f) (hg : Tame m g) : Tame (n + m) fun s => f s >>= g where
  ahead {k s} h := by
    simp only [hf.ahead h]
    cases hs : f s with
    | error e => rfl
    | ok s₁ => exact hg.ahead (hf.after h hs).fits
  after {k s s'} h hs := by
    cases hs₁ : f s with
    | error e =>
      rw [hs₁] at hs
      cases hs
    | ok s₁ =>
      rw [hs₁] at hs
      exact (hf.after h hs₁).trans (hg.after (hf.after h hs₁).fits hs)

/-- A reader of characters looks at no token. -/
theorem Tame.of_read {α : Type} {r : Scanner → Except Error α} {w : α → Scanner → Scanner}
    (hr : ∀ k s, r (s.ahead k) = r s) (hw : ∀ a, Mild n (w a)) :
    Tame n fun s => r s >>= fun a => .ok (w a s) where
  ahead {k s} h := by
    simp only [hr]
    cases hs : r s with
    | error e => rfl
    | ok a => exact (hw a).tame.ahead h
  after {k s s'} h hs := by
    cases ha : r s with
    | error e =>
      rw [ha] at hs
      cases hs
    | ok a =>
      rw [ha] at hs
      exact (hw a).tame.after h hs

theorem Tame.weaken (hf : Tame n f) (h : n ≤ m) : Tame m f where
  ahead := hf.ahead
  after hk hs :=
    have ha := hf.after hk hs
    ⟨ha.fits, ha.take, ha.taken, Nat.le_trans ha.size (Nat.add_le_add_left h _)⟩

/-- A choice that does not depend on tokens. -/
theorem Mild.ite {p : Scanner → Prop} [∀ s, Decidable (p s)] (hp : ∀ k s, p (s.ahead k) ↔ p s)
    (hu : Mild n u) (hv : Mild n v) : Mild n fun s => if p s then u s else v s where
  ahead {k s} h := by
    by_cases hs : p s
    · simpa only [if_pos hs, if_pos ((hp k s).2 hs)] using hu.ahead h
    · simpa only [if_neg hs, if_neg (mt (hp k s).1 hs)] using hv.ahead h
  after {k s} h := by
    by_cases hs : p s
    · simpa only [if_pos hs] using hu.after h
    · simpa only [if_neg hs] using hv.after h

theorem Tame.ite {p : Scanner → Prop} [∀ s, Decidable (p s)] (hp : ∀ k s, p (s.ahead k) ↔ p s)
    (hf : Tame n f) (hg : Tame n g) : Tame n fun s => if p s then f s else g s where
  ahead {k s} h := by
    by_cases hs : p s
    · simpa only [if_pos hs, if_pos ((hp k s).2 hs)] using hf.ahead h
    · simpa only [if_neg hs, if_neg (mt (hp k s).1 hs)] using hg.ahead h
  after {k s s'} h hs := by
    by_cases hps : p s
    · rw [if_pos hps] at hs
      exact hf.after h hs
    · rw [if_neg hps] at hs
      exact hg.after h hs

theorem tame_error {e : Scanner → Error} (he : ∀ k s, e (ahead k s) = e s) :
    Tame 0 fun s => .error (e s) where
  ahead _ := congrArg Except.error (he _ _)
  after _ hs := by cases hs

end

/-! ## Changes -/

/-- What is not about tokens may change. -/
theorem mild_of_eq {u : Scanner → Scanner} (hq : ∀ s, (u s).queue = s.queue)
    (ht : ∀ s, (u s).taken = s.taken) (hi : ∀ s, (u s).indents = s.indents)
    (hk : ∀ s, (u s).keys ⊆ s.keys) (ha : ∀ k s, u (s.ahead k) = (u s).ahead k) : Mild 0 u where
  ahead _ := ha _ _
  after {k s} h := by
    refine ⟨⟨by rw [hq]; exact h.length, fun e he => ?_⟩, by rw [hq], ht s, ?_⟩
    · rw [ht]
      exact h.keys e (hk s he)
    · rw [size, size, hq, hi]
      exact Nat.le_refl _

theorem tame_ok : Tame 0 fun s => .ok s :=
  (mild_of_eq (u := id) (fun _ => rfl) (fun _ => rfl) (fun _ => rfl) (fun _ => List.Subset.refl _)
    fun _ _ => rfl).tame

theorem mild_push (kind : TokenKind) (start stop : Scanner → Mark)
    (hs : ∀ k s, start (ahead k s) = start s) (ht : ∀ k s, stop (ahead k s) = stop s) :
    Mild 1 fun s => s.push kind (start s) (stop s) where
  ahead {k s} h := by
    simp only [hs, ht]
    simp only [push, ahead, List.drop_append_of_le_length h.length]
  after {k s} h := by
    refine ⟨⟨?_, h.keys⟩, ?_, rfl, ?_⟩
    · simp only [push, List.length_append]
      exact Nat.le_add_right_of_le h.length
    · simp only [push, List.take_append_of_le_length h.length]
    · simp only [size, push, List.length_append, List.length_singleton]
      omega

theorem mild_pushHere (kind : TokenKind) : Mild 1 fun s => s.pushHere kind :=
  mild_push kind _ _ (fun _ _ => rfl) fun _ _ => rfl

theorem mild_moveBy (n : Nat) : Mild 0 fun s => { s with cursor := s.cursor.advanceBy n } :=
  mild_of_eq (fun _ => rfl) (fun _ => rfl) (fun _ => rfl) (fun _ => List.Subset.refl _) fun _ _ => rfl

theorem mild_take (kind : TokenKind) (n : Nat) : Mild 1 fun s => s.take kind n :=
  (mild_push kind _ _ (fun _ _ => rfl) fun _ _ => rfl).comp (mild_moveBy n)

theorem mild_keyAllowed (b : Scanner → Bool) (hb : ∀ k s, b (ahead k s) = b s) :
    Mild 0 fun s => { s with keyAllowed := b s } :=
  mild_of_eq (fun _ => rfl) (fun _ => rfl) (fun _ => rfl) (fun _ => List.Subset.refl _) fun k s => by
    simp only [hb]
    rfl

/-- Tokens that may be keys are taken out of the queue by their number only. -/
theorem insert_ahead {k number : Nat} {s : Scanner} (h : s.taken + k ≤ number)
    (hl : k ≤ s.queue.length) (kind : TokenKind) (mark : Mark) :
    (s.ahead k).insert number kind mark = (s.insert number kind mark).ahead k := by
  obtain ⟨i, rfl⟩ : ∃ i, number = s.taken + k + i := ⟨number - (s.taken + k), by omega⟩
  have h₁ : s.taken + k + i - (s.taken + k) = i := by omega
  have h₂ : s.taken + k + i - s.taken = k + i := by omega
  have hle : k ≤ (s.queue.take (k + i)).length := by
    rw [List.length_take]
    omega
  simp only [insert, ahead, h₁, h₂, List.drop_append_of_le_length hle, List.drop_take, List.drop_drop,
    Nat.add_sub_cancel_left]

theorem after_insert {k number : Nat} {s : Scanner} (hf : Fits k s) (h : s.taken + k ≤ number)
    (kind : TokenKind) (mark : Mark) : After 1 k s (s.insert number kind mark) where
  fits := by
    refine ⟨?_, hf.keys⟩
    have := hf.length
    simp only [insert, List.length_append, List.length_take, List.length_cons, List.length_drop]
    omega
  take := by
    have hk : k ≤ number - s.taken := by omega
    have := hf.length
    simp only [insert]
    rw [List.take_append_of_le_length (by rw [List.length_take]; omega), List.take_take,
      Nat.min_eq_left hk]
  taken := rfl
  size := by
    simp only [size, insert, List.length_append, List.length_take, List.length_cons, List.length_drop]
    omega

/-! ## Keys and indentation -/

theorem mild_filterKeys (p : Scanner → Nat × SimpleKey → Bool) (hp : ∀ k s, p (ahead k s) = p s) :
    Mild 0 fun s => { s with keys := s.keys.filter (p s) } :=
  mild_of_eq (fun _ => rfl) (fun _ => rfl) (fun _ => rfl) (fun _ => List.filter_subset_self _)
    fun k s => by
      simp only [hp]
      rfl

theorem tame_dropKey : Tame 0 dropKey where
  ahead {k s} h := by
    simp only [dropKey, ahead]
    cases s.keys.lookup s.flowLevel with
    | none => rfl
    | some e =>
      obtain ⟨number, required, mark⟩ := e
      cases required <;> rfl
  after {k s s'} h hs := by
    simp only [dropKey] at hs
    split at hs
    · exact Except.ok.inj hs ▸ After.refl h
    · split at hs
      · cases hs
      · exact Except.ok.inj hs ▸
          (mild_filterKeys (fun s e => e.1 != s.flowLevel) fun _ _ => rfl).after h

/-- A token that may be a key comes after those that are there. -/
theorem mild_addKey (required : Scanner → Bool) (hr : ∀ k s, required (ahead k s) = required s) :
    Mild 0 fun s => { s with keys := s.keys ++ [(s.flowLevel,
      { number := s.taken + s.queue.length, required := required s, mark := s.cursor.mark })] } where
  ahead {k s} h := by
    have hn : s.taken + k + (s.queue.length - k) = s.taken + s.queue.length := by
      have := h.length
      omega
    simp only [hr]
    simp only [ahead, List.length_drop, hn]
  after {k s} h := by
    refine ⟨⟨h.length, fun e he => ?_⟩, rfl, rfl, Nat.le_refl _⟩
    rcases List.mem_append.1 he with he | he
    · exact h.keys e he
    · obtain rfl := List.mem_singleton.1 he
      exact Nat.add_le_add_left h.length _

theorem tame_saveKey : Tame 0 saveKey :=
  (tame_dropKey.bind (mild_addKey (fun s => s.flowLevel == 0 && s.indent == (s.cursor.mark.column : Int))
    fun _ _ => rfl).tame).ite (p := fun s => s.keyAllowed = true) (fun _ _ => .rfl)
    tame_ok

/-- Each collection that ends was one that will end. -/
theorem unwindTo_ahead {k : Nat} (column : Int) {is : List Int} {s : Scanner} (hi : s.indents = is)
    (h : Fits k s) : unwindTo column is (s.ahead k) = (unwindTo column is s).ahead k ∧
      After 0 k s (unwindTo column is s) := by
  induction is generalizing s with
  | nil => exact ⟨rfl, .refl h⟩
  | cons outer rest ih =>
    rw [unwindTo, unwindTo]
    by_cases hc : column < s.indent
    · rw [if_pos hc, if_pos (show column < (s.ahead k).indent from hc)]
      have hp := mild_pushHere .blockEnd
      have hf := (hp.after h).fits
      obtain ⟨h₁, h₂⟩ := ih (s := { s.pushHere .blockEnd with indent := outer, indents := rest }) rfl
        ⟨hf.length, hf.keys⟩
      refine ⟨?_, h₂.fits, h₂.take.trans (hp.after h).take, h₂.taken, ?_⟩
      · rw [← h₁, hp.ahead h]
        rfl
      · have hs := h₂.size
        simp only [size, pushHere, push, List.length_append, List.length_nil, hi,
          List.length_cons] at hs ⊢
        omega
    · rw [if_neg hc, if_neg (show ¬column < (s.ahead k).indent from hc)]
      exact ⟨rfl, .refl h⟩

theorem mild_unwind (column : Scanner → Int) (hc : ∀ k s, column (ahead k s) = column s) :
    Mild 0 fun s => s.unwind (column s) where
  ahead {k s} h := by
    simp only [unwind, hc]
    by_cases hf : s.flowLevel = 0
    · rw [if_pos hf, if_pos (show (s.ahead k).flowLevel = 0 from hf)]
      exact (unwindTo_ahead (column s) rfl h).1
    · rw [if_neg hf, if_neg (show (s.ahead k).flowLevel ≠ 0 from hf)]
  after {k s} h := by
    simp only [unwind]
    split
    · exact (unwindTo_ahead (column s) rfl h).2
    · exact .refl h

/-- A block collection starts here. -/
def openHere (s : Scanner) : Scanner :=
  { s with indents := s.indent :: s.indents, indent := s.cursor.mark.column }

theorem mild_openHere : Mild 1 openHere where
  ahead _ := rfl
  after h := ⟨⟨h.length, h.keys⟩, rfl, rfl, by simp only [size, openHere, List.length_cons]; omega⟩

theorem openBlock_eq (s : Scanner) (kind : TokenKind) (problem : Problem) :
    s.openBlock kind problem =
      if s.flowLevel ≠ 0 then .ok s
      else if s.keyAllowed = false then .error (.marked none problem s.cursor.mark)
      else if s.indent < s.cursor.mark.column then .ok (s.openHere.pushHere kind)
      else .ok s := by
  rw [openBlock, indentTo]
  by_cases hi : s.indent < s.cursor.mark.column <;> simp [hi, openHere]

theorem tame_openBlock (kind : TokenKind) (problem : Problem) :
    Tame 2 fun s => s.openBlock kind problem := by
  simp only [openBlock_eq]
  refine .ite (fun _ _ => .rfl) (tame_ok.weaken (by omega)) ?_
  refine .ite (fun _ _ => .rfl) ((tame_error fun _ _ => rfl).weaken (by omega)) ?_
  exact .ite (fun _ _ => .rfl) (mild_openHere.comp (mild_pushHere kind)).tame (tame_ok.weaken (by omega))

/-! ## Readers -/

/-- The tokens that stay as they are, and the keys. -/
theorem mild_of_rfl {u : Scanner → Scanner} (hq : ∀ s, (u s).queue = s.queue)
    (ht : ∀ s, (u s).taken = s.taken) (hi : ∀ s, (u s).indents = s.indents)
    (hk : ∀ s, (u s).keys = s.keys) (ha : ∀ k s, u (s.ahead k) = (u s).ahead k) : Mild 0 u :=
  mild_of_eq hq ht hi (fun s => by rw [hk]; exact List.Subset.refl _) ha

theorem tame_fetchEnd : Tame 4 fetchEnd :=
  (((mild_unwind (fun _ => -1) fun _ _ => rfl).tame.bind tame_dropKey).bind
    ((mild_pushHere .streamEnd).comp (mild_of_eq
      (u := fun s => { s with keyAllowed := false, keys := [], done := true })
      (fun _ => rfl) (fun _ => rfl) (fun _ => rfl) (fun _ => List.nil_subset _)
      fun _ _ => rfl)).tame).weaken (by omega)

theorem tame_fetchDirective : Tame 4 fetchDirective :=
  (((mild_unwind (fun _ => -1) fun _ _ => rfl).tame.bind tame_dropKey).bind
    (.of_read (r := fun s => directive s.cursor)
      (w := fun a s => { s.push a.1 s.cursor.mark a.2.1 with cursor := a.2.2, keyAllowed := false })
      (fun _ _ => rfl) fun a => (mild_push a.1 (fun s => s.cursor.mark) (fun _ => a.2.1)
        (fun _ _ => rfl) fun _ _ => rfl).comp (v := fun s => { s with cursor := a.2.2, keyAllowed := false })
        (mild_of_rfl (fun _ => rfl) (fun _ => rfl) (fun _ => rfl) (fun _ => rfl) fun _ _ => rfl))).weaken
    (by omega)

theorem tame_fetchDocument (kind : TokenKind) : Tame 4 fun s => s.fetchDocument kind :=
  (((mild_unwind (fun _ => -1) fun _ _ => rfl).tame.bind tame_dropKey).bind
    ((mild_take kind 3).comp (mild_keyAllowed (fun _ => false) fun _ _ => rfl)).tame).weaken (by omega)

theorem tame_fetchFlowStart (kind : TokenKind) : Tame 4 fun s => s.fetchFlowStart kind :=
  (tame_saveKey.bind ((mild_take kind 1).comp (v := fun s => { s with flowLevel := s.flowLevel + 1, keyAllowed := true })
    (mild_of_rfl (fun _ => rfl) (fun _ => rfl) (fun _ => rfl) (fun _ => rfl) fun _ _ => rfl)).tame).weaken
    (by omega)

theorem tame_fetchFlowEnd (kind : TokenKind) : Tame 4 fun s => s.fetchFlowEnd kind :=
  (tame_dropKey.bind ((mild_take kind 1).comp (v := fun s => { s with flowLevel := s.flowLevel - 1, keyAllowed := false })
    (mild_of_rfl (fun _ => rfl) (fun _ => rfl) (fun _ => rfl) (fun _ => rfl) fun _ _ => rfl)).tame).weaken
    (by omega)

theorem tame_fetchFlowEntry : Tame 4 fetchFlowEntry :=
  (((mild_keyAllowed (fun _ => true) fun _ _ => rfl).tame.bind tame_dropKey).bind
    (mild_take .flowEntry 1).tame).weaken (by omega)

theorem tame_fetchBlockEntry : Tame 4 fetchBlockEntry :=
  ((tame_openBlock .blockSequenceStart .sequenceEntry).bind
    (((mild_keyAllowed (fun _ => true) fun _ _ => rfl).tame.bind tame_dropKey).bind
      (mild_take .blockEntry 1).tame)).weaken (by omega)

theorem tame_fetchKey : Tame 4 fetchKey :=
  ((tame_openBlock .blockMappingStart .mappingKey).bind
    (((mild_keyAllowed (fun s => s.flowLevel == 0) fun _ _ => rfl).tame.bind tame_dropKey).bind
      (mild_take .key 1).tame)).weaken (by omega)

theorem tame_fetchInline (read : Cursor → Except Error (TokenKind × Cursor)) :
    Tame 4 fun s => s.fetchInline read :=
  (tame_saveKey.bind (.of_read (r := fun s => read s.cursor)
    (w := fun a s => { s.push a.1 s.cursor.mark a.2.mark with cursor := a.2, keyAllowed := false })
    (fun _ _ => rfl) fun a => (mild_push a.1 (fun s => s.cursor.mark) (fun _ => a.2.mark)
      (fun _ _ => rfl) fun _ _ => rfl).comp (v := fun s => { s with cursor := a.2, keyAllowed := false })
      (mild_of_rfl (fun _ => rfl) (fun _ => rfl) (fun _ => rfl) (fun _ => rfl) fun _ _ => rfl))).weaken
    (by omega)

theorem tame_fetchBlockScalar (folded : Bool) : Tame 4 fun s => s.fetchBlockScalar folded :=
  (((mild_keyAllowed (fun _ => true) fun _ _ => rfl).tame.bind tame_dropKey).bind
    (.of_read (r := fun s => Scalar.block folded s.indent s.cursor)
      (w := fun a s => { s.push (.scalar false a.1) s.cursor.mark a.2.mark with cursor := a.2 })
      (fun _ _ => rfl) fun a => (mild_push (.scalar false a.1) (fun s => s.cursor.mark)
        (fun _ => a.2.mark) (fun _ _ => rfl) fun _ _ => rfl).comp
        (v := fun s => { s with cursor := a.2 })
        (mild_of_rfl (fun _ => rfl) (fun _ => rfl) (fun _ => rfl) (fun _ => rfl) fun _ _ => rfl))).weaken
    (by omega)

theorem tame_fetchPlain : Tame 4 fetchPlain :=
  (tame_saveKey.bind (.of_read
    (r := fun s => .ok (Scalar.plain (s.flowLevel != 0) (s.indent + 1).toNat s.cursor))
    (w := fun a s =>
      { s.push (.scalar true a.1) s.cursor.mark a.2.1 with cursor := a.2.2.1, keyAllowed := a.2.2.2 })
    (fun _ _ => rfl) fun a => (mild_push (.scalar true a.1) (fun s => s.cursor.mark)
      (fun _ => a.2.1) (fun _ _ => rfl) fun _ _ => rfl).comp
      (v := fun s => { s with cursor := a.2.2.1, keyAllowed := a.2.2.2 })
      (mild_of_rfl (fun _ => rfl) (fun _ => rfl) (fun _ => rfl) (fun _ => rfl) fun _ _ => rfl))).weaken
    (by omega)

/-- A block mapping starts with a key that comes before. -/
def openAt (s : Scanner) (k : SimpleKey) : Scanner :=
  if s.flowLevel = 0 ∧ s.indent < k.mark.column then
    Scanner.insert { s with indents := s.indent :: s.indents, indent := k.mark.column }
      k.number .blockMappingStart k.mark
  else s

theorem confirmKey_eq (s : Scanner) (k : SimpleKey) :
    s.confirmKey k = { openAt (Scanner.insert
      { s with keys := s.keys.filter fun e => e.1 != s.flowLevel } k.number .key k.mark) k with
        keyAllowed := false } := by
  rw [confirmKey, openAt]
  by_cases hf : s.flowLevel = 0 <;> by_cases hi : s.indent < k.mark.column <;>
    simp [indentTo, Scanner.insert, hf, hi]

theorem openAt_ahead {n : Nat} {s : Scanner} {k : SimpleKey} (hf : Fits n s)
    (hk : s.taken + n ≤ k.number) :
    (s.ahead n).openAt k = (s.openAt k).ahead n ∧ After 2 n s (s.openAt k) := by
  by_cases hc : s.flowLevel = 0 ∧ s.indent < k.mark.column
  · have ha : After 1 n s { s with indents := s.indent :: s.indents, indent := k.mark.column } :=
      ⟨⟨hf.length, hf.keys⟩, rfl, rfl, by simp only [size, List.length_cons]; omega⟩
    rw [openAt, openAt, if_pos hc, if_pos
      (show (s.ahead n).flowLevel = 0 ∧ (s.ahead n).indent < k.mark.column from hc)]
    exact ⟨insert_ahead (s := { s with indents := s.indent :: s.indents, indent := k.mark.column }) hk
      hf.length .blockMappingStart k.mark, ha.trans (after_insert ha.fits hk .blockMappingStart k.mark)⟩
  · rw [openAt, openAt, if_neg hc, if_neg
      (show ¬((s.ahead n).flowLevel = 0 ∧ (s.ahead n).indent < k.mark.column) from hc)]
    exact ⟨rfl, hf, rfl, rfl, Nat.le_add_right _ _⟩

/-- The token that turns out to be a key is not delivered yet. -/
theorem confirmKey_ahead {n : Nat} {s : Scanner} {k : SimpleKey} (hf : Fits n s)
    (hk : s.taken + n ≤ k.number) : (s.ahead n).confirmKey k = (s.confirmKey k).ahead n ∧
      After 3 n s (s.confirmKey k) := by
  have h₁ := (mild_filterKeys (fun s e => e.1 != s.flowLevel) fun _ _ => rfl).after hf
  have h₂ := after_insert h₁.fits hk .key k.mark
  have ha := insert_ahead (s := { s with keys := s.keys.filter fun e => e.1 != s.flowLevel }) hk
    h₁.fits.length .key k.mark
  obtain ⟨ha', h₃⟩ := openAt_ahead h₂.fits (k := k) hk
  have hallowed := mild_keyAllowed (fun _ => false) fun _ _ => rfl
  rw [confirmKey_eq, confirmKey_eq]
  refine ⟨?_, ((h₁.trans h₂).trans h₃).trans (hallowed.after h₃.fits)⟩
  rw [← hallowed.ahead h₃.fits, ← ha', ← ha]
  rfl

theorem mem_of_lookup {keys : List (Nat × SimpleKey)} {level : Nat} {k : SimpleKey}
    (h : keys.lookup level = some k) : (level, k) ∈ keys := by
  obtain ⟨before, after, rfl, -⟩ := List.lookup_eq_some_iff.1 h
  exact List.mem_append_right _ List.mem_cons_self

/-- The colon without a token before it that may be a key. -/
def fetchValueAlone (s : Scanner) : Except Error Scanner := do
  let s ← s.openBlock .blockMappingStart .mappingValue
  let s ← { s with keyAllowed := s.flowLevel == 0 }.dropKey
  return s.take .value 1

theorem fetchValue_eq (s : Scanner) : s.fetchValue =
    match s.keys.lookup s.flowLevel with
    | some k => .ok ((s.confirmKey k).take .value 1)
    | none => s.fetchValueAlone := by
  rw [fetchValue]
  rfl

theorem tame_fetchValueAlone : Tame 4 fetchValueAlone :=
  ((tame_openBlock .blockMappingStart .mappingValue).bind
    (((mild_keyAllowed (fun s => s.flowLevel == 0) fun _ _ => rfl).tame.bind tame_dropKey).bind
      (mild_take .value 1).tame)).weaken (by omega)

theorem tame_fetchValue : Tame 4 fetchValue where
  ahead {n s} h := by
    have hl : (s.ahead n).keys.lookup (s.ahead n).flowLevel = s.keys.lookup s.flowLevel := rfl
    rw [fetchValue_eq, fetchValue_eq, hl]
    cases hk : s.keys.lookup s.flowLevel with
    | none => exact tame_fetchValueAlone.ahead h
    | some k =>
      have ha := confirmKey_ahead h (h.keys _ (mem_of_lookup hk))
      simp only [ha.1]
      exact (mild_take .value 1).tame.ahead ha.2.fits
  after {n s s'} h hs := by
    rw [fetchValue_eq] at hs
    cases hk : s.keys.lookup s.flowLevel with
    | none =>
      rw [hk] at hs
      exact tame_fetchValueAlone.after h hs
    | some k =>
      rw [hk] at hs
      have ha := confirmKey_ahead h (h.keys _ (mem_of_lookup hk))
      exact ha.2.trans ((mild_take .value 1).tame.after ha.2.fits hs)

/-! ## The next token -/

theorem tame_fetchAt (ch : Char) : Tame 4 fun s => s.fetchAt ch := by
  unfold fetchAt
  dsimp only
  refine .ite (fun _ _ => .rfl) tame_fetchDirective ?_
  refine .ite (fun _ _ => .rfl) (tame_fetchDocument _) ?_
  refine .ite (fun _ _ => .rfl) (tame_fetchDocument _) ?_
  refine .ite (fun _ _ => .rfl) (tame_fetchFlowStart _) ?_
  refine .ite (fun _ _ => .rfl) (tame_fetchFlowStart _) ?_
  refine .ite (fun _ _ => .rfl) (tame_fetchFlowEnd _) ?_
  refine .ite (fun _ _ => .rfl) (tame_fetchFlowEnd _) ?_
  refine .ite (fun _ _ => .rfl) tame_fetchFlowEntry ?_
  refine .ite (fun _ _ => .rfl) tame_fetchBlockEntry ?_
  refine .ite (fun _ _ => .rfl) tame_fetchKey ?_
  refine .ite (fun _ _ => .rfl) tame_fetchValue ?_
  refine .ite (fun _ _ => .rfl) (tame_fetchInline _) ?_
  refine .ite (fun _ _ => .rfl) (tame_fetchInline _) ?_
  refine .ite (fun _ _ => .rfl) (tame_fetchInline _) ?_
  refine .ite (fun _ _ => .rfl) (tame_fetchBlockScalar _) ?_
  refine .ite (fun _ _ => .rfl) (tame_fetchBlockScalar _) ?_
  refine .ite (fun _ _ => .rfl) (tame_fetchInline _) ?_
  refine .ite (fun _ _ => .rfl) (tame_fetchInline _) ?_
  exact .ite (fun _ _ => .rfl) tame_fetchPlain ((tame_error fun _ _ => rfl).weaken (by omega))

theorem tame_next : Tame 4 next where
  ahead {k s} h := by
    have hp : (s.ahead k).cursor.peek = s.cursor.peek := rfl
    rw [next, next, hp]
    cases s.cursor.peek with
    | none => exact tame_fetchEnd.ahead h
    | some ch => exact (tame_fetchAt ch).ahead h
  after {k s s'} h hs := by
    rw [next] at hs
    cases hp : s.cursor.peek with
    | none =>
      rw [hp] at hs
      exact tame_fetchEnd.after h hs
    | some ch =>
      rw [hp] at hs
      exact (tame_fetchAt ch).after h hs

theorem tame_dropStaleKeys : Tame 0 dropStaleKeys where
  ahead {k s} h := by
    have hf : (s.ahead k).keys.find? (fun e => (s.ahead k).isStale e.2 && e.2.required) =
      s.keys.find? fun e => s.isStale e.2 && e.2.required := rfl
    rw [dropStaleKeys, dropStaleKeys, hf]
    cases s.keys.find? fun e => s.isStale e.2 && e.2.required <;> rfl
  after {k s s'} h hs := by
    rw [dropStaleKeys] at hs
    split at hs
    · cases hs
    · exact Except.ok.inj hs ▸ (mild_filterKeys (fun s e => !s.isStale e.2) fun _ _ => rfl).after h

/-- White space is passed over without a look at tokens. -/
theorem mild_toNextToken (fuel : Nat) : Mild 0 (toNextToken fuel) := by
  induction fuel with
  | zero => exact mild_of_rfl (fun _ => rfl) (fun _ => rfl) (fun _ => rfl) (fun _ => rfl) fun _ _ => rfl
  | succ fuel ih =>
    refine .ite (p := fun s => (s.cursor.skipSpaces.skipComment.peek.any isBreak) = true)
      (fun _ _ => .rfl) (Mild.comp (u := fun s => { s with
        cursor := s.cursor.skipSpaces.skipComment.lineBreak.2
        keyAllowed := s.keyAllowed || s.flowLevel == 0 }) ?_ ih) ?_ <;>
    exact mild_of_rfl (fun _ => rfl) (fun _ => rfl) (fun _ => rfl) (fun _ => rfl) fun _ _ => rfl

theorem mild_skipByteOrderMark : Mild 0 skipByteOrderMark :=
  .ite (fun _ _ => .rfl)
    (mild_of_rfl (fun _ => rfl) (fun _ => rfl) (fun _ => rfl) (fun _ => rfl) fun _ _ => rfl)
    (mild_of_rfl (u := id) (fun _ => rfl) (fun _ => rfl) (fun _ => rfl) (fun _ => rfl) fun _ _ => rfl)

theorem mild_skip : Mild 0 skip where
  ahead {k s} h := by
    rw [skip, mild_skipByteOrderMark.ahead h]
    exact (mild_toNextToken _).ahead (mild_skipByteOrderMark.after h).fits
  after {k s} h :=
    (mild_skipByteOrderMark.after h).trans
      ((mild_toNextToken _).after (mild_skipByteOrderMark.after h).fits)

theorem tame_settle : Tame 0 settle :=
  (mild_skip.tame.bind tame_dropStaleKeys).bind
    (mild_unwind (fun s => s.cursor.mark.column) fun _ _ => rfl).tame

theorem tame_fetch : Tame 4 fetch := by
  have h : Tame (0 + 4) fun s => s.settle >>= next := tame_settle.bind tame_next
  simpa only [← fetch_eq] using h

/-! ## Keys that are dropped early -/

/-- A key starts on no later line than the cursor is. -/
def Started (s : Scanner) : Prop := ∀ e ∈ s.keys, e.2.mark.line ≤ s.cursor.mark.line

/-- A colon that can no longer come cannot come later. -/
theorem isStale_of_le {s s' : Scanner} {k : SimpleKey} (hc : s.cursor.Le s'.cursor)
    (hk : k.mark.line ≤ s.cursor.mark.line) (h : s.isStale k = true) : s'.isStale k = true := by
  have := hc.line
  have := hc.index
  simp only [isStale, Bool.or_eq_true, bne_iff_ne, ne_eq, decide_eq_true_eq] at h ⊢
  omega

theorem le_skip (s : Scanner) : s.cursor.Le s.skip.cursor := by
  have hnext : ∀ (fuel : Nat) (s : Scanner), s.cursor.Le (toNextToken fuel s).cursor := by
    intro fuel
    induction fuel with
    | zero => exact fun s => .refl _
    | succ fuel ih =>
      intro s
      have hc : s.cursor.Le s.cursor.skipSpaces.skipComment :=
        (s.cursor.le_skip _).trans (Cursor.le_skipComment _)
      rw [toNextToken]
      split
      · exact (hc.trans (Cursor.le_lineBreak _)).trans (ih { s with
          cursor := s.cursor.skipSpaces.skipComment.lineBreak.2
          keyAllowed := s.keyAllowed || s.flowLevel == 0 })
      · exact hc
  refine Cursor.Le.trans ?_ (hnext _ _)
  rw [skipByteOrderMark]
  split
  · exact s.cursor.le_advance
  · exact .refl _

/-- Going to the next token does not depend on the keys. -/
theorem skip_withKeys (s : Scanner) (keys : List (Nat × SimpleKey)) :
    ({ s with keys } : Scanner).skip = { s.skip with keys } := by
  have hnext : ∀ (fuel : Nat) (s : Scanner),
      toNextToken fuel { s with keys } = { toNextToken fuel s with keys } := by
    intro fuel
    induction fuel with
    | zero => exact fun s => rfl
    | succ fuel ih =>
      intro s
      rw [toNextToken, toNextToken]
      split
      · exact ih { s with
          cursor := s.cursor.skipSpaces.skipComment.lineBreak.2
          keyAllowed := s.keyAllowed || s.flowLevel == 0 }
      · rfl
  have hmark : ({ s with keys } : Scanner).skipByteOrderMark =
      { s.skipByteOrderMark with keys } := by
    rw [skipByteOrderMark, skipByteOrderMark]
    split <;> rfl
  rw [skip, skip, hmark]
  exact hnext _ _

theorem keys_skip (s : Scanner) : s.skip.keys = s.keys := by
  have h := skip_withKeys s s.keys
  rw [h]

theorem dropStaleKeys_eq_ok_iff {s s' : Scanner} : s.dropStaleKeys = .ok s' ↔
    (∀ e ∈ s.keys, s.isStale e.2 = true → e.2.required = false) ∧
      s' = { s with keys := s.keys.filter fun e => !s.isStale e.2 } := by
  rw [dropStaleKeys]
  split
  · rename_i k hk
    refine iff_of_false (by simp) fun h => ?_
    have hs := List.find?_some hk
    simp only [Bool.and_eq_true] at hs
    have := h.1 k (List.mem_of_find?_eq_some hk) hs.1
    simp [hs.2] at this
  · rename_i hk
    simp only [List.find?_eq_none, Bool.and_eq_true, not_and, Bool.not_eq_true] at hk
    rw [Except.ok.injEq, eq_comm]
    exact ⟨fun h => ⟨hk, h⟩, fun h => h.2⟩

/-- Keys may be dropped before the next token is sought. -/
theorem settle_of_dropStaleKeys {s σ : Scanner} (hs : s.Started) (h : s.settle = .ok σ) :
    ∃ s', s.dropStaleKeys = .ok s' ∧ s'.settle = .ok σ := by
  rw [settle] at h
  obtain ⟨t, ht⟩ : ∃ t, s.skip.dropStaleKeys = .ok t := by
    cases ht : s.skip.dropStaleKeys with
    | error e =>
      rw [ht] at h
      cases h
    | ok t => exact ⟨t, rfl⟩
  have hstale : ∀ e ∈ s.keys, s.isStale e.2 = true → s.skip.isStale e.2 = true := fun e he =>
    isStale_of_le s.le_skip (hs e he)
  obtain ⟨hreq, rfl⟩ := dropStaleKeys_eq_ok_iff.1 ht
  rw [keys_skip] at hreq ht
  refine ⟨{ s with keys := s.keys.filter fun e => !s.isStale e.2 },
    dropStaleKeys_eq_ok_iff.2 ⟨fun e he hst => hreq e he (hstale e he hst), rfl⟩, ?_⟩
  have hdrop : ({ s with keys := s.keys.filter fun e => !s.isStale e.2 } : Scanner).skip.dropStaleKeys =
      s.skip.dropStaleKeys := by
    rw [ht, skip_withKeys, dropStaleKeys_eq_ok_iff]
    refine ⟨fun e he => hreq e (List.mem_of_mem_filter he), ?_⟩
    have hfilter : (s.keys.filter fun e => !s.isStale e.2).filter (fun e => !s.skip.isStale e.2) =
        s.keys.filter fun e => !s.skip.isStale e.2 := by
      rw [List.filter_filter]
      refine List.filter_congr fun e he => ?_
      cases hst : s.isStale e.2 with
      | false => simp
      | true => simp [hstale e he hst]
    exact congrArg (fun keys => { s.skip with keys }) hfilter.symm
  rw [settle, hdrop]
  exact h

/-! ## Runs of readers -/

/-- A run of so many readers, none of which delivers a token. -/
inductive Run : Nat → Scanner → Scanner → Prop where
  | nil (s : Scanner) : Run 0 s s
  | cons {n : Nat} {s s' e : Scanner} (done : s.done = false) (started : s.Started)
      (fetch : s.fetch = .ok s')
      (less : s'.done = true ∨ s'.cursor.rest.length < s.cursor.rest.length)
      (rest : Run n s' e) : Run (n + 1) s e

theorem Run.after {n k : Nat} {s e : Scanner} (h : Run n s e) (hk : Fits k s) :
    After (4 * n) k s e := by
  induction h with
  | nil s => exact .refl hk
  | cons done started fetch less rest ih =>
    have ha := tame_fetch.after hk fetch
    rw [Nat.mul_succ, Nat.add_comm]
    exact ha.trans (ih ha.fits)

/-- Each reader goes on, but the last may be at the end. -/
theorem Run.le_length {n : Nat} {s e : Scanner} (h : Run n s e) :
    n ≤ s.cursor.rest.length + 1 := by
  induction h with
  | nil s => exact Nat.zero_le _
  | cons done started fetch less rest ih =>
    rcases less with hd | hl
    · cases rest with
      | nil => omega
      | cons done' => simp [hd] at done'
    · omega

/-- A key that may come is none of the tokens that are delivered next. -/
theorem Fits.succ {k : Nat} {s : Scanner} (h : Fits k s) (hl : k < s.queue.length)
    (hb : (s.ahead k).holdsBack = false) : Fits (k + 1) s := by
  refine ⟨hl, fun e he => ?_⟩
  have hle := h.keys e he
  by_contra hlt
  have heq : e.2.number = s.taken + k := by omega
  have hmin : (s.keys.map fun e => e.2.number).min? = some (s.taken + k) := by
    refine List.min?_eq_some_iff.2 ⟨List.mem_map.2 ⟨e, he, heq⟩, fun n hn => ?_⟩
    obtain ⟨e', he', rfl⟩ := List.mem_map.1 hn
    exact h.keys e' he'
  simp [holdsBack, ahead, hmin] at hb

end Folio.Yaml.Scanner

namespace Folio.Yaml.Token
open Scanner

theorem deliver_of_done {fuel : Nat} {s : Scanner} (hd : s.done = true)
    (hf : s.queue.length < fuel) : deliver fuel s = ⟨s.queue, none⟩ := by
  induction fuel generalizing s with
  | zero => omega
  | succ fuel ih =>
    rw [deliver, if_pos hd]
    cases hq : s.queue with
    | nil => simp only [hq]
    | cons t queue =>
      rw [hq, List.length_cons] at hf
      simp only [hq, ih (s := { s with queue, taken := s.taken + 1 }) hd (by simpa using hf)]

theorem deliver_of_run {fuel n k : Nat} {s e : Scanner} (h : Run n s e) (hd : e.done = true)
    (hk : Fits k s) (hf : n + (e.queue.length - k) < fuel) :
    deliver fuel (s.ahead k) = ⟨e.queue.drop k, none⟩ := by
  induction fuel generalizing n k s with
  | zero => omega
  | succ fuel ih =>
    cases h with
    | nil =>
      refine deliver_of_done hd ?_
      simp only [ahead, List.length_drop]
      omega
    | @cons n _ s' _ done started fetch less rest =>
      have hfetch : ∀ s₁ : Scanner, Fits k s₁ → s₁.fetch = .ok s' →
          (s₁.ahead k).fetch = .ok (s'.ahead k) ∧
            deliver fuel (s'.ahead k) = ⟨e.queue.drop k, none⟩ := by
        intro s₁ hk₁ hs₁
        rw [tame_fetch.ahead hk₁, hs₁]
        exact ⟨rfl, ih rest (tame_fetch.after hk₁ hs₁).fits (by omega)⟩
      rw [deliver, if_neg (by simp [ahead, done])]
      by_cases hq : (s.ahead k).queue.isEmpty = true
      · obtain ⟨hnext, hdeliver⟩ := hfetch s hk fetch
        rw [if_pos hq]
        simp only [hnext]
        exact hdeliver
      · rw [if_neg hq]
        obtain ⟨σ, hσ⟩ : ∃ σ, s.settle = .ok σ := by
          rw [fetch_eq] at fetch
          cases hσ : s.settle with
          | error e =>
            rw [hσ] at fetch
            cases fetch
          | ok σ => exact ⟨σ, rfl⟩
        obtain ⟨s₁, hs₁, hσ₁⟩ := settle_of_dropStaleKeys started hσ
        have hfetch₁ : s₁.fetch = .ok s' := by rw [fetch_eq, hσ₁, ← fetch, fetch_eq, hσ]
        have hk₁ := (tame_dropStaleKeys.after hk hs₁).fits
        rw [tame_dropStaleKeys.ahead hk, hs₁]
        simp only [Except.map]
        cases hb : (s₁.ahead k).holdsBack with
        | true =>
          obtain ⟨hnext, hdeliver⟩ := hfetch s₁ hk₁ hfetch₁
          simp only [hnext]
          exact hdeliver
        | false =>
          obtain ⟨-, rfl⟩ := dropStaleKeys_eq_ok_iff.1 hs₁
          have hl : k < s.queue.length := by
            simpa [ahead] using hq
          have hk₂ := hk₁.succ hl hb
          have hrun : Run (n + 1) { s with keys := s.keys.filter fun e => !s.isStale e.2 } e :=
            .cons done (fun e he => started e (List.mem_of_mem_filter he)) hfetch₁ less rest
          have ha := hrun.after hk₂
          have hle := ha.fits.length
          have hdrop := ih hrun hk₂ (by omega)
          have hget : e.queue[k]? = s.queue[k]? := by
            have := congrArg (fun l => l[k]?) ha.take
            simpa [List.getElem?_take] using this
          have hcons : e.queue.drop k = s.queue[k] :: e.queue.drop (k + 1) := by
            rw [List.drop_eq_getElem_cons hle]
            congr 1
            rw [List.getElem?_eq_getElem hle, List.getElem?_eq_getElem hl] at hget
            exact Option.some.inj hget
          have hqueue : s.queue.drop k = s.queue[k] :: s.queue.drop (k + 1) :=
            List.drop_eq_getElem_cons hl
          simp only [ahead] at hdrop ⊢
          rw [hqueue, hcons]
          simp only [Nat.add_assoc, hdrop]

end Folio.Yaml.Token

/-! ## From one settled state to the next -/

namespace Folio.Yaml.Scanner

/-- A token is read, and then the scanner is at the next one. -/
def Steps (σ σ' : Scanner) : Prop :=
  ∃ s, next σ = .ok s ∧ s.done = false ∧ s.Started ∧ s.settle = .ok σ' ∧
    s.cursor.rest.length < σ.cursor.rest.length

/-- Some tokens are read. -/
abbrev Reaches : Scanner → Scanner → Prop := Relation.ReflTransGen Steps

theorem cursor_unwind (s : Scanner) (column : Int) : (s.unwind column).cursor = s.cursor := by
  have hto : ∀ (is : List Int) (s : Scanner), (unwindTo column is s).cursor = s.cursor := by
    intro is
    induction is with
    | nil => exact fun _ => rfl
    | cons outer rest ih =>
      intro s
      rw [unwindTo]
      split
      · exact ih _
      · rfl
  rw [unwind]
  split
  · exact hto _ s
  · rfl

theorem cursor_settle {s σ : Scanner} (h : s.settle = .ok σ) : σ.cursor = s.skip.cursor := by
  rw [settle] at h
  cases hd : s.skip.dropStaleKeys with
  | error e =>
    rw [hd] at h
    cases h
  | ok t =>
    rw [hd] at h
    obtain ⟨-, rfl⟩ := dropStaleKeys_eq_ok_iff.1 hd
    obtain rfl := Except.ok.inj h
    exact cursor_unwind _ _

theorem run_of_reaches {σ σ' s e : Scanner} (h : Reaches σ σ') (hs : s.settle = .ok σ)
    (hd : s.done = false) (hst : s.Started) (he : next σ' = .ok e) (hdone : e.done = true) :
    ∃ n, Run n s e := by
  induction h using Relation.ReflTransGen.head_induction_on generalizing s with
  | refl =>
    exact ⟨1, .cons hd hst (by rw [fetch_eq, hs]; exact he) (.inl hdone) (.nil e)⟩
  | head h _ ih =>
    obtain ⟨s', hn, hd', hst', hs', hl⟩ := h
    obtain ⟨n, hrun⟩ := ih hs' hd' hst'
    have := s.le_skip.rest
    rw [← cursor_settle hs] at this
    exact ⟨n + 1, .cons hd hst (by rw [fetch_eq, hs]; exact hn) (.inr (by omega)) hrun⟩

end Folio.Yaml.Scanner

namespace Folio.Yaml.Token
open Scanner

/-- **All tokens of a text are delivered** in the order in which a run that delivers
    none has them. -/
theorem scan_of_reaches {text : List Char} {σ σ' e : Scanner}
    (hσ : (Scanner.ofText text).settle = .ok σ) (h : Reaches σ σ') (he : next σ' = .ok e)
    (hd : e.done = true) : scan text = ⟨e.queue, none⟩ := by
  obtain ⟨n, hrun⟩ := run_of_reaches h hσ rfl (fun _ hk => nomatch hk) he hd
  have hk : Fits 0 (Scanner.ofText text) := ⟨Nat.zero_le _, fun _ hk => nomatch hk⟩
  have hlen := hrun.le_length
  have hsize := (hrun.after hk).size
  have htext : (Scanner.ofText text).cursor.rest.length = text.length := rfl
  have hone : (Scanner.ofText text).size = 1 := rfl
  rw [size, hone] at hsize
  rw [htext] at hlen
  exact deliver_of_run (k := 0) hrun hd hk (by omega)

end Folio.Yaml.Token
