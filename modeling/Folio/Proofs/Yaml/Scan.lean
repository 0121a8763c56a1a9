/-
  Folio — how cutting a text into tokens fails.

  Tokens are read before any scalar is converted.  Only two conversions are made on
  the way, that of the number in an escape and that of a version number, so no other
  misfit can come up (`Reads`), whatever the text, unless nothing is said of it.

  * `Scanner.reads_fetch`: the next token;
  * `Token.isOfReading_of_deliver`: all tokens.
-/
import Mathlib
import Folio.Yaml.Token.Scan

namespace Folio.Yaml

/-- Is it the misfit of an escape, whose number is that of no character?  That of a
    version number with too many digits counts as one. -/
def Misfit.isOfEscape : Misfit → Bool
  | .characterRange | .characterOverflow | .number (.longInt _) => true
  | _ => false

/-- Is nothing said of the text? -/
def Misfit.isUnclear : Misfit → Bool
  | .unclear _ => true
  | _ => false

/-- Can the error come up before scalars are converted? -/
def Error.isOfReading : Error → Bool
  | .misfit m => m.isOfEscape || m.isUnclear
  | _ => true

/-- A step fails with no misfit but that of an escape, unless nothing is said of the text. -/
def Reads {α : Type} (x : Except Error α) : Prop := ∀ e, x = .error e → e.isOfReading = true

section
variable {α β : Type}

@[simp] theorem reads_ok (a : α) : Reads (.ok a) := fun _ h => by cases h

@[simp] theorem reads_pure (a : α) : Reads (pure a) := reads_ok a

@[simp] theorem reads_error {e : Error} : Reads (.error e : Except Error α) ↔ e.isOfReading = true :=
  ⟨fun h => h e rfl, fun h _ he => by cases he; exact h⟩

@[simp] theorem reads_throw {e : Error} : Reads (throw e : Except Error α) ↔ e.isOfReading = true :=
  reads_error

@[simp] theorem isOfReading_marked (a : Option (Activity × Option Mark)) (p : Problem) (m : Mark) :
    (Error.marked a p m).isOfReading = true := rfl

@[simp] theorem reads_bind {x : Except Error α} {f : α → Except Error β} :
    Reads (x >>= f) ↔ Reads x ∧ ∀ a, x = .ok a → Reads (f a) := by
  cases x with
  | error e => simp [bind, Except.bind]
  | ok a => simp [bind, Except.bind]

@[simp] theorem reads_map {x : Except Error α} {f : α → β} : Reads (x.map f) ↔ Reads x := by
  cases x with
  | error e => simp [Except.map]
  | ok a => simp [Except.map]

@[simp] theorem reads_fmap {x : Except Error α} {f : α → β} : Reads (f <$> x) ↔ Reads x :=
  reads_map

@[simp] theorem reads_ite {c : Prop} [Decidable c] {x y : Except Error α} :
    Reads (if c then x else y) ↔ (c → Reads x) ∧ (¬ c → Reads y) := by
  split <;> simp [*]

end

/-! ## Scalars -/

namespace Scalar

theorem reads_quotedBreaks (start : Mark) (fuel : Nat) (c : Cursor) :
    Reads (quotedBreaks start fuel c) := by
  fun_induction quotedBreaks start fuel c <;> simp_all

theorem reads_quotedGap (start : Mark) (c : Cursor) : Reads (quotedGap start c) := by
  unfold quotedGap
  dsimp only
  split
  · simp
  · split
    · split
      · simp
      · next e he => simpa using reads_quotedBreaks _ _ _ e he
    · simp

theorem reads_charOf (n : Nat) : Reads (charOf n) := by
  simp [charOf, Error.isOfReading, Misfit.isOfEscape, Misfit.isUnclear]

theorem reads_escape (start : Mark) (c : Cursor) : Reads (escape start c) := by
  unfold escape
  dsimp only
  split
  · simp
  · split
    · simp
    · split
      · simp
      · split
        · simp
        · next e he => simpa using reads_charOf _ e he
    · simp [reads_quotedBreaks]

theorem reads_quotedWord (double : Bool) (start : Mark) (fuel : Nat) (c : Cursor) :
    Reads (quotedWord double start fuel c) := by
  induction fuel generalizing c with
  | zero => simp [quotedWord]
  | succ fuel ih =>
    rw [quotedWord]
    dsimp only
    split
    · simp
    · simp [ih, reads_escape]

theorem reads_quotedFrom (double : Bool) (start : Mark) (fuel : Nat) (c : Cursor) :
    Reads (quotedFrom double start fuel c) := by
  induction fuel generalizing c with
  | zero => simp [quotedFrom]
  | succ fuel ih => simp [quotedFrom, ih, reads_quotedGap, reads_quotedWord]

theorem reads_quoted (double : Bool) (c : Cursor) : Reads (quoted double c) := by
  simp [quoted, reads_quotedWord, reads_quotedFrom]

theorem reads_increment? (start : Mark) (c : Cursor) : Reads (increment? start c) := by
  unfold increment?
  split <;> simp

theorem reads_indicators (start : Mark) (c : Cursor) : Reads (blockHeader.indicators start c) := by
  unfold blockHeader.indicators
  split
  · simp [reads_increment?]
  · refine reads_bind.2 ⟨reads_increment? _ _, fun p _ => ?_⟩
    dsimp only
    split <;> simp

theorem reads_blockHeader (start : Mark) (c : Cursor) : Reads (blockHeader start c) := by
  simp [blockHeader, reads_indicators]

theorem reads_block (folded : Bool) (indent : Int) (c : Cursor) : Reads (block folded indent c) := by
  simp [block, reads_blockHeader]

end Scalar

/-! ## Tags, anchors and directives -/

theorem reads_uriOctets (activity : Activity) (start : Mark) (fuel : Nat) (c : Cursor) :
    Reads (uriOctets activity start fuel c) := by
  fun_induction uriOctets activity start fuel c <;> simp_all

theorem reads_uriChars (activity : Activity) (start : Mark) (fuel : Nat) (c : Cursor) :
    Reads (uriChars activity start fuel c) := by
  induction fuel generalizing c with
  | zero => simp [uriChars]
  | succ fuel ih =>
    rw [uriChars]
    split
    · simp
    · split
      · refine reads_bind.2 ⟨reads_uriOctets _ _ _ _, fun p _ => ?_⟩
        dsimp only
        split <;> simp [ih]
      · simp [ih]

theorem reads_uri (scanning parsing : Activity) (start : Mark) (c : Cursor) :
    Reads (uri scanning parsing start c) := by
  simp [uri, reads_uriChars]

theorem reads_handle (activity : Activity) (start : Mark) (c : Cursor) :
    Reads (handle activity start c) := by
  simp [handle]

theorem reads_tagParts (start : Mark) (c : Cursor) : Reads (tagParts start c) := by
  simp [tagParts, reads_uri, reads_handle]

theorem reads_tag (c : Cursor) : Reads (tag c) := by
  simp [tag, reads_tagParts]

theorem reads_anchorName (activity : Activity) (c : Cursor) : Reads (anchorName activity c) := by
  simp [anchorName]

theorem reads_directiveNumber (start : Mark) (c : Cursor) : Reads (directiveNumber start c) := by
  simp [directiveNumber, Error.isOfReading, Misfit.isOfEscape]

theorem reads_version (start : Mark) (c : Cursor) : Reads (version start c) := by
  simp [version, reads_directiveNumber]

theorem reads_handleDirective (start : Mark) (c : Cursor) : Reads (handleDirective start c) := by
  simp [handleDirective, reads_handle, reads_uri]

theorem reads_directive (c : Cursor) : Reads (directive c) := by
  simp [directive, reads_version, reads_handleDirective]


/-! ## Tokens -/

namespace Scanner
variable (s : Scanner)

@[simp] theorem isOfReading_missingColon (k : SimpleKey) : (s.missingColon k).isOfReading = true := rfl

@[simp] theorem reads_dropStaleKeys : Reads s.dropStaleKeys := by
  unfold dropStaleKeys
  split <;> simp

@[simp] theorem reads_dropKey : Reads s.dropKey := by
  unfold dropKey
  split <;> simp

@[simp] theorem reads_saveKey : Reads s.saveKey := by
  simp [saveKey]

@[simp] theorem reads_openBlock (kind : TokenKind) (p : Problem) : Reads (s.openBlock kind p) := by
  unfold openBlock
  split
  · simp
  · split
    · simp
    · split <;> simp

theorem reads_fetchEnd : Reads s.fetchEnd := by simp [fetchEnd]

theorem reads_fetchDirective : Reads s.fetchDirective := by simp [fetchDirective, reads_directive]

theorem reads_fetchDocument (kind : TokenKind) : Reads (s.fetchDocument kind) := by
  simp [fetchDocument]

theorem reads_fetchFlowStart (kind : TokenKind) : Reads (s.fetchFlowStart kind) := by
  simp [fetchFlowStart]

theorem reads_fetchFlowEnd (kind : TokenKind) : Reads (s.fetchFlowEnd kind) := by
  simp [fetchFlowEnd]

theorem reads_fetchFlowEntry : Reads s.fetchFlowEntry := by simp [fetchFlowEntry]

theorem reads_fetchBlockEntry : Reads s.fetchBlockEntry := by simp [fetchBlockEntry]

theorem reads_fetchKey : Reads s.fetchKey := by simp [fetchKey]

theorem reads_fetchValue : Reads s.fetchValue := by
  unfold fetchValue
  split <;> simp

theorem reads_fetchInline {read : Cursor → Except Error (TokenKind × Cursor)}
    (h : ∀ c, Reads (read c)) : Reads (s.fetchInline read) := by
  simp [fetchInline, h]

theorem reads_fetchBlockScalar (folded : Bool) : Reads (s.fetchBlockScalar folded) := by
  simp [fetchBlockScalar, Scalar.reads_block]

theorem reads_fetchPlain : Reads s.fetchPlain := by simp [fetchPlain]

theorem reads_fetchAt (ch : Char) : Reads (s.fetchAt ch) := by
  simp [fetchAt, reads_fetchDirective, reads_fetchDocument, reads_fetchFlowStart,
    reads_fetchFlowEnd, reads_fetchFlowEntry, reads_fetchBlockEntry, reads_fetchKey,
    reads_fetchValue, reads_fetchInline, reads_fetchBlockScalar, reads_fetchPlain,
    reads_anchorName, reads_tag, Scalar.reads_quoted]

theorem reads_fetch : Reads s.fetch := by
  refine reads_bind.2 ⟨reads_dropStaleKeys _, fun s' _ => ?_⟩
  dsimp only
  split
  · exact reads_fetchEnd _
  · exact reads_fetchAt _ _

end Scanner

/-- **The error after the tokens** is none of a conversion but that of an escape. -/
theorem Token.isOfReading_of_deliver {fuel : Nat} {s : Scanner} {e : Error}
    (h : (deliver fuel s).error = some e) : e.isOfReading = true := by
  fun_induction deliver fuel s with
  | case1 => cases h
  | case2 fuel s more e' hm =>
    cases h
    have hmore : Reads more := by simp [more]
    exact hmore _ hm
  | case3 fuel s more s' hm e' hf =>
    cases h
    exact Scanner.reads_fetch _ _ hf
  | case4 fuel s more s' hm s'' hf ih => exact ih h
  | case5 => cases h
  | case6 fuel s more s' hm t queue hq rest ih => exact ih h

end Folio.Yaml
