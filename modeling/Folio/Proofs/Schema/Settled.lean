/-
  Folio — how reading a schema source ends.

  Reading is settled if it gives something or an error on a line of the source.
  Tokens are not settled where a line goes on after a carriage return but no line
  follows, and where an integer has more digits than are converted; these are the
  only two ways (`Lexeme.Tame`).  Nodes are settled if their tokens are.

  * `Lexeme.settled_read_iff`: a single lexeme;
  * `Token.settled_ofSource_iff`: the tokens of a source;
  * `Node.settled_ofSource_iff`: its nodes.
-/
import Mathlib
import Folio.Proofs.Number.Digits
import Folio.Schema.Node

namespace Folio.Schema

/-- There is a value, or an error on a line of the source. -/
def Settled {α : Type} (x : Except SchemaError α) : Prop :=
  (∃ a, x = .ok a) ∨ ∃ problem line, x = .error (.located problem line)

section
variable {α β : Type}

theorem settled_ok (a : α) : Settled (.ok a : Except SchemaError α) := .inl ⟨a, rfl⟩

theorem settled_located (problem : SchemaProblem) (line : Nat) :
    Settled (.error (.located problem line) : Except SchemaError α) := .inr ⟨problem, line, rfl⟩

theorem not_settled_iff {x : Except SchemaError α} :
    ¬Settled x ↔ ∃ e, x = .error e ∧ ∀ problem line, e ≠ .located problem line := by
  cases x with
  | ok a => simp [Settled]
  | error e => simp [Settled]

theorem settled_map_iff {x : Except SchemaError α} {f : α → β} :
    Settled (x.map f) ↔ Settled x := by
  cases x <;> simp [Settled, Except.map]

/-- Two steps are settled if the first is and what it gives leads to a second that is. -/
theorem settled_bind_iff {x : Except SchemaError α} {f : α → Except SchemaError β} :
    Settled (x >>= f) ↔ Settled x ∧ ∀ a, x = .ok a → Settled (f a) := by
  cases x with
  | ok a => simp [Settled, bind, Except.bind]
  | error e => simp [Settled, bind, Except.bind]

end

namespace Lexeme

/-! ## Numbers -/

/-- Nothing ends without a line here. -/
structure Tame (cs : List Char) : Prop where
  /-- A line that goes on after a carriage return has a next line. -/
  nextLine : ∀ rest, cs = '\\' :: '\r' :: rest → '\n' ∈ rest
  /-- An integer has no more digits than are converted. -/
  digits : '.' ∉ numberText cs → (numberText cs).countP Text.isDecimal ≤ Number.maxDigits

section
variable {cs : List Char}

/-- Digits are digits when low lines between them are left out. -/
theorem digits_cases (cs : List Char) : digits cs = [] ∨
    (digits cs).filter (· != '_') ≠ [] ∧
      ∀ c ∈ (digits cs).filter (· != '_'), Text.isDecimal c = true := by
  unfold digits
  split
  · next h =>
    obtain ⟨c, hc, hdecimal⟩ := (Option.any_eq_true _ _).1 h
    obtain ⟨cs, rfl⟩ := List.head?_eq_some_iff.1 hc
    have hne : c ≠ '_' := Text.ne_of_isDecimal hdecimal (by decide)
    refine .inr ⟨by simp [hdecimal, hne], fun d hd => ?_⟩
    obtain ⟨hd, hlow⟩ := List.mem_filter.1 hd
    have htake := List.mem_takeWhile_imp hd
    rw [Bool.or_eq_true] at htake
    refine htake.resolve_left fun h => ?_
    rw [beq_iff_eq.1 h] at hlow
    cases hlow
  · exact .inl rfl

/-- A number as it is written, low lines left out: digits after a sign, or digits
    around a point. -/
theorem numberText_cases (h : numberText cs ≠ []) : ∃ sgn ds, Number.Signs sgn ∧ ds ≠ [] ∧
    (∀ c ∈ ds, Text.isDecimal c = true) ∧
    ((numberText cs).filter (· != '_') = sgn ++ ds ∨ ∃ es, (∀ c ∈ es, Text.isDecimal c = true) ∧
      (numberText cs).filter (· != '_') = sgn ++ (ds ++ '.' :: es)) := by
  unfold numberText at h ⊢
  dsimp only at h ⊢
  set sgn := cs.take (if cs.head? = some '+' ∨ cs.head? = some '-' then 1 else 0) with hsgn
  set whole := digits (cs.drop sgn.length)
  set after := cs.drop (sgn.length + whole.length)
  have hsigns : Number.Signs sgn := by
    cases cs with
    | nil => exact .inl (by simp [hsgn])
    | cons c cs =>
      by_cases hplus : c = '+'
      · exact .inr (.inl (by simp [hsgn, hplus]))
      · by_cases hminus : c = '-'
        · exact .inr (.inr (by simp [hsgn, hminus]))
        · exact .inl (by simp [hsgn, hplus, hminus])
  have hclean : sgn.filter (· != '_') = sgn := by
    rcases hsigns with h | h | h <;> rw [h] <;> decide
  have hplaces : ∀ c ∈ (if after.head? = some '.' then digits (after.drop 1) else []).filter
      (· != '_'), Text.isDecimal c = true := by
    split
    · rcases digits_cases (after.drop 1) with hnil | ⟨-, hdecimal⟩
      · rw [hnil]; simp
      · exact hdecimal
    · simp
  by_cases hwhole : whole.isEmpty = true
  · rw [if_pos hwhole] at h
    exact absurd rfl h
  · rw [if_neg hwhole]
    rcases digits_cases (cs.drop sgn.length) with hnil | ⟨hne, hdecimal⟩
    · exact absurd (List.isEmpty_iff.2 hnil) hwhole
    · refine ⟨sgn, whole.filter (· != '_'), hsigns, hne, hdecimal, ?_⟩
      generalize (if after.head? = some '.' then digits (after.drop 1) else []) = places at hplaces ⊢
      split
      · exact .inl (by rw [List.filter_append, hclean])
      · exact .inr ⟨_, hplaces, by simp [List.filter_append, hclean]⟩

theorem countP_filter_low (cs : List Char) :
    (cs.filter (· != '_')).countP Text.isDecimal = cs.countP Text.isDecimal := by
  rw [List.countP_filter]
  refine List.countP_congr fun c _ => ?_
  simp only [Bool.and_eq_true, and_iff_left_iff_imp, bne_iff_ne]
  exact fun h => Text.ne_of_isDecimal h (by decide)

/-- **A number is read unless it is an integer with more digits than are
    converted.** -/
theorem settled_number_iff (h : numberText cs ≠ []) : Settled (number (numberText cs)) ↔
    ('.' ∉ numberText cs → (numberText cs).countP Text.isDecimal ≤ Number.maxDigits) := by
  obtain ⟨sgn, ds, hsgn, hne, hds, hclean⟩ := numberText_cases h
  have hpoint : '.' ∈ numberText cs ↔ '.' ∈ (numberText cs).filter (· != '_') := by
    simp [List.mem_filter]
  have hnopoint : '.' ∉ sgn := by rcases hsgn with rfl | rfl | rfl <;> decide
  rw [← countP_filter_low, hpoint]
  unfold number
  dsimp only
  rcases hclean with hclean | ⟨es, hes, hclean⟩ <;> rw [hclean]
  · have hno : '.' ∉ sgn ++ ds := by
      rw [List.mem_append, not_or]
      exact ⟨hnopoint, fun hp => absurd (hds _ hp) (by decide)⟩
    have hcount : (sgn ++ ds).countP Text.isDecimal = ds.length := by
      have hsign : sgn.countP Text.isDecimal = 0 := by
        rcases hsgn with rfl | rfl | rfl <;> decide
      rw [List.countP_append, hsign, Nat.zero_add, List.countP_eq_length.2 hds]
    rw [if_neg (by simpa using hno), settled_map_iff, hcount,
      ← Number.readInt_of_isDecimal hsgn hne hds]
    simp only [hno, not_false_iff, true_imp_iff]
    cases Number.readInt 10 (sgn ++ ds) with
    | ok i => simp [Settled, Except.mapError]
    | error e => simp [Settled, Except.mapError]
  · have hin : '.' ∈ sgn ++ (ds ++ '.' :: es) := by simp
    obtain ⟨x, hx⟩ := Number.readFloat_of_isDecimal hsgn hne hds hes
    rw [if_pos (by simp), settled_map_iff, hx]
    exact ⟨fun _ hno => absurd hin hno, fun _ => settled_ok x⟩

/-! ## Lexemes -/

theorem settled_quoted (lines : Nat) (cs : List Char) : Settled (quoted lines cs) := by
  fun_induction quoted lines cs with
  | case1 => exact settled_located _ _
  | case2 => exact settled_ok _
  | case3 => exact settled_located _ _
  | case4 => exact settled_located _ _
  | case5 _ _ _ _ _ ih => exact settled_map_iff.2 ih
  | case6 _ _ _ _ _ _ ih => exact settled_map_iff.2 ih

theorem settled_raw (marks opening : Nat) (cs : List Char) : Settled (raw marks opening cs) := by
  unfold raw
  dsimp only
  split
  · exact settled_located _ _
  · exact settled_ok _

theorem settled_blockComment (rest : List Char) : Settled (blockComment rest) := by
  unfold blockComment
  split
  · exact settled_located _ _
  · exact settled_ok _

theorem settled_keyword (rest : List Char) : Settled (keyword rest) := by
  unfold keyword
  dsimp only
  split
  · exact settled_ok _
  · exact settled_located _ _

theorem find?_newline_eq_none_iff : Text.find? ['\n'] cs = none ↔ '\n' ∉ cs := by
  induction cs with
  | nil => simp [Text.find?]
  | cons c cs ih =>
    by_cases h : '\n' = c
    · subst h
      simp [Text.find?, Text.dropStart?]
    · simp [Text.find?, Text.dropStart?, h, ih]

theorem settled_continuation_iff : Settled (continuation cs) ↔ '\n' ∈ cs := by
  rw [← not_iff_not, ← find?_newline_eq_none_iff]
  unfold continuation
  split
  · next h => simp [Settled, h]
  · next h => simp [Settled, h]

theorem settled_word_iff : Settled (word cs) ↔
    ('.' ∉ numberText cs → (numberText cs).countP Text.isDecimal ≤ Number.maxDigits) := by
  unfold word
  dsimp only
  split
  · next h =>
    rw [settled_map_iff]
    exact settled_number_iff (by simpa using h)
  · next h =>
    have hnil : numberText cs = [] := by simpa using h
    refine iff_of_true ?_ fun _ => by rw [hnil]; exact Nat.zero_le _
    split
    · exact settled_located _ _
    · exact settled_ok _

variable {c : Char} {rest : List Char}

theorem numberText_eq_nil (hc : Text.isDecimal c = false) (hplus : c ≠ '+') (hminus : c ≠ '-') :
    numberText (c :: rest) = [] := by
  simp [numberText, digits, hc, hplus, hminus]

/-- What starts no number and no line end is tame. -/
theorem tame_of_ne (hc : Text.isDecimal c = false) (hsign : c ≠ '+' ∧ c ≠ '-' ∧ c ≠ '\\') :
    Tame (c :: rest) := by
  obtain ⟨hplus, hminus, hback⟩ := hsign
  refine ⟨fun more h => absurd (List.cons.inj h).1 hback, fun _ => ?_⟩
  rw [numberText_eq_nil hc hplus hminus]
  exact Nat.zero_le _

theorem tame_backslash_iff :
    Tame ('\\' :: rest) ↔ ∀ more, rest = '\r' :: more → '\n' ∈ more := by
  have hnil : numberText ('\\' :: rest) = [] :=
    numberText_eq_nil (by decide) (by decide) (by decide)
  constructor
  · rintro ⟨h, -⟩ more rfl
    exact h more rfl
  · exact fun h => ⟨fun more he => h more (List.cons.inj he).2,
      fun _ => by rw [hnil]; exact Nat.zero_le _⟩

theorem eq_of_sign?_eq_some {kind : TokenKind} (h : sign? c = some kind) :
    c = '\x7b' ∨ c = '\x7d' ∨ c = ';' ∨ c = '=' := by
  unfold sign? at h
  split at h
  · exact .inl rfl
  · exact .inr (.inl rfl)
  · exact .inr (.inr (.inl rfl))
  · exact .inr (.inr (.inr rfl))
  · cases h

/-- A raw text starts with its mark or with the letter before it. -/
theorem eq_of_rawOpening?_eq_some {opening : Nat × Nat} (h : rawOpening? (c :: rest) = some opening)
    (hquote : c ≠ '"') : c = 'r' ∨ c = '#' := by
  by_contra hno
  obtain ⟨hr, hmark⟩ := not_or.1 hno
  simp [rawOpening?, hr, hmark, hquote] at h

/-- **How reading a lexeme ends.** -/
theorem settled_read_iff : Settled (read c rest) ↔ Tame (c :: rest) := by
  unfold read
  split
  · next h =>
    refine iff_of_true (settled_ok _) ?_
    simp only [Bool.or_eq_true, beq_iff_eq] at h
    rcases h with ((rfl | rfl) | rfl) | rfl <;> exact tame_of_ne (by decide) (by decide)
  split
  · next h =>
    rw [beq_iff_eq.1 h]
    exact iff_of_true (settled_ok _) (tame_of_ne (by decide) (by decide))
  split
  · next h =>
    simp only [Bool.and_eq_true, Bool.or_eq_true, beq_iff_eq] at h
    obtain ⟨rfl, hhead⟩ := h
    rw [settled_continuation_iff, tame_backslash_iff]
    obtain ⟨d, more, rfl⟩ : ∃ d more, rest = d :: more := by
      cases rest with
      | nil => simp at hhead
      | cons d more => exact ⟨d, more, rfl⟩
    simp only [List.head?_cons, Option.some.injEq] at hhead
    rcases hhead with rfl | rfl <;> simp
  next hgoes =>
  split
  · next h =>
    obtain ⟨rfl, -⟩ : c = '/' ∧ rest.head? = some '/' := by simpa using h
    exact iff_of_true (settled_ok _) (tame_of_ne (by decide) (by decide))
  split
  · next h =>
    obtain ⟨rfl, -⟩ : c = '/' ∧ rest.head? = some '*' := by simpa using h
    exact iff_of_true (settled_blockComment _) (tame_of_ne (by decide) (by decide))
  split
  · next kind h =>
    refine iff_of_true (settled_ok _) ?_
    rcases eq_of_sign?_eq_some h with rfl | rfl | rfl | rfl <;>
      exact tame_of_ne (by decide) (by decide)
  split
  · next h =>
    rw [beq_iff_eq.1 h]
    exact iff_of_true (settled_map_iff.2 (settled_quoted _ _)) (tame_of_ne (by decide) (by decide))
  next hquote =>
  split
  · next marks opening h =>
    refine iff_of_true (settled_raw _ _ _) ?_
    rcases eq_of_rawOpening?_eq_some h (by simpa using hquote) with rfl | rfl <;>
      exact tame_of_ne (by decide) (by decide)
  split
  · next h =>
    rw [beq_iff_eq.1 h]
    exact iff_of_true (settled_keyword _) (tame_of_ne (by decide) (by decide))
  · rw [settled_word_iff]
    refine ⟨fun h => ⟨fun more he => ?_, h⟩, fun h => h.digits⟩
    obtain ⟨rfl, rfl⟩ := List.cons.inj he
    simp at hgoes

end

end Lexeme

/-! ## Tokens -/

namespace Token

/-- Scanning the text gets to this rest of it. -/
inductive Reaches : List Char → List Char → Prop where
  | here {cs} : Reaches cs cs
  | next {c l rest cs} (h : Lexeme.read c rest = .ok l) (reaches : Reaches (rest.drop l.more) cs) :
    Reaches (c :: rest) cs

theorem settled_below_iff {e : SchemaError} {line : Nat} :
    Settled (.error (e.below line) : Except SchemaError (List Token)) ↔
      Settled (.error e : Except SchemaError Lexeme) := by
  cases e <;> simp [Settled, SchemaError.below]

theorem reaches_nil_iff {cs : List Char} : Reaches [] cs ↔ cs = [] :=
  ⟨fun h => by cases h; rfl, fun h => h ▸ .here⟩

/-- Where a lexeme is, scanning gets to the place and to what comes after the lexeme. -/
theorem reaches_cons_iff {c : Char} {rest cs : List Char} {l : Lexeme}
    (h : Lexeme.read c rest = .ok l) :
    Reaches (c :: rest) cs ↔ cs = c :: rest ∨ Reaches (rest.drop l.more) cs := by
  constructor
  · intro hr
    cases hr with
    | here => exact .inl rfl
    | next h' hr =>
      cases h.symm.trans h'
      exact .inr hr
  · rintro (rfl | hr)
    · exact .here
    · exact .next h hr

/-- **How scanning ends**: it is settled if all that it gets to is tame. -/
theorem settled_scan_iff (line : Nat) (cs : List Char) :
    Settled (scan line cs) ↔ ∀ rest, Reaches cs rest → Lexeme.Tame rest := by
  fun_induction scan line cs with
  | case1 line =>
    refine iff_of_true (settled_ok _) fun rest hr => ?_
    rw [reaches_nil_iff.1 hr]
    exact ⟨fun _ h => (nomatch h), fun _ => Nat.zero_le _⟩
  | case2 line c rest e h =>
    rw [settled_below_iff, ← h, Lexeme.settled_read_iff]
    refine ⟨fun htame cs hr => ?_, fun hall => hall _ .here⟩
    cases hr with
    | here => exact htame
    | next h' => exact nomatch h.symm.trans h'
  | case3 line c rest l h e hscan ih =>
    have htame : Lexeme.Tame (c :: rest) := Lexeme.settled_read_iff.1 (h ▸ settled_ok l)
    simp only [reaches_cons_iff h, forall_eq_or_imp, htame, true_and]
    rw [← ih, hscan]
  | case4 line c rest l h tokens hscan hkind ih =>
    have htame : Lexeme.Tame (c :: rest) := Lexeme.settled_read_iff.1 (h ▸ settled_ok l)
    simp only [reaches_cons_iff h, forall_eq_or_imp, htame, true_and]
    rw [← ih, hscan]
  | case5 line c rest l h tokens hscan kind hkind ih =>
    have htame : Lexeme.Tame (c :: rest) := Lexeme.settled_read_iff.1 (h ▸ settled_ok l)
    simp only [reaches_cons_iff h, forall_eq_or_imp, htame, true_and]
    rw [← ih, hscan]
    exact iff_of_true (settled_ok _) (settled_ok _)

/-- How reading the tokens of a source ends. -/
theorem settled_ofSource_iff (source : List Char) :
    Settled (ofSource source) ↔ ∀ rest, Reaches source rest → Lexeme.Tame rest :=
  settled_scan_iff 1 source

end Token

/-! ## Nodes -/

namespace Node

theorem settled_noKey {α : Type} (kind : TokenKind) (line equals : Nat) :
    Settled (.error (noKey kind line equals) : Except SchemaError α) := by
  unfold noKey
  split
  · exact settled_located _ _
  · exact settled_located _ _

theorem settled_read (enclosing : Enclosing) (before : List Node) (current : Option Node)
    (tokens : List Token) : Settled (read enclosing before current tokens) := by
  fun_induction read enclosing before current tokens
  all_goals first
    | assumption
    | exact settled_ok _
    | exact settled_located _ _
    | exact settled_noKey _ _ _

/-- Nodes are settled if their tokens are. -/
theorem settled_ofSource_iff (source : String) :
    Settled (ofSource source) ↔ Settled (Token.ofSource source.toList) := by
  unfold ofSource
  cases Token.ofSource source.toList with
  | error e => simp [Settled]
  | ok tokens => exact iff_of_true (settled_read _ _ _ _) (settled_ok _)

end Node

end Folio.Schema
