/-
  Folio — what is written as a schema source scans as its tokens.

  What follows a text in the source does not matter, since quotes and marks say
  where the text ends; an integer and a keyword end before a space or the end of
  the line (`Ends`).  So each part scans as its own tokens (`Scans`), and the parts
  of a node as those of all of them in order.

  * `Quotation.scans`, `Literal.scans`: texts and values;
  * `Written.scans_sources`: nodes.
-/
import Folio.Proofs.Schema.Written

namespace Folio.Schema

/-! ## Scanning -/

/-- On whatever line it stands, the text scans as tokens of these kinds if `rest`
    follows it. -/
def Scans (cs rest : List Char) (kinds : List TokenKind) : Prop :=
  ∀ line, ∃ line' ts, ts.map Token.kind = kinds ∧
    Token.scan line (cs ++ rest) = (Token.scan line' rest).map (ts ++ ·)

section
variable {cs ds rest : List Char} {ks ls : List TokenKind}

theorem scans_nil : Scans [] rest [] :=
  fun line => ⟨line, [], rfl, by rw [List.nil_append]; cases Token.scan line rest <;> rfl⟩

theorem Scans.append (h : Scans cs (ds ++ rest) ks) (h' : Scans ds rest ls) :
    Scans (cs ++ ds) rest (ks ++ ls) := by
  intro line
  obtain ⟨line', ts, hts, hscan⟩ := h line
  obtain ⟨line'', us, hus, hscan'⟩ := h' line'
  refine ⟨line'', ts ++ us, by rw [List.map_append, hts, hus], ?_⟩
  rw [List.append_assoc, hscan, hscan']
  cases Token.scan line'' rest with
  | error e => rfl
  | ok us' => simp [Except.map]

/-- What a lexeme takes scans as its token, whatever line ends it counts. -/
theorem scans_of_read {c : Char} {lines : Nat} (kind : Option TokenKind)
    (h : Lexeme.read c (cs ++ rest) = .ok ⟨cs.length, lines, kind⟩) :
    Scans (c :: cs) rest kind.toList := by
  intro line
  refine ⟨line + lines,
    kind.toList.map fun k => ⟨k, Lexeme.tokenLine ⟨cs.length, lines, kind⟩ line⟩,
    by cases kind <;> rfl, ?_⟩
  rw [List.cons_append, Token.scan, h]
  simp only [List.drop_left]
  cases Token.scan (line + lines) rest with
  | error e => rfl
  | ok ts => cases kind <;> rfl

theorem scans_sign {c : Char} {lines : Nat} {kind : TokenKind}
    (h : Lexeme.read c rest = .ok ⟨0, lines, some kind⟩) : Scans [c] rest [kind] :=
  scans_of_read (some kind) (h : Lexeme.read c ([] ++ rest) = _)

theorem scans_value {c : Char} (lines : Nat) (v : Scalar)
    (h : Lexeme.read c (cs ++ rest) = .ok ⟨cs.length, lines, some (.scalar v)⟩) :
    Scans (c :: cs) rest [.scalar v] :=
  scans_of_read (some (.scalar v)) h

theorem scans_space : Scans [' '] rest [] :=
  scans_of_read none (rfl : Lexeme.read ' ' ([] ++ rest) = .ok (.gap 0 0))

theorem scans_spaces (n : Nat) : Scans (List.replicate n ' ') rest [] := by
  induction n with
  | zero => exact scans_nil
  | succ n ih => exact scans_space.append ih

end

/-! ## Texts -/

theorem quoted_escaped (lines : Nat) (cs rest : List Char) :
    Lexeme.quoted lines (escaped cs ++ '"' :: rest) =
      .ok (cs, (escaped cs).length + 1, lines + cs.count '\n') := by
  induction cs generalizing lines with
  | nil => rfl
  | cons c cs ih =>
    by_cases h : c = '"' ∨ c = '\\'
    · have he : escaped (c :: cs) = '\\' :: c :: escaped cs := by simp [escaped, h]
      have hc : Lexeme.escape? c = some c := by rcases h with rfl | rfl <;> rfl
      have hn : c ≠ '\n' := by rcases h with rfl | rfl <;> decide
      simp [he, Lexeme.quoted, hc, ih, Except.map, List.count_cons_of_ne hn]
    · have he : escaped (c :: cs) = c :: escaped cs := by simp [escaped, h]
      obtain ⟨hq, hb⟩ := not_or.1 h
      rw [he, List.count_cons]
      by_cases hn : c = '\n' <;>
        simp [Lexeme.quoted, hb, hn, ih, Except.map, Nat.add_assoc, Nat.add_comm 1]

section
variable {lead : Bool} {marks : Nat} (h : lead = true ∨ 0 < marks)
include h

theorem rawOpening_eq_cons : ∃ c cs, rawOpening lead marks = c :: cs ∧ (c = 'r' ∨ c = '#') := by
  cases lead with
  | true => exact ⟨_, _, rfl, Or.inl rfl⟩
  | false =>
    obtain ⟨n, rfl⟩ := Nat.exists_eq_succ_of_ne_zero (Nat.ne_of_gt (h.resolve_left (by simp)))
    exact ⟨_, _, rfl, Or.inr rfl⟩

theorem rawOpening?_rawOpening (rest : List Char) :
    Lexeme.rawOpening? (rawOpening lead marks ++ rest) =
      some (marks, (rawOpening lead marks).length) := by
  have htake : (List.replicate marks '#' ++ '"' :: rest).takeWhile (· == '#') =
      List.replicate marks '#' := by
    rw [List.takeWhile_append_of_pos (by simp)]
    simp
  cases lead with
  | true => simp [rawOpening, Lexeme.rawOpening?, htake]; omega
  | false =>
    obtain ⟨n, rfl⟩ := Nat.exists_eq_succ_of_ne_zero (Nat.ne_of_gt (h.resolve_left (by simp)))
    rw [List.replicate_succ, List.cons_append] at htake
    simp [rawOpening, Lexeme.rawOpening?, List.replicate_succ, htake]

omit h in
theorem raw_rawOpening (lead : Bool) {cs : List Char} (hcs : ¬ rawClosing marks <:+: cs)
    (rest : List Char) :
    Lexeme.raw marks (rawOpening lead marks).length
        (rawOpening lead marks ++ (cs ++ (rawClosing marks ++ rest))) =
      .ok ⟨(rawOpening lead marks).length + cs.length + marks, cs.count '\n',
        some (.scalar (.text (String.ofList cs)))⟩ := by
  have hfind : Text.find? ('"' :: List.replicate marks '#') (cs ++ (rawClosing marks ++ rest)) =
      some cs.length := by
    rw [← List.append_assoc]
    exact Text.find?_append (by simp) hcs rest
  simp [Lexeme.raw, hfind]

end

/-- A raw text starts with a character that starts nothing else. -/
theorem read_of_rawOpening? {c : Char} {cs : List Char} {marks opening : Nat}
    (hc : c = 'r' ∨ c = '#') (h : Lexeme.rawOpening? (c :: cs) = some (marks, opening)) :
    Lexeme.read c cs = Lexeme.raw marks opening (c :: cs) := by
  rcases hc with rfl | rfl <;> simp [Lexeme.read, Lexeme.sign?, h]

theorem Quotation.scans (q : Quotation) (rest : List Char) :
    Scans q.source rest [.scalar (.text q.text)] := by
  obtain ⟨text, form, suits⟩ := q
  cases form with
  | quoted =>
    change Scans ('"' :: (escaped text.toList ++ ['"'])) rest _
    refine scans_value (text.toList.count '\n') (.text text) ?_
    simp [Lexeme.read, Lexeme.sign?, quoted_escaped, Except.map]
  | raw lead marks =>
    obtain ⟨hmarks, hno⟩ := suits
    obtain ⟨c, cs, ho, hc⟩ := rawOpening_eq_cons hmarks
    have hread := rawOpening?_rawOpening hmarks (text.toList ++ (rawClosing marks ++ rest))
    have hraw := raw_rawOpening lead hno rest
    rw [ho, List.cons_append] at hread hraw
    change Scans (rawOpening lead marks ++ text.toList ++ rawClosing marks) rest _
    rw [ho, List.append_assoc, List.cons_append]
    refine scans_value (text.toList.count '\n') (.text text) ?_
    rw [List.append_assoc, List.append_assoc, read_of_rawOpening? hc hread, hraw,
      String.ofList_toList]
    simp [rawClosing]
    omega

/-! ## Numbers and keywords -/

/-- What follows a value: a space or the end of the line. -/
def Ends (rest : List Char) : Prop := ∃ c ∈ rest.head?, c = ' ' ∨ c = '\n'

/-- The characters that can start something else than a word or a number. -/
def specials : List Char :=
  [' ', '\t', '\r', '\uFEFF', '\n', '\\', '/', '\x7b', '\x7d', ';', '=', '"', '#', 'r']

theorem read_of_not_special {c : Char} (h : c ∉ specials) (rest : List Char) :
    Lexeme.read c rest = Lexeme.word (c :: rest) := by
  simp only [specials, List.mem_cons, List.not_mem_nil, or_false, not_or] at h
  simp [Lexeme.read, Lexeme.sign?, Lexeme.rawOpening?, h]

section
variable {cs rest : List Char}

theorem takeWhile_append_of_ends {p : Char → Bool} (hcs : ∀ c ∈ cs, p c = true)
    (hs : p ' ' = false) (hn : p '\n' = false) (hr : Ends rest) :
    (cs ++ rest).takeWhile p = cs := by
  obtain ⟨c, hc, he⟩ := hr
  obtain ⟨rest', rfl⟩ := List.head?_eq_some_iff.1 hc
  have hpc : ¬ p c = true := by rcases he with rfl | rfl <;> simp [hs, hn]
  rw [List.takeWhile_append_of_pos hcs, List.takeWhile_cons_of_neg hpc, List.append_nil]

theorem digits_append (hne : cs ≠ []) (hcs : ∀ c ∈ cs, c.isDigit = true) (hr : Ends rest) :
    Lexeme.digits (cs ++ rest) = cs := by
  have hhead : (cs ++ rest).head?.any Text.isDecimal = true := by
    obtain ⟨c, cs, rfl⟩ := List.exists_cons_of_ne_nil hne
    simp [Number.isDecimal_of_isDigit (hcs c List.mem_cons_self)]
  rw [Lexeme.digits, if_pos hhead]
  refine takeWhile_append_of_ends (fun c hc => ?_) (by decide) (by decide) hr
  simp [Number.isDecimal_of_isDigit (hcs c hc)]

theorem numberText_decimal (i : Int) (hr : Ends rest) :
    Lexeme.numberText (Number.decimal i ++ rest) = Number.decimal i := by
  have hne : Text.decimalText i.natAbs ≠ [] := Nat.toDigits_ne_nil
  have hdigits := digits_append hne (fun c => Number.isDigit_of_mem_decimalText) hr
  have hpoint : rest.head? ≠ some '.' := by
    obtain ⟨c, hc, he⟩ := hr
    rw [Option.mem_def.1 hc]
    rcases he with rfl | rfl <;> decide
  unfold Number.decimal
  split
  · simp [Lexeme.numberText, hdigits, hpoint, hne, Nat.add_comm 1]
  · obtain ⟨d, ds, hd⟩ := List.exists_cons_of_ne_nil hne
    have hdigit : d.isDigit = true :=
      Number.isDigit_of_mem_decimalText (n := i.natAbs) (by rw [hd]; exact List.mem_cons_self)
    have hplus : d ≠ '+' := Number.ne_of_isDigit hdigit (by decide)
    have hminus : d ≠ '-' := Number.ne_of_isDigit hdigit (by decide)
    rw [hd] at hdigits ⊢
    rw [List.cons_append] at hdigits
    simp [Lexeme.numberText, hplus, hminus, hdigits, hpoint]

theorem number_decimal {i : Int} (h : (Text.decimalText i.natAbs).length ≤ Number.maxDigits) :
    Lexeme.number (Number.decimal i) = .ok (.int i) := by
  have hclean : (Number.decimal i).filter (· != '_') = Number.decimal i := by
    refine List.filter_eq_self.2 fun c hc => bne_iff_ne.2 ?_
    rintro rfl
    exact Number.not_mem_decimal (by decide) (by decide) hc
  have hpoint : '.' ∉ Number.decimal i := Number.not_mem_decimal (by decide) (by decide)
  simp [Lexeme.number, hclean, hpoint, Number.readInt_decimal h, Except.mapError, Except.map]

/-- No integer starts like something else. -/
theorem not_mem_specials {i : Int} {c : Char} (hc : c ∈ Number.decimal i) : c ∉ specials := by
  have hs : ∀ d ∈ specials, d ≠ '-' ∧ d.isDigit = false := by simp [specials, Char.isDigit]
  exact fun h => Number.not_mem_decimal (hs c h).1 (hs c h).2 hc

theorem scans_decimal {i : Int} (h : (Text.decimalText i.natAbs).length ≤ Number.maxDigits)
    (hr : Ends rest) : Scans (Number.decimal i) rest [.scalar (.int i)] := by
  obtain ⟨c, cs, hi⟩ := List.exists_cons_of_ne_nil (Number.decimal_ne_nil i)
  have hc : c ∉ specials := not_mem_specials (i := i) (by rw [hi]; exact List.mem_cons_self)
  have hnum := numberText_decimal i hr
  have hval := number_decimal h
  rw [hi] at hnum hval ⊢
  refine scans_value 0 (.int i) ?_
  rw [List.cons_append] at hnum
  rw [read_of_not_special hc, Lexeme.word, hnum]
  simp [hval, Except.map]

/-- A word that is a keyword scans as its value. -/
theorem scans_word {c : Char} {s : Scalar} (hw : Lexeme.keyword? (c :: cs) = some s)
    (hall : (c :: cs).all Lexeme.isWordChar = true) (hc : c ∉ specials)
    (hnum : c ≠ '+' ∧ c ≠ '-' ∧ Text.isDecimal c = false) (hr : Ends rest) :
    Scans (c :: cs) rest [.scalar s] := by
  have htake := takeWhile_append_of_ends (List.all_eq_true.1 hall) (by decide) (by decide) hr
  refine scans_value 0 s ?_
  rw [List.cons_append] at htake
  have hno : Lexeme.numberText (c :: (cs ++ rest)) = [] := by
    simp [Lexeme.numberText, Lexeme.digits, hnum]
  simp [read_of_not_special hc, Lexeme.word, hno, htake, hw]

/-- So does a keyword after its mark. -/
theorem scans_marked {c : Char} {s : Scalar} (hw : Lexeme.keyword? (c :: cs) = some s)
    (hall : (c :: cs).all Lexeme.isWordChar = true) (hr : Ends rest) :
    Scans ('#' :: c :: cs) rest [.scalar s] := by
  have htake := takeWhile_append_of_ends (List.all_eq_true.1 hall) (by decide) (by decide) hr
  refine scans_value 0 s ?_
  rw [List.cons_append] at htake ⊢
  have hmark : c ≠ '#' ∧ c ≠ '"' := by
    have hc := List.all_eq_true.1 hall c List.mem_cons_self
    constructor <;> rintro rfl <;> exact absurd hc (by decide)
  simp [Lexeme.read, Lexeme.sign?, Lexeme.rawOpening?, hmark, Lexeme.keyword, htake, hw]

end

theorem Literal.scans (v : Literal) {rest : List Char} (hr : Ends rest) :
    Scans v.source rest [.scalar v.value] := by
  cases v with
  | text q => exact q.scans rest
  | int i short => exact scans_decimal short hr
  | bool b marked =>
    cases b <;> cases marked
    · exact scans_word rfl (by decide) (by decide) (by decide) hr
    · exact scans_marked rfl (by decide) hr
    · exact scans_word rfl (by decide) (by decide) (by decide) hr
    · exact scans_marked rfl (by decide) hr
  | null marked =>
    cases marked
    · exact scans_word rfl (by decide) (by decide) (by decide) hr
    · exact scans_marked rfl (by decide) hr

/-! ## Nodes -/

/-- The tokens of a value or a property. -/
def Entry.kinds : Entry → List TokenKind
  | arg v => [.scalar v.value]
  | prop k v => [.scalar (.text k.text), .equals, .scalar v.value]

theorem Entry.scans (e : Entry) {rest : List Char} (hr : Ends rest) :
    Scans e.source rest e.kinds := by
  cases e with
  | arg v => exact scans_space.append (v.scans hr)
  | prop k v =>
    have hequals : Scans ['='] (v.source ++ rest) [.equals] := scans_sign rfl
    have hk := scans_space.append (k.scans ('=' :: v.source ++ rest))
    exact hk.append (hequals.append (v.scans hr))

theorem Entry.ends_source (entries : List Entry) {rest : List Char} (hr : Ends rest) :
    Ends (entries.flatMap source ++ rest) := by
  cases entries with
  | nil => exact hr
  | cons e entries => cases e <;> exact ⟨' ', rfl, Or.inl rfl⟩

theorem Entry.scans_all (entries : List Entry) {rest : List Char} (hr : Ends rest) :
    Scans (entries.flatMap source) rest (entries.flatMap kinds) := by
  induction entries with
  | nil => exact scans_nil
  | cons e entries ih => exact (e.scans (ends_source entries hr)).append ih

namespace Written

mutual

/-- The tokens of a node. -/
def kinds : Written → List TokenKind
  | ⟨name, entries, _, children⟩ =>
    [.scalar (.text name.text)] ++ entries.flatMap Entry.kinds ++
      (if children.isEmpty then [] else [.opening, .newline] ++ allKinds children ++ [.closing]) ++
      [.newline]

/-- The tokens of nodes. -/
def allKinds : List Written → List TokenKind
  | [] => []
  | w :: ws => w.kinds ++ allKinds ws

end

mutual

theorem scans_source (step indent : Nat) (rest : List Char) :
    ∀ w : Written, Scans (w.source step indent) rest w.kinds
  | ⟨name, entries, _, children⟩ => by
    have hname : ∀ rest,
        Scans (List.replicate indent ' ' ++ name.source) rest [.scalar (.text name.text)] :=
      fun rest => (scans_spaces indent).append (name.scans rest)
    rw [source, kinds]
    refine Scans.append (Scans.append (Scans.append (hname _) (Entry.scans_all entries ?_)) ?_)
      (scans_sign rfl)
    · split
      · exact ⟨'\n', rfl, Or.inr rfl⟩
      · exact ⟨' ', rfl, Or.inl rfl⟩
    · split
      · exact scans_nil
      · have hopen : ∀ rest, Scans [' ', '\x7b', '\n'] rest [.opening, .newline] :=
          fun rest => scans_space.append
            ((scans_sign (c := '\x7b') rfl).append (scans_sign (c := '\n') rfl))
        have hclose : ∀ rest, Scans (List.replicate indent ' ' ++ ['\x7d']) rest [.closing] :=
          fun rest => (scans_spaces indent).append (scans_sign (c := '\x7d') rfl)
        rw [List.append_assoc _ (List.replicate indent ' ')]
        exact ((hopen _).append (scans_sources step (indent + step) _ children)).append (hclose _)

/-- **What is written scans as its tokens**, whatever follows. -/
theorem scans_sources (step indent : Nat) (rest : List Char) :
    ∀ ws : List Written, Scans (sources step indent ws) rest (allKinds ws)
  | [] => scans_nil
  | w :: ws => by
    rw [sources, allKinds]
    exact (scans_source step indent _ w).append (scans_sources step indent rest ws)

end

end Written

end Folio.Schema
