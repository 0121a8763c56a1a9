/-
  Folio — the lines of tokens and nodes.

  The lines of a source are counted while it is read: each kind of lexeme counts the
  line ends that it passes, as it passes them.  What is counted at a place is what is
  before it (`Lexeme.Counts`, lexeme by lexeme), and so the line of each token is the
  one on which it ends, and the line of each node the one on which its name ends.

  * `Lexeme.counts_read`: what a lexeme counts;
  * `Token.exists_placed_of_scan`: where tokens end, and their lines;
  * `Node.labels_of_read`: names and lines of nodes are those of the tokens that name them;
  * `lines_of_ofSource`: the lines of the tokens and nodes of a source.
-/
import Folio.Proofs.Outcome
import Folio.Proofs.Schema.Settled
import Folio.Proofs.Schema.Written

namespace Folio.Schema

/-- The line of the character at an offset of a source. -/
def lineAt (source : List Char) (offset : Nat) : Nat := 1 + (source.take offset).count '\n'

/-! ## Lexemes -/

namespace Lexeme

/-- The lexeme is what a text starts with, and it counts the line ends that it passes:
    all of them for what comes after it, and those before its last character for the
    token that it is. -/
structure Counts (l : Lexeme) (cs : List Char) : Prop where
  within : l.more < cs.length
  lines : l.lines = (cs.take (l.more + 1)).count '\n'
  token : l.kind.isSome → ∀ line, l.tokenLine line = line + (cs.take l.more).count '\n'

section
variable {cs rest : List Char} {c : Char} {l : Lexeme}

/-- A lexeme counts right if it counts all of its line ends, and is no token that ends
    with one. -/
theorem counts_append {taken after : List Char} (hlen : taken.length = l.more + 1)
    (hlines : l.lines = taken.count '\n')
    (hlast : l.kind.isSome → l.kind ≠ some .newline ∧ taken.getLast? ≠ some '\n') :
    l.Counts (taken ++ after) where
  within := by rw [List.length_append]; omega
  lines := by rw [← hlen, List.take_left, hlines]
  token := by
    intro hsome line
    obtain ⟨hkind, hend⟩ := hlast hsome
    obtain ⟨init, d, rfl⟩ := (List.eq_nil_or_concat' taken).resolve_left (by rintro rfl; cases hlen)
    have hinit : init.length = l.more := by simpa using hlen
    have hd : d ≠ '\n' := by simpa using hend
    rw [tokenLine, if_neg hkind, hlines, ← hinit, List.append_assoc, List.take_left,
      List.count_append, List.count_singleton, if_neg (by simpa using hd), Nat.add_zero]

/-- A lexeme without line ends. -/
theorem counts_solid (taken after : List Char) (kind : Option TokenKind)
    (hne : taken ≠ []) (hline : '\n' ∉ taken) (hkind : kind ≠ some .newline) :
    Counts ⟨taken.length - 1, 0, kind⟩ (taken ++ after) := by
  have hpos := List.length_pos_iff.2 hne
  exact counts_append (by dsimp only; omega) (List.count_eq_zero.2 hline).symm
    fun _ => ⟨hkind, fun h => hline (List.mem_of_getLast? h)⟩

/-! ### Between tokens -/

theorem counts_lineComment (rest : List Char) : (lineComment rest).Counts ('/' :: rest) := by
  have hline : '\n' ∉ '/' :: rest.takeWhile (· != '\n') := by
    intro h
    have := List.mem_takeWhile_imp ((List.mem_cons.1 h).resolve_left (by decide))
    exact absurd rfl (bne_iff_ne.1 this)
  have := counts_solid _ (rest.dropWhile (· != '\n')) none (List.cons_ne_nil _ _) hline (by decide)
  rwa [List.cons_append, List.takeWhile_append_dropWhile] at this

theorem counts_blockComment (h : blockComment ('*' :: rest) = .ok l) :
    l.Counts ('/' :: '*' :: rest) := by
  rw [blockComment, List.drop_one, List.tail_cons] at h
  split at h
  · cases h
  · next n hfind =>
    cases h
    obtain ⟨text, after, rfl, rfl, -⟩ := Text.exists_of_find?_eq_some hfind
    have hcount : (('*' :: (text ++ ['*', '/'] ++ after)).take (text.length + 1)).count '\n' =
        ('/' :: '*' :: (text ++ ['*', '/'])).count '\n' := by
      simp
    have hsplit : '/' :: '*' :: (text ++ ['*', '/'] ++ after) =
        ('/' :: '*' :: (text ++ ['*', '/'])) ++ after := rfl
    rw [hsplit]
    exact counts_append (by simp [gap]) hcount nofun

/-- A line that goes on: of the characters up to the next line, the last one ends the
    line and no other. -/
theorem counts_continuation (h : continuation rest = .ok l) : l.Counts ('\\' :: rest) := by
  unfold continuation at h
  split at h
  · cases h
  · next n hfind =>
    cases h
    obtain ⟨text, after, rfl, rfl, hfirst⟩ := Text.exists_of_find?_eq_some hfind
    have hline : '\n' ∉ text := by
      intro hmem
      obtain ⟨before, more, rfl⟩ := List.append_of_mem hmem
      have := hfirst before (more ++ ['\n'] ++ after) (by simp)
      rw [List.length_append, List.length_cons] at this
      omega
    have hcount : 1 = ('\\' :: (text ++ ['\n'])).count '\n' := by
      simp [List.count_append, List.count_eq_zero.2 hline]
    have hsplit : '\\' :: (text ++ ['\n'] ++ after) = ('\\' :: (text ++ ['\n'])) ++ after := rfl
    rw [hsplit]
    exact counts_append (by simp [gap]) hcount nofun

/-! ### Texts -/

/-- A text in quotes ends with the first quote that is no part of it, and all line ends up
    to there are counted. -/
theorem exists_of_quoted {lines n k : Nat} {text : List Char}
    (h : quoted lines cs = .ok (text, n, k)) : ∃ inner after, cs = inner ++ '"' :: after ∧
      n = inner.length + 1 ∧ k = lines + inner.count '\n' := by
  fun_induction quoted lines cs generalizing text n k with
  | case1 => cases h
  | case2 lines after =>
    cases h
    exact ⟨[], after, rfl, rfl, rfl⟩
  | case3 => cases h
  | case4 => cases h
  | case5 lines e rest c hescape ih =>
    obtain ⟨⟨text, n, k⟩, hquoted, he⟩ := map_eq_ok_iff.1 h
    cases he
    obtain ⟨inner, after, rfl, rfl, rfl⟩ := ih hquoted
    have hline : e ≠ '\n' := by rintro rfl; cases hescape
    exact ⟨'\\' :: e :: inner, after, rfl, rfl, by simp [List.count_cons_of_ne hline]⟩
  | case6 lines c rest hquote hend hback ih =>
    obtain ⟨⟨text, n, k⟩, hquoted, he⟩ := map_eq_ok_iff.1 h
    cases he
    obtain ⟨inner, after, rfl, rfl, rfl⟩ := ih hquoted
    refine ⟨c :: inner, after, rfl, rfl, ?_⟩
    rw [List.count_cons]
    split <;> simp_all [Nat.add_assoc, Nat.add_comm 1]

theorem counts_quoted {n k : Nat} {text : List Char} (h : quoted 0 rest = .ok (text, n, k)) :
    Counts ⟨n, k, some (.scalar (.text (String.ofList text)))⟩ ('"' :: rest) := by
  obtain ⟨inner, after, rfl, rfl, rfl⟩ := exists_of_quoted h
  have hsplit : '"' :: (inner ++ '"' :: after) = ('"' :: (inner ++ ['"'])) ++ after := by simp
  rw [hsplit]
  refine counts_append (by simp) (by simp) fun _ => ⟨nofun, ?_⟩
  rw [← List.cons_append, List.getLast?_concat]
  decide

/-- What opens a raw text is read as it is written. -/
theorem exists_of_rawOpening? {marks opening : Nat} (h : rawOpening? cs = some (marks, opening)) :
    ∃ lead after, cs = rawOpening lead marks ++ after ∧
      opening = (rawOpening lead marks).length := by
  have hmarks : ∀ rest : List Char,
      rest.takeWhile (· == '#') = List.replicate (rest.takeWhile (· == '#')).length '#' :=
    fun rest => List.eq_replicate_iff.2 ⟨rfl, fun c hc => by simpa using List.mem_takeWhile_imp hc⟩
  have hrest : ∀ rest : List Char, (rest.drop (rest.takeWhile (· == '#')).length).head? = some '"' →
      ∃ after, rest = List.replicate (rest.takeWhile (· == '#')).length '#' ++ '"' :: after := by
    intro rest hquote
    obtain ⟨after, hafter⟩ := List.head?_eq_some_iff.1 hquote
    refine ⟨after, ?_⟩
    rw [← hafter, ← hmarks]
    exact (List.prefix_iff_eq_append.1 (List.takeWhile_prefix _)).symm
  unfold rawOpening? at h
  by_cases hr : cs.head? = some 'r'
  · obtain ⟨rest, rfl⟩ := List.head?_eq_some_iff.1 hr
    simp only [List.head?_cons, if_true, List.drop_one, List.tail_cons, Bool.and_eq_true,
      decide_eq_true_eq, Option.ite_none_right_eq_some, Option.some.injEq, Prod.mk.injEq] at h
    obtain ⟨⟨hquote, -⟩, rfl, rfl⟩ := h
    obtain ⟨after, hafter⟩ := hrest rest hquote
    exact ⟨true, after, by simpa [rawOpening] using hafter, by simp [rawOpening]; omega⟩
  · simp only [if_neg hr, Bool.and_eq_true, decide_eq_true_eq, Option.ite_none_right_eq_some,
      Option.some.injEq, Prod.mk.injEq] at h
    obtain ⟨⟨hquote, -⟩, rfl, rfl⟩ := h
    obtain ⟨after, hafter⟩ := hrest cs hquote
    exact ⟨false, after, by simpa [rawOpening] using hafter, by simp [rawOpening]⟩

theorem counts_raw {marks opening : Nat} (hopen : rawOpening? cs = some (marks, opening))
    (h : raw marks opening cs = .ok l) : l.Counts cs := by
  obtain ⟨lead, rest, rfl, rfl⟩ := exists_of_rawOpening? hopen
  rw [raw, List.drop_left] at h
  dsimp only at h
  split at h
  · cases h
  · next n hfind =>
    cases h
    obtain ⟨text, after, rfl, rfl, -⟩ := Text.exists_of_find?_eq_some hfind
    have hsplit : rawOpening lead marks ++ (text ++ '"' :: List.replicate marks '#' ++ after) =
        (rawOpening lead marks ++ text ++ '"' :: List.replicate marks '#') ++ after := by simp
    have hopening : '\n' ∉ rawOpening lead marks := by
      cases lead <;> simp [rawOpening, List.mem_replicate]
    have hclosing : '\n' ∉ '"' :: List.replicate marks '#' := by simp [List.mem_replicate]
    rw [hsplit]
    refine counts_append ?_ ?_ fun _ => ⟨nofun, fun hlast => ?_⟩
    · simp [Nat.add_assoc]
    · rw [List.count_append, List.count_append, List.count_eq_zero.2 hopening,
        List.count_eq_zero.2 hclosing, Nat.zero_add, Nat.add_zero, List.append_assoc,
        List.take_left]
    · rw [List.getLast?_append_of_ne_nil _ (List.cons_ne_nil _ _)] at hlast
      exact hclosing (List.mem_of_getLast? hlast)

/-! ### Numbers and words -/

theorem prefix_digits (cs : List Char) : digits cs <+: cs := by
  unfold digits
  split
  · exact List.takeWhile_prefix _
  · exact List.nil_prefix

/-- A number is what a text starts with. -/
theorem prefix_numberText (cs : List Char) : numberText cs <+: cs := by
  unfold numberText
  dsimp only
  set sgn := cs.take (if cs.head? = some '+' ∨ cs.head? = some '-' then 1 else 0)
  set whole := digits (cs.drop sgn.length)
  have hsgn : sgn ++ cs.drop sgn.length = cs :=
    List.prefix_iff_eq_append.1 (List.take_prefix _ _)
  have hwhole : whole ++ (cs.drop sgn.length).drop whole.length = cs.drop sgn.length :=
    List.prefix_iff_eq_append.1 (prefix_digits _)
  rw [List.drop_drop] at hwhole
  have hshort : sgn ++ whole <+: cs := ⟨_, by rw [List.append_assoc, hwhole, hsgn]⟩
  split
  · exact List.nil_prefix
  by_cases hpoint : (cs.drop (sgn.length + whole.length)).head? = some '.'
  · obtain ⟨after, hafter⟩ := List.head?_eq_some_iff.1 hpoint
    rw [if_pos hpoint, hafter, List.drop_one, List.tail_cons]
    split
    · exact hshort
    · obtain ⟨more, hmore⟩ := prefix_digits after
      exact ⟨more, by rw [List.append_assoc, List.append_assoc, List.cons_append, hmore, ← hafter,
        hwhole, hsgn]⟩
  · rw [if_neg hpoint]
    exact hshort

theorem newline_not_mem_numberText (cs : List Char) : '\n' ∉ numberText cs := by
  intro h
  have hclean : '\n' ∈ (numberText cs).filter (· != '_') := List.mem_filter.2 ⟨h, by decide⟩
  obtain ⟨sgn, ds, hsgn, -, hds, heq⟩ := numberText_cases (List.ne_nil_of_mem h)
  have hno : ∀ ds : List Char, (∀ c ∈ ds, Text.isDecimal c = true) → '\n' ∉ ds :=
    fun ds hds h => absurd (hds _ h) (by decide)
  have hsign : '\n' ∉ sgn := by rcases hsgn with rfl | rfl | rfl <;> decide
  rcases heq with heq | ⟨es, hes, heq⟩
  · simp [heq, hsign, hno ds hds] at hclean
  · simp [heq, hsign, hno ds hds, hno es hes] at hclean

theorem newline_not_mem_takeWhile (cs : List Char) : '\n' ∉ cs.takeWhile isWordChar :=
  fun h => absurd (List.mem_takeWhile_imp h) (by decide)

theorem counts_keyword (h : keyword rest = .ok l) : l.Counts ('#' :: rest) := by
  unfold keyword at h
  dsimp only at h
  split at h
  · next s hs =>
    cases h
    have hline : '\n' ∉ '#' :: rest.takeWhile isWordChar := fun h =>
      newline_not_mem_takeWhile rest ((List.mem_cons.1 h).resolve_left (by decide))
    have := counts_solid _ (rest.dropWhile isWordChar) (some (.scalar s)) (List.cons_ne_nil _ _)
      hline nofun
    rwa [List.cons_append, List.takeWhile_append_dropWhile] at this
  · cases h

theorem counts_word (h : word cs = .ok l) : l.Counts cs := by
  unfold word at h
  dsimp only at h
  split at h
  · next hnum =>
    obtain ⟨s, -, rfl⟩ := map_eq_ok_iff.1 h
    obtain ⟨after, hafter⟩ := prefix_numberText cs
    have := counts_solid _ after (some (.scalar s)) (by simpa using hnum)
      (newline_not_mem_numberText cs) nofun
    rwa [hafter] at this
  · split at h
    · cases h
    · next hne =>
      cases h
      have hkind : some (((keyword? (cs.takeWhile isWordChar)).map TokenKind.scalar).getD
          (.word (String.ofList (cs.takeWhile isWordChar)))) ≠ some .newline := by
        cases keyword? (cs.takeWhile isWordChar) <;> nofun
      have := counts_solid _ (cs.dropWhile isWordChar) _ hne (newline_not_mem_takeWhile cs) hkind
      rwa [List.takeWhile_append_dropWhile] at this

/-- A character that is no line end and that is a lexeme. -/
theorem counts_single (hc : c ≠ '\n') {kind : Option TokenKind} (hkind : kind ≠ some .newline) :
    Counts ⟨0, 0, kind⟩ (c :: rest) :=
  counts_solid [c] rest kind (List.cons_ne_nil _ _) (by simpa using hc.symm) hkind

/-- **What a lexeme counts.** -/
theorem counts_read (h : read c rest = .ok l) : l.Counts (c :: rest) := by
  unfold read at h
  split at h
  · next hblank =>
    cases h
    exact counts_single (by rintro rfl; cases hblank) nofun
  split at h
  · next hline =>
    cases h
    rw [beq_iff_eq.1 hline]
    exact ⟨Nat.zero_lt_succ _, rfl, fun _ _ => rfl⟩
  next hline =>
  have hc : c ≠ '\n' := fun he => hline (beq_iff_eq.2 he)
  split at h
  · next hgoes =>
    rw [Bool.and_eq_true, beq_iff_eq] at hgoes
    rw [hgoes.1]
    exact counts_continuation h
  split at h
  · next hslash =>
    rw [Bool.and_eq_true, beq_iff_eq] at hslash
    cases h
    rw [hslash.1]
    exact counts_lineComment rest
  split at h
  · next hstar =>
    simp only [Bool.and_eq_true, beq_iff_eq] at hstar
    obtain ⟨rfl, hhead⟩ := hstar
    obtain ⟨rest, rfl⟩ := List.head?_eq_some_iff.1 hhead
    exact counts_blockComment h
  split at h
  · next kind hsign =>
    cases h
    refine counts_single hc ?_
    rintro ⟨⟩
    rcases eq_of_sign?_eq_some hsign with rfl | rfl | rfl | rfl <;> cases hsign
  split at h
  · next hquote =>
    obtain ⟨⟨text, n, k⟩, hquoted, rfl⟩ := map_eq_ok_iff.1 h
    rw [beq_iff_eq.1 hquote]
    exact counts_quoted hquoted
  split at h
  · next marks opening hopen => exact counts_raw hopen h
  split at h
  · next hmark =>
    rw [beq_iff_eq.1 hmark]
    exact counts_keyword h
  · exact counts_word h

end

end Lexeme

/-! ## Tokens -/

theorem lineAt_append (before cs : List Char) (n : Nat) :
    lineAt (before ++ cs) (before.length + n) = 1 + before.count '\n' + (cs.take n).count '\n' := by
  rw [lineAt, List.take_length_add_append, List.count_append, Nat.add_assoc]

namespace Token

/-- The tokens of a text that starts at an offset, each with the offset of its last
    character; the end of the text is behind its last character. -/
inductive Placed : Nat → List Char → List (TokenKind × Nat) → Prop where
  | ending {offset} : Placed offset [] [(.ending, offset)]
  | gap {offset c rest l ps} (read : Lexeme.read c rest = .ok l) (kind : l.kind = none)
      (more : Placed (offset + l.more + 1) (rest.drop l.more) ps) : Placed offset (c :: rest) ps
  | token {offset c rest l k ps} (read : Lexeme.read c rest = .ok l) (kind : l.kind = some k)
      (more : Placed (offset + l.more + 1) (rest.drop l.more) ps) :
      Placed offset (c :: rest) ((k, offset + l.more) :: ps)

/-- The token that ends at an offset of a source. -/
def ofPlace (source : List Char) (p : TokenKind × Nat) : Token := ⟨p.1, lineAt source p.2⟩

theorem Placed.getLast? {offset : Nat} {cs : List Char} {ps : List (TokenKind × Nat)}
    (h : Placed offset cs ps) : ps.getLast? = some (.ending, offset + cs.length) := by
  have hlength : ∀ {l : Lexeme} {c : Char} {rest : List Char} (offset : Nat),
      Lexeme.read c rest = .ok l →
        offset + l.more + 1 + (rest.drop l.more).length = offset + (c :: rest).length := by
    intro l c rest offset hread
    have := (Lexeme.counts_read hread).within
    rw [List.length_cons] at this
    rw [List.length_drop, List.length_cons]
    omega
  induction h with
  | ending => rfl
  | gap hread _ _ ih => rw [ih, hlength _ hread]
  | token hread _ _ ih => rw [List.getLast?_cons, ih, hlength _ hread, Option.getD_some]

/-- **The line of a token is the one on which it ends**: what is counted so far is what
    comes before. -/
theorem exists_placed_of_scan {line : Nat} {cs : List Char} {tokens : List Token}
    (h : scan line cs = .ok tokens) {before : List Char} (hline : line = 1 + before.count '\n') :
    ∃ ps, Placed before.length cs ps ∧ tokens = ps.map (ofPlace (before ++ cs)) := by
  -- a lexeme is one part more of what comes before
  have hstep : ∀ {line : Nat} {before : List Char} {c : Char} {rest : List Char} {l : Lexeme},
      line = 1 + before.count '\n' → l.Counts (c :: rest) →
        ∃ before', before' ++ rest.drop l.more = before ++ c :: rest ∧
          before'.length = before.length + l.more + 1 ∧
          line + l.lines = 1 + before'.count '\n' := by
    intro line before c rest l hline hcounts
    refine ⟨before ++ (c :: rest).take (l.more + 1), ?_, ?_, ?_⟩
    · rw [List.append_assoc, ← List.drop_succ_cons (a := c), List.take_append_drop]
    · have := hcounts.within
      rw [List.length_append, List.length_take, Nat.min_eq_left this, Nat.add_assoc]
    · rw [List.count_append, ← hcounts.lines, hline, Nat.add_assoc]
  fun_induction scan line cs generalizing before tokens with
  | case1 line =>
    cases h
    refine ⟨_, .ending, ?_⟩
    have := lineAt_append before [] 0
    simpa [ofPlace, hline] using this.symm
  | case2 => cases h
  | case3 => cases h
  | case4 line c rest l hread tokens hscan hkind ih =>
    cases h
    obtain ⟨before', happ, hlen, hline'⟩ := hstep hline (Lexeme.counts_read hread)
    obtain ⟨ps, hps, htokens⟩ := ih hscan hline'
    rw [happ] at htokens
    exact ⟨ps, .gap hread hkind (hlen ▸ hps), htokens⟩
  | case5 line c rest l hread tokens hscan kind hkind ih =>
    cases h
    have hcounts := Lexeme.counts_read hread
    obtain ⟨before', happ, hlen, hline'⟩ := hstep hline hcounts
    obtain ⟨ps, hps, htokens⟩ := ih hscan hline'
    rw [happ] at htokens
    refine ⟨_, .token hread hkind (hlen ▸ hps), ?_⟩
    have htoken := hcounts.token (by rw [hkind]; rfl) line
    rw [hline, ← lineAt_append] at htoken
    rw [List.map_cons, htokens, ofPlace, ← htoken, hline]

/-! ### Tokens that name nodes -/

/-- Does the token end what a node says of itself? -/
def separates (t : Token) : Bool :=
  match t.kind with
  | .newline | .semicolon | .opening | .closing => true
  | _ => false

/-- The tokens that are names of nodes: those after a token that separates, and one at the
    start if it is `fresh`. -/
def names (fresh : Bool) : List Token → List Token
  | [] => []
  | t :: ts =>
    if t.kind = .ending then []
    else if t.separates then names true ts
    else (if fresh then [t] else []) ++ names false ts

/-- What a token can name, and its line. -/
def label (t : Token) : Option String × Nat := (t.kind.name?, t.line)

/-- A name can be a value as well. -/
theorem isSome_value?_of_name? {kind : TokenKind} {name : String} (h : kind.name? = some name) :
    kind.value?.isSome := by
  cases kind <;> simp_all [TokenKind.name?, TokenKind.value?]

/-- Values, and signs of equality, are part of what a node says of itself. -/
theorem names_of_says {t : Token} (h : t.kind.value?.isSome ∨ t.kind = .equals) (fresh : Bool)
    (ts : List Token) : names fresh (t :: ts) = (if fresh then [t] else []) ++ names false ts := by
  obtain ⟨kind, line⟩ := t
  have hpart : kind ≠ .ending ∧ separates ⟨kind, line⟩ = false := by
    cases kind <;> simp_all [separates, TokenKind.value?]
  rw [names, if_neg hpart.1, if_neg (by simp [hpart.2])]

end Token

/-! ## Nodes -/

namespace Node

mutual

/-- A node and all nodes inside of it, each before those inside of it. -/
def all : Node → List Node
  | ⟨name, line, args, props, children⟩ => ⟨name, line, args, props, children⟩ :: allIn children

/-- Nodes and all nodes inside of them. -/
def allIn : List Node → List Node
  | [] => []
  | n :: ns => all n ++ allIn ns

end

/-- The name of a node, and its line. -/
def label (n : Node) : Option String × Nat := (some n.name, n.line)

/-- The names and lines of nodes and of all nodes inside of them. -/
def labels (ns : List Node) : List (Option String × Nat) := (allIn ns).map label

theorem labels_nil : labels [] = [] := rfl

theorem labels_append (ns ms : List Node) : labels (ns ++ ms) = labels ns ++ labels ms := by
  have happend : allIn (ns ++ ms) = allIn ns ++ allIn ms := by
    induction ns with
    | nil => rw [allIn]; rfl
    | cons n ns ih => rw [List.cons_append, allIn, allIn, ih, List.append_assoc]
  rw [labels, happend, List.map_append, labels, labels]

theorem labels_singleton (n : Node) : labels [n] = n.label :: labels n.children := by
  cases n
  rw [labels, allIn, all, allIn, List.append_nil, List.map_cons, labels]

/-- A node without nodes inside of it after other nodes. -/
theorem labels_current {n : Node} (h : n.children = []) (before : List Node) :
    labels ((some n).toList ++ before).reverse = labels before.reverse ++ [n.label] := by
  rw [Option.toList_some, List.singleton_append, List.reverse_cons, labels_append,
    labels_singleton, h, labels_nil]

/-- The names and lines of the nodes whose braces are open and of the nodes before them. -/
def openLabels : Enclosing → List (Option String × Nat)
  | [] => []
  | (n, before) :: enclosing => openLabels enclosing ++ labels before.reverse ++ [n.label]

/-- **Names and lines of nodes are those of the tokens that name them**, in order. -/
theorem labels_of_read {enclosing : Enclosing} {before : List Node} {current : Option Node}
    {tokens : List Token} {ns : List Node} (h : read enclosing before current tokens = .ok ns)
    (hcurrent : ∀ n ∈ current, n.children = []) (hend : .ending ∈ tokens.map Token.kind) :
    labels ns = openLabels enclosing ++ labels (current.toList ++ before).reverse ++
      (Token.names current.isNone tokens).map Token.label := by
  have hnone : ∀ n ∈ (none : Option Node), n.children = [] := by rintro n ⟨⟩
  have htail : ∀ {t : Token} {tokens : List Token}, t.kind ≠ .ending →
      .ending ∈ (t :: tokens).map Token.kind → .ending ∈ tokens.map Token.kind :=
    fun hne hend => (List.mem_cons.1 hend).resolve_left (Ne.symm hne)
  fun_induction read enclosing before current tokens with
  | case1 => cases hend
  | case2 enclosing before current line tokens ih | case3 enclosing before current line tokens ih =>
    exact ih h hnone (htail (by rintro ⟨⟩) hend)
  | case4 enclosing before current line tokens hclosed =>
    cases h
    rw [List.isEmpty_iff.1 hclosed]
    exact (List.append_nil _).symm
  | case5 => cases h
  | case6 => cases h
  | case7 before current line tokens n outer enclosing ih =>
    rw [ih h hnone (htail (by rintro ⟨⟩) hend), openLabels, Option.toList_none,
      List.nil_append, List.reverse_cons, labels_append, labels_singleton]
    simp only [label, List.append_assoc]
    rfl
  | case8 => cases h
  | case9 enclosing before kind line tokens _ _ hne _ name hname ih =>
    rw [ih h (by rintro n ⟨⟩; rfl) (htail hne hend), labels_current rfl,
      Token.names_of_says (.inl (Token.isSome_value?_of_name? hname))]
    simp [Token.label, label, named, hname]
  | case10 enclosing before line tokens n _ _ _ _ ih =>
    rw [ih h hnone (htail (by rintro ⟨⟩) hend), openLabels,
      labels_current (hcurrent n rfl), Option.toList_none, List.append_nil, List.reverse_nil,
      labels_nil, List.append_nil, ← List.append_assoc (openLabels enclosing)]
    rfl
  | case11 enclosing before kind line _ _ hne _ n _ l value tokens key v hvalue hkey ih =>
    have hleaf := hcurrent n rfl
    have hvalueEnd : value.kind ≠ .ending := fun he => by rw [he] at hvalue; cases hvalue
    have hrest := htail hvalueEnd (htail (by rintro ⟨⟩) (htail hne hend))
    rw [ih h (by rintro m ⟨⟩; exact hleaf) hrest, labels_current hleaf,
      labels_current (n := n.addProp key v) hleaf,
      Token.names_of_says (.inl (Token.isSome_value?_of_name? hkey)),
      Token.names_of_says (.inr rfl), Token.names_of_says (.inl (by rw [hvalue]; rfl))]
    rfl
  | case12 => cases h
  | case13 => cases h
  | case14 => cases h
  | case15 enclosing before kind line _ _ hne _ n _ tokens _ value hvalue ih =>
    have hleaf := hcurrent n rfl
    rw [ih h (by rintro m ⟨⟩; exact hleaf) (htail hne hend), labels_current hleaf,
      labels_current (n := n.addArg value) hleaf,
      Token.names_of_says (.inl (by rw [hvalue]; rfl))]
    rfl

end Node

/-! ## Sources -/

/-- **The lines of tokens and nodes.**  The line of a token is the one of its last
    character, so that of the end of the source is its last line; the nodes have the names
    and lines of the tokens that name them. -/
theorem lines_of_ofSource {source : String} {tokens : List Token}
    (h : Token.ofSource source.toList = .ok tokens) :
    (∃ ps, Token.Placed 0 source.toList ps ∧
        tokens = ps.map fun (kind, last) => ⟨kind, 1 + (source.toList.take last).count '\n'⟩) ∧
      tokens.getLast? = some ⟨.ending, 1 + source.toList.count '\n'⟩ ∧
      ∀ ns, Node.ofSource source = .ok ns →
        (Node.allIn ns).map (fun n => (some n.name, n.line)) =
          (Token.names true tokens).map fun t => (t.kind.name?, t.line) := by
  have hstart : 1 = 1 + ([] : List Char).count '\n' := rfl
  obtain ⟨ps, hps, htokens⟩ := Token.exists_placed_of_scan h hstart
  have hlast : tokens.getLast? = some ⟨.ending, 1 + source.toList.count '\n'⟩ := by
    rw [htokens, List.getLast?_map, hps.getLast?]
    simp [Token.ofPlace, lineAt]
  refine ⟨⟨ps, hps, htokens⟩, hlast, fun ns hns => ?_⟩
  rw [Node.ofSource, h] at hns
  exact Node.labels_of_read hns nofun (List.mem_map_of_mem (List.mem_of_getLast? hlast))

/-- A comment, a line that goes on and texts, each over two lines. -/
theorem lines_of_ofSource_spread : ∃ ns,
    Token.ofSource "/*\n*/ a \\\n k=r\"\n\" \x7b\n\"b\nc\" \"\n\"; d\x7d".toList =
        .ok [⟨.word "a", 2⟩, ⟨.word "k", 3⟩, ⟨.equals, 3⟩, ⟨.scalar (.text "\n"), 4⟩, ⟨.opening, 4⟩,
          ⟨.newline, 4⟩, ⟨.scalar (.text "b\nc"), 6⟩, ⟨.scalar (.text "\n"), 7⟩, ⟨.semicolon, 7⟩,
          ⟨.word "d", 7⟩, ⟨.closing, 7⟩, ⟨.ending, 7⟩] ∧
      Node.ofSource "/*\n*/ a \\\n k=r\"\n\" \x7b\n\"b\nc\" \"\n\"; d\x7d" = .ok ns ∧
      (Node.allIn ns).map (fun n => (some n.name, n.line)) =
        [(some "a", 2), (some "b\nc", 6), (some "d", 7)] := by
  have htokens :
      Token.ofSource "/*\n*/ a \\\n k=r\"\n\" \x7b\n\"b\nc\" \"\n\"; d\x7d".toList =
        .ok [⟨.word "a", 2⟩, ⟨.word "k", 3⟩, ⟨.equals, 3⟩, ⟨.scalar (.text "\n"), 4⟩, ⟨.opening, 4⟩,
          ⟨.newline, 4⟩, ⟨.scalar (.text "b\nc"), 6⟩, ⟨.scalar (.text "\n"), 7⟩, ⟨.semicolon, 7⟩,
          ⟨.word "d", 7⟩, ⟨.closing, 7⟩, ⟨.ending, 7⟩] := by decide +kernel
  obtain ⟨-, -, hnodes⟩ := lines_of_ofSource htokens
  have hns : ∃ ns,
      Node.ofSource "/*\n*/ a \\\n k=r\"\n\" \x7b\n\"b\nc\" \"\n\"; d\x7d" = .ok ns :=
    ⟨_, by rw [Node.ofSource, htokens]; rfl⟩
  obtain ⟨ns, hns⟩ := hns
  exact ⟨ns, htokens, hns, hnodes ns hns⟩

end Folio.Schema
