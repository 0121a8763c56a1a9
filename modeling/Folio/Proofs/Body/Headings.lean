/-
  Folio — what heading lines say.

  The form of a heading line does not tell where its title ends: the blanks and the
  number signs at the end of the line can be part of the title, close it, or come
  after that.  The title is the shortest that leaves nothing else to the end of the
  line (`titleOf_append`, `prefix_titleOf`), which is also what the first match of the
  form takes.

  * `read?_eq_found?`: a heading line says what its pattern first finds in it;
  * `read?_line`, `read?_closedLine`: titles that are written without a run of number
    signs after them and with one;
  * `Body.openedBy_eq`, `Body.openedBy_line`: the section that such a line opens.
-/
import Folio.Proofs.Body.Cover
import Folio.Proofs.Body.Fences
import Folio.Proofs.Pattern.Runs

namespace Folio

namespace Heading

section
variable {cs title gap signs tail rest : List Char}

/-! ## Where a title ends -/

/-- What can come after a title. -/
inductive Ends : List Char → Prop where
  | blank {cs : List Char} (hcs : ∀ c ∈ cs, Line.isSpaceOrTab c = true) : Ends cs
  /-- A run of number signs with blanks before it. -/
  | closed {gap signs tail : List Char} (hgap : ∀ c ∈ gap, Line.isSpaceOrTab c = true)
      (hne : gap ≠ []) (hsigns : ∀ c ∈ signs, (c == '#') = true) (hsome : signs ≠ [])
      (htail : ∀ c ∈ tail, Line.isSpaceOrTab c = true) : Ends (gap ++ (signs ++ tail))

/-- What comes after a title starts with a blank. -/
theorem Ends.eq_nil (h : Ends cs) (hc : cs.head?.any Line.isSpaceOrTab = false) : cs = [] := by
  cases h with
  | blank hcs =>
    cases cs with
    | nil => rfl
    | cons c cs => exact absurd (hcs c List.mem_cons_self) (by simpa using hc)
  | @closed gap _ _ hgap hne =>
    cases gap with
    | nil => exact absurd rfl hne
    | cons c gap => exact absurd (hgap c List.mem_cons_self) (by simpa using hc)

theorem not_sign_of_blank {c : Char} (h : Line.isSpaceOrTab c = true) : (c == '#') = false := by
  simp only [Line.isSpaceOrTab, Bool.or_eq_true, beq_iff_eq] at h
  rcases h with rfl | rfl <;> decide

theorem not_blank_of_sign {c : Char} (h : (c == '#') = true) : Line.isSpaceOrTab c = false := by
  rw [eq_of_beq h]; decide

/-- A run of number signs after a blank is not part of the title. -/
theorem titleOf_closed (hgap : ∀ c ∈ gap, Line.isSpaceOrTab c = true) (hne : gap ≠ [])
    (hsigns : ∀ c ∈ signs, (c == '#') = true) (hsome : signs ≠ [])
    (htail : ∀ c ∈ tail, Line.isSpaceOrTab c = true) :
    titleOf (title ++ (gap ++ (signs ++ tail))) = Text.dropWhileEnd Line.isSpaceOrTab title := by
  have hbody : Text.dropWhileEnd Line.isSpaceOrTab (title ++ (gap ++ (signs ++ tail))) =
      title ++ gap ++ signs := by
    rw [← List.append_assoc, ← List.append_assoc, Text.dropWhileEnd_append htail]
    refine Text.dropWhileEnd_eq_self fun c hc => ?_
    rw [List.getLast?_append_of_ne_nil _ hsome] at hc
    exact not_blank_of_sign (hsigns c (List.mem_of_mem_getLast? hc))
  have hunclosed : Text.dropWhileEnd (· == '#') (title ++ gap ++ signs) = title ++ gap := by
    rw [Text.dropWhileEnd_append hsigns]
    refine Text.dropWhileEnd_eq_self fun c hc => ?_
    rw [List.getLast?_append_of_ne_nil _ hne] at hc
    exact not_sign_of_blank (hgap c (List.mem_of_mem_getLast? hc))
  have hlast : (title ++ gap).getLast? = some (gap.getLast hne) := by
    rw [List.getLast?_append_of_ne_nil _ hne, List.getLast?_eq_some_getLast hne]
  have hshorter : 0 < signs.length := List.length_pos_of_ne_nil hsome
  simp only [titleOf, hbody, hunclosed, hlast]
  rw [if_pos (by simp [hshorter, hgap _ (List.getLast_mem hne)]), Text.dropWhileEnd_append hgap]

/-- **After the title the line can end.** -/
theorem titleOf_append (cs : List Char) : ∃ rest, cs = titleOf cs ++ rest ∧ Ends rest := by
  obtain ⟨tail, hbody, htail, -⟩ := Text.exists_dropWhileEnd Line.isSpaceOrTab cs
  have hend : ∃ rest, cs = Text.dropWhileEnd Line.isSpaceOrTab cs ++ rest ∧ Ends rest :=
    ⟨tail, hbody, .blank htail⟩
  obtain ⟨signs, hunclosed, hsigns, -⟩ := Text.exists_dropWhileEnd (· == '#')
    (Text.dropWhileEnd Line.isSpaceOrTab cs)
  simp only [titleOf]
  split
  · next c hc =>
    split
    · next hclosed =>
      obtain ⟨gap, htitle, hgap, hlast⟩ := Text.exists_dropWhileEnd Line.isSpaceOrTab
        (Text.dropWhileEnd (· == '#') (Text.dropWhileEnd Line.isSpaceOrTab cs))
      simp only [Bool.and_eq_true, decide_eq_true_eq] at hclosed
      -- what is left of the number signs ends with a blank
      have hne : gap ≠ [] := by
        rintro rfl
        rw [List.append_nil] at htitle
        rw [← htitle, hc] at hlast
        exact absurd (hlast c rfl) (by simp [hclosed.2])
      have hsome : signs ≠ [] := by
        rintro rfl
        rw [List.append_nil] at hunclosed
        rw [← hunclosed] at hclosed
        exact absurd hclosed.1 (Nat.lt_irrefl _)
      refine ⟨gap ++ (signs ++ tail), ?_, .closed hgap hne hsigns hsome htail⟩
      rw [← List.append_assoc, ← htitle, ← List.append_assoc, ← hunclosed, ← hbody]
    · exact hend
  · exact hend

theorem titleOf_prefix_body (cs : List Char) :
    titleOf cs <+: Text.dropWhileEnd Line.isSpaceOrTab cs := by
  simp only [titleOf]
  split
  · split
    · exact (Text.prefix_dropWhileEnd _ _).trans (Text.prefix_dropWhileEnd _ _)
    · exact List.prefix_rfl
  · exact List.prefix_rfl

/-- **The title is the shortest after which the line can end.** -/
theorem prefix_titleOf (title : List Char) (h : Ends rest) :
    titleOf (title ++ rest) <+: title := by
  have hleft := Text.prefix_dropWhileEnd Line.isSpaceOrTab title
  cases h with
  | blank hrest =>
    have hprefix := titleOf_prefix_body (title ++ rest)
    rw [Text.dropWhileEnd_append hrest] at hprefix
    exact hprefix.trans hleft
  | closed hgap hne hsigns hsome htail =>
    rw [titleOf_closed hgap hne hsigns hsome htail]
    exact hleft

end

/-! ## The parts of a heading line -/

/-- A heading line is its indentation, the number signs of its level, and a text with
    blanks before it. -/
structure Parts (line indent signs gap text : List Char) : Prop where
  eq : line = indent ++ (signs ++ (gap ++ text))
  spaces : ∀ c ∈ indent, (c == ' ') = true
  short : indent.length ≤ 3
  numberSigns : ∀ c ∈ signs, (c == '#') = true
  level : 1 ≤ signs.length ∧ signs.length ≤ 6
  blanks : ∀ c ∈ gap, Line.isSpaceOrTab c = true
  starts : text.head?.any Line.isSpaceOrTab = false
  apart : gap = [] → text = []

section
variable {line indent signs gap text : List Char}

theorem Parts.read?_eq (h : Parts line indent signs gap text) :
    read? line = some (signs.length, Text.trim (titleOf text)) := by
  have hindent : (signs ++ (gap ++ text)).head?.any (· == ' ') = false := by
    obtain ⟨c, signs, rfl⟩ := List.exists_cons_of_length_pos h.level.1
    rw [List.cons_append, List.head?_cons, Option.any_some,
      eq_of_beq (h.numberSigns c List.mem_cons_self)]
    decide
  have hsigns : (gap ++ text).head?.any (· == '#') = false ∧
      (gap ++ text).head?.all Line.isSpaceOrTab = true := by
    cases gap with
    | nil => rw [h.apart rfl]; exact ⟨rfl, rfl⟩
    | cons c gap =>
      have hc := h.blanks c List.mem_cons_self
      exact ⟨not_sign_of_blank hc, hc⟩
  obtain ⟨hi, hi'⟩ := Text.takeWhile_run_append h.spaces hindent
  obtain ⟨hs, hs'⟩ := Text.takeWhile_run_append h.numberSigns hsigns.1
  rw [read?, Line.dropIndent?, h.eq, hi, hi', if_pos h.short]
  simp only [hs, hs', (Text.takeWhile_run_append h.blanks h.starts).2]
  rw [if_pos ⟨h.level.1, h.level.2, hsigns.2⟩]

theorem exists_parts_of_read? (h : (read? line).isSome) :
    ∃ indent signs gap text, Parts line indent signs gap text := by
  obtain ⟨indent, rest, hline, hspaces, hrest⟩ := Text.exists_run_append (· == ' ') line
  obtain ⟨signs, rest', rfl, hsigns, hrest'⟩ := Text.exists_run_append (· == '#') rest
  obtain ⟨gap, text, rfl, hgap, htext⟩ := Text.exists_run_append Line.isSpaceOrTab rest'
  obtain ⟨hi, hi'⟩ := Text.takeWhile_run_append hspaces hrest
  obtain ⟨hs, hs'⟩ := Text.takeWhile_run_append hsigns hrest'
  rw [read?, Line.dropIndent?, hline, hi, hi'] at h
  split at h
  · cases h
  · next cs hcs =>
    obtain ⟨hshort, hcs⟩ := Option.ite_none_right_eq_some.1 hcs
    obtain rfl := Option.some.inj hcs
    simp only [hs, hs'] at h
    split at h
    · next hlevel =>
      refine ⟨indent, signs, gap, text, hline, hspaces, hshort, hsigns, ⟨hlevel.1, hlevel.2.1⟩,
        hgap, htext, ?_⟩
      rintro rfl
      cases text with
      | nil => rfl
      | cons c text => exact absurd hlevel.2.2 (by simpa using htext)
    · cases h

end

/-! ## The form of a heading line -/

/-- The pattern that heading lines match. -/
def pattern : String :=
  "^ \x7b0,3\x7d(#\x7b1,6\x7d)(?:[ \\t]+(.*?))?(?:[ \\t]+#+)?[ \\t]*$"

namespace Form

/-- A space or a tab. -/
def blank : Regex := .set false ([' ', '\t'].map (.single ·.toNat))

/-- A number sign. -/
def sign : Regex := .single '#'.toNat false

/-- The blanks before the title, and the title. -/
def titled : Regex :=
  .ofItems [.repeated .greedy 1 none blank,
    .group (some 2) [] [] (.ofItems [.repeated .lazy 0 none .any])]

/-- The run of number signs that closes the line. -/
def closed : Regex := .ofItems [.repeated .greedy 1 none blank, .repeated .greedy 1 none sign]

end Form

/-- The form that the pattern writes. -/
def form : Regex :=
  .ofItems [.place .lineStart, .repeated .greedy 0 (some 3) (.single ' '.toNat false),
    .group (some 1) [] [] (.ofItems [.repeated .greedy 1 (some 6) Form.sign]),
    .repeated .greedy 0 (some 1) (.group none [] [] Form.titled),
    .repeated .greedy 0 (some 1) (.group none [] [] Form.closed),
    .repeated .greedy 0 none Form.blank, .place .lineEnd]

theorem ofString_pattern : Pattern.ofString pattern = .ok ⟨pattern, [], form⟩ := by decide +kernel

namespace Form

theorem goesOn_blank : blank.goesOn [] = Spot.step Line.isSpaceOrTab := by
  funext way
  refine (Regex.goesOn_set _ way).trans (congrArg (Spot.step · way) (funext fun c => ?_))
  simp [Line.isSpaceOrTab, Bool.beq_eq_decide_eq]

theorem goesOn_sign : sign.goesOn [] = Spot.step (· == '#') :=
  funext (Regex.goesOn_single '#')

/-- From the last blanks on. -/
def fromBlanks : Way := Regex.repeating .greedy 0 none (Spot.step Line.isSpaceOrTab) Regex.atEnd

/-- From the number signs on that close the line. -/
def fromClosing : Way := Regex.repeating .greedy 1 none (Spot.step (· == '#')) fromBlanks

/-- After the title. -/
def afterTitle : Way := fun s =>
  (Regex.repeating .greedy 1 none (Spot.step Line.isSpaceOrTab) fromClosing s).or (fromBlanks s)

/-- From the title on. -/
def fromTitle : Way := fun s =>
  Regex.repeating .lazy 0 none (Spot.step (· != '\n')) (fun t => afterTitle (t.ending 2))
    (s.starting 2)

/-- After the number signs of the level. -/
def afterSigns : Way := fun s =>
  (Regex.repeating .greedy 1 none (Spot.step Line.isSpaceOrTab) fromTitle s).or (afterTitle s)

/-- From the number signs of the level on. -/
def fromSigns : Way := fun s =>
  Regex.repeating .greedy 1 (some 6) (Spot.step (· == '#')) (fun t => afterSigns (t.ending 1))
    (s.starting 1)

theorem goesOn_closed : closed.goesOn [] fromBlanks =
    Regex.repeating .greedy 1 none (Spot.step Line.isSpaceOrTab) fromClosing := by
  simp only [closed, Regex.goesOn_ofItems, List.foldr_cons, List.foldr_nil]
  rw [Regex.goesOn, Regex.goesOn, goesOn_blank, goesOn_sign]
  rfl

theorem goesOn_titled : titled.goesOn [] afterTitle =
    Regex.repeating .greedy 1 none (Spot.step Line.isSpaceOrTab) fromTitle := by
  have htitle : (Regex.group (some 2) [] [] (.ofItems [.repeated .lazy 0 none .any])).goesOn []
      afterTitle = fromTitle := by
    funext s
    rw [Spot.goesOn_group, Regex.goesOn_ofItems]
    simp only [List.foldr_cons, List.foldr_nil]
    rw [Regex.goesOn, funext Regex.goesOn_any]
    rfl
  simp only [titled, Regex.goesOn_ofItems, List.foldr_cons, List.foldr_nil, htitle]
  rw [Regex.goesOn, goesOn_blank]

theorem goesOn_form (line : List Char) : form.goesOn [] some (Spot.ofText line) =
    Regex.repeating .greedy 0 (some 3) (Spot.step (· == ' ')) fromSigns (Spot.ofText line) := by
  have hend : (Regex.place .lineEnd).goesOn [] some = Regex.atEnd := rfl
  have hblanks : (Regex.repeated .greedy 0 none blank).goesOn [] Regex.atEnd = fromBlanks := by
    rw [Regex.goesOn, goesOn_blank]; rfl
  have hclosed : (Regex.repeated .greedy 0 (some 1) (.group none [] [] closed)).goesOn []
      fromBlanks = afterTitle := by
    funext s
    rw [afterTitle, ← goesOn_closed]
    exact Regex.repeating_optional _ _ s
  have htitled : (Regex.repeated .greedy 0 (some 1) (.group none [] [] titled)).goesOn []
      afterTitle = afterSigns := by
    funext s
    rw [afterSigns, ← goesOn_titled]
    exact Regex.repeating_optional _ _ s
  have hsigns : (Regex.group (some 1) [] []
      (.ofItems [.repeated .greedy 1 (some 6) sign])).goesOn [] afterSigns = fromSigns := by
    funext s
    rw [Spot.goesOn_group, Regex.goesOn_ofItems]
    simp only [List.foldr_cons, List.foldr_nil]
    rw [Regex.goesOn, goesOn_sign]
    rfl
  rw [form, Regex.goesOn_ofItems]
  simp only [List.foldr_cons, List.foldr_nil, hend, hblanks, hclosed, htitled, hsigns]
  rw [Regex.goesOn, Regex.goesOn, funext (Regex.goesOn_single ' ')]
  rfl

/-! ## What the form refuses -/

theorem refuses_fromBlanks : Regex.Refuses fromBlanks (· == '#') :=
  Regex.refuses_repeating (fun _ => not_blank_of_sign) (by simp) fun _ =>
    Regex.refuses_atEnd (by decide)

theorem refuses_fromClosing : Regex.Refuses fromClosing Line.isSpaceOrTab :=
  Regex.refuses_repeating (fun _ => not_sign_of_blank) (by simp) (by simp)

theorem refuses_gap (way : Way) : Regex.Refuses
    (Regex.repeating .greedy 1 none (Spot.step Line.isSpaceOrTab) way) (· == '#') :=
  Regex.refuses_repeating (fun _ => not_blank_of_sign) (by simp) (by simp)

theorem refuses_afterTitle : Regex.Refuses afterTitle (· == '#') := fun s hs => by
  rw [afterTitle, refuses_gap _ s hs, refuses_fromBlanks s hs]; rfl

theorem refuses_afterSigns : Regex.Refuses afterSigns (· == '#') := fun s hs => by
  rw [afterSigns, refuses_gap _ s hs, refuses_afterTitle s hs]; rfl

theorem refuses_fromSigns : Regex.Refuses fromSigns (· == ' ') := fun s hs =>
  Regex.refuses_repeating (fun c hc => by rw [eq_of_beq hc]; decide) (by simp) (by simp)
    (s.starting 1) hs

/-! ## What the form matches -/

theorem takesRest_afterTitle : Regex.TakesRest afterTitle Ends := by
  have hblanks : Regex.TakesRest fromBlanks fun cs => ∀ c ∈ cs, Line.isSpaceOrTab c = true :=
    (Regex.takesRest_atEnd.repeating (Regex.refuses_atEnd (by decide)) 0).congr fun cs => by
      constructor
      · rintro ⟨run, rest, rfl, hrun, -, rfl⟩
        rwa [List.append_nil]
      · exact fun h => ⟨cs, [], (List.append_nil cs).symm, h, Nat.zero_le _, rfl⟩
  have hclosing := (hblanks.repeating refuses_fromBlanks 1).repeating refuses_fromClosing 1
  refine (hclosing.or hblanks).congr fun cs => ?_
  constructor
  · rintro (⟨gap, _, rfl, hgap, hone, signs, tail, rfl, hsigns, hone', htail⟩ | h)
    · exact .closed hgap (List.length_pos_iff.1 hone) hsigns (List.length_pos_iff.1 hone') htail
    · exact .blank h
  · rintro (h | @⟨gap, signs, tail, hgap, hne, hsigns, hsome, htail⟩)
    · exact Or.inr h
    · exact Or.inl ⟨gap, _, rfl, hgap, List.length_pos_iff.2 hne, signs, tail, rfl, hsigns,
        List.length_pos_iff.2 hsome, htail⟩

section
variable {s t : Spot}

/-- The place at the end of a line, if the text that comes next has a title. -/
def pastTitle (s : Spot) (text : List Char) : Spot :=
  (((s.starting 2).past (titleOf text)).ending 2).past (text.drop (titleOf text).length)

/-- **The title that the form takes first is the shortest.** -/
theorem fromTitle_eq (h : '\n' ∉ s.rest) : fromTitle s = some (pastTitle s s.rest) := by
  obtain ⟨rest, hs, hends⟩ := titleOf_append s.rest
  have hdrop : s.rest.drop (titleOf s.rest).length = rest :=
    (congrArg (List.drop (titleOf s.rest).length) hs).trans List.drop_left
  have hrun : (s.starting 2).rest.takeWhile (· != '\n') = titleOf s.rest ++ rest := by
    rw [← hs]
    exact List.takeWhile_eq_self_iff.2 fun c hc => by
      rw [bne_iff_ne]
      rintro rfl
      exact h hc
  have hpast : ∀ {a b}, s.rest = a ++ b → (((s.starting 2).past a).ending 2).rest = b :=
    fun hab => Spot.rest_past (s := s.starting 2) hab
  have hnone : ∀ a, '\n' ∉ (((s.starting 2).past a).ending 2).rest :=
    fun a hc => h (Spot.mem_of_mem_past (s := s.starting 2) hc)
  have hway : afterTitle (((s.starting 2).past (titleOf s.rest)).ending 2) =
      some (pastTitle s s.rest) := by
    rw [takesRest_afterTitle _ _ (hnone _), hpast hs]
    exact ⟨hends, by rw [pastTitle, hdrop]⟩
  refine (Regex.repeating_lazy_of_first hrun (by rw [hway]; rfl) ?_).trans hway
  intro a c b hshort
  refine Option.eq_none_iff_forall_ne_some.2 fun u hu => ?_
  have hab : s.rest = a ++ (c :: b ++ rest) := by rw [← List.append_assoc, ← hshort, ← hs]
  have hends := ((takesRest_afterTitle _ _ (hnone a)).1 hu).1
  rw [hpast hab] at hends
  have hlonger := (prefix_titleOf a hends).length_le
  rw [← hab, hshort] at hlonger
  simp at hlonger

/-- The place at the end of a line, if blanks and a text come next. -/
def pastText (s : Spot) (gap text : List Char) : Spot :=
  if gap = [] then s else pastTitle (s.past gap) text

theorem afterSigns_eq {gap text : List Char} (h : '\n' ∉ s.rest) (hs : s.rest = gap ++ text)
    (hgap : ∀ c ∈ gap, Line.isSpaceOrTab c = true)
    (htext : text.head?.any Line.isSpaceOrTab = false) :
    afterSigns s = if gap = [] → text = [] then some (pastText s gap text) else none := by
  have htake : s.rest.takeWhile Line.isSpaceOrTab = gap := by
    rw [hs, (Text.takeWhile_run_append hgap htext).1]
  by_cases hne : gap = []
  · subst hne
    rw [afterSigns, Regex.repeating_of_neg (by rw [hs]; exact htext) (by simp),
      if_neg Nat.one_ne_zero, Option.none_or]
    split
    · next hnil =>
      rw [hnil rfl] at hs
      refine (takesRest_afterTitle s s h).2 ?_
      rw [hs]
      exact ⟨.blank (by simp), rfl⟩
    · next hsome =>
      refine Option.eq_none_iff_forall_ne_some.2 fun u hu => hsome fun _ => ?_
      have hends := ((takesRest_afterTitle s u h).1 hu).1
      rw [hs] at hends
      exact hends.eq_nil htext
  · have hway : fromTitle (s.past gap) = some (pastTitle (s.past gap) text) := by
      rw [fromTitle_eq fun hc => h (Spot.mem_of_mem_past hc), Spot.rest_past hs]
    rw [afterSigns, Regex.repeating_of_isSome (by rw [htake]; exact List.length_pos_iff.2 hne)
      (by rw [htake, hway]; rfl), htake, hway, if_pos fun hnil => absurd hnil hne, pastText,
      if_neg hne]
    rfl

theorem afterSigns_eq_some_iff (h : '\n' ∉ s.rest) : afterSigns s = some t ↔
    ∃ gap text, s.rest = gap ++ text ∧ (∀ c ∈ gap, Line.isSpaceOrTab c = true) ∧
      text.head?.any Line.isSpaceOrTab = false ∧ (gap = [] → text = []) ∧
      t = pastText s gap text := by
  constructor
  · intro ht
    obtain ⟨gap, text, hs, hgap, htext⟩ := Text.exists_run_append Line.isSpaceOrTab s.rest
    rw [afterSigns_eq h hs hgap htext] at ht
    obtain ⟨hapart, ht⟩ := Option.ite_none_right_eq_some.1 ht
    exact ⟨gap, text, hs, hgap, htext, hapart, (Option.some.inj ht).symm⟩
  · rintro ⟨gap, text, hs, hgap, htext, hapart, rfl⟩
    rw [afterSigns_eq h hs hgap htext, if_pos hapart]

end

/-- The place at the end of a heading line. -/
def pastLine (line indent signs gap text : List Char) : Spot :=
  pastText (((((Spot.ofText line).past indent).starting 1).past signs).ending 1) gap text

/-- **The form matches the lines that have the parts of a heading line.** -/
theorem goesOn_form_eq_some_iff {line : List Char} (h : '\n' ∉ line) {t : Spot} :
    form.goesOn [] some (Spot.ofText line) = some t ↔
      ∃ indent signs gap text, Parts line indent signs gap text ∧
        t = pastLine line indent signs gap text := by
  have hfrom : ∀ u : Spot, fromSigns u = some t ↔
      ∃ signs rest, u.rest = signs ++ rest ∧ (∀ c ∈ signs, (c == '#') = true) ∧
        1 ≤ signs.length ∧ (∀ n ∈ some 6, signs.length ≤ n) ∧
        afterSigns (((u.starting 1).past signs).ending 1) = some t := fun u =>
    Regex.repeating_eq_some_iff (fun s hs => refuses_afterSigns (s.ending 1) hs) (by simp)
  have hend : ∀ indent signs : List Char,
      '\n' ∉ (((((Spot.ofText line).past indent).starting 1).past signs).ending 1).rest :=
    fun indent signs hc => h (Spot.mem_of_mem_past (s := Spot.ofText line) (Spot.mem_of_mem_past
      (s := ((Spot.ofText line).past indent).starting 1) hc))
  -- what is left after the indentation, and after the number signs
  have hrest : ∀ {indent rest : List Char}, line = indent ++ rest →
      ((Spot.ofText line).past indent).rest = rest :=
    fun hline => Spot.rest_past (s := Spot.ofText line) hline
  have hrest' : ∀ {indent signs rest : List Char}, line = indent ++ (signs ++ rest) →
      (((((Spot.ofText line).past indent).starting 1).past signs).ending 1).rest = rest :=
    fun hline => Spot.rest_past (s := ((Spot.ofText line).past _).starting 1) (hrest hline)
  rw [goesOn_form, Regex.repeating_eq_some_iff refuses_fromSigns (by simp)]
  constructor
  · rintro ⟨indent, rest, hline, hindent, -, hshort, hs⟩
    obtain ⟨signs, rest', hsplit, hsigns, hone, hsix, ha⟩ := (hfrom _).1 hs
    have hline : line = indent ++ (signs ++ rest') := by
      rw [← hsplit, hrest hline]; exact hline
    obtain ⟨gap, text, hsplit', hgap, htext, hapart, rfl⟩ :=
      (afterSigns_eq_some_iff (hend _ _)).1 ha
    rw [hrest' hline] at hsplit'
    exact ⟨indent, signs, gap, text, ⟨hsplit' ▸ hline, hindent, hshort 3 rfl, hsigns,
      ⟨hone, hsix 6 rfl⟩, hgap, htext, hapart⟩, rfl⟩
  · rintro ⟨indent, signs, gap, text, hp, rfl⟩
    refine ⟨indent, _, hp.eq, hp.spaces, Nat.zero_le _, by simpa using hp.short, (hfrom _).2 ?_⟩
    refine ⟨signs, _, hrest hp.eq, hp.numberSigns, hp.level.1, by simpa using hp.level.2, ?_⟩
    exact (afterSigns_eq_some_iff (hend _ _)).2
      ⟨gap, text, hrest' hp.eq, hp.blanks, hp.starts, hp.apart, rfl⟩

variable {line indent signs gap text : List Char}

/-- The first group has matched the number signs of the level. -/
theorem matched?_pastLine_one : (pastLine line indent signs gap text).matched? 1 = some signs := by
  by_cases hgap : gap = []
  · refine Spot.matched?_eq indent.length indent.reverse [] ?_ ?_ ?_ ?_
    all_goals simp [pastLine, pastText, hgap, Spot.ofText, Spot.past, Spot.starting, Spot.ending]
  · refine Spot.matched?_eq indent.length indent.reverse
      (gap ++ (titleOf text ++ text.drop (titleOf text).length)) ?_ ?_ ?_ ?_
    all_goals simp [pastLine, pastText, pastTitle, hgap, Spot.ofText, Spot.past, Spot.starting,
      Spot.ending, Nat.add_assoc, List.lookup]

/-- The second group has matched the title. -/
theorem matched?_pastLine_two : (pastLine line indent signs gap text).matched? 2 =
    if gap = [] then none else some (titleOf text) := by
  split
  · next hgap =>
    simp [pastLine, pastText, hgap, Spot.ofText, Spot.past, Spot.starting, Spot.ending,
      Spot.matched?, Spot.span?]
  · next hgap =>
    refine Spot.matched?_eq (indent ++ signs ++ gap).length (indent ++ signs ++ gap).reverse
      (text.drop (titleOf text).length) ?_ ?_ ?_ ?_
    all_goals simp [pastLine, pastText, pastTitle, hgap, Spot.ofText, Spot.past, Spot.starting,
      Spot.ending, Nat.add_assoc]

end Form

/-- What a line says, if the pattern matches it: the length of its first group, and its
    second without blanks at its ends. -/
def found? (line : List Char) : Option (Nat × List Char) :=
  (Pattern.ofString pattern).toOption.bind fun p =>
    (p.body.goesOn p.flags some (Spot.ofText line)).map fun s =>
      (((s.matched? 1).getD []).length, Text.trim ((s.matched? 2).getD []))

/-- **A heading line says what the pattern first finds in it.** -/
theorem read?_eq_found? {line : List Char} (h : '\n' ∉ line) : read? line = found? line := by
  have hform : found? line = (form.goesOn [] some (Spot.ofText line)).map fun s =>
      (((s.matched? 1).getD []).length, Text.trim ((s.matched? 2).getD [])) := by
    rw [found?, ofString_pattern]; rfl
  have hfound : ∀ {indent signs gap text}, Parts line indent signs gap text →
      found? line = some (signs.length, Text.trim (titleOf text)) := by
    intro indent signs gap text hp
    rw [hform, (Form.goesOn_form_eq_some_iff h).2 ⟨indent, signs, gap, text, hp, rfl⟩,
      Option.map_some, Form.matched?_pastLine_one, Form.matched?_pastLine_two]
    split
    · next hgap => rw [hp.apart hgap]; rfl
    · rfl
  cases hr : read? line with
  | some r =>
    obtain ⟨indent, signs, gap, text, hp⟩ := exists_parts_of_read? (by rw [hr]; rfl)
    rw [← hr, hp.read?_eq, hfound hp]
  | none =>
    cases hm : form.goesOn [] some (Spot.ofText line) with
    | none => rw [hform, hm]; rfl
    | some t =>
      obtain ⟨indent, signs, gap, text, hp, -⟩ := (Form.goesOn_form_eq_some_iff h).1 hm
      rw [hp.read?_eq] at hr
      cases hr

/-! ## Titles that are written -/

/-- A text ends with a run of number signs after a space or a tab. -/
def EndsClosed (title : List Char) : Prop :=
  ∃ before c signs, title = before ++ c :: signs ∧ Line.isSpaceOrTab c = true ∧ signs ≠ [] ∧
    ∀ d ∈ signs, (d == '#') = true

/-- The line of a heading with a title. -/
def line (level : Nat) (title : List Char) : List Char := List.replicate level '#' ++ ' ' :: title

/-- The same line with a run of number signs at its end. -/
def closedLine (level : Nat) (title : List Char) (count : Nat) : List Char :=
  line level title ++ ' ' :: List.replicate count '#'

section
variable {level count : Nat} {title : List Char}

theorem isSpaceOrTab_of_not_blank {c : Char} (h : Text.isBlank c = false) :
    Line.isSpaceOrTab c = false := by
  rw [Line.isSpaceOrTab, Bool.or_eq_false_iff, beq_eq_false_iff_ne, beq_eq_false_iff_ne]
  constructor <;> (rintro rfl; revert h; decide)

theorem head_of_trim (h : Text.trim title = title) :
    title.head?.any Line.isSpaceOrTab = false := by
  cases title with
  | nil => rfl
  | cons c title => exact isSpaceOrTab_of_not_blank ((Text.trim_eq_self_iff.1 h).1 c rfl)

theorem last_of_trim (h : Text.trim title = title) :
    ∀ c ∈ title.getLast?, Line.isSpaceOrTab c = false :=
  fun c hc => isSpaceOrTab_of_not_blank ((Text.trim_eq_self_iff.1 h).2 c hc)

theorem trim_signs (count : Nat) :
    Text.trim (List.replicate count '#') = List.replicate count '#' :=
  Text.trim_eq_self fun c hc => by rw [List.eq_of_mem_replicate hc]; decide

theorem sign_of_mem_replicate {c : Char} (h : c ∈ List.replicate count '#') :
    (c == '#') = true := by
  rw [List.eq_of_mem_replicate h]; decide

theorem eq_nil_of_last {p : Char → Bool} {cs : List Char} (hall : ∀ c ∈ cs, p c = true)
    (hlast : ∀ c ∈ cs.getLast?, p c = false) : cs = [] := by
  by_contra hsome
  have hc := hlast _ (List.getLast?_eq_some_getLast hsome)
  rw [hall _ (List.getLast_mem hsome)] at hc
  cases hc

/-- What comes after a title is a run of number signs, if it does not end with a blank. -/
theorem Ends.endsClosed {rest : List Char} (h : Ends rest) (hsome : rest ≠ [])
    (hlast : ∀ c ∈ rest.getLast?, Line.isSpaceOrTab c = false) (before : List Char) :
    EndsClosed (before ++ rest) := by
  cases h with
  | blank hrest => exact absurd (eq_nil_of_last hrest hlast) hsome
  | @closed gap signs tail hgap hne hsigns hsigns' htail =>
    have hnone : tail = [] := by
      by_contra htail'
      refine htail' (eq_nil_of_last htail fun c hc => hlast c ?_)
      rwa [← List.append_assoc, List.getLast?_append_of_ne_nil _ htail']
    obtain ⟨first, c, rfl⟩ := (List.eq_nil_or_concat gap).resolve_left hne
    exact ⟨before ++ first, c, signs, by simp [hnone], hgap c (by simp), hsigns', hsigns⟩

/-- A text that ends with neither a blank nor such a run is its own title. -/
theorem titleOf_eq_self (hlast : ∀ c ∈ title.getLast?, Line.isSpaceOrTab c = false)
    (hopen : ¬ EndsClosed title) : titleOf title = title := by
  obtain ⟨rest, htitle, hends⟩ := titleOf_append title
  have hnone : rest = [] := by
    by_contra hsome
    refine hopen (htitle ▸ hends.endsClosed hsome (fun c hc => hlast c ?_) (titleOf title))
    rwa [htitle, List.getLast?_append_of_ne_nil _ hsome]
  rw [hnone, List.append_nil] at htitle
  exact htitle.symm

theorem parts_of_level (gap text : List Char) (hlevel : 1 ≤ level ∧ level ≤ 6)
    (hgap : ∀ c ∈ gap, Line.isSpaceOrTab c = true) (hne : gap ≠ [])
    (htext : text.head?.any Line.isSpaceOrTab = false) :
    Parts (List.replicate level '#' ++ (gap ++ text)) [] (List.replicate level '#') gap text where
  eq := rfl
  spaces := by simp
  short := Nat.zero_le 3
  numberSigns := fun _ => sign_of_mem_replicate
  level := by rwa [List.length_replicate]
  blanks := hgap
  starts := htext
  apart := fun hnil => absurd hnil hne

theorem read?_line (hlevel : 1 ≤ level ∧ level ≤ 6) (htrim : Text.trim title = title)
    (hopen : ¬ EndsClosed title) : read? (line level title) = some (level, title) := by
  have hparts := parts_of_level [' '] title hlevel (by simp [Line.isSpaceOrTab]) (by simp)
    (head_of_trim htrim)
  rw [line, ← List.singleton_append, hparts.read?_eq, List.length_replicate,
    titleOf_eq_self (last_of_trim htrim) hopen, htrim]

/-- A run of number signs that closes the line of a title. -/
theorem titleOf_append_signs (htrim : Text.trim title = title) (hcount : 1 ≤ count) :
    titleOf (title ++ ' ' :: List.replicate count '#') = title := by
  have h : titleOf (title ++ ([' '] ++ (List.replicate count '#' ++ []))) =
      Text.dropWhileEnd Line.isSpaceOrTab title :=
    titleOf_closed (by simp [Line.isSpaceOrTab]) (by simp) (fun _ => sign_of_mem_replicate)
      (by simpa using Nat.ne_of_gt hcount) (by simp)
  rw [Text.dropWhileEnd_eq_self (last_of_trim htrim), List.append_nil, List.singleton_append] at h
  exact h

theorem not_endsClosed_replicate (count : Nat) : ¬ EndsClosed (List.replicate count '#') := by
  rintro ⟨before, c, signs, he, hc, -⟩
  have hmem : c ∈ List.replicate count '#' := he ▸ by simp
  rw [not_blank_of_sign (sign_of_mem_replicate hmem)] at hc
  cases hc

theorem read?_closedLine (hlevel : 1 ≤ level ∧ level ≤ 6) (htrim : Text.trim title = title)
    (hcount : 1 ≤ count) : read? (closedLine level title count) =
      some (level, if title = [] then List.replicate count '#' else title) := by
  have hline : closedLine level title count =
      List.replicate level '#' ++ ([' '] ++ (title ++ ' ' :: List.replicate count '#')) := by
    simp [closedLine, line]
  rw [hline]
  cases title with
  | nil =>
    -- the blanks that the run needs before it are taken for those before a title
    have hparts := parts_of_level [' ', ' '] (List.replicate count '#') hlevel
      (by simp [Line.isSpaceOrTab]) (by simp) (head_of_trim (trim_signs count))
    exact hparts.read?_eq.trans (by
      rw [List.length_replicate, titleOf_eq_self (last_of_trim (trim_signs count))
        (not_endsClosed_replicate count), trim_signs, if_pos rfl])
  | cons c title =>
    have hparts := parts_of_level [' '] (c :: title ++ ' ' :: List.replicate count '#') hlevel
      (by simp [Line.isSpaceOrTab]) (by simp)
      (isSpaceOrTab_of_not_blank ((Text.trim_eq_self_iff.1 htrim).1 c rfl))
    rw [hparts.read?_eq, List.length_replicate, titleOf_append_signs htrim hcount, htrim,
      if_neg (List.cons_ne_nil c title)]

end

end Heading

/-! ## The section that a heading line opens -/

namespace Heading

theorem exists_line_of_mem_found {open? : Option Fence} {lines : List Line}
    {h : Nat × String × Nat × Nat} (hm : h ∈ found open? lines) :
    ∃ l ∈ lines, h.2.2.1 = l.start := by
  induction lines generalizing open? with
  | nil => simp [found] at hm
  | cons l lines ih =>
    have hlater : ∀ {open?}, h ∈ found open? lines → ∃ m ∈ l :: lines, h.2.2.1 = m.start :=
      fun hm => by
        obtain ⟨m, hmem, hstart⟩ := ih hm
        exact ⟨m, List.mem_cons_of_mem l hmem, hstart⟩
    cases open? with
    | some f => exact hlater hm
    | none =>
      rcases List.mem_append.1 hm with hm | hm
      · obtain ⟨r, -, rfl⟩ := Option.map_eq_some_iff.1 (Option.mem_toList.1 hm)
        exact ⟨l, List.mem_cons_self, rfl⟩
      · exact hlater hm

end Heading

namespace Body

/-- The levels and the headings of the sections that start at a line, and where their
    lines start and stop. -/
def openedBy (s : Octets) (l : Line) : List (Nat × String × Nat × Nat) :=
  ((ofOctets s).sections.map fun t => (t.level, t.heading, t.headingStart, t.start)).filter
    (·.2.2.1 == l.start)

/-- **A line outside of fences opens a section if it is a heading**, and no other. -/
theorem openedBy_eq {s : Octets} {above below : List Line} {l : Line}
    (hs : Line.ofOctets s = above ++ l :: below) (hout : Fence.afterAll none above = none) :
    openedBy s l = (Heading.ofLine? l).toList := by
  obtain ⟨m, habove, hbelow⟩ := Line.run_append.1 (hs ▸ Line.run_ofOctets s)
  have hm : l.start = m := hbelow.1
  have hfilter : ∀ {open? : Option Fence} {lines : List Line}, (∀ k ∈ lines, k.start ≠ l.start) →
      (Heading.found open? lines).filter (·.2.2.1 == l.start) = [] := by
    intro open? lines hne
    refine List.filter_eq_nil_iff.2 fun h hh => ?_
    obtain ⟨k, hk, hstart⟩ := Heading.exists_line_of_mem_found hh
    simpa [hstart] using hne k hk
  have hline : (Heading.ofLine? l).toList.filter (·.2.2.1 == l.start) =
      (Heading.ofLine? l).toList := by
    refine List.filter_eq_self.2 fun h hh => ?_
    obtain ⟨r, -, rfl⟩ := Option.map_eq_some_iff.1 (Option.mem_toList.1 hh)
    exact beq_self_eq_true l.start
  have hsections : (ofOctets s).sections.map
      (fun t => (t.level, t.heading, t.headingStart, t.start)) =
        Heading.found none above ++ ((Heading.ofLine? l).toList ++
          Heading.found (Fence.after none l.text) below) := by
    rw [(isHeadingTree_ofOctets s).headings, octets_ofOctets, Heading.headings_ofLines, hs,
      Heading.found_append, hout]
    rfl
  rw [openedBy, hsections, List.filter_append, List.filter_append, hline, hfilter, hfilter,
    List.nil_append, List.append_nil]
  · intro k hk
    have := (hbelow.2.2.bounds hk).1
    have := hbelow.2.1
    omega
  · intro k hk
    have := habove.bounds hk
    omega

/-- **The section of a heading line, closed or not.**  Outside of fences a title that is
    written on a line with number signs and a space before it is the heading of a section
    of that level.  With a run of number signs after it it is so too, unless the title is
    empty: then the run is the heading. -/
theorem openedBy_line {s : Octets} {above below : List Line} {l : Line} {level : Nat}
    {title : List Char} (hs : Line.ofOctets s = above ++ l :: below)
    (hout : Fence.afterAll none above = none) (hlevel : 1 ≤ level ∧ level ≤ 6)
    (htrim : Text.trim title = title) (hopen : ¬ Heading.EndsClosed title) :
    (l.text = Heading.line level title →
      openedBy s l = [(level, String.ofList title, l.start, l.stop)]) ∧
    ∀ count, 1 ≤ count → l.text = Heading.closedLine level title count →
      openedBy s l = [(level,
        String.ofList (if title = [] then List.replicate count '#' else title),
        l.start, l.stop)] := by
  rw [openedBy_eq hs hout]
  constructor
  · intro hl
    rw [Heading.ofLine?, hl, Heading.read?_line hlevel htrim hopen]
    rfl
  · intro count hcount hl
    rw [Heading.ofLine?, hl, Heading.read?_closedLine hlevel htrim hcount]
    rfl

/-- A title with a number sign in it, without a run after it and with one. -/
theorem openedBy_line_of_inner_sign :
    ∃ l m, Line.ofOctets (Utf8.ofString "# a #b\n## a #b ##\n") = [l, m] ∧
      openedBy (Utf8.ofString "# a #b\n## a #b ##\n") l = [(1, "a #b", 0, 7)] ∧
      openedBy (Utf8.ofString "# a #b\n## a #b ##\n") m = [(2, "a #b", 7, 18)] := by
  have hlines : Line.ofOctets (Utf8.ofString "# a #b\n## a #b ##\n") =
      [⟨0, 7, "# a #b".toList⟩, ⟨7, 18, "## a #b ##".toList⟩] := by decide
  have hopen : ¬ Heading.EndsClosed "a #b".toList := by
    rintro ⟨before, c, signs, he, -, hsome, hsigns⟩
    have hlast : signs.getLast? = some 'b' := by
      rw [← List.getLast?_append_of_ne_nil (before ++ [c]) hsome, List.append_assoc,
        List.singleton_append, ← he]
      rfl
    exact absurd (hsigns 'b' (List.mem_of_mem_getLast? hlast)) (by decide)
  refine ⟨_, _, hlines, ?_, ?_⟩
  · exact (@openedBy_line _ [] _ _ _ _ hlines rfl (by decide) (by decide) hopen).1 rfl
  · exact (@openedBy_line _ [_] [] _ _ _ hlines (by decide) (by decide) (by decide) hopen).2 2
      (by decide) rfl

/-- A run of number signs after no title is taken for the title. -/
theorem openedBy_untitled : ∃ l, Line.ofOctets (Utf8.ofString "#  #\n") = [l] ∧
    l.text = Heading.closedLine 1 [] 1 ∧
    openedBy (Utf8.ofString "#  #\n") l = [(1, "#", 0, 5)] :=
  ⟨⟨0, 5, "#  #".toList⟩, by decide, by decide, by decide +kernel⟩

end Body

end Folio
