/-
  Folio — what reading a document yields.

  Reading should never fail: what is wrong with a header (`Header.Wrong`) becomes
  part of the document, and only a strict reader refuses it (`Document.Read`).  It
  does so for every file but those whose header fails with a misfit
  (`Header.Escapes`), which passes both readers by.

  * `parse_iff_not_escapes`: which files are read as they should be;
  * `parse_digits_missing`: one that is not.
-/
import Mathlib
import Folio.Document.Basic
import Folio.Proofs.Document.Split
import Folio.Proofs.Yaml.Misfit

namespace Folio

namespace Header

/-! ## Headers that are wrong -/

/-- What is wrong with the header of a file. -/
inductive Wrong (raw : Octets) : HeaderError → Prop
  /-- A line starts a header, and none ends it. -/
  | unterminated {first rest} : Octets.lines (raw.drop (markLength raw)) = first :: rest →
      opens first = true → (∀ l ∈ rest, closes l = false) → Wrong raw .unterminated
  /-- The text of the header has an error. -/
  | invalid {octets offset e} : split raw = ⟨some octets, offset, none⟩ →
      Yaml.decode rules (Utf8.decode octets) = .error e → (∀ m, e ≠ .misfit m) →
      Wrong raw (.invalid e)
  /-- The header is a value, but neither a mapping nor empty. -/
  | notMapping {octets offset v} : split raw = ⟨some octets, offset, none⟩ →
      Yaml.decode rules (Utf8.decode octets) = .ok v → v ≠ .null → (∀ l es, v ≠ .map l es) →
      Wrong raw (.notMapping v.shortName)

/-- The text of the header of a file fails with a misfit. -/
def Escapes (raw : Octets) (m : Yaml.Misfit) : Prop :=
  ∃ octets offset, split raw = ⟨some octets, offset, none⟩ ∧
    Yaml.decode rules (Utf8.decode octets) = .error (.misfit m)

theorem Escapes.unique {raw : Octets} {m m' : Yaml.Misfit} (h : Escapes raw m) (h' : Escapes raw m') :
    m = m' := by
  obtain ⟨octets, offset, hs, hd⟩ := h
  obtain ⟨octets', offset', hs', hd'⟩ := h'
  rw [hs] at hs'
  cases hs'
  rw [hd] at hd'
  cases hd'; rfl

/-- Something is said of the text of the header: it can be read in one way only, no anchor
    names a value that holds itself, and no escape is half of a character. -/
def Clear (raw : Octets) : Prop := ∀ m, Escapes raw m → m.isUnclear = false

section
variable {raw : Octets}

/-- A header that no line ends. -/
theorem split_of_unterminated {first : Octets} {rest : List Octets}
    (hl : Octets.lines (raw.drop (markLength raw)) = first :: rest) (ho : opens first = true)
    (hc : ∀ l ∈ rest, closes l = false) :
    split raw = ⟨none, markLength raw, some .unterminated⟩ := by
  have hd : rest.takeWhile (fun l => !closes l) = rest :=
    List.takeWhile_eq_self_iff.2 fun l hl => by rw [hc l hl]; rfl
  simp only [split]
  rw [← markLength, hl]
  simp [ho, hd]

/-- A file has no header, one that no line ends, or one that is found. -/
theorem split_cases (raw : Octets) : split raw = ⟨none, markLength raw, none⟩ ∨
    (split raw = ⟨none, markLength raw, some .unterminated⟩ ∧ Wrong raw .unterminated) ∨
    ∃ octets offset, split raw = ⟨some octets, offset, none⟩ := by
  obtain ⟨s, hs⟩ : ∃ s, split raw = s := ⟨_, rfl⟩
  have h := hs
  simp only [split] at h
  split at h
  · exact Or.inl (hs.trans h.symm)
  · next first rest hl =>
    split at h
    · exact Or.inl (hs.trans h.symm)
    · next ho =>
      split at h
      · next hd =>
        rw [drop_length_takeWhile, List.dropWhile_eq_nil_iff] at hd
        have ho : opens first = true := by simpa using ho
        exact Or.inr (Or.inl ⟨hs.trans h.symm, .unterminated hl ho fun l hl => by simpa using hd l hl⟩)
      · exact Or.inr (Or.inr ⟨_, _, hs.trans h.symm⟩)

/-- A header that is found is wrong if its text is. -/
theorem wrong_iff_of_split {octets : Octets} {offset : Nat} (hs : split raw = ⟨some octets, offset, none⟩)
    {e : HeaderError} : Wrong raw e ↔ decode octets = .error (.error e) := by
  unfold decode
  constructor
  · intro h
    cases h with
    | unterminated hl ho hc => rw [split_of_unterminated hl ho hc] at hs; cases hs
    | invalid hs' hd hm =>
      rw [hs] at hs'
      cases hs'
      rw [hd]
      split
      · next m h => cases h; exact absurd rfl (hm m)
      · next h => cases h; rfl
      · next h => cases h
      · next h => cases h
      · next h => cases h
    | notMapping hs' hd hnull hmap =>
      rw [hs] at hs'
      cases hs'
      rw [hd]
      split
      · next h => cases h
      · next h => cases h
      · next h => cases h; exact absurd rfl hnull
      · next l es h => cases h; exact absurd rfl (hmap l es)
      · next h => cases h; rfl
  · intro h
    split at h
    · cases h
    · next e' hm hd => cases h; exact .invalid hs hd fun m he => hm m he
    · cases h
    · cases h
    · next v hnull hmap hd => cases h; exact .notMapping hs hd hnull hmap

theorem escapes_iff_of_split {octets : Octets} {offset : Nat}
    (hs : split raw = ⟨some octets, offset, none⟩) {m : Yaml.Misfit} :
    Escapes raw m ↔ decode octets = .error (.misfit m) := by
  unfold decode
  constructor
  · rintro ⟨octets', offset', hs', hd⟩
    rw [hs] at hs'
    cases hs'
    rw [hd]
  · intro h
    split at h
    · next hd => cases h; exact ⟨octets, offset, hs, hd⟩
    · cases h
    · cases h
    · cases h
    · cases h

/-- **The header of a file**: it fails with a misfit, or what is wrong with it is
    noted. -/
theorem headerOf_split (raw : Octets) :
    (∃ m, Escapes raw m ∧ Document.headerOf (split raw) = .error m) ∨
      ∃ es e?, Document.headerOf (split raw) = .ok (es, e?) ∧ (∀ m, ¬ Escapes raw m) ∧
        (∀ e, e? = some e ↔ Wrong raw e) ∧ (e? ≠ none → es = []) := by
  rcases split_cases raw with hs | ⟨hs, hw⟩ | ⟨octets, offset, hs⟩
  · refine Or.inr ⟨[], none, by rw [hs]; rfl, ?_, fun e => ⟨fun h => (by cases h), fun hw => ?_⟩,
      fun _ => rfl⟩
    · rintro m ⟨octets, offset, hs', -⟩
      rw [hs] at hs'; cases hs'
    · cases hw with
      | unterminated hl ho hc => rw [split_of_unterminated hl ho hc] at hs; cases hs
      | invalid hs' | notMapping hs' => rw [hs] at hs'; cases hs'
  · refine Or.inr ⟨[], some .unterminated, by rw [hs]; rfl, ?_, fun e => ⟨?_, fun hw => ?_⟩,
      fun _ => rfl⟩
    · rintro m ⟨octets, offset, hs', -⟩
      rw [hs] at hs'; cases hs'
    · rintro ⟨⟩; exact hw
    · cases hw with
      | unterminated => rfl
      | invalid hs' | notMapping hs' => rw [hs] at hs'; cases hs'
  · unfold Document.headerOf
    rw [hs]
    dsimp only
    cases hd : decode octets with
    | ok es =>
      refine Or.inr ⟨es, none, rfl, fun m hm => ?_, fun e => ⟨fun h => (by cases h), fun hw => ?_⟩,
        fun h => absurd rfl h⟩
      · rw [escapes_iff_of_split hs, hd] at hm; cases hm
      · rw [wrong_iff_of_split hs, hd] at hw; cases hw
    | error f =>
      cases f with
      | misfit m => exact Or.inl ⟨m, (escapes_iff_of_split hs).2 hd, rfl⟩
      | error e =>
        refine Or.inr ⟨[], some e, rfl, fun m hm => ?_, fun e' => ?_, fun _ => rfl⟩
        · rw [escapes_iff_of_split hs, hd] at hm; cases hm
        · rw [wrong_iff_of_split hs, hd]
          constructor <;> rintro ⟨⟩ <;> rfl

end

end Header

namespace Document

section
variable {raw : Octets} {path : Option String} {d : Document}

/-- What a document takes from its file. -/
theorem parse_eq_ok_iff : parse raw path = .ok d ↔
    ∃ header e, headerOf (Header.split raw) = .ok (header, e) ∧
      d = ⟨path, raw, header, (Header.split raw).header.isSome, e, (Header.split raw).offset,
        Body.ofOctets (raw.drop (Header.split raw).offset)⟩ := by
  simp only [parse]
  cases headerOf (Header.split raw) with
  | error m =>
    constructor
    · intro h; cases h
    · rintro ⟨_, _, h, _⟩; cases h
  | ok p =>
    constructor
    · rintro ⟨⟩; exact ⟨_, _, rfl, rfl⟩
    · rintro ⟨_, _, ⟨⟩, rfl⟩; rfl

/-- A file is read as it should be: what is wrong with its header is noted, its
    body is read, and a strict reader refuses it if anything is wrong. -/
structure Read (raw : Octets) (path : Option String) (d : Document) : Prop where
  headerError : ∀ e, d.headerError = some e ↔ Header.Wrong raw e
  header : d.headerError ≠ none → d.header = []
  body : d.body = Body.ofOctets (raw.drop d.bodyOffset)
  refused : ∀ e, parseStrict raw path = .error (.error e) ↔ d.headerError = some e
  accepted : parseStrict raw path = .ok d ↔ d.headerError = none

/-- A misfit passes both readers by. -/
theorem parse_of_escapes (path : Option String) {m : Yaml.Misfit} (h : headerOf (Header.split raw) = .error m) :
    parse raw path = .error m ∧ parseStrict raw path = .error (.misfit m) := by
  have hp : parse raw path = .error m := by simp only [parse, h]
  exact ⟨hp, by simp only [parseStrict, hp]⟩

theorem read_of_headerOf {es : Entries} {e? : Option HeaderError}
    (h : headerOf (Header.split raw) = .ok (es, e?)) (he : ∀ e, e? = some e ↔ Header.Wrong raw e)
    (hes : e? ≠ none → es = []) : ∃ d, parse raw path = .ok d ∧ Read raw path d := by
  obtain ⟨d, hd⟩ : ∃ d : Document, d = ⟨path, raw, es, (Header.split raw).header.isSome, e?,
      (Header.split raw).offset, Body.ofOctets (raw.drop (Header.split raw).offset)⟩ := ⟨_, rfl⟩
  have hp : parse raw path = .ok d := parse_eq_ok_iff.2 ⟨es, e?, h, hd⟩
  subst hd
  refine ⟨_, hp, he, hes, rfl, fun e => ?_, ?_⟩
  · rw [parseStrict, hp]
    cases e? with
    | none => constructor <;> rintro ⟨⟩
    | some e' => constructor <;> rintro ⟨⟩ <;> rfl
  · rw [parseStrict, hp]
    cases e? with
    | none => exact ⟨fun _ => rfl, fun _ => rfl⟩
    | some e' => constructor <;> rintro ⟨⟩

/-- A file fails to be read with the misfit of its header. -/
theorem parse_eq_error_iff {m : Yaml.Misfit} : parse raw path = .error m ↔ Header.Escapes raw m := by
  rcases Header.headerOf_split raw with ⟨m', hm', h⟩ | ⟨es, e?, h, hno, he, hes⟩
  · rw [(parse_of_escapes path h).1, Except.error.injEq]
    exact ⟨fun heq => heq ▸ hm', fun hm => hm'.unique hm⟩
  · obtain ⟨d, hd, -⟩ : ∃ d, parse raw path = .ok d ∧ Read raw path d := read_of_headerOf h he hes
    exact iff_of_false (by rw [hd]; nofun) (hno m)

/-- A file that is read is read as it should be. -/
theorem read_of_parse (h : parse raw path = .ok d) : Read raw path d := by
  rcases Header.headerOf_split raw with ⟨m, -, hm⟩ | ⟨es, e?, hes, -, he, hnil⟩
  · rw [(parse_of_escapes path hm).1] at h
    cases h
  · obtain ⟨d', hd', hread⟩ : ∃ d, parse raw path = .ok d ∧ Read raw path d :=
      read_of_headerOf hes he hnil
    rw [h] at hd'
    cases hd'
    exact hread

end

end Document

end Folio
