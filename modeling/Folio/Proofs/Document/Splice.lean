/-
  Folio — what an edit of the body leaves as it is.

  The octets of an edited document are those before the body and the new body, and
  they are read from the start.  The header is found again where it was just if
  the new body starts a line of its own; a header whose last line lacks a line end
  is not closed any more once text follows it.

  * `splice_eq_ok_iff`: when an edit changes the body only;
  * `splice_joins_marker`: an edit that loses the header.
-/
import Folio.Document.Edit
import Folio.Proofs.Document.Parse

namespace Folio

/-- The octets with others in place of those between two offsets. -/
def Octets.replace (s : Octets) (start stop : Nat) (new : Octets) : Octets :=
  s.take start ++ new ++ s.drop stop

namespace Document

/-- What no edit of the body should change. -/
structure SameHeader (d d' : Document) : Prop where
  path : d'.path = d.path
  header : d'.header = d.header
  hasHeader : d'.hasHeader = d.hasHeader
  headerError : d'.headerError = d.headerError
  bodyOffset : d'.bodyOffset = d.bodyOffset

section
variable {raw : Octets} {path : Option String} {d : Document}

/-- The header of a document that has one is found in its octets, before the body. -/
theorem split_of_hasHeader (h : parse raw path = .ok d) (hh : d.hasHeader = true) :
    ∃ header, Header.split (d.raw.take d.bodyOffset ++ d.body.octets) =
        ⟨some header, (d.raw.take d.bodyOffset).length, none⟩ ∧
      (d.raw.take d.bodyOffset).length = d.bodyOffset ∧
      headerOf ⟨some header, d.bodyOffset, none⟩ = .ok (d.header, d.headerError) ∧
      d.path = path := by
  obtain ⟨es, e, he, rfl⟩ := parse_eq_ok_iff.1 h
  obtain ⟨header, hs⟩ := Option.isSome_iff_exists.1 hh
  have hsplit : Header.split raw = ⟨some header, (Header.split raw).offset, none⟩ := by
    have hs' : Header.split raw =
        ⟨some header, (Header.split raw).offset, (Header.split raw).error⟩ := by rw [← hs]
    rwa [(Header.split_eq_some_iff.1 hs').1] at hs'
  have hlen : (raw.take (Header.split raw).offset).length = (Header.split raw).offset :=
    List.length_take_of_le (Header.offset_le_length hsplit)
  refine ⟨header, ?_, hlen, hsplit ▸ he, rfl⟩
  rw [hlen, Body.octets_ofOctets, List.take_append_drop]
  exact hsplit

/-- **When an edit changes the body only.** -/
theorem splice_eq_ok_iff (h : parse raw path = .ok d) (hh : d.hasHeader = true) {start stop : Int}
    (hr : 0 ≤ start ∧ start ≤ stop ∧ stop ≤ d.body.octets.length) (new : Octets) :
    (∃ d', d.splice start stop new = .ok d' ∧ SameHeader d d' ∧
        d'.body.octets = d.body.octets.replace start.toNat stop.toNat new) ↔
      Octets.CutsLines (d.raw.take d.bodyOffset)
        (d.body.octets.replace start.toNat stop.toNat new) := by
  obtain ⟨header, hs, hlen, he, -⟩ := split_of_hasHeader h hh
  have hsplice : d.splice start stop new = d.reread (d.raw.take d.bodyOffset ++
      d.body.octets.replace start.toNat stop.toNat new) := by
    rw [splice, if_pos hr]; rfl
  generalize d.body.octets.replace start.toNat stop.toNat new = body at hsplice ⊢
  rw [hsplice, reread]
  constructor
  · rintro ⟨d', hd', hsame, -⟩
    obtain ⟨es, e, -, rfl⟩ := parse_eq_ok_iff.1 (mapError_eq_ok_iff.1 hd')
    obtain ⟨header', hs'⟩ := Option.isSome_iff_exists.1 (hsame.hasHeader.trans hh)
    have ho : (Header.split (d.raw.take d.bodyOffset ++ body)).offset =
        (d.raw.take d.bodyOffset).length := hsame.bodyOffset.trans hlen.symm
    have hsplit : Header.split (d.raw.take d.bodyOffset ++ body) =
        ⟨some header', (d.raw.take d.bodyOffset).length,
          (Header.split (d.raw.take d.bodyOffset ++ body)).error⟩ := by rw [← hs', ← ho]
    exact Header.cutsLines_of_split hsplit
  · intro hc
    have hs' := (Header.split_append_iff hs).2 hc
    have hp : parse (d.raw.take d.bodyOffset ++ body) d.path = .ok ⟨d.path,
        d.raw.take d.bodyOffset ++ body, d.header, true, d.headerError, d.bodyOffset,
        Body.ofOctets body⟩ := by
      refine parse_eq_ok_iff.2 ⟨d.header, d.headerError, by rw [hs', hlen]; exact he, ?_⟩
      simp only [hs', hlen, List.drop_left' hlen, Option.isSome_some]
    rw [hp]
    exact ⟨_, rfl, ⟨rfl, rfl, hh.symm, rfl, rfl⟩, rfl⟩

/-- After a header whose last line ends, a text may even look like a marker. -/
theorem splice_after_line_end :
    ∃ d, parse (Utf8.ofString "---\na: 1\n---\nold") none = .ok d ∧ d.hasHeader = true ∧
      ∃ d', d.splice 0 3 (Utf8.ofString "---\nnew") = .ok d' ∧ SameHeader d d' ∧
        d'.body.octets = Utf8.ofString "---\nnew" := by
  have hd : (parse (Utf8.ofString "---\na: 1\n---\nold") none).map
      (fun d => (d.hasHeader, d.raw.take d.bodyOffset, d.body.octets)) =
        .ok (true, Utf8.ofString "---\na: 1\n---\n", Utf8.ofString "old") := by decide +kernel
  obtain ⟨d, hp, hd⟩ := map_eq_ok_iff.1 hd
  obtain ⟨hh, hraw, hbody⟩ : d.hasHeader = true ∧
      d.raw.take d.bodyOffset = Utf8.ofString "---\na: 1\n---\n" ∧
      d.body.octets = Utf8.ofString "old" := by simpa using hd
  have hr : (0 : Int) ≤ 0 ∧ (0 : Int) ≤ 3 ∧ (3 : Int) ≤ d.body.octets.length := by
    rw [hbody]; decide
  obtain ⟨d', hs, hsame, ho⟩ :=
    (splice_eq_ok_iff hp hh hr (Utf8.ofString "---\nnew")).2 (by rw [hraw, hbody]; decide)
  refine ⟨d, hp, hh, d', hs, hsame, ?_⟩
  rw [ho, hbody]
  decide

/-- **An edit that loses the header**: the line that ends it lacks a line end, and
    the new text becomes part of that line. -/
theorem splice_joins_marker :
    ∃ d, parse (Utf8.ofString "---\na: 1\n---") none = .ok d ∧ d.hasHeader = true ∧
      ∃ d', d.splice 0 0 (Utf8.ofString "new") = .ok d' ∧ d'.hasHeader = false ∧
        d'.headerError = some .unterminated ∧
        d'.body.octets = Utf8.ofString "---\na: 1\n---new" := by
  have hd : (parse (Utf8.ofString "---\na: 1\n---") none).map (fun d => (d.hasHeader,
      (d.splice 0 0 (Utf8.ofString "new")).map fun d' =>
        (d'.hasHeader, d'.headerError, d'.body.octets))) =
      .ok (true, .ok (false, some .unterminated, Utf8.ofString "---\na: 1\n---new")) := by
    decide +kernel
  obtain ⟨d, hp, hd⟩ := map_eq_ok_iff.1 hd
  obtain ⟨hh, hs⟩ := Prod.mk.inj hd
  obtain ⟨d', hd', he⟩ := map_eq_ok_iff.1 hs
  exact ⟨d, hp, hh, d', hd', by simpa using he⟩

end

end Document

end Folio
