/-
  Folio — headers of basic values.

  No line of what is written of a header of basic values separates YAML documents, so
  none ends the header, and the header is found again before any body.  It is decoded
  to the same mapping if all its texts read back where they are written.

  * `Header.readsBack_of_basic`: then YAML gives back the header;
  * `Header.split_write`: where a header of basic values is found, and when it is decoded
    to the same mapping;
  * `Header.decode_next_line`: a header that is not.
-/
import Folio.Proofs.Document.Field
import Folio.Proofs.Text.Joined
import Folio.Proofs.Yaml.Build
import Folio.Proofs.Yaml.Tidy
import Folio.Proofs.Yaml.Written.Node

namespace Folio.Header

/-! ## Lines -/

/-- Does a line with this text end a header? -/
def isEnd (l : List Char) : Bool :=
  Text.trimEnd l == marker || Text.trimEnd l == ['.', '.', '.']

/-- A text that starts with a line that ends a header separates documents. -/
theorem separates_of_isEnd {l cs : List Char} (h : isEnd l = true) (hl : l <+: cs) :
    Yaml.Separates cs := by
  have hprefix : Text.trimEnd l <+: cs := by
    refine List.IsPrefix.trans ?_ hl
    rw [Text.trimEnd, Text.dropWhileEnd, ← List.reverse_suffix, List.reverse_reverse]
    exact List.dropWhile_suffix _
  have htake : ∀ s, Text.trimEnd l = s → cs.take s.length = s := by
    rintro s rfl
    exact (List.prefix_iff_eq_take.1 hprefix).symm
  rw [isEnd, Bool.or_eq_true, beq_iff_eq, beq_iff_eq] at h
  exact h.imp (htake _) (htake _)

/-- The first line of a text starts the text, and the other lines of a tidy text end no
    header. -/
theorem isEnd_linesOf {cs : List Char} (h : Yaml.Tidy cs) :
    (∀ l ∈ (Text.linesOf cs).head?, l <+: cs) ∧ ∀ l ∈ (Text.linesOf cs).tail, isEnd l = false := by
  induction cs with
  | nil => exact ⟨nofun, nofun⟩
  | cons c cs ih =>
    obtain ⟨-, hr, hline, hcs⟩ := h
    obtain ⟨hfirst, hrest⟩ := ih hcs
    by_cases hn : c = '\n'
    · subst hn
      rw [Text.linesOf_lf]
      refine ⟨fun l hl => ?_, fun l hl => ?_⟩
      · obtain rfl : [] = l := by simpa using hl
        exact List.nil_prefix
      · rw [List.tail_cons] at hl
        cases hlines : Text.linesOf cs with
        | nil => rw [hlines] at hl; cases hl
        | cons m ms =>
          rw [hlines] at hl hfirst hrest
          rcases List.mem_cons.1 hl with rfl | hl
          · rw [Bool.eq_false_iff]
            exact fun hend => hline rfl (separates_of_isEnd hend (hfirst l rfl))
          · exact hrest l hl
    · rw [Text.linesOf_cons hn hr]
      cases hlines : Text.linesOf cs with
      | nil => exact ⟨by simp, nofun⟩
      | cons m ms =>
        rw [hlines] at hfirst hrest
        refine ⟨fun l hl => ?_, hrest⟩
        obtain rfl : c :: m = l := by simpa using hl
        exact (List.prefix_cons_inj c).2 (hfirst m rfl)

/-! ## Headers -/

variable {es : Entries}

theorem yaml_eq_render (hne : es ≠ []) : yaml es = Yaml.render es := by
  rw [yaml, if_neg (by simpa using hne)]

/-- No line of a header of basic values ends it. -/
theorem closes_eq_false_of_basic (hb : Value.entriesAreBasic es = true) :
    ∀ l ∈ Octets.lines (Utf8.encode (yaml es)), closes l = false := by
  by_cases hne : es = []
  · subst hne
    rintro l ⟨⟩
  · obtain ⟨t, ht, hlaid⟩ := Yaml.exists_render false hne hb (absurd · Bool.false_ne_true)
    have htidy : Yaml.Tidy (Yaml.freshLine 0 ++ t ++ ['\n']) :=
      Yaml.Form.tidy_entries _ hlaid (.newLine (by simp [Yaml.Separates]) trivial)
    rw [List.append_assoc, ← ht, ← yaml_eq_render hne] at htidy
    intro l hl
    have hl : Line.textOf l ∈ Text.linesOf (yaml es) := List.mem_map_of_mem hl
    have htail := (isEnd_linesOf htidy).2 (Line.textOf l)
    rw [Yaml.freshLine, List.replicate_zero, List.singleton_append, Text.linesOf_lf, List.tail_cons]
      at htail
    exact htail hl

/-- A header of basic values is decoded to the same mapping if its texts read back. -/
theorem decode_yaml_of_basic (hb : Value.entriesAreBasic es = true)
    (hw : Value.entriesAreWritable es = true) (hk : Yaml.keeps es = true) :
    decode (Utf8.encode (yaml es)) = .ok es := by
  rw [decode, Utf8.decode_encode]
  by_cases hne : es = []
  · subst hne
    decide +kernel
  · obtain ⟨t, ht, hlaid⟩ := Yaml.exists_render true hne hb fun _ => hk
    have htidy : Yaml.Tidy (Yaml.freshLine 0 ++ t ++ []) := Yaml.Form.tidy_entries _ hlaid trivial
    rw [List.append_nil] at htidy
    rw [yaml_eq_render hne, ht, Yaml.decode_laid hne hb hw hlaid htidy.of_append.acceptable]

/-- YAML gives back a header of basic values if its texts read back. -/
theorem readsBack_of_basic (hb : Value.entriesAreBasic es = true)
    (hw : Value.entriesAreWritable es = true) (hk : Yaml.keeps es = true) : ReadsBack es where
  writable := hw
  lines := closes_eq_false_of_basic hb
  decode := ⟨es, decode_yaml_of_basic hb hw hk, some, fun _ _ _ ha hb =>
    (Option.some.inj ha).trans (Option.some.inj hb).symm, (Value.relabel_some _).symm⟩

/-- **A written header of basic values** is found again before any body, and it is
    decoded to the same mapping if all its texts read back where they are written. -/
theorem split_write {raw : Octets} (hb : Value.entriesAreBasic es = true)
    (hw : write es = .ok raw) :
    (∀ body, split (raw ++ body) = ⟨some (Utf8.encode (yaml es)), raw.length, none⟩) ∧
      (Yaml.keeps es = true → decode (Utf8.encode (yaml es)) = .ok es) := by
  rw [write] at hw
  split at hw
  · rename_i hwritable
    obtain rfl := Except.ok.inj hw
    exact ⟨split_render (closes_eq_false_of_basic hb), decode_yaml_of_basic hb hwritable⟩
  · cases hw

/-- A header with a text that reads as an end marker. -/
theorem split_write_marker :
    ∃ es raw, Value.entriesAreBasic es = true ∧ write es = .ok raw ∧ Yaml.keeps es = true ∧
      es = [(.text "a", .text "---"), (.text "b", .map none [(.text "c: d", .list none
        [.int (-1), .bool true, .null, .text "x\ny"])])] ∧
      (∀ body, split (raw ++ body) = ⟨some (Utf8.encode (yaml es)), raw.length, none⟩) ∧
      decode (Utf8.encode (yaml es)) = .ok es := by
  let es : Entries := [(.text "a", .text "---"), (.text "b", .map none [(.text "c: d", .list none
    [.int (-1), .bool true, .null, .text "x\ny"])])]
  have hb : Value.entriesAreBasic es = true := by decide +kernel
  have hw : write es = .ok (Utf8.encode (render es)) := if_pos (by decide +kernel)
  have hk : Yaml.keeps es = true := by decide +kernel
  obtain ⟨hsplit, hdecode⟩ := split_write hb hw
  exact ⟨es, _, hb, hw, hk, rfl, hsplit, hdecode hk⟩

/-- A next-line character is written as it is between single quotes, with an indented
    line after it, and is read as the end of a line, that is, as a space. -/
theorem decode_next_line :
    ∃ es raw, Value.entriesAreBasic es = true ∧ write es = .ok raw ∧
      es = [(.text "a", .text "x\u0085y")] ∧
      decode (Utf8.encode (yaml es)) = .ok [(.text "a", .text "x y")] := by
  exact ⟨_, _, by decide +kernel, if_pos (by decide +kernel), rfl, by decide +kernel⟩

end Folio.Header
