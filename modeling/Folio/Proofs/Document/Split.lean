/-
  Folio — where a header ends.

  The header of a file is a marker line, the lines up to the first that ends it,
  and that line (`Header.Framed`).  So what comes after it has no say in where it
  ends, as long as it starts a line of its own.

  A header that is written stands between marker lines, and its YAML ends with a
  line end.  So it is found again before any body, unless one of its own lines reads
  as an end marker.

  * `split_eq_some_iff`: when a header is found;
  * `split_append_iff`: when it is found again before another body;
  * `split_render`: where a written header is found.
-/
import Folio.Document.Header
import Folio.Proofs.Text.Lines
import Folio.Proofs.Text.Trim
import Folio.Proofs.Yaml.Page

namespace Folio.Header

/-! ## Marker lines -/

/-- The length of the byte order mark of a file, if it has one. -/
def markLength (raw : Octets) : Nat :=
  if byteOrderMark.isPrefixOf raw then byteOrderMark.length else 0

/-- A line that starts a header has three octets at least. -/
theorem length_of_opens {line : Octets} (h : opens line = true) : 3 ≤ line.length := by
  have hm : (Text.trimEnd (Line.textOf line)).length = 3 := by
    rw [beq_iff_eq.1 h]; rfl
  calc 3 = (Text.trimEnd (Line.textOf line)).length := hm.symm
    _ ≤ (Line.textOf line).length := Text.length_dropWhileEnd_le _ _
    _ ≤ line.withoutLineEnd.length := Utf8.length_decode_le _
    _ ≤ line.length := Text.length_dropWhileEnd_le _ _

/-! ## Finding the header -/

/-- Lines that are a header with its marker lines. -/
structure Framed (first : Octets) (inner : List Octets) (last : Octets) : Prop where
  first : opens first = true
  inner : ∀ l ∈ inner, closes l = false
  last : closes last = true

theorem drop_length_takeWhile {α : Type} (p : α → Bool) (xs : List α) :
    xs.drop (xs.takeWhile p).length = xs.dropWhile p := by
  have h : (xs.takeWhile p ++ xs.dropWhile p).drop (xs.takeWhile p).length = xs.dropWhile p :=
    List.drop_left
  rwa [List.takeWhile_append_dropWhile] at h

theorem Framed.takeWhile_not_closes {first last : Octets} {inner : List Octets}
    (h : Framed first inner last) (tail : List Octets) :
    (inner ++ last :: tail).takeWhile (fun l => !closes l) = inner := by
  rw [List.takeWhile_append_of_pos fun l hl => by simp [h.inner l hl],
    List.takeWhile_cons_of_neg (by simp [h.last]), List.append_nil]

/-- **When a header is found.** -/
theorem split_eq_some_iff {raw header : Octets} {offset : Nat} {e : Option HeaderError} :
    split raw = ⟨some header, offset, e⟩ ↔ e = none ∧ ∃ first inner last tail,
      Octets.lines (raw.drop (markLength raw)) = (first :: inner ++ [last]) ++ tail ∧
      Framed first inner last ∧ header = inner.flatten ∧
      offset = markLength raw + (first :: inner ++ [last]).flatten.length := by
  constructor
  · intro h
    simp only [split] at h
    split at h
    · cases h
    · next first rest hl =>
      split at h
      · cases h
      · next ho =>
        split at h
        · cases h
        · next last tail hd =>
          cases h
          rw [drop_length_takeWhile] at hd
          have hrest : rest = rest.takeWhile (fun l => !closes l) ++ last :: tail := by
            rw [← hd, List.takeWhile_append_dropWhile]
          refine ⟨rfl, first, _, last, tail, ?_, ⟨by simpa using ho, fun l hl => ?_, ?_⟩, rfl, ?_⟩
          · rw [markLength, hl, List.cons_append, List.cons_append, List.append_assoc,
              List.singleton_append, ← hrest]
          · have hp := List.all_eq_true.1 List.all_takeWhile l hl
            simpa using hp
          · have hp := List.head?_dropWhile_not (fun l => !closes l) rest
            rw [hd] at hp
            simpa using hp
          · rw [markLength]
            simp [Nat.add_assoc]
  · rintro ⟨rfl, first, inner, last, tail, hl, hf, rfl, rfl⟩
    rw [List.cons_append, List.cons_append, List.append_assoc, List.singleton_append] at hl
    have hd : (inner ++ last :: tail).drop inner.length = last :: tail := List.drop_left
    simp only [split]
    rw [← markLength, hl]
    simp only [hf.first, hf.takeWhile_not_closes, hd, Bool.not_true, Bool.false_eq_true, ↓reduceIte]
    simp [Nat.add_assoc]

theorem offset_le_length {raw header : Octets} {offset : Nat} {e : Option HeaderError}
    (h : split raw = ⟨some header, offset, e⟩) : offset ≤ raw.length := by
  obtain ⟨-, first, inner, last, tail, hl, -, -, rfl⟩ := split_eq_some_iff.1 h
  have hlen := congrArg (fun ls => ls.flatten.length) hl
  simp only [Octets.flatten_lines, List.flatten_append, List.length_append, List.length_drop] at hlen
  have hm : markLength raw ≤ raw.length := by
    unfold markLength
    split
    · next hp => exact (List.isPrefixOf_iff_prefix.1 hp).length_le
    · exact Nat.zero_le _
  rw [List.flatten_append, List.length_append]
  omega

/-! ## Another body -/

section
variable {a b c header : Octets} {e : Option HeaderError}

/-- What comes before the body is a byte order mark and the lines of the header. -/
theorem exists_framed_of_split (h : split (a ++ b) = ⟨some header, a.length, e⟩) :
    ∃ first inner last tail, Octets.lines (a.drop (markLength (a ++ b)) ++ b) =
        (first :: inner ++ [last]) ++ tail ∧
      Framed first inner last ∧ header = inner.flatten ∧ markLength (a ++ b) ≤ a.length ∧
      a.drop (markLength (a ++ b)) = (first :: inner ++ [last]).flatten ∧ b = tail.flatten := by
  obtain ⟨-, first, inner, last, tail, hl, hf, hh, ho⟩ := split_eq_some_iff.1 h
  have hle : markLength (a ++ b) ≤ a.length := by omega
  rw [List.drop_append_of_le_length hle] at hl
  have hparts : a.drop (markLength (a ++ b)) ++ b =
      (first :: inner ++ [last]).flatten ++ tail.flatten := by
    rw [← List.flatten_append, ← hl, Octets.flatten_lines]
  obtain ⟨ha, hb⟩ := List.append_inj hparts (by rw [List.length_drop]; omega)
  exact ⟨first, inner, last, tail, hl, hf, hh, hle, ha, hb⟩

theorem Framed.length_flatten {first last : Octets} {inner : List Octets}
    (h : Framed first inner last) : 3 ≤ (first :: inner ++ [last]).flatten.length := by
  have h3 := length_of_opens h.first
  rw [List.cons_append, List.flatten_cons, List.length_append]
  omega

theorem Framed.flatten_ne_nil {first last : Octets} {inner : List Octets}
    (h : Framed first inner last) : (first :: inner ++ [last]).flatten ≠ [] := by
  intro h0
  have h3 := h.length_flatten
  rw [h0] at h3
  cases h3

/-- **A header ends between two lines.** -/
theorem cutsLines_of_split (h : split (a ++ b) = ⟨some header, a.length, e⟩) :
    Octets.CutsLines a b := by
  obtain ⟨first, inner, last, tail, hl, hf, -, hle, ha, hb⟩ := exists_framed_of_split h
  have hne : a.drop (markLength (a ++ b)) ≠ [] := ha ▸ hf.flatten_ne_nil
  rw [← List.take_append_drop (markLength (a ++ b)) a, Octets.cutsLines_append_left hne, ha, hb]
  exact Octets.cutsLines_of_lines_eq hl

/-- The first octets of a file tell whether it has a byte order mark. -/
theorem markLength_append (ha : 3 ≤ a.length) : markLength (a ++ b) = markLength a := by
  obtain ⟨x, y, z, a, rfl⟩ : ∃ x y z a', a = x :: y :: z :: a' := by
    match a, ha with
    | x :: y :: z :: a', _ => exact ⟨x, y, z, a', rfl⟩
  rfl

/-- **A header is found again before another body just if the body starts a line
    of its own.** -/
theorem split_append_iff (h : split (a ++ b) = ⟨some header, a.length, e⟩) :
    split (a ++ c) = ⟨some header, a.length, none⟩ ↔ Octets.CutsLines a c := by
  refine ⟨cutsLines_of_split, fun hc => ?_⟩
  obtain ⟨first, inner, last, tail, hl, hf, hh, hle, ha, hb⟩ := exists_framed_of_split h
  have h3 := hf.length_flatten
  have hlen : a.length = markLength (a ++ b) + (first :: inner ++ [last]).flatten.length := by
    rw [← ha, List.length_drop]; omega
  have hmark : markLength (a ++ c) = markLength (a ++ b) := by
    rw [markLength_append (by omega), markLength_append (by omega)]
  have hne : a.drop (markLength (a ++ b)) ≠ [] := ha ▸ hf.flatten_ne_nil
  have hcut : Octets.CutsLines (first :: inner ++ [last]).flatten c := by
    rw [← ha, ← Octets.cutsLines_append_left (p := a.take (markLength (a ++ b))) hne,
      List.take_append_drop]
    exact hc
  refine split_eq_some_iff.2 ⟨rfl, first, inner, last, Octets.lines c, ?_, hf, hh, hmark ▸ hlen⟩
  rw [hmark, List.drop_append_of_le_length hle, ha, Octets.lines_append hcut,
    Octets.lines_flatten_of_lines_eq hl]

end

/-! ## Headers that are written -/

/-- The YAML between the marker lines of a header that is written. -/
def yaml (es : Entries) : List Char := if es.isEmpty then [] else Yaml.render es

theorem getLast?_yaml (es : Entries) : ∀ c ∈ (yaml es).getLast?, c = '\n' := by
  rw [yaml]
  split
  · simp
  · exact Yaml.getLast?_render es

/-- A text that ends its last line is cut from what follows. -/
theorem cutsLines_encode {cs : List Char} (h : ∀ c ∈ cs.getLast?, c = '\n') (after : Octets) :
    Octets.CutsLines (Utf8.encode cs) after := by
  rcases List.eq_nil_or_concat cs with rfl | ⟨cs, c, rfl⟩
  · exact .inl rfl
  · rw [List.concat_eq_append] at h ⊢
    obtain rfl := h c (by simp)
    rw [Utf8.encode_append]
    have hn : Utf8.encode ['\n'] = [10] := by decide
    exact .inr (.inr (.inl (by rw [hn, List.getLast?_concat])))

/-- **A written header is found again** before any body. -/
theorem split_render {es : Entries}
    (h : ∀ l ∈ Octets.lines (Utf8.encode (yaml es)), closes l = false) (body : Octets) :
    split (Utf8.encode (render es) ++ body) =
      ⟨some (Utf8.encode (yaml es)), (Utf8.encode (render es)).length, none⟩ := by
  have hmarker : ∀ after, Octets.CutsLines (Utf8.encode markerLine) after :=
    cutsLines_encode (by simp [markerLine, marker])
  have hlines : Octets.lines (Utf8.encode markerLine) = [Utf8.encode markerLine] := by decide
  have hmark : markLength (Utf8.encode (render es) ++ body) = 0 := rfl
  have hrender : Utf8.encode (render es) =
      Utf8.encode markerLine ++ (Utf8.encode (yaml es) ++ Utf8.encode markerLine) := by
    rw [← Utf8.encode_append, ← Utf8.encode_append, ← List.append_assoc]
    rfl
  refine split_eq_some_iff.2 ⟨rfl, Utf8.encode markerLine, Octets.lines (Utf8.encode (yaml es)),
    Utf8.encode markerLine, Octets.lines body, ?_, ⟨by decide, h, by decide⟩,
    (Octets.flatten_lines _).symm, ?_⟩
  · rw [hmark, List.drop_zero, hrender, List.append_assoc, List.append_assoc,
      Octets.lines_append (hmarker _), Octets.lines_append (cutsLines_encode (getLast?_yaml es) _),
      Octets.lines_append (hmarker _), hlines]
    simp
  · rw [hmark, hrender]
    simp [Octets.flatten_lines]

end Folio.Header
