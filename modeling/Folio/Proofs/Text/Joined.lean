/-
  Folio — lines that are written.

  A text is written line by line, each with the same line end but for the last one,
  which may lack it.  Lines without line ends in them are read back.

  * `Text.lines_ofLines`: the lines of a text that is written.
-/
import Folio.Body.Line
import Folio.Proofs.Text.Lines
import Folio.Proofs.Text.Utf8

namespace Folio

/-! ## Line ends -/

/-- What ends a line. -/
inductive LineEnd where
  | lf
  | crLf
  | cr
  deriving DecidableEq

namespace LineEnd

/-- The characters of a line end. -/
def chars : LineEnd → List Char
  | lf => ['\n']
  | crLf => ['\r', '\n']
  | cr => ['\r']

/-- The octets of a line end. -/
def octets : LineEnd → Octets
  | lf => [10]
  | crLf => [13, 10]
  | cr => [13]

variable (e : LineEnd)

theorem encode_chars : Utf8.encode e.chars = e.octets := by cases e <;> decide

theorem lines_encode : Octets.lines (Utf8.encode e.chars) = [Utf8.encode e.chars] := by
  cases e <;> decide

theorem cutsLines {rest : Octets} (h : rest.head? ≠ some 10) (s : Octets) :
    Octets.CutsLines (s ++ Utf8.encode e.chars) rest := by
  rw [encode_chars]
  cases e with
  | lf => exact .inr (.inr (.inl (by simp [octets])))
  | crLf => exact .inr (.inr (.inl (by simp [octets])))
  | cr => exact .inr (.inr (.inr ⟨by simp [octets], h⟩))

end LineEnd

/-! ## Lines -/

/-- The text of some lines; the last one may lack its line end. -/
def Text.ofLines (e : LineEnd) (closed : Bool) (ls : List (List Char)) : List Char :=
  e.chars.intercalate ls ++ if closed then e.chars else []

/-- A text within one line. -/
structure Text.IsLine (l : List Char) : Prop where
  nonempty : l ≠ []
  line : '\n' ∉ l ∧ '\r' ∉ l

namespace Text.IsLine
variable {l : List Char}

theorem octets_ne (h : IsLine l) : ∀ b ∈ Utf8.encode l, b ≠ 10 ∧ b ≠ 13 := by
  have hchar : ∀ b ∈ Utf8.encode l, ∀ c : Char, c.toNat = b.toNat → b.toNat < 128 → c ∈ l := by
    intro b hb c hc hlt
    obtain ⟨d, hd, hdb⟩ := Utf8.exists_char_of_mem_encode hb hlt
    rwa [Char.toNat_inj.1 (hc.trans hdb.symm)]
  intro b hb
  constructor
  · rintro rfl
    exact h.line.1 (hchar 10 hb '\n' rfl (by decide))
  · rintro rfl
    exact h.line.2 (hchar 13 hb '\r' rfl (by decide))

theorem encode_ne_nil (h : IsLine l) : Utf8.encode l ≠ [] := fun h0 =>
  h.nonempty (by rw [← Utf8.decode_encode l, h0]; rfl)

theorem head?_encode_ne (h : IsLine l) (rest : Octets) :
    (Utf8.encode l ++ rest).head? ≠ some 10 := by
  obtain ⟨b, bs, hb⟩ := List.exists_cons_of_ne_nil h.encode_ne_nil
  have hne := (h.octets_ne b (hb ▸ List.mem_cons_self)).1
  rw [hb]
  simpa using hne

theorem lines_encode (h : IsLine l) (e : LineEnd) (closed : Bool) :
    Octets.lines (Utf8.encode (ofLines e closed [l])) = [Utf8.encode (ofLines e closed [l])] := by
  have hend : Octets.lines (Utf8.encode (if closed then e.chars else [])) = [] ∨
      Octets.lines (Utf8.encode (if closed then e.chars else [])) =
        [Utf8.encode (if closed then e.chars else [])] := by
    cases closed with
    | false => exact .inl rfl
    | true => exact .inr e.lines_encode
  rw [ofLines, List.intercalate_singleton, Utf8.encode_append]
  refine (Octets.lines_append_of_plain h.octets_ne hend).resolve_left fun h0 => ?_
  exact h.encode_ne_nil (List.append_eq_nil_iff.1 (Octets.lines_eq_nil.1 h0)).1

theorem textOf_encode (h : IsLine l) (e : LineEnd) (closed : Bool) :
    Line.textOf (Utf8.encode (ofLines e closed [l])) = l := by
  have hend : ∀ b ∈ Utf8.encode (if closed then e.chars else []), b = 10 ∨ b = 13 := by
    cases closed with
    | false => nofun
    | true =>
      rw [if_pos rfl, e.encode_chars]
      cases e <;> simp [LineEnd.octets]
  rw [Line.textOf, ofLines, List.intercalate_singleton, Utf8.encode_append,
    Octets.withoutLineEnd_append h.octets_ne hend, Utf8.decode_encode]

end Text.IsLine

/-- The texts of the lines of a text. -/
def Text.linesOf (cs : List Char) : List (List Char) :=
  (Octets.lines (Utf8.encode cs)).map Line.textOf

theorem Text.linesOf_lf (cs : List Char) : linesOf ('\n' :: cs) = [] :: linesOf cs := by
  have hencode : Utf8.encode ('\n' :: cs) = 10 :: Utf8.encode cs := rfl
  have hend : Line.textOf [10] = [] := by decide
  rw [linesOf, hencode, Octets.lines, List.map_cons, hend]
  rfl

/-- A character that ends no line is part of the line that follows it. -/
theorem Text.linesOf_cons {c : Char} (hn : c ≠ '\n') (hr : c ≠ '\r') (cs : List Char) :
    linesOf (c :: cs) = match linesOf cs with
      | [] => [[c]]
      | l :: ls => (c :: l) :: ls := by
  have hc : IsLine [c] := ⟨List.cons_ne_nil _ _, by simpa using hn.symm, by simpa using hr.symm⟩
  have hne := hc.encode_ne_nil
  have hoctets := hc.octets_ne
  have htext : ∀ l, Line.textOf (Utf8.encode [c] ++ l) = c :: Line.textOf l := by
    intro l
    rw [Line.textOf, Octets.withoutLineEnd_plain_append hoctets]
    have hone : Utf8.encode [c] = String.utf8EncodeChar c := List.append_nil _
    rw [hone]
    exact Utf8.decodeFrom_encodeChar c _
  have hencode : Utf8.encode (c :: cs) = Utf8.encode [c] ++ Utf8.encode cs := Utf8.encode_append [c] cs
  rw [linesOf, linesOf, hencode, Octets.lines_plain_append hne hoctets]
  cases Octets.lines (Utf8.encode cs) with
  | nil =>
    have := htext []
    rw [List.append_nil] at this
    rw [List.map_singleton, this]
    rfl
  | cons l ls => rw [List.map_cons, htext, List.map_cons]

/-- **Lines that are written are read back.** -/
theorem Text.lines_ofLines (e : LineEnd) (closed : Bool) {ls : List (List Char)} (hne : ls ≠ [])
    (h : ∀ l ∈ ls, IsLine l) :
    linesOf (ofLines e closed ls) = ls := by
  rw [linesOf]
  induction ls with
  | nil => exact absurd rfl hne
  | cons l ls ih =>
    have hl := h l List.mem_cons_self
    cases ls with
    | nil => rw [hl.lines_encode, List.map_singleton, hl.textOf_encode]
    | cons m ls =>
      have hm := h m (by simp)
      have htext : ofLines e closed (l :: m :: ls) =
          ofLines e true [l] ++ ofLines e closed (m :: ls) := by
        simp [ofLines, List.intercalate_cons_cons]
      have hstart : (Utf8.encode (ofLines e closed (m :: ls))).head? ≠ some 10 := by
        obtain ⟨rest, hrest⟩ : ∃ rest, ofLines e closed (m :: ls) = m ++ rest := by
          cases ls with
          | nil => exact ⟨_, by rw [ofLines, List.intercalate_singleton]⟩
          | cons n ls => exact ⟨_, by
              rw [ofLines, List.intercalate_cons_cons, List.append_assoc, List.append_assoc]⟩
        rw [hrest, Utf8.encode_append]
        exact hm.head?_encode_ne _
      have hcut : Octets.CutsLines (Utf8.encode (ofLines e true [l]))
          (Utf8.encode (ofLines e closed (m :: ls))) := by
        rw [ofLines, List.intercalate_singleton, if_pos rfl, Utf8.encode_append]
        exact e.cutsLines hstart _
      rw [htext, Utf8.encode_append, Octets.lines_append hcut, List.map_append, hl.lines_encode,
        List.map_singleton, hl.textOf_encode, ih (List.cons_ne_nil _ _) fun x hx =>
          h x (List.mem_cons_of_mem _ hx)]
      rfl

end Folio
