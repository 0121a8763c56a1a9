/-
  Folio — octet strings.

  A file is a list of octets, and every position in it is an octet offset.
  The two cuts the library needs are `slice`, between two offsets, and
  `lines`, at the line ends LF, CR and CR LF.

  * `take_slice_drop`: a slice and what is around it are the whole text;
  * `flatten_lines`: the lines of a text, each with its line end, are the text.
-/

namespace Folio

/-- The contents of a file or of a part of it. -/
abbrev Octets := List UInt8

namespace Octets

/-- The octets from offset `start` up to, and without, offset `stop`. -/
def slice (s : Octets) (start stop : Nat) : Octets :=
  (s.take stop).drop start

theorem length_slice_le (s : Octets) (start stop : Nat) :
    (s.slice start stop).length ≤ s.length := by
  simp only [slice, List.length_drop, List.length_take]
  omega

theorem length_slice (s : Octets) (start stop : Nat) :
    (s.slice start stop).length = min stop s.length - start := by
  simp [slice]

/-- A text is what comes before a slice, the slice and what comes after it. -/
theorem take_slice_drop (s : Octets) {start stop : Nat} (h : start ≤ stop) :
    s.take start ++ s.slice start stop ++ s.drop stop = s := by
  have : s.take start = (s.take stop).take start := by simp [List.take_take, Nat.min_eq_left h]
  rw [this, slice, List.take_append_drop, List.take_append_drop]

/-- A slice whose ends may be counted from the end of the text: a negative
    offset stands for the text's length plus it, and offsets outside the text
    are moved to its nearer end. -/
def signedSlice (s : Octets) (start stop : Int) : Octets :=
  s.slice (place start) (place stop)
where
  place (i : Int) : Nat :=
    if i < 0 then (i + s.length).toNat else min i.toNat s.length

/-! ## Lines -/

/-- The lines of a text, each with the line end that closes it.  Only LF, CR
    and CR LF end a line; the last line may lack one. -/
def lines : Octets → List Octets
  | [] => []
  | 10 :: rest => [10] :: lines rest
  | 13 :: 10 :: rest => [13, 10] :: lines rest
  | 13 :: rest => [13] :: lines rest
  | b :: rest =>
    match lines rest with
    | [] => [[b]]
    | l :: ls => (b :: l) :: ls

/-- **Splitting into lines loses nothing.** -/
theorem flatten_lines (s : Octets) : (lines s).flatten = s := by
  fun_induction lines s <;> simp_all

/-- A line without the CR and LF characters at its end. -/
def withoutLineEnd (line : Octets) : Octets :=
  (line.reverse.dropWhile fun b => b == 10 || b == 13).reverse

end Octets

end Folio
