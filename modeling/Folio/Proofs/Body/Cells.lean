/-
  Folio — where a row is cut.

  A backslash escapes the character after it, so whether a pipe is escaped is a matter of
  parity: the cutting ends a cell at exactly the pipes after an even number of backslashes.
  What comes before the first and after the last such pipe is no cell if nothing is there.
  For the last one, only the backslash right before it is looked at, not their number: a
  row that ends with a pipe after two backslashes, or four, keeps an empty cell.

  * `Row.cut_eq_parts`: the parts of a line are what is between its unescaped pipes;
  * `Row.exists_cells`: which of the parts are cells, and how many they are.
-/
import Folio.Proofs.Body.Rows
import Mathlib.Algebra.Group.Nat.Even

namespace Folio.Row

/-! ## Unescaped pipes -/

/-- The number of backslashes that a text ends with. -/
def backslashes (cs : List Char) : Nat := (cs.reverse.takeWhile (· == '\\')).length

/-- Is there an unescaped pipe at the offset: one after an even number of backslashes? -/
def IsBorder (cs : List Char) (i : Nat) : Prop :=
  cs[i]? = some '|' ∧ Even (backslashes (cs.take i))

instance (cs : List Char) : DecidablePred (IsBorder cs) :=
  fun i => inferInstanceAs (Decidable (cs[i]? = some '|' ∧ Even (backslashes (cs.take i))))

/-- The offsets of the unescaped pipes. -/
def borders (cs : List Char) : List Nat := (List.range cs.length).filter (IsBorder cs ·)

/-- What is between the unescaped pipes. -/
def parts (cs : List Char) : List (List Char) :=
  (cs.zipIdx.splitOnP fun x => decide (IsBorder cs x.2)).map (·.map Prod.fst)

theorem backslashes_concat (cs : List Char) (c : Char) :
    backslashes (cs ++ [c]) = if c = '\\' then backslashes cs + 1 else 0 := by
  by_cases h : c = '\\' <;> simp [backslashes, h]

theorem isBorder_length_append {cs : List Char} {c : Char} {rest : List Char} :
    IsBorder (cs ++ c :: rest) cs.length ↔ c = '|' ∧ Even (backslashes cs) := by
  simp [IsBorder]

section
variable {cs : List Char}

/-- Nothing is escaped after a character that is no backslash. -/
theorem even_backslashes_concat {c : Char} (hc : c ≠ '\\') : Even (backslashes (cs ++ [c])) := by
  rw [backslashes_concat, if_neg hc]
  exact Even.zero

/-- Nothing is escaped after a backslash and the character that it escapes. -/
theorem even_backslashes_pair (h : Even (backslashes cs)) (c : Char) :
    Even (backslashes (cs ++ ['\\', c])) := by
  rw [List.append_cons, backslashes_concat]
  split
  · rw [backslashes_concat, if_pos rfl]
    exact h.add even_two
  · exact Even.zero

end

/-! ## The cutting -/

/-- The parts of a text that comes after another one. -/
def partsAfter (pre cs : List Char) : List (List Char) :=
  ((cs.zipIdx pre.length).splitOnP fun x => decide (IsBorder (pre ++ cs) x.2)).map (·.map Prod.fst)

section
variable {pre cs : List Char}

theorem partsAfter_nil (pre : List Char) : partsAfter pre [] = [[]] := rfl

theorem partsAfter_cons (pre : List Char) (c : Char) (cs : List Char) :
    partsAfter pre (c :: cs) =
      if c = '|' ∧ Even (backslashes pre) then [] :: partsAfter (pre ++ [c]) cs
      else cut.before [c] (partsAfter (pre ++ [c]) cs) := by
  have happ : pre ++ c :: cs = pre ++ [c] ++ cs := List.append_cons pre c cs
  have hlen : (pre ++ [c]).length = pre.length + 1 := List.length_append
  rw [partsAfter, partsAfter, List.zipIdx_cons, List.splitOnP_cons_eq_if_modifyHead, hlen, ← happ]
  simp only [decide_eq_true_eq, isBorder_length_append]
  split
  · rfl
  · generalize hps : List.splitOnP _ _ = ps
    cases ps with
    | nil => exact absurd hps (List.splitOnP_ne_nil _ _)
    | cons p ps => rfl

theorem partsAfter_of_ne {c : Char} (hc : c ≠ '|') (pre cs : List Char) :
    partsAfter pre (c :: cs) = cut.before [c] (partsAfter (pre ++ [c]) cs) := by
  rw [partsAfter_cons, if_neg fun h => hc h.1]

theorem before_before (xs ys : List Char) (ps : List (List Char)) :
    cut.before xs (cut.before ys ps) = cut.before (xs ++ ys) ps := by
  cases ps with
  | nil => rfl
  | cons p ps => simp [cut.before]

/-- A pipe after a backslash that is not escaped itself is none to cut at. -/
theorem partsAfter_backslash (h : Even (backslashes pre)) (c : Char) (cs : List Char) :
    partsAfter pre ('\\' :: c :: cs) = cut.before ['\\', c] (partsAfter (pre ++ ['\\', c]) cs) := by
  have hodd : ¬ Even (backslashes (pre ++ ['\\'])) := by
    rw [backslashes_concat, if_pos rfl, Nat.even_add_one]
    exact not_not.2 h
  rw [partsAfter_of_ne (by decide), partsAfter_cons, if_neg fun hc => hodd hc.2, before_before,
    List.append_assoc]
  rfl

/-- What comes before counts only by the parity of its backslashes. -/
theorem cut_eq_partsAfter (h : Even (backslashes pre)) : cut cs = partsAfter pre cs := by
  fun_induction cut cs generalizing pre with
  | case1 => rw [partsAfter_nil]
  | case2 => rw [partsAfter_of_ne (by decide), partsAfter_nil]; rfl
  | case3 c cs ih => rw [partsAfter_backslash h, ih (even_backslashes_pair h c)]
  | case4 cs ih =>
    rw [partsAfter_cons, if_pos ⟨rfl, h⟩, ih (even_backslashes_concat (c := '|') (by decide))]
  | case5 c cs hend hescape hc ih =>
    have hb : c ≠ '\\' := by
      rintro rfl
      cases cs with
      | nil => exact hend rfl rfl
      | cons d ds => exact hescape d ds rfl rfl
    rw [partsAfter_of_ne hc, ih (even_backslashes_concat hb)]

end

/-- **A line is cut at its unescaped pipes.** -/
theorem cut_eq_parts (cs : List Char) : cut cs = parts cs :=
  cut_eq_partsAfter (show Even (backslashes []) from Even.zero)

theorem length_splitOnP {α : Type} (p : α → Bool) (xs : List α) :
    (xs.splitOnP p).length = xs.countP p + 1 := by
  induction xs with
  | nil => rfl
  | cons x xs ih =>
    rw [List.splitOnP_cons_eq_if_modifyHead, List.countP_cons]
    split <;> simp [ih]

/-- There is one part more than unescaped pipes. -/
theorem length_parts (cs : List Char) : (parts cs).length = (borders cs).length + 1 := by
  have hborders : (borders cs).length = (cs.zipIdx.map Prod.snd).countP (IsBorder cs ·) := by
    rw [List.zipIdx_map_snd, List.countP_eq_length_filter, borders, List.range_eq_range']
  rw [parts, List.length_map, length_splitOnP, hborders, List.countP_map]
  rfl

/-! ## The ends of a line -/

/-- Does the line start with a pipe? -/
def Opens (cs : List Char) : Prop := cs.head? = some '|'

/-- Does the line end with an unescaped pipe? -/
def Closes (cs : List Char) : Prop := IsBorder cs (cs.length - 1)

/-- Does the line end with an unescaped pipe after a backslash? -/
def Masks (cs : List Char) : Prop := Closes cs ∧ backslashes cs.dropLast ≠ 0

instance : DecidablePred Opens := fun cs => inferInstanceAs (Decidable (cs.head? = some '|'))

instance : DecidablePred Closes := fun cs => inferInstanceAs (Decidable (IsBorder cs _))

instance : DecidablePred Masks :=
  fun cs => inferInstanceAs (Decidable (Closes cs ∧ backslashes cs.dropLast ≠ 0))

/-- The empty part outside of a pipe that is at an end of the line. -/
def outer (p : Prop) [Decidable p] : List (List Char) := if p then [[]] else []

section
variable {cs : List Char}

theorem closes_iff : Closes cs ↔ ∃ ys, cs = ys ++ ['|'] ∧ Even (backslashes ys) := by
  constructor
  · intro h
    obtain rfl | ⟨ys, c, rfl⟩ := List.eq_nil_or_concat' cs
    · cases h.1
    · rw [Closes, List.length_append, List.length_singleton, Nat.add_sub_cancel,
        isBorder_length_append] at h
      obtain ⟨rfl, h⟩ := h
      exact ⟨ys, rfl, h⟩
  · rintro ⟨ys, rfl, h⟩
    rw [Closes, List.length_append, List.length_singleton, Nat.add_sub_cancel,
      isBorder_length_append]
    exact ⟨rfl, h⟩

theorem backslashes_eq_zero_iff : backslashes cs = 0 ↔ cs.getLast? ≠ some '\\' := by
  obtain rfl | ⟨ys, c, rfl⟩ := List.eq_nil_or_concat' cs
  · simp [backslashes]
  · rw [backslashes_concat, List.getLast?_concat]
    split <;> simp_all

theorem endsWith_singleton_iff {xs : List Char} {c : Char} :
    Text.endsWith [c] xs = true ↔ xs.getLast? = some c := by
  rw [Text.endsWith_iff, List.getLast?_eq_some_iff]
  exact exists_congr fun ys => eq_comm

/-- The test for a pipe at the end looks at one backslash. -/
theorem endsWith_pipe_iff :
    (Text.endsWith ['|'] cs && !Text.endsWith ['\\', '|'] cs) = true ↔ Closes cs ∧ ¬ Masks cs := by
  rw [Bool.and_eq_true, Bool.not_eq_true', Masks, not_and, not_ne_iff]
  constructor
  · rintro ⟨hpipe, hescaped⟩
    obtain ⟨ys, rfl⟩ := List.getLast?_eq_some_iff.1 (endsWith_singleton_iff.1 hpipe)
    have hzero : backslashes ys = 0 := by
      rw [backslashes_eq_zero_iff, Ne, ← endsWith_singleton_iff, Bool.not_eq_true]
      exact (Text.endsWith_concat ['\\'] ys '|').symm.trans hescaped
    refine ⟨closes_iff.2 ⟨ys, rfl, hzero ▸ Even.zero⟩, fun _ => ?_⟩
    rwa [List.dropLast_concat]
  · rintro ⟨hcloses, hzero⟩
    have hlast := hzero hcloses
    obtain ⟨ys, rfl, -⟩ := closes_iff.1 hcloses
    rw [List.dropLast_concat] at hlast
    exact ⟨Text.endsWith_concat [] ys '|', (Text.endsWith_concat ['\\'] ys '|').trans
      (Text.endsWith_singleton (backslashes_eq_zero_iff.1 hlast))⟩

end

theorem before_append {ps : List (List Char)} (h : ps ≠ []) (xs : List Char)
    (qs : List (List Char)) : cut.before xs (ps ++ qs) = cut.before xs ps ++ qs := by
  cases ps with
  | nil => exact absurd rfl h
  | cons p ps => rfl

theorem partsAfter_ne_nil (pre cs : List Char) : partsAfter pre cs ≠ [] := by
  rw [partsAfter, Ne, List.map_eq_nil_iff]
  exact List.splitOnP_ne_nil _ _

theorem partsAfter_concat {pre cs : List Char} (h : Even (backslashes (pre ++ cs))) :
    partsAfter pre (cs ++ ['|']) = partsAfter pre cs ++ [[]] := by
  induction cs generalizing pre with
  | nil =>
    rw [List.append_nil] at h
    rw [List.nil_append, partsAfter_cons, if_pos ⟨rfl, h⟩]
    rfl
  | cons c cs ih =>
    rw [List.append_cons] at h
    rw [List.cons_append, partsAfter_cons, partsAfter_cons, ih h]
    split
    · rfl
    · rw [before_append (partsAfter_ne_nil _ _)]

section
variable {cs : List Char}

/-- Nothing comes before a pipe that the line starts with. -/
theorem exists_parts_of_opens (h : Opens (cs ++ ['|'])) : ∃ ps, parts cs = [] :: ps := by
  cases cs with
  | nil => exact ⟨[], rfl⟩
  | cons c cs =>
    obtain rfl : c = '|' := Option.some.inj h
    exact ⟨cut cs, by rw [← cut_eq_parts, cut]⟩

/-- What is outside of the pipes at the ends is empty. -/
theorem exists_inner (cs : List Char) :
    ∃ inner, parts cs = outer (Opens cs) ++ inner ++ outer (Closes cs) := by
  by_cases hcloses : Closes cs
  · obtain ⟨ys, rfl, heven⟩ := closes_iff.1 hcloses
    have hparts : parts (ys ++ ['|']) = parts ys ++ [[]] :=
      partsAfter_concat (show Even (backslashes ([] ++ ys)) from heven)
    rw [hparts, outer, outer, if_pos hcloses]
    split
    · next hopens =>
      obtain ⟨ps, hps⟩ := exists_parts_of_opens hopens
      exact ⟨ps, by rw [hps]; rfl⟩
    · exact ⟨parts ys, rfl⟩
  · rw [outer, outer, if_neg hcloses]
    split
    · next hopens =>
      obtain ⟨rest, rfl⟩ := List.head?_eq_some_iff.1 hopens
      obtain ⟨ps, hps⟩ := exists_parts_of_opens (show Opens ('|' :: rest ++ ['|']) from rfl)
      exact ⟨ps, by rw [hps]; simp⟩
    · exact ⟨parts cs, by simp⟩

end

/-! ## Cells -/

/-- The text of a cell, of what is between its pipes. -/
def textOf (part : List Char) : List Char := unescape (Text.trim part)

theorem opens_iff {cs : List Char} : Opens cs ↔ cs.head? = some '|' := Iff.rfl

theorem map_outer (p : Prop) [Decidable p] {f : List Char → List Char} (h : f [] = []) :
    (outer p).map f = outer p := by
  unfold outer
  split
  · rw [List.map_singleton, h]
  · rfl

/-- The part before the first pipe goes. -/
theorem drop_outer (p : Prop) [Decidable p] (ps : List (List Char)) :
    (if p then (outer p ++ ps).drop 1 else outer p ++ ps) = ps := by
  unfold outer
  split <;> rfl

/-- The part after the last pipe goes, unless a backslash comes before the pipe. -/
theorem dropLast_outer (cs : List Char) (ps : List (List Char)) :
    (if Closes cs ∧ ¬ Masks cs then (ps ++ outer (Closes cs)).dropLast
      else ps ++ outer (Closes cs)) = ps ++ outer (Masks cs) := by
  by_cases hcloses : Closes cs
  · by_cases hmasks : Masks cs <;> simp [outer, hcloses, hmasks]
  · have hmasks : ¬ Masks cs := fun h => hcloses h.1
    simp [outer, hcloses, hmasks]

/-- **The cells of a line are the parts between its unescaped pipes**, without those outside
    of a pipe at its start and of an unescaped one at its end; where the latter comes after a
    backslash, the empty part after it is a cell as well. -/
theorem exists_cells (line : List Char) :
    ∃ inner,
      parts (Text.trim line) =
        outer (Opens (Text.trim line)) ++ inner ++ outer (Closes (Text.trim line)) ∧
      cellsOf line = inner.map textOf ++ outer (Masks (Text.trim line)) ∧
      (cellsOf line).length + (outer (Opens (Text.trim line))).length +
          (outer (Closes (Text.trim line))).length =
        (borders (Text.trim line)).length + 1 + (outer (Masks (Text.trim line))).length := by
  obtain ⟨inner, hinner⟩ := exists_inner (Text.trim line)
  have hcells : cellsOf line = inner.map textOf ++ outer (Masks (Text.trim line)) := by
    rw [cellsOf, cut_eq_parts, hinner, List.map_append, List.map_append, List.append_assoc,
      map_outer _ rfl, map_outer _ rfl]
    simp only [beq_iff_eq, endsWith_pipe_iff, ← opens_iff, drop_outer, dropLast_outer]
    rw [List.map_append, map_outer _ rfl, List.map_map]
    rfl
  refine ⟨inner, hinner, hcells, ?_⟩
  have hlength := length_parts (Text.trim line)
  rw [hinner, List.length_append, List.length_append] at hlength
  rw [hcells, List.length_append, List.length_map]
  omega

/-- The last pipe is unescaped, and the only one, and yet there is a cell after it. -/
theorem cellsOf_masked :
    borders "a\\\\|".toList = [3] ∧ Closes "a\\\\|".toList ∧
      cellsOf "a\\\\|".toList = ["a\\\\".toList, []] := by
  decide

end Folio.Row
