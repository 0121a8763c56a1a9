/-
  Folio — what stands at a path of a header.

  A path goes down from the header, part by part: into a mapping by a key, into a list
  by a place.  A place is a number of decimal digits.  Where a list is met and the part
  consists of digits that are no such number — of superscripts, say, or of too many
  digits — looking up fails; everywhere else there is a value or there is none.

  * `Value.Under`: the value under one part, `Value.Reaches`: the value at a path;
  * `Document.field?_cases`: when there is a value at a path, when there is none, and
    when looking up fails.
-/
import Folio.Document.Lookup
import Folio.Proofs.Number.Digits
import Folio.Proofs.Outcome

namespace Folio

namespace Value

/-! ## One part -/

/-- The part is the number of a place, in decimal digits. -/
structure IsNumeral (part : String) (i : Nat) : Prop where
  nonempty : part ≠ ""
  decimal : ∀ c ∈ part.toList, Text.isDecimal c = true
  length : part.length ≤ Number.maxDigits
  value : i = Text.decimalNumber part.toList

/-- The part consists of digits, but not of decimal digits alone, or of too many. -/
structure IsMisread (part : String) : Prop where
  nonempty : part ≠ ""
  digits : ∀ c ∈ part.toList, Text.isDigit c = true
  unread : (∃ c ∈ part.toList, Text.isDecimal c = false) ∨ Number.maxDigits < part.length

/-- The value under a part: under a key of a mapping, or at a place of a list. -/
inductive Under : Value → String → Value → Prop
  | key {l es part v} : Entries.get? es part = some v → Under (.map l es) part v
  | place {l items part i v} : IsNumeral part i → items[i]? = some v → Under (.list l items) part v

/-- The part is taken for a place of the list, and cannot be read as one. -/
inductive Misleads : Value → String → Prop
  | list {l items part} : IsMisread part → Misleads (.list l items) part

/-- Nothing stands under the part: it is no key of a mapping and no place of a list. -/
structure Lacks (v : Value) (part : String) : Prop where
  not_under : ∀ w, ¬Under v part w
  not_misleads : ¬Misleads v part

section
variable {part : String} {items : List Value} {l : Label} {v w : Value}

theorem isPlace_iff : isPlace part = true ↔ part ≠ "" ∧ ∀ c ∈ part.toList, Text.isDigit c = true := by
  simp [isPlace]

theorem IsNumeral.isPlace {i : Nat} (h : IsNumeral part i) : isPlace part = true :=
  isPlace_iff.2 ⟨h.nonempty, fun c hc => by rw [Text.isDigit, h.decimal c hc, Bool.true_or]⟩

/-- A text of digits is the number of a place or cannot be read. -/
theorem isNumeral_or_isMisread (h : isPlace part = true) :
    (∃ i, IsNumeral part i) ∨ IsMisread part := by
  obtain ⟨hne, hdigits⟩ := isPlace_iff.1 h
  by_cases hdecimal : ∀ c ∈ part.toList, Text.isDecimal c = true
  · by_cases hlong : Number.maxDigits < part.length
    · exact .inr ⟨hne, hdigits, .inr hlong⟩
    · exact .inl ⟨_, hne, hdecimal, Nat.not_lt.1 hlong, rfl⟩
  · exact .inr ⟨hne, hdigits, .inl (by simpa using hdecimal)⟩

/-- A number of a place leads to what stands there. -/
theorem item?_of_isNumeral {i : Nat} (h : IsNumeral part i) : item? items part = .ok items[i]? := by
  have hplace := isPlace_iff.1 h.isPlace
  have hread : Number.readInt 10 part.toList = .ok (Text.decimalNumber part.toList) :=
    (Number.readInt_of_isDigit_iff (by simpa using hplace.1) hplace.2).2
      ⟨h.decimal, by rw [String.length_toList]; exact h.length, rfl⟩
  rw [item?, if_pos h.isPlace, hread, h.value]
  simp [Except.map]

theorem item?_of_isMisread (items : List Value) (h : IsMisread part) : ∃ e, item? items part = .error e := by
  have hne : part.toList ≠ [] := by simpa using h.nonempty
  cases hread : Number.readInt 10 part.toList with
  | error e => exact ⟨e, by rw [item?, if_pos (isPlace_iff.2 ⟨h.nonempty, h.digits⟩), hread]; rfl⟩
  | ok i =>
    obtain ⟨hdecimal, hlength, -⟩ := (Number.readInt_of_isDigit_iff hne h.digits).1 hread
    rcases h.unread with ⟨c, hc, hnot⟩ | hlong
    · rw [hdecimal c hc] at hnot
      cases hnot
    · rw [String.length_toList] at hlength
      exact absurd hlength (Nat.not_le.2 hlong)

/-- **What can be under a part**: a value, nothing, or a place that cannot be read. -/
theorem under_or (v : Value) (part : String) :
    (∃ w, Under v part w) ∨ Lacks v part ∨ Misleads v part := by
  by_cases hunder : ∃ w, Under v part w
  · exact .inl hunder
  · by_cases hmisleads : Misleads v part
    · exact .inr (.inr hmisleads)
    · exact .inr (.inl ⟨fun w hw => hunder ⟨w, hw⟩, hmisleads⟩)

end

/-! ## Paths -/

/-- The value at a path. -/
inductive Reaches : Value → List String → Value → Prop
  | nil {v} : Reaches v [] v
  | cons {v part w path u} : Under v part w → Reaches w path u → Reaches v (part :: path) u

/-- A path comes to a value and a part that are so. -/
inductive Meets (stop : Value → String → Prop) : Value → List String → Prop
  | here {v part path} : stop v part → Meets stop v (part :: path)
  | further {v part w path} : Under v part w → Meets stop w path → Meets stop v (part :: path)

section
variable {part : String} {path : List String} {v w : Value}

theorem at?_of_under (h : Under v part w) : at? (part :: path) v = at? path w := by
  cases h with
  | key h => rw [at?, h]
  | place hi h => rw [at?, item?_of_isNumeral hi, h]

theorem at?_of_misleads (path : List String) (h : Misleads v part) : ∃ e, at? (part :: path) v = .error e := by
  obtain ⟨h⟩ := h
  next l items =>
    obtain ⟨e, he⟩ := item?_of_isMisread items h
    exact ⟨e, by rw [at?, he]⟩

theorem at?_of_lacks (h : Lacks v part) : at? (part :: path) v = .ok none := by
  cases v with
  | map l es =>
    have hnone : Entries.get? es part = none := by
      cases hget : Entries.get? es part with
      | none => rfl
      | some w => exact absurd (.key hget) (h.not_under w)
    rw [at?, hnone]
  | list l items =>
    by_cases hplace : isPlace part = true
    · rcases isNumeral_or_isMisread hplace with ⟨i, hi⟩ | hmisread
      · have hnone : items[i]? = none := by
          cases hget : items[i]? with
          | none => rfl
          | some w => exact absurd (.place hi hget) (h.not_under w)
        rw [at?, item?_of_isNumeral hi, hnone]
      · exact absurd (.list hmisread) h.not_misleads
    · rw [at?, item?, if_neg hplace]
  | _ => rfl

theorem at?_of_reaches (h : Reaches v path w) : at? path v = .ok (some w) := by
  induction h with
  | nil => rfl
  | cons hu _ ih => rw [at?_of_under hu, ih]

theorem at?_of_meets_lacks (h : Meets Lacks v path) : at? path v = .ok none := by
  induction h with
  | here h => exact at?_of_lacks h
  | further hu _ ih => rw [at?_of_under hu, ih]

theorem at?_of_meets_misleads (h : Meets Misleads v path) : ∃ e, at? path v = .error e := by
  induction h with
  | here h => exact at?_of_misleads _ h
  | further hu _ ih => rw [at?_of_under hu]; exact ih

/-- **Where a path can end**: at a value, where nothing stands under a part, or where a
    place cannot be read. -/
theorem reaches_or (path : List String) (v : Value) :
    (∃ w, Reaches v path w) ∨ Meets Lacks v path ∨ Meets Misleads v path := by
  induction path generalizing v with
  | nil => exact .inl ⟨v, .nil⟩
  | cons part path ih =>
    rcases under_or v part with ⟨u, hu⟩ | hlacks | hmisleads
    · rcases ih u with ⟨w, hw⟩ | hlacks | hmisleads
      · exact .inl ⟨w, .cons hu hw⟩
      · exact .inr (.inl (.further hu hlacks))
      · exact .inr (.inr (.further hu hmisleads))
    · exact .inr (.inl (.here hlacks))
    · exact .inr (.inr (.here hmisleads))

/-- **There is a value at a path** if the path goes down to it. -/
theorem at?_eq_some_iff : at? path v = .ok (some w) ↔ Reaches v path w := by
  refine ⟨fun h => ?_, at?_of_reaches⟩
  rcases reaches_or path v with ⟨u, hu⟩ | hlacks | hmisleads
  · rw [at?_of_reaches hu] at h
    cases h
    exact hu
  · rw [at?_of_meets_lacks hlacks] at h
    cases h
  · obtain ⟨e, he⟩ := at?_of_meets_misleads hmisleads
    rw [he] at h
    cases h

/-- **There is no value at a path** if it comes to a value that has nothing under the
    next part. -/
theorem at?_eq_none_iff : at? path v = .ok none ↔ Meets Lacks v path := by
  refine ⟨fun h => ?_, at?_of_meets_lacks⟩
  rcases reaches_or path v with ⟨u, hu⟩ | hlacks | hmisleads
  · rw [at?_of_reaches hu] at h
    cases h
  · exact hlacks
  · obtain ⟨e, he⟩ := at?_of_meets_misleads hmisleads
    rw [he] at h
    cases h

/-- **Looking up fails** if the path comes to a list and a place that cannot be read. -/
theorem at?_eq_error_iff : (∃ e, at? path v = .error e) ↔ Meets Misleads v path := by
  refine ⟨fun ⟨e, h⟩ => ?_, at?_of_meets_misleads⟩
  rcases reaches_or path v with ⟨u, hu⟩ | hlacks | hmisleads
  · rw [at?_of_reaches hu] at h
    cases h
  · rw [at?_of_meets_lacks hlacks] at h
    cases h
  · exact hmisleads

end

end Value

namespace Document

open Value (Reaches Meets Lacks Misleads)

/-- **What looking up in a header gives**: the value at the path, nothing if the path
    comes to a value that has nothing under the next part, and a failure just if it
    comes to a list and a part of digits that is no number of a place. -/
theorem field?_cases (d : Document) (dotted : String) :
    (∀ v, d.field? dotted = .ok (some v) ↔
      Reaches (.map none d.header) (Text.splitString '.' dotted) v) ∧
    (d.field? dotted = .ok none ↔
      Meets Lacks (.map none d.header) (Text.splitString '.' dotted)) ∧
    ((∃ e, d.field? dotted = .error e) ↔
      Meets Misleads (.map none d.header) (Text.splitString '.' dotted)) :=
  ⟨fun _ => Value.at?_eq_some_iff, Value.at?_eq_none_iff, Value.at?_eq_error_iff⟩

/-- A superscript is a digit, but the number of no place: it is neither passed over nor
    read. -/
theorem field?_superscript : ∃ d : Document,
    parse (Utf8.ofString "---\nxs: [1]\n---\n") none = .ok d ∧
      d.field? "xs.²" = .error (.notInt 10 ['²']) := by
  have h : (parse (Utf8.ofString "---\nxs: [1]\n---\n") none).map (·.field? "xs.²") =
      .ok (.error (.notInt 10 ['²'])) := by decide +kernel
  exact map_eq_ok_iff.1 h

end Document

end Folio
