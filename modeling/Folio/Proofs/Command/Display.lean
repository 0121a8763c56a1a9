/-
  Folio — which values are shown.

  JSON has no value for an integer whose text is too long, and no member for a key that is
  neither a text nor another scalar that JSON has.  A value with such a part, however deep,
  is not shown (`Value.Unshown`), and all others are.

  * `Value.fails_json_iff`: which values are not shown;
  * `Document.fails_json_iff`: which documents are not.
-/
import Folio.Command.Display
import Folio.Proofs.Outcome

namespace Folio

namespace Value

/-- JSON has no key for the value. -/
inductive Unkeyed : Value → Prop
  | int {i} : (int i).isWritable = false → Unkeyed (int i)
  | octets {s} : Unkeyed (octets s)
  | time {l t} : Unkeyed (time l t)
  | list {l items} : Unkeyed (list l items)
  | map {l es} : Unkeyed (map l es)
  | set {l members} : Unkeyed (set l members)
  | pair {u v} : Unkeyed (pair u v)

/-- JSON does not show the value. -/
inductive Unshown : Value → Prop
  | int {i} : (int i).isWritable = false → Unshown (int i)
  /-- The members of a set are shown in its text. -/
  | set {l members} : (set l members).isWritable = false → Unshown (set l members)
  | item {l items v} : v ∈ items → Unshown v → Unshown (list l items)
  | key {l es e} : e ∈ es → Unkeyed e.1 → Unshown (map l es)
  | member {l es e} : e ∈ es → Unshown e.2 → Unshown (map l es)
  | first {u v} : Unshown u → Unshown (pair u v)
  | second {u v} : Unshown v → Unshown (pair u v)

theorem fails_ifWritable_iff {α : Type} {v : Value} {shown : α} :
    Fails (v.ifWritable shown) ↔ v.isWritable = false := by
  unfold ifWritable
  split
  · next h => exact iff_of_false fails_ok (by simp [h])
  · next h => exact iff_of_true (fails_error _) (by simpa using h)

theorem fails_jsonKey_iff {key : Value} : Fails key.jsonKey ↔ key.Unkeyed := by
  cases key with
  | null | bool | float | text => exact iff_of_false fails_ok nofun
  | int i =>
    rw [jsonKey, fails_ifWritable_iff]
    exact ⟨.int, fun h => by cases h; assumption⟩
  | octets => exact iff_of_true (fails_error _) .octets
  | time => exact iff_of_true (fails_error _) .time
  | list => exact iff_of_true (fails_error _) .list
  | map => exact iff_of_true (fails_error _) .map
  | set => exact iff_of_true (fails_error _) .set
  | pair => exact iff_of_true (fails_error _) .pair

mutual

theorem fails_json_iff : ∀ v : Value, Fails v.json ↔ v.Unshown
  | .null | .bool _ | .float _ | .text _ | .octets _ | .time .. => iff_of_false fails_ok nofun
  | .int i => fails_ifWritable_iff.trans ⟨.int, fun h => by cases h; assumption⟩
  | .set l ms => fails_ifWritable_iff.trans ⟨.set, fun h => by cases h; assumption⟩
  | .list l items => by
    rw [json, fails_bind_pure_iff, fails_jsonItems_iff items]
    refine ⟨fun ⟨v, hv, h⟩ => .item hv h, fun h => ?_⟩
    cases h with
    | item hv h => exact ⟨_, hv, h⟩
  | .map l es => by
    rw [json, fails_bind_pure_iff, fails_jsonMembers_iff es]
    refine ⟨fun ⟨e, he, h⟩ => h.elim (.key he) (.member he), fun h => ?_⟩
    cases h with
    | key he h => exact ⟨_, he, .inl h⟩
    | member he h => exact ⟨_, he, .inr h⟩
  | .pair u v => by
    rw [json, fails_bind_iff_or fun _ => fails_bind_pure_iff, fails_json_iff u, fails_json_iff v]
    refine ⟨fun h => h.elim .first .second, fun h => ?_⟩
    cases h with
    | first h => exact .inl h
    | second h => exact .inr h

theorem fails_jsonItems_iff : ∀ vs : List Value, Fails (jsonItems vs) ↔ ∃ v ∈ vs, v.Unshown
  | [] => iff_of_false fails_ok nofun
  | v :: vs => by
    rw [jsonItems, fails_bind_iff_or fun _ => fails_bind_pure_iff, fails_json_iff v,
      fails_jsonItems_iff vs, List.exists_mem_cons_iff]

theorem fails_jsonMembers_iff : ∀ es : List (Value × Value),
    Fails (jsonMembers es) ↔ ∃ e ∈ es, e.1.Unkeyed ∨ e.2.Unshown
  | [] => iff_of_false fails_ok nofun
  | (k, v) :: es => by
    rw [jsonMembers, fails_bind_iff_or fun _ => fails_bind_iff_or fun _ => fails_bind_pure_iff,
      fails_jsonKey_iff, fails_json_iff v, fails_jsonMembers_iff es, List.exists_mem_cons_iff,
      or_assoc]

end

end Value

/-- A document is not shown if a key or a value in its header is not. -/
theorem Document.fails_json_iff {d : Document} :
    Fails d.json ↔ ∃ e ∈ d.header, e.1.Unkeyed ∨ e.2.Unshown :=
  fails_map_iff.trans (Value.fails_jsonMembers_iff d.header)

end Folio
