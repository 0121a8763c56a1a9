/-
  Folio — labels of values.

  A label says which values are one value.  What it is called does not matter, and
  a label that occurs once need not be there at all; so values are compared up to
  a renaming of their labels that keeps different ones apart.

  * `Value.labels` and `Value.relabel`: the labels of a value, and the value with
    others in their place;
  * `Value.Alike`: values that are the same up to their labels.
-/
import Folio.Yaml.Path
import Mathlib.Data.List.Nodup

namespace Folio

namespace Value

/-! ## Labels -/

mutual

/-- The labels in a value, one for each place. -/
def labels : Value → List Nat
  | .time l _ => l.toList
  | .list l items => l.toList ++ itemLabels items
  | .map l es => l.toList ++ entryLabels es
  | .set l ms => l.toList ++ itemLabels ms
  | .pair a b => labels a ++ labels b
  | _ => []

/-- The labels in some values. -/
def itemLabels : List Value → List Nat
  | [] => []
  | v :: vs => labels v ++ itemLabels vs

/-- The labels in some entries. -/
def entryLabels : List (Value × Value) → List Nat
  | [] => []
  | (k, v) :: es => labels k ++ labels v ++ entryLabels es

end

mutual

/-- The value with other labels, or none. -/
def relabel (f : Nat → Label) : Value → Value
  | .time l t => .time (l.bind f) t
  | .list l items => .list (l.bind f) (relabelItems f items)
  | .map l es => .map (l.bind f) (relabelEntries f es)
  | .set l ms => .set (l.bind f) (relabelItems f ms)
  | .pair a b => .pair (relabel f a) (relabel f b)
  | v => v

/-- The values with other labels. -/
def relabelItems (f : Nat → Label) : List Value → List Value
  | [] => []
  | v :: vs => relabel f v :: relabelItems f vs

/-- The entries with other labels. -/
def relabelEntries (f : Nat → Label) : List (Value × Value) → List (Value × Value)
  | [] => []
  | (k, v) :: es => (relabel f k, relabel f v) :: relabelEntries f es

end

/-! ## Items -/

theorem relabelItems_eq_map (f : Nat → Label) (vs : List Value) :
    relabelItems f vs = vs.map (relabel f) := by
  induction vs with
  | nil => rfl
  | cons v vs ih => rw [relabelItems, ih, List.map_cons]

theorem replaceItems_eq_map (n : Nat) (new : Value) (vs : List Value) :
    replaceItems n new vs = vs.map (replaceLabel n new) := by
  induction vs with
  | nil => rfl
  | cons v vs ih => rw [replaceItems, ih, List.map_cons]

/-- A place leads to the same item when all items change. -/
theorem item?_map (g : Value → Value) (items : List Value) (part : String) :
    item? (items.map g) part = (item? items part).map (Option.map g) := by
  rw [item?, item?]
  split
  · cases Number.readInt 10 part.toList with
    | error e => rfl
    | ok i => by_cases hi : i < 0 <;> simp [Except.map, hi]
  · rfl

/-! ## Renaming -/

theorem toList_bind (l : Label) (f : Nat → Label) :
    (l.bind f).toList = l.toList.filterMap f := by
  cases l with
  | none => rfl
  | some n => cases h : f n <;> simp [h]

mutual

theorem labels_relabel (f : Nat → Label) : ∀ v, (relabel f v).labels = v.labels.filterMap f
  | .null | .bool _ | .int _ | .float _ | .text _ | .octets _ => rfl
  | .time l _ => toList_bind l f
  | .list l items => by
    rw [relabel, labels, labels, itemLabels_relabel f items, List.filterMap_append, toList_bind]
  | .map l es => by
    rw [relabel, labels, labels, entryLabels_relabel f es, List.filterMap_append, toList_bind]
  | .set l ms => by
    rw [relabel, labels, labels, itemLabels_relabel f ms, List.filterMap_append, toList_bind]
  | .pair a b => by
    rw [relabel, labels, labels, labels_relabel f a, labels_relabel f b, List.filterMap_append]

theorem itemLabels_relabel (f : Nat → Label) :
    ∀ vs, itemLabels (relabelItems f vs) = (itemLabels vs).filterMap f
  | [] => rfl
  | v :: vs => by
    rw [relabelItems, itemLabels, itemLabels, labels_relabel f v, itemLabels_relabel f vs,
      List.filterMap_append]

theorem entryLabels_relabel (f : Nat → Label) :
    ∀ es, entryLabels (relabelEntries f es) = (entryLabels es).filterMap f
  | [] => rfl
  | (k, v) :: es => by
    rw [relabelEntries, entryLabels, entryLabels, labels_relabel f k, labels_relabel f v,
      entryLabels_relabel f es, List.filterMap_append, List.filterMap_append]

end

theorem bind_congr_of_mem {l : Label} {f g : Nat → Label} (h : ∀ n ∈ l.toList, f n = g n) :
    l.bind f = l.bind g :=
  Option.bind_congr fun n hn => h n (Option.mem_toList.2 hn)

mutual

theorem relabel_congr {f g : Nat → Label} :
    ∀ v, (∀ l ∈ labels v, f l = g l) → relabel f v = relabel g v
  | .null, _ | .bool _, _ | .int _, _ | .float _, _ | .text _, _ | .octets _, _ => rfl
  | .time l _, h => by rw [relabel, relabel, bind_congr_of_mem h]
  | .list l items, h => by
    rw [labels, List.forall_mem_append] at h
    rw [relabel, relabel, bind_congr_of_mem h.1, relabelItems_congr items h.2]
  | .map l es, h => by
    rw [labels, List.forall_mem_append] at h
    rw [relabel, relabel, bind_congr_of_mem h.1, relabelEntries_congr es h.2]
  | .set l ms, h => by
    rw [labels, List.forall_mem_append] at h
    rw [relabel, relabel, bind_congr_of_mem h.1, relabelItems_congr ms h.2]
  | .pair a b, h => by
    rw [labels, List.forall_mem_append] at h
    rw [relabel, relabel, relabel_congr a h.1, relabel_congr b h.2]

theorem relabelItems_congr {f g : Nat → Label} :
    ∀ vs, (∀ l ∈ itemLabels vs, f l = g l) → relabelItems f vs = relabelItems g vs
  | [], _ => rfl
  | v :: vs, h => by
    rw [itemLabels, List.forall_mem_append] at h
    rw [relabelItems, relabelItems, relabel_congr v h.1, relabelItems_congr vs h.2]

theorem relabelEntries_congr {f g : Nat → Label} :
    ∀ es, (∀ l ∈ entryLabels es, f l = g l) → relabelEntries f es = relabelEntries g es
  | [], _ => rfl
  | (k, v) :: es, h => by
    rw [entryLabels, List.forall_mem_append, List.forall_mem_append] at h
    rw [relabelEntries, relabelEntries, relabel_congr k h.1.1, relabel_congr v h.1.2,
      relabelEntries_congr es h.2]

end

mutual

theorem relabel_some : ∀ v, relabel some v = v
  | .null | .bool _ | .int _ | .float _ | .text _ | .octets _ => rfl
  | .time l _ => by rw [relabel, Option.bind_fun_some]
  | .list l items => by rw [relabel, Option.bind_fun_some, relabelItems_some items]
  | .map l es => by rw [relabel, Option.bind_fun_some, relabelEntries_some es]
  | .set l ms => by rw [relabel, Option.bind_fun_some, relabelItems_some ms]
  | .pair a b => by rw [relabel, relabel_some a, relabel_some b]

theorem relabelItems_some : ∀ vs, relabelItems some vs = vs
  | [] => rfl
  | v :: vs => by rw [relabelItems, relabel_some v, relabelItems_some vs]

theorem relabelEntries_some : ∀ es, relabelEntries some es = es
  | [] => rfl
  | (k, v) :: es => by rw [relabelEntries, relabel_some k, relabel_some v, relabelEntries_some es]

end

mutual

theorem relabel_relabel (f g : Nat → Label) :
    ∀ v, relabel g (relabel f v) = relabel (fun l => (f l).bind g) v
  | .null | .bool _ | .int _ | .float _ | .text _ | .octets _ => rfl
  | .time l _ => by simp only [relabel, Option.bind_assoc]
  | .list l items => by simp only [relabel, Option.bind_assoc, relabelItems_relabelItems f g items]
  | .map l es => by simp only [relabel, Option.bind_assoc, relabelEntries_relabelEntries f g es]
  | .set l ms => by simp only [relabel, Option.bind_assoc, relabelItems_relabelItems f g ms]
  | .pair a b => by simp only [relabel, relabel_relabel f g a, relabel_relabel f g b]

theorem relabelItems_relabelItems (f g : Nat → Label) :
    ∀ vs, relabelItems g (relabelItems f vs) = relabelItems (fun l => (f l).bind g) vs
  | [] => rfl
  | v :: vs => by
    simp only [relabelItems, relabel_relabel f g v, relabelItems_relabelItems f g vs]

theorem relabelEntries_relabelEntries (f g : Nat → Label) :
    ∀ es, relabelEntries g (relabelEntries f es) = relabelEntries (fun l => (f l).bind g) es
  | [] => rfl
  | (k, v) :: es => by
    simp only [relabelEntries, relabel_relabel f g k, relabel_relabel f g v,
      relabelEntries_relabelEntries f g es]

end

theorem relabel_eq_self {f : Nat → Label} {v : Value} (h : ∀ l ∈ v.labels, f l = some l) :
    relabel f v = v :=
  (relabel_congr v h).trans (relabel_some v)

/-- A renaming that keeps labels apart keeps how often they occur. -/
theorem count_filterMap {f : Nat → Label} (hf : ∀ a b n, f a = some n → f b = some n → a = b)
    {m n : Nat} (h : f m = some n) (ls : List Nat) : (ls.filterMap f).count n = ls.count m := by
  induction ls with
  | nil => rfl
  | cons l ls ih =>
    by_cases hl : l = m
    · subst hl
      simp [h, ih]
    · cases hfl : f l with
      | none => simp [hfl, ih, hl]
      | some k =>
        have hk : k ≠ n := by
          rintro rfl
          exact hl (hf _ _ _ hfl h)
        simp [hfl, ih, hl, hk]

/-! ## Replacing a label -/

theorem ne_of_notMem_toList {l : Label} {n : Nat} (h : n ∉ l.toList) : l ≠ some n := by
  rintro rfl
  simp at h

mutual

theorem replaceLabel_of_notMem {n : Nat} (new : Value) :
    ∀ v, n ∉ labels v → replaceLabel n new v = v
  | .null, _ | .bool _, _ | .int _, _ | .float _, _ | .text _, _ | .octets _, _ => rfl
  | .time l _, h => by rw [replaceLabel, if_neg (ne_of_notMem_toList h)]
  | .list l items, h => by
    rw [labels, List.mem_append, not_or] at h
    rw [replaceLabel, if_neg (ne_of_notMem_toList h.1), replaceItems_of_notMem new items h.2]
  | .map l es, h => by
    rw [labels, List.mem_append, not_or] at h
    rw [replaceLabel, if_neg (ne_of_notMem_toList h.1), replaceEntries_of_notMem new es h.2]
  | .set l ms, h => by
    rw [labels, List.mem_append, not_or] at h
    rw [replaceLabel, if_neg (ne_of_notMem_toList h.1)]
  | .pair a b, h => by
    rw [labels, List.mem_append, not_or] at h
    rw [replaceLabel, replaceLabel_of_notMem new a h.1, replaceLabel_of_notMem new b h.2]

theorem replaceItems_of_notMem {n : Nat} (new : Value) :
    ∀ vs, n ∉ itemLabels vs → replaceItems n new vs = vs
  | [], _ => rfl
  | v :: vs, h => by
    rw [itemLabels, List.mem_append, not_or] at h
    rw [replaceItems, replaceLabel_of_notMem new v h.1, replaceItems_of_notMem new vs h.2]

theorem replaceEntries_of_notMem {n : Nat} (new : Value) :
    ∀ es, n ∉ entryLabels es → replaceEntries n new es = es
  | [], _ => rfl
  | (k, v) :: es, h => by
    rw [entryLabels, List.mem_append, List.mem_append, not_or, not_or] at h
    rw [replaceEntries, replaceLabel_of_notMem new v h.1.2, replaceEntries_of_notMem new es h.2]

end

/-! ## Values up to labels -/

/-- Are the values the same, but for what their labels are called? -/
def Alike (u v : Value) : Prop :=
  ∃ f : Nat → Label, (∀ a b n, f a = some n → f b = some n → a = b) ∧ v = u.relabel f

end Value

end Folio
