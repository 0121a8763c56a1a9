/-
  Folio — values set inside mappings.

  A mapping on the way that has a label changes everywhere.  If no such label
  occurs twice, this is one place, and setting is a recursion along the path
  (`Entries.setAt`); the value at a path is read and set by the same steps down.

  * `set_of_setAt`, `set_of_setAt_eq_none`: what setting does if nothing on the way
    is shared;
  * `setAt_eq_none_iff`: a value cannot be set just if one on the way is no mapping;
  * `at?_setAt`, `setAt_setAt`: the value set is read back, and the last one stays.
-/
import Folio.Proofs.Yaml.Label

namespace Folio

namespace Entries
variable {key : String} {value old : Value} {es : Entries}

/-! ## One key -/

/-- A key that is there keeps its place. -/
theorem exists_of_get?_eq_some (h : es.get? key = some old) :
    ∃ before k after, es = before ++ (k, old) :: after ∧
      ∀ new, es.put (.text key) new = before ++ (k, new) :: after := by
  induction es with
  | nil => simp [get?, lookup?] at h
  | cons e es ih =>
    by_cases he : e.1.same (.text key) = true
    · have hold : e.2 = old := by simpa [get?, lookup?, he] using h
      exact ⟨[], e.1, es, by rw [← hold]; rfl, fun new => by simp [put, he]⟩
    · obtain ⟨before, k, after, rfl, hput⟩ := ih (by simpa [get?, lookup?, he] using h)
      exact ⟨e :: before, k, after, rfl, fun new => by simp [put, he, hput]⟩

/-- A new key comes last. -/
theorem put_of_get?_eq_none (h : es.get? key = none) (new : Value) :
    es.put (.text key) new = es ++ [(.text key, new)] := by
  induction es with
  | nil => rfl
  | cons e es ih =>
    by_cases he : e.1.same (.text key) = true
    · simp [get?, lookup?, he] at h
    · have := ih (by simpa [get?, lookup?, he] using h)
      simp [put, he, this]

theorem put_put (key : String) (u v : Value) (es : Entries) :
    (es.put (.text key) u).put (.text key) v = es.put (.text key) v := by
  induction es with
  | nil => simp [put]
  | cons e es ih => by_cases he : e.1.same (.text key) = true <;> simp [put, he, ih]

/-! ## Labels -/

theorem entryLabels_append (es es' : Entries) :
    Value.entryLabels (es ++ es') = Value.entryLabels es ++ Value.entryLabels es' := by
  induction es with
  | nil => rfl
  | cons e es ih => simp [Value.entryLabels, ih]

theorem replaceEntries_append (n : Nat) (new : Value) (es es' : Entries) :
    Value.replaceEntries n new (es ++ es') =
      Value.replaceEntries n new es ++ Value.replaceEntries n new es' := by
  induction es with
  | nil => rfl
  | cons e es ih => simp [Value.replaceEntries, ih]

theorem same_relabel (f : Nat → Label) (k : Value) (s : String) :
    (k.relabel f).same (.text s) = k.same (.text s) := by
  cases k <;> rfl

theorem get?_relabel (f : Nat → Label) (key : String) (es : Entries) :
    get? (Value.relabelEntries f es) key = (es.get? key).map (Value.relabel f) := by
  induction es with
  | nil => rfl
  | cons e es ih =>
    by_cases he : e.1.same (.text key) = true
    · simp [get?, lookup?, Value.relabelEntries, same_relabel, he]
    · simpa [get?, lookup?, Value.relabelEntries, same_relabel, he] using ih

theorem put_relabel (f : Nat → Label) (key : String) (v : Value) (es : Entries) :
    put (.text key) (v.relabel f) (Value.relabelEntries f es) =
      Value.relabelEntries f (es.put (.text key) v) := by
  induction es with
  | nil => rfl
  | cons e es ih =>
    by_cases he : e.1.same (.text key) = true <;>
      simp [put, Value.relabelEntries, same_relabel, he, ih]

end Entries

/-! ## Changes of all values -/

/-- A change of all that is inside of a value: mappings stay mappings with the same texts as
    keys, and lists stay lists. -/
structure Value.Uniform (f : Nat → Label) (F : Value → Value) (E : Entries → Entries) : Prop where
  map : ∀ l es, F (.map l es) = .map (l.bind f) (E es)
  list : ∀ l items, F (.list l items) = .list (l.bind f) (items.map F)
  other : ∀ u, (∀ l es, u ≠ .map l es) → (∀ l items, u ≠ .list l items) →
    (∀ l es, F u ≠ .map l es) ∧ ∀ l items, F u ≠ .list l items
  nil : E [] = []
  get? : ∀ key es, Entries.get? (E es) key = (Entries.get? es key).map F
  put : ∀ key v es, Entries.put (.text key) (F v) (E es) = E (Entries.put (.text key) v es)

theorem Value.uniform_relabel (f : Nat → Label) : Uniform f (relabel f) (relabelEntries f) where
  map _ _ := rfl
  list l items := by rw [relabel, relabelItems_eq_map]
  other u hmap hlist := by cases u <;> simp_all [relabel]
  nil := rfl
  get? := Entries.get?_relabel f
  put := Entries.put_relabel f

/-- What is no mapping does not become one. -/
theorem Value.Uniform.ne_map {f : Nat → Label} {F : Value → Value} {E : Entries → Entries}
    (h : Uniform f F E) {u : Value} (hu : ∀ l es, u ≠ .map l es) (l : Label) (es : Entries) :
    F u ≠ .map l es := by
  by_cases hlist : ∃ l items, u = .list l items
  · obtain ⟨l', items, rfl⟩ := hlist
    rw [h.list]
    nofun
  · exact (h.other u hu fun l items he => hlist ⟨l, items, he⟩).1 l es

namespace Entries
variable {key : String} {value old : Value} {es : Entries}

/-! ## Setting a value -/

/-- The entries with a value at a path: keys keep their place, missing mappings are
    added.  Nothing if a value on the way is no mapping. -/
def setAt (value : Value) : List String → Entries → Option Entries
  | [], _ => none
  | [key], es => some (es.put (.text key) value)
  | key :: path, es =>
    match es.get? key with
    | none => (setAt value path []).map fun new => es.put (.text key) (.map none new)
    | some (.map l inner) =>
      (setAt value path inner).map fun new => es.put (.text key) (.map l new)
    | some _ => none

/-! ## Below the first key -/

/-- The mapping under a key that a path goes through: a new one if there is none. -/
inductive Below (key : String) (es : Entries) : Label → Entries → Prop where
  | absent (h : es.get? key = none) : Below key es none []
  | present {l : Label} {inner : Entries} (h : es.get? key = some (.map l inner)) : Below key es l inner

section
variable {l : Label} {inner new : Entries} {path : List String}

theorem below_or (key : String) (es : Entries) :
    (∃ l inner, Below key es l inner) ∨
      ∃ u, es.get? key = some u ∧ ∀ l inner, u ≠ .map l inner := by
  cases h : es.get? key with
  | none => exact .inl ⟨none, [], .absent h⟩
  | some u =>
    by_cases hu : ∃ l inner, u = .map l inner
    · obtain ⟨l, inner, rfl⟩ := hu
      exact .inl ⟨l, inner, .present h⟩
    · exact .inr ⟨u, rfl, fun l inner he => hu ⟨l, inner, he⟩⟩

theorem Below.put (l : Label) (key : String) (es new : Entries) :
    Below key (es.put (.text key) (.map l new)) l new :=
  .present (get?_put_self key _ es)

theorem Below.uniform {f : Nat → Label} {F : Value → Value} {E : Entries → Entries}
    (hF : Value.Uniform f F E) (h : Below key es l inner) : Below key (E es) (l.bind f) (E inner) := by
  cases h with
  | absent h =>
    rw [hF.nil]
    exact .absent (by rw [hF.get?, h]; rfl)
  | present h => exact .present (by rw [hF.get?, h, Option.map_some, hF.map])

/-- Only the labels below the key change. -/
theorem Below.exists_labels (h : Below key es l inner) :
    ∃ before after,
      Value.entryLabels es = before ++ (l.toList ++ Value.entryLabels inner) ++ after ∧
      ∀ new, Value.entryLabels (es.put (.text key) (.map l new)) =
        before ++ (l.toList ++ Value.entryLabels new) ++ after := by
  cases h with
  | absent h =>
    refine ⟨Value.entryLabels es, [], by simp [Value.entryLabels], fun new => ?_⟩
    rw [put_of_get?_eq_none h, entryLabels_append]
    simp [Value.entryLabels, Value.labels]
  | present h =>
    obtain ⟨before, k, after, rfl, hput⟩ := exists_of_get?_eq_some h
    refine ⟨Value.entryLabels before ++ k.labels, Value.entryLabels after, ?_, fun new => ?_⟩
    · simp [entryLabels_append, Value.entryLabels, Value.labels]
    · simp [hput, entryLabels_append, Value.entryLabels, Value.labels]

/-- A label that occurs below the key, and once, occurs nowhere else. -/
theorem Below.replaceEntries {n : Nat} (h : Below key es l inner)
    (hn : n ∈ (Value.map l inner).labels) (hc : (Value.entryLabels es).count n ≤ 1) (new : Value) :
    Value.replaceEntries n new es =
      es.put (.text key) (Value.replaceLabel n new (.map l inner)) := by
  cases h with
  | absent h => simp [Value.labels, Value.entryLabels] at hn
  | present h =>
    obtain ⟨before, k, after, rfl, hput⟩ := exists_of_get?_eq_some h
    have hpos := List.count_pos_iff.2 hn
    simp only [entryLabels_append, Value.entryLabels, List.count_append] at hc
    have hbefore : n ∉ Value.entryLabels before := List.count_eq_zero.1 (by omega)
    have hafter : n ∉ Value.entryLabels after := List.count_eq_zero.1 (by omega)
    rw [hput, replaceEntries_append, Value.replaceEntries, Value.replaceEntries_of_notMem _ _ hbefore,
      Value.replaceEntries_of_notMem _ _ hafter]

/-! ## A path -/

/-- The labels of the mappings that a path goes through. -/
def wayLabels : List String → Entries → List Nat
  | [], _ | [_], _ => []
  | key :: path, es =>
    match es.get? key with
    | some (.map l inner) => l.toList ++ wayLabels path inner
    | _ => []

theorem wayLabels_nil : ∀ path : List String, wayLabels path [] = []
  | [] | [_] | _ :: _ :: _ => rfl

theorem wayLabels_cons (hp : path ≠ []) (hb : Below key es l inner) :
    wayLabels (key :: path) es = l.toList ++ wayLabels path inner := by
  obtain ⟨next, rest, rfl⟩ := List.exists_cons_of_ne_nil hp
  cases hb with
  | absent h => simp [wayLabels, h, wayLabels_nil]
  | present h => simp [wayLabels, h]

theorem wayLabels_cons_eq_nil {u : Value} (h : es.get? key = some u)
    (hu : ∀ l inner, u ≠ .map l inner) : wayLabels (key :: path) es = [] := by
  cases path with
  | nil => rfl
  | cons next rest => cases u <;> simp_all [wayLabels]

theorem wayLabels_subset (path : List String) (es : Entries) :
    wayLabels path es ⊆ Value.entryLabels es := by
  induction path generalizing es with
  | nil => exact List.nil_subset _
  | cons key path ih =>
    by_cases hp : path = []
    · subst hp
      exact List.nil_subset _
    · obtain ⟨l, inner, hb⟩ | ⟨u, h, hu⟩ := below_or key es
      · obtain ⟨before, after, hes, -⟩ := hb.exists_labels
        rw [wayLabels_cons hp hb, hes]
        intro n hn
        simp only [List.mem_append] at hn ⊢
        exact .inl (.inr (hn.imp id (@ih inner n)))
      · rw [wayLabels_cons_eq_nil h hu]
        exact List.nil_subset _

theorem wayLabels_uniform {f : Nat → Label} {F : Value → Value} {E : Entries → Entries}
    (hF : Value.Uniform f F E) (path : List String) (es : Entries) :
    wayLabels path (E es) = (wayLabels path es).filterMap f := by
  induction path generalizing es with
  | nil => rfl
  | cons key path ih =>
    by_cases hp : path = []
    · subst hp
      rfl
    · obtain ⟨l, inner, hb⟩ | ⟨u, h, hu⟩ := below_or key es
      · rw [wayLabels_cons hp (hb.uniform hF), wayLabels_cons hp hb, ih, List.filterMap_append,
          Value.toList_bind]
      · rw [wayLabels_cons_eq_nil (by rw [hF.get?, h]; rfl) (hF.ne_map hu), wayLabels_cons_eq_nil h hu]
        rfl

theorem setAt_cons (hp : path ≠ []) (hb : Below key es l inner) :
    setAt value (key :: path) es =
      (setAt value path inner).map fun new => es.put (.text key) (.map l new) := by
  obtain ⟨next, rest, rfl⟩ := List.exists_cons_of_ne_nil hp
  cases hb with
  | absent h => simp [setAt, h]
  | present h => simp [setAt, h]

theorem setAt_cons_eq_none (hp : path ≠ []) {u : Value} (h : es.get? key = some u)
    (hu : ∀ l inner, u ≠ .map l inner) : setAt value (key :: path) es = none := by
  obtain ⟨next, rest, rfl⟩ := List.exists_cons_of_ne_nil hp
  cases u <;> simp_all [setAt]

/-- Setting does not look at what is inside of other values. -/
theorem setAt_uniform {f : Nat → Label} {F : Value → Value} {E : Entries → Entries}
    (hF : Value.Uniform f F E) (value : Value) (path : List String) (es : Entries) :
    setAt (F value) path (E es) = (setAt value path es).map E := by
  induction path generalizing es with
  | nil => rfl
  | cons key path ih =>
    by_cases hp : path = []
    · subst hp
      simp [setAt, hF.put]
    · obtain ⟨l, inner, hb⟩ | ⟨u, h, hu⟩ := below_or key es
      · rw [setAt_cons hp (hb.uniform hF), setAt_cons hp hb, ih, Option.map_map, Option.map_map]
        congr 1
        funext new
        rw [Function.comp_apply, Function.comp_apply, ← hF.map]
        exact hF.put key (.map l new) es
      · rw [setAt_cons_eq_none hp (by rw [hF.get?, h]; rfl) (hF.ne_map hu),
          setAt_cons_eq_none hp h hu]
        rfl

/-- The value that was set is at the path. -/
theorem at?_setAt (l : Label) (h : setAt value path es = some new) :
    Value.at? path (.map l new) = .ok (some value) := by
  induction path generalizing es new l with
  | nil => cases h
  | cons key path ih =>
    by_cases hp : path = []
    · subst hp
      obtain rfl := Option.some.inj h
      simp [Value.at?, get?_put_self]
    · obtain ⟨l', inner, hb⟩ | ⟨u, hu, hno⟩ := below_or key es
      · rw [setAt_cons hp hb] at h
        obtain ⟨new', h', rfl⟩ := Option.map_eq_some_iff.1 h
        simpa [Value.at?, get?_put_self] using ih l' h'
      · rw [setAt_cons_eq_none hp hu hno] at h
        cases h

/-- The value set last stays. -/
theorem setAt_setAt (h : setAt value path es = some new) (other : Value) :
    setAt other path new = setAt other path es := by
  induction path generalizing es new with
  | nil => cases h
  | cons key path ih =>
    by_cases hp : path = []
    · subst hp
      obtain rfl := Option.some.inj h
      simp [setAt, put_put]
    · obtain ⟨l, inner, hb⟩ | ⟨u, hu, hno⟩ := below_or key es
      · rw [setAt_cons hp hb] at h ⊢
        obtain ⟨new', h', rfl⟩ := Option.map_eq_some_iff.1 h
        rw [setAt_cons hp (.put l key es new'), ih h']
        simp only [put_put]
      · rw [setAt_cons_eq_none hp hu hno] at h
        cases h

/-- A label that is not set is not added. -/
theorem count_setAt_le {n : Nat} (hn : n ∉ value.labels) (h : setAt value path es = some new) :
    (Value.entryLabels new).count n ≤ (Value.entryLabels es).count n := by
  induction path generalizing es new with
  | nil => cases h
  | cons key path ih =>
    by_cases hp : path = []
    · subst hp
      obtain rfl := Option.some.inj h
      cases hk : es.get? key with
      | none =>
        rw [put_of_get?_eq_none hk, entryLabels_append]
        simp [Value.entryLabels, Value.labels, List.count_eq_zero_of_not_mem hn]
      | some old =>
        obtain ⟨before, k, after, rfl, hput⟩ := exists_of_get?_eq_some hk
        simp [hput, entryLabels_append, Value.entryLabels, List.count_eq_zero_of_not_mem hn]
    · obtain ⟨l, inner, hb⟩ | ⟨u, hu, hno⟩ := below_or key es
      · rw [setAt_cons hp hb] at h
        obtain ⟨new', h', rfl⟩ := Option.map_eq_some_iff.1 h
        obtain ⟨before, after, hes, hput⟩ := hb.exists_labels
        have := ih h'
        simp only [hes, hput, List.count_append]
        omega
      · rw [setAt_cons_eq_none hp hu hno] at h
        cases h

/-- No mapping on the way is new but those without a label. -/
theorem wayLabels_setAt (h : setAt value path es = some new) :
    wayLabels path new = wayLabels path es := by
  induction path generalizing es new with
  | nil => cases h
  | cons key path ih =>
    by_cases hp : path = []
    · subst hp
      rfl
    · obtain ⟨l, inner, hb⟩ | ⟨u, hu, hno⟩ := below_or key es
      · rw [setAt_cons hp hb] at h
        obtain ⟨new', h', rfl⟩ := Option.map_eq_some_iff.1 h
        rw [wayLabels_cons hp (.put l key es new'), wayLabels_cons hp hb, ih h']
      · rw [setAt_cons_eq_none hp hu hno] at h
        cases h

/-! ## Setting and shared values -/

/-- Is no mapping on the way shared? -/
def Unshared (path : List String) (es : Entries) : Prop :=
  ∀ n ∈ wayLabels path es, (Value.entryLabels es).count n ≤ 1

/-- The change makes the new entries out of a mapping's; a label that changes is one
    on the way. -/
def Change.Makes (c : Change) (path : List String) (l : Label) (es new : Entries) : Prop :=
  match c with
  | .here es' => l = none ∧ es' = new
  | .everywhere n es' => n ∈ l.toList ++ wayLabels path es ∧
      Value.replaceLabel n (.map (some n) es') (.map l es) = .map l new

theorem Change.makes_of (path : List String) (l : Label) (es new : Entries) :
    (Change.of l new).Makes path l es new := by
  cases l with
  | none => exact ⟨rfl, rfl⟩
  | some n => exact ⟨by simp, by simp [Value.replaceLabel]⟩

/-- A change below a key is one of the mapping around it. -/
theorem Change.Makes.under {c : Change} {label : Label} (hp : path ≠ [])
    (h : c.Makes path l inner new) (hb : Below key es l inner)
    (hu : ∀ n ∈ label.toList ++ wayLabels (key :: path) es,
      (Value.map label es).labels.count n ≤ 1) :
    (c.under label l key es).Makes (key :: path) label es (es.put (.text key) (.map l new)) := by
  cases c with
  | here es' =>
    obtain ⟨rfl, rfl⟩ := h
    exact makes_of _ label es _
  | everywhere n es' =>
    obtain ⟨hn, hnew⟩ := h
    rw [← wayLabels_cons hp hb] at hn
    have hmem := wayLabels_subset _ _ hn
    have hc := hu n (List.mem_append_right _ hn)
    rw [Value.labels, List.count_append] at hc
    have hpos := List.count_pos_iff.2 hmem
    have hne : label ≠ some n := by
      rintro rfl
      simp at hc
      omega
    have hinner : n ∈ (Value.map l inner).labels := by
      rw [wayLabels_cons hp hb] at hn
      exact (List.mem_append.1 hn).elim (List.mem_append_left _)
        fun h => List.mem_append_right _ (wayLabels_subset _ _ h)
    refine ⟨List.mem_append_right _ hn, ?_⟩
    rw [Value.replaceLabel, if_neg hne, hb.replaceEntries hinner (by omega), hnew]

/-- Setting a value where nothing on the way is shared. -/
theorem setChange_of_setAt {last : String} {way : List String} (label : Label)
    (hu : ∀ n ∈ label.toList ++ wayLabels (way ++ [last]) es,
      (Value.map label es).labels.count n ≤ 1)
    (h : setAt value (way ++ [last]) es = some new) :
    ∃ c, setChange last value way label es = .ok c ∧ c.Makes (way ++ [last]) label es new := by
  induction way generalizing es new label with
  | nil =>
    obtain rfl := Option.some.inj h
    exact ⟨_, rfl, Change.makes_of _ label es _⟩
  | cons key way ih =>
    have hp : way ++ [last] ≠ [] := List.append_ne_nil_of_right_ne_nil _ (List.cons_ne_nil _ _)
    obtain ⟨l, inner, hb⟩ | ⟨u, hk, hno⟩ := below_or key es
    · rw [List.cons_append, setAt_cons hp hb] at h
      obtain ⟨new', h', rfl⟩ := Option.map_eq_some_iff.1 h
      have hinner : ∀ n ∈ l.toList ++ wayLabels (way ++ [last]) inner,
          (Value.map l inner).labels.count n ≤ 1 := by
        intro n hn
        obtain ⟨before, after, hes, -⟩ := hb.exists_labels
        have hc := hu n (List.mem_append_right _ (by rwa [List.cons_append, wayLabels_cons hp hb]))
        simp only [Value.labels, hes, List.count_append] at hc ⊢
        omega
      obtain ⟨c, hc, hmakes⟩ := ih l hinner h'
      refine ⟨c.under label l key es, ?_, hmakes.under hp hb hu⟩
      cases hb with
      | absent hk => simp [setChange, hk, hc, Except.map]
      | present hk => simp [setChange, hk, hc, Except.map]
    · rw [List.cons_append, setAt_cons_eq_none hp hk hno] at h
      cases h

theorem setChange_of_setAt_eq_none {last : String} {way : List String} (label : Label)
    (h : setAt value (way ++ [last]) es = none) :
    ∃ key, setChange last value way label es = .error (.notMapping key) := by
  induction way generalizing es label with
  | nil => cases h
  | cons key way ih =>
    have hp : way ++ [last] ≠ [] := List.append_ne_nil_of_right_ne_nil _ (List.cons_ne_nil _ _)
    obtain ⟨l, inner, hb⟩ | ⟨u, hk, hno⟩ := below_or key es
    · rw [List.cons_append, setAt_cons hp hb, Option.map_eq_none_iff] at h
      obtain ⟨k, hc⟩ := ih l h
      refine ⟨k, ?_⟩
      cases hb with
      | absent hk => simp [setChange, hk, hc, Except.map]
      | present hk => simp [setChange, hk, hc, Except.map]
    · exact ⟨key, by cases u <;> simp_all [setChange]⟩

/-- **Setting a value where nothing on the way is shared** changes the mappings along
    the path and nothing else. -/
theorem set_of_setAt (hu : Unshared path es) (h : setAt value path es = some new) :
    es.set path value = .ok new := by
  have hp : path ≠ [] := by
    rintro rfl
    cases h
  rw [← List.dropLast_append_getLast hp] at h hu
  obtain ⟨c, hc, hmakes⟩ := setChange_of_setAt none hu h
  rw [set, List.getLast?_eq_some_getLast hp, Option.getD_some, hc]
  cases c with
  | here es' => rw [← hmakes.2]; rfl
  | everywhere n es' =>
    have hnew := hmakes.2
    rw [Value.replaceLabel, if_neg (by simp)] at hnew
    exact congrArg Except.ok (Value.map.inj hnew).2

theorem set_of_setAt_eq_none (hp : path ≠ []) (h : setAt value path es = none) :
    ∃ key, es.set path value = .error (.notMapping key) := by
  rw [← List.dropLast_append_getLast hp] at h
  obtain ⟨key, hc⟩ := setChange_of_setAt_eq_none none h
  exact ⟨key, by rw [set, List.getLast?_eq_some_getLast hp, Option.getD_some, hc]; rfl⟩

end

end Entries

/-! ## Values on the way -/

namespace Value
variable {key : String} {path : List String} {l : Label} {es : Entries}

/-- Looking up does not look at what is inside of other values. -/
theorem at?_uniform {f : Nat → Label} {F : Value → Value} {E : Entries → Entries}
    (hF : Uniform f F E) (path : List String) (v : Value) :
    at? path (F v) = (at? path v).map (Option.map F) := by
  induction path generalizing v with
  | nil => rfl
  | cons part path ih =>
    by_cases hmap : ∃ l es, v = .map l es
    · obtain ⟨l, es, rfl⟩ := hmap
      rw [hF.map, at?, at?, hF.get?]
      cases Entries.get? es part with
      | none => rfl
      | some w => exact ih w
    by_cases hlist : ∃ l items, v = .list l items
    · obtain ⟨l, items, rfl⟩ := hlist
      rw [hF.list, at?, at?, item?_map]
      cases item? items part with
      | error e => rfl
      | ok w? =>
        cases w? with
        | none => rfl
        | some w => exact ih w
    have hscalar : ∀ u : Value, (∀ l es, u ≠ .map l es) → (∀ l items, u ≠ .list l items) →
        at? (part :: path) u = .ok none := fun u hmap hlist => by
      cases u <;> simp_all [at?]
    have hv := hF.other v (fun l es he => hmap ⟨l, es, he⟩) fun l items he => hlist ⟨l, items, he⟩
    rw [hscalar _ hv.1 hv.2, hscalar v (fun l es he => hmap ⟨l, es, he⟩) fun l items he =>
      hlist ⟨l, items, he⟩]
    rfl

/-- Is there a value on the way of the path, before its end, that is no mapping? -/
def Blocked (path : List String) (v : Value) : Prop :=
  ∃ way u, way <+: path ∧ way ≠ path ∧ v.at? way = .ok (some u) ∧ ∀ l inner, u ≠ .map l inner

theorem blocked_cons (hp : path ≠ []) :
    Blocked (key :: path) (.map l es) ↔
      ∃ u, es.get? key = some u ∧ ((∀ l inner, u ≠ .map l inner) ∨ Blocked path u) := by
  constructor
  · rintro ⟨way, u, ⟨rest, hway⟩, hne, hu, hno⟩
    cases way with
    | nil =>
      obtain rfl : Value.map l es = u := by simpa [at?] using hu
      exact absurd rfl (hno l es)
    | cons k way =>
      obtain ⟨rfl, hway⟩ := List.cons.inj hway
      cases hk : Entries.get? es k with
      | none => simp [at?, hk] at hu
      | some w =>
        refine ⟨w, rfl, .inr ⟨way, u, ⟨rest, by simpa using hway⟩, fun he => hne (by rw [he]), ?_, hno⟩⟩
        simpa [at?, hk] using hu
  · rintro ⟨u, hk, hno | ⟨way, w, ⟨rest, rfl⟩, hne, hw, hno⟩⟩
    · refine ⟨[key], u, ⟨path, rfl⟩, fun he => hp (List.cons.inj he).2.symm, ?_, hno⟩
      simp [at?, hk]
    · refine ⟨key :: way, w, ⟨rest, rfl⟩, fun he => hne (List.cons.inj he).2, ?_, hno⟩
      simpa [at?, hk] using hw

/-- The way of a path of one key is the mapping alone. -/
theorem not_blocked_singleton : ¬ Blocked [key] (.map l es) := by
  rintro ⟨way, u, hway, hne, hu, hno⟩
  obtain rfl : way = [] := by
    rcases List.prefix_cons_iff.1 hway with rfl | ⟨t, rfl, ht⟩
    · rfl
    · exact absurd (by rw [List.prefix_nil.1 ht]) hne
  obtain rfl : Value.map l es = u := by simpa [at?] using hu
  exact hno l es rfl

/-- **When a value cannot be set.** -/
theorem setAt_eq_none_iff (hp : path ≠ []) (value : Value) (l : Label) (es : Entries) :
    es.setAt value path = none ↔ Blocked path (.map l es) := by
  induction path generalizing l es with
  | nil => exact absurd rfl hp
  | cons key path ih =>
    by_cases hp' : path = []
    · subst hp'
      exact iff_of_false (by simp [Entries.setAt]) not_blocked_singleton
    · rw [blocked_cons hp']
      obtain ⟨l', inner, hb⟩ | ⟨u, hk, hno⟩ := Entries.below_or key es
      · rw [Entries.setAt_cons hp' hb, Option.map_eq_none_iff, ih hp' l']
        cases hb with
        | absent hk =>
          refine iff_of_false ?_ (by simp [hk])
          rintro ⟨way, u, -, -, hu, hno⟩
          cases way with
          | nil => exact hno none [] (by simpa [at?] using hu.symm)
          | cons k way => simp [at?, Entries.get?, Entries.lookup?] at hu
        | present hk => simp [hk]
      · rw [Entries.setAt_cons_eq_none hp' hk hno]
        simp [hk, hno]

/-- What is inside of other values does not block a path. -/
theorem blocked_uniform {f : Nat → Label} {F : Value → Value} {E : Entries → Entries}
    (hF : Uniform f F E) : Blocked path (.map none (E es)) ↔ Blocked path (.map none es) := by
  by_cases hp : path = []
  · subst hp
    refine iff_of_false ?_ ?_ <;>
    · rintro ⟨way, u, hway, hne, -⟩
      exact hne (List.prefix_nil.1 hway)
  · rw [← setAt_eq_none_iff hp (F .null), Entries.setAt_uniform hF, Option.map_eq_none_iff,
      setAt_eq_none_iff hp]

end Value

end Folio
