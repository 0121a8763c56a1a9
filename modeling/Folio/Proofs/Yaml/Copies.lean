/-
  Folio — copies of values.

  A copy lists the members of its sets anew and is the same value otherwise.  A set lists the
  members that it was given, in whatever order (`SetTable.listed_ofList_perm`), and the order
  depends on their hashes alone; so a copy can be taken before or after labels are changed,
  values are looked up and values are set.

  * `Value.Reordered`: values that are the same but for the order in which sets list their
    members, and `Value.Matches`: up to labels too;
  * `Value.reordered_copied`: so it is with a copy;
  * `Value.copied_relabel`, `Value.uniform_copied`: copying and other changes;
  * `Value.copied_eq_self`: a value whose sets have at most one member is its own copy.
-/
import Folio.Proofs.Yaml.Nested
import Folio.Yaml.SetTable

namespace Folio

/-! ## Tables -/

namespace SetTable
variable {α β : Type} {t : SetTable α} {xs : List (Nat × α)} {n : Nat}

/-- The members of a table. -/
def members (t : SetTable α) : List (Nat × α) := t.taken.map (·.2)

theorem listed_perm (t : SetTable α) : t.listed.Perm t.members :=
  (List.mergeSort_perm _ _).map _

/-- Steps that add members one by one add them all. -/
theorem members_foldl_perm {f : SetTable α → Nat × α → SetTable α}
    (hf : ∀ t x, (f t x).members.Perm (x :: t.members)) (xs : List (Nat × α)) (t : SetTable α) :
    (xs.foldl f t).members.Perm (xs ++ t.members) := by
  induction xs generalizing t with
  | nil => exact .refl _
  | cons x xs ih => exact (ih (f t x)).trans (((hf t x).append_left xs).trans List.perm_middle)

theorem members_resize_perm (n : Nat) (t : SetTable α) : (t.resize n).members.Perm t.members :=
  ((members_foldl_perm (fun _ _ => .refl _) t.listed _).trans (.of_eq (List.append_nil _))).trans
    (listed_perm t)

theorem members_add_perm (t : SetTable α) (x : Nat × α) :
    (t.add x).members.Perm (x :: t.members) := by
  rw [add]
  split
  · exact members_resize_perm _ _
  · exact .refl _

theorem listed_foldl_add_perm (n : Nat) (xs : List (Nat × α)) :
    (xs.foldl add (empty n)).listed.Perm xs :=
  (listed_perm _).trans ((members_foldl_perm members_add_perm xs _).trans (.of_eq (List.append_nil _)))

/-- **A set lists the members that it was given.** -/
theorem listed_ofList_perm (xs : List (Nat × α)) : (ofList xs).listed.Perm xs :=
  listed_foldl_add_perm _ xs

theorem listed_ofKeys_perm (xs : List (Nat × α)) : (ofKeys xs).listed.Perm xs :=
  listed_foldl_add_perm _ xs

/-! ### Other members with the same hashes -/

/-- The table with other members in the same places. -/
def map (g : α → β) (t : SetTable α) : SetTable β :=
  ⟨t.size, t.taken.map (Prod.map id (Prod.map id g))⟩

theorem listed_map (g : α → β) (t : SetTable α) : (t.map g).listed = t.listed.map (Prod.map id g) := by
  have hsort := List.map_mergeSort (f := Prod.map id (Prod.map id g)) (l := t.taken)
    (r := fun x y => decide (x.1 ≤ y.1)) (s := fun x y => decide (x.1 ≤ y.1)) fun _ _ _ _ => rfl
  rw [listed, listed, map, ← hsort, List.map_map, List.map_map]
  rfl

theorem place_map (g : α → β) (t : SetTable α) (x : Nat × α) :
    (t.map g).place (Prod.map id g x) = (t.place x).map g := by
  simp [place, map, Function.comp_def]

theorem foldl_map {f : SetTable α → Nat × α → SetTable α} {f' : SetTable β → Nat × β → SetTable β}
    {g : α → β} (hf : ∀ t x, f' (t.map g) (Prod.map id g x) = (f t x).map g) (xs : List (Nat × α))
    (t : SetTable α) : (xs.map (Prod.map id g)).foldl f' (t.map g) = (xs.foldl f t).map g := by
  rw [List.foldl_map]
  exact List.foldl_hom (SetTable.map g) hf

theorem resize_map (g : α → β) (n : Nat) (t : SetTable α) :
    (t.map g).resize n = (t.resize n).map g := by
  rw [resize, listed_map]
  exact foldl_map (place_map g) _ (empty _)

theorem add_map (g : α → β) (t : SetTable α) (x : Nat × α) :
    (t.map g).add (Prod.map id g x) = (t.add x).map g := by
  rw [add, add, place_map, resize_map]
  simp only [map, List.length_map]
  split <;> rfl

theorem ofList_map (g : α → β) (xs : List (Nat × α)) :
    ofList (xs.map (Prod.map id g)) = (ofList xs).map g :=
  foldl_map (add_map g) xs (empty _)

theorem ofKeys_map (g : α → β) (xs : List (Nat × α)) :
    ofKeys (xs.map (Prod.map id g)) = (ofKeys xs).map g := by
  rw [ofKeys, List.length_map]
  exact foldl_map (add_map g) xs (empty _)

end SetTable

/-! ## Copies -/

namespace Value
variable {h : Hashing} {u v : Value} {us vs ms : List Value} {es fs new : Entries} {f : Nat → Label}

theorem copiedMembers_perm (h : Hashing) (ms : List Value) : (copiedMembers h ms).Perm ms := by
  have hread := (SetTable.listed_ofList_perm _).trans
    (SetTable.listed_ofKeys_perm (ms.map fun v => (v.hash h, v)))
  have hlisted := hread.map (·.2)
  rwa [List.map_map, show ((·.2) ∘ fun v : Value => (v.hash h, v)) = id from rfl, List.map_id]
    at hlisted

theorem hash_relabel (h : Hashing) (f : Nat → Label) (v : Value) : (v.relabel f).hash h = v.hash h := by
  cases v <;> rfl

theorem copiedMembers_map {g : Value → Value} (hg : ∀ v, (g v).hash h = v.hash h) (ms : List Value) :
    copiedMembers h (ms.map g) = (copiedMembers h ms).map g := by
  have hmembers : (ms.map g).map (fun v => (v.hash h, v)) =
      (ms.map fun v => (v.hash h, v)).map (Prod.map id g) := by
    simp [Function.comp_def, hg]
  rw [copiedMembers, copiedMembers, hmembers]
  rw [SetTable.ofKeys_map, SetTable.listed_map, SetTable.ofList_map, SetTable.listed_map,
    List.map_map, List.map_map]
  rfl

theorem copiedItems_eq_map (h : Hashing) (vs : List Value) : copiedItems h vs = vs.map (copied h) := by
  induction vs with
  | nil => rfl
  | cons v vs ih => rw [copiedItems, ih, List.map_cons]

mutual

/-- Copying does not look at labels. -/
theorem copied_relabel (h : Hashing) (f : Nat → Label) :
    ∀ v, copied h (relabel f v) = relabel f (copied h v)
  | .null | .bool _ | .int _ | .float _ | .text _ | .octets _ | .time .. => rfl
  | .list l items => by
    rw [relabel, copied, copied, relabel, copiedItems_relabel h f items]
  | .map l es => by
    rw [relabel, copied, copied, relabel, copiedEntries_relabel h f es]
  | .set l ms => by
    rw [relabel, copied, copied, relabel, relabelItems_eq_map, relabelItems_eq_map,
      copiedMembers_map (hash_relabel h f)]
  | .pair a b => by
    rw [relabel, copied, copied, relabel, copied_relabel h f a, copied_relabel h f b]

theorem copiedItems_relabel (h : Hashing) (f : Nat → Label) :
    ∀ vs, copiedItems h (relabelItems f vs) = relabelItems f (copiedItems h vs)
  | [] => rfl
  | v :: vs => by
    rw [relabelItems, copiedItems, copiedItems, relabelItems, copied_relabel h f v,
      copiedItems_relabel h f vs]

theorem copiedEntries_relabel (h : Hashing) (f : Nat → Label) :
    ∀ es, copiedEntries h (relabelEntries f es) = relabelEntries f (copiedEntries h es)
  | [] => rfl
  | (k, v) :: es => by
    rw [relabelEntries, copiedEntries, copiedEntries, relabelEntries, copied_relabel h f v,
      copiedEntries_relabel h f es]

end

theorem get?_copied (h : Hashing) (key : String) (es : Entries) :
    Entries.get? (copiedEntries h es) key = (es.get? key).map (copied h) := by
  induction es with
  | nil => rfl
  | cons e es ih =>
    by_cases he : e.1.same (.text key) = true
    · simp [Entries.get?, Entries.lookup?, copiedEntries, he]
    · simpa [Entries.get?, Entries.lookup?, copiedEntries, he] using ih

theorem put_copied (h : Hashing) (key : String) (v : Value) (es : Entries) :
    Entries.put (.text key) (copied h v) (copiedEntries h es) =
      copiedEntries h (es.put (.text key) v) := by
  induction es with
  | nil => rfl
  | cons e es ih =>
    by_cases he : e.1.same (.text key) = true <;> simp [Entries.put, copiedEntries, he, ih]

/-- A copy keeps labels, keys and places. -/
theorem uniform_copied (h : Hashing) : Uniform some (copied h) (copiedEntries h) where
  map l es := by rw [copied, Option.bind_fun_some]
  list l items := by rw [copied, Option.bind_fun_some, copiedItems_eq_map]
  other u hmap hlist := by cases u <;> simp_all [copied]
  nil := rfl
  get? := get?_copied h
  put := put_copied h

/-! ### Labels -/

theorem itemLabels_eq_flatMap (vs : List Value) : itemLabels vs = vs.flatMap labels := by
  induction vs with
  | nil => rfl
  | cons v vs ih => rw [itemLabels, ih, List.flatMap_cons]

mutual

theorem labels_copied (h : Hashing) : ∀ v, (copied h v).labels.Perm v.labels
  | .null | .bool _ | .int _ | .float _ | .text _ | .octets _ | .time .. => .refl _
  | .list l items => (itemLabels_copied h items).append_left _
  | .map l es => (entryLabels_copied h es).append_left _
  | .set l ms => by
    rw [copied, labels, labels, itemLabels_eq_flatMap, itemLabels_eq_flatMap]
    exact ((copiedMembers_perm h ms).flatMap_right labels).append_left _
  | .pair a b => (labels_copied h a).append (labels_copied h b)

theorem itemLabels_copied (h : Hashing) : ∀ vs, (itemLabels (copiedItems h vs)).Perm (itemLabels vs)
  | [] => .refl _
  | v :: vs => (labels_copied h v).append (itemLabels_copied h vs)

theorem entryLabels_copied (h : Hashing) :
    ∀ es, (entryLabels (copiedEntries h es)).Perm (entryLabels es)
  | [] => .refl _
  | (k, v) :: es => ((labels_copied h v).append_left k.labels).append (entryLabels_copied h es)

end

mutual

/-- In a copy no label occurs inside its value either. -/
theorem Unlooped.copied (h : Hashing) : ∀ v : Value, v.Unlooped → (v.copied h).Unlooped
  | .null, _ | .bool _, _ | .int _, _ | .float _, _ | .text _, _ | .octets _, _ | .time .., _
  | .set .., _ => trivial
  | .list _ items, hv =>
    ⟨fun _ hn hmem => hv.1 hn ((itemLabels_copied h items).subset hmem),
      ItemsUnlooped.copied h items hv.2⟩
  | .map _ es, hv =>
    ⟨fun _ hn hmem => hv.1 hn ((entryLabels_copied h es).subset hmem),
      EntriesUnlooped.copied h es hv.2⟩
  | .pair a b, hv => ⟨Unlooped.copied h a hv.1, Unlooped.copied h b hv.2⟩

theorem ItemsUnlooped.copied (h : Hashing) :
    ∀ vs : List Value, ItemsUnlooped vs → ItemsUnlooped (copiedItems h vs)
  | [], _ => trivial
  | v :: vs, hv => ⟨Unlooped.copied h v hv.1, ItemsUnlooped.copied h vs hv.2⟩

theorem EntriesUnlooped.copied (h : Hashing) :
    ∀ es : List (Value × Value), EntriesUnlooped es → EntriesUnlooped (copiedEntries h es)
  | [], _ => trivial
  | (_, v) :: es, hv => ⟨Unlooped.copied h v hv.1, EntriesUnlooped.copied h es hv.2⟩

end

/-! ## Values up to the order in sets -/

mutual

/-- Are the values the same, but for the order in which sets list their members? -/
def Reordered : Value → Value → Prop
  | .list l us, .list m vs => l = m ∧ ItemsReordered us vs
  | .map l es, .map m fs => l = m ∧ EntriesReordered es fs
  | .set l us, .set m vs => l = m ∧ us.Perm vs
  | .pair a b, .pair c d => Reordered a c ∧ Reordered b d
  | u, v => u = v

/-- So it is with some values. -/
def ItemsReordered : List Value → List Value → Prop
  | [], [] => True
  | u :: us, v :: vs => Reordered u v ∧ ItemsReordered us vs
  | _, _ => False

/-- So it is with the values of some entries. -/
def EntriesReordered : List (Value × Value) → List (Value × Value) → Prop
  | [], [] => True
  | (k, u) :: es, (l, v) :: fs => k = l ∧ Reordered u v ∧ EntriesReordered es fs
  | _, _ => False

end

/-- Are the values the same, but for what labels are called and the order in which sets list
    their members? -/
def Matches (u v : Value) : Prop := ∃ u', u.Reordered u' ∧ u'.Alike v

mutual

/-- **A copy is the same value**, but for the order in which its sets list their members. -/
theorem reordered_copied (h : Hashing) : ∀ v, Reordered v (copied h v)
  | .null | .bool _ | .int _ | .float _ | .text _ | .octets _ | .time .. => rfl
  | .list _ items => ⟨rfl, itemsReordered_copied h items⟩
  | .map _ es => ⟨rfl, entriesReordered_copied h es⟩
  | .set _ ms => ⟨rfl, (copiedMembers_perm h ms).symm⟩
  | .pair a b => ⟨reordered_copied h a, reordered_copied h b⟩

theorem itemsReordered_copied (h : Hashing) : ∀ vs, ItemsReordered vs (copiedItems h vs)
  | [] => trivial
  | v :: vs => ⟨reordered_copied h v, itemsReordered_copied h vs⟩

theorem entriesReordered_copied (h : Hashing) : ∀ es, EntriesReordered es (copiedEntries h es)
  | [] => trivial
  | (_, v) :: es => ⟨rfl, reordered_copied h v, entriesReordered_copied h es⟩

end

mutual

theorem Reordered.refl : ∀ v, Reordered v v
  | .null | .bool _ | .int _ | .float _ | .text _ | .octets _ | .time .. => rfl
  | .list _ items => ⟨rfl, ItemsReordered.refl items⟩
  | .map _ es => ⟨rfl, EntriesReordered.refl es⟩
  | .set .. => ⟨rfl, .refl _⟩
  | .pair a b => ⟨Reordered.refl a, Reordered.refl b⟩

theorem ItemsReordered.refl : ∀ vs, ItemsReordered vs vs
  | [] => trivial
  | v :: vs => ⟨Reordered.refl v, ItemsReordered.refl vs⟩

theorem EntriesReordered.refl : ∀ es, EntriesReordered es es
  | [] => trivial
  | (_, v) :: es => ⟨rfl, Reordered.refl v, EntriesReordered.refl es⟩

end

/-- A mapping is the same as mappings only. -/
theorem Reordered.exists_map {l : Label} (hv : Reordered (.map l es) v) :
    ∃ fs, v = .map l fs ∧ EntriesReordered es fs := by
  cases v with
  | map m fs =>
    obtain ⟨rfl, hes⟩ := hv
    exact ⟨fs, rfl, hes⟩
  | _ => cases hv

theorem Reordered.ne_map (hu : ∀ l es, u ≠ .map l es) (hv : Reordered u v) (l : Label) (es : Entries) :
    v ≠ .map l es := by
  rintro rfl
  cases u with
  | map m fs => exact hu m fs rfl
  | _ => cases hv

namespace EntriesReordered
variable {key : String} {path : List String} {w : Value}

theorem get? (hes : EntriesReordered es fs) (key : String) :
    (es.get? key = none ∧ Entries.get? fs key = none) ∨
      ∃ u v, es.get? key = some u ∧ Entries.get? fs key = some v ∧ Reordered u v := by
  induction es generalizing fs with
  | nil =>
    cases fs with
    | nil => exact .inl ⟨rfl, rfl⟩
    | cons => cases hes
  | cons e es ih =>
    cases fs with
    | nil => cases hes
    | cons e' fs =>
      obtain ⟨hkey, hvalue, hes⟩ := hes
      by_cases he : e.1.same (.text key) = true
      · exact .inr ⟨e.2, e'.2, by simp [Entries.get?, Entries.lookup?, he],
          by simp [Entries.get?, Entries.lookup?, ← hkey, he], hvalue⟩
      · simpa [Entries.get?, Entries.lookup?, he, ← hkey] using ih hes

theorem put (hes : EntriesReordered es fs) (huv : Reordered u v) (key : String) :
    EntriesReordered (es.put (.text key) u) (Entries.put (.text key) v fs) := by
  induction es generalizing fs with
  | nil =>
    cases fs with
    | nil => exact ⟨rfl, huv, trivial⟩
    | cons => cases hes
  | cons e es ih =>
    cases fs with
    | nil => cases hes
    | cons e' fs =>
      obtain ⟨hkey, hvalue, hes⟩ := hes
      rw [Entries.put, Entries.put, ← hkey]
      split
      · exact ⟨rfl, huv, hes⟩
      · exact ⟨hkey, hvalue, ih hes⟩

/-- A value can be set in both. -/
theorem exists_setAt (hes : EntriesReordered es fs) (hnew : es.setAt w path = some new) :
    ∃ new', Entries.setAt w path fs = some new' ∧ EntriesReordered new new' := by
  induction path generalizing es fs new with
  | nil => cases hnew
  | cons key path ih =>
    by_cases hp : path = []
    · subst hp
      obtain rfl := Option.some.inj hnew
      exact ⟨_, rfl, hes.put (.refl w) key⟩
    · rcases hes.get? key with ⟨hnone, hnone'⟩ | ⟨u, v, hu, hv, huv⟩
      · rw [Entries.setAt_cons hp (.absent hnone)] at hnew
        obtain ⟨below, hbelow, rfl⟩ := Option.map_eq_some_iff.1 hnew
        rw [Entries.setAt_cons hp (.absent hnone'), hbelow]
        exact ⟨_, rfl, hes.put (.refl _) key⟩
      · by_cases hmap : ∃ l inner, u = .map l inner
        · obtain ⟨l, inner, rfl⟩ := hmap
          obtain ⟨inner', rfl, hinner⟩ := huv.exists_map
          rw [Entries.setAt_cons hp (.present hu)] at hnew
          obtain ⟨below, hbelow, rfl⟩ := Option.map_eq_some_iff.1 hnew
          obtain ⟨below', hbelow', hreordered⟩ := ih hinner hbelow
          rw [Entries.setAt_cons hp (.present hv), hbelow']
          exact ⟨_, rfl, hes.put (u := .map l below) (v := .map l below') ⟨rfl, hreordered⟩ key⟩
        · rw [Entries.setAt_cons_eq_none hp hu fun l inner he => hmap ⟨l, inner, he⟩] at hnew
          cases hnew

end EntriesReordered

/-! ## Small sets -/

mutual

/-- Has no set in the value two members? -/
def hasSmallSets : Value → Bool
  | .list _ items => haveSmallSets items
  | .map _ es => entriesHaveSmallSets es
  | .set _ ms => ms.length ≤ 1
  | .pair a b => hasSmallSets a && hasSmallSets b
  | _ => true

/-- So it is with some values. -/
def haveSmallSets : List Value → Bool
  | [] => true
  | v :: vs => hasSmallSets v && haveSmallSets vs

/-- So it is with the values of some entries. -/
def entriesHaveSmallSets : List (Value × Value) → Bool
  | [] => true
  | (_, v) :: es => hasSmallSets v && entriesHaveSmallSets es

end

theorem copiedMembers_eq_self (hms : ms.length ≤ 1) : copiedMembers h ms = ms := by
  have hperm := copiedMembers_perm h ms
  match ms, hms with
  | [], _ => exact List.perm_nil.1 hperm
  | [m], _ => exact List.perm_singleton.1 hperm

mutual

/-- **A value without large sets is its own copy.** -/
theorem copied_eq_self : ∀ v, hasSmallSets v = true → copied h v = v
  | .null, _ | .bool _, _ | .int _, _ | .float _, _ | .text _, _ | .octets _, _ | .time .., _ => rfl
  | .list l items, hv => by rw [copied, copiedItems_eq_self items hv]
  | .map l es, hv => by rw [copied, copiedEntries_eq_self es hv]
  | .set l ms, hv => by rw [copied, copiedMembers_eq_self (of_decide_eq_true hv)]
  | .pair a b, hv => by
    obtain ⟨ha, hb⟩ := Bool.and_eq_true_iff.1 hv
    rw [copied, copied_eq_self a ha, copied_eq_self b hb]

theorem copiedItems_eq_self : ∀ vs, haveSmallSets vs = true → copiedItems h vs = vs
  | [], _ => rfl
  | v :: vs, hv => by
    obtain ⟨hv, hvs⟩ := Bool.and_eq_true_iff.1 hv
    rw [copiedItems, copied_eq_self v hv, copiedItems_eq_self vs hvs]

theorem copiedEntries_eq_self : ∀ es, entriesHaveSmallSets es = true → copiedEntries h es = es
  | [], _ => rfl
  | (k, v) :: es, hv => by
    obtain ⟨hv, hes⟩ := Bool.and_eq_true_iff.1 hv
    rw [copiedEntries, copied_eq_self v hv, copiedEntries_eq_self es hes]

end

end Value

/-! ## Entries -/

namespace Entries
variable (h : Hashing) (es : Entries)

theorem uniform_copied : Value.Uniform some (Value.copied h) (copied h) := Value.uniform_copied h

theorem reordered_copied : Value.EntriesReordered es (es.copied h) := Value.entriesReordered_copied h es

theorem copied_relabel (f : Nat → Label) :
    copied h (Value.relabelEntries f es) = Value.relabelEntries f (es.copied h) :=
  Value.copiedEntries_relabel h f es

theorem labels_copied : (Value.entryLabels (es.copied h)).Perm (Value.entryLabels es) :=
  Value.entryLabels_copied h es

end Entries

end Folio
