/-
  Folio — what setting a field leaves as it is.

  Setting a value changes the mappings along one path, so what is at a path that does
  not lead through it stays (`Value.at?_setAt_of_apart`).  In a document this holds of
  a header that YAML gives back, and only where the mappings on the way are not
  shared: a mapping with an alias changes wherever it occurs, and a date comes back as
  a text.

  * `field?_setField_of_apart`: the other fields after one is set;
  * `setField_changes_date`, `setField_changes_alias`: fields that do not stay.
-/
import Folio.Proofs.Document.Basic

namespace Folio

/-! ## Other paths -/

namespace Value
variable {path other : List String} {value : Value} {es new : Entries}

theorem at?_cons_map (key : String) (path : List String) (l : Label) (es : Entries) :
    at? (key :: path) (.map l es) = match es.get? key with
      | some w => at? path w
      | none => .ok none := rfl

/-- **What is at a path apart from the one where a value is set stays.** -/
theorem at?_setAt_of_apart (h : es.setAt value path = some new) (h1 : ¬ path <+: other)
    (h2 : ¬ other <+: path) (l : Label) : at? other (.map l new) = at? other (.map l es) := by
  induction path generalizing es new other l with
  | nil => cases h
  | cons key path ih =>
    cases other with
    | nil => exact absurd List.nil_prefix h2
    | cons part other =>
      by_cases hp : path = []
      · subst hp
        have hne : key ≠ part := by
          rintro rfl
          exact h1 (List.cons_prefix_cons.2 ⟨rfl, List.nil_prefix⟩)
        obtain rfl := Option.some.inj h
        rw [at?_cons_map, at?_cons_map, Entries.get?_put_of_ne hne]
      · obtain ⟨l', inner, hb⟩ | ⟨u, hu, hno⟩ := Entries.below_or key es
        · rw [Entries.setAt_cons hp hb] at h
          obtain ⟨new', h', rfl⟩ := Option.map_eq_some_iff.1 h
          by_cases hk : key = part
          · subst hk
            have hpath : ¬ path <+: other := fun hpre => h1 (List.cons_prefix_cons.2 ⟨rfl, hpre⟩)
            have hother : ¬ other <+: path := fun hpre => h2 (List.cons_prefix_cons.2 ⟨rfl, hpre⟩)
            have hbelow := ih h' hpath hother l'
            rw [at?_cons_map, Entries.get?_put_self, at?_cons_map]
            cases hb with
            | present hk => rw [hk]; exact hbelow
            | absent hk =>
              rw [hk]
              obtain ⟨k, rest, rfl⟩ := List.exists_cons_of_ne_nil
                (fun he => hother (he ▸ List.nil_prefix) : other ≠ [])
              exact hbelow
          · rw [at?_cons_map, at?_cons_map, Entries.get?_put_of_ne hk]
        · rw [Entries.setAt_cons_eq_none hp hu hno] at h
          cases h

end Value

namespace Document

/-- Is the value of a field the same in both documents, but for the order in which sets list
    their members, or in neither? -/
structure SameField (d d' : Document) (dotted : String) : Prop where
  present : ∀ u, d.field? dotted = .ok (some u) →
    ∃ u', d'.field? dotted = .ok (some u') ∧ u.Matches u'
  missing : d.field? dotted = .ok none → d'.field? dotted = .ok none
  failing : ∀ e, d.field? dotted = .error e → d'.field? dotted = .error e

section
variable {d d' : Document}

/-- What is shared in the header is shared in a copy. -/
theorem unshared_copied (h : Hashing) {path : List String} (hu : d.header.Unshared path) :
    (d.header.copied h).Unshared path := by
  intro n hn
  rw [Entries.wayLabels_uniform (Entries.uniform_copied h), List.filterMap_some] at hn
  rw [(d.header.labels_copied h).count_eq]
  exact hu n hn

/-- **The other fields after one is set** are the same, if no mapping on the way to it
    is shared and YAML gives back the header that is written. -/
theorem field?_setField_of_apart (h : Hashing) (he : d.headerError = none) {dotted other : String}
    {v : Value} (hu : d.header.Unshared (Text.splitString '.' dotted))
    (hback : ∀ es, (d.header.copied h).setAt v (Text.splitString '.' dotted) = some es →
      Header.ReadsBack es)
    (hset : d.setFieldIn h dotted v = .ok d')
    (h1 : ¬ Text.splitString '.' dotted <+: Text.splitString '.' other)
    (h2 : ¬ Text.splitString '.' other <+: Text.splitString '.' dotted) :
    SameField d d' other := by
  have hp := splitString_ne_nil dotted
  cases hes : (d.header.copied h).setAt v (Text.splitString '.' dotted) with
  | none =>
    obtain ⟨key, hk⟩ := Entries.set_of_setAt_eq_none hp hes
    rw [setFieldIn, hk] at hset
    cases hset
  | some es =>
    obtain ⟨d'', hd'', -, -, -, f, hf, hmap⟩ := withHeader_of_readsBack he (hback es hes)
    rw [setFieldIn_of_setAt (unshared_copied h hu) hes] at hset
    obtain rfl : d'' = d' := Except.ok.inj (hd''.symm.trans hset)
    have hfield : d''.field? other =
        ((d.field? other).map (Option.map (Value.copied h))).map (Option.map (Value.relabel f)) := by
      rw [field?, field?, Entries.at?, Entries.at?, hmap, Value.at?_uniform (Value.uniform_relabel f),
        Value.at?_setAt_of_apart hes h1 h2 none]
      exact congrArg _ (Value.at?_uniform (Value.uniform_copied h) _ (.map none d.header))
    refine ⟨fun u hu => ⟨(u.copied h).relabel f, by rw [hfield, hu]; rfl, u.copied h,
      u.reordered_copied h, f, hf, rfl⟩, fun h => ?_, fun e h => ?_⟩
    · rw [hfield, h]; rfl
    · rw [hfield, h]; rfl

/-- A list is set beside a mapping. -/
theorem field?_setField_beside :
    ∃ d d', parse (Utf8.ofString "---\na: {k: 1}\nb: 2\n---\nx") none = .ok d ∧
      d.headerError = none ∧ d.header.Unshared ["b"] ∧
      (∀ es, (d.header.copied .zero).setAt (.list none [.text "x: y"]) ["b"] = some es →
        Header.ReadsBack es) ∧
      d.setField "b" (.list none [.text "x: y"]) = .ok d' ∧ ¬ ["b"] <+: ["a", "k"] ∧
      ¬ ["a", "k"] <+: ["b"] ∧ SameField d d' "a.k" := by
  have hd : (parse (Utf8.ofString "---\na: {k: 1}\nb: 2\n---\nx") none).map
      (fun d => (d.headerError, d.header)) =
        .ok (none, [(.text "a", .map none [(.text "k", .int 1)]), (.text "b", .int 2)]) := by decide +kernel
  obtain ⟨d, hp, hd⟩ := map_eq_ok_iff.1 hd
  obtain ⟨he, hheader⟩ := Prod.mk.inj hd
  have hb : Text.splitString '.' "b" = ["b"] := by decide
  have hak : Text.splitString '.' "a.k" = ["a", "k"] := by decide
  have hset : d.header.setAt (.list none [.text "x: y"]) ["b"] =
      some [(.text "a", .map none [(.text "k", .int 1)]), (.text "b", .list none [.text "x: y"])] := by
    rw [hheader]
    decide +kernel
  have hu : (Value.entryLabels d.header).Nodup := by
    rw [hheader]
    decide
  have hcopy : d.header.copied .zero = d.header := by
    rw [hheader]
    rfl
  have hback : ∀ es, (d.header.copied .zero).setAt (.list none [.text "x: y"]) ["b"] = some es →
      Header.ReadsBack es := by
    intro es h
    rw [hcopy] at h
    obtain rfl := Option.some.inj (hset.symm.trans h)
    exact Header.readsBack_of_basic (by decide +kernel) (by decide +kernel) (by decide +kernel)
  obtain ⟨d', hd', -⟩ : ∃ d', d.setField "b" (.list none [.text "x: y"]) = .ok d' ∧
      FieldSet .zero d "b" _ _ d' :=
    exists_fieldSet .zero he hu (by simp [Value.labels, Value.itemLabels]) (by rw [hb]; exact hset)
      (by rw [hb]; exact hback)
  have hway : d.header.Unshared ["b"] := fun n _ => List.nodup_iff_count_le_one.1 hu n
  have hsame : SameField d d' "a.k" := field?_setField_of_apart .zero he (by rwa [hb]) (by rwa [hb]) hd'
    (by rw [hb, hak]; decide) (by rw [hb, hak]; decide)
  exact ⟨d, d', hp, he, hway, hback, hd', by decide, by decide, hsame⟩

/-- A date comes back as a text, though another field is set: what is written of it has no
    tag, and a header is read without dates. -/
theorem setField_changes_date :
    ∃ d d', parse (Utf8.ofString "---\na: !!timestamp 2020-01-01\nb: 1\n---\n") none = .ok d ∧
      d.headerError = none ∧ d.setField "b" (.int 2) = .ok d' ∧
      d.field? "a" = .ok (some (.time none ⟨2020, 1, 1, none⟩)) ∧
      d'.field? "a" = .ok (some (.text "2020-01-01")) := by
  have h : ((parse (Utf8.ofString "---\na: !!timestamp 2020-01-01\nb: 1\n---\n") none).toOption.bind
      fun d => (d.setField "b" (.int 2)).toOption.map fun d' =>
        (d.headerError, d.field? "a", d'.field? "a")) =
      some (none, .ok (some (.time none ⟨2020, 1, 1, none⟩)), .ok (some (.text "2020-01-01"))) := by
    decide +kernel
  obtain ⟨d, d', hd, hd', h⟩ := exists_of_computed h
  obtain ⟨he, h⟩ := Prod.mk.inj h
  obtain ⟨hbefore, hafter⟩ := Prod.mk.inj h
  exact ⟨d, d', hd, he, hd', hbefore, hafter⟩

/-- A mapping with an alias changes wherever it occurs. -/
theorem setField_changes_alias :
    ∃ d d', parse (Utf8.ofString "---\na: &x {k: 1}\nb: *x\n---\n") none = .ok d ∧
      d.headerError = none ∧ d.setField "a.k" (.int 2) = .ok d' ∧
      d.field? "b.k" = .ok (some (.int 1)) ∧ d'.field? "b.k" = .ok (some (.int 2)) := by
  have h : ((parse (Utf8.ofString "---\na: &x {k: 1}\nb: *x\n---\n") none).toOption.bind
      fun d => (d.setField "a.k" (.int 2)).toOption.map fun d' =>
        (d.headerError, d.field? "b.k", d'.field? "b.k")) =
      some (none, .ok (some (.int 1)), .ok (some (.int 2))) := by decide +kernel
  obtain ⟨d, d', hd, hd', h⟩ := exists_of_computed h
  obtain ⟨he, h⟩ := Prod.mk.inj h
  obtain ⟨hbefore, hafter⟩ := Prod.mk.inj h
  exact ⟨d, d', hd, he, hd', hbefore, hafter⟩

end

end Document

end Folio
