/-
  Folio — removing a field of the header.

  A value is removed from the mapping that holds it.  Where that mapping is shared, or lies in
  a shared one, the innermost shared mapping on the way changes wherever it occurs
  (`Entries.Without`); otherwise the change is one along the path (`Entries.removeAt`).

  The header that is left is written and read again.  Looking a field up also goes into lists,
  by places; removing does not: where a value on the way is a list, it fails.

  * `Entries.exists_without`, `Entries.remove_of_blocked`: what removing a value that is there
    does: it fails just if a value on the way is no mapping;
  * `Entries.Without.at?_eq_none`: a value that was removed is gone;
  * `FieldRemoved`: what removing a field does;
  * `removeField?_cases`: when it leaves the document alone, when it fails, and that else it
    does this;
  * `removeField?_in_list`: an item of a list is found, but not removed.
-/
import Folio.Proofs.Document.Field
import Folio.Proofs.Document.Frame
import Folio.Proofs.Yaml.Nested

namespace Folio

namespace Value

/-- Is there a list on the way of the path, before its end? -/
def ThroughList (path : List String) (v : Value) : Prop :=
  ∃ way l items, way <+: path ∧ way ≠ path ∧ v.at? way = .ok (some (.list l items))

/-- A path that leads to a value goes through mappings and lists only. -/
theorem throughList_iff_blocked {path : List String} {v w : Value} (h : v.at? path = .ok (some w)) :
    v.ThroughList path ↔ v.Blocked path := by
  constructor
  · rintro ⟨way, l, items, hway, hne, hlist⟩
    exact ⟨way, _, hway, hne, hlist, fun l inner he => by cases he⟩
  · rintro ⟨way, u, ⟨rest, rfl⟩, hne, hu, hno⟩
    obtain ⟨part, rest, rfl⟩ := List.exists_cons_of_ne_nil
      (fun he => hne (by rw [he, List.append_nil]) : rest ≠ [])
    rw [at?_append hu] at h
    cases u with
    | map l inner => exact absurd rfl (hno l inner)
    | list l items => exact ⟨way, l, items, ⟨_, rfl⟩, hne, hu⟩
    | _ => cases h

end Value

namespace Entries
variable {key last : String} {path way : List String} {es new inner : Entries} {l : Label} {v : Value}

/-- The entries without the value at a path, if there are mappings all the way. -/
def removeAt : List String → Entries → Option Entries
  | [], _ => none
  | [key], es => some (es.erase (.text key))
  | key :: path, es =>
    match es.get? key with
    | some (.map l inner) => (removeAt path inner).map fun new => es.put (.text key) (.map l new)
    | _ => none

theorem removeAt_cons (hp : path ≠ []) (h : es.get? key = some (.map l inner)) :
    removeAt (key :: path) es =
      (removeAt path inner).map fun new => es.put (.text key) (.map l new) := by
  obtain ⟨next, rest, rfl⟩ := List.exists_cons_of_ne_nil hp
  simp [removeAt, h]

theorem removeAt_cons_eq_none (hp : path ≠ []) (h : ∀ l inner, es.get? key ≠ some (.map l inner)) :
    removeAt (key :: path) es = none := by
  obtain ⟨next, rest, rfl⟩ := List.exists_cons_of_ne_nil hp
  cases hk : es.get? key with
  | none => simp [removeAt, hk]
  | some u => cases u <;> simp_all [removeAt]

/-- A value that is removed along its path is gone. -/
theorem at?_removeAt (l : Label) (h : removeAt path es = some new) :
    Value.at? path (.map l new) = .ok none := by
  induction path generalizing es new l with
  | nil => cases h
  | cons key path ih =>
    by_cases hp : path = []
    · subst hp
      obtain rfl := Option.some.inj h
      simp [Value.at?, get?_erase_self]
    · by_cases hk : ∃ l inner, es.get? key = some (.map l inner)
      · obtain ⟨l', inner, hk⟩ := hk
        rw [removeAt_cons hp hk] at h
        obtain ⟨new', h', rfl⟩ := Option.map_eq_some_iff.1 h
        simpa [Value.at?, get?_put_self] using ih l' h'
      · simp only [not_exists] at hk
        rw [removeAt_cons_eq_none hp hk] at h
        cases h

/-! ## Removing and shared values -/

/-- The entries without the value at a path, whatever is shared: if no mapping on the way has
    a label, they change along the path; else the innermost mapping with a label does, and
    takes the place of all with this label. -/
inductive Without (path : List String) (es : Entries) : Entries → Prop where
  | alone {new : Entries} (hw : wayLabels path es = []) (h : removeAt path es = some new) :
    Without path es new
  | shared {above below : List String} {n : Nat} {inner new : Entries} (hp : path = above ++ below)
    (hb : below ≠ []) (ha : es.at? above = .ok (some (.map (some n) inner)))
    (hw : wayLabels below inner = []) (h : removeAt below inner = some new) :
    Without path es (Value.replaceEntries n (.map (some n) new) es)

/-- The change takes the value at a path out of a mapping. -/
def Change.Removes (c : Change) (path : List String) (l : Label) (es : Entries) : Prop :=
  match c with
  | .here new => l = none ∧ wayLabels path es = [] ∧ removeAt path es = some new
  | .everywhere n new => ∃ above below inner, path = above ++ below ∧ below ≠ [] ∧
      Value.at? above (.map l es) = .ok (some (.map (some n) inner)) ∧
      wayLabels below inner = [] ∧ removeAt below inner = some new

theorem Change.removes_of (hp : path ≠ []) (l : Label) (hw : wayLabels path es = [])
    (h : removeAt path es = some new) : (Change.of l new).Removes path l es := by
  cases l with
  | none => exact ⟨rfl, hw, h⟩
  | some n => exact ⟨[], path, es, rfl, hp, rfl, hw, h⟩

/-- A change below a key is one of the mapping around it. -/
theorem Change.Removes.under {c : Change} (hp : path ≠ []) (hk : es.get? key = some (.map l inner))
    (h : c.Removes path l inner) (label : Label) :
    (c.under label l key es).Removes (key :: path) label es := by
  cases c with
  | here new =>
    obtain ⟨rfl, hw, hnew⟩ := h
    refine removes_of (List.cons_ne_nil _ _) label ?_ ?_
    · rw [wayLabels_cons hp (.present hk), hw]
      rfl
    · rw [removeAt_cons hp hk, hnew]
      rfl
  | everywhere n new =>
    obtain ⟨above, below, innermost, rfl, hb, ha, hw, hnew⟩ := h
    refine ⟨key :: above, below, innermost, rfl, hb, ?_, hw, hnew⟩
    simpa [Value.at?, hk] using ha

/-- Removing a value that is there, where all values on the way are mappings. -/
theorem exists_removeChange (label : Label) (hv : Value.at? (way ++ [last]) (.map label es) = .ok (some v))
    (hb : ¬ Value.Blocked (way ++ [last]) (.map label es)) :
    ∃ c, removeChange last way label es = .ok c ∧ c.Removes (way ++ [last]) label es := by
  induction way generalizing es label with
  | nil => exact ⟨_, rfl, Change.removes_of (List.cons_ne_nil _ _) label rfl rfl⟩
  | cons key way ih =>
    have hp : way ++ [last] ≠ [] := List.append_ne_nil_of_right_ne_nil _ (List.cons_ne_nil _ _)
    rw [List.cons_append, Value.blocked_cons hp] at hb
    cases hk : es.get? key with
    | none => simp [Value.at?, hk] at hv
    | some u =>
      have hu : ∃ l inner, u = .map l inner := by
        by_contra hno
        exact hb ⟨u, hk, .inl fun l inner he => hno ⟨l, inner, he⟩⟩
      obtain ⟨l, inner, rfl⟩ := hu
      have hv' : Value.at? (way ++ [last]) (.map l inner) = .ok (some v) := by
        simpa [Value.at?, hk] using hv
      obtain ⟨c, hc, hremoves⟩ := ih l hv' fun hblocked => hb ⟨_, hk, .inr hblocked⟩
      exact ⟨c.under label l key es, by simp [removeChange, hk, hc, Except.map],
        hremoves.under hp hk label⟩

theorem removeChange_of_blocked (label : Label) (hb : Value.Blocked (way ++ [last]) (.map label es)) :
    removeChange last way label es = .error .inList := by
  induction way generalizing es label with
  | nil => exact absurd hb Value.not_blocked_singleton
  | cons key way ih =>
    have hp : way ++ [last] ≠ [] := List.append_ne_nil_of_right_ne_nil _ (List.cons_ne_nil _ _)
    rw [List.cons_append, Value.blocked_cons hp] at hb
    obtain ⟨u, hk, hno | hb⟩ := hb
    · cases u <;> simp_all [removeChange]
    · cases u with
      | map l inner => simp [removeChange, hk, ih l hb, Except.map]
      | _ => simp [removeChange, hk]

/-- **Removing a value that is there** takes it out of the mapping that holds it, if all
    values on the way are mappings. -/
theorem exists_without (hv : es.at? path = .ok (some v)) (hp : path ≠ [])
    (hb : ¬ Value.Blocked path (.map none es)) :
    ∃ new, es.remove path = .ok new ∧ es.Without path new := by
  rw [← List.dropLast_append_getLast hp] at hv hb ⊢
  obtain ⟨c, hc, hremoves⟩ := exists_removeChange none hv hb
  refine ⟨c.apply es, ?_, ?_⟩
  · rw [remove, List.getLast?_concat, List.dropLast_concat, Option.getD_some, hc]
    rfl
  · cases c with
    | here new => exact .alone hremoves.2.1 hremoves.2.2
    | everywhere n new =>
      obtain ⟨above, below, inner, hpath, hbelow, habove, hw, hnew⟩ := hremoves
      exact .shared hpath hbelow habove hw hnew

/-- **A value that was removed is gone**, also where its mapping is shared, since no mapping
    lies in one with its label. -/
theorem Without.at?_eq_none (hu : Value.EntriesUnlooped es) (h : es.Without path new) :
    new.at? path = .ok none := by
  cases h with
  | alone _ h => exact at?_removeAt none h
  | @shared above below n inner new hpath _ habove _ h =>
    have hunlooped : (Value.map none es).Unlooped := ⟨List.disjoint_nil_left _, hu⟩
    have hnew := Value.at?_replaceLabel hunlooped habove (.map (some n) new)
    rw [Value.replaceLabel, if_neg (by simp)] at hnew
    rw [hpath, at?, Value.at?_append hnew]
    exact at?_removeAt (some n) h

theorem remove_of_blocked (hp : path ≠ []) (hb : Value.Blocked path (.map none es)) :
    es.remove path = .error .inList := by
  rw [← List.dropLast_append_getLast hp] at hb ⊢
  rw [remove, List.getLast?_concat, List.dropLast_concat, Option.getD_some,
    removeChange_of_blocked none hb]
  rfl

end Entries

/-! ## Fields of headers -/

/-- No label in a decoded header occurs inside the value that it is the label of. -/
theorem Header.unlooped_of_decode {octets : Octets} {es : Entries} (h : decode octets = .ok es) :
    Value.EntriesUnlooped es := by
  unfold decode at h
  split at h
  · cases h
  · cases h
  · cases h
    trivial
  · next hdecode =>
    cases h
    exact (Yaml.unlooped_of_decode hdecode).2
  · cases h

namespace Document

/-- What removing a field of a document does. -/
structure FieldRemoved (d : Document) (dotted : String) (es : Entries) (d' : Document) : Prop where
  body : d'.body.octets = d.body.octets
  headerError : d'.headerError = none
  header : (Value.map none es).Alike (.map none d'.header)
  missing : d'.field? dotted = .ok none

section
variable {raw : Octets} {file : Option String} {d : Document}

/-- No label in a header occurs inside the value that it is the label of. -/
theorem unlooped_header (h : parse raw file = .ok d) : Value.EntriesUnlooped d.header := by
  obtain ⟨header, e, hheader, rfl⟩ := parse_eq_ok_iff.1 h
  unfold headerOf at hheader
  split at hheader
  · cases hheader
    trivial
  · next octets _ =>
    cases hdecode : Header.decode octets with
    | error f =>
      rw [hdecode] at hheader
      cases f with
      | misfit m => cases hheader
      | error e => cases hheader; trivial
    | ok es =>
      rw [hdecode] at hheader
      cases hheader
      exact Header.unlooped_of_decode hdecode

/-- **Removing a field**, in a run with any hashes.  Without a value at the path the document
    stays as it is.  A value is removed from the mapping that holds it in a copy of the header
    and is missing then, if YAML gives back the header that is left, and the body stays; but if
    there is a list on the way, this fails. -/
theorem removeField?_cases (hash : Hashing) (h : parse raw file = .ok d) (he : d.headerError = none)
    (dotted : String) :
    (d.field? dotted = .ok none → d.removeFieldIn? hash dotted = .ok none) ∧
    (∀ e, d.field? dotted = .error e → d.removeFieldIn? hash dotted = .error (.path (.place e))) ∧
    ∀ v, d.field? dotted = .ok (some v) →
      (Value.ThroughList (Text.splitString '.' dotted) (.map none d.header) →
        d.removeFieldIn? hash dotted = .error (.path .inList)) ∧
      (¬ Value.ThroughList (Text.splitString '.' dotted) (.map none d.header) →
        ∃ es, (d.header.copied hash).Without (Text.splitString '.' dotted) es ∧
          (Header.ReadsBack es →
            ∃ d', d.removeFieldIn? hash dotted = .ok (some d') ∧ FieldRemoved d dotted es d')) := by
  have hp := splitString_ne_nil dotted
  refine ⟨fun hv => ?_, fun e hv => ?_, fun v hv => ⟨fun hb => ?_, fun hb => ?_⟩⟩
  · rw [removeFieldIn?, hv]
  · rw [removeFieldIn?, hv]
  · rw [Value.throughList_iff_blocked hv, ← Value.blocked_uniform (Entries.uniform_copied hash)] at hb
    rw [removeFieldIn?, hv]
    simp only [Entries.remove_of_blocked hp hb]
  · rw [Value.throughList_iff_blocked hv, ← Value.blocked_uniform (Entries.uniform_copied hash)] at hb
    have hcopy : (d.header.copied hash).at? (Text.splitString '.' dotted) =
        .ok (some (v.copied hash)) := by
      refine (Value.at?_uniform (Value.uniform_copied hash) _ (.map none d.header)).trans ?_
      rw [← Entries.at?, ← field?, hv]
      rfl
    obtain ⟨es, hremove, hwithout⟩ := Entries.exists_without hcopy hp hb
    refine ⟨es, hwithout, fun hback => ?_⟩
    obtain ⟨d', hd', -, he', hbody, halike⟩ := withHeader_of_readsBack he hback
    refine ⟨d', ?_, by rw [hbody, Body.octets_ofOctets], he', halike, ?_⟩
    · rw [removeFieldIn?, hv]
      simp only [hremove, hd']
      rfl
    · obtain ⟨f, -, hmap⟩ := halike
      have hgone := hwithout.at?_eq_none (Value.EntriesUnlooped.copied hash _ (unlooped_header h))
      rw [Entries.at?] at hgone
      rw [field?, Entries.at?, hmap, Value.at?_uniform (Value.uniform_relabel f),
        hgone]
      rfl

/-- A value is removed from a mapping in the header. -/
theorem removeField?_cases_below :
    ∃ d v, parse (Utf8.ofString "---\na: {k: 1, l: 2}\n---\nx") none = .ok d ∧
      d.headerError = none ∧ d.field? "a.k" = .ok (some v) ∧
      ¬ Value.ThroughList ["a", "k"] (.map none d.header) ∧
      ∃ es d', Header.ReadsBack es ∧ (d.header.copied .zero).Without ["a", "k"] es ∧
        d.removeField? "a.k" = .ok (some d') ∧ FieldRemoved d "a.k" es d' := by
  have hd : (parse (Utf8.ofString "---\na: {k: 1, l: 2}\n---\nx") none).map
      (fun d => (d.headerError, d.header)) =
        .ok (none, [(.text "a", .map none [(.text "k", .int 1), (.text "l", .int 2)])]) := by
    decide +kernel
  obtain ⟨d, hp, hd⟩ := map_eq_ok_iff.1 hd
  obtain ⟨he, hheader⟩ := Prod.mk.inj hd
  have hparts : Text.splitString '.' "a.k" = ["a", "k"] := by decide
  have hv : d.field? "a.k" = .ok (some (.int 1)) := by
    rw [field?, hparts, hheader]
    decide +kernel
  have hb : ¬ Value.ThroughList ["a", "k"] (.map none d.header) := by
    rw [field?, hparts] at hv
    rw [Value.throughList_iff_blocked hv, ← Value.setAt_eq_none_iff (by simp) (.int 0), hheader]
    decide
  obtain ⟨-, -, h⟩ := removeField?_cases .zero hp he "a.k"
  obtain ⟨es, hwithout, h⟩ := (h _ hv).2 (by rwa [hparts])
  rw [hparts] at hwithout
  have hes : es = [(.text "a", .map none [(.text "l", .int 2)])] := by
    rw [hheader] at hwithout
    cases hwithout with
    | alone _ h =>
      have hleft : Entries.removeAt ["a", "k"]
          [(.text "a", .map none [(.text "k", .int 1), (.text "l", .int 2)])] =
          some [(.text "a", .map none [(.text "l", .int 2)])] := by decide +kernel
      exact (Option.some.inj (hleft.symm.trans h)).symm
    | shared hpath hbelow ha =>
      -- No mapping here has a label.
      rcases List.cons_eq_append_iff.1 hpath with ⟨rfl, -⟩ | ⟨above, rfl, hrest⟩
      · cases ha
      · rcases List.cons_eq_append_iff.1 hrest with ⟨rfl, -⟩ | ⟨above, rfl, hend⟩
        · cases ha
        · exact absurd (List.append_eq_nil_iff.1 hend.symm).2 hbelow
  have hback : Header.ReadsBack es := by
    rw [hes]
    exact Header.readsBack_of_basic (by decide +kernel) (by decide +kernel) (by decide +kernel)
  obtain ⟨d', hd', hremoved⟩ := h hback
  exact ⟨d, _, hp, he, hv, hb, es, d', hback, hwithout, hd', hremoved⟩

/-- An item of a list is found, but not removed. -/
theorem removeField?_in_list :
    ∃ d, parse (Utf8.ofString "---\nxs: [1]\n---\n") none = .ok d ∧ d.headerError = none ∧
      d.field? "xs.0" = .ok (some (.int 1)) ∧ d.removeField? "xs.0" = .error (.path .inList) := by
  have h : (parse (Utf8.ofString "---\nxs: [1]\n---\n") none).map (fun d =>
      (d.headerError, d.field? "xs.0", d.removeField? "xs.0")) =
      .ok (none, .ok (some (.int 1)), .error (.path .inList)) := by decide +kernel
  obtain ⟨d, hd, h⟩ := map_eq_ok_iff.1 h
  simp only [Prod.mk.injEq] at h
  exact ⟨d, hd, h⟩

end

end Document

end Folio
