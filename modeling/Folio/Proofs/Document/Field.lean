/-
  Folio — setting a field of the header.

  A copy of the header is written anew and read again, so a field that is set comes back
  only if YAML gives back what is written: the same mapping, but for what its labels are
  called, and no line that ends the header early (`Header.ReadsBack`).  Given
  that, setting a field is a change of one place in a mapping; only sets may list their
  members in another order than before.

  * `FieldSet`: what setting a field does;
  * `setField_of_readsBack`: when it fails, and that else it does this;
  * `setField_reorders_set`: a set that is written in another order when its header has been
    written before.
-/
import Folio.Document.Edit
import Folio.Proofs.Document.Split
import Folio.Proofs.Document.Parse
import Folio.Proofs.Yaml.Copies
import Folio.Proofs.Yaml.Form

namespace Folio

namespace Header

/-- YAML gives back the header that is written. -/
structure ReadsBack (es : Entries) : Prop where
  writable : Value.entriesAreWritable es = true
  /-- No line of it is taken for the end of the header. -/
  lines : ∀ l ∈ Octets.lines (Utf8.encode (yaml es)), closes l = false
  decode : ∃ es', Header.decode (Utf8.encode (yaml es)) = .ok es' ∧
    (Value.map none es).Alike (.map none es')

/-- The header is what its text is read as. -/
theorem ReadsBack.of_yaml {es : Entries} (text : List Char) (hw : Value.entriesAreWritable es = true)
    (hyaml : yaml es = text) (hlines : ∀ l ∈ Octets.lines (Utf8.encode text), closes l = false)
    (hdecode : Header.decode (Utf8.encode text) = .ok es) : ReadsBack es := by
  refine ⟨hw, hyaml ▸ hlines, es, hyaml ▸ hdecode, some, fun a b n ha hb => ?_, ?_⟩
  · exact (Option.some.inj ha).trans (Option.some.inj hb).symm
  · exact (Value.relabel_some _).symm

/-- What is written does not name labels that occur once. -/
theorem write_relabel {g : Nat → Label} {es : Entries} (hg : Value.Drops g (Value.entryLabels es)) :
    write (Value.relabelEntries g es) = write es := by
  have hform : Yaml.Form.ofValue (.map none (Value.relabelEntries g es)) =
      Yaml.Form.ofValue (.map none es) := Yaml.Form.ofValue_relabel (v := .map none es) hg
  have hempty : (Value.relabelEntries g es).isEmpty = es.isEmpty := by
    cases es <;> rfl
  rw [write, write, Value.entriesAreWritable_relabel, render, render, Yaml.render, Yaml.render,
    hform, hempty]

end Header

namespace Entries
variable {path : List String} {es new : Entries} {w : Value}

/-- With a value set, the labels of the other values do not matter. -/
theorem write_setAt (hu : (Value.entryLabels es).Nodup)
    (hw : List.Disjoint w.labels (Value.entryLabels es)) (h : setAt w path es = some new) :
    ∃ bare, setAt w path (Value.relabelEntries (fun _ => none) es) = some bare ∧
      Header.write new = Header.write bare := by
  let g : Nat → Label := fun n => if n ∈ Value.entryLabels es then none else some n
  have hwg : w.relabel g = w := Value.relabel_eq_self fun n hn => if_neg fun hm => hw hn hm
  have hes : Value.relabelEntries g es = Value.relabelEntries (fun _ => none) es :=
    Value.relabelEntries_congr es fun n hn => if_pos hn
  have hset := setAt_uniform (Value.uniform_relabel g) w path es
  rw [hwg, hes, h] at hset
  refine ⟨_, hset, (Header.write_relabel fun n => ?_).symm⟩
  by_cases hn : n ∈ Value.entryLabels es
  · refine .inr ⟨if_pos hn, Nat.le_trans (count_setAt_le (fun hm => hw hm hn) h) ?_⟩
    exact List.nodup_iff_count_le_one.1 hu n
  · exact .inl (if_neg hn)

/-- A renaming of labels, on those of some entries only. -/
theorem exists_relabel_of_labels {f : Nat → Label} (hf : ∀ a b n, f a = some n → f b = some n → a = b)
    (es : Entries) :
    ∃ g : Nat → Label, (∀ a b n, g a = some n → g b = some n → a = b) ∧
      Value.relabelEntries g es = Value.relabelEntries f es ∧
      ∀ m n, g m = some n → m ∈ Value.entryLabels es := by
  refine ⟨fun n => if n ∈ Value.entryLabels es then f n else none, fun a b n ha hb => ?_,
    Value.relabelEntries_congr es fun n hn => if_pos hn, fun m n hm => ?_⟩
  · simp only at ha hb
    split at ha <;> split at hb <;> first | cases ha | cases hb | exact hf a b n ha hb
  · by_contra hno
    simp only [if_neg hno] at hm
    cases hm

section
variable {f : Nat → Label} {v w : Value} {header : Entries}

/-- The way to a value that is set is shared neither before nor after the entries are
    read back. -/
theorem unshared_relabel (hf : ∀ a b n, f a = some n → f b = some n → a = b)
    (hu : (Value.entryLabels header).Nodup) (hv : List.Disjoint v.labels (Value.entryLabels header))
    (h : setAt v path header = some es) : Unshared path (Value.relabelEntries f es) := by
  intro n hn
  rw [wayLabels_uniform (Value.uniform_relabel f), wayLabels_setAt h] at hn
  obtain ⟨m, hm, hmn⟩ := List.mem_filterMap.1 hn
  have hmem := wayLabels_subset _ _ hm
  rw [Value.entryLabels_relabel, Value.count_filterMap hf hmn]
  exact Nat.le_trans (count_setAt_le (fun hl => hv hl hmem) h) (List.nodup_iff_count_le_one.1 hu m)

/-- Whether a value is set in entries with another value or in those that are read
    back of them, the same is written. -/
theorem exists_setAt_relabel (hf : ∀ a b n, f a = some n → f b = some n → a = b)
    (hu : (Value.entryLabels header).Nodup) (h : setAt v path header = some es)
    (hw : List.Disjoint w.labels (Value.entryLabels header))
    (hw' : List.Disjoint w.labels (Value.entryLabels (Value.relabelEntries f es)))
    (hnew : setAt w path header = some new) :
    ∃ new', setAt w path (Value.relabelEntries f es) = some new' ∧
      Header.write new' = Header.write new := by
  obtain ⟨g, hg, hgf, hmem⟩ := exists_relabel_of_labels hf es
  -- Up to labels, the entries around the value are those of the header.
  let around := Value.relabelEntries g header
  have hset : setAt (v.relabel g) path around = some (Value.relabelEntries g es) := by
    rw [setAt_uniform (Value.uniform_relabel g), h]
    rfl
  have hbare : Value.relabelEntries (fun _ => none) around =
      Value.relabelEntries (fun _ => none) header := by
    rw [Value.relabelEntries_relabelEntries]
    exact Value.relabelEntries_congr _ fun n _ => by cases g n <;> rfl
  have hnodup : (Value.entryLabels around).Nodup := by
    rw [Value.entryLabels_relabel]
    exact hu.filterMap fun a b n ha hb => hg a b n ha hb
  have hdisjoint : List.Disjoint w.labels (Value.entryLabels around) := by
    refine List.disjoint_of_subset_right (fun n hn => ?_) hw'
    rw [Value.entryLabels_relabel] at hn
    obtain ⟨m, -, hmn⟩ := List.mem_filterMap.1 hn
    rw [← hgf, Value.entryLabels_relabel]
    exact List.mem_filterMap.2 ⟨m, hmem m n hmn, hmn⟩
  rw [← hgf, setAt_setAt hset]
  cases hd : setAt w path around with
  | none =>
    have hp : path ≠ [] := by
      rintro rfl
      cases h
    have hnone := (Value.setAt_eq_none_iff hp (v.relabel g) none around).2
      ((Value.setAt_eq_none_iff hp w none around).1 hd)
    rw [hset] at hnone
    cases hnone
  | some new' =>
    obtain ⟨bare, hb, hwrite⟩ := write_setAt hu hw hnew
    obtain ⟨bare', hb', hwrite'⟩ := write_setAt hnodup hdisjoint hd
    rw [hbare, hb] at hb'
    obtain rfl := Option.some.inj hb'
    exact ⟨new', rfl, hwrite'.trans hwrite.symm⟩

end

end Entries

namespace Document

/-- What setting a field of a document does, in a run with some hashes. -/
structure FieldSet (h : Hashing) (d : Document) (dotted : String) (v : Value) (es : Entries)
    (d' : Document) : Prop where
  body : d'.body.octets = d.body.octets
  headerError : d'.headerError = none
  header : (Value.map none es).Matches (.map none d'.header)
  value : ∃ u, d'.field? dotted = .ok (some u) ∧ v.Alike u
  /-- A value that is set later replaces it: the same is written as if it had been set at once,
      but for the order in which sets list their members, and even in this order if a copy of
      the header lists them as the header itself does. -/
  again : ∀ w : Value, List.Disjoint w.labels (Value.entryLabels d.header) →
    List.Disjoint w.labels (Value.entryLabels d'.header) →
    ∃ new new', Value.EntriesReordered new new' ∧ d.setFieldIn h dotted w = d.withHeader new ∧
      d'.setFieldIn h dotted w = d.withHeader new' ∧
      ((d.header.copied h).copied h = d.header.copied h → new' = new)

section
variable {d d' : Document} {es : Entries}

/-- The document with a header that reads back. -/
theorem withHeader_of_readsBack (he : d.headerError = none) (h : Header.ReadsBack es) :
    ∃ d', d.withHeader es = .ok d' ∧ d'.path = d.path ∧ d'.headerError = none ∧
      d'.body = Body.ofOctets d.body.octets ∧ (Value.map none es).Alike (.map none d'.header) := by
  obtain ⟨es', hdecode, halike⟩ := h.decode
  have hsplit := Header.split_render h.lines d.body.octets
  have hparse : parse (Utf8.encode (Header.render es) ++ d.body.octets) d.path = .ok
      ⟨d.path, Utf8.encode (Header.render es) ++ d.body.octets, es', true, none,
        (Utf8.encode (Header.render es)).length, Body.ofOctets d.body.octets⟩ := by
    refine parse_eq_ok_iff.2 ⟨es', none, by simp only [hsplit, headerOf, hdecode], ?_⟩
    rw [hsplit, List.drop_left]
    rfl
  have hreread : d.withHeader es =
      (parse (Utf8.encode (Header.render es) ++ d.body.octets) d.path).mapError .misfit := by
    rw [withHeader, he, Header.write, if_pos h.writable]
    rfl
  rw [hparse] at hreread
  exact ⟨_, hreread, rfl, rfl, rfl, halike⟩

/-- Only the path and the body of a document count when its header is written. -/
theorem withHeader_congr {es' : Entries} (hp : d'.path = d.path)
    (hb : d'.body.octets = d.body.octets) (he : d.headerError = none) (he' : d'.headerError = none)
    (hw : Header.write es' = Header.write es) : d'.withHeader es' = d.withHeader es := by
  simp only [withHeader, he, he', hw, hb, reread, hp]

theorem splitString_ne_nil (s : String) : Text.splitString '.' s ≠ [] := by
  rw [Text.splitString, Ne, List.map_eq_nil_iff]
  exact Text.splitOn_ne_nil _ _

theorem nodup_copied (h : Hashing) (hu : (Value.entryLabels es).Nodup) :
    (Value.entryLabels (es.copied h)).Nodup :=
  (es.labels_copied h).nodup_iff.2 hu

theorem disjoint_copied (h : Hashing) {ls : List Nat} (hl : List.Disjoint ls (Value.entryLabels es)) :
    List.Disjoint ls (Value.entryLabels (es.copied h)) :=
  List.disjoint_of_subset_right (es.labels_copied h).subset hl

/-- The header in which the field is set is a copy. -/
theorem setFieldIn_of_setAt {h : Hashing} {dotted : String} {w : Value} {new : Entries}
    (hu : (d.header.copied h).Unshared (Text.splitString '.' dotted))
    (hnew : (d.header.copied h).setAt w (Text.splitString '.' dotted) = some new) :
    d.setFieldIn h dotted w = d.withHeader new := by
  rw [setFieldIn, Entries.set_of_setAt hu hnew]

/-- A value that is set in a header that was written before. -/
theorem exists_setFieldIn_again {h : Hashing} {dotted : String} {v w : Value} {new neww : Entries}
    {f : Nat → Label} (hf : ∀ a b n, f a = some n → f b = some n → a = b)
    (hu : (Value.entryLabels d.header).Nodup) (hv : List.Disjoint v.labels (Value.entryLabels d.header))
    (hnew : (d.header.copied h).setAt v (Text.splitString '.' dotted) = some new)
    (hheader : d'.header = Value.relabelEntries f new)
    (hw : List.Disjoint w.labels (Value.entryLabels d.header))
    (hw' : List.Disjoint w.labels (Value.entryLabels d'.header))
    (hneww : ((d.header.copied h).copied h).setAt w (Text.splitString '.' dotted) = some neww) :
    ∃ neww', d'.setFieldIn h dotted w = d'.withHeader neww' ∧
      Header.write neww' = Header.write neww := by
  -- the copy of what was written is what is written with a copy of the value
  have hcopied : ((d.header.copied h).copied h).setAt (v.copied h) (Text.splitString '.' dotted) =
      some (new.copied h) := by
    rw [Entries.setAt_uniform (Entries.uniform_copied h), hnew]
    rfl
  have hheader' : d'.header.copied h = Value.relabelEntries f (new.copied h) := by
    rw [hheader, Entries.copied_relabel]
  have hu' := nodup_copied h (nodup_copied h hu)
  have hv' : List.Disjoint (v.copied h).labels (Value.entryLabels ((d.header.copied h).copied h)) :=
    List.disjoint_of_subset_left (Value.labels_copied h v).subset
      (disjoint_copied h (disjoint_copied h hv))
  obtain ⟨neww', hneww', hwrite⟩ := Entries.exists_setAt_relabel hf hu' hcopied
    (disjoint_copied h (disjoint_copied h hw)) (hheader' ▸ disjoint_copied h hw') hneww
  refine ⟨neww', setFieldIn_of_setAt ?_ (hheader' ▸ hneww'), hwrite⟩
  rw [hheader']
  exact Entries.unshared_relabel hf hu' hv' hcopied

/-- What setting a field does if YAML gives back the header that is written. -/
theorem exists_fieldSet (h : Hashing) (he : d.headerError = none)
    (hu : (Value.entryLabels d.header).Nodup) {dotted : String} {v : Value}
    (hv : List.Disjoint v.labels (Value.entryLabels d.header))
    (hes : d.header.setAt v (Text.splitString '.' dotted) = some es)
    (hback : ∀ new, (d.header.copied h).setAt v (Text.splitString '.' dotted) = some new →
      Header.ReadsBack new) :
    ∃ d', d.setFieldIn h dotted v = .ok d' ∧ FieldSet h d dotted v es d' := by
  obtain ⟨new, hnew, hreordered⟩ := (d.header.reordered_copied h).exists_setAt hes
  have hset : ∀ {w neww}, (d.header.copied h).setAt w (Text.splitString '.' dotted) = some neww →
      d.setFieldIn h dotted w = d.withHeader neww :=
    setFieldIn_of_setAt fun n _ => List.nodup_iff_count_le_one.1 (nodup_copied h hu) n
  obtain ⟨d', hd', hpath, he', hbody, halike⟩ := withHeader_of_readsBack he (hback new hnew)
  have hoctets : d'.body.octets = d.body.octets := by rw [hbody, Body.octets_ofOctets]
  refine ⟨d', (hset hnew).trans hd', hoctets, he', ⟨.map none new, ⟨rfl, hreordered⟩, halike⟩, ?_,
    fun w hw hw' => ?_⟩
  all_goals
    obtain ⟨f, hf, hmap⟩ := halike
    have hheader : d'.header = Value.relabelEntries f new := (Value.map.inj hmap).2
  · refine ⟨v.relabel f, ?_, f, hf, rfl⟩
    have hrelabel := Entries.setAt_uniform (Value.uniform_relabel f) v (Text.splitString '.' dotted)
      (d.header.copied h)
    rw [hnew] at hrelabel
    rw [field?, Entries.at?, hheader]
    exact Entries.at?_setAt none hrelabel
  · cases hneww : (d.header.copied h).setAt w (Text.splitString '.' dotted) with
    | none =>
      have hp := splitString_ne_nil dotted
      have hnone := (Value.setAt_eq_none_iff hp v none _).2
        ((Value.setAt_eq_none_iff hp w none _).1 hneww)
      rw [hnew] at hnone
      cases hnone
    | some neww =>
      obtain ⟨neww', hneww', hreordered⟩ :=
        ((d.header.copied h).reordered_copied h).exists_setAt hneww
      obtain ⟨written, hwritten, hwrite⟩ :=
        exists_setFieldIn_again hf hu hv hnew hheader hw hw' hneww'
      refine ⟨neww, neww', hreordered, hset hneww,
        hwritten.trans (withHeader_congr hpath hoctets he he' hwrite), fun hsame => ?_⟩
      rw [hsame, hneww] at hneww'
      exact (Option.some.inj hneww').symm

/-- **Setting a field**, in a run with any hashes.  It fails just if a value on the way is no
    mapping; otherwise, if YAML gives back the header that is written, the document differs
    in the one field. -/
theorem setField_of_readsBack (h : Hashing) (d : Document) (he : d.headerError = none)
    (hu : (Value.entryLabels d.header).Nodup) (dotted : String) (v : Value)
    (hv : List.Disjoint v.labels (Value.entryLabels d.header))
    (hback : ∀ new, (d.header.copied h).setAt v (Text.splitString '.' dotted) = some new →
      Header.ReadsBack new) :
    ((∃ e, d.setFieldIn h dotted v = .error e) ↔
      Value.Blocked (Text.splitString '.' dotted) (.map none d.header)) ∧
    (∀ e, d.setFieldIn h dotted v = .error e → ∃ key, e = .path (.notMapping key)) ∧
    (¬Value.Blocked (Text.splitString '.' dotted) (.map none d.header) →
      ∃ es, d.header.setAt v (Text.splitString '.' dotted) = some es ∧
        ∃ d', d.setFieldIn h dotted v = .ok d' ∧ FieldSet h d dotted v es d') := by
  have hp := splitString_ne_nil dotted
  have hnone := Value.setAt_eq_none_iff hp v none d.header
  cases hes : d.header.setAt v (Text.splitString '.' dotted) with
  | none =>
    have hb := hnone.1 hes
    have hcopy : (d.header.copied h).setAt v (Text.splitString '.' dotted) = none :=
      (Value.setAt_eq_none_iff hp v none _).2 ((Value.blocked_uniform (Entries.uniform_copied h)).2 hb)
    obtain ⟨key, hk⟩ := Entries.set_of_setAt_eq_none hp hcopy
    have herror : d.setFieldIn h dotted v = .error (.path (.notMapping key)) := by rw [setFieldIn, hk]
    refine ⟨⟨fun _ => hb, fun _ => ⟨_, herror⟩⟩, fun e hd => ⟨key, ?_⟩, fun h => absurd hb h⟩
    rw [herror] at hd
    exact (Except.error.inj hd).symm
  | some es =>
    obtain ⟨d', hd', hfield⟩ := exists_fieldSet h he hu hv hes hback
    have hb : ¬Value.Blocked (Text.splitString '.' dotted) (.map none d.header) := fun h => by
      rw [hnone.2 h] at hes
      cases hes
    refine ⟨⟨fun ⟨e, hd⟩ => ?_, fun h => absurd h hb⟩, fun e hd => ?_,
      fun _ => ⟨es, rfl, d', hd', hfield⟩⟩ <;>
    · rw [hd'] at hd
      cases hd

/-- A text that has to be quoted is set in a mapping that is not there yet. -/
theorem setField_in_new_mapping :
    ∃ d, parse (Utf8.ofString "---\na: 1\n---\nx") none = .ok d ∧ d.headerError = none ∧
      (Value.entryLabels d.header).Nodup ∧ Text.splitString '.' "b.c" = ["b", "c"] ∧
      (∀ es, (d.header.copied .zero).setAt (.list none [.text "x: y"]) ["b", "c"] = some es →
        Header.ReadsBack es) ∧
      ∃ es d', d.setField "b.c" (.list none [.text "x: y"]) = .ok d' ∧
        FieldSet .zero d "b.c" (.list none [.text "x: y"]) es d' := by
  have hd : (parse (Utf8.ofString "---\na: 1\n---\nx") none).map
      (fun d => (d.headerError, d.header)) = .ok (none, [(.text "a", .int 1)]) := by decide +kernel
  have hyaml : Header.yaml [(.text "a", .int 1),
      (.text "b", .map none [(.text "c", .list none [.text "x: y"])])] =
        "a: 1\nb:\n  c:\n  - 'x: y'\n".toList := by decide +kernel
  have hdecode : Header.decode (Utf8.encode "a: 1\nb:\n  c:\n  - 'x: y'\n".toList) =
      .ok [(.text "a", .int 1), (.text "b", .map none [(.text "c", .list none [.text "x: y"])])] := by
    decide +kernel
  obtain ⟨d, hp, hd⟩ := map_eq_ok_iff.1 hd
  obtain ⟨he, hheader⟩ := Prod.mk.inj hd
  have hparts : Text.splitString '.' "b.c" = ["b", "c"] := by decide
  have hset : d.header.setAt (.list none [.text "x: y"]) ["b", "c"] =
      some [(.text "a", .int 1), (.text "b", .map none [(.text "c", .list none [.text "x: y"])])] := by
    rw [hheader]
    decide +kernel
  have hu : (Value.entryLabels d.header).Nodup := by
    rw [hheader]
    decide
  have hcopy : d.header.copied .zero = d.header := by
    rw [hheader]
    rfl
  have hback : ∀ es, (d.header.copied .zero).setAt (.list none [.text "x: y"]) ["b", "c"] = some es →
      Header.ReadsBack es := by
    intro es h
    rw [hcopy] at h
    obtain rfl := Option.some.inj (hset.symm.trans h)
    exact .of_yaml _ (by decide) hyaml (by decide +kernel) hdecode
  obtain ⟨-, -, h⟩ := setField_of_readsBack .zero d he hu "b.c" (.list none [.text "x: y"])
    (by simp [Value.labels, Value.itemLabels]) (by rw [hparts]; exact hback)
  obtain ⟨es, -, d', hd', hfield⟩ := h fun hb => by
    rw [hparts, ← Value.setAt_eq_none_iff (by simp) (.list none [.text "x: y"]), hset] at hb
    cases hb
  exact ⟨d, hp, he, hu, hparts, hback, es, d', hd', hfield⟩

/-- A header with a set that lists its members in some order. -/
def withSet (members : List Value) (p : Int) : Entries :=
  [(.text "s", .set none members), (.text "p", .int p)]

/-- What is written when the number beside a set is set. -/
theorem setField_withSet {members : List Value} {p : Int} (copies : List Value)
    (hheader : d.header = withSet members p) (hcopies : Value.copiedMembers .zero members = copies) :
    (d.header.copied .zero).setAt (.int 1) ["p"] = some (withSet copies 1) ∧
      d.setField "p" (.int 1) = d.withHeader (withSet copies 1) := by
  have hparts : Text.splitString '.' "p" = ["p"] := by decide
  have hnew : (d.header.copied .zero).setAt (.int 1) ["p"] = some (withSet copies 1) := by
    subst hcopies
    rw [hheader]
    rfl
  refine ⟨hnew, setFieldIn_of_setAt ?_ (hparts ▸ hnew)⟩
  rw [hparts]
  exact fun n hn => by cases hn

/-- A set is written in another order when its header has been written before, though YAML
    gives back both headers that are written. -/
theorem setField_reorders_set :
    ∃ d d' d'', parse (Utf8.ofString "---\ns: !!set {3, 35, 1}\np: 0\n---\n") none = .ok d ∧
      d.headerError = none ∧ Value.entryLabels d.header = [] ∧
      (d.header.copied .zero).setAt (.int 1) ["p"] = some (withSet [.int 3, .int 1, .int 35] 1) ∧
      Header.ReadsBack (withSet [.int 3, .int 1, .int 35] 1) ∧
      d.setField "p" (.int 1) = .ok d' ∧
      (d'.header.copied .zero).setAt (.int 1) ["p"] = some (withSet [.int 1, .int 3, .int 35] 1) ∧
      Header.ReadsBack (withSet [.int 1, .int 3, .int 35] 1) ∧
      d'.setField "p" (.int 1) = .ok d'' ∧ d''.raw ≠ d'.raw := by
  have h : ((parse (Utf8.ofString "---\ns: !!set {3, 35, 1}\np: 0\n---\n") none).toOption.bind fun d =>
      (d.withHeader (withSet [.int 3, .int 1, .int 35] 1)).toOption.bind fun d' =>
        (d'.withHeader (withSet [.int 1, .int 3, .int 35] 1)).toOption.map fun d'' =>
          (d.headerError, d.header, d'.header, d''.raw == d'.raw)) =
      some (none, withSet [.int 3, .int 35, .int 1] 0, withSet [.int 3, .int 1, .int 35] 1, false) := by
    decide +kernel
  simp only [Option.bind_eq_some_iff, Option.map_eq_some_iff, toOption_eq_some_iff, Prod.mk.injEq] at h
  obtain ⟨d, hd, d', hd', d'', hd'', he, hheader, hheader', hraw⟩ := h
  obtain ⟨hnew, hfirst⟩ := setField_withSet [.int 3, .int 1, .int 35] hheader (by cbv)
  obtain ⟨hnew', hsecond⟩ := setField_withSet [.int 1, .int 3, .int 35] hheader' (by cbv)
  refine ⟨d, d', d'', hd, he, by rw [hheader]; rfl, hnew, ?_, hfirst.trans hd', hnew', ?_,
    hsecond.trans hd'', by simpa using hraw⟩
  · exact .of_yaml "s: !!set\n  3: null\n  1: null\n  35: null\np: 1\n".toList (by decide)
      (by decide +kernel) (by decide +kernel) (by decide +kernel)
  · exact .of_yaml "s: !!set\n  1: null\n  3: null\n  35: null\np: 1\n".toList (by decide)
      (by decide +kernel) (by decide +kernel) (by decide +kernel)

end

end Document

end Folio
