/-
  Folio — documents in another order.

  Of several documents that a name fits, a reference points at the first; so in general
  the order of documents counts.  It does not if no two paths have a name or an id in
  common (`WorkingSet.KeysApart`): a name then fits one path at most, what a reference
  points at depends on which paths there are, and so do reports and graphs.  Only the
  finding that a type has too many documents still stands at the first beyond.

  * `Reference.resolve_congr`: references, looked up in working sets of the same paths;
  * `Graph.same_in_any_order`: reports and graphs of documents in another order.
-/
import Folio.Proofs.Graph.Lookup
import Folio.Proofs.Reference.WorkingSet
import Folio.Proofs.Validation.Report

namespace Folio

/-! ## Working sets -/

namespace WorkingSet

/-- No two paths have a name or an id in common. -/
def KeysApart (w : WorkingSet) : Prop :=
  ∀ p ∈ w.paths, ∀ q ∈ w.paths, ∀ key ∈ Path.keys p, key ∈ Path.keys q → p = q

instance (w : WorkingSet) : Decidable w.KeysApart :=
  inferInstanceAs (Decidable (∀ p ∈ w.paths, ∀ q ∈ w.paths, ∀ key ∈ Path.keys p,
    key ∈ Path.keys q → p = q))

/-- The working sets have the same paths. -/
def SamePaths (w w' : WorkingSet) : Prop := ∀ path, path ∈ w.paths ↔ path ∈ w'.paths

variable {w w' : WorkingSet}

theorem KeysApart.of_samePaths (hw : w.KeysApart) (h : SamePaths w w') : w'.KeysApart :=
  fun p hp q hq => hw p ((h p).2 hp) q ((h q).2 hq)

/-- If no two paths have a key in common, a name finds the path that it is a key of. -/
theorem named?_eq_some_iff (hw : w.KeysApart) {key path : String} :
    w.named? key = some path ↔ path ∈ w.paths ∧ Text.upper key.toList ∈ Path.keys path := by
  have hfound : ∀ q, w.named? key = some q →
      q ∈ w.paths ∧ Text.upper key.toList ∈ Path.keys q := by
    intro q hq
    rw [named?_eq] at hq
    have hkey : (Path.keys q).contains (Text.upper key.toList) = true := by
      simpa using List.find?_some hq
    exact ⟨List.mem_of_find?_eq_some hq, List.contains_iff_mem.1 hkey⟩
  refine ⟨hfound path, fun ⟨hmem, hkey⟩ => ?_⟩
  obtain ⟨q, hq⟩ : ∃ q, w.named? key = some q := by
    rw [named?_eq]
    exact Option.isSome_iff_exists.1
      (List.find?_isSome.2 ⟨path, hmem, List.contains_iff_mem.2 hkey⟩)
  have hqpath : q = path :=
    hw q (hfound q hq).1 path hmem _ (hfound q hq).2 hkey
  exact hqpath ▸ hq

theorem named?_congr (hw : w.KeysApart) (h : SamePaths w w') (key : String) :
    w.named? key = w'.named? key := by
  refine Option.ext fun path => ?_
  rw [named?_eq_some_iff hw, named?_eq_some_iff (hw.of_samePaths h), h path]

theorem has_congr (h : SamePaths w w') (path : String) : w.has path = w'.has path := by
  rw [Bool.eq_iff_iff, has, has, List.contains_iff_mem, List.contains_iff_mem, h]

theorem samePaths_ofPaths {ps qs : List String} (h : ps.Perm qs) :
    SamePaths (ofPaths ps) (ofPaths qs) := by
  intro path
  rw [paths_ofPaths, paths_ofPaths, List.mem_eraseDups, List.mem_eraseDups]
  exact (h.map Path.normalized).mem_iff

end WorkingSet

/-- **References, looked up in working sets of the same paths**, none of which have a
    name or an id in common. -/
theorem Reference.resolve_congr {w w' : WorkingSet} (hw : w.KeysApart)
    (h : WorkingSet.SamePaths w w') (s : Schema) (source : Option String) (raw : String) :
    resolve s w source raw = resolve s w' source raw := by
  unfold resolve
  simp only [WorkingSet.named?_congr hw h, WorkingSet.has_congr h]

/-! ## Reports -/

namespace Scope

/-- Scopes of one schema and one directory that look all references up alike. -/
theorem related_eq {scope scope' : Scope} (hschema : scope'.schema = scope.schema)
    (hdirectory : scope'.directory = scope.directory)
    (h : ∀ source raw, Reference.resolve scope.schema scope.workingSet source raw =
      Reference.resolve scope.schema scope'.workingSet source raw) :
    Related (· = ·) (· = ·) scope scope' where
  additive := ⟨rfl, fun h h' => by rw [h, h'], fun _ _ => rfl⟩
  schema := hschema
  reference _ _ _ _ := by
    unfold refFindings
    rw [hschema, h]
  user _ _ _ := by
    unfold userFindings
    rw [hdirectory]
  field _ _ _ _ _ := by rw [hschema, h]

theorem checkDocument_congr {scope scope' : Scope} (h : Related (· = ·) (· = ·) scope scope')
    (d : Document) : scope.checkDocument d = scope'.checkDocument d := by
  have hd := related_discovered h d
  rw [checkDocument_eq, checkDocument_eq, typeOf_eq_of_schema_eq h.schema, hd.findings, hd.refs_eq]

end Scope

namespace Report

/-- The reports on several documents are those on each, but for the findings that a type
    has too many documents. -/
theorem map_without_ofDocuments (schema : Schema) (directory : Option Directory)
    (docs : List Document) : (ofDocuments schema directory docs).files.map (·.without "T010") =
      docs.map fun d => ((scopeOf schema directory docs).checkDocument d).without "T010" := by
  have hcounted := counted_ofDocuments schema directory docs
  generalize (ofDocuments schema directory docs).files = files at hcounted ⊢
  generalize scopeOf schema directory docs = scope at hcounted ⊢
  induction hcounted with
  | nil => rfl
  | cons h _ ih => rw [List.map_cons, List.map_cons, ih, h.without_eq]

theorem checkDocument_of_perm {docs docs' : List Document} (h : docs.Perm docs')
    (schema : Schema) (directory : Option Directory)
    (hkeys : (WorkingSet.ofPaths (docs.filterMap Document.path?)).KeysApart) (d : Document) :
    (scopeOf schema directory docs).checkDocument d =
      (scopeOf schema directory docs').checkDocument d := by
  have hsame := WorkingSet.samePaths_ofPaths (h.filterMap Document.path?)
  have hrelated : Scope.Related (· = ·) (· = ·) (scopeOf schema directory docs)
      (scopeOf schema directory docs') :=
    Scope.related_eq rfl rfl (Reference.resolve_congr hkeys hsame schema)
  exact Scope.checkDocument_congr hrelated d

end Report

/-! ## Graphs -/

namespace Graph

theorem nodes_of_perm {docs docs' : List Document} (h : docs.Perm docs') (schema : Schema)
    (recorded : Document → List FieldRef) (path : String) :
    path ∈ (ofDocuments schema recorded docs).nodes ↔
      path ∈ (ofDocuments schema recorded docs').nodes := by
  rw [ofDocuments, ofDocuments, List.mem_eraseDups, List.mem_eraseDups]
  exact ((h.map keyOf).map Path.normalized).mem_iff

theorem declarationsOf_congr {w w' : WorkingSet} (hw : w.KeysApart)
    (h : WorkingSet.SamePaths w w') (schema : Schema) (recorded : List FieldRef) (d : Document) :
    declarationsOf schema w recorded d = declarationsOf schema w' recorded d := by
  unfold declarationsOf headerTargets
  simp only [Reference.resolve_congr hw h]

theorem edges_of_perm {docs docs' : List Document} (h : docs.Perm docs') (schema : Schema)
    (recorded : Document → List FieldRef)
    (hkeys : (WorkingSet.ofPaths (docs.filterMap Document.path?)).KeysApart) (e : Edge) :
    e ∈ (ofDocuments schema recorded docs).edges ↔
      e ∈ (ofDocuments schema recorded docs').edges := by
  have hsame := WorkingSet.samePaths_ofPaths (h.filterMap Document.path?)
  have hdeclared : ∀ x, x ∈ (ofDocuments schema recorded docs).declared ↔
      x ∈ (ofDocuments schema recorded docs').declared := by
    intro x
    simp only [ofDocuments, List.mem_flatMap, h.mem_iff, declarationsOf_congr hkeys hsame]
  rw [mem_edges_iff, mem_edges_iff]
  exact exists_congr fun x => and_congr_left fun _ => hdeclared x

/-- **Documents in another order** have the same reports, but for the findings that a
    type has too many documents, and graphs of the same nodes and edges; the graphs are
    built from the headers and from any references that have been looked up in them.  So
    are those that take up what the reports have looked up, if these tell the documents
    by their paths. -/
theorem same_in_any_order {docs docs' : List Document} (h : docs.Perm docs')
    (hkeys : (WorkingSet.ofPaths (docs.filterMap Document.path?)).KeysApart)
    (schema : Schema) (directory : Option Directory) :
    (∃ report : Document → FileReport,
      (Report.ofDocuments schema directory docs).files.map (·.without "T010") = docs.map report ∧
      (Report.ofDocuments schema directory docs').files.map (·.without "T010") =
        docs'.map report) ∧
    (∀ recorded : Document → List FieldRef,
      (∀ path, path ∈ (ofDocuments schema recorded docs).nodes ↔
        path ∈ (ofDocuments schema recorded docs').nodes) ∧
      ∀ e, e ∈ (ofDocuments schema recorded docs).edges ↔
        e ∈ (ofDocuments schema recorded docs').edges) ∧
    ((docs.map Document.shownPath).Nodup →
      ∀ e, e ∈ (ofReport schema directory docs).edges ↔
        e ∈ (ofReport schema directory docs').edges) := by
  refine ⟨⟨fun d => ((Report.scopeOf schema directory docs).checkDocument d).without "T010",
    Report.map_without_ofDocuments schema directory docs, ?_⟩, fun recorded =>
    ⟨nodes_of_perm h schema recorded, edges_of_perm h schema recorded hkeys⟩, fun hpaths e => ?_⟩
  · rw [Report.map_without_ofDocuments]
    simp only [Report.checkDocument_of_perm h schema directory hkeys]
  · have hpaths' : (docs'.map Document.shownPath).Nodup := (h.map _).nodup_iff.1 hpaths
    rw [edges_ofReport_of_nodup hpaths, edges_ofReport_of_nodup hpaths']
    exact edges_of_perm h schema _ hkeys e

/-- Notes, of which there can be one, that see others by their names. -/
def indexSchema : Schema :=
  { types := [{ name := "n", maxCount := some 1, fields := noteSchema.types.flatMap (·.fields) }]
    relations := noteSchema.relations
    rules := [⟨"string-id", .byName, ⟨".", [], .seq .any .empty⟩⟩] }

/-- A note with a path. -/
def noteAt (path target : String) : Document :=
  { noteOf target with path := some path, bodyOffset := 22 + target.length }

/-- Two notes that see each other, the second one by an id. -/
def twoNotes : List Document := [noteAt "x/AB-1-one" "two", noteAt "y/two" "ab-1"]

/-- Whichever note comes second is one too many; the edges stay. -/
theorem same_in_any_order_reversed :
    Schema.ofSource ("relation \"see\" cardinality=\"one\"\ntype \"n\" max_count=1\n" ++
        "ref-format \x7b\n  string-id pattern=\".\"\n\x7d\n") = .ok indexSchema ∧
      twoNotes.mapM (fun d => Document.parse d.raw d.path) = .ok twoNotes ∧
      (∀ docs ∈ [twoNotes, twoNotes.reverse],
        (Report.ofDocuments indexSchema none docs).files.map (fun r => r.errors.map (·.code)) =
          [[], ["T010"]]) ∧
      (ofReport indexSchema none twoNotes).edges =
        [⟨"x/AB-1-one", "see", "y/two"⟩, ⟨"y/two", "see", "x/AB-1-one"⟩] ∧
      twoNotes.Perm twoNotes.reverse ∧
      (WorkingSet.ofPaths (twoNotes.filterMap Document.path?)).KeysApart ∧
      (∃ report : Document → FileReport,
        (Report.ofDocuments indexSchema none twoNotes).files.map (·.without "T010") =
          twoNotes.map report ∧
        (Report.ofDocuments indexSchema none twoNotes.reverse).files.map (·.without "T010") =
          twoNotes.reverse.map report) ∧
      ∀ e, e ∈ (ofReport indexSchema none twoNotes).edges ↔
        e ∈ (ofReport indexSchema none twoNotes.reverse).edges := by
  have hperm : twoNotes.Perm twoNotes.reverse := (List.reverse_perm twoNotes).symm
  have hkeys : (WorkingSet.ofPaths (twoNotes.filterMap Document.path?)).KeysApart := by
    decide +kernel
  obtain ⟨hreports, -, hedges⟩ := same_in_any_order hperm hkeys indexSchema none
  refine ⟨by decide +kernel, by decide +kernel, ?_, by decide +kernel, hperm, hkeys, hreports,
    hedges (by decide)⟩
  intro docs hdocs
  obtain rfl | rfl := List.mem_pair.1 hdocs
  · decide +kernel
  · decide +kernel

end Graph

end Folio
