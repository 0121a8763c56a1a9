/-
  Folio — the graph with and without a report.

  A graph can be built from the headers alone (`Graph.ofHeaders`) or take up what
  a report has looked up (`Graph.ofReport`).  The report tells documents by their
  paths, and of documents with one path it gives the references of the last; so a
  field that the last one has references in counts for all of them, and what the
  others say there is lost (`Graph.Overruled`).

  * `mem_declared_ofReport`: what the graph with a report declares;
  * `edges_ofReport_iff`: when it has the edges of the graph without one;
  * `edges_ofReport_of_nodup`: it has if no two documents share a path.
-/
import Mathlib
import Folio.Proofs.Validation.FieldRefs
import Folio.Schema.Compile

namespace Folio

namespace Report

/-! ## References by path -/

/-- What tells documents and their references in a report. -/
def keyed (files : List FileReport) : List (String × List FieldRef) :=
  files.map fun f => (f.path, f.refs)

/-- Findings of a report do not touch its references. -/
theorem keyed_withExcess (schema : Schema) (files before rest : List FileReport) :
    keyed (withExcess schema files before rest) = keyed rest := by
  induction rest generalizing before with
  | nil => rfl
  | cons r rest ih =>
    unfold withExcess
    unfold keyed at ih ⊢
    rw [List.map_cons, List.map_cons, ih]
    split <;> rfl

/-- The references that a report gives for a path are those of the last document
    with it. -/
theorem refsOf_ofDocuments (schema : Schema) (directory : Option Directory) (docs : List Document)
    (path : String) : (ofDocuments schema directory docs).refsOf path =
      ((docs.filter (·.shownPath == path)).getLast?.map fun d =>
        ((scopeOf schema directory docs).checkDocument d).refs).getD [] := by
  have hkeyed : ∀ files : List FileReport,
      ((files.filter (·.path == path)).getLast?.map (·.refs)).getD [] =
        (((keyed files).filter (·.1 == path)).getLast?.map (·.2)).getD [] := by
    intro files
    rw [keyed, List.filter_map, List.getLast?_map, Option.map_map]
    rfl
  have hrefs : (ofDocuments schema directory docs).refsOf path =
      (((ofDocuments schema directory docs).files.filter (·.path == path)).getLast?.map
        (·.refs)).getD [] := by
    unfold refsOf
    split
    · next h => rw [h]; rfl
    · next h => rw [h]; rfl
  rw [hrefs, hkeyed, ofDocuments, keyed_withExcess, ← hkeyed, List.filter_map, List.getLast?_map,
    Option.map_map]
  rfl

end Report

namespace Graph

/-- The graph of some documents that takes up what a report on them looks up. -/
def ofReport (schema : Schema) (directory : Option Directory) (docs : List Document) : Graph :=
  ofDocuments schema (fun d => (Report.ofDocuments schema directory docs).refsOf d.shownPath) docs

/-- The graph of some documents from their headers alone. -/
def ofHeaders (schema : Schema) (docs : List Document) : Graph := ofDocuments schema (fun _ => []) docs

/-- The documents that one of some documents points at, and the fields in which it
    does. -/
def targetsIn (schema : Schema) (docs : List Document) (d : Document) : List (String × String) :=
  headerTargets schema (.ofPaths (docs.filterMap Document.path?)) d

/-- The last of the documents that have the path of a document. -/
def lastOf? (docs : List Document) (d : Document) : Option Document :=
  (docs.filter (·.shownPath == d.shownPath)).getLast?

/-- What a document says in a field is lost: a later one with its path has
    references there, and a report looks them up. -/
def Overruled (scope : Scope) (docs : List Document) (d : Document) (field : String) : Prop :=
  ∃ l, lastOf? docs d = some l ∧ l ≠ d ∧ scope.LooksUp l field

/-! ## The last document with a path -/

section
variable {docs : List Document} {d l : Document}

theorem mem_of_lastOf? (h : lastOf? docs d = some l) : l ∈ docs ∧ l.shownPath = d.shownPath := by
  obtain ⟨hm, hp⟩ := List.mem_filter.1 (List.mem_of_getLast? h)
  exact ⟨hm, beq_iff_eq.1 hp⟩

theorem exists_lastOf? (h : d ∈ docs) : ∃ l, lastOf? docs d = some l := by
  have hm : d ∈ docs.filter (·.shownPath == d.shownPath) := List.mem_filter.2 ⟨h, beq_self_eq_true _⟩
  exact ⟨_, List.getLast?_eq_getLast_of_ne_nil (List.ne_nil_of_mem hm)⟩

/-- The last document with a path is the last one for itself. -/
theorem lastOf?_self (h : lastOf? docs d = some l) : lastOf? docs l = some l := by
  rw [lastOf?, (mem_of_lastOf? h).2]; exact h

end

/-! ## Declarations -/

section
variable {schema : Schema} {w : WorkingSet} {d : Document} {field target : String}

theorem mem_headerTargets_iff : (field, target) ∈ headerTargets schema w d ↔
    d.headerError = none ∧ field ∈ schema.relationFields ∧
      ∃ s ∈ textsOf (d.header.get? field),
        (Reference.resolve schema w d.path s).target? = some target := by
  unfold headerTargets
  cases he : d.headerError with
  | some e => simp
  | none =>
    simp only [Option.isSome_none, Bool.false_eq_true, ↓reduceIte, List.mem_flatMap,
      List.mem_filterMap, Option.map_eq_some_iff, Prod.mk.injEq, true_and]
    constructor
    · rintro ⟨_, hf, s, hs, _, ht, rfl, rfl⟩; exact ⟨hf, s, hs, ht⟩
    · rintro ⟨hf, s, hs, ht⟩; exact ⟨_, hf, s, hs, _, ht, rfl, rfl⟩

theorem mem_recordedTargets_iff {refs : List FieldRef} :
    (field, target) ∈ recordedTargets schema refs ↔ field ∈ schema.relationFields ∧
      ∃ r ∈ refs, r.field = field ∧ r.ref.target? = some target := by
  unfold recordedTargets
  rw [List.mem_filterMap]
  constructor
  · rintro ⟨r, hr, ht⟩
    split at ht
    · next hf =>
      obtain ⟨t, ht, he⟩ := Option.map_eq_some_iff.1 ht
      cases he
      exact ⟨List.contains_iff_mem.1 hf, r, hr, rfl, ht⟩
    · cases ht
  · rintro ⟨hf, r, hr, rfl, ht⟩
    exact ⟨r, hr, by rw [if_pos (List.contains_iff_mem.2 hf), ht]; rfl⟩

theorem mem_declarationsOf_iff {refs : List FieldRef} {x : Declaration} :
    x ∈ declarationsOf schema w refs d ↔ x.source = keyOf d ∧
      ((x.field, x.target) ∈ recordedTargets schema refs ∨
        (x.field, x.target) ∈ headerTargets schema w d ∧ x.field ∉ recordedFields schema refs) := by
  have ht : ∀ t : String × String, t ∈ recordedTargets schema refs ++
      (headerTargets schema w d).filter (fun t => !(recordedFields schema refs).contains t.1) ↔
        t ∈ recordedTargets schema refs ∨
          t ∈ headerTargets schema w d ∧ t.1 ∉ recordedFields schema refs := by
    intro t
    rw [List.mem_append, List.mem_filter, Bool.not_eq_true', ← Bool.not_eq_true,
      List.contains_iff_mem]
  constructor
  · intro hx
    obtain ⟨t, hm, rfl⟩ := List.mem_map.1 hx
    exact ⟨rfl, (ht t).1 hm⟩
  · rintro ⟨hs, hm⟩
    refine List.mem_map.2 ⟨(x.field, x.target), (ht _).2 hm, ?_⟩
    rw [← hs]

theorem mem_recordedFields_iff {refs : List FieldRef} :
    field ∈ recordedFields schema refs ↔
      field ∈ refs.map (·.field) ∧ field ∈ schema.relationFields := by
  rw [recordedFields, List.mem_filter, List.contains_iff_mem]

end

section
variable {schema : Schema} {directory : Option Directory} {docs : List Document} {x : Declaration}

theorem mem_declared_ofHeaders : x ∈ (ofHeaders schema docs).declared ↔ ∃ d ∈ docs,
    x.source = keyOf d ∧
      (x.field, x.target) ∈ targetsIn schema docs d := by
  unfold ofHeaders ofDocuments
  dsimp only
  rw [List.mem_flatMap]
  refine exists_congr fun d => and_congr_right fun _ => ?_
  rw [mem_declarationsOf_iff]
  refine and_congr_right fun _ => ?_
  simp [recordedTargets, recordedFields, targetsIn]

/-- The declarations of a document with the references of another: the other
    counts in the fields that a report looks up in it. -/
theorem mem_declarationsOf_report_iff (scope : Scope) {d l : Document} :
    x ∈ declarationsOf scope.schema scope.workingSet (scope.checkDocument l).refs d ↔
      x.source = keyOf d ∧
        ((scope.LooksUp l x.field ∧
            (x.field, x.target) ∈ headerTargets scope.schema scope.workingSet l) ∨
          (¬ scope.LooksUp l x.field ∧
            (x.field, x.target) ∈ headerTargets scope.schema scope.workingSet d)) := by
  rw [mem_declarationsOf_iff]
  refine and_congr_right fun _ => or_congr ?_ ?_
  · rw [mem_recordedTargets_iff]
    constructor
    · rintro ⟨hf, r, hr, hfield, ht⟩
      have hl : scope.LooksUp l x.field :=
        (Scope.mem_fields_iff_looksUp scope l).1 (List.mem_map.2 ⟨r, hr, hfield⟩)
      have he : l.headerError = none := by
        have h := hl.1
        rw [Document.hasSoundHeader, Bool.and_eq_true] at h
        exact Option.isNone_iff_eq_none.1 h.1
      exact ⟨hl, mem_headerTargets_iff.2
        ⟨he, hf, (Scope.exists_ref_iff_of_looksUp scope l hl).1 ⟨r, hr, hfield, ht⟩⟩⟩
    · rintro ⟨hl, ht⟩
      obtain ⟨-, hf, hs⟩ := mem_headerTargets_iff.1 ht
      exact ⟨hf, (Scope.exists_ref_iff_of_looksUp scope l hl).2 hs⟩
  · rw [mem_recordedFields_iff, Scope.mem_fields_iff_looksUp, and_comm]
    refine and_congr_left fun ht => ?_
    have hf := (mem_headerTargets_iff.1 ht).2.1
    exact not_congr (and_iff_left hf)

/-- A report gives a document the references of the last one with its path. -/
theorem mem_declarationsOf_lastOf?_iff {d l : Document} (hl : lastOf? docs d = some l) :
    x ∈ declarationsOf schema (.ofPaths (docs.filterMap Document.path?))
        ((Report.ofDocuments schema directory docs).refsOf d.shownPath) d ↔
      x.source = keyOf d ∧
        (((Report.scopeOf schema directory docs).LooksUp l x.field ∧
            (x.field, x.target) ∈ targetsIn schema docs l) ∨
          (¬ (Report.scopeOf schema directory docs).LooksUp l x.field ∧
            (x.field, x.target) ∈ targetsIn schema docs d)) := by
  rw [Report.refsOf_ofDocuments, ← lastOf?, hl]
  exact mem_declarationsOf_report_iff (Report.scopeOf schema directory docs)

/-- **What the graph with a report declares**: all that headers do, but what is
    overruled. -/
theorem mem_declared_ofReport : x ∈ (ofReport schema directory docs).declared ↔ ∃ d ∈ docs,
    x.source = keyOf d ∧
      (x.field, x.target) ∈ targetsIn schema docs d ∧
      ¬ Overruled (Report.scopeOf schema directory docs) docs d x.field := by
  unfold ofReport ofDocuments
  dsimp only
  rw [List.mem_flatMap]
  constructor
  · rintro ⟨d, hd, hx⟩
    obtain ⟨l, hl⟩ := exists_lastOf? hd
    obtain ⟨hsource, ⟨-, ht⟩ | ⟨hno, ht⟩⟩ := (mem_declarationsOf_lastOf?_iff hl).1 hx
    · -- the last document with the path declares the same
      obtain ⟨hm, hp⟩ := mem_of_lastOf? hl
      refine ⟨l, hm, by rw [hsource, keyOf, keyOf, hp], ht, ?_⟩
      rintro ⟨l', hl', hne, -⟩
      rw [lastOf?_self hl] at hl'
      exact hne (Option.some.inj hl').symm
    · refine ⟨d, hd, hsource, ht, ?_⟩
      rintro ⟨l', hl', -, hlook⟩
      rw [hl] at hl'
      cases hl'
      exact hno hlook
  · rintro ⟨d, hd, hsource, ht, hover⟩
    obtain ⟨l, hl⟩ := exists_lastOf? hd
    refine ⟨d, hd, (mem_declarationsOf_lastOf?_iff hl).2 ⟨hsource, ?_⟩⟩
    by_cases hlook : (Report.scopeOf schema directory docs).LooksUp l x.field
    · have hld : l = d := by
        by_contra hne
        exact hover ⟨l, hl, hne, hlook⟩
      exact Or.inl ⟨hlook, hld ▸ ht⟩
    · exact Or.inr ⟨hlook, ht⟩

/-! ## Edges -/

theorem mem_edges_iff {g : Graph} {e : Edge} :
    e ∈ g.edges ↔ ∃ x ∈ g.declared, edgeOf? g.schema x = some e := by
  rw [edges, List.mem_eraseDups, List.mem_filterMap]

theorem name_or_inverse_of_mem_fields {r : Schema.Relation} {field : String}
    (h : field ∈ r.fields.map (·.1)) : r.name = field ∨ r.inverse = some field := by
  unfold Schema.Relation.fields at h
  rcases List.mem_cons.1 h with h | h
  · exact Or.inl h.symm
  · split at h
    · next name hi =>
      split at h
      · cases h
      · exact Or.inr (by rw [hi, List.mem_singleton.1 h])
    · cases h

/-- A declaration in a field of a relation means an edge. -/
theorem exists_edgeOf? {source field target : String} (h : field ∈ schema.relationFields) :
    ∃ e, edgeOf? schema ⟨source, field, target⟩ = some e := by
  obtain ⟨r, hr, hf⟩ := List.mem_flatMap.1 h
  have hfound : (schema.relation? field).isSome = true := by
    rw [Schema.relation?, List.findSome?_isSome_iff]
    refine ⟨r, hr, ?_⟩
    split
    · rfl
    · next hn =>
      rw [if_pos ((name_or_inverse_of_mem_fields hf).resolve_left hn)]; rfl
  unfold edgeOf?
  obtain ⟨⟨r', backwards⟩, hr'⟩ := Option.isSome_iff_exists.1 hfound
  rw [hr']
  cases backwards <;> exact ⟨_, rfl⟩

/-- A report adds no edges. -/
theorem edges_ofReport_subset {e : Edge} (he : e ∈ (ofReport schema directory docs).edges) :
    e ∈ (ofHeaders schema docs).edges := by
  obtain ⟨x, hx, hxe⟩ := mem_edges_iff.1 he
  obtain ⟨d, hd, hsource, ht, -⟩ := mem_declared_ofReport.1 hx
  exact mem_edges_iff.2 ⟨x, mem_declared_ofHeaders.2 ⟨d, hd, hsource, ht⟩, hxe⟩

/-- The edges that declarations mean which are not overruled. -/
theorem mem_edges_ofReport {d : Document} {field target : String} {e : Edge} (hd : d ∈ docs)
    (ht : (field, target) ∈ targetsIn schema docs d)
    (hover : ¬ Overruled (Report.scopeOf schema directory docs) docs d field)
    (he : edgeOf? schema ⟨keyOf d, field, target⟩ = some e) :
    e ∈ (ofReport schema directory docs).edges :=
  mem_edges_iff.2 ⟨_, mem_declared_ofReport.2 ⟨d, hd, rfl, ht, hover⟩, he⟩

/-- **A report leaves the edges as they are if no two documents share a path.** -/
theorem edges_ofReport_of_nodup (h : (docs.map Document.shownPath).Nodup) (e : Edge) :
    e ∈ (ofReport schema directory docs).edges ↔ e ∈ (ofHeaders schema docs).edges := by
  refine ⟨edges_ofReport_subset, fun he => ?_⟩
  obtain ⟨⟨source, field, target⟩, hx, hxe⟩ := mem_edges_iff.1 he
  obtain ⟨d, hd, rfl, ht⟩ := mem_declared_ofHeaders.1 hx
  refine mem_edges_ofReport hd ht ?_ hxe
  rintro ⟨l, hl, hne, -⟩
  obtain ⟨hm, hp⟩ := mem_of_lastOf? hl
  exact hne (List.inj_on_of_nodup_map h hm hd hp)

/-- **When a report leaves the edges as they are.**  It never adds any; it loses none
    just if what is overruled is declared elsewhere too. -/
theorem edges_ofReport_iff (schema : Schema) (directory : Option Directory) (docs : List Document) :
    (∀ e ∈ (ofReport schema directory docs).edges, e ∈ (ofHeaders schema docs).edges) ∧
    ((∀ e, e ∈ (ofReport schema directory docs).edges ↔ e ∈ (ofHeaders schema docs).edges) ↔
      ∀ d ∈ docs, ∀ field target, (field, target) ∈ targetsIn schema docs d →
        Overruled (Report.scopeOf schema directory docs) docs d field →
        ∃ d' ∈ docs, ∃ field' target', (field', target') ∈ targetsIn schema docs d' ∧
          ¬ Overruled (Report.scopeOf schema directory docs) docs d' field' ∧
          edgeOf? schema ⟨keyOf d', field', target'⟩ = edgeOf? schema ⟨keyOf d, field, target⟩) := by
  refine ⟨fun _ => edges_ofReport_subset, ?_, ?_⟩
  · intro hsame d hd field target ht _
    obtain ⟨e, he⟩ : ∃ e, edgeOf? schema ⟨keyOf d, field, target⟩ = some e :=
      exists_edgeOf? (mem_headerTargets_iff.1 ht).2.1
    have hmem : e ∈ (ofHeaders schema docs).edges :=
      mem_edges_iff.2 ⟨_, mem_declared_ofHeaders.2 ⟨d, hd, rfl, ht⟩, he⟩
    obtain ⟨⟨source', field', target'⟩, hx, hxe⟩ := mem_edges_iff.1 ((hsame e).2 hmem)
    obtain ⟨d', hd', rfl, ht', hover'⟩ := mem_declared_ofReport.1 hx
    exact ⟨d', hd', field', target', ht', hover', hxe.trans he.symm⟩
  · intro hlost e
    refine ⟨edges_ofReport_subset, fun he => ?_⟩
    obtain ⟨⟨source, field, target⟩, hx, hxe⟩ := mem_edges_iff.1 he
    obtain ⟨d, hd, rfl, ht⟩ := mem_declared_ofHeaders.1 hx
    by_cases hover : Overruled (Report.scopeOf schema directory docs) docs d field
    · obtain ⟨d', hd', field', target', ht', hover', heq⟩ := hlost d hd field target ht hover
      exact mem_edges_ofReport hd' ht' hover' (heq.trans hxe)
    · exact mem_edges_ofReport hd ht hover hxe

/-- Notes, each of which sees one document at most. -/
def noteSchema : Schema :=
  { types := [{ name := "n", fields := [{ name := "see", kind := .ref, relation := some "see" }] }]
    relations := [{ name := "see", many := false }]
    rules := [⟨"relative-path", .byPath, ⟨".", [], .seq .any .empty⟩⟩] }

/-- A note without a path. -/
def noteOf (target : String) : Document :=
  { path := none
    raw := Utf8.ofString ("---\ntype: n\nsee: " ++ target ++ "\n---\n")
    header := [(.text "type", .text "n"), (.text "see", .text target)]
    hasHeader := true
    headerError := none
    bodyOffset := 23
    body := Body.ofOctets [] }

/-- **Edges that a report loses**: of two notes without a path the first sees
    nothing any more. -/
theorem edges_lost_without_paths :
    Schema.ofSource ("relation \"see\" cardinality=\"one\"\ntype \"n\"\n" ++
        "ref-format \x7b\n  relative-path pattern=\".\"\n\x7d\n") = .ok noteSchema ∧
      Document.parse (noteOf "a").raw none = .ok (noteOf "a") ∧
      Document.parse (noteOf "b").raw none = .ok (noteOf "b") ∧
      ∃ a b : Document, Document.parse [] (some "a") = .ok a ∧ Document.parse [] (some "b") = .ok b ∧
        (ofHeaders noteSchema [noteOf "a", noteOf "b", a, b]).edges =
          [⟨"<string>", "see", "a"⟩, ⟨"<string>", "see", "b"⟩] ∧
        (ofReport noteSchema none [noteOf "a", noteOf "b", a, b]).edges =
          [⟨"<string>", "see", "b"⟩] := by
  refine ⟨by decide +kernel, by decide +kernel, by decide +kernel, _, _, rfl, rfl,
    by decide +kernel, by decide +kernel⟩

end

end Graph

end Folio
