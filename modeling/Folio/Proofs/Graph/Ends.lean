/-
  Folio — the ends of edges.

  The documents of a graph come by three ways: as those it is built of, as those that
  declare edges, and as those that references point at.  All three give normal forms of
  the same paths, so edges stay among the documents of the graph (`Graph.IsClosed`), also
  those of documents without a path, which all go by one name.

  A graph files its edges under their ends.  What it answers for a document are the edges
  that have the document as their end, however the document is named
  (`Document.NamedBy`); only an empty path names another place, the current directory.

  * `Graph.next_index`: what is filed under a path;
  * `Graph.isClosed_ofDocuments`: the graph of some documents, with and without a report.
-/
import Folio.Proofs.Graph.Order
import Folio.Proofs.Graph.Transitive

namespace Folio

/-- Ways to name a document to a graph: the document, its path in normal form, and its
    path, unless it is empty. -/
inductive Document.NamedBy (d : Document) : DocRef → Prop
  | itself : NamedBy d (.document d)
  | key : NamedBy d (.path (Graph.keyOf d))
  | path {p : String} : d.path = some p → p ≠ "" → NamedBy d (.path p)

theorem Document.NamedBy.key_eq {d : Document} {doc : DocRef} (h : d.NamedBy doc) :
    doc.key = Graph.keyOf d := by
  cases h with
  | itself => rfl
  | key => exact Path.normalized_normalized d.shownPath
  | path hp hne => exact (Graph.keyOf_of_path? (path?_of_ne_empty hp hne)).symm

namespace Graph

/-! ## Edges of a document -/

/-- What is filed under a path are the edges that a direction comes to there first. -/
theorem next_index (g : Graph) (direction : Direction) (path : String) :
    (g.index direction).next path = g.edges.filter fun e => path = (direction.ends e).1 := by
  rw [index, Links.next_ofPairs, List.filter_map, List.map_map]
  exact List.map_id _

theorem mem_outgoing_iff {g : Graph} {doc : DocRef} {e : Edge} :
    e ∈ g.outgoing doc ↔ e ∈ g.edges ∧ e.source = doc.key := by
  rw [outgoing, next_index, List.mem_filter, decide_eq_true_eq, eq_comm]
  rfl

theorem mem_incoming_iff {g : Graph} {doc : DocRef} {e : Edge} :
    e ∈ g.incoming doc ↔ e ∈ g.edges ∧ e.target = doc.key := by
  rw [incoming, next_index, List.mem_filter, decide_eq_true_eq, eq_comm]
  rfl

/-! ## Graphs of documents -/

/-- A graph of some documents: its documents are these, in normal form and each once, its
    edges stay among them and come once each, and it tells the edges of each document. -/
structure IsClosed (g : Graph) (docs : List Document) : Prop where
  mem_nodes : ∀ n, n ∈ g.nodes ↔ ∃ d ∈ docs, keyOf d = n
  normalized : ∀ n ∈ g.nodes, Path.normalized n = n
  nodup_nodes : g.nodes.Nodup
  nodup_edges : g.edges.Nodup
  ends : ∀ e ∈ g.edges, e.source ∈ g.nodes ∧ e.target ∈ g.nodes
  outgoing : ∀ d ∈ docs, ∀ doc, d.NamedBy doc →
    ∀ e, e ∈ g.outgoing doc ↔ e ∈ g.edges ∧ e.source = keyOf d
  incoming : ∀ d ∈ docs, ∀ doc, d.NamedBy doc →
    ∀ e, e ∈ g.incoming doc ↔ e ∈ g.edges ∧ e.target = keyOf d

variable {schema : Schema} {recorded : Document → List FieldRef} {docs : List Document}

/-- A graph of documents is closed if its edges are among those that headers declare. -/
theorem isClosed_of_subset
    (h : ∀ e ∈ (ofDocuments schema recorded docs).edges, e ∈ (ofHeaders schema docs).edges) :
    (ofDocuments schema recorded docs).IsClosed docs where
  mem_nodes _ := mem_nodes_iff
  normalized _ := normalized_of_mem_nodes
  nodup_nodes := nodup_nodes
  nodup_edges := nodup_eraseDups _
  ends e he := mem_nodes_of_points ⟨e.relation, h e he⟩
  outgoing d _ doc hdoc e := by rw [mem_outgoing_iff, hdoc.key_eq]
  incoming d _ doc hdoc e := by rw [mem_incoming_iff, hdoc.key_eq]

/-- **A graph of documents is closed**, whether it is built from the headers alone or
    takes up what a report on the same documents has looked up. -/
theorem isClosed_ofDocuments (schema : Schema) (directory : Option Directory)
    (docs : List Document) :
    (ofHeaders schema docs).IsClosed docs ∧ (ofReport schema directory docs).IsClosed docs :=
  ⟨isClosed_of_subset fun _ he => he, isClosed_of_subset fun _ he => edges_ofReport_subset he⟩

/-- Two notes, the first of which sees the second one. -/
def seeingNotes : List Document := [noteAt "./a" "b", noteAt "b" "c"]

/-- However the note that sees the other one is named, its edge is told. -/
theorem outgoing_of_seeingNotes :
    seeingNotes.mapM (fun d => Document.parse d.raw d.path) = .ok seeingNotes ∧
      (∀ doc ∈ [DocRef.document (noteAt "./a" "b"), .path "a", .path "./a"],
        (noteAt "./a" "b").NamedBy doc ∧
          ∀ e, e ∈ (ofHeaders noteSchema seeingNotes).outgoing doc ↔ e = ⟨"a", "see", "b"⟩) := by
  have hedges : (ofHeaders noteSchema seeingNotes).edges = [⟨"a", "see", "b"⟩] := by decide +kernel
  have hkey : keyOf (noteAt "./a" "b") = "a" := by decide
  obtain ⟨hclosed, -⟩ := isClosed_ofDocuments noteSchema none seeingNotes
  have htold : ∀ doc, (noteAt "./a" "b").NamedBy doc →
      ∀ e, e ∈ (ofHeaders noteSchema seeingNotes).outgoing doc ↔ e = ⟨"a", "see", "b"⟩ := by
    intro doc hdoc e
    rw [hclosed.outgoing _ List.mem_cons_self doc hdoc, hedges, List.mem_singleton]
    refine and_iff_left_of_imp fun he => ?_
    rw [he, hkey]
  refine ⟨by decide +kernel, fun doc hdoc => ?_⟩
  have hnamed : (noteAt "./a" "b").NamedBy doc := by
    simp only [List.mem_cons, List.not_mem_nil, or_false] at hdoc
    rcases hdoc with rfl | rfl | rfl
    · exact .itself
    · exact hkey ▸ .key
    · exact .path rfl (by decide)
  exact ⟨hnamed, htold doc hnamed⟩

/-- **An empty path names another place** than the document that has it, which counts as
    one without a path. -/
theorem outgoing_misses_empty_path :
    [noteAt "" "a", noteAt "a" "c"].mapM (fun d => Document.parse d.raw d.path) =
        .ok [noteAt "" "a", noteAt "a" "c"] ∧
      (ofHeaders noteSchema [noteAt "" "a", noteAt "a" "c"]).outgoing (noteAt "" "a") =
        [⟨"<string>", "see", "a"⟩] ∧
      (noteAt "" "a").path = some "" ∧
      (ofHeaders noteSchema [noteAt "" "a", noteAt "a" "c"]).outgoing "" = [] := by
  refine ⟨by decide +kernel, by decide +kernel, rfl, by decide +kernel⟩

end Graph

end Folio
