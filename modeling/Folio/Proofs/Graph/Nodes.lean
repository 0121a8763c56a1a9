/-
  Folio — the documents of a graph.

  A graph tells documents by the normal forms of their paths, and takes each once.  What
  a reference points at is a path of the working set, which are these; so the edges that
  headers declare lead from documents of the graph to documents of the graph.

  * `Graph.mem_nodes_iff`, `Graph.nodup_nodes`: the documents of a graph;
  * `Graph.mem_nodes_of_points`: the ends of edges.
-/
import Folio.Proofs.Graph.Lookup
import Folio.Proofs.Reference.WorkingSet

namespace Folio

theorem nodup_eraseDups {α : Type} [BEq α] [LawfulBEq α] : (xs : List α) → xs.eraseDups.Nodup
  | [] => List.nodup_nil
  | x :: xs => by
    rw [List.eraseDups_cons]
    refine List.nodup_cons.2 ⟨fun h => ?_, nodup_eraseDups (xs.filter fun y => !y == x)⟩
    have hx := List.mem_filter.1 (List.mem_eraseDups.1 h)
    simp at hx
termination_by xs => xs.length
decreasing_by exact Nat.lt_succ_of_le (List.length_filter_le _ _)

theorem Document.path?_of_ne_empty {d : Document} {path : String} (h : d.path = some path)
    (hne : path ≠ "") : d.path? = some path := by
  rw [path?, h, Option.filter_eq_some_iff]
  exact ⟨rfl, by simpa using hne⟩

namespace Graph

variable {schema : Schema} {recorded : Document → List FieldRef} {docs : List Document}

/-! ## Nodes -/

/-- What documents are told by is in normal form already. -/
theorem nodes_ofDocuments : (ofDocuments schema recorded docs).nodes = (docs.map keyOf).eraseDups := by
  have hkey : ∀ d, Path.normalized (keyOf d) = keyOf d := fun d => Path.normalized_normalized d.shownPath
  simp only [ofDocuments, List.map_map, Function.comp_def, hkey]

theorem mem_nodes_iff {n : String} :
    n ∈ (ofDocuments schema recorded docs).nodes ↔ ∃ d ∈ docs, keyOf d = n := by
  rw [nodes_ofDocuments, List.mem_eraseDups, List.mem_map]

theorem nodup_nodes : (ofDocuments schema recorded docs).nodes.Nodup := nodup_eraseDups _

/-- The documents of a graph are told by normal forms. -/
theorem normalized_of_mem_nodes {n : String} (h : n ∈ (ofDocuments schema recorded docs).nodes) :
    Path.normalized n = n := by
  obtain ⟨d, -, rfl⟩ := mem_nodes_iff.1 h
  exact Path.normalized_normalized d.shownPath

theorem shownPath_of_path? {d : Document} {path : String} (h : d.path? = some path) :
    d.shownPath = path := by
  obtain ⟨hpath, hne⟩ := Option.filter_eq_some_iff.1 h
  have hempty : path.isEmpty = false := by simpa using hne
  simp [Document.shownPath, hpath, hempty]

theorem keyOf_of_path? {d : Document} {path : String} (h : d.path? = some path) :
    keyOf d = Path.normalized path := by
  rw [keyOf, shownPath_of_path? h]

/-- The paths that references can point at are those of documents of the graph. -/
theorem mem_nodes_of_mem_paths {path : String}
    (h : path ∈ (WorkingSet.ofPaths (docs.filterMap Document.path?)).paths) :
    path ∈ (ofDocuments schema recorded docs).nodes := by
  rw [WorkingSet.paths_ofPaths, List.mem_eraseDups, List.mem_map] at h
  obtain ⟨p, hp, rfl⟩ := h
  obtain ⟨d, hd, hpath⟩ := List.mem_filterMap.1 hp
  exact mem_nodes_iff.2 ⟨d, hd, keyOf_of_path? hpath⟩

/-! ## Ends of edges -/

/-- An edge points from one document to the other. -/
def Points (g : Graph) (a b : String) : Prop := ∃ relation, ⟨a, relation, b⟩ ∈ g.edges

/-- The edge that a declaration means, by the relation that its field belongs to. -/
theorem edgeOf?_eq_some_iff {x : Declaration} {e : Edge} : edgeOf? schema x = some e ↔
    ∃ r, (schema.relation? x.field = some (r, false) ∧ e = ⟨x.source, r.name, x.target⟩) ∨
      (schema.relation? x.field = some (r, true) ∧ e = ⟨x.target, r.name, x.source⟩) := by
  unfold edgeOf?
  constructor
  · intro h
    split at h
    · cases h
    · next r hr => cases h; exact ⟨r, Or.inl ⟨hr, rfl⟩⟩
    · next r hr => cases h; exact ⟨r, Or.inr ⟨hr, rfl⟩⟩
  · rintro ⟨r, ⟨hr, rfl⟩ | ⟨hr, rfl⟩⟩
    · rw [hr]
    · rw [hr]

/-- **The edges that headers declare lead from documents of the graph to documents of the
    graph.** -/
theorem mem_nodes_of_points {a b : String} (h : (ofHeaders schema docs).Points a b) :
    a ∈ (ofHeaders schema docs).nodes ∧ b ∈ (ofHeaders schema docs).nodes := by
  obtain ⟨relation, he⟩ := h
  obtain ⟨x, hx, hxe⟩ := mem_edges_iff.1 he
  obtain ⟨d, hd, hsource, htarget⟩ := mem_declared_ofHeaders.1 hx
  obtain ⟨-, -, s, -, hs⟩ := mem_headerTargets_iff.1 htarget
  have hsource' : x.source ∈ (ofHeaders schema docs).nodes := mem_nodes_iff.2 ⟨d, hd, hsource.symm⟩
  have htarget' : x.target ∈ (ofHeaders schema docs).nodes :=
    mem_nodes_of_mem_paths (Reference.mem_paths_of_target? hs)
  obtain ⟨r, ⟨-, he⟩ | ⟨-, he⟩⟩ := edgeOf?_eq_some_iff.1 hxe
  · cases he
    exact ⟨hsource', htarget'⟩
  · cases he
    exact ⟨htarget', hsource'⟩

end Graph

end Folio
