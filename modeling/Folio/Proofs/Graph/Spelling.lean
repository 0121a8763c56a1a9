/-
  Folio — paths that are written in other ways.

  A path can be written in many ways: with dots, with pairs of dots that take a
  component back, with slashes more.  A document is told by the normal form of its path,
  but what it refers to is seen from its directory as it is written.  If the path ends in
  an ordinary name, that directory has one normal form however it is written
  (`Path.normalized_join_directory`), so references point at the same documents.

  * `Document.Respelled`: a document under another way to write its path;
  * `Graph.ofHeaders_of_respelled`: the graph of documents does not depend on how their
    paths are written.
-/
import Folio.Proofs.Graph.Nodes
import Folio.Proofs.Graph.Order
import Folio.Proofs.Path.Directory

namespace Folio

/-- Two ways to write one path that ends in an ordinary name. -/
structure Path.Respelled (p q : String) : Prop where
  left : EndsInName p
  right : EndsInName q
  normalized : normalized p = normalized q

theorem Path.EndsInName.ne_empty {p : String} (h : EndsInName p) : p ≠ "" := by
  rintro rfl
  exact absurd h (by decide)

/-- One document, its path written in one way or another. -/
structure Document.Respelled (d d' : Document) : Prop where
  content : d' = { d with path := d'.path }
  path : d.path = d'.path ∨
    ∃ p q, d.path = some p ∧ d'.path = some q ∧ Path.Respelled p q

/-! ## References -/

theorem Reference.resolve_of_respelled {p q : String} (h : Path.Respelled p q) (s : Schema)
    (w : WorkingSet) (raw : String) : resolve s w (some p) raw = resolve s w (some q) raw := by
  have hseen := Path.normalized_join_directory h.left h.right h.normalized raw
  unfold resolve
  simp only [Option.map_some, Option.getD_some, hseen]

namespace Document.Respelled

variable {d d' : Document}

theorem resolve_eq (h : d.Respelled d') (s : Schema) (w : WorkingSet) (raw : String) :
    Reference.resolve s w d.path raw = Reference.resolve s w d'.path raw := by
  rcases h.path with hpath | ⟨p, q, hp, hq, hpq⟩
  · rw [hpath]
  · rw [hp, hq, Reference.resolve_of_respelled hpq]

theorem path?_eq (h : d.Respelled d') :
    d.path?.map Path.normalized = d'.path?.map Path.normalized := by
  rcases h.path with hpath | ⟨p, q, hp, hq, hpq⟩
  · unfold Document.path?
    rw [hpath]
  · rw [path?_of_ne_empty hp hpq.left.ne_empty, path?_of_ne_empty hq hpq.right.ne_empty,
      Option.map_some, Option.map_some, hpq.normalized]

theorem keyOf_eq (h : d.Respelled d') : Graph.keyOf d = Graph.keyOf d' := by
  rcases h.path with hpath | ⟨p, q, hp, hq, hpq⟩
  · unfold Graph.keyOf Document.shownPath
    rw [hpath]
  · rw [Graph.keyOf_of_path? (path?_of_ne_empty hp hpq.left.ne_empty),
      Graph.keyOf_of_path? (path?_of_ne_empty hq hpq.right.ne_empty), hpq.normalized]

theorem headerTargets_eq (h : d.Respelled d') (schema : Schema) (w : WorkingSet) :
    Graph.headerTargets schema w d = Graph.headerTargets schema w d' := by
  have hheader : d'.header = d.header := by rw [h.content]
  have herror : d'.headerError = d.headerError := by rw [h.content]
  unfold Graph.headerTargets
  simp only [hheader, herror, h.resolve_eq]

theorem declarationsOf_eq (h : d.Respelled d') (schema : Schema) (w : WorkingSet)
    (recorded : List FieldRef) :
    Graph.declarationsOf schema w recorded d = Graph.declarationsOf schema w recorded d' := by
  unfold Graph.declarationsOf
  rw [h.headerTargets_eq, h.keyOf_eq]

end Document.Respelled

/-! ## Lists of documents -/

theorem map_eq_map_of_forall₂ {α β γ : Type} {R : α → β → Prop} {f : α → γ} {g : β → γ}
    {xs : List α} {ys : List β} (h : List.Forall₂ R xs ys) (hfg : ∀ a b, R a b → f a = g b) :
    xs.map f = ys.map g := by
  induction h with
  | nil => rfl
  | cons hab _ ih => rw [List.map_cons, List.map_cons, hfg _ _ hab, ih]

variable {docs docs' : List Document}

/-- The working set does not depend on how paths are written. -/
theorem WorkingSet.ofPaths_of_respelled (h : List.Forall₂ Document.Respelled docs docs') :
    ofPaths (docs.filterMap Document.path?) = ofPaths (docs'.filterMap Document.path?) := by
  have hpaths : (docs.filterMap Document.path?).map Path.normalized =
      (docs'.filterMap Document.path?).map Path.normalized := by
    have hnormal := map_eq_map_of_forall₂ h fun _ _ hd => hd.path?_eq
    have hfound : ∀ ds : List Document, (ds.filterMap Document.path?).map Path.normalized =
        (ds.map fun d => d.path?.map Path.normalized).filterMap id := by
      intro ds
      rw [List.map_filterMap, List.filterMap_map]
      rfl
    rw [hfound, hfound, hnormal]
  have hsame : (ofPaths (docs.filterMap Document.path?)).paths =
      (ofPaths (docs'.filterMap Document.path?)).paths := by
    rw [paths_ofPaths, paths_ofPaths, hpaths]
  exact congrArg WorkingSet.mk hsame

namespace Graph

/-- **The graph of documents does not depend on how their paths are written**, as long as
    each ends in an ordinary name: it has the same documents and the same declarations,
    and so the same edges. -/
theorem ofHeaders_of_respelled (h : List.Forall₂ Document.Respelled docs docs') (schema : Schema) :
    (ofHeaders schema docs).nodes = (ofHeaders schema docs').nodes ∧
      (ofHeaders schema docs).declared = (ofHeaders schema docs').declared ∧
      (ofHeaders schema docs).edges = (ofHeaders schema docs').edges := by
  have hnodes : (ofHeaders schema docs).nodes = (ofHeaders schema docs').nodes := by
    unfold ofHeaders
    rw [nodes_ofDocuments, nodes_ofDocuments, map_eq_map_of_forall₂ h fun _ _ hd => hd.keyOf_eq]
  have hdeclared : (ofHeaders schema docs).declared = (ofHeaders schema docs').declared := by
    unfold ofHeaders ofDocuments
    dsimp only
    rw [WorkingSet.ofPaths_of_respelled h, List.flatMap_def, List.flatMap_def,
      map_eq_map_of_forall₂ h fun _ _ hd => hd.declarationsOf_eq _ _ _]
  have hedges : (ofHeaders schema docs).edges = (ofHeaders schema docs').edges := by
    unfold edges
    rw [hdeclared]
    rfl
  exact ⟨hnodes, hdeclared, hedges⟩

/-- Two notes, the first of which sees the second one from its directory. -/
def notesAt (first second : String) : List Document := [noteAt first "../y/b", noteAt second "c"]

/-- The note still sees the other one where both paths are written in other ways. -/
theorem ofHeaders_of_respelled_notes :
    (notesAt "x/a" "y/b").mapM (fun d => Document.parse d.raw d.path) = .ok (notesAt "x/a" "y/b") ∧
      List.Forall₂ Document.Respelled (notesAt "x/a" "y/b") (notesAt "./x/z/../a" "y//b") ∧
      (ofHeaders noteSchema (notesAt "./x/z/../a" "y//b")).nodes = ["x/a", "y/b"] ∧
      (ofHeaders noteSchema (notesAt "./x/z/../a" "y//b")).edges = [⟨"x/a", "see", "y/b"⟩] := by
  have hfirst : Path.Respelled "x/a" "./x/z/../a" := ⟨by decide, by decide, by decide +kernel⟩
  have hsecond : Path.Respelled "y/b" "y//b" := ⟨by decide, by decide, by decide +kernel⟩
  have hnotes : List.Forall₂ Document.Respelled (notesAt "x/a" "y/b") (notesAt "./x/z/../a" "y//b") :=
    .cons ⟨rfl, Or.inr ⟨_, _, rfl, rfl, hfirst⟩⟩ (.cons ⟨rfl, Or.inr ⟨_, _, rfl, rfl, hsecond⟩⟩ .nil)
  obtain ⟨hnodes, -, hedges⟩ := ofHeaders_of_respelled hnotes noteSchema
  exact ⟨by decide +kernel, hnotes, hnodes.symm.trans (by decide +kernel),
    hedges.symm.trans (by decide +kernel)⟩

end Graph

end Folio
