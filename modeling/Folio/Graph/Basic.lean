/-
  Folio — the graph of documents.

  A document declares edges in the fields of its header that belong to relations.
  A field that reads a relation backwards declares an edge the other way, so one
  edge may be declared from both ends.

  * `Graph.ofDocuments` is the graph of some documents;
  * `Graph.edges` are the edges, each once, and `Graph.missingInverses` the
    declarations that the other ends lack.
-/
import Folio.Validation.Report

namespace Folio

/-- An edge as a header declares it. -/
structure Declaration where
  source : String
  field : String
  target : String
  deriving Repr, DecidableEq

/-- An edge of a relation. -/
structure Edge where
  source : String
  relation : String
  target : String
  deriving Repr, DecidableEq

/-- Documents and the edges that they declare. -/
structure Graph where
  schema : Schema
  /-- The paths of the documents, each once. -/
  nodes : List String
  declared : List Declaration

namespace Graph

/-! ## Building -/

/-- The path that a document is told by in a graph. -/
def keyOf (d : Document) : String := Path.normalized d.shownPath

/-- The texts of a field, as a list or alone. -/
def textsOf : Option Value → List String
  | some (.list _ items) => items.filterMap fun
    | .text s => some s
    | _ => none
  | some (.text s) => [s]
  | _ => []

/-- The fields of relations in a header, each with a document that it points
    at. -/
def headerTargets (schema : Schema) (w : WorkingSet) (d : Document) : List (String × String) :=
  if d.headerError.isSome then []
  else
    schema.relationFields.flatMap fun field =>
      (textsOf (d.header.get? field)).filterMap fun raw =>
        (Reference.resolve schema w d.path raw).target?.map (field, ·)

/-- The fields of relations among references that have been looked up. -/
def recordedFields (schema : Schema) (refs : List FieldRef) : List String :=
  (refs.map (·.field)).filter schema.relationFields.contains

/-- What references that have been looked up declare. -/
def recordedTargets (schema : Schema) (refs : List FieldRef) : List (String × String) :=
  refs.filterMap fun r =>
    if schema.relationFields.contains r.field then r.ref.target?.map (r.field, ·) else none

/-- The declarations of a document.  What has been looked up is not looked up
    again. -/
def declarationsOf (schema : Schema) (w : WorkingSet) (recorded : List FieldRef)
    (d : Document) : List Declaration :=
  let fields := recordedFields schema recorded
  let targets := recordedTargets schema recorded ++
    (headerTargets schema w d).filter fun t => !fields.contains t.1
  targets.map fun (field, target) => ⟨keyOf d, field, target⟩

/-- The graph of some documents, given the references that have been looked up
    in each. -/
def ofDocuments (schema : Schema) (recorded : Document → List FieldRef)
    (docs : List Document) : Graph :=
  let w := WorkingSet.ofPaths (docs.filterMap Document.path?)
  { schema
    nodes := ((docs.map keyOf).map Path.normalized).eraseDups
    declared := docs.flatMap fun d => declarationsOf schema w (recorded d) d }

/-! ## Edges -/

/-- The edge that a declaration means, if its field belongs to a relation. -/
def edgeOf? (schema : Schema) (d : Declaration) : Option Edge :=
  match schema.relation? d.field with
  | none => none
  | some (r, false) => some ⟨d.source, r.name, d.target⟩
  | some (r, true) => some ⟨d.target, r.name, d.source⟩

/-- The edges, each once, in the order of their first declarations. -/
def edges (g : Graph) : List Edge := (g.declared.filterMap (edgeOf? g.schema)).eraseDups

/-- The edges from a document to itself. -/
def selfReferences (g : Graph) : List Edge := g.edges.filter fun e => e.source == e.target

/-- The declaration that the other end of an edge would make. -/
def inverseOf? (schema : Schema) (d : Declaration) : Option Declaration :=
  match schema.relation? d.field with
  | none => none
  | some (r, false) => r.inverse.map fun field => ⟨d.target, field, d.source⟩
  | some (r, true) => some ⟨d.target, r.name, d.source⟩

/-- The declarations that other ends of edges would make and do not make, each
    once. -/
def missingInverses (g : Graph) : List Declaration :=
  ((g.declared.filterMap (inverseOf? g.schema)).filter (!g.declared.contains ·)).eraseDups

end Graph

end Folio
