/-
  Folio — questions to a graph.

  A question names a document, or its path.

  * `Graph.outgoing` and `Graph.incoming` are the edges of a document;
  * `Graph.transitive` are the documents within some steps of a document;
  * `Graph.components` are the parts of the graph that no edge connects.
-/
import Folio.Graph.Basic
import Folio.Graph.Sweep

namespace Folio

/-- The way in which edges are followed. -/
inductive Direction where
  | outgoing
  | incoming
  deriving Repr, DecidableEq

namespace Direction

/-- The direction with a name. -/
def ofName? : String → Option Direction
  | "outgoing" => some outgoing
  | "incoming" => some incoming
  | _ => none

/-- What a message says of a name that is none of a direction. -/
def unknownMessage (name : String) : String :=
  "unknown direction " ++ Text.quotedString name ++ ", expected outgoing or incoming"

/-- The ends of an edge, in the order in which a direction comes to them. -/
def ends : Direction → Edge → String × String
  | outgoing, e => (e.source, e.target)
  | incoming, e => (e.target, e.source)

end Direction

/-- What a question to a graph is about: a document, or what has a path. -/
inductive DocRef where
  | document (d : Document)
  | path (p : String)

namespace DocRef

instance : Coe Document DocRef := ⟨document⟩

instance : Coe String DocRef := ⟨path⟩

/-- The path that it is told by in a graph. -/
def key : DocRef → String
  | document d => Graph.keyOf d
  | path p => Path.normalized p

end DocRef

namespace Graph

/-! ## Edges of a document -/

/-- The edges, filed under the ends that a direction comes to first. -/
def index (g : Graph) (direction : Direction) : Links String Edge :=
  .ofPairs (g.edges.map fun e => ((direction.ends e).1, e))

/-- The edges from a document. -/
def outgoing (g : Graph) (doc : DocRef) : List Edge := (g.index .outgoing).next doc.key

/-- The edges to a document. -/
def incoming (g : Graph) (doc : DocRef) : List Edge := (g.index .incoming).next doc.key

/-! ## Steps along edges -/

/-- The links that edges make, followed in a direction. -/
def links (g : Graph) (direction : Direction) : Links String := .ofPairs (g.edges.map direction.ends)

/-- The documents that at most so many steps lead to from a document, which is
    not one of them. -/
def transitive (g : Graph) (direction : Direction) (depth : Int) (path : String) :
    List String :=
  let start := Path.normalized path
  (Sweep.run (g.links direction) (fun _ => true) (some depth) (.start start)).met.filter (· != start)

/-- The documents without edges. -/
def orphans (g : Graph) : List String :=
  let edges := g.edges
  g.nodes.filter fun n => edges.all fun e => e.source != n && e.target != n

/-! ## Components -/

/-- The links that edges make, followed in both directions. -/
def linksBothWays (g : Graph) : Links String :=
  .ofPairs (g.edges.flatMap fun e => [(e.source, e.target), (e.target, e.source)])

/-- May a sweep enter a document?  It must be one of the graph's, and not have been
    seen. -/
def isFree (g : Graph) (seen : List String) (path : String) : Bool :=
  g.nodes.contains path && !seen.contains path

/-- The components of documents that are in none of those seen. -/
def componentsFrom (g : Graph) (links : Links String) (seen : List String) :
    List String → List (List String)
  | [] => []
  | n :: ns =>
    if seen.contains n then g.componentsFrom links seen ns
    else
      let component := (Sweep.run links (g.isFree seen) none (.start n)).met
      component :: g.componentsFrom links (seen ++ component) ns

/-- The components, each from its first document on, nearest first. -/
def components (g : Graph) : List (List String) := g.componentsFrom g.linksBothWays [] g.nodes

end Graph

end Folio
