/-
  Folio — the health of a graph.

  * `Graph.health` lists what is odd about a graph as a whole.
-/
import Folio.Graph.Cycle
import Folio.Graph.Query

namespace Folio

/-- Something odd about a graph. -/
inductive Diagnostic where
  | selfReference (edge : Edge)
  /-- A cycle along a relation that must have none. -/
  | cycle (relation : String) (path : List String)
  /-- A document without edges. -/
  | orphan (path : String)
  /-- The graph has several parts that no edge connects. -/
  | parts (components : List (List String))
  deriving Repr, DecidableEq

namespace Diagnostic

/-- The code of a diagnostic. -/
def code : Diagnostic → String
  | cycle .. => "G010"
  | selfReference _ => "G011"
  | orphan _ => "G020"
  | parts _ => "G021"

/-- How bad a diagnostic is. -/
def severity : Diagnostic → String
  | cycle .. => "error"
  | selfReference _ | parts _ => "warning"
  | orphan _ => "info"

/-- Is the diagnostic an error? -/
def isError : Diagnostic → Bool
  | cycle .. => true
  | _ => false

/-- A component as messages show it: its first documents only, if it has many. -/
def componentText (component : List String) : String :=
  if component.length ≤ 3 then ", ".intercalate component
  else
    ", ".intercalate (component.take 2) ++ ", ... (" ++ toString component.length ++ " nodes)"

/-- What a message says of a diagnostic. -/
def message : Diagnostic → String
  | selfReference e => e.source ++ " has self-reference via '" ++ e.relation ++ "'"
  | cycle relation path =>
    "cycle detected in acyclic relation '" ++ relation ++ "': " ++ " -> ".intercalate path
  | orphan path => path ++ " is an orphan (no incoming or outgoing edges)"
  | parts components =>
    "graph has " ++ toString components.length ++ " disconnected components: [" ++
      "] [".intercalate (components.map componentText) ++ "]"

end Diagnostic

/-- What is odd about a graph. -/
def Graph.health (g : Graph) : List Diagnostic :=
  let components := g.components
  g.selfReferences.map .selfReference ++
    g.cycles.map (fun (relation, path) => .cycle relation path) ++
    g.orphans.map .orphan ++
    (if 1 < components.length then [.parts components] else [])

end Folio
