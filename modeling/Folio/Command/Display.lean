/-
  Folio — what commands show.

  Answers are written as JSON.  A value of a header is shown as what JSON has for
  it, or else as its text.

  * `Value.json` is a value as JSON, unless a key or an integer in it cannot be
    shown.
-/
import Folio.Document.Outline
import Folio.Graph.Health
import Folio.Json.Tree
import Folio.Yaml.Display
import Folio.Yaml.Form

namespace Folio

/-- Why a value is not shown. -/
inductive DisplayError where
  /-- A key that is no scalar that JSON has. -/
  | key
  /-- An integer without a text. -/
  | number (e : NumberError)
  deriving Repr, DecidableEq

/-! ## Values -/

/-- What is shown of a value if all integers in it have texts. -/
def Value.ifWritable {α : Type} (v : Value) (shown : α) : Except DisplayError α :=
  if v.isWritable then .ok shown else .error (.number .longText)

/-- The text of a key, if it is a scalar that JSON has. -/
def Value.jsonKey (key : Value) : Except DisplayError String :=
  match key with
  | .null => .ok "null"
  | .bool b => .ok (JsonTree.boolText b)
  | .int i => key.ifWritable (String.ofList (intText i))
  | .float x => .ok (String.ofList (FloatLayout.json.write x))
  | .text s => .ok s
  | _ => .error .key

mutual

/-- A value as JSON. -/
def Value.json : Value → Except DisplayError JsonTree
  | .null => .ok .null
  | .bool b => .ok (.bool b)
  | .int i => Value.ifWritable (.int i) (.int i)
  | .float x => .ok (.float x)
  | .text s => .ok (.text s)
  | .list _ items => return .list (← Value.jsonItems items)
  | .map _ es => return .object (← Value.jsonMembers es)
  | .pair a b => return .list [← Value.json a, ← Value.json b]
  | v => v.ifWritable (.text v.plainText)

/-- Each of some values as JSON. -/
def Value.jsonItems : List Value → Except DisplayError (List JsonTree)
  | [] => .ok []
  | v :: vs => return (← Value.json v) :: (← Value.jsonItems vs)

/-- The entries of a mapping as members. -/
def Value.jsonMembers : List (Value × Value) → Except DisplayError (List (String × JsonTree))
  | [] => .ok []
  | (key, v) :: es => return (← key.jsonKey, ← Value.json v) :: (← Value.jsonMembers es)

end

/-! ## Outlines -/

/-- A row as JSON. -/
def Row.json (r : Row) : JsonTree := .object (r.map fun (column, cell) => (column, .text cell))

mutual

/-- An outline as JSON. -/
def Outline.json : Outline → JsonTree
  | .mk heading level tables children =>
    .object
      [("heading", .text heading), ("level", .int level),
        ("tables", .list (tables.map fun (columns, rows) =>
          .object [("columns", .texts columns), ("rows", .list (rows.map Row.json))])),
        ("children", .list (Outline.jsonItems children))]

/-- Each of some outlines as JSON. -/
def Outline.jsonItems : List Outline → List JsonTree
  | [] => []
  | o :: os => o.json :: Outline.jsonItems os

end

/-- The header and the outline of a document as JSON. -/
def Document.json (d : Document) : Except DisplayError JsonTree :=
  (Value.jsonMembers d.header).map fun header =>
    .object
      [("path", .ofText? d.path), ("header", .object header),
        ("header_error", .ofText? (d.headerError.map (·.full))),
        ("sections", .list (Outline.jsonItems (Outline.ofBody d.body)))]

/-! ## Graphs -/

/-- An edge as JSON. -/
def Edge.json (e : Edge) : JsonTree :=
  .object [("source", .text e.source), ("relation", .text e.relation), ("target", .text e.target)]

/-- Does an edge come before another, or is it the same?  Edges are ordered by
    relation, then by source, then by target. -/
def Edge.notAfter (e f : Edge) : Bool :=
  if e.relation ≠ f.relation then e.relation ≤ f.relation
  else if e.source ≠ f.source then e.source ≤ f.source
  else e.target ≤ f.target

/-- Edges as JSON, in order. -/
def Edge.listJson (es : List Edge) : JsonTree := .list ((es.mergeSort Edge.notAfter).map Edge.json)

/-- A diagnostic as JSON. -/
def Diagnostic.json (d : Diagnostic) : JsonTree :=
  .object [("code", .text d.code), ("severity", .text d.severity), ("message", .text d.message)]

namespace Graph

/-- The edges of a document as JSON. -/
def refsJson (g : Graph) (file : String) : JsonTree :=
  .object
    [("path", .text (Path.normalized file)), ("outgoing", Edge.listJson (g.outgoing file)),
      ("incoming", Edge.listJson (g.incoming file))]

/-- The edges and the cycles of a graph as JSON. -/
def edgesJson (g : Graph) : JsonTree :=
  .object
    [("edges", Edge.listJson g.edges),
      ("cycles", .list (g.cycles.map fun (relation, path) =>
        .object [("relation", .text relation), ("path", .texts path)]))]

/-- The declarations that a graph lacks as JSON. -/
def missingJson (g : Graph) : JsonTree :=
  .object
    [("missing_inverses", .list (g.missingInverses.map fun d =>
      .object [("path", .text d.source), ("field", .text d.field), ("target", .text d.target)]))]

/-- What is odd about a graph as JSON. -/
def healthJson (g : Graph) : JsonTree :=
  let diagnostics := g.health
  .object
    [("diagnostics", .list (diagnostics.map Diagnostic.json)),
      ("count", .int diagnostics.length)]

end Graph

end Folio
