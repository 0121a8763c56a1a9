/-
  Folio — outlines.

  The outline of a body is the tree of its headings, each with the tables that its
  section holds itself, without any offsets.
-/
import Folio.Document.Basic

namespace Folio

/-- A heading with its tables and the outlines below it. -/
inductive Outline where
  | mk (heading : String) (level : Nat) (tables : List (List String × List Row))
    (children : List Outline)
  deriving Repr

namespace Outline

/-- The outline of a section; `fuel` bounds how deep sections lie in each
    other. -/
def ofSection (b : Body) : (fuel : Nat) → Section → Outline
  | 0, s => .mk s.heading s.level [] []
  | fuel + 1, s =>
    .mk s.heading s.level ((b.tablesOf s).map fun t => (t.columns, t.rows))
      ((b.children s).map (ofSection b fuel))

/-- The outline of a body: that of each section at the top. -/
def ofBody (b : Body) : List Outline :=
  b.roots.map (ofSection b (b.sections.length + 1))

end Outline

end Folio
