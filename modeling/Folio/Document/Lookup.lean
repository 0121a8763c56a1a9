/-
  Folio — finding parts of a document.

  A section is found by the headings that lead to it.  The first heading may be
  that of any section, but a section at the top comes first; each further one is
  that of a child.

  * `Body.find?` finds a section, `Body.pathOf` is the path from the top to it;
  * `Body.blocksOf` are the blocks of a section and of those below it.
-/
import Folio.Document.Basic
import Folio.Yaml.Path

namespace Folio

namespace Body

/-- The first of some sections with a heading. -/
def firstNamed? (sections : List Section) (heading : String) : Option Section :=
  sections.find? (·.heading == heading)

/-- The section that the headings lead to from a section. -/
def descend? (b : Body) : List String → Section → Option Section
  | [], s => some s
  | heading :: path, s => (firstNamed? (b.children s) heading).bind (b.descend? path)

/-- The section with a path of headings. -/
def find? (b : Body) : List String → Option Section
  | [] => none
  | heading :: path =>
    ((firstNamed? b.roots heading).or (firstNamed? b.sections heading)).bind (b.descend? path)

/-- The headings from the top down to the parent of a section; `fuel` bounds how
    deep the section lies. -/
def pathAbove (b : Body) : (fuel : Nat) → Section → List String
  | 0, _ => []
  | fuel + 1, s =>
    match s.parent.bind fun i => b.sections[i]? with
    | some above => b.pathAbove fuel above ++ [above.heading]
    | none => []

/-- The headings from the top down to a section. -/
def pathOf (b : Body) (s : Section) : List String :=
  b.pathAbove b.sections.length s ++ [s.heading]

/-- The table at a place among those that a section holds itself. -/
def table? (b : Body) (s : Section) (index : Int) : Option Table :=
  if index < 0 then none else (b.tablesOf s)[index.toNat]?

/-- The blocks inside a section, those of the sections below it included; of one
    kind, or all. -/
def blocksOf (b : Body) (s : Section) (kind : Option BlockKind) : List Block :=
  b.blocks.filter fun k =>
    s.start ≤ k.start && k.start < s.stop && kind.all (· == k.kind)

/-- The text between two offsets. -/
def textBetween (b : Body) (start stop : Nat) : List Char :=
  Utf8.decode (b.octets.slice start stop)

end Body

namespace Document

/-- The value in the header at a path, whose keys are separated by points. -/
def field? (d : Document) (dotted : String) : Except NumberError (Option Value) :=
  d.header.at? (Text.splitString '.' dotted)

end Document

end Folio
