/-
  Folio — the sections, tables and blocks of a body.

  The pieces of a body are taken in order, and a `Draft` holds what is known so
  far: the sections, those of them that are still open, and the tables and
  blocks, each with the innermost open section as its owner.  A heading closes
  the open sections of its level and of deeper ones, which end where it starts.

  The links go both ways: a section knows its parent and its children, and a
  table its owner and the owner its tables.  Each link is made when its later
  end is met.
-/
import Folio.Body.Piece

namespace Folio

/-! ## Parts of a body -/

/-- A heading and the part of the body it governs. -/
structure Section where
  heading : String
  /-- From 1, the highest, to 6. -/
  level : Nat
  /-- The offset of the heading line. -/
  headingStart : Nat
  /-- The offset after the heading line. -/
  start : Nat
  /-- The offset where the section ends. -/
  stop : Nat
  /-- Its place among the sections of the body. -/
  index : Nat
  /-- The place of the section it is part of. -/
  parent : Option Nat
  /-- The places of the sections directly below it. -/
  children : List Nat
  /-- The places of the tables that it holds itself. -/
  tables : List Nat
  deriving Repr, DecidableEq

/-- The kinds of blocks. -/
inductive BlockKind where
  | paragraph
  | listItem
  | code
  | table
  deriving Repr, DecidableEq

/-- A part of the content that has no parts of its own. -/
structure Block where
  kind : BlockKind
  start : Nat
  stop : Nat
  /-- The section that holds it. -/
  owner : Option Nat
  /-- What the opening fence of a code block says. -/
  info : String := ""
  /-- Is it the first item of a list? -/
  opensList : Bool := false
  deriving Repr, DecidableEq

/-- A text with its sections, tables and blocks, each in the order of their
    first octets. -/
structure Body where
  octets : Octets
  sections : List Section
  tables : List Table
  blocks : List Block
  deriving Repr, DecidableEq

namespace Body

/-! ## Drafts -/

/-- A section that no heading has closed. -/
structure Opened where
  index : Nat
  level : Nat
  deriving Repr, DecidableEq

/-- What is known of a body after some of its pieces; tables and blocks are
    latest first. -/
structure Draft where
  /-- The length of the body. -/
  total : Nat
  /-- The sections; one that is open is taken to reach to the end of the body. -/
  sections : Array Section
  /-- The open sections, innermost first. -/
  opened : List Opened
  tables : List Table
  blocks : List Block
  /-- May the next line of text continue the latest block? -/
  growing : Bool
  deriving Repr

namespace Draft

/-- What is known before the first piece of a body of some length. -/
def empty (total : Nat) : Draft := ⟨total, #[], [], [], [], false⟩

/-- The innermost open section. -/
def owner (d : Draft) : Option Nat := d.opened.head?.map (·.index)

/-- The open sections that a heading of a level closes. -/
def closed (d : Draft) (level : Nat) : List Opened := d.opened.takeWhile (level ≤ ·.level)

/-- The open sections that a heading of a level is part of. -/
def around (d : Draft) (level : Nat) : List Opened := d.opened.dropWhile (level ≤ ·.level)

/-- The section that a heading of a level is directly part of. -/
def parent? (d : Draft) (level : Nat) : Option Nat := (d.around level).head?.map (·.index)

/-- The sections with some of them stopping at an offset. -/
def close (stop : Nat) (closed : List Opened) (sections : Array Section) : Array Section :=
  closed.foldl (fun ss o => ss.modify o.index fun s => { s with stop }) sections

/-- The sections with a change to the one at a place, if a place is given. -/
def amend (place : Option Nat) (change : Section → Section) (sections : Array Section) :
    Array Section :=
  match place with
  | some i => sections.modify i change
  | none => sections

/-- A heading closes the sections that it is not part of and opens its own, which
    is a child of the innermost section left. -/
def addHeading (d : Draft) (level : Nat) (heading : String) (headingStart start : Nat) : Draft :=
  let index := d.sections.size
  let parent := d.parent? level
  let sections := amend parent (fun s => { s with children := s.children ++ [index] })
    (close headingStart (d.closed level) d.sections)
  { d with
    sections := sections.push
      { heading, level, headingStart, start, stop := d.total, index, parent
        children := [], tables := [] }
    opened := ⟨index, level⟩ :: d.around level
    growing := false }

/-- A block of the innermost open section. -/
def addBlock (d : Draft) (kind : BlockKind) (start stop : Nat) (growing : Bool)
    (info : String := "") (opensList : Bool := false) : Draft :=
  { d with
    blocks := { kind, start, stop, owner := d.owner, info, opensList } :: d.blocks
    growing }

/-- A table of the innermost open section. -/
def addTable (d : Draft) (t : Table) : Draft :=
  let place := d.tables.length
  let d' : Draft :=
    { d with
      sections := amend d.owner (fun s => { s with tables := s.tables ++ [place] }) d.sections
      tables := { t with owner := d.owner } :: d.tables }
  d'.addBlock .table t.start t.stop false

/-- An item opens a list unless the latest block is an item of the same
    section. -/
def addItem (d : Draft) (start stop : Nat) : Draft :=
  let continued := d.blocks.head?.any fun b => b.kind == .listItem && b.owner == d.owner
  d.addBlock .listItem start stop true "" (!continued)

/-- The latest block reaches up to `stop`. -/
def grow (d : Draft) (stop : Nat) : Draft :=
  match d.blocks with
  | [] => d
  | b :: blocks => { d with blocks := { b with stop } :: blocks, growing := true }

/-- Does a line of text continue the latest block?  A paragraph or an item that
    no blank line or other piece has ended goes on with any text; an ended item
    goes on with indented text. -/
def takes (d : Draft) (indented : Bool) : Bool :=
  d.growing || (indented && d.blocks.head?.any (·.kind == .listItem))

/-- What is known with one piece more. -/
def add (d : Draft) : Piece → Draft
  | .blank => { d with growing := false }
  | .heading level title headingStart start => d.addHeading level title headingStart start
  | .code info start stop => d.addBlock .code start stop false info
  | .table t => d.addTable t
  | .item start stop => d.addItem start stop
  | .text indented start stop =>
    if d.takes indented then d.grow stop else d.addBlock .paragraph start stop true

/-- What is known after all pieces of a body of some length. -/
def ofPieces (total : Nat) (pieces : List Piece) : Draft := pieces.foldl add (empty total)

end Draft

/-- The body that a text is. -/
def ofOctets (s : Octets) : Body :=
  let draft := Draft.ofPieces s.length (Piece.ofLines s.length (Line.ofOctets s))
  { octets := s
    sections := draft.sections.toList
    tables := draft.tables.reverse
    blocks := draft.blocks.reverse }

@[simp] theorem octets_ofOctets (s : Octets) : (ofOctets s).octets = s := rfl

/-! ## Following the links -/

/-- The sections that are part of no other. -/
def roots (b : Body) : List Section := b.sections.filter (·.parent.isNone)

/-- The sections directly below a section. -/
def children (b : Body) (s : Section) : List Section :=
  s.children.filterMap (b.sections[·]?)

/-- The places of the tables that a section holds itself. -/
def tableIndices (b : Body) (s : Section) : List Nat :=
  s.tables.filter (· < b.tables.length)

/-- The tables that a section holds itself. -/
def tablesOf (b : Body) (s : Section) : List Table :=
  s.tables.filterMap (b.tables[·]?)

end Body

end Folio
