/-
  Folio — the pieces of a body.

  A piece is what one line, or a run of lines that belong together whatever is
  around them, contributes to a body: a heading, a code block between fences, a
  table, the first line of a list item, a line of text, a blank line.  Cutting a
  body into pieces needs no memory: each line is tried for a fence, a heading, a
  table and a list item, in this order.

  * `Piece.ofLines` is the cutting.
-/
import Folio.Body.Table

namespace Folio

/-- A piece of a body, with the offsets where it starts and stops. -/
inductive Piece where
  /-- A line without text. -/
  | blank
  /-- A heading line. -/
  | heading (level : Nat) (title : String) (start stop : Nat)
  /-- A code block, its fences included. -/
  | code (info : String) (start stop : Nat)
  /-- A table. -/
  | table (t : Table)
  /-- The first line of a list item. -/
  | item (start stop : Nat)
  /-- Any other line; an indented one may continue a list item. -/
  | text (indented : Bool) (start stop : Nat)
  deriving Repr, DecidableEq

namespace Piece

/-- The piece of a line that is neither blank nor part of a longer piece. -/
def ofLine (l : Line) : Piece :=
  if ListItem.opens l.text then .item l.start l.stop
  else .text (ListItem.continues l.text) l.start l.stop

/-- The lines after the one that closes the fence; all if none does. -/
def afterFence (f : Fence) (lines : List Line) : List Line :=
  (lines.dropWhile fun l => !f.closedBy l.text).drop 1

/-- Where the code block ends: after the line that closes the fence, or at the
    end of the body. -/
def fenceStop (f : Fence) (total : Nat) (lines : List Line) : Nat :=
  ((lines.find? fun l => f.closedBy l.text).map (·.stop)).getD total

/-- The pieces of the lines; `total` is the length of the body. -/
def ofLines (total : Nat) : List Line → List Piece
  | [] => []
  | l :: rest =>
    if l.isBlank then .blank :: ofLines total rest
    else
      match Fence.read? l.text with
      | some f =>
        .code (String.ofList f.info) l.start (fenceStop f total rest) ::
          ofLines total (afterFence f rest)
      | none =>
        match Heading.read? l.text with
        | some (level, title) =>
          .heading level (String.ofList title) l.start l.stop :: ofLines total rest
        | none =>
          match _h : Table.read? l rest with
          | some (t, after) => .table t :: ofLines total after
          | none => ofLine l :: ofLines total rest
termination_by lines => lines.length
decreasing_by
  all_goals simp_wf
  · have := (List.dropWhile_suffix (fun l => !f.closedBy l.text) (l := rest)).length_le
    simp only [afterFence, List.length_drop]
    omega
  · have := Table.length_of_read? _h
    omega

end Piece

end Folio
