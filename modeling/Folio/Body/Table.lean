/-
  Folio — pipe tables.

  A row is cut into cells at its pipes; a pipe after a backslash belongs to the
  text of a cell, and the backslash does not show there.  A table is a line
  with the column names, a separator line with as many cells, and the rows
  below.  Every row has a cell for each column: missing cells are empty, and
  cells past the last column are dropped.

  * `Row.cellsOf` is the cutting, `Row.isSeparator` the test for a separator line;
  * `Table.read?` reads the table that a list of lines starts with.
-/
import Folio.Body.Opening
import Folio.Text.Search

namespace Folio

/-! ## Rows -/

namespace Row

/-- The parts of a text between its unescaped pipes.  A backslash escapes the
    character after it, whichever that is. -/
def cut : List Char → List (List Char)
  | [] => [[]]
  | ['\\'] => [['\\']]
  | '\\' :: c :: rest => before ['\\', c] (cut rest)
  | '|' :: rest => [] :: cut rest
  | c :: rest => before [c] (cut rest)
where
  /-- The same parts with some text before the first. -/
  before (cs : List Char) : List (List Char) → List (List Char)
    | [] => [cs]
    | part :: parts => (cs ++ part) :: parts

/-- A text with its escaped pipes as plain ones. -/
def unescape (cs : List Char) : List Char := Text.replaceAll ['\\', '|'] ['|'] cs

/-- The cells of a row.  The pipes at its two ends enclose no cell. -/
def cellsOf (line : List Char) : List (List Char) :=
  let cs := Text.trim line
  let cells := (cut cs).map Text.trim
  let cells := if cs.head? == some '|' then cells.drop 1 else cells
  let cells :=
    if Text.endsWith ['|'] cs && !Text.endsWith ['\\', '|'] cs then cells.dropLast else cells
  cells.map unescape

/-- Is the cell one of a separator line: dashes between optional colons? -/
def isRule (cell : List Char) : Bool :=
  let cs := if cell.head? == some ':' then cell.drop 1 else cell
  let rest := cs.dropWhile (· == '-')
  cs.head? == some '-' && (rest == [] || rest == [':'])

/-- Is the line one that separates the column names from the rows? -/
def isSeparator (line : List Char) : Bool :=
  let cells := cellsOf line
  line.contains '-' && !cells.isEmpty && cells.all isRule

end Row

/-! ## Cells by column -/

/-- The cells of a row, each under its column. -/
abbrev Row := List (String × String)

namespace Row

/-- The cell under a column. -/
def get? (r : Row) (column : String) : Option String := r.lookup column

/-- The row with a cell under a column: a column that has one already keeps its
    place. -/
def put (column cell : String) : Row → Row
  | [] => [(column, cell)]
  | (k, v) :: r => if k = column then (k, cell) :: r else (k, v) :: put column cell r

theorem get?_put_self (column cell : String) (r : Row) :
    (r.put column cell).get? column = some cell := by
  induction r with
  | nil => simp [put, get?]
  | cons e r ih =>
    obtain ⟨k, v⟩ := e
    by_cases h : k = column
    · simp [put, get?, h]
    · have : (column == k) = false := by simpa using fun e => h e.symm
      simpa [put, get?, h, List.lookup_cons, this] using ih

/-- The row that has a cell for each of the columns, in their order. -/
def ofCells (columns cells : List String) : Row :=
  let cells := (cells ++ List.replicate columns.length "").take columns.length
  (columns.zip cells).foldl (fun r p => r.put p.1 p.2) []

end Row

/-- A table of a body. -/
structure Table where
  columns : List String
  rows : List Row
  /-- The offset of its first line. -/
  start : Nat
  /-- The offset after its last line. -/
  stop : Nat
  /-- The section that holds it. -/
  owner : Option Nat
  deriving Repr, DecidableEq

namespace Table

/-- The cells under a column, row by row; nothing if there is no such column. -/
def column? (t : Table) (name : String) : Option (List String) :=
  if t.columns.contains name then some (t.rows.map fun r => (r.get? name).getD "") else none

/-! ## Reading -/

/-- Does the line continue a table? -/
def isRow (line : List Char) : Bool :=
  !Text.allBlank line && line.contains '|' && !Heading.opens line && !Fence.opens line

/-- Do a line of names and the line after it start a table? -/
def startsWith (names rule : List Char) : Bool :=
  names.contains '|' && Row.isSeparator rule &&
    (Row.cellsOf names).length == (Row.cellsOf rule).length

/-- The cells of a line as texts. -/
def cellTexts (line : List Char) : List String := (Row.cellsOf line).map String.ofList

/-- The table with these lines: names, separator, rows. -/
def ofLines (names rule : Line) (rows : List Line) : Table :=
  let columns := cellTexts names.text
  { columns
    rows := rows.map fun l => Row.ofCells columns (cellTexts l.text)
    start := names.start
    stop := ((rows.getLast?).getD rule).stop
    owner := none }

/-- The table that the lines start with, and the lines after it. -/
def read? (names : Line) : List Line → Option (Table × List Line)
  | [] => none
  | rule :: rest =>
    if startsWith names.text rule.text then
      some (ofLines names rule (rest.takeWhile (isRow ·.text)), rest.dropWhile (isRow ·.text))
    else none

theorem length_of_read? {names : Line} {lines rest : List Line} {t : Table}
    (h : read? names lines = some (t, rest)) : rest.length ≤ lines.length := by
  cases lines with
  | nil => simp [read?] at h
  | cons rule ls =>
    simp only [read?] at h
    split at h
    · obtain ⟨rfl, rfl⟩ := Prod.mk.inj (Option.some.inj h)
      exact Nat.le_succ_of_le (List.dropWhile_suffix _).length_le
    · cases h

end Table

end Folio
