import SourceText.Console.Line

/-!
# Tables

A table has a title, a head and rows of cells. Each column is as wide as its widest cell and has a
space on both sides. When the table does not fit on the page, its widest column gives way.
-/

namespace SourceText.Console

-- Sums start with the zero of the core library whatever else is imported.
attribute [local instance (high)] Zero.ofOfNat0

/-- On which side of its column a text stands. -/
inductive Alignment where
  | left
  | right
  deriving DecidableEq, Repr

/-- A column: its head, and the side on which its cells stand. -/
structure Column where
  head : Text
  alignment : Alignment := .left
  deriving DecidableEq, Repr

/-- A table; every row has one cell for each column. -/
structure Table where
  title : Text
  columns : List Column
  rows : List (List Text)
  deriving DecidableEq, Repr

/-! ### Widths -/

/-- The width of the widest line of a cell. -/
def cellWidth (cell : Text) : Nat := ((Text.lines cell).map width).foldl max 0

/-- The spaces on both sides of a cell. -/
def padding : Nat := 2

/-- The widths in which every cell has its place. -/
def naturalWidths (t : Table) : List Nat :=
  let heads := t.columns.map fun column => cellWidth column.head + padding
  t.rows.foldl (fun widths row => widths.zipWith (fun w cell => max w (cellWidth cell + padding)) row)
    heads

/-- The widths with the first of the given width smaller by some columns. -/
def narrow (widest excess : Nat) : List Nat → List Nat
  | [] => []
  | w :: ws => if w = widest then (w - excess) :: ws else w :: narrow widest excess ws

/-- The widths of the columns of a table on a page, the lines between them left out. -/
def columnWidths (available : Nat) (t : Table) : List Nat :=
  let widths := naturalWidths t
  narrow (widths.foldl max 0) (widths.sum - available) widths

/-! ### Lines -/

/-- A line at the left of the first column, between the columns and at the right of the last one. -/
structure Ruling where
  left : Char
  between : Char
  right : Char
  deriving DecidableEq, Repr

/-- The parts of a row between lines. -/
def ruled (r : Ruling) (parts : List Text) : Text := r.left :: Text.join [r.between] parts ++ [r.right]

/-- A line along all columns. -/
def ruledAlong (r : Ruling) (line : Char) (widths : List Nat) : Text :=
  ruled r (widths.map fun w => List.replicate w line)

/-- A line of a cell in the given columns. -/
def align (alignment : Alignment) (columns : Nat) (line : Text) : Text :=
  match alignment with
  | .left => fit columns (shorten .ellipsis columns line)
  | .right =>
    let kept := shorten .ellipsis columns line.trimRight
    List.replicate (columns - width kept) ' ' ++ kept

/-- The lines of a cell in a column of the given width. -/
def cellLines (alignment : Alignment) (w : Nat) (cell : Text) : List Text :=
  let inner := w - padding
  (wrap .ellipsis inner cell).map fun line => ' ' :: align alignment inner line ++ [' ']

/-- The lines of a row. A cell with fewer lines than another one is filled up. -/
def rowLines (r : Ruling) (alignments : List Alignment) (widths : List Nat) (row : List Text) :
    List Text :=
  let cells := (alignments.zip (widths.zip row)).map fun (a, w, cell) => (w, cellLines a w cell)
  let height := (cells.map fun cell => cell.2.length).foldl max 1
  (List.range height).map fun n =>
    ruled r (cells.map fun (w, lines) => lines.getD n (List.replicate w ' '))

/-- A text in the middle of the given columns; a space that is left over stands at the right. -/
def center (columns : Nat) (text : Text) : Text :=
  let free := columns - width text
  List.replicate (free / 2) ' ' ++ text ++ List.replicate (free - free / 2) ' '

/-- The lines of a table on a page of the given columns. -/
def Table.lines (columns : Nat) (t : Table) : List Text :=
  let rulings := t.columns.length + 1
  let widths := columnWidths (columns - rulings) t
  let heads := t.columns.map (·.head)
  let alignments := t.columns.map (·.alignment)
  center (widths.sum + rulings) t.title ::
    ruledAlong ⟨'┏', '┳', '┓'⟩ '━' widths ::
    rowLines ⟨'┃', '┃', '┃'⟩ alignments widths heads ++
    ruledAlong ⟨'┡', '╇', '┩'⟩ '━' widths ::
    t.rows.flatMap (rowLines ⟨'│', '│', '│'⟩ alignments widths) ++
    [ruledAlong ⟨'└', '┴', '┘'⟩ '─' widths]

end SourceText.Console
