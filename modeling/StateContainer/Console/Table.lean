/-
This file draws tables without borders. A column is as wide as the widest of its
cells, the heading included, and has two spaces behind it, also where it is the
last one. A row is as high as the highest of its cells.

It also draws trees with labels. A child hangs on a branch of its parent, and
the lines of its label and of everything below it stand to the right of a rule
that goes on to the next child of that parent.
-/

import StateContainer.Console.Cell

namespace StateContainer.Console

/-! ### Tables -/

/-- A column of a table. -/
structure Column where
  heading : String
  alignment : Alignment := .left
deriving Repr

/-- What is shown in a cell. -/
abbrev Cell := List (List Char)

/-- A table. Each row has a cell for each column. -/
structure Table where
  columns : List Column
  rows : List (List Cell)
deriving Repr

namespace Table

/-- The row of the headings. -/
def headings (t : Table) : List Cell :=
  t.columns.map fun column => [column.heading.toList]

/-- The widths of several rows of cells, column by column. -/
def widthsOf (columns : Nat) (rows : List (List Cell)) : List Nat :=
  rows.foldr (fun row widths => (row.map blockWidth).zipWith max widths)
    (List.replicate columns 0)

/-- The widths of the columns. -/
def widths (t : Table) : List Nat :=
  widthsOf t.columns.length (t.headings :: t.rows)

/-- One line of a cell in its column. -/
def cellLine (index : Nat) (cell : Cell) (column : Column × Nat) : List Char :=
  pad column.1.alignment column.2 (cell[index]?.getD []) ++ blanks 2

/-- The lines of a row, given the columns with their widths. -/
def rowLines (columns : List (Column × Nat)) (row : List Cell) : List (List Char) :=
  let height := (row.map (·.length)).foldl max 0
  (List.range height).map fun index => (row.zipWith (cellLine index) columns).flatten

/-- The lines of a table. -/
def lines (t : Table) : List (List Char) :=
  let columns := t.columns.zip t.widths
  (t.headings :: t.rows).flatMap (rowLines columns)

end Table

/-! ### Trees -/

/-- A tree whose nodes are labelled by the lines that are shown for them. -/
inductive Tree where
  | node (label : List (List Char)) (children : List Tree)
deriving Repr

namespace Tree

/-- What stands in front of the first line of a child. -/
def branch (isLast : Bool) : List Char :=
  if isLast then "└── ".toList else "├── ".toList

/-- What stands in front of all other lines of a child. -/
def rule (isLast : Bool) : List Char :=
  if isLast then "    ".toList else "│   ".toList

/-- Lines behind a text for the first line and a text for all others. -/
def hang (first others : List Char) : List (List Char) → List (List Char)
  | [] => []
  | line :: lines => (first ++ line) :: lines.map (others ++ ·)

mutual

/-- The lines of a tree. -/
def lines : Tree → List (List Char)
  | node label children => label ++ childLines children

/-- The lines of the children of a node. -/
def childLines : List Tree → List (List Char)
  | [] => []
  | [child] => hang (branch true) (rule true) (lines child)
  | child :: next :: others =>
    hang (branch false) (rule false) (lines child) ++ childLines (next :: others)

end

/-- Hanging keeps the number of lines. -/
theorem length_hang (first others : List Char) (lines : List (List Char)) :
    (hang first others lines).length = lines.length := by
  cases lines <;> simp [hang]

end Tree

end StateContainer.Console
