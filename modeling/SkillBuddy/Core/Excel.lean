/-
`SkillBuddy.Core.Helper.ExcelToDataSet`.

A worksheet enters as what ClosedXML says of it: its used rows, each with
its used cells in the order of their columns. A cell is addressed by its
absolute column, counted from one; a cell that is not used has the empty
text.

The first used row gives the columns, by enumeration: a column for every
used cell, wherever it stands, named by its text or by the cell's own
column. Every later row is filled by position, the first column of the
table from the first column of the worksheet. The two ways to count agree
only where the used cells of the first row stand side by side from the
first column on.

A file that is no workbook has no tables. Two columns of one name, which
`DataTable` refuses, lose the whole workbook: whatever is thrown, null is
returned.
-/
import SkillBuddy.Core.Csv

namespace SkillBuddy.Helper

open DotNet

-- ============================================================= worksheets

/-- A used cell: the number of its column, and its text. -/
structure XLCell where
  columnNumber : Nat
  text : Str
  deriving DecidableEq, Repr

/-- A row: its used cells, as `row.Cells()` enumerates them. -/
structure XLRow where
  cells : List XLCell
  positive : ∀ cell ∈ cells, 1 ≤ cell.columnNumber := by decide
  increasing : cells.Pairwise fun a b => a.columnNumber < b.columnNumber := by
    decide

/-- The text of `row.Cell(n)`. -/
def XLRow.cellText (row : XLRow) (n : Nat) : Str :=
  ((row.cells.find? fun cell => cell.columnNumber = n).map
    XLCell.text).getD []

/-- A worksheet: its name, and `ws.RowsUsed()`. -/
structure Worksheet where
  name : Str
  rowsUsed : List XLRow

/-- A workbook; no two worksheets have one name. -/
structure Workbook where
  worksheets : List Worksheet
  nodup : (worksheets.map Worksheet.name).Nodup

-- ================================================================= import

/-- The name of the column a cell of the first row makes. -/
def columnName (hasHeaders : Bool) (cell : XLCell) : Str :=
  if hasHeaders then cell.text else str "Column" ++ natText cell.columnNumber

/-- A row of `columns` cells. -/
def excelRow (columns : Nat) (row : XLRow) : List (Option Str) :=
  (List.range columns).map fun i => some (row.cellText (i + 1))

/-- A row has as many cells as there are columns. -/
theorem length_excelRow (columns : Nat) (row : XLRow) :
    (excelRow columns row).length = columns := by
  unfold excelRow
  rw [List.length_map, List.length_range]

/-- Columns of the given names, filled by position from the rows. -/
def sheetTable (names : List Str) (rows : List XLRow) : DataTable where
  columns := names
  rows := rows.map (excelRow names.length)
  length_row := by
    intro row hrow
    obtain ⟨used, -, rfl⟩ := List.mem_map.mp hrow
    exact length_excelRow _ used

/-- The table of a worksheet; the first used row gives the columns, and is
a row itself where there are no headers. -/
def excelTable (hasHeaders : Bool) (ws : Worksheet) :
    Except CsvError DataTable :=
  match ws.rowsUsed with
  | [] => .ok .empty
  | first :: later => do
      let columns ← (first.cells.map (columnName hasHeaders)).foldlM
        Columns.add {}
      return sheetTable columns.names
        (if hasHeaders then later else first :: later)

/-- A `DataSet`: its tables by name. -/
abbrev DataSet := List (Str × DataTable)

/-- `ExcelToDataSet(filePath, hasHeaders)`; `none` for a file that is not
there or not a workbook. Whatever is thrown, null is returned. -/
def excelToDataSet (file : Option Workbook) (hasHeaders : Bool) :
    Option DataSet := do
  let workbook ← file
  (workbook.worksheets.mapM fun ws => do
    return (ws.name, ← excelTable hasHeaders ws)).toOption

/-- `table.Rows[r][name]`: what is stored in a row under a column. -/
def DataTable.cellAt (table : DataTable) (r : Nat) (name : Str) :
    Option Str :=
  (table.rows[r]?.bind fun row => row[table.columns.idxOf name]?).join

end SkillBuddy.Helper
