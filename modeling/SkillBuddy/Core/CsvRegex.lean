/-
`SkillBuddy.Core.Helper.CsvToDataTableRegex`: lines cut by a regular
expression, the delimiter with a lookahead behind it.

The delimiter enters the pattern as it is. The constructor comes first
and may refuse the pattern, before the file is opened.
-/
import SkillBuddy.Core.Csv
import SkillBuddy.DotNet.Regex

namespace SkillBuddy.Helper

open DotNet
open Lib (Regex)

/-- `delimiter + "(?=(?:[^\"]*\"[^\"]*\")*(?![^\"]*\"))"`. -/
def csvPattern (delimiter : CodeUnit) : Str :=
  delimiter :: str "(?=(?:[^\"]*\"[^\"]*\")*(?![^\"]*\"))"

/-- What `CsvToDataTableRegex` throws. -/
inductive RegexCsvError where
  | pattern (error : RegexParseError)
  | table (error : CsvError)
  deriving DecidableEq, Repr

/-- The row of a line: the pieces without their quotes. -/
def regexRow (columns : Nat) (csvParser : Regex CodeUnit) (line : Str) :
    List (Option Str) :=
  fillRow columns ((csvParser.split line).map (·.filter (· ≠ unit '"')))

/-- Every row has a cell for each column. -/
theorem length_of_regexRows {columns : Nat} {csvParser : Regex CodeUnit}
    {lines : List Str} :
    ∀ row ∈ lines.map (regexRow columns csvParser),
      row.length = columns := by
  intro row hrow
  obtain ⟨line, -, rfl⟩ := List.mem_map.mp hrow
  rw [regexRow, fillRow, List.length_map, List.length_range]

/-- The table of a file, cut by an expression. -/
def regexTable (file : CsvFile) (delimiter : CodeUnit)
    (csvParser : Regex CodeUnit) : Except CsvError DataTable :=
  match readLine file.text with
  | none => .ok .empty
  | some (firstLine, rest) => do
      let dtColumns ← (firstLine.splitOn delimiter).foldlM Columns.add {}
      return {
        columns := dtColumns.names
        rows := (readLines rest).map
          (regexRow dtColumns.names.length csvParser)
        length_row := length_of_regexRows }

/-- `CsvToDataTableRegex(filePath, delimiter)`; `none` stands for a pattern
outside of the modelled constructs. -/
def csvToDataTableRegex (file : CsvFile) (delimiter : CodeUnit) :
    Option (Except RegexCsvError DataTable) :=
  (newRegex (csvPattern delimiter)).map fun parsed => do
    let csvParser ← parsed.mapError .pattern
    (regexTable file delimiter csvParser).mapError .table

end SkillBuddy.Helper
