/-
`DataTableToCsv` against the CSV grammar.

# What the writer leaves out

The writer knows one quoting rule: a cell that contains the separator is
put in quotes, as it is. The grammar asks for more: quotes around every
name and cell with a quote or a line break too, and the quotes inside
doubled. Where a value needs no more than the writer does it is
`PlainName` or `PlainCell`, and then its field is one of the grammar
(`fieldText_csvField`); so the text of a table of such values is read as
the table.

# Why nothing else is read as the table

Conversely, the written fields are never longer than the grammar's: a
field that is not quoted has the length of its value, and a quoted one two
letters more. Every way to write a value in the grammar costs at least as
much, and exactly as much only where the writer's rule is enough
(`length_name_le`, `length_csvField_le`). The lengths of all fields add up
to the length of the text, so the text is the table's only where no field
needs what the writer leaves out; this is the library's
`cost_eq_of_file`. Both directions are `standard_csv_iff`.
-/
import SkillBuddy.Core.Csv
import SkillBuddy.Lib.Csv

namespace SkillBuddy.Helper

open DotNet
open Lib.Csv (Format FieldText File parse cost)
open Lib.Quoted (literal wrap double)

-- ================================================================ format

/-- The grammar with a separator, for a platform's line break. -/
def csvFormat (newLine : NewLine) {separator : CodeUnit}
    (h : IsSeparator separator) : Format CodeUnit where
  separator
  quote := unit '"'
  breaks := [cr, lf]
  newLine := newLine.text
  separator_ne_quote := h.ne_quote
  separator_notMem := by simp [h.ne_cr, h.ne_lf]
  quote_notMem := by decide
  newLine_ne_nil := by cases newLine <;> decide
  newLine_subset := by cases newLine <;> decide

variable {newLine : NewLine} {separator : CodeUnit}
  {hsep : IsSeparator separator}

/-- A value that can stand as it is. -/
theorem plain_iff {v : Str} :
    (csvFormat newLine hsep).Plain v
      ↔ separator ∉ v ∧ unit '"' ∉ v ∧ cr ∉ v ∧ lf ∉ v := by
  have hletter : ∀ c : CodeUnit, (csvFormat newLine hsep).PlainLetter c
      ↔ c ≠ separator ∧ c ≠ unit '"' ∧ c ≠ cr ∧ c ≠ lf := by
    intro c
    show c ≠ separator ∧ c ≠ unit '"' ∧ c ∉ [cr, lf] ↔ _
    simp
  constructor
  · intro h
    refine ⟨fun hc => ?_, fun hc => ?_, fun hc => ?_, fun hc => ?_⟩
    · exact ((hletter _).mp (h _ hc)).1 rfl
    · exact ((hletter _).mp (h _ hc)).2.1 rfl
    · exact ((hletter _).mp (h _ hc)).2.2.1 rfl
    · exact ((hletter _).mp (h _ hc)).2.2.2 rfl
  · intro hfree c hc
    obtain ⟨hseparator, hquote, hcr, hlf⟩ := hfree
    apply (hletter c).mpr
    refine ⟨?_, ?_, ?_, ?_⟩
    · exact fun h => hseparator (h ▸ hc)
    · exact fun h => hquote (h ▸ hc)
    · exact fun h => hcr (h ▸ hc)
    · exact fun h => hlf (h ▸ hc)

-- ================================================== what the writer leaves

/-- A column name that needs no quotes. -/
def PlainName (separator : CodeUnit) (name : Str) : Prop :=
  separator ∉ name ∧ unit '"' ∉ name ∧ cr ∉ name ∧ lf ∉ name

instance (separator : CodeUnit) (name : Str) :
    Decidable (PlainName separator name) :=
  inferInstanceAs (Decidable (_ ∧ _))

/-- A cell for which the writer's rule is enough: no quotes, and line
breaks only beside a separator. -/
def PlainCell (separator : CodeUnit) (value : Str) : Prop :=
  unit '"' ∉ value ∧ (separator ∈ value ∨ cr ∉ value ∧ lf ∉ value)

instance (separator : CodeUnit) (value : Str) :
    Decidable (PlainCell separator value) :=
  inferInstanceAs (Decidable (_ ∧ _))

/-- A name is written as the grammar has it exactly if it is plain. -/
theorem length_name_le (name : Str) :
    name.length ≤ cost (csvFormat newLine hsep) name
      ∧ (name.length = cost (csvFormat newLine hsep) name
        ↔ PlainName separator name) := by
  unfold PlainName cost
  rw [← @plain_iff newLine separator hsep]
  split
  case isTrue h => exact ⟨Nat.le_refl _, iff_of_true rfl h⟩
  case isFalse h =>
    refine ⟨by omega, iff_of_false (by omega) h⟩

/-- A cell is written at its cost exactly if the writer's rule is
enough. -/
theorem length_csvField_le (cell : Option Str) :
    (csvField separator cell).length
        ≤ cost (csvFormat newLine hsep) (cellText cell)
      ∧ ((csvField separator cell).length
          = cost (csvFormat newLine hsep) (cellText cell)
        ↔ PlainCell separator (cellText cell)) := by
  by_cases hmem : separator ∈ cellText cell
  · have hplain : ¬(csvFormat newLine hsep).Plain (cellText cell) :=
      fun h => (plain_iff.mp h).1 hmem
    have hquote : (cellText cell).count (csvFormat newLine hsep).quote = 0
        ↔ unit '"' ∉ cellText cell := List.count_eq_zero
    have hcell : PlainCell separator (cellText cell)
        ↔ unit '"' ∉ cellText cell :=
      ⟨fun h => h.1, fun h => ⟨h, Or.inl hmem⟩⟩
    rw [csvField_of_mem hmem, cost, if_neg hplain, hcell, ← hquote,
      List.length_cons, List.length_append, List.length_singleton]
    constructor
    · omega
    · constructor <;> omega
  · have hcell : PlainCell separator (cellText cell)
        ↔ (csvFormat newLine hsep).Plain (cellText cell) := by
      rw [plain_iff]
      constructor
      · intro hcell
        obtain ⟨hquote, hbreaks⟩ := hcell
        exact ⟨hmem, hquote, hbreaks.resolve_left hmem⟩
      · intro hplain
        obtain ⟨-, hquote, hbreaks⟩ := hplain
        exact ⟨hquote, Or.inr hbreaks⟩
    rw [csvField_of_notMem hmem, cost, hcell]
    by_cases hplain : (csvFormat newLine hsep).Plain (cellText cell)
    · rw [if_pos hplain]
      exact ⟨Nat.le_refl _, iff_of_true rfl hplain⟩
    · rw [if_neg hplain]
      constructor
      · omega
      · exact iff_of_false (by omega) hplain

/-- A cell the writer's rule is enough for is a field of the grammar. -/
theorem fieldText_csvField {cell : Option Str}
    (h : PlainCell separator (cellText cell)) :
    FieldText (csvFormat newLine hsep) (cellText cell)
      (csvField separator cell) := by
  obtain ⟨hquote, hrest⟩ := h
  by_cases hmem : separator ∈ cellText cell
  · have hliteral : unit '"' :: (cellText cell ++ [unit '"'])
        = literal (csvFormat newLine hsep).quote (cellText cell) := by
      have hdouble : double (csvFormat newLine hsep).quote (cellText cell)
          = cellText cell := Lib.Quoted.double_of_notMem hquote
      rw [literal, hdouble]
      rfl
    rw [csvField_of_mem hmem, hliteral]
    exact .quoted (cellText cell)
  · rw [csvField_of_notMem hmem]
    refine .plain (plain_iff.mpr ⟨hmem, hquote, ?_⟩)
    exact hrest.resolve_left hmem

-- ========================================================== the whole text

/-- The header's fields and the rows', each beside its value. -/
def csvRecords (dtDataTable : DataTable) (separator : CodeUnit) :
    List (List (Str × Str)) :=
  (dtDataTable.columns.map fun name => (name, name))
    :: dtDataTable.rows.map fun row =>
        row.map fun cell => (cellText cell, csvField separator cell)

/-- The values of the records are those of the table. -/
theorem map_fst_csvRecords (t : DataTable) :
    (csvRecords t separator).map (List.map Prod.fst) = csvValues t := by
  unfold csvRecords csvValues
  simp [Function.comp_def]

/-- The text is the records', line by line. -/
theorem dataTableToCsv_eq_write (hsep : IsSeparator separator)
    (t : DataTable) :
    dataTableToCsv newLine t separator true
      = Lib.Csv.write (csvFormat newLine hsep)
        ((csvRecords t separator).map (List.map Prod.snd)) := by
  unfold dataTableToCsv csvLines csvRecords Lib.Csv.write csvLine
  simp only [if_true, List.map_cons, List.map_map, List.flatMap_cons,
    List.singleton_append, List.flatMap_map, Function.comp_def, List.map_id']
  rfl

/-- Every record has as many fields as there are columns. -/
theorem length_of_mem_csvRecords {t : DataTable}
    {record : List (Str × Str)} (h : record ∈ csvRecords t separator) :
    record.length = t.columns.length := by
  rcases List.mem_cons.mp h with rfl | h
  · exact List.length_map _
  · obtain ⟨row, hrow, rfl⟩ := List.mem_map.mp h
    rw [List.length_map]
    exact t.length_row row hrow

/-- What holds of all fields holds of the names and of the cells. -/
theorem forall_csvRecords {p : Str × Str → Prop} {t : DataTable} :
    (∀ record ∈ csvRecords t separator, ∀ field ∈ record, p field)
      ↔ (∀ name ∈ t.columns, p (name, name))
        ∧ ∀ row ∈ t.rows, ∀ cell ∈ row,
          p (cellText cell, csvField separator cell) := by
  unfold csvRecords
  simp only [List.forall_mem_cons, List.forall_mem_map]

/-- The written text is read by the grammar as the table exactly if no
name needs quotes, and no cell more than the writer gives it. A table
without columns is no CSV, hence the hypothesis. -/
theorem standard_csv_iff (newLine : NewLine) {separator : CodeUnit}
    (hsep : IsSeparator separator) (t : DataTable) (hne : t.columns ≠ []) :
    parse (csvFormat newLine hsep) (dataTableToCsv newLine t separator true)
        = some (csvValues t)
      ↔ (∀ name ∈ t.columns, PlainName separator name)
        ∧ ∀ row ∈ t.rows, ∀ cell ∈ row,
          PlainCell separator (cellText cell) := by
  have hrecord : ∀ record ∈ csvRecords t separator, record ≠ [] := by
    intro record hrecord h
    subst h
    have hlength := length_of_mem_csvRecords hrecord
    exact hne (List.length_eq_zero_iff.mp hlength.symm)
  rw [Lib.Csv.parse_eq_some_iff, dataTableToCsv_eq_write hsep,
    ← map_fst_csvRecords]
  constructor
  · intro hfile
    -- nothing is written longer than its cost, so all of it is at its cost
    have hle : ∀ record ∈ csvRecords t separator, ∀ field ∈ record,
        field.2.length ≤ cost (csvFormat newLine hsep) field.1 :=
      forall_csvRecords.mpr ⟨fun name _ => (length_name_le name).1,
        fun _ _ cell _ => (length_csvField_le cell).1⟩
    have heq := forall_csvRecords.mp
      (Lib.Csv.cost_eq_of_file hrecord hle hfile)
    constructor
    · intro name hname
      exact (length_name_le name).2.mp (heq.1 name hname)
    · intro row hrow cell hcell
      exact (length_csvField_le cell).2.mp (heq.2 row hrow cell hcell)
  · intro h
    obtain ⟨hnames, hcells⟩ := h
    have hfields : ∀ record ∈ csvRecords t separator, ∀ field ∈ record,
        FieldText (csvFormat newLine hsep) field.1 field.2 :=
      forall_csvRecords.mpr
        ⟨fun name hname => .plain (plain_iff.mpr (hnames name hname)),
          fun row hrow cell hcell =>
            fieldText_csvField (hcells row hrow cell hcell)⟩
    exact Lib.Csv.file_write fun record hmem =>
      ⟨hrecord record hmem, hfields record hmem⟩

/-- The screens of a shop, one of them with a comma in its name. -/
private def screens : DataTable where
  columns := [str "Name", str "Stock"]
  rows := [[some (str "Small, matt"), none],
    [some (str "Large"), some (str "3")]]
  length_row := by decide

/-- A comma in a cell is what the writer quotes. -/
theorem standard_csv_screens :
    parse (csvFormat .windows isSeparator_comma)
        (dataTableToCsv .windows screens (unit ',') true)
      = some (csvValues screens) :=
  (standard_csv_iff .windows isSeparator_comma screens (by decide)).mpr
    (by decide)

/-- The same shop, with sizes in inches. -/
private def inches : DataTable where
  columns := [str "Name", str "Stock"]
  rows := [[some (str "27\", matt"), none]]
  length_row := by decide

/-- A cell with a separator and a quote is quoted, but its own quote ends
the field: the text is no CSV, on either platform. -/
theorem standard_csv_inches :
    inches.columns ≠ []
    ∧ parse (csvFormat .unix isSeparator_comma)
        (dataTableToCsv .unix inches (unit ',') true) = none
    ∧ parse (csvFormat .windows isSeparator_comma)
        (dataTableToCsv .windows inches (unit ',') true) = none :=
  ⟨by decide, by decide, by decide⟩

end SkillBuddy.Helper
