/-
Excel import: under which header a value ends up.

# Two numberings

Columns are numbered by enumeration of the used header cells, values are
fetched by absolute position: the value of a row under the k-th header is
that of worksheet column k (`cellAt_sheetTable`). The two numberings agree
for every content of the later rows iff the header cells stand in the
columns 1, 2, … without offset or gap (`forall_alignedRow_iff`). On a
sheet with another layout a value is right only where a row happens to
have one text in both columns (`AlignedRow`).

# The import

A worksheet has a table iff its header names are accepted, which fails
where a name is there twice; and for one such worksheet `ExcelToDataSet`
returns nothing at all (`exists_excelToDataSet_iff`). So a worksheet's
values are kept iff all worksheets' names are accepted and its own later
rows are aligned (`keepsValues_iff`).

Without headers the columns are named after the first row's cells, by
their numbers, which are different; so the names are accepted, and there
is no import that fails (`import_without_headers`). The first row is data
then, and what was said of the later rows is said of it, too.

A cell has a text here. A formula whose evaluation throws has none, and is
not among them.
-/
import SkillBuddy.Core.Excel
import Mathlib.Data.List.Nodup

namespace SkillBuddy.Helper

open DotNet

-- =========================================================== the data set

/-- The texts of the first used row. -/
def Worksheet.headerNames (ws : Worksheet) : List Str :=
  (ws.rowsUsed.head?.map fun first => first.cells.map XLCell.text).getD []

/-- `Columns.Add` takes the names, one after the other. -/
def NamesAccepted (names : List Str) : Prop :=
  ∃ columns, names.foldlM Columns.add {} = .ok columns

/-- A worksheet with headers: distinct texts, none of them empty. -/
structure Worksheet.HasHeaders (ws : Worksheet) (first : XLRow)
    (later : List XLRow) : Prop where
  rowsUsed : ws.rowsUsed = first :: later
  ne_nil : ∀ name ∈ first.cells.map XLCell.text, name ≠ []
  nodup : (first.cells.map XLCell.text).Nodup

/-- With headers the columns have the header cells' texts. -/
theorem map_columnName (cells : List XLCell) :
    cells.map (columnName true) = cells.map XLCell.text :=
  rfl

/-- A worksheet has a table iff its header names are accepted. -/
theorem exists_excelTable_iff (ws : Worksheet) :
    (∃ table, excelTable true ws = .ok table)
      ↔ NamesAccepted ws.headerNames := by
  unfold excelTable NamesAccepted Worksheet.headerNames
  cases ws.rowsUsed with
  | nil => exact iff_of_true ⟨{}, rfl⟩ ⟨{}, rfl⟩
  | cons first later =>
      dsimp only [List.head?_cons, Option.map_some, Option.getD_some]
      rw [map_columnName]
      cases hadd : (first.cells.map XLCell.text).foldlM Columns.add {} with
      | error e =>
          refine iff_of_false ?_ ?_
          · intro h
            obtain ⟨table, h⟩ := h
            cases h
          · intro h
            obtain ⟨columns, h⟩ := h
            cases h
      | ok columns => exact iff_of_true ⟨_, rfl⟩ ⟨columns, rfl⟩

/-- The table of a worksheet with headers. -/
theorem excelTable_of_hasHeaders {ws : Worksheet} {first : XLRow}
    {later : List XLRow} (h : ws.HasHeaders first later) :
    excelTable true ws
      = .ok (sheetTable (first.cells.map XLCell.text) later) := by
  have hadd := @foldlM_add_of_nodup (first.cells.map XLCell.text) {}
    h.nodup h.ne_nil
  unfold excelTable
  rw [h.rowsUsed]
  dsimp only
  rw [map_columnName, hadd]
  rfl

/-- A data set is returned iff every worksheet has a table; it has these
tables, by name. -/
theorem excelToDataSet_eq_some_iff {workbook : Workbook} {hasHeaders : Bool}
    {ds : DataSet} :
    excelToDataSet (some workbook) hasHeaders = some ds
      ↔ List.Forall₂ (fun ws entry =>
          excelTable hasHeaders ws = .ok entry.2 ∧ entry.1 = ws.name)
            workbook.worksheets ds := by
  have hentry : ∀ (ws : Worksheet) (entry : Str × DataTable),
      (do return (ws.name, ← excelTable hasHeaders ws)
          : Except CsvError (Str × DataTable)) = .ok entry
        ↔ excelTable hasHeaders ws = .ok entry.2 ∧ entry.1 = ws.name := by
    intro ws entry
    obtain ⟨name, table⟩ := entry
    cases excelTable hasHeaders ws with
    | error e =>
        refine iff_of_false ?_ ?_
        · intro h
          cases h
        · intro h
          cases h.1
    | ok table' =>
        show Except.ok (ws.name, table') = _ ↔ _
        rw [Except.ok.injEq, Except.ok.injEq, Prod.mk.injEq, and_comm]
        exact and_congr_right fun _ => eq_comm
  have hmap := @mapM_eq_ok_iff _ _ _
    (fun ws : Worksheet => (do return (ws.name, ← excelTable hasHeaders ws)
      : Except CsvError (Str × DataTable))) workbook.worksheets ds
  simp only [hentry] at hmap
  rw [← hmap]
  unfold excelToDataSet
  rw [Option.bind_eq_bind, Option.bind_some]
  cases workbook.worksheets.mapM fun ws =>
      (do return (ws.name, ← excelTable hasHeaders ws)
        : Except CsvError (Str × DataTable)) with
  | error e =>
      refine iff_of_false ?_ ?_
      · intro h
        cases h
      · intro h
        cases h
  | ok ds' =>
      rw [Except.ok.injEq]
      exact Option.some_inj

/-- Every worksheet must have names that are accepted: for one that has not,
null is returned. -/
theorem exists_excelToDataSet_iff (workbook : Workbook) :
    (∃ ds, excelToDataSet (some workbook) true = some ds)
      ↔ ∀ ws ∈ workbook.worksheets, NamesAccepted ws.headerNames := by
  simp only [excelToDataSet_eq_some_iff, ← exists_excelTable_iff]
  induction workbook.worksheets with
  | nil => exact iff_of_true ⟨[], List.Forall₂.nil⟩ (by simp)
  | cons ws sheets ih =>
      rw [List.forall_mem_cons, ← ih]
      constructor
      · intro h
        obtain ⟨ds, h⟩ := h
        obtain ⟨entry, rest, hentry, hrest, rfl⟩ :=
          List.forall₂_cons_left_iff.mp h
        exact ⟨⟨entry.2, hentry.1⟩, rest, hrest⟩
      · intro h
        obtain ⟨⟨table, htable⟩, ds, hds⟩ := h
        exact ⟨(ws.name, table) :: ds,
          List.Forall₂.cons ⟨htable, rfl⟩ hds⟩

-- ======================================================= values, by header

/-- The value of a row under the `k`-th header is that of column `k`. -/
theorem cellAt_sheetTable {names : List Str} (hnodup : names.Nodup)
    {later : List XLRow} {r : Nat} {row : XLRow}
    (hrow : later[r]? = some row) {k : Nat} {name : Str}
    (hname : names[k]? = some name) :
    (sheetTable names later).cellAt r name
      = some (row.cellText (k + 1)) := by
  obtain ⟨hk, rfl⟩ := List.getElem?_eq_some_iff.mp hname
  unfold DataTable.cellAt sheetTable
  dsimp only
  rw [List.getElem?_map, hrow, Option.map_some, Option.bind_some,
    hnodup.idxOf_getElem k hk, excelRow, List.getElem?_map,
    List.getElem?_range hk]
  rfl

/-- In the data set read from the workbook, each value of a later row is
stored under its own header. -/
def KeepsValues (workbook : Workbook) (ws : Worksheet) (first : XLRow)
    (later : List XLRow) : Prop :=
  ∃ ds, excelToDataSet (some workbook) true = some ds
    ∧ ∃ table, (ws.name, table) ∈ ds
      ∧ ∀ r row, later[r]? = some row → ∀ header ∈ first.cells,
        table.cellAt r header.text
          = some (row.cellText header.columnNumber)

/-- A row has at position `k` the text of the `k`-th header's column. -/
def AlignedRow (first row : XLRow) : Prop :=
  ∀ k header, first.cells[k]? = some header →
    row.cellText (k + 1) = row.cellText header.columnNumber

/-- Related lists have related members. -/
theorem exists_mem_of_forall₂ {α β : Type} {R : α → β → Prop}
    {as : List α} {bs : List β} (h : List.Forall₂ R as bs) :
    (∀ a ∈ as, ∃ b ∈ bs, R a b) ∧ ∀ b ∈ bs, ∃ a ∈ as, R a b := by
  induction h with
  | nil => exact ⟨by simp, by simp⟩
  | @cons a b as bs hab _ ih =>
      obtain ⟨ihleft, ihright⟩ := ih
      constructor
      · intro a' ha'
        rcases List.mem_cons.mp ha' with rfl | ha'
        · exact ⟨b, List.mem_cons_self, hab⟩
        · obtain ⟨b', hb', hR⟩ := ihleft a' ha'
          exact ⟨b', List.mem_cons_of_mem _ hb', hR⟩
      · intro b' hb'
        rcases List.mem_cons.mp hb' with rfl | hb'
        · exact ⟨a, List.mem_cons_self, hab⟩
        · obtain ⟨a', ha', hR⟩ := ihright b' hb'
          exact ⟨a', List.mem_cons_of_mem _ ha', hR⟩

/-- The table a data set has under a worksheet's name is the
worksheet's. -/
theorem mem_dataSet_iff {workbook : Workbook} {hasHeaders : Bool}
    {ds : DataSet}
    (hds : excelToDataSet (some workbook) hasHeaders = some ds)
    {ws : Worksheet} (hws : ws ∈ workbook.worksheets) {t : DataTable}
    (ht : excelTable hasHeaders ws = .ok t) (table : DataTable) :
    (ws.name, table) ∈ ds ↔ table = t := by
  obtain ⟨hleft, hright⟩ :=
    exists_mem_of_forall₂ (excelToDataSet_eq_some_iff.mp hds)
  constructor
  · intro hmem
    obtain ⟨sheet, hsheet, htable, hname⟩ := hright _ hmem
    obtain rfl : ws = sheet :=
      List.inj_on_of_nodup_map workbook.nodup hws hsheet hname
    exact Except.ok.inj (htable.symm.trans ht)
  · intro h
    obtain ⟨⟨name, table'⟩, hmem, htable, hname⟩ := hleft ws hws
    obtain rfl : name = ws.name := hname
    obtain rfl : table' = t := Except.ok.inj (htable.symm.trans ht)
    rwa [h]

/-- `ExcelToDataSet` keeps the values of a worksheet under their headers
iff every worksheet's header names are accepted and each later row has the
texts of the headers' columns at the positions 1, 2, … too. -/
theorem keepsValues_iff {workbook : Workbook} {ws : Worksheet}
    {first : XLRow} {later : List XLRow}
    (hws : ws ∈ workbook.worksheets) (h : ws.HasHeaders first later) :
    KeepsValues workbook ws first later
      ↔ (∀ sheet ∈ workbook.worksheets, NamesAccepted sheet.headerNames)
        ∧ ∀ row ∈ later, AlignedRow first row := by
  have htable := excelTable_of_hasHeaders h
  have hcell : ∀ {r row}, later[r]? = some row → ∀ {k header},
      first.cells[k]? = some header →
        (sheetTable (first.cells.map XLCell.text) later).cellAt r header.text
          = some (row.cellText (k + 1)) := by
    intro r row hrow k header hheader
    apply cellAt_sheetTable h.nodup hrow
    rw [List.getElem?_map, hheader, Option.map_some]
  rw [← exists_excelToDataSet_iff]
  constructor
  · intro hkeeps
    obtain ⟨ds, hds, table, hmem, hvalues⟩ := hkeeps
    obtain rfl := (mem_dataSet_iff hds hws htable table).mp hmem
    refine ⟨⟨ds, hds⟩, ?_⟩
    intro row hrow k header hheader
    obtain ⟨r, hr⟩ := List.mem_iff_getElem?.mp hrow
    have hvalue := hvalues r row hr header (List.mem_of_getElem? hheader)
    rw [hcell hr hheader] at hvalue
    exact Option.some.inj hvalue
  · intro haligned
    obtain ⟨⟨ds, hds⟩, hrows⟩ := haligned
    refine ⟨ds, hds, _, (mem_dataSet_iff hds hws htable _).mpr rfl, ?_⟩
    intro r row hr header hheader
    obtain ⟨k, hk⟩ := List.mem_iff_getElem?.mp hheader
    rw [hcell hr hk, hrows row (List.mem_of_getElem? hr) k header hk]

/-- A sheet whose table begins in column B: a header and a value. -/
private def headerInB : XLRow where
  cells := [⟨2, str "Name"⟩]

private def valueInB : XLRow where
  cells := [⟨2, str "Ann"⟩]

private def sheetFromB : Worksheet where
  name := str "Sheet1"
  rowsUsed := [headerInB, valueInB]

private def bookFromB : Workbook where
  worksheets := [sheetFromB]
  nodup := by decide

theorem keepsValues_from_column_b :
    KeepsValues bookFromB sheetFromB headerInB [valueInB]
      ↔ (∀ sheet ∈ bookFromB.worksheets, NamesAccepted sheet.headerNames)
        ∧ ∀ row ∈ [valueInB], AlignedRow headerInB row :=
  keepsValues_iff List.mem_cons_self ⟨rfl, by decide, by decide⟩

/-- The value in B2 is not found under the header in B1: the text of A2 is
stored there. -/
theorem value_lost_from_column_b :
    sheetFromB ∈ bookFromB.worksheets
      ∧ sheetFromB.HasHeaders headerInB [valueInB]
      ∧ ¬KeepsValues bookFromB sheetFromB headerInB [valueInB] := by
  have hheaders : sheetFromB.HasHeaders headerInB [valueInB] :=
    ⟨rfl, by decide, by decide⟩
  refine ⟨List.mem_cons_self, hheaders, ?_⟩
  intro hkeeps
  obtain ⟨ds, hds, table, hmem, hvalues⟩ := hkeeps
  obtain rfl := (mem_dataSet_iff hds List.mem_cons_self
    (excelTable_of_hasHeaders hheaders) table).mp hmem
  exact absurd (hvalues 0 valueInB rfl _ List.mem_cons_self) (by decide)

-- ================================================================ layouts

/-- A row with one used cell. -/
def singleCell (n : Nat) (text : Str) (hn : 1 ≤ n) : XLRow where
  cells := [⟨n, text⟩]
  positive := by
    intro cell hcell
    obtain rfl := List.mem_singleton.mp hcell
    exact hn
  increasing := List.pairwise_singleton _ _

/-- Every row is aligned iff the header cells stand in the columns 1, 2, …
without offset or gap. -/
theorem forall_alignedRow_iff (first : XLRow) :
    (∀ row, AlignedRow first row)
      ↔ ∀ k header, first.cells[k]? = some header →
          header.columnNumber = k + 1 := by
  constructor
  · intro h k header hheader
    by_contra hne
    have hrow := h (singleCell (k + 1) (str "x") (Nat.le_add_left 1 k)) k
      header hheader
    have hfound : (singleCell (k + 1) (str "x")
        (Nat.le_add_left 1 k)).cellText (k + 1) = str "x" := by
      simp [XLRow.cellText, singleCell]
    have hmissed : (singleCell (k + 1) (str "x")
        (Nat.le_add_left 1 k)).cellText header.columnNumber = [] := by
      simp [XLRow.cellText, singleCell, Ne.symm hne]
    rw [hfound, hmissed] at hrow
    exact absurd hrow (by decide)
  · intro h row k header hheader
    rw [h k header hheader]

-- ========================================================== without headers

/-- The columns are named after different numbers. -/
theorem nodup_columnNames (first : XLRow) :
    (first.cells.map (columnName false)).Nodup := by
  unfold List.Nodup
  rw [List.pairwise_map]
  refine first.increasing.imp fun {a b} hlt heq => ?_
  have hnumber := natText_inj (List.append_cancel_left heq)
  omega

/-- A default name is not empty. -/
theorem columnName_ne_nil (cell : XLCell) : columnName false cell ≠ [] := by
  intro h
  exact absurd (List.append_eq_nil_iff.mp h).1 (by decide)

/-- Without headers every used row becomes a row, the first one too, which
has given the columns their names. -/
theorem excelTable_of_rows {ws : Worksheet} {first : XLRow}
    {later : List XLRow} (h : ws.rowsUsed = first :: later) :
    excelTable false ws
      = .ok (sheetTable (first.cells.map (columnName false))
          (first :: later)) := by
  have hadd := @foldlM_add_of_nodup (first.cells.map (columnName false)) {}
    (nodup_columnNames first) (by
      intro name hname
      obtain ⟨cell, -, rfl⟩ := List.mem_map.mp hname
      exact columnName_ne_nil cell)
  unfold excelTable
  rw [h]
  dsimp only
  rw [hadd]
  rfl

/-- So every worksheet has a table, -/
theorem exists_excelTable_false (ws : Worksheet) :
    ∃ table, excelTable false ws = .ok table := by
  cases h : ws.rowsUsed with
  | nil =>
      refine ⟨.empty, ?_⟩
      unfold excelTable
      rw [h]
  | cons first later => exact ⟨_, excelTable_of_rows h⟩

/-- and every workbook a data set. -/
theorem exists_excelToDataSet_false (workbook : Workbook) :
    ∃ ds, excelToDataSet (some workbook) false = some ds := by
  simp only [excelToDataSet_eq_some_iff]
  induction workbook.worksheets with
  | nil => exact ⟨[], List.Forall₂.nil⟩
  | cons ws sheets ih =>
      obtain ⟨table, htable⟩ := exists_excelTable_false ws
      obtain ⟨ds, hds⟩ := ih
      exact ⟨(ws.name, table) :: ds, List.Forall₂.cons ⟨htable, rfl⟩ hds⟩

/-- In each row the column named after a used cell of the first row has the
text of that cell's column. -/
def KeepsColumns (ws : Worksheet) (table : DataTable) : Prop :=
  ∀ r row, ws.rowsUsed[r]? = some row → ∀ first ∈ ws.rowsUsed.head?,
    ∀ cell ∈ first.cells, table.cellAt r (columnName false cell)
      = some (row.cellText cell.columnNumber)

/-- Without headers the import of a workbook never fails, whatever texts the
cells have; each worksheet has one table, with a row for every used row,
and its columns hold what their names say iff each row, the first one too,
has the texts of the first row's columns at the positions 1, 2, … too. -/
theorem import_without_headers (workbook : Workbook) :
    ∃ ds, excelToDataSet (some workbook) false = some ds
      ∧ ∀ ws ∈ workbook.worksheets, ∃ table,
        (∀ t, (ws.name, t) ∈ ds ↔ t = table)
          ∧ table.rows.length = ws.rowsUsed.length
          ∧ (KeepsColumns ws table
            ↔ ∀ first ∈ ws.rowsUsed.head?, ∀ row ∈ ws.rowsUsed,
                AlignedRow first row) := by
  obtain ⟨ds, hds⟩ := exists_excelToDataSet_false workbook
  refine ⟨ds, hds, ?_⟩
  intro ws hws
  obtain ⟨table, htable⟩ := exists_excelTable_false ws
  refine ⟨table, mem_dataSet_iff hds hws htable, ?_⟩
  unfold KeepsColumns
  cases hrows : ws.rowsUsed with
  | nil =>
      unfold excelTable at htable
      rw [hrows] at htable
      obtain rfl := Except.ok.inj htable
      exact ⟨rfl, by simp⟩
  | cons first later =>
      rw [excelTable_of_rows hrows] at htable
      obtain rfl := Except.ok.inj htable
      have hcell : ∀ {r row}, (first :: later)[r]? = some row →
          ∀ {k cell}, first.cells[k]? = some cell →
            (sheetTable (first.cells.map (columnName false))
              (first :: later)).cellAt r (columnName false cell)
              = some (row.cellText (k + 1)) := by
        intro r row hrow k cell hk
        apply cellAt_sheetTable (nodup_columnNames first) hrow
        rw [List.getElem?_map, hk, Option.map_some]
      refine ⟨List.length_map _, ?_⟩
      constructor
      · intro hkeeps first' hfirst row hrow k cell hk
        obtain rfl := Option.some.inj hfirst
        obtain ⟨r, hr⟩ := List.mem_iff_getElem?.mp hrow
        have hvalue := hkeeps r row hr first rfl cell
          (List.mem_of_getElem? hk)
        rw [hcell hr hk] at hvalue
        exact Option.some.inj hvalue
      · intro haligned r row hr first' hfirst cell hcells
        obtain rfl := Option.some.inj hfirst
        obtain ⟨k, hk⟩ := List.mem_iff_getElem?.mp hcells
        rw [hcell hr hk,
          haligned first rfl row (List.mem_of_getElem? hr) k cell hk]

end SkillBuddy.Helper
