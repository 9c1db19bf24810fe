/-
`CsvToDataTableSimple` behind `DataTableToCsv`.

# Fields

The reader takes the rows apart as the writer put them together. A cell
that contains the separator is written between quotes, any other as it
is; either way the reader passes it as one piece (`segments_csvField`),
and its token is the cell's text (`token_csvField`). For this the text
must not have quotes of its own, nor white space at its ends that the
reader would trim (`Tidy`).

# Rows

So a row's line is cut into its fields (`segments_rowLine`), and the row
that is read has the texts of the row that was written
(`map_cellText_rowRead`): an empty last cell that is not read is
`DBNull`, which has the same text. Lines of white space are skipped, and
the rows without anything to be seen make such lines
(`isNullOrWhiteSpace_rowLine`), so they are not read; all others are, in
order (`reads_written`).

# The header

The header, which the writer does not quote, is cut at every separator.
A name with a separator in it becomes several columns. Nothing else is
lost: the whole table comes back exactly if no name has a separator and
no row is blank (`round_trip_iff`). For the direction back the numbers
are enough, because a name that is cut makes the header longer, and a
skipped row makes the table shorter.
-/
import SkillBuddy.Core.Csv
import SkillBuddy.Lib.Joined

namespace SkillBuddy.Helper

open DotNet
open Lib.Quoted (consHead foldr_consHead)

variable {newLine : NewLine} {separator : CodeUnit}

-- ============================================================ tidy texts

/-- A text without quotes and line breaks, and with no white space at its
ends. -/
structure Tidy (s : Str) : Prop where
  no_quote : unit '"' ∉ s
  oneLine : OneLine s
  no_leading : s.head?.any isWhiteSpace = false
  no_trailing : s.getLast?.any isWhiteSpace = false

instance (s : Str) : Decidable (Tidy s) :=
  decidable_of_iff ((unit '"' ∉ s ∧ cr ∉ s ∧ lf ∉ s)
      ∧ s.head?.any isWhiteSpace = false
      ∧ s.getLast?.any isWhiteSpace = false)
    ⟨fun ⟨⟨hquote, hline⟩, hhead, hlast⟩ => ⟨hquote, hline, hhead, hlast⟩,
      fun h => ⟨⟨h.no_quote, h.oneLine⟩, h.no_leading, h.no_trailing⟩⟩

/-- A tidy text is trimmed. -/
theorem Tidy.trim_eq {s : Str} (h : Tidy s) : trim s = s := by
  have hhead : s.dropWhile isWhiteSpace = s := by
    cases s with
    | nil => rfl
    | cons c cs =>
        have hc : isWhiteSpace c = false := h.no_leading
        rw [List.dropWhile_cons_of_neg]
        rw [hc]
        exact Bool.false_ne_true
  unfold trim
  rw [hhead, List.rdropWhile_eq_self_iff]
  intro hne hlast
  have htrailing := h.no_trailing
  rw [List.getLast?_eq_some_getLast hne] at htrailing
  exact Bool.false_ne_true (htrailing.symm.trans hlast)

/-- A tidy text of white space is empty: its first letter would be white
space at its end. -/
theorem Tidy.eq_nil {s : Str} (h : Tidy s)
    (hs : ∀ c ∈ s, isWhiteSpace c = true) : s = [] := by
  cases s with
  | nil => rfl
  | cons c cs =>
      have hc : isWhiteSpace c = false := h.no_leading
      exact absurd (hs c List.mem_cons_self) (by rw [hc]; decide)

-- ================================================================= fields

/-- A field holds its text. -/
theorem mem_csvField {cell : Option Str} {c : CodeUnit}
    (h : c ∈ cellText cell) : c ∈ csvField separator cell := by
  by_cases hmem : separator ∈ cellText cell
  · rw [csvField_of_mem hmem]
    exact List.mem_cons_of_mem _ (List.mem_append_left _ h)
  · rw [csvField_of_notMem hmem]
    exact h

/-- The token of a field is its text. -/
theorem token_csvField {cell : Option Str} (h : Tidy (cellText cell)) :
    token (unit '"') (csvField separator cell) = cellText cell := by
  have hfilter : (cellText cell).filter (· ≠ unit '"') = cellText cell := by
    apply List.filter_eq_self.mpr
    intro c hc
    exact decide_eq_true fun hquote => h.no_quote (hquote ▸ hc)
  unfold token
  by_cases hmem : separator ∈ cellText cell
  · have hquotes : (csvField separator cell).filter (· ≠ unit '"')
        = (cellText cell).filter (· ≠ unit '"') := by
      rw [csvField_of_mem hmem]
      simp
    rw [hquotes, hfilter, h.trim_eq]
  · rw [csvField_of_notMem hmem, hfilter, h.trim_eq]

-- =============================================================== segments

/-- Letters without a meaning are passed, outside of quotes. -/
theorem segments_plain {qualifier : CodeUnit} {v : Str}
    (hq : qualifier ∉ v) (hs : separator ∉ v) (cs : Str) :
    segments separator qualifier false (v ++ cs)
      = v.foldr consHead (segments separator qualifier false cs) := by
  induction v with
  | nil => rfl
  | cons c v ih =>
      rw [List.mem_cons, not_or] at hq hs
      rw [List.cons_append, segments, if_neg (Ne.symm hq.1),
        if_neg fun h => hs.1 h.1.symm, ih hq.2 hs.2, List.foldr_cons]

/-- Everything is passed up to the closing quote, separators too. -/
theorem segments_quoted {qualifier : CodeUnit} {v : Str}
    (hq : qualifier ∉ v) (cs : Str) :
    segments separator qualifier true (v ++ qualifier :: cs)
      = (v ++ [qualifier]).foldr consHead
          (segments separator qualifier false cs) := by
  induction v with
  | nil =>
      rw [List.nil_append, segments, if_pos rfl]
      rfl
  | cons c v ih =>
      rw [List.mem_cons, not_or] at hq
      rw [List.cons_append, segments, if_neg (Ne.symm hq.1),
        if_neg fun h => Bool.noConfusion h.2, ih hq.2]
      rfl

/-- A field is passed as a whole. -/
theorem segments_csvField {cell : Option Str}
    (h : unit '"' ∉ cellText cell) (cs : Str) :
    segments separator (unit '"') false (csvField separator cell ++ cs)
      = (csvField separator cell).foldr consHead
          (segments separator (unit '"') false cs) := by
  by_cases hmem : separator ∈ cellText cell
  · rw [csvField_of_mem hmem, List.cons_append, List.append_assoc,
      List.singleton_append, segments, if_pos rfl, List.foldr_cons]
    exact congrArg (consHead _) (segments_quoted h cs)
  · rw [csvField_of_notMem hmem]
    exact segments_plain h hmem cs

/-- The line of a row. -/
def rowLine (separator : CodeUnit) (row : List (Option Str)) : Str :=
  csvLine separator (row.map (csvField separator))

/-- A row's line is cut into its fields. -/
theorem segments_rowLine (hsep : IsSeparator separator) :
    ∀ {row : List (Option Str)}, row ≠ [] →
      (∀ cell ∈ row, unit '"' ∉ cellText cell) →
      segments separator (unit '"') false (rowLine separator row)
        = row.map (csvField separator) := by
  intro row
  induction row with
  | nil => exact fun hne => absurd rfl hne
  | cons cell cells ih =>
      intro _ hquote
      rw [List.forall_mem_cons] at hquote
      have hfield := @segments_csvField separator cell hquote.1
      cases cells with
      | nil =>
          have hline : rowLine separator [cell]
              = csvField separator cell ++ [] := by
            unfold rowLine csvLine
            rw [List.map_singleton, List.intercalate_singleton,
              List.append_nil]
          rw [hline, hfield, segments, foldr_consHead, List.append_nil]
          rfl
      | cons cell' cells =>
          have hline : rowLine separator (cell :: cell' :: cells)
              = csvField separator cell
                ++ separator :: rowLine separator (cell' :: cells) := by
            unfold rowLine csvLine
            rw [List.map_cons, List.map_cons, List.intercalate_cons_cons,
              List.append_assoc, List.singleton_append]
          rw [hline, hfield, segments, if_neg hsep.ne_quote,
            if_pos ⟨rfl, rfl⟩, ih (List.cons_ne_nil _ _) hquote.2,
            foldr_consHead, List.append_nil,
            List.map_cons (a := cell)]

-- =================================================================== rows

/-- The texts of a row: its content, and nothing for the cells behind. -/
theorem map_cellText_fillRow {n : Nat} {content : List Str}
    (h : content.length ≤ n) :
    (fillRow n content).map cellText
      = content ++ List.replicate (n - content.length) [] := by
  apply List.ext_getElem
  · simp only [fillRow, List.length_map, List.length_range,
      List.length_append, List.length_replicate]
    omega
  · intro i _ _
    simp only [fillRow, List.getElem_map, List.getElem_range]
    by_cases hi : i < content.length
    · rw [List.getElem_append_left hi, List.getElem?_eq_getElem hi]
      rfl
    · rw [List.getElem_append_right (Nat.le_of_not_lt hi),
        List.getElem_replicate,
        List.getElem?_eq_none (Nat.le_of_not_lt hi)]
      rfl

/-- An empty last piece that is dropped is an empty cell. -/
theorem map_cellText_fillRow_dropLastEmpty (qualifier : CodeUnit)
    (raws : List Str) :
    (fillRow raws.length
        ((dropLastEmpty raws).map (token qualifier))).map cellText
      = raws.map (token qualifier) := by
  unfold dropLastEmpty
  split
  case isTrue h =>
    obtain ⟨init, rfl⟩ := List.getLast?_eq_some_iff.mp h
    rw [List.dropLast_concat, map_cellText_fillRow (by simp)]
    simp only [List.length_append, List.length_map, List.length_singleton,
      Nat.add_sub_cancel_left, List.map_append]
    rfl
  case isFalse h =>
    rw [map_cellText_fillRow (by simp), List.length_map, Nat.sub_self,
      List.replicate_zero, List.append_nil]

/-- The row that is read from a row's line. -/
def rowRead (separator : CodeUnit) (row : List (Option Str)) :
    List (Option Str) :=
  fillRow row.length
    ((dropLastEmpty (row.map (csvField separator))).map (token (unit '"')))

/-- It is read: the pieces are as many as the columns, or one fewer. -/
theorem csvRow_rowLine (hsep : IsSeparator separator)
    {row : List (Option Str)} (hne : row ≠ [])
    (htidy : ∀ cell ∈ row, Tidy (cellText cell)) :
    csvRow row.length separator (some (unit '"')) (rowLine separator row)
      = .ok (rowRead separator row) := by
  show (csvParser _ _ _).map _ = _
  rw [csvParser_eq, segments_rowLine hsep hne fun cell hcell =>
    (htidy cell hcell).no_quote]
  rfl

/-- It has the row's texts. -/
theorem map_cellText_rowRead {row : List (Option Str)}
    (htidy : ∀ cell ∈ row, Tidy (cellText cell)) :
    (rowRead separator row).map cellText = row.map cellText := by
  have hread := map_cellText_fillRow_dropLastEmpty (unit '"')
    (row.map (csvField separator))
  rw [List.length_map, List.map_map] at hread
  unfold rowRead
  rw [hread]
  apply List.map_congr_left
  intro cell hcell
  exact token_csvField (htidy cell hcell)

/-- A row with nothing to be seen in its line: empty cells, and white
space between them. -/
def BlankRow (separator : CodeUnit) (row : List (Option Str)) : Prop :=
  (∀ cell ∈ row, cellText cell = [])
    ∧ (2 ≤ row.length → isWhiteSpace separator = true)

instance (separator : CodeUnit) (row : List (Option Str)) :
    Decidable (BlankRow separator row) :=
  inferInstanceAs (Decidable (_ ∧ _))

/-- The lines of blank rows are skipped, and no others: what a cell has to
show is to be seen in its line. -/
theorem isNullOrWhiteSpace_rowLine {row : List (Option Str)}
    (htidy : ∀ cell ∈ row, Tidy (cellText cell)) :
    isNullOrWhiteSpace (rowLine separator row)
      = decide (BlankRow separator row) := by
  rw [Bool.eq_iff_iff, decide_eq_true_iff]
  unfold isNullOrWhiteSpace rowLine csvLine BlankRow
  rw [List.all_eq_true, Lib.forall_mem_intercalate, List.forall_mem_map,
    List.length_map]
  apply and_congr_left
  intro _
  constructor
  · intro hblank cell hcell
    exact (htidy cell hcell).eq_nil fun c hc =>
      hblank cell hcell c (mem_csvField hc)
  · intro hempty cell hcell c hc
    have hfield : csvField separator cell = [] := by
      rw [csvField_of_notMem, hempty cell hcell]
      rw [hempty cell hcell]
      exact List.not_mem_nil
    rw [hfield] at hc
    cases hc

-- ================================================================= tables

/-- A text is on one line exactly if all its letters are no line breaks. -/
theorem oneLine_iff {s : Str} : OneLine s ↔ ∀ c ∈ s, c ≠ cr ∧ c ≠ lf := by
  constructor
  · intro hline c hc
    obtain ⟨hcr, hlf⟩ := hline
    exact ⟨fun h => hcr (h ▸ hc), fun h => hlf (h ▸ hc)⟩
  · intro h
    exact ⟨fun hc => (h cr hc).1 rfl, fun hc => (h lf hc).2 rfl⟩

/-- Values on one line make one line. -/
theorem oneLine_csvLine (hsep : IsSeparator separator) {values : List Str}
    (h : ∀ value ∈ values, OneLine value) :
    OneLine (csvLine separator values) := by
  unfold csvLine
  rw [oneLine_iff, Lib.forall_mem_intercalate]
  constructor
  · exact fun value hvalue => oneLine_iff.mp (h value hvalue)
  · exact fun _ => ⟨hsep.ne_cr, hsep.ne_lf⟩

/-- A field is on one line if its text is. -/
theorem oneLine_csvField {cell : Option Str}
    (h : OneLine (cellText cell)) : OneLine (csvField separator cell) := by
  by_cases hmem : separator ∈ cellText cell
  · rw [oneLine_iff] at h
    rw [csvField_of_mem hmem, oneLine_iff, List.forall_mem_cons,
      List.forall_mem_append, List.forall_mem_singleton]
    exact ⟨by decide, h, by decide⟩
  · rw [csvField_of_notMem hmem]
    exact h

/-- A table with columns, and only tidy texts. -/
structure TidyTable (t : DataTable) : Prop where
  columns_ne_nil : t.columns ≠ []
  nodup : t.columns.Nodup
  name_ne_nil : ∀ name ∈ t.columns, name ≠ []
  tidy_name : ∀ name ∈ t.columns, Tidy name
  tidy_cell : ∀ row ∈ t.rows, ∀ cell ∈ row, Tidy (cellText cell)

/-- A row has a cell. -/
theorem TidyTable.row_ne_nil {t : DataTable} (ht : TidyTable t)
    {row : List (Option Str)} (hrow : row ∈ t.rows) : row ≠ [] := by
  intro h
  subst h
  have hlength := t.length_row [] hrow
  exact ht.columns_ne_nil (List.length_eq_zero_iff.mp hlength.symm)

/-- What the reader does with a written table: it cuts the header's line,
and reads the rows'. No line is cut in two, because no text has a line
break. -/
theorem csvToDataTableSimple_of_written (hsep : IsSeparator separator)
    {t : DataTable} (ht : TidyTable t) {file : CsvFile}
    (hfile : file.text = dataTableToCsv newLine t separator true) :
    csvToDataTableSimple file separator
      = (((csvLine separator t.columns).splitOn separator).foldlM
          Columns.add {}).bind fun csvColumns =>
            csvTable csvColumns.names separator (some (unit '"'))
              (t.rows.map (rowLine separator)) := by
  have hheader : OneLine (csvLine separator t.columns) :=
    oneLine_csvLine hsep fun name hname => (ht.tidy_name name hname).oneLine
  have hlines : ∀ line ∈ t.rows.map (rowLine separator), OneLine line := by
    refine List.forall_mem_map.mpr fun row hrow => ?_
    refine oneLine_csvLine hsep (List.forall_mem_map.mpr fun cell hcell => ?_)
    exact oneLine_csvField (ht.tidy_cell row hrow cell hcell).oneLine
  have htext : file.text = csvLine separator t.columns ++ (newLine.text
      ++ (t.rows.map (rowLine separator)).flatMap (· ++ newLine.text)) := by
    rw [hfile, ← List.append_assoc]
    rfl
  unfold csvToDataTableSimple
  rw [htext, readLine_append hheader]
  simp only [if_true]
  rw [readLines_flatMap newLine hlines]
  rfl

/-- The lines that are not skipped are those of the rows that are not
blank. -/
theorem filter_rowLine {t : DataTable} (ht : TidyTable t) :
    (t.rows.map (rowLine separator)).filter
        (fun line => !isNullOrWhiteSpace line)
      = (t.rows.filter fun row => ¬BlankRow separator row).map
          (rowLine separator) := by
  rw [List.filter_map]
  refine congrArg _ (List.filter_congr fun row hrow => ?_)
  rw [Function.comp_apply, isNullOrWhiteSpace_rowLine (ht.tidy_cell row hrow),
    decide_not]

/-- The rows that are read. -/
theorem csvRows_written (hsep : IsSeparator separator) {t : DataTable}
    (ht : TidyTable t) :
    csvRows t.columns.length separator (some (unit '"'))
        (t.rows.map (rowLine separator))
      = .ok ((t.rows.filter fun row => ¬BlankRow separator row).map
          (rowRead separator)) := by
  unfold csvRows
  rw [filter_rowLine ht, mapM_eq_ok_iff, List.forall₂_map_left_iff,
    List.forall₂_map_right_iff, List.forall₂_same]
  intro row hmem
  have hrow := List.mem_of_mem_filter hmem
  rw [← t.length_row row hrow]
  exact csvRow_rowLine hsep (ht.row_ne_nil hrow) (ht.tidy_cell row hrow)

/-- A table without separators in its names is read, but for its blank
rows. -/
theorem exists_table_of_written (hsep : IsSeparator separator)
    {t : DataTable} (ht : TidyTable t)
    (hnames : ∀ name ∈ t.columns, separator ∉ name) {file : CsvFile}
    (hfile : file.text = dataTableToCsv newLine t separator true) :
    ∃ t', csvToDataTableSimple file separator = .ok t'
      ∧ t'.columns = t.columns
      ∧ t'.rows = (t.rows.filter fun row => ¬BlankRow separator row).map
          (rowRead separator) := by
  have hrows := csvRows_written hsep ht
  have hadd : ((csvLine separator t.columns).splitOn separator).foldlM
      Columns.add {} = .ok { names := t.columns } := by
    have hsplit : (csvLine separator t.columns).splitOn separator
        = t.columns := List.splitOn_intercalate _ hnames ht.columns_ne_nil
    rw [hsplit]
    exact foldlM_add_of_nodup ht.nodup ht.name_ne_nil
  refine ⟨⟨t.columns, _, length_of_csvRows hrows⟩, ?_, rfl, rfl⟩
  rw [csvToDataTableSimple_of_written hsep ht hfile, hadd]
  exact csvTable_eq_ok_iff.mpr ⟨rfl, hrows⟩

/-- The texts of the rows that are read. -/
theorem map_rowRead {t : DataTable} (ht : TidyTable t)
    {rows : List (List (Option Str))} (hsub : rows ⊆ t.rows) :
    (rows.map (rowRead separator)).map (List.map cellText)
      = rows.map (List.map cellText) := by
  rw [List.map_map]
  apply List.map_congr_left
  intro row hrow
  exact map_cellText_rowRead (ht.tidy_cell row (hsub hrow))

-- ============================================================= round trip

/-- A written table is read with its names and, in order, the texts of its
rows: all but the blank ones. -/
theorem reads_written (newLine : NewLine) {separator : CodeUnit}
    (hsep : IsSeparator separator) {t : DataTable} (ht : TidyTable t)
    (hnames : ∀ name ∈ t.columns, separator ∉ name) (file : CsvFile)
    (hfile : file.text = dataTableToCsv newLine t separator true) :
    ∃ t', csvToDataTableSimple file separator = .ok t'
      ∧ t'.columns = t.columns
      ∧ t'.rows.map (List.map cellText)
        = (t.rows.filter fun row => ¬BlankRow separator row).map
            (List.map cellText) := by
  obtain ⟨t', hread, hcolumns, hrows⟩ :=
    exists_table_of_written hsep ht hnames hfile
  refine ⟨t', hread, hcolumns, ?_⟩
  rw [hrows, map_rowRead ht (List.filter_subset_self _)]

/-- The whole table is read back exactly if no name contains the separator
and no row is blank. -/
theorem round_trip_iff (hsep : IsSeparator separator) {t : DataTable}
    (ht : TidyTable t) {file : CsvFile}
    (hfile : file.text = dataTableToCsv newLine t separator true) :
    (∃ t', csvToDataTableSimple file separator = .ok t'
        ∧ csvValues t' = csvValues t)
      ↔ (∀ name ∈ t.columns, separator ∉ name)
        ∧ ∀ row ∈ t.rows, ¬BlankRow separator row := by
  constructor
  · intro h
    obtain ⟨t', hread, hvalues⟩ := h
    obtain ⟨hcolumns, hrows⟩ := List.cons.inj hvalues
    rw [csvToDataTableSimple_of_written hsep ht hfile] at hread
    cases hadd : ((csvLine separator t.columns).splitOn separator).foldlM
        Columns.add {} with
    | error e =>
        rw [hadd] at hread
        cases hread
    | ok csvColumns =>
        rw [hadd] at hread
        obtain ⟨hnames, hlines⟩ := csvTable_eq_ok_iff.mp hread
        rw [← hnames, hcolumns, csvRows_written hsep ht] at hlines
        constructor
        · -- every piece of the header has become a column
          have hlength := length_foldlM_add hadd
          rw [← hnames, hcolumns] at hlength
          apply (Lib.length_splitOn_intercalate ht.columns_ne_nil).mp
          exact (hlength.trans (Nat.zero_add _)).symm
        · -- every row has been read
          have hcount := congrArg List.length hrows
          rw [← Except.ok.inj hlines, List.length_map, List.length_map,
            List.length_map] at hcount
          have hall := List.length_filter_eq_length_iff.mp hcount
          exact fun row hrow => of_decide_eq_true (hall row hrow)
  · intro h
    obtain ⟨hnames, hrows⟩ := h
    obtain ⟨t', hread, hcolumns, hread'⟩ :=
      exists_table_of_written hsep ht hnames hfile
    have hfilter : (t.rows.filter fun row => ¬BlankRow separator row)
        = t.rows :=
      List.filter_eq_self.mpr fun row hrow => decide_eq_true (hrows row hrow)
    refine ⟨t', hread, ?_⟩
    unfold csvValues
    rw [hcolumns, hread', hfilter, map_rowRead ht (List.Subset.refl _)]

-- =============================================================== examples

/-- Two courses, one with a comma in its name and no teacher. -/
private def courses : DataTable where
  columns := [str "Course", str "Teacher"]
  rows := [[some (str "Lean"), some (str "Ann")],
    [some (str "Logic, basic"), none]]
  length_row := by decide

/-- The file of a table, on Unix. -/
private def fileOf (t : DataTable)
    (h : (dataTableToCsv .unix t (unit ',') true).head? ≠ some 0xFEFF) :
    CsvFile where
  text := dataTableToCsv .unix t (unit ',') true
  marked := fun hmark => absurd hmark h

/-- The courses are read. -/
theorem reads_written_courses :
    ∃ t', csvToDataTableSimple (fileOf courses (by decide)) (unit ',')
        = .ok t'
      ∧ t'.columns = courses.columns
      ∧ t'.rows.map (List.map cellText)
        = (courses.rows.filter fun row => ¬BlankRow (unit ',') row).map
            (List.map cellText) :=
  reads_written .unix isSeparator_comma
    ⟨by decide, by decide, by decide, by decide, by decide⟩ (by decide)
    (fileOf courses (by decide)) rfl

/-- A column with a comma in its name. -/
private def commaName : DataTable where
  columns := [str "Price, net"]
  rows := [[some (str "12")]]
  length_row := by decide

/-- One column, and a row without content. -/
private def noContent : DataTable where
  columns := [str "Note"]
  rows := [[some (str "late")], [none]]
  length_row := by decide

/-- The name becomes two columns, and the row without content is lost. -/
theorem round_trip_lost :
    TidyTable commaName ∧ TidyTable noContent
    ∧ (csvToDataTableSimple (fileOf commaName (by decide))
        (unit ',')).map csvValues
      = .ok [[str "Price", str " net"], [str "12", []]]
    ∧ csvValues commaName = [[str "Price, net"], [str "12"]]
    ∧ (csvToDataTableSimple (fileOf noContent (by decide))
        (unit ',')).map csvValues
      = .ok [[str "Note"], [str "late"]]
    ∧ csvValues noContent = [[str "Note"], [str "late"], [[]]] :=
  ⟨⟨by decide, by decide, by decide, by decide, by decide⟩,
    ⟨by decide, by decide, by decide, by decide, by decide⟩,
    by rfl, by rfl, by rfl, by rfl⟩

end SkillBuddy.Helper
