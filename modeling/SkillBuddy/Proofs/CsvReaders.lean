/-
The two readers of CSV files, `CsvToDataTableSimple` and
`CsvToDataTableRegex`.

# Cutting

On a line whose quotes come in pairs the regular expression cuts at the
separators outside of quotes (`split_eq_segments`), as `CsvParser` does.
So from a file of such lines the two readers make the same table, up to
three things: `CsvToDataTableSimple` trims the cells, skips blank lines,
and stores `DBNull` for an empty last cell. To compare the tables
`trimmedValues` does to one what the other reader does: it trims, and it
drops the rows of blank lines, for which it needs the file, since a blank
line and one that is trimmed to nothing make the same row. Where one
reader throws, at a name that is there twice, the other throws the same
(`readers_agree`).

# Reading back

`CsvToDataTableRegex` neither trims nor skips: it reads back what
`DataTableToCsv` wrote whatever white space the cells have. What it loses
are the quotes of a cell, the line breaks, and the separators in a name,
which the writer does not quote (`regex_round_trip_iff`).

That a readable table is read back goes forwards: its lines are those that
were written, and each row is cut where it was joined
(`regexRow_rowLine`). That only a readable one is goes by what reading can
make at all: no line that is read has a line break, no name that is cut
off a header has the separator, no cell has a quote
(`oneLine_of_mem_readLines`, `forall_mem_foldlM_add`,
`forall_mem_regexRow`); so what is read shows the text that was written
only if that had none of them either.
-/
import SkillBuddy.Proofs.CsvRoundTrip
import SkillBuddy.Proofs.RegexSplitting
import SkillBuddy.Proofs.SuppliedHeader

namespace SkillBuddy.Helper

open DotNet
open Lib (Regex)

variable {newLine : NewLine} {separator : CodeUnit}

-- ================================================================ cutting

/-- The expression of a separator without a role, as it is accepted. -/
def separatorRegex (separator : CodeUnit) : Regex CodeUnit :=
  delimited (.letter false [separator])

/-- On a line whose quotes come in pairs the expression cuts at the
separators outside of quotes: an even number behind a place is an even
number before it. -/
theorem split_eq_segments {line : Str} (hne : separator ≠ unit '"')
    (heven : Even (line.count (unit '"'))) :
    (separatorRegex separator).split line
      = segments separator (unit '"') false line := by
  have hsegments := segments_eq_cutFrom hne [] line
  rw [List.nil_append] at hsegments
  have hcuts : Lib.Cut.cutFrom (IsRegexCut false [separator] line) 0 line
      = Lib.Cut.cutFrom
          (IsOpenSeparator line separator (unit '"')) 0 line := by
    apply Lib.Cut.cutFrom_congr
    intro k _
    exact isRegexCut_iff_isOpenSeparator hne heven (0 + k)
  unfold separatorRegex
  rw [split_delimited_letter, hcuts, ← List.length_nil, ← hsegments]
  rfl

/-- The constructor accepts the expression of a separator without a role,
and the reader goes on to the file. -/
theorem csvToDataTableRegex_eq (hrole : separator ∉ patternRoles)
    (file : CsvFile) :
    csvToDataTableRegex file separator
      = some ((regexTable file separator
          (separatorRegex separator)).mapError .table) := by
  unfold csvToDataTableRegex
  rw [newRegex_csvPattern hrole]
  rfl

-- ================================================================== texts

/-- The texts of a row: what the content has for each column. -/
theorem map_cellText_fillRow_range (columns : Nat) (content : List Str) :
    (fillRow columns content).map cellText
      = (List.range columns).map fun i => content[i]?.getD [] := by
  unfold fillRow
  rw [List.map_map]
  rfl

/-- An empty last piece is empty also if it is dropped. -/
theorem getD_dropLastEmpty (raws : List Str) (i : Nat) :
    (dropLastEmpty raws)[i]?.getD [] = raws[i]?.getD [] := by
  unfold dropLastEmpty
  split
  case isFalse => rfl
  case isTrue h =>
    obtain ⟨init, rfl⟩ := List.getLast?_eq_some_iff.mp h
    rw [List.dropLast_concat]
    by_cases hi : i < init.length
    · rw [List.getElem?_append_left hi]
    · rw [List.getElem?_eq_none (Nat.le_of_not_lt hi)]
      cases hlast : (init ++ [[]])[i]? with
      | none => rfl
      | some raw =>
          -- behind the others there is only the empty one
          rw [List.getElem?_append_right (Nat.le_of_not_lt hi)] at hlast
          have hmem := List.mem_of_getElem? hlast
          rw [List.mem_singleton] at hmem
          rw [hmem]
          rfl

/-- A map that keeps the empty text may be applied behind the default. -/
theorem getD_map_nil {f : Str → Str} (hf : f [] = []) (raws : List Str)
    (i : Nat) : (raws.map f)[i]?.getD [] = f (raws[i]?.getD []) := by
  rw [List.getElem?_map]
  cases raws[i]? with
  | none => exact hf.symm
  | some raw => rfl

/-- From a line whose quotes come in pairs one reader stores the texts of
the other, trimmed. Both cut it into the same pieces, and that the last
one is dropped if it is empty changes no text. -/
theorem map_cellText_lineCells {line : Str} (hne : separator ≠ unit '"')
    (heven : Even (line.count (unit '"'))) (columns : Nat) :
    (fillRow columns (lineCells separator (some (unit '"')) line)).map
        cellText
      = (regexRow columns (separatorRegex separator) line).map
          (trim ∘ cellText) := by
  unfold regexRow
  rw [List.comp_map, map_cellText_fillRow_range, map_cellText_fillRow_range,
    List.map_map, split_eq_segments hne heven]
  refine List.map_congr_left fun i _ => ?_
  show ((dropLastEmpty (segments separator (unit '"') false line)).map
      (token (unit '"')))[i]?.getD [] = _
  rw [getD_map_nil (f := token (unit '"')) rfl, getD_dropLastEmpty,
    Function.comp_apply,
    getD_map_nil (f := fun raw => raw.filter (· ≠ unit '"')) rfl]
  rfl

-- ============================================================== two tables

/-- The lines behind the header's. -/
def bodyLines (file : CsvFile) : List Str :=
  (readLine file.text).elim [] fun p => readLines p.2

/-- What `CsvToDataTableSimple` makes of the table of the other reader:
the rows whose lines are not blank, trimmed. -/
def trimmedValues (file : CsvFile) (t : DataTable) : List (List Str) :=
  t.columns :: (((bodyLines file).zip t.rows).filter
    fun p => !isNullOrWhiteSpace p.1).map fun p => p.2.map (trim ∘ cellText)

/-- The rows of lines whose quotes come in pairs. -/
theorem map_tableRows {lines : List Str} (hne : separator ≠ unit '"')
    (heven : ∀ line ∈ lines, Even (line.count (unit '"')))
    (columns : Nat) :
    (tableRows separator (some (unit '"')) columns lines).map
        (List.map cellText)
      = ((lines.zip (lines.map
          (regexRow columns (separatorRegex separator)))).filter
            fun p => !isNullOrWhiteSpace p.1).map
              fun p => p.2.map (trim ∘ cellText) := by
  induction lines with
  | nil => rfl
  | cons line lines ih =>
      rw [List.forall_mem_cons] at heven
      have hrow := map_cellText_lineCells hne heven.1 columns
      rw [tableRows_cons, List.map_cons, List.zip_cons_cons,
        List.map_append, ih heven.2]
      by_cases hblank : isNullOrWhiteSpace line = true
      · rw [if_pos hblank, List.filter_cons_of_neg (by simpa using hblank)]
        rfl
      · rw [if_neg hblank, List.filter_cons_of_pos (by simpa using hblank),
          List.map_cons, hrow]
        rfl

/-- The two readers agree: for a separator that is neither the quote nor
a character with a role in a pattern, and a file whose rows' lines have an
even number of quotes each, they throw the same exception, or
`CsvToDataTableRegex` makes a row of every line, and
`CsvToDataTableSimple` has the same names and, trimmed, the rows of the
lines that are not blank. -/
theorem readers_agree {file : CsvFile} (hne : separator ≠ unit '"')
    (hrole : separator ∉ patternRoles)
    (heven : ∀ line ∈ bodyLines file, Even (line.count (unit '"'))) :
    ∃ read : Except CsvError DataTable,
      csvToDataTableRegex file separator = some (read.mapError .table)
        ∧ (∀ t, read = .ok t → t.rows.length = (bodyLines file).length)
        ∧ (csvToDataTableSimple file separator).map csvValues
          = read.map (trimmedValues file) := by
  refine ⟨_, csvToDataTableRegex_eq hrole file, ?_⟩
  unfold regexTable csvToDataTableSimple trimmedValues
  unfold bodyLines at heven ⊢
  cases hline : readLine file.text with
  | none =>
      refine ⟨fun t ht => ?_, rfl⟩
      obtain rfl := Except.ok.inj ht
      rfl
  | some p =>
      obtain ⟨header, rest⟩ := p
      rw [hline] at heven
      dsimp only [Option.elim_some] at heven ⊢
      rw [if_pos rfl, if_pos rfl]
      cases hadd : (header.splitOn separator).foldlM Columns.add {} with
      | error e =>
          refine ⟨fun t ht => ?_, rfl⟩
          cases ht
      | ok columns =>
          obtain ⟨t', ht', hrows⟩ := @csvTable_rows separator
            (some (unit '"')) columns.names (readLines rest)
          have hcolumns := (csvTable_eq_ok_iff.mp ht').1
          refine ⟨fun t ht => ?_, ?_⟩
          · obtain rfl := Except.ok.inj ht
            exact List.length_map _
          · show (csvTable _ _ _ _).map csvValues = _
            rw [ht']
            refine congrArg Except.ok ?_
            unfold csvValues
            rw [hcolumns, hrows, map_tableRows hne heven]

-- ============================================================ the lines

/-- A line that is read has no line break. -/
theorem oneLine_splitLine (text : Str) : OneLine (splitLine text).1 := by
  induction text with
  | nil => exact ⟨List.not_mem_nil, List.not_mem_nil⟩
  | cons c cs ih =>
      rw [splitLine]
      by_cases hlf : c = lf
      · rw [if_pos hlf]
        exact ⟨List.not_mem_nil, List.not_mem_nil⟩
      · rw [if_neg hlf]
        by_cases hcr : c = cr
        · rw [if_pos hcr]
          exact ⟨List.not_mem_nil, List.not_mem_nil⟩
        · rw [if_neg hcr]
          exact ⟨List.not_mem_cons_of_ne_of_not_mem (Ne.symm hcr) ih.1,
            List.not_mem_cons_of_ne_of_not_mem (Ne.symm hlf) ih.2⟩

/-- The line that is read first has none, therefore. -/
theorem oneLine_of_readLine {text line rest : Str}
    (h : readLine text = some (line, rest)) : OneLine line := by
  cases text with
  | nil => cases h
  | cons c cs =>
      have hline := oneLine_splitLine (c :: cs)
      rw [readLine, Option.some.injEq] at h
      rwa [h] at hline

/-- Nor has any of the lines. -/
theorem oneLine_of_mem_readLines {text line : Str}
    (h : line ∈ readLines text) : OneLine line := by
  have hall : ∀ (n : Nat) (text : Str),
      ∀ line ∈ readLinesFrom n text, OneLine line := by
    intro n
    induction n with
    | zero => exact fun text line hline => absurd hline List.not_mem_nil
    | succ n ih =>
        intro text
        rw [readLinesFrom]
        cases hread : readLine text with
        | none => exact fun line hline => absurd hline List.not_mem_nil
        | some p =>
            exact List.forall_mem_cons.mpr
              ⟨oneLine_of_readLine hread, ih p.2⟩
  exact hall text.length text line h

-- ============================================================== the names

/-- What holds of the names that are added, and of the default ones,
holds of the columns' names. -/
theorem forall_mem_foldlM_add {p : Str → Prop}
    (hdefault : ∀ index, p (makeName index)) {names : List Str}
    (hnames : ∀ name ∈ names, p name) :
    ∀ {columns columns' : Columns},
      names.foldlM Columns.add columns = .ok columns' →
      (∀ name ∈ columns.names, p name) →
      ∀ name ∈ columns'.names, p name := by
  induction names with
  | nil =>
      intro columns columns' h hcolumns
      obtain rfl := Except.ok.inj h
      exact hcolumns
  | cons name names ih =>
      intro columns columns' h hcolumns
      rw [List.forall_mem_cons] at hnames
      rw [List.foldlM_cons] at h
      cases hadd : columns.add name with
      | error e =>
          rw [hadd] at h
          cases h
      | ok added =>
          rw [hadd] at h
          refine ih hnames.2 h ?_
          unfold Columns.add at hadd
          split at hadd
          · obtain rfl := Except.ok.inj hadd
            exact List.forall_mem_append.mpr
              ⟨hcolumns, List.forall_mem_singleton.mpr (hdefault _)⟩
          · split at hadd
            · cases hadd
            · obtain rfl := Except.ok.inj hadd
              exact List.forall_mem_append.mpr
                ⟨hcolumns, List.forall_mem_singleton.mpr hnames.1⟩

/-- A default name has no line break. -/
theorem oneLine_makeName (index : Nat) : OneLine (makeName index) := by
  unfold OneLine makeName
  rw [List.mem_append, List.mem_append, not_or, not_or]
  refine ⟨⟨by decide, fun h => ?_⟩, by decide, fun h => ?_⟩
  · exact absurd (mem_natText h).1 (by decide)
  · exact absurd (mem_natText h).1 (by decide)

/-- The pieces of a line have no line break either. -/
theorem oneLine_of_mem_splitOn {line piece : Str} (hline : OneLine line)
    (h : piece ∈ line.splitOn separator) : OneLine piece := by
  have hjoin :
      List.intercalate [separator] (line.splitOn separator) = line :=
    List.intercalate_splitOn separator
  rw [oneLine_iff] at hline ⊢
  rw [← hjoin, Lib.forall_mem_intercalate] at hline
  exact hline.1 piece h

-- =============================================================== the cells

/-- The cells of a row that is read have no quotes and no line breaks. -/
theorem forall_mem_regexRow {columns : Nat} {line : Str}
    (hline : OneLine line) :
    ∀ cell ∈ regexRow columns (separatorRegex separator) line,
      OneLine (cellText cell) ∧ unit '"' ∉ cellText cell := by
  have hpiece : ∀ d : CodeUnit, d ∉ line →
      ∀ piece ∈ (separatorRegex separator).split line, d ∉ piece := by
    intro d hd
    unfold separatorRegex
    rw [split_delimited_letter, Lib.Cut.forall_notMem_cutFrom_iff]
    exact fun k hk => absurd (List.mem_of_getElem? hk) hd
  intro cell hcell
  unfold regexRow fillRow at hcell
  obtain ⟨i, -, rfl⟩ := List.mem_map.mp hcell
  cases hget : (((separatorRegex separator).split line).map
      (·.filter (· ≠ unit '"')))[i]? with
  | none => exact ⟨⟨List.not_mem_nil, List.not_mem_nil⟩, List.not_mem_nil⟩
  | some text =>
      obtain ⟨piece, hmem, rfl⟩ :=
        List.mem_map.mp (List.mem_of_getElem? hget)
      obtain ⟨hcr, hlf⟩ := hline
      refine ⟨⟨fun h => ?_, fun h => ?_⟩, fun h => ?_⟩
      · exact hpiece cr hcr piece hmem (List.mem_of_mem_filter h)
      · exact hpiece lf hlf piece hmem (List.mem_of_mem_filter h)
      · exact of_decide_eq_true (List.mem_filter.mp h).2 rfl

/-- Without its quotes a field is its text, if that has none. -/
theorem filter_csvField {cell : Option Str}
    (h : unit '"' ∉ cellText cell) :
    (csvField separator cell).filter (· ≠ unit '"') = cellText cell := by
  have htext : (cellText cell).filter (· ≠ unit '"') = cellText cell := by
    apply List.filter_eq_self.mpr
    intro c hc
    exact decide_eq_true fun hquote => h (hquote ▸ hc)
  by_cases hmem : separator ∈ cellText cell
  · rw [csvField_of_mem hmem, List.filter_cons_of_neg (by simp),
      List.filter_append, htext, List.filter_cons_of_neg (by simp),
      List.filter_nil, List.append_nil]
  · rw [csvField_of_notMem hmem, htext]

/-- Its quotes come in pairs. -/
theorem even_count_csvField {cell : Option Str}
    (h : unit '"' ∉ cellText cell) :
    Even ((csvField separator cell).count (unit '"')) := by
  have htext := List.count_eq_zero_of_not_mem h
  by_cases hmem : separator ∈ cellText cell
  · rw [csvField_of_mem hmem, List.count_cons_self, List.count_append, htext,
      List.count_singleton_self]
    exact ⟨1, rfl⟩
  · rw [csvField_of_notMem hmem, htext]
    exact Even.zero

/-- So do those of a row's line. -/
theorem even_count_rowLine (hsep : IsSeparator separator)
    {row : List (Option Str)}
    (h : ∀ cell ∈ row, unit '"' ∉ cellText cell) :
    Even ((rowLine separator row).count (unit '"')) := by
  induction row with
  | nil => exact Even.zero
  | cons cell cells ih =>
      rw [List.forall_mem_cons] at h
      have hcell := @even_count_csvField separator cell h.1
      unfold rowLine csvLine at ih ⊢
      cases cells with
      | nil =>
          rw [List.map_singleton, List.intercalate_singleton]
          exact hcell
      | cons cell' cells =>
          rw [List.map_cons, List.map_cons, List.intercalate_cons_cons,
            List.count_append, List.count_append, List.count_singleton,
            if_neg (by simpa using hsep.ne_quote), Nat.add_zero]
          exact hcell.add (ih h.2)

/-- A row without quotes is read back from its line, `DBNull` as the empty
text. -/
theorem regexRow_rowLine (hsep : IsSeparator separator)
    {row : List (Option Str)} (hne : row ≠ [])
    (hquote : ∀ cell ∈ row, unit '"' ∉ cellText cell) :
    (regexRow row.length (separatorRegex separator)
        (rowLine separator row)).map cellText
      = row.map cellText := by
  unfold regexRow
  rw [split_eq_segments hsep.ne_quote (even_count_rowLine hsep hquote),
    segments_rowLine hsep hne hquote, List.map_map,
    map_cellText_fillRow (by rw [List.length_map]), List.length_map,
    Nat.sub_self, List.replicate_zero, List.append_nil]
  exact List.map_congr_left fun cell hcell =>
    filter_csvField (hquote cell hcell)

-- ============================================================= round trip

/-- What a table needs to be read back: columns, names on one line and
without the separator, and cells on one line and without quotes. -/
structure Readable (separator : CodeUnit) (t : DataTable) : Prop where
  columns_ne_nil : t.columns ≠ []
  name : ∀ name ∈ t.columns, OneLine name ∧ separator ∉ name
  cell : ∀ row ∈ t.rows, ∀ cell ∈ row,
    OneLine (cellText cell) ∧ unit '"' ∉ cellText cell

instance (s : Str) : Decidable (OneLine s) :=
  inferInstanceAs (Decidable (_ ∧ _))

instance (separator : CodeUnit) (t : DataTable) :
    Decidable (Readable separator t) :=
  decidable_of_iff (t.columns ≠ []
      ∧ (∀ name ∈ t.columns, OneLine name ∧ separator ∉ name)
      ∧ ∀ row ∈ t.rows, ∀ cell ∈ row,
        OneLine (cellText cell) ∧ unit '"' ∉ cellText cell)
    ⟨fun ⟨hne, hname, hcell⟩ => ⟨hne, hname, hcell⟩,
      fun h => ⟨h.columns_ne_nil, h.name, h.cell⟩⟩

/-- The table of a file with a line. -/
theorem regexTable_eq_ok_iff {file : CsvFile} {csvParser : Regex CodeUnit}
    {header rest : Str} (hline : readLine file.text = some (header, rest))
    {t : DataTable} :
    regexTable file separator csvParser = .ok t
      ↔ ∃ dtColumns, (header.splitOn separator).foldlM Columns.add {}
          = .ok dtColumns
        ∧ t.columns = dtColumns.names
        ∧ t.rows = (readLines rest).map
            (regexRow dtColumns.names.length csvParser) := by
  unfold regexTable
  rw [hline]
  dsimp only
  cases hadd : (header.splitOn separator).foldlM Columns.add {} with
  | error e =>
      constructor
      · intro h
        cases h
      · intro h
        obtain ⟨dtColumns, h, -⟩ := h
        cases h
  | ok dtColumns =>
      constructor
      · intro h
        obtain rfl := Except.ok.inj h
        exact ⟨dtColumns, rfl, rfl, rfl⟩
      · obtain ⟨columns, rows, _⟩ := t
        intro h
        obtain ⟨dtColumns', h, hcolumns, hrows⟩ := h
        obtain rfl := Except.ok.inj h
        dsimp only at hcolumns hrows
        subst hcolumns hrows
        rfl

/-- A written text begins with the header's line. -/
theorem readLine_written {t : DataTable}
    (hheader : OneLine (csvLine separator t.columns)) :
    readLine (dataTableToCsv newLine t separator true)
      = some (csvLine separator t.columns,
        (t.rows.map (rowLine separator)).flatMap (· ++ newLine.text)) := by
  have hread := readLine_append hheader newLine
    ((t.rows.map (rowLine separator)).flatMap (· ++ newLine.text))
  rw [← List.append_assoc] at hread
  exact hread

/-- There is a line in a text that was written, if only the empty line of a
table without columns. -/
theorem exists_readLine_written (newLine : NewLine) (separator : CodeUnit)
    (t : DataTable) :
    ∃ header rest, readLine (dataTableToCsv newLine t separator true)
      = some (header, rest) := by
  cases htext : dataTableToCsv newLine t separator true with
  | nil =>
      unfold dataTableToCsv csvLines at htext
      rw [if_pos rfl, List.singleton_append, List.flatMap_cons] at htext
      have hnewLine : newLine.text = [] :=
        (List.append_eq_nil_iff.mp (List.append_eq_nil_iff.mp htext).1).2
      cases newLine <;> cases hnewLine
  | cons c cs => exact ⟨_, _, rfl⟩

/-- A readable table is read. -/
theorem regexTable_of_written (hsep : IsSeparator separator) {t : DataTable}
    (hnodup : t.columns.Nodup) (hne : ∀ name ∈ t.columns, name ≠ [])
    (ht : Readable separator t) {file : CsvFile}
    (hfile : file.text = dataTableToCsv newLine t separator true) :
    ∃ t', regexTable file separator (separatorRegex separator) = .ok t'
      ∧ csvValues t' = csvValues t := by
  have hlines : ∀ line ∈ t.rows.map (rowLine separator), OneLine line := by
    refine List.forall_mem_map.mpr fun row hrow => ?_
    refine oneLine_csvLine hsep
      (List.forall_mem_map.mpr fun cell hcell => ?_)
    exact oneLine_csvField (ht.cell row hrow cell hcell).1
  have hline := @readLine_written newLine separator t
    (oneLine_csvLine hsep fun name hname => (ht.name name hname).1)
  rw [← hfile] at hline
  have hadd : ((csvLine separator t.columns).splitOn separator).foldlM
      Columns.add {} = .ok { names := t.columns } := by
    have hsplit : (csvLine separator t.columns).splitOn separator
        = t.columns := List.splitOn_intercalate _
      (fun name hname => (ht.name name hname).2) ht.columns_ne_nil
    rw [hsplit]
    exact foldlM_add_of_nodup hnodup hne
  refine ⟨⟨t.columns, _, length_of_regexRows⟩,
    (regexTable_eq_ok_iff hline).mpr ⟨_, hadd, rfl, rfl⟩, ?_⟩
  unfold csvValues
  dsimp only
  rw [readLines_flatMap newLine hlines, List.map_map, List.map_map]
  refine congrArg _ (List.map_congr_left fun row hrow => ?_)
  have hlength := t.length_row row hrow
  have hrowne : row ≠ [] := by
    intro h
    rw [h] at hlength
    exact ht.columns_ne_nil (List.length_eq_zero_iff.mp hlength.symm)
  rw [Function.comp_apply, Function.comp_apply, ← hlength]
  exact regexRow_rowLine hsep hrowne fun cell hcell =>
    (ht.cell row hrow cell hcell).2

/-- What is read shows what was written only if that was readable, because
what is read always is. -/
theorem readable_of_regexTable (hsep : IsSeparator separator)
    {t t' : DataTable} {file : CsvFile}
    (hfile : file.text = dataTableToCsv newLine t separator true)
    (hread : regexTable file separator (separatorRegex separator) = .ok t')
    (hvalues : csvValues t' = csvValues t) : Readable separator t := by
  obtain ⟨hcolumns, hrows⟩ := List.cons.inj hvalues
  obtain ⟨header, rest, hline⟩ := exists_readLine_written newLine separator t
  rw [← hfile] at hline
  obtain ⟨dtColumns, hadd, hnames, hread'⟩ :=
    (regexTable_eq_ok_iff hline).mp hread
  have hheader := oneLine_of_readLine hline
  -- the names are pieces of one line, or default names
  have honeLine : ∀ name ∈ t.columns, OneLine name := by
    rw [← hcolumns, hnames]
    exact forall_mem_foldlM_add oneLine_makeName
      (fun name hname => oneLine_of_mem_splitOn hheader hname) hadd
      fun name hname => absurd hname List.not_mem_nil
  have hcount : ((csvLine separator t.columns).splitOn separator).length
      = t.columns.length := by
    have hlength := length_foldlM_add hadd
    have hline' := @readLine_written newLine separator t
      (oneLine_csvLine hsep honeLine)
    rw [← hfile, hline] at hline'
    rw [(Prod.mk.inj (Option.some.inj hline')).1, ← hnames, hcolumns]
      at hlength
    exact (hlength.trans (Nat.zero_add _)).symm
  have hne : t.columns ≠ [] := by
    intro h
    have hpositive := (Lib.one_le_length_splitOn separator
      (csvLine separator t.columns)).1
    rw [hcount, h] at hpositive
    exact absurd hpositive (Nat.not_succ_le_zero 0)
  have hsplit := (Lib.length_splitOn_intercalate hne).mp hcount
  refine ⟨hne,
    fun name hname => ⟨honeLine name hname, hsplit name hname⟩, ?_⟩
  -- every text of a row is a text that was read
  intro row hrow cell hcell
  have hmem : row.map cellText ∈ t'.rows.map (List.map cellText) := by
    rw [hrows]
    exact List.mem_map_of_mem hrow
  obtain ⟨row', hrow', heq⟩ := List.mem_map.mp hmem
  have htext : cellText cell ∈ row'.map cellText := by
    rw [heq]
    exact List.mem_map_of_mem hcell
  obtain ⟨cell', hcell', htext'⟩ := List.mem_map.mp htext
  rw [hread'] at hrow'
  obtain ⟨line, hmemline, rfl⟩ := List.mem_map.mp hrow'
  rw [← htext']
  exact forall_mem_regexRow (oneLine_of_mem_readLines hmemline) cell' hcell'

/-- `CsvToDataTableRegex` reads back what `DataTableToCsv` wrote exactly if
the table has columns, the names and cells have no line breaks, no name
has the separator and no cell a quote; white space and blank rows are
kept. -/
theorem regex_round_trip_iff (hsep : IsSeparator separator)
    (hrole : separator ∉ patternRoles) {t : DataTable}
    (hnodup : t.columns.Nodup) (hne : ∀ name ∈ t.columns, name ≠ [])
    {file : CsvFile}
    (hfile : file.text = dataTableToCsv newLine t separator true) :
    (∃ t', csvToDataTableRegex file separator = some (.ok t')
        ∧ csvValues t' = csvValues t)
      ↔ Readable separator t := by
  rw [csvToDataTableRegex_eq hrole]
  constructor
  · intro h
    obtain ⟨t', hread, hvalues⟩ := h
    cases htable : regexTable file separator (separatorRegex separator) with
    | error e =>
        rw [htable] at hread
        cases hread
    | ok read =>
        rw [htable] at hread
        obtain rfl := Except.ok.inj (Option.some.inj hread)
        exact readable_of_regexTable hsep hfile htable hvalues
  · intro ht
    obtain ⟨t', hread, hvalues⟩ :=
      regexTable_of_written hsep hnodup hne ht hfile
    exact ⟨t', by rw [hread]; rfl, hvalues⟩

-- =============================================================== examples

/-- Notes with white space around them, and a row without content. -/
private def notes : DataTable where
  columns := [str "Note", str "\"By\""]
  rows := [[some (str " late; "), none], [none, none]]
  length_row := by decide

/-- Their file, on Windows. -/
private def notesFile : CsvFile where
  text := dataTableToCsv .windows notes (unit ';') true
  marked := by decide

/-- The notes are read back. -/
theorem regex_round_trip_notes :
    (∃ t', csvToDataTableRegex notesFile (unit ';') = some (.ok t')
        ∧ csvValues t' = csvValues notes)
      ↔ Readable (unit ';') notes :=
  @regex_round_trip_iff .windows (unit ';')
    ⟨by decide, by decide, by decide⟩ (by decide) notes (by decide)
    (by decide) notesFile rfl

example : Readable (unit ';') notes := by
  decide

/-- A file with white space, a quoted separator, a blank line and a line
without its last cell. -/
private def mixedFile : CsvFile where
  text := str "a;b\n x;\"y;z\" \n \nw;\n"
  marked := by decide

/-- Both readers read it. -/
theorem readers_agree_mixedFile :
    ∃ read : Except CsvError DataTable,
      csvToDataTableRegex mixedFile (unit ';')
          = some (read.mapError .table)
        ∧ (∀ t, read = .ok t →
          t.rows.length = (bodyLines mixedFile).length)
        ∧ (csvToDataTableSimple mixedFile (unit ';')).map csvValues
          = read.map (trimmedValues mixedFile) :=
  readers_agree (by decide) (by decide) (by decide)

end SkillBuddy.Helper
