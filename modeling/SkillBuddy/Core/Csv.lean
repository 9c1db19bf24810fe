/-
`SkillBuddy.Core.Helper`, the CSV helpers: a table as text and back.

# Tables

A table's cells are strings or null (`DBNull`), and a row has one for each
column; `DataTable` carries that as a field. `Columns` is the column
collection as far as names go: an empty name gets the next default one
that is free, and a name that is there is refused.

# Writing

`DataTableToCsv` quotes a cell that contains the separator and writes
everything else as it is, quotes and line breaks included.

# Reading

`CsvToDataTableSimple` splits the header at every separator, skips blank
lines, and cuts the others with `CsvParser`. The parser's loop is kept as
it is: an index, the place of the last cut, and a toggle. The slices it
takes are `Substring`s, which throw outside of the text; that they never
do is part of `csvParser_eq`, which says what the loop returns. Its
invariant (`csvParserLoop_eq`) takes the text in three parts, cut off, not
yet a token, and still to come.

A file enters as its text, decoded. A text that begins with U+FEFF can
only be that of a file with a byte-order mark in front of it; the mark is
read as text after `Seek(0)`, which happens where the file has no header
line and its first line is read a second time.
-/
import SkillBuddy.DotNet.Text
import SkillBuddy.Lib.Quoted
import Mathlib.Data.List.DropRight
import Mathlib.Data.List.Forall2

namespace SkillBuddy.Helper

open DotNet
open Lib.Quoted (consHead foldr_consHead)

-- ================================================================ tables

/-- A `DataTable` of strings: a row has a cell for each column. -/
structure DataTable where
  columns : List Str := []
  rows : List (List (Option Str)) := []
  length_row : ∀ row ∈ rows, row.length = columns.length := by
    exact fun _ h => absurd h List.not_mem_nil

/-- `new DataTable()`. -/
def DataTable.empty : DataTable := {}

/-- `v?.ToString() ?? String.Empty`; `DBNull` has the empty text. -/
def cellText (cell : Option Str) : Str := cell.getD []

/-- The names, and the rows' texts. -/
def csvValues (dtDataTable : DataTable) : List (List Str) :=
  dtDataTable.columns :: dtDataTable.rows.map (List.map cellText)

/-- What the helpers throw. -/
inductive CsvError where
  | duplicateName (name : Str)
  | argumentOutOfRange
  deriving DecidableEq, Repr

/-- `DataColumnCollection`: the names, and the number the next default name
starts from. -/
structure Columns where
  names : List Str := []
  defaultNameIndex : Nat := 1
  deriving DecidableEq, Repr

/-- `MakeName(index)`. -/
def makeName (index : Nat) : Str := str "Column" ++ natText index

/-- The first index from `index` on whose default name is free, among
`tries`. -/
def freeIndex (names : List Str) : (tries index : Nat) → Nat
  | 0, index => index
  | tries + 1, index =>
      if makeName index ∈ names then freeIndex names tries (index + 1)
      else index

/-- `Columns.Add(name)`: an empty name gets a default one, a name that is
there is refused. -/
def Columns.add (columns : Columns) (name : Str) :
    Except CsvError Columns :=
  if name = [] then
    let index := freeIndex columns.names columns.names.length
      columns.defaultNameIndex
    .ok ⟨columns.names ++ [makeName index], index + 1⟩
  else if name ∈ columns.names then .error (.duplicateName name)
  else .ok { columns with names := columns.names ++ [name] }

-- =============================================================== writing

/-- `Environment.NewLine`. -/
inductive NewLine where
  | unix
  | windows
  deriving DecidableEq, Repr

/-- `'\r'`. -/
def cr : CodeUnit := 13

/-- `'\n'`. -/
def lf : CodeUnit := 10

/-- A separator other than the quote and the letters of line breaks. -/
structure IsSeparator (separator : CodeUnit) : Prop where
  ne_quote : separator ≠ unit '"'
  ne_cr : separator ≠ cr
  ne_lf : separator ≠ lf

/-- `','`, the default, is one. -/
theorem isSeparator_comma : IsSeparator (unit ',') :=
  ⟨by decide, by decide, by decide⟩

/-- The text of a line break. -/
def NewLine.text : NewLine → Str
  | .unix => [lf]
  | .windows => [cr, lf]

/-- A row's cell as it is written. -/
def csvField (separator : CodeUnit) (cell : Option Str) : Str :=
  let value := cellText cell
  if separator ∈ value then unit '"' :: (value ++ [unit '"']) else value

/-- A cell with a separator is written in quotes, as it is. -/
theorem csvField_of_mem {separator : CodeUnit} {cell : Option Str}
    (h : separator ∈ cellText cell) :
    csvField separator cell
      = unit '"' :: (cellText cell ++ [unit '"']) :=
  if_pos h

/-- A cell without one is written as it is. -/
theorem csvField_of_notMem {separator : CodeUnit} {cell : Option Str}
    (h : separator ∉ cellText cell) :
    csvField separator cell = cellText cell :=
  if_neg h

/-- `String.Join(separator, values)`, for `sb.AppendLine`. -/
def csvLine (separator : CodeUnit) (values : List Str) : Str :=
  List.intercalate [separator] values

/-- The lines `DataTableToCsv` appends. -/
def csvLines (dtDataTable : DataTable) (separator : CodeUnit)
    (includeHeaders : Bool) : List Str :=
  (if includeHeaders then [csvLine separator dtDataTable.columns] else [])
    ++ dtDataTable.rows.map fun dr =>
        csvLine separator (dr.map (csvField separator))

/-- `DataTableToCsv(dtDataTable, separator, includeHeaders)`. -/
def dataTableToCsv (newLine : NewLine) (dtDataTable : DataTable)
    (separator : CodeUnit) (includeHeaders : Bool) : Str :=
  (csvLines dtDataTable separator includeHeaders).flatMap
    (· ++ newLine.text)

-- =============================================================== strings

/-- `String.IsNullOrWhiteSpace(s)`. -/
def isNullOrWhiteSpace (s : Str) : Bool := s.all isWhiteSpace

/-- `s.Trim()`. -/
def trim (s : Str) : Str :=
  (s.dropWhile isWhiteSpace).rdropWhile isWhiteSpace

/-- `s.Substring(startIndex, length)`. -/
def substring (s : Str) (startIndex length : Int) : Except CsvError Str :=
  if 0 ≤ startIndex ∧ 0 ≤ length ∧ startIndex + length ≤ s.length then
    .ok ((s.drop startIndex.toNat).take length.toNat)
  else .error .argumentOutOfRange

/-- `s.Substring(startIndex)`. -/
def substringFrom (s : Str) (startIndex : Int) : Except CsvError Str :=
  substring s startIndex (s.length - startIndex)

-- ============================================================= CsvParser

/-- The variables of `CsvParser`'s loop. -/
structure ParserState where
  tokens : List Str := []
  last : Int := -1
  inText : Bool := false
  deriving DecidableEq, Repr

/-- `raw.Replace(ql, "").Trim()`. -/
def token (qualifier : CodeUnit) (raw : Str) : Str :=
  trim (raw.filter (· ≠ qualifier))

/-- The loop from index `current` on, over the letters from there. -/
def csvParserLoop (csvText : Str) (separator qualifier : CodeUnit) :
    Str → Int → ParserState → Except CsvError ParserState
  | [], _, s => .ok s
  | c :: cs, current, s =>
      if c = qualifier then
        csvParserLoop csvText separator qualifier cs (current + 1)
          { s with inText := !s.inText }
      else if c = separator ∧ s.inText = false then do
        let raw ← substring csvText (s.last + 1) (current - s.last - 1)
        csvParserLoop csvText separator qualifier cs (current + 1)
          { s with
            tokens := s.tokens ++ [token qualifier raw], last := current }
      else csvParserLoop csvText separator qualifier cs (current + 1) s

/-- Behind the loop: the text after the last cut, if there is some. -/
def finishParser (csvText : Str) (qualifier : CodeUnit) (s : ParserState) :
    Except CsvError (List Str) := do
  if s.last ≠ csvText.length - 1 then
    let raw ← substringFrom csvText (s.last + 1)
    return s.tokens ++ [token qualifier raw]
  else return s.tokens

/-- `CsvParser(csvText, separator, qualifier)`. -/
def csvParser (csvText : Str) (separator qualifier : CodeUnit) :
    Except CsvError (List Str) := do
  let s ← csvParserLoop csvText separator qualifier csvText 0 {}
  finishParser csvText qualifier s

-- ================================================== what CsvParser returns

/-- The pieces of a line between the separators outside of quotes. -/
def segments (separator qualifier : CodeUnit) : Bool → Str → List Str
  | _, [] => [[]]
  | inText, c :: cs =>
      if c = qualifier then
        consHead c (segments separator qualifier (!inText) cs)
      else if c = separator ∧ inText = false then
        [] :: segments separator qualifier inText cs
      else consHead c (segments separator qualifier inText cs)

/-- The pieces without an empty last one. -/
def dropLastEmpty (raws : List Str) : List Str :=
  if raws.getLast? = some [] then raws.dropLast else raws

/-- There is always a piece, if only an empty one. -/
theorem segments_ne_nil (separator qualifier : CodeUnit) (cs : Str) :
    ∀ inText, segments separator qualifier inText cs ≠ [] := by
  have hcons : ∀ (c : CodeUnit) (raws : List Str), raws ≠ [] →
      consHead c raws ≠ [] := by
    intro c raws hraws
    obtain ⟨raw, raws, rfl⟩ := List.exists_cons_of_ne_nil hraws
    exact List.cons_ne_nil _ _
  induction cs with
  | nil => exact fun _ => List.cons_ne_nil _ _
  | cons c cs ih =>
      intro inText
      rw [segments]
      split
      · exact hcons c _ (ih _)
      · split
        · exact List.cons_ne_nil _ _
        · exact hcons c _ (ih _)

/-- Only the last piece is looked at. -/
theorem dropLastEmpty_cons (raw : Str) {raws : List Str}
    (hraws : raws ≠ []) :
    dropLastEmpty (raw :: raws) = raw :: dropLastEmpty raws := by
  unfold dropLastEmpty
  rw [List.getLast?_cons_of_ne_nil hraws, List.dropLast_cons_of_ne_nil hraws]
  split <;> rfl

/-- A substring in the middle. -/
theorem substring_middle (before s after : Str) {startIndex length : Int}
    (hstart : startIndex = before.length) (hlength : length = s.length) :
    substring (before ++ (s ++ after)) startIndex length = .ok s := by
  unfold substring
  rw [if_pos]
  · subst hstart hlength
    rw [Int.toNat_natCast, Int.toNat_natCast, List.drop_left, List.take_left]
  · simp only [List.length_append]
    omega

/-- What is behind the last cut becomes the last token, if it is not empty.
The test compares places, and the places are equal exactly if nothing is
left. -/
theorem finishParser_eq (qualifier : CodeUnit) (cut pending : Str)
    {s : ParserState} (hlast : s.last = cut.length - 1) :
    finishParser (cut ++ pending) qualifier s
      = .ok (s.tokens
        ++ (dropLastEmpty [pending]).map (token qualifier)) := by
  unfold finishParser
  cases pending with
  | nil =>
      rw [List.append_nil, hlast, if_neg (not_not_intro rfl)]
      exact congrArg Except.ok (List.append_nil _).symm
  | cons c pending =>
      have hne : s.last ≠ ((cut ++ c :: pending).length : Int) - 1 := by
        rw [hlast, List.length_append, List.length_cons]
        omega
      have hrest : substringFrom (cut ++ c :: pending) (s.last + 1)
          = .ok (c :: pending) := by
        have hmiddle := @substring_middle cut (c :: pending) []
          (s.last + 1) (((cut ++ c :: pending).length : Int) - (s.last + 1))
          (by rw [hlast]; omega)
          (by
            rw [hlast, List.length_append]
            omega)
        rwa [List.append_nil] at hmiddle
      rw [if_pos hne, hrest]
      rfl

/-- The loop's invariant: behind the last cut stands what has not become a
token yet, and the loop goes on to cut that and the rest. -/
theorem csvParserLoop_eq (separator qualifier : CodeUnit) (cs : Str) :
    ∀ (cut pending : Str) (current : Int) (s : ParserState),
      s.last = cut.length - 1 → current = cut.length + pending.length →
      (csvParserLoop (cut ++ (pending ++ cs)) separator qualifier cs current
          s).bind (finishParser (cut ++ (pending ++ cs)) qualifier)
        = .ok (s.tokens ++ (dropLastEmpty (pending.foldr consHead
            (segments separator qualifier s.inText cs))).map
              (token qualifier)) := by
  induction cs with
  | nil =>
      intro cut pending current s hlast hcurrent
      rw [csvParserLoop, segments, foldr_consHead, List.append_nil]
      exact finishParser_eq qualifier cut pending hlast
  | cons c cs ih =>
      intro cut pending current s hlast hcurrent
      have hassoc : cut ++ (pending ++ c :: cs)
          = cut ++ ((pending ++ [c]) ++ cs) := by simp
      have hlength : current + 1 = cut.length + (pending ++ [c]).length := by
        rw [hcurrent, List.length_append]
        rfl
      rw [csvParserLoop, segments]
      by_cases hqualifier : c = qualifier
      · rw [if_pos hqualifier, if_pos hqualifier, hassoc,
          ih cut (pending ++ [c]) (current + 1)
            { s with inText := !s.inText } hlast hlength,
          List.foldr_append]
        rfl
      rw [if_neg hqualifier, if_neg hqualifier]
      by_cases hseparator : c = separator ∧ s.inText = false
      · have hraw : substring (cut ++ (pending ++ c :: cs)) (s.last + 1)
            (current - s.last - 1) = .ok pending :=
          substring_middle cut pending (c :: cs) (by rw [hlast]; omega)
            (by rw [hlast, hcurrent]; omega)
        have hcut : cut ++ (pending ++ c :: cs)
            = (cut ++ (pending ++ [c])) ++ ([] ++ cs) := by simp
        have hlast' : current
            = ((cut ++ (pending ++ [c])).length : Int) - 1 := by
          rw [List.length_append]
          omega
        rw [if_pos hseparator, if_pos hseparator, hraw]
        show (csvParserLoop _ _ _ _ _ _).bind _ = _
        rw [hcut, ih (cut ++ (pending ++ [c])) [] (current + 1)
            { s with
              tokens := s.tokens ++ [token qualifier pending]
              last := current }
            hlast' (by rw [List.length_nil]; omega)]
        rw [foldr_consHead, List.append_nil,
          dropLastEmpty_cons _ (segments_ne_nil separator qualifier cs _),
          List.map_cons, List.append_assoc]
        rfl
      · rw [if_neg hseparator, if_neg hseparator, hassoc,
          ih cut (pending ++ [c]) (current + 1) s hlast hlength,
          List.foldr_append]
        rfl

/-- `CsvParser` returns the pieces between the separators outside of quotes,
each without quotes and trimmed, but no empty last one. In particular it
never takes a substring out of range. -/
theorem csvParser_eq (csvText : Str) (separator qualifier : CodeUnit) :
    csvParser csvText separator qualifier
      = .ok ((dropLastEmpty (segments separator qualifier false csvText)).map
          (token qualifier)) :=
  csvParserLoop_eq separator qualifier csvText [] [] 0 {} rfl rfl

-- =============================================================== reading

/-- A file: whether a byte-order mark is in front, and the text behind
it. -/
structure CsvFile where
  byteOrderMark : Bool := false
  text : Str
  marked : text.head? = some 0xFEFF → byteOrderMark = true

/-- The text after `Seek(0)` and `DiscardBufferedData`. -/
def CsvFile.rewound (file : CsvFile) : Str :=
  if file.byteOrderMark then 0xFEFF :: file.text else file.text

/-- A line, and what is behind its end. -/
def splitLine : Str → Str × Str
  | [] => ([], [])
  | c :: cs =>
      if c = lf then ([], cs)
      else if c = cr then
        ([], if cs.head? = some lf then cs.tail else cs)
      else (c :: (splitLine cs).1, (splitLine cs).2)

/-- `reader.ReadLine()`. -/
def readLine : Str → Option (Str × Str)
  | [] => none
  | c :: cs => some (splitLine (c :: cs))

/-- At most `n` lines. -/
def readLinesFrom : Nat → Str → List Str
  | 0, _ => []
  | n + 1, text =>
      match readLine text with
      | none => []
      | some (line, rest) => line :: readLinesFrom n rest

/-- The lines read until `EndOfStream`: no more than there are letters. -/
def readLines (text : Str) : List Str := readLinesFrom text.length text

/-- A row: a cell for each column, `DBNull` where there is no content. -/
def fillRow (columns : Nat) (rowContent : List Str) : List (Option Str) :=
  (List.range columns).map fun colCount => rowContent[colCount]?

/-- The row of a line. -/
def csvRow (columns : Nat) (separator : CodeUnit)
    (qualifier : Option CodeUnit) (row : Str) :
    Except CsvError (List (Option Str)) :=
  match qualifier with
  | some qualifier =>
      (csvParser row separator qualifier).map (fillRow columns)
  | none => .ok (fillRow columns (row.splitOn separator))

/-- The rows of the lines; blank lines have none. -/
def csvRows (columns : Nat) (separator : CodeUnit)
    (qualifier : Option CodeUnit) (lines : List Str) :
    Except CsvError (List (List (Option Str))) :=
  (lines.filter fun row => !isNullOrWhiteSpace row).mapM
    (csvRow columns separator qualifier)

/-- A row has a cell for each column. -/
theorem length_csvRow {columns : Nat} {separator : CodeUnit}
    {qualifier : Option CodeUnit} {line : Str} {row : List (Option Str)}
    (h : csvRow columns separator qualifier line = .ok row) :
    row.length = columns := by
  have hfill : ∀ content, (fillRow columns content).length = columns := by
    intro content
    unfold fillRow
    rw [List.length_map, List.length_range]
  cases qualifier with
  | none =>
      obtain rfl := Except.ok.inj h
      exact hfill _
  | some qualifier =>
      change (csvParser line separator qualifier).map (fillRow columns)
        = .ok row at h
      cases hparse : csvParser line separator qualifier with
      | error e =>
          rw [hparse] at h
          cases h
      | ok content =>
          rw [hparse] at h
          obtain rfl := Except.ok.inj h
          exact hfill content

/-- A map that can fail gives a result exactly if every element does. -/
theorem mapM_eq_ok_iff {α β ε : Type} {f : α → Except ε β} {xs : List α}
    {ys : List β} :
    xs.mapM f = .ok ys ↔ List.Forall₂ (fun x y => f x = .ok y) xs ys := by
  induction xs generalizing ys with
  | nil =>
      rw [List.mapM_nil, List.forall₂_nil_left_iff]
      constructor
      · exact fun h => (Except.ok.inj h).symm
      · intro hys
        subst hys
        rfl
  | cons x xs ih =>
      rw [List.mapM_cons, List.forall₂_cons_left_iff]
      constructor
      · intro h
        cases hx : f x with
        | error e =>
            rw [hx] at h
            cases h
        | ok y =>
            cases hxs : xs.mapM f with
            | error e =>
                rw [hx, hxs] at h
                cases h
            | ok ys' =>
                rw [hx, hxs] at h
                exact ⟨y, ys', rfl, ih.mp hxs, (Except.ok.inj h).symm⟩
      · intro hcons
        obtain ⟨y, ys', hx, hxs, rfl⟩ := hcons
        rw [hx, ih.mpr hxs]
        rfl

/-- Every row has a cell for each column. -/
theorem length_of_csvRows {columns : Nat} {separator : CodeUnit}
    {qualifier : Option CodeUnit} {lines : List Str}
    {rows : List (List (Option Str))}
    (h : csvRows columns separator qualifier lines = .ok rows) :
    ∀ row ∈ rows, row.length = columns := by
  have hall : ∀ {lines : List Str} {rows : List (List (Option Str))},
      List.Forall₂ (fun line row =>
        csvRow columns separator qualifier line = .ok row) lines rows →
      ∀ row ∈ rows, row.length = columns := by
    intro lines rows hrows
    induction hrows with
    | nil => exact fun row hrow => absurd hrow List.not_mem_nil
    | cons hrow _ ih =>
        exact List.forall_mem_cons.mpr ⟨length_csvRow hrow, ih⟩
  exact hall (mapM_eq_ok_iff.mp h)

-- ============================================================= lines, read

/-- A text without line breaks. -/
def OneLine (s : Str) : Prop := cr ∉ s ∧ lf ∉ s

/-- A line up to its line break. -/
theorem splitLine_append {line : Str} (hline : OneLine line)
    (newLine : NewLine) (rest : Str) :
    splitLine (line ++ (newLine.text ++ rest)) = (line, rest) := by
  induction line with
  | nil => cases newLine <;> rfl
  | cons c cs ih =>
      obtain ⟨hcr, hlf⟩ := hline
      rw [List.mem_cons, not_or] at hcr hlf
      rw [List.cons_append, splitLine, if_neg (Ne.symm hlf.1),
        if_neg (Ne.symm hcr.1), ih ⟨hcr.2, hlf.2⟩]

/-- The first line of lines that were written is the first that was. -/
theorem readLine_append {line : Str} (hline : OneLine line)
    (newLine : NewLine) (rest : Str) :
    readLine (line ++ (newLine.text ++ rest)) = some (line, rest) := by
  have hsplit := splitLine_append hline newLine rest
  cases htext : line ++ (newLine.text ++ rest) with
  | nil =>
      cases newLine <;> simp [NewLine.text] at htext
  | cons c cs =>
      rw [htext] at hsplit
      rw [readLine, hsplit]

/-- Reading a line takes a letter at least. -/
theorem length_splitLine (c : CodeUnit) (cs : Str) :
    (splitLine (c :: cs)).2.length ≤ cs.length := by
  induction cs generalizing c with
  | nil =>
      rw [splitLine]
      split
      · exact Nat.le_refl _
      · split
        · exact Nat.le_refl _
        · exact Nat.le_refl _
  | cons c' cs ih =>
      have hrest := ih c'
      rw [splitLine]
      split
      · exact Nat.le_refl _
      · split
        · show (if (c' :: cs).head? = some lf then (c' :: cs).tail
            else c' :: cs).length ≤ _
          split
          · exact Nat.le_succ _
          · exact Nat.le_refl _
        · exact Nat.le_succ_of_le hrest

/-- The text's length is enough: every line that is read takes a letter, so
more tries read no more lines. -/
theorem readLinesFrom_eq (n : Nat) :
    ∀ (m : Nat) (text : Str), text.length ≤ n → text.length ≤ m →
      readLinesFrom n text = readLinesFrom m text := by
  induction n with
  | zero =>
      intro m text hn _
      obtain rfl := List.length_eq_zero_iff.mp (Nat.le_zero.mp hn)
      cases m <;> rfl
  | succ n ih =>
      intro m text hn hm
      cases text with
      | nil => cases m <;> rfl
      | cons c cs =>
          cases m with
          | zero => exact absurd hm (Nat.not_succ_le_zero _)
          | succ m =>
              have hlength := length_splitLine c cs
              rw [List.length_cons] at hn hm
              simp only [readLinesFrom, readLine]
              rw [ih m _ (by omega) (by omega)]

/-- The lines of a text are its first and those of what is behind it. -/
theorem readLines_of_readLine {text line rest : Str}
    (h : readLine text = some (line, rest)) :
    readLines text = line :: readLines rest := by
  cases text with
  | nil => cases h
  | cons c cs =>
      rw [readLine, Option.some.injEq] at h
      have hlength := length_splitLine c cs
      rw [h] at hlength
      unfold readLines
      rw [List.length_cons, readLinesFrom, readLine, h]
      show line :: _ = _
      rw [readLinesFrom_eq cs.length rest.length rest hlength (Nat.le_refl _)]

/-- Lines that were written are read. No line has a line break in it, so the
breaks are those that were written behind them. -/
theorem readLines_flatMap (newLine : NewLine) {lines : List Str}
    (h : ∀ line ∈ lines, OneLine line) :
    readLines (lines.flatMap (· ++ newLine.text)) = lines := by
  induction lines with
  | nil => rfl
  | cons line lines ih =>
      rw [List.forall_mem_cons] at h
      rw [List.flatMap_cons, List.append_assoc,
        readLines_of_readLine (readLine_append h.1 newLine _), ih h.2]

-- ================================================================ columns

/-- Every name that is added becomes a column. -/
theorem length_foldlM_add {names : List Str} :
    ∀ {columns columns' : Columns},
      names.foldlM Columns.add columns = .ok columns' →
      columns'.names.length = columns.names.length + names.length := by
  induction names with
  | nil =>
      intro columns columns' h
      obtain rfl := Except.ok.inj h
      rfl
  | cons name names ih =>
      intro columns columns' h
      rw [List.foldlM_cons] at h
      cases hadd : columns.add name with
      | error e =>
          rw [hadd] at h
          cases h
      | ok added =>
          rw [hadd] at h
          have hlength : added.names.length = columns.names.length + 1 := by
            unfold Columns.add at hadd
            split at hadd
            · obtain rfl := Except.ok.inj hadd
              exact List.length_append
            · split at hadd
              · cases hadd
              · obtain rfl := Except.ok.inj hadd
                exact List.length_append
          have hrest : columns'.names.length
              = added.names.length + names.length := ih h
          rw [hrest, hlength, List.length_cons]
          omega

/-- Distinct names that are not empty are added as they are. -/
theorem foldlM_add_of_nodup {names : List Str} :
    ∀ {columns : Columns}, (columns.names ++ names).Nodup →
      (∀ name ∈ names, name ≠ []) →
      names.foldlM Columns.add columns
        = .ok { columns with names := columns.names ++ names } := by
  induction names with
  | nil =>
      intro columns _ _
      rw [List.append_nil]
      rfl
  | cons name names ih =>
      intro columns hnodup hne
      rw [List.forall_mem_cons] at hne
      have hassoc : columns.names ++ name :: names
          = (columns.names ++ [name]) ++ names := by simp
      have hnew : name ∉ columns.names := by
        intro hmem
        have hdisjoint := (List.nodup_append.mp hnodup).2.2
        exact hdisjoint name hmem name List.mem_cons_self rfl
      have hadd : columns.add name
          = .ok { columns with names := columns.names ++ [name] } := by
        unfold Columns.add
        rw [if_neg hne.1, if_neg hnew]
      rw [hassoc] at hnodup ⊢
      rw [List.foldlM_cons, hadd]
      exact ih hnodup hne.2

-- ================================================================== tables

/-- The table of some names and lines. -/
def csvTable (names : List Str) (separator : CodeUnit)
    (qualifier : Option CodeUnit) (lines : List Str) :
    Except CsvError DataTable :=
  match h : csvRows names.length separator qualifier lines with
  | .error e => .error e
  | .ok rows => .ok
      { columns := names, rows, length_row := length_of_csvRows h }

/-- The table that is returned: its rows are the lines'. -/
theorem csvTable_eq_ok_iff {names : List Str} {separator : CodeUnit}
    {qualifier : Option CodeUnit} {lines : List Str} {t : DataTable} :
    csvTable names separator qualifier lines = .ok t
      ↔ t.columns = names
        ∧ csvRows names.length separator qualifier lines = .ok t.rows := by
  unfold csvTable
  split
  case h_1 e h =>
    constructor
    · intro ht
      cases ht
    · intro htable
      obtain ⟨-, hrows⟩ := htable
      rw [h] at hrows
      cases hrows
  case h_2 rows h =>
    constructor
    · intro ht
      obtain rfl := Except.ok.inj ht
      exact ⟨rfl, h⟩
    · obtain ⟨columns, rows', _⟩ := t
      intro htable
      obtain ⟨rfl, hrows⟩ := htable
      obtain rfl := Except.ok.inj (h.symm.trans hrows)
      rfl

/-- `CsvToDataTableSimple(filePath, separator, hasHeaders, qualifier)`. -/
def csvToDataTableSimple (file : CsvFile) (separator : CodeUnit)
    (hasHeaders : Bool := true) (qualifier : Option CodeUnit := unit '"') :
    Except CsvError DataTable :=
  match readLine file.text with
  | none => .ok {}
  | some (headerLine, rest) => do
      let columnNames := headerLine.splitOn separator
      let csvColumns ← (if hasHeaders then columnNames
        else (List.range columnNames.length).map makeName).foldlM
          Columns.add {}
      csvTable csvColumns.names separator qualifier
        (readLines (if hasHeaders then rest else file.rewound))

end SkillBuddy.Helper
