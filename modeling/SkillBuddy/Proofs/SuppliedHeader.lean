/-
Reading a file without headers, and with a header line put in front.

# The mark

Without headers the reader has read the first line to count its cells,
and goes back with `Seek(0)`. The byte-order mark, skipped when the first
buffer was decoded, is then read as text: the first line begins with
U+FEFF. With a header line in front the mark is never seen again, since
it stands before the header.

# Two readings

Both readings come down to rows of lines (`read_without_headers`,
`read_with_header`), and the lines are the same but for the first, which
has the mark in front in one of them (`readLines_rewound`). The number of
columns is that of the header's names; in the first reading the names are
the default ones, as many as the first line has pieces.

So the rows are the same exactly for files without a mark, and for those
with nothing behind it (`supplied_header_iff`). In any other file the
first cell is another one with the mark (`head?_lineCells_mark_ne`):
U+FEFF is no white space, so a marked line is never skipped and the mark
never trimmed. The one exception is a separator or qualifier that is
U+FEFF itself; there the first line can have the same cells with the mark
and without, and `HidesMark` says when.
-/
import SkillBuddy.Core.Csv
import SkillBuddy.Lib.Joined
import Mathlib.Data.List.Nodup

namespace SkillBuddy.Helper

open DotNet
open Lib (length_splitOn)
open Lib.Quoted (consHead)

-- ================================================================ property

/-- U+FEFF. -/
def mark : CodeUnit := 0xFEFF

/-- The cells of a line. -/
def lineCells (separator : CodeUnit) (qualifier : Option CodeUnit)
    (line : Str) : List Str :=
  match qualifier with
  | some q => (dropLastEmpty (segments separator q false line)).map (token q)
  | none => line.splitOn separator

/-- The file with a header line in front, behind the mark if there is
one. -/
structure WithHeader (file : CsvFile) (header : Str) (file' : CsvFile) :
    Prop where
  byteOrderMark : file'.byteOrderMark = file.byteOrderMark
  text : ∃ newLine : NewLine,
    file'.text = header ++ (newLine.text ++ file.text)

/-- A header line of distinct non-empty names for the file. -/
structure HeaderFor (separator : CodeUnit) (file : CsvFile)
    (header : Str) : Prop where
  oneLine : OneLine header
  nodup : (header.splitOn separator).Nodup
  ne_nil : ∀ name ∈ header.splitOn separator, name ≠ []
  count : ∀ line rest, readLine file.text = some (line, rest) →
    header.count separator = line.count separator

/-- Both readings return, with the same rows. -/
def SameRows (separator : CodeUnit) (qualifier : Option CodeUnit)
    (file file' : CsvFile) : Prop :=
  ∃ t t', csvToDataTableSimple file separator false qualifier = .ok t
    ∧ csvToDataTableSimple file' separator true qualifier = .ok t'
    ∧ t.rows = t'.rows

/-- The mark makes no difference to the cells of a first line: it is the
separator or the qualifier, and the line, which is not blank, has the same
cells with it and without. -/
def HidesMark (separator : CodeUnit) (qualifier : Option CodeUnit)
    (line : Str) : Prop :=
  (separator = mark ∨ qualifier = some mark)
    ∧ isNullOrWhiteSpace line = false
    ∧ (lineCells separator qualifier (mark :: line)).take
        (line.count separator + 1)
      = (lineCells separator qualifier line).take (line.count separator + 1)

-- ==================================================================== rows

section Rows

variable {separator : CodeUnit} {qualifier : Option CodeUnit}

/-- The row of a line has its cells. -/
theorem csvRow_eq (columns : Nat) (line : Str) :
    csvRow columns separator qualifier line
      = .ok (fillRow columns (lineCells separator qualifier line)) := by
  cases qualifier with
  | none => rfl
  | some q =>
      rw [csvRow, csvParser_eq]
      rfl

/-- The rows of the lines that are not blank. -/
theorem csvRows_eq (columns : Nat) (lines : List Str) :
    csvRows columns separator qualifier lines
      = .ok ((lines.filter fun line => !isNullOrWhiteSpace line).map
          fun line => fillRow columns
            (lineCells separator qualifier line)) := by
  unfold csvRows
  rw [mapM_eq_ok_iff, List.forall₂_map_right_iff, List.forall₂_same]
  exact fun line _ => csvRow_eq columns line

/-- A row shows the cells that have a column. -/
theorem fillRow_eq_iff (columns : Nat) (cells cells' : List Str) :
    fillRow columns cells = fillRow columns cells'
      ↔ cells.take columns = cells'.take columns := by
  unfold fillRow
  rw [List.map_inj_left]
  constructor
  · intro h
    apply List.ext_getElem?
    intro i
    rw [List.getElem?_take, List.getElem?_take]
    by_cases hi : i < columns
    · rw [if_pos hi, if_pos hi]
      exact h i (List.mem_range.mpr hi)
    · rw [if_neg hi, if_neg hi]
  · intro h i hi
    have hget := congrArg (·[i]?) h
    rwa [List.getElem?_take, List.getElem?_take,
      if_pos (List.mem_range.mp hi), if_pos (List.mem_range.mp hi)] at hget

end Rows

-- ==================================================== the mark in a cell

/-- What is trimmed on the right of a text in two parts: the second part,
and if nothing of it stays the first as well. -/
theorem rdropWhile_append (p : CodeUnit → Bool) (a b : Str) :
    (a ++ b).rdropWhile p
      = if b.rdropWhile p = [] then a.rdropWhile p
        else a ++ b.rdropWhile p := by
  unfold List.rdropWhile
  rw [List.reverse_append, List.dropWhile_append]
  cases h : b.reverse.dropWhile p with
  | nil => simp
  | cons c cs => simp

/-- The mark is no white space: with it in front a cell is another one. -/
theorem token_mark_ne {q : CodeUnit} (hq : q ≠ mark) (raw : Str) :
    token q (mark :: raw) ≠ token q raw := by
  have hwhite : isWhiteSpace mark = false := by decide
  have hmarked : token q (mark :: raw)
      = mark :: (raw.filter (· ≠ q)).rdropWhile isWhiteSpace := by
    unfold token trim
    rw [List.filter_cons_of_pos (by simpa using hq.symm),
      List.dropWhile_cons_of_neg (by simp [hwhite])]
    have happend := rdropWhile_append isWhiteSpace [mark]
      (raw.filter (· ≠ q))
    rw [List.singleton_append] at happend
    have hsingle : [mark].rdropWhile isWhiteSpace = [mark] := by
      rw [List.rdropWhile_singleton, if_neg (by simp [hwhite])]
    rw [happend, hsingle]
    split
    case isTrue h => rw [h]
    case isFalse h => rfl
  have hle : (token q raw).length
      ≤ ((raw.filter (· ≠ q)).rdropWhile isWhiteSpace).length := by
    unfold token trim
    generalize raw.filter (· ≠ q) = text
    have happend := rdropWhile_append isWhiteSpace
      (text.takeWhile isWhiteSpace) (text.dropWhile isWhiteSpace)
    rw [List.takeWhile_append_dropWhile] at happend
    rw [happend]
    split
    case isTrue h =>
      rw [h]
      exact Nat.zero_le _
    case isFalse h =>
      rw [List.length_append]
      omega
  intro h
  have hlength := congrArg List.length h
  rw [hmarked, List.length_cons] at hlength
  omega

/-- The first of the pieces that are kept, if it is not empty. -/
theorem head?_dropLastEmpty {raw : Str} (hraw : raw ≠ [])
    (raws : List Str) :
    (dropLastEmpty (raw :: raws)).head? = some raw := by
  cases raws with
  | nil =>
      unfold dropLastEmpty
      rw [List.getLast?_singleton, if_neg (by simpa using hraw)]
      rfl
  | cons raw' raws =>
      rw [dropLastEmpty_cons raw (List.cons_ne_nil _ _)]
      rfl

/-- The first of the pieces that are kept is the first piece. -/
theorem eq_of_head?_dropLastEmpty {raw raw' : Str} {raws : List Str}
    (h : (dropLastEmpty (raw :: raws)).head? = some raw') : raw = raw' := by
  by_cases hraw : raw = []
  · cases raws with
    | nil =>
        rw [hraw] at h
        cases h
    | cons piece raws =>
        rw [dropLastEmpty_cons raw (List.cons_ne_nil _ _)] at h
        exact Option.some.inj h
  · rw [head?_dropLastEmpty hraw] at h
    exact Option.some.inj h

/-- With the mark in front the first cell of a line is another one. -/
theorem head?_lineCells_mark_ne {separator : CodeUnit}
    {qualifier : Option CodeUnit} (hseparator : separator ≠ mark)
    (hqualifier : qualifier ≠ some mark) (line : Str) :
    (lineCells separator qualifier (mark :: line)).head?
      ≠ (lineCells separator qualifier line).head? := by
  cases qualifier with
  | none =>
      unfold lineCells
      dsimp only
      rw [List.splitOn_eq_splitOnP, List.splitOn_eq_splitOnP,
        List.splitOnP_cons_eq_if_modifyHead,
        if_neg (by simpa using hseparator.symm)]
      obtain ⟨piece, pieces, hpieces⟩ := List.exists_cons_of_ne_nil
        (List.splitOnP_ne_nil (· == separator) line)
      rw [hpieces, List.modifyHead_cons, List.head?_cons, List.head?_cons]
      intro h
      have hlength := congrArg List.length (Option.some.inj h)
      rw [List.length_cons] at hlength
      omega
  | some q =>
      have hq : q ≠ mark := fun h => hqualifier (congrArg some h)
      unfold lineCells
      dsimp only
      rw [segments, if_neg hq.symm, if_neg (fun h => hseparator h.1.symm),
        List.head?_map, List.head?_map]
      obtain ⟨piece, pieces, hpieces⟩ := List.exists_cons_of_ne_nil
        (segments_ne_nil separator q line false)
      rw [hpieces, consHead, head?_dropLastEmpty (List.cons_ne_nil _ _)]
      intro h
      cases hhead : (dropLastEmpty (piece :: pieces)).head? with
      | none =>
          rw [hhead] at h
          cases h
      | some piece' =>
          rw [hhead] at h
          obtain rfl := eq_of_head?_dropLastEmpty hhead
          exact token_mark_ne hq piece (Option.some.inj h)

-- ============================================================ the readings

section Readings

variable {separator : CodeUnit} {qualifier : Option CodeUnit}

/-- The rows of the lines, as they are stored. -/
def tableRows (separator : CodeUnit) (qualifier : Option CodeUnit)
    (columns : Nat) (lines : List Str) : List (List (Option Str)) :=
  (lines.filter fun line => !isNullOrWhiteSpace line).map
    fun line => fillRow columns (lineCells separator qualifier line)

/-- A line that is not blank has one row, and a blank one has none. -/
theorem tableRows_cons (columns : Nat) (line : Str) (lines : List Str) :
    tableRows separator qualifier columns (line :: lines)
      = (if isNullOrWhiteSpace line then []
          else [fillRow columns (lineCells separator qualifier line)])
        ++ tableRows separator qualifier columns lines := by
  unfold tableRows
  cases hline : isNullOrWhiteSpace line with
  | true => simp [hline]
  | false => simp [hline]

/-- The table of names that are accepted: the rows are those of the
lines. -/
theorem csvTable_rows (names : List Str) (lines : List Str) :
    ∃ t, csvTable names separator qualifier lines = .ok t
      ∧ t.rows = tableRows separator qualifier names.length lines := by
  refine ⟨⟨names, tableRows separator qualifier names.length lines,
    length_of_csvRows (csvRows_eq names.length lines)⟩, ?_, rfl⟩
  exact csvTable_eq_ok_iff.mpr ⟨rfl, csvRows_eq names.length lines⟩

/-- The default names are different, and none is empty. -/
theorem nodup_map_makeName (n : Nat) :
    ((List.range n).map makeName).Nodup := by
  refine List.Nodup.map ?_ List.nodup_range
  intro i j h
  exact natText_inj (List.append_cancel_left h)

/-- Without headers every line is a row, the first one as it is read after
going back. -/
theorem read_without_headers {file : CsvFile} {line rest : Str}
    (hline : readLine file.text = some (line, rest)) :
    ∃ t, csvToDataTableSimple file separator false qualifier = .ok t
      ∧ t.rows = tableRows separator qualifier (line.count separator + 1)
          (readLines file.rewound) := by
  have hnames : ∀ name ∈ (List.range (line.splitOn separator).length).map
      makeName, name ≠ [] := by
    intro name hname
    obtain ⟨i, -, rfl⟩ := List.mem_map.mp hname
    exact List.cons_ne_nil _ _
  have hadd := @foldlM_add_of_nodup _ {} (nodup_map_makeName
    (line.splitOn separator).length) hnames
  obtain ⟨t, ht, hrows⟩ := @csvTable_rows separator qualifier
    ((List.range (line.splitOn separator).length).map makeName)
    (readLines file.rewound)
  rw [List.length_map, List.length_range, length_splitOn] at hrows
  refine ⟨t, ?_, hrows⟩
  unfold csvToDataTableSimple
  rw [hline]
  dsimp only
  rw [if_neg Bool.false_ne_true, if_neg Bool.false_ne_true, hadd]
  exact ht

/-- With the header line in front the file's lines are the rows. -/
theorem read_with_header {file file' : CsvFile} {header : Str}
    (hfile : WithHeader file header file') (honeLine : OneLine header)
    (hnodup : (header.splitOn separator).Nodup)
    (hne : ∀ name ∈ header.splitOn separator, name ≠ []) :
    ∃ t, csvToDataTableSimple file' separator true qualifier = .ok t
      ∧ t.rows = tableRows separator qualifier (header.count separator + 1)
          (readLines file.text) := by
  obtain ⟨newLine, htext⟩ := hfile.text
  have hadd := @foldlM_add_of_nodup (header.splitOn separator) {} hnodup hne
  obtain ⟨t, ht, hrows⟩ := @csvTable_rows separator qualifier
    (header.splitOn separator) (readLines file.text)
  rw [length_splitOn] at hrows
  refine ⟨t, ?_, hrows⟩
  unfold csvToDataTableSimple
  rw [htext, readLine_append honeLine]
  dsimp only
  rw [if_pos rfl, if_pos rfl, hadd]
  exact ht

/-- The first line after going back, with the mark in front. -/
theorem readLines_rewound {file : CsvFile} {line rest : Str}
    (hmark : file.byteOrderMark = true)
    (hline : readLine file.text = some (line, rest)) :
    readLines file.rewound = (mark :: line) :: readLines rest := by
  apply readLines_of_readLine
  unfold CsvFile.rewound
  rw [if_pos hmark]
  cases htext : file.text with
  | nil =>
      rw [htext] at hline
      cases hline
  | cons c cs =>
      rw [htext, readLine, Option.some.injEq] at hline
      have hlf : mark ≠ lf := by decide
      have hcr : mark ≠ cr := by decide
      show some (splitLine (mark :: c :: cs)) = _
      rw [splitLine, if_neg hlf, if_neg hcr, hline]

/-- The mark at the head of a first line makes a difference, but for the
separator or qualifier it may be. If the line is blank the difference is
a row: with the mark it is not blank. -/
theorem tableRows_mark_iff (line : Str) (lines : List Str) :
    tableRows separator qualifier (line.count separator + 1)
        ((mark :: line) :: lines)
        = tableRows separator qualifier (line.count separator + 1)
          (line :: lines)
      ↔ HidesMark separator qualifier line := by
  have hblank : isNullOrWhiteSpace (mark :: line) = false := rfl
  rw [tableRows_cons, tableRows_cons, hblank, if_neg Bool.false_ne_true,
    List.append_left_inj]
  unfold HidesMark
  cases hline : isNullOrWhiteSpace line with
  | true =>
      rw [if_pos rfl]
      exact iff_of_false (List.cons_ne_nil _ _)
        (fun h => Bool.false_ne_true h.2.1.symm)
  | false =>
      rw [if_neg Bool.false_ne_true, List.cons.injEq, fillRow_eq_iff]
      constructor
      · intro h
        obtain ⟨h, -⟩ := h
        refine ⟨?_, rfl, h⟩
        by_contra hnot
        obtain ⟨hseparator, hqualifier⟩ := not_or.mp hnot
        have hhead := congrArg List.head? h
        rw [List.head?_take, List.head?_take, if_neg (Nat.succ_ne_zero _),
          if_neg (Nat.succ_ne_zero _)] at hhead
        exact head?_lineCells_mark_ne hseparator hqualifier line hhead
      · intro h
        exact ⟨h.2.2, rfl⟩

end Readings

/-- Reading a file without headers gives the rows of reading it with a
header line in front iff it has no byte-order mark, or nothing behind it,
or its first line hides the mark. -/
theorem supplied_header_iff {separator : CodeUnit}
    {qualifier : Option CodeUnit} {file file' : CsvFile} {header : Str}
    (hheader : HeaderFor separator file header)
    (hfile : WithHeader file header file') :
    SameRows separator qualifier file file'
      ↔ file.byteOrderMark = false ∨ file.text = []
        ∨ ∀ line rest, readLine file.text = some (line, rest) →
          HidesMark separator qualifier line := by
  obtain ⟨t', ht', hrows'⟩ := @read_with_header separator qualifier file
    file' header hfile hheader.oneLine hheader.nodup hheader.ne_nil
  cases hline : readLine file.text with
  | none =>
      have htext : file.text = [] := by
        cases h : file.text with
        | nil => rfl
        | cons c cs =>
            rw [h] at hline
            cases hline
      refine iff_of_true ⟨{}, t', ?_, ht', ?_⟩ (Or.inr (Or.inl htext))
      · unfold csvToDataTableSimple
        rw [hline]
      · rw [hrows', htext]
        rfl
  | some read =>
      obtain ⟨line, rest⟩ := read
      have htext : file.text ≠ [] := by
        intro h
        rw [h] at hline
        cases hline
      have hcount := hheader.count line rest hline
      have hlines := readLines_of_readLine hline
      obtain ⟨t, ht, hrows⟩ := @read_without_headers separator qualifier
        file line rest hline
      have hsame : SameRows separator qualifier file file'
          ↔ t.rows = t'.rows := by
        constructor
        · intro h
          obtain ⟨u, u', hu, hu', hsame⟩ := h
          rwa [Except.ok.inj (ht.symm.trans hu),
            Except.ok.inj (ht'.symm.trans hu')]
        · exact fun h => ⟨t, t', ht, ht', h⟩
      have hfirst : (∀ l r, some (line, rest) = some (l, r) →
          HidesMark separator qualifier l)
          ↔ HidesMark separator qualifier line := by
        constructor
        · exact fun h => h line rest rfl
        · intro h l r heq
          obtain ⟨rfl, rfl⟩ := Prod.mk.inj (Option.some.inj heq)
          exact h
      rw [hsame, hrows, hrows', hcount, hfirst, or_iff_right htext]
      cases hmark : file.byteOrderMark with
      | false =>
          refine iff_of_true ?_ (Or.inl rfl)
          unfold CsvFile.rewound
          rw [hmark, if_neg Bool.false_ne_true]
      | true =>
          rw [readLines_rewound hmark hline, hlines, tableRows_mark_iff,
            or_iff_right Bool.false_ne_true.symm]

/-- A line of two numbers; the file, with or without a mark. -/
private def numbers (byteOrderMark : Bool) : CsvFile where
  byteOrderMark := byteOrderMark
  text := str "1,2\n"
  marked := fun h => absurd h (by decide)

/-- The same with a header line. -/
private def headedNumbers (byteOrderMark : Bool) : CsvFile where
  byteOrderMark := byteOrderMark
  text := str "x,y\n1,2\n"
  marked := fun h => absurd h (by decide)

private theorem headerFor_numbers (byteOrderMark : Bool) :
    HeaderFor (unit ',') (numbers byteOrderMark) (str "x,y") where
  oneLine := ⟨by decide, by decide⟩
  nodup := by decide
  ne_nil := by decide
  count := by
    intro line rest h
    cases h
    decide

private theorem withHeader_numbers (byteOrderMark : Bool) :
    WithHeader (numbers byteOrderMark) (str "x,y")
      (headedNumbers byteOrderMark) :=
  ⟨rfl, .unix, rfl⟩

/-- Without a mark. -/
theorem supplied_header_unmarked :
    SameRows (unit ',') (some (unit '"')) (numbers false)
        (headedNumbers false)
      ↔ (numbers false).byteOrderMark = false ∨ (numbers false).text = []
        ∨ ∀ line rest, readLine (numbers false).text = some (line, rest) →
          HidesMark (unit ',') (some (unit '"')) line :=
  supplied_header_iff (headerFor_numbers false) (withHeader_numbers false)

/-- With a mark the first cell is U+FEFF and `1` without headers, and `1`
behind a header line. -/
theorem mark_in_first_cell :
    HeaderFor (unit ',') (numbers true) (str "x,y")
      ∧ WithHeader (numbers true) (str "x,y") (headedNumbers true)
      ∧ (csvToDataTableSimple (numbers true) (unit ',') false).map
          DataTable.rows = .ok [[some (mark :: str "1"), some (str "2")]]
      ∧ ¬SameRows (unit ',') (some (unit '"')) (numbers true)
          (headedNumbers true) := by
  have hwithout : (csvToDataTableSimple (numbers true) (unit ',')
      false).map DataTable.rows
      = .ok [[some (mark :: str "1"), some (str "2")]] := by decide
  have hwith : (csvToDataTableSimple (headedNumbers true)
      (unit ',')).map DataTable.rows
      = .ok [[some (str "1"), some (str "2")]] := by decide
  refine ⟨headerFor_numbers true, withHeader_numbers true, hwithout, ?_⟩
  intro h
  obtain ⟨t, t', ht, ht', hrows⟩ := h
  rw [ht] at hwithout
  rw [ht'] at hwith
  have hfirst := Except.ok.inj hwithout
  have hsecond := Except.ok.inj hwith
  rw [hrows, hsecond] at hfirst
  exact absurd hfirst (by decide)

end SkillBuddy.Helper
