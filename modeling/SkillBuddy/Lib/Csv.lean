/-
Records of separated fields: the grammar of CSV.

# The grammar

A field is written as it is, if it has no separator, no quote and no line
break in it, or in quotes, its own quotes doubled. A record is one field
or more with separators between them; a file is records with line breaks
between them, and perhaps one at its end. `Rest` says what can follow a
field, `File` what a whole text is. A record whose one field is written
as nothing at the end of the text would be no record at all; the side
condition of both, that something is left to read, excludes it.

# The parser

`parse` reads a text in one pass and says what is in it, or that it is not
in the format. Its state is the place in the record: before a record,
before a field, in a plain field, in quotes, behind a quote in quotes.
The last is there because a quote in quotes may close the field or be the
first half of a doubled one, which only the next letter tells.

The parser decides the grammar (`parse_eq_some_iff`), so the grammar is
unambiguous. Completeness goes along the derivation, a field at a time
(`parseFrom_field`, `parseFrom_rest`). Soundness goes along the text, a
letter at a time: `Reads` says for every state what of the grammar is
left to read there, and each letter is one lemma (`reads_outside`,
`reads_inside`, `reads_closing`).

# Writing

No text of the grammar is shorter than `cost` says, field by field: a
plain value costs its letters, any other the two quotes and its own
quotes twice. So a writer whose fields are no longer than that is right
only where every field has exactly its cost (`cost_eq_of_file`). This
decides without a parser where a writer that quotes too little goes wrong.
-/
import SkillBuddy.Lib.Quoted

namespace SkillBuddy.Lib.Csv

open Quoted

universe u

variable {α : Type u} [DecidableEq α]

-- ================================================================= format

/-- Separator, quote, the letters of line breaks, and the line break that
ends a record. -/
structure Format (α : Type u) where
  separator : α
  quote : α
  breaks : List α
  newLine : List α
  separator_ne_quote : separator ≠ quote
  separator_notMem : separator ∉ breaks
  quote_notMem : quote ∉ breaks
  newLine_ne_nil : newLine ≠ []
  newLine_subset : newLine ⊆ breaks

/-- A letter with no meaning of its own. -/
def Format.PlainLetter (f : Format α) (c : α) : Prop :=
  c ≠ f.separator ∧ c ≠ f.quote ∧ c ∉ f.breaks

/-- A value that can stand as it is. -/
def Format.Plain (f : Format α) (v : List α) : Prop :=
  ∀ c ∈ v, f.PlainLetter c

instance (f : Format α) (c : α) : Decidable (f.PlainLetter c) :=
  inferInstanceAs (Decidable (_ ∧ _))

instance (f : Format α) (v : List α) : Decidable (f.Plain v) :=
  inferInstanceAs (Decidable (∀ c ∈ v, _))

-- ================================================================ grammar

/-- The text of a field. -/
inductive FieldText (f : Format α) : List α → List α → Prop where
  | plain {v : List α} (h : f.Plain v) : FieldText f v v
  | quoted (v : List α) : FieldText f v (literal f.quote v)

/-- What follows a field: the record's other fields, and the records after
it. -/
inductive Rest (f : Format α) :
    List (List α) → List (List (List α)) → List α → Prop where
  | eof : Rest f [] [] []
  | last : Rest f [] [] f.newLine
  | record {v raw more : List α} {vs : List (List α)}
      {records : List (List (List α))} (hfield : FieldText f v raw)
      (hne : raw ++ more ≠ []) (h : Rest f vs records more) :
      Rest f [] ((v :: vs) :: records) (f.newLine ++ (raw ++ more))
  | field {v raw more : List α} {vs : List (List α)}
      {records : List (List (List α))} (hfield : FieldText f v raw)
      (h : Rest f vs records more) :
      Rest f (v :: vs) records (f.separator :: (raw ++ more))

/-- The text of a list of records. -/
inductive File (f : Format α) : List (List (List α)) → List α → Prop where
  | nil : File f [] []
  | record {v raw more : List α} {vs : List (List α)}
      {records : List (List (List α))} (hfield : FieldText f v raw)
      (hne : raw ++ more ≠ []) (h : Rest f vs records more) :
      File f ((v :: vs) :: records) (raw ++ more)

-- ================================================================= parser

/-- Where the parser stands: before a record, before a field, in a plain
field, in quotes, behind a quote in quotes. -/
inductive State where
  | record
  | field
  | plain
  | inside
  | closing
  deriving DecidableEq, Repr

/-- A letter more in the field being read. -/
def consLetter (c : α) : List (List (List α)) → List (List (List α))
  | (v :: vs) :: records => ((c :: v) :: vs) :: records
  | records => records

/-- The field being read ends, the record goes on. -/
def consField : List (List (List α)) → List (List (List α))
  | vs :: records => ([] :: vs) :: records
  | [] => []

/-- The field being read ends, and its record. -/
def consRecord (records : List (List (List α))) : List (List (List α)) :=
  [[]] :: records

/-- The records of the text from a state on, after `skip` more letters; the
field being read is the first. -/
def parseFrom (f : Format α) :
    State → Nat → List α → Option (List (List (List α)))
  | .record, _, [] => some []
  | .field, _, [] => some [[[]]]
  | .plain, _, [] => some [[[]]]
  | .closing, _, [] => some [[[]]]
  | .inside, _, [] => none
  | s, skip + 1, _ :: cs => parseFrom f s skip cs
  | .inside, 0, c :: cs =>
      if c = f.quote then parseFrom f .closing 0 cs
      else (parseFrom f .inside 0 cs).map (consLetter c)
  | .closing, 0, c :: cs =>
      if c = f.quote then
        -- a quote right after a quote was a doubled one
        (parseFrom f .inside 0 cs).map (consLetter f.quote)
      else if c = f.separator then (parseFrom f .field 0 cs).map consField
      else if f.newLine.isPrefixOf (c :: cs) then
        (parseFrom f .record (f.newLine.length - 1) cs).map consRecord
      else none
  | s, 0, c :: cs =>
      if c = f.separator then (parseFrom f .field 0 cs).map consField
      else if f.newLine.isPrefixOf (c :: cs) then
        (parseFrom f .record (f.newLine.length - 1) cs).map consRecord
      else if c ∈ f.breaks then none
      else if c = f.quote then
        if s = .plain then none else parseFrom f .inside 0 cs
      else (parseFrom f .plain 0 cs).map (consLetter c)

/-- The records of a text. -/
def parse (f : Format α) (text : List α) :
    Option (List (List (List α))) :=
  parseFrom f .record 0 text

/-- Letters that are skipped are gone. -/
theorem parseFrom_skip (f : Format α) (s : State) (text : List α) :
    ∀ skip, parseFrom f s skip text = parseFrom f s 0 (text.drop skip) := by
  induction text with
  | nil =>
      intro skip
      rw [List.drop_nil]
      cases s <;> cases skip <;> rfl
  | cons c cs ih =>
      intro skip
      cases skip with
      | zero => rfl
      | succ skip =>
          rw [List.drop_succ_cons, ← ih skip]
          cases s <;> rfl

-- ==================================================== one step of reading

variable {f : Format α}

omit [DecidableEq α] in
/-- The letters of a line break begin with one. -/
theorem exists_cons_newLine (f : Format α) :
    ∃ b w, f.newLine = b :: w ∧ b ∈ f.breaks := by
  obtain ⟨b, w, h⟩ := List.exists_cons_of_ne_nil f.newLine_ne_nil
  refine ⟨b, w, h, f.newLine_subset ?_⟩
  rw [h]
  exact List.mem_cons_self

/-- No line break begins with another letter. -/
theorem newLine_not_ahead {c : α} {cs : List α} (hc : c ∉ f.breaks) :
    ¬f.newLine.isPrefixOf (c :: cs) = true := by
  intro hpre
  obtain ⟨b, w, hw, hb⟩ := exists_cons_newLine f
  obtain ⟨u, hu⟩ := List.isPrefixOf_iff_prefix.mp hpre
  rw [hw, List.cons_append, List.cons.injEq] at hu
  rw [hu.1] at hb
  exact hc hb

/-- What a letter does outside of quotes. The states before a record, before
a field and in a plain field differ only at a quote. -/
theorem parseFrom_outside {s : State} (hs : s ≠ .inside)
    (hs' : s ≠ .closing) (c : α) (cs : List α) :
    parseFrom f s 0 (c :: cs)
      = if c = f.separator then (parseFrom f .field 0 cs).map consField
        else if f.newLine.isPrefixOf (c :: cs) then
          (parseFrom f .record (f.newLine.length - 1) cs).map consRecord
        else if c ∈ f.breaks then none
        else if c = f.quote then
          if s = .plain then none else parseFrom f .inside 0 cs
        else (parseFrom f .plain 0 cs).map (consLetter c) := by
  cases s with
  | inside => exact absurd rfl hs
  | closing => exact absurd rfl hs'
  | record => rfl
  | field => rfl
  | plain => rfl

/-- A separator, outside of quotes or behind them. -/
theorem parseFrom_separator {s : State} (hs : s ≠ .inside) (cs : List α) :
    parseFrom f s 0 (f.separator :: cs)
      = (parseFrom f .field 0 cs).map consField := by
  by_cases hclosing : s = .closing
  · subst hclosing
    rw [parseFrom, if_neg f.separator_ne_quote, if_pos rfl]
  · rw [parseFrom_outside hs hclosing, if_pos rfl]

/-- A line break, outside of quotes or behind them. -/
theorem parseFrom_newLine {s : State} (hs : s ≠ .inside) (cs : List α) :
    parseFrom f s 0 (f.newLine ++ cs)
      = (parseFrom f .record 0 cs).map consRecord := by
  obtain ⟨b, w, hw, hb⟩ := exists_cons_newLine f
  have hpre : f.newLine.isPrefixOf (b :: (w ++ cs)) = true := by
    rw [List.isPrefixOf_iff_prefix, hw]
    exact ⟨cs, rfl⟩
  have hseparator : b ≠ f.separator :=
    fun h => f.separator_notMem (h ▸ hb)
  have hquote : b ≠ f.quote := fun h => f.quote_notMem (h ▸ hb)
  have hskip : parseFrom f .record (f.newLine.length - 1) (w ++ cs)
      = parseFrom f .record 0 cs := by
    rw [parseFrom_skip, hw, List.length_cons, Nat.add_sub_cancel,
      List.drop_left]
  rw [show f.newLine ++ cs = b :: (w ++ cs) by rw [hw]; rfl]
  by_cases hclosing : s = .closing
  · subst hclosing
    rw [parseFrom, if_neg hquote, if_neg hseparator, if_pos hpre, hskip]
  · rw [parseFrom_outside hs hclosing, if_neg hseparator, if_pos hpre,
      hskip]

/-- A letter of a plain field. -/
theorem parseFrom_plainLetter {s : State} (hs : s ≠ .inside)
    (hs' : s ≠ .closing) {c : α} (hc : f.PlainLetter c) (cs : List α) :
    parseFrom f s 0 (c :: cs)
      = (parseFrom f .plain 0 cs).map (consLetter c) := by
  obtain ⟨hseparator, hquote, hbreak⟩ := hc
  rw [parseFrom_outside hs hs', if_neg hseparator,
    if_neg (newLine_not_ahead hbreak), if_neg hbreak, if_neg hquote]

/-- A quote at the beginning of a field. Inside a plain field it is an
error, so where it stands matters. -/
theorem parseFrom_quote {s : State} (hs : s = .record ∨ s = .field)
    (cs : List α) :
    parseFrom f s 0 (f.quote :: cs) = parseFrom f .inside 0 cs := by
  have hinside : s ≠ .inside := by rcases hs with rfl | rfl <;> simp
  have hclosing : s ≠ .closing := by rcases hs with rfl | rfl <;> simp
  have hplain : s ≠ .plain := by rcases hs with rfl | rfl <;> simp
  rw [parseFrom_outside hinside hclosing,
    if_neg f.separator_ne_quote.symm,
    if_neg (newLine_not_ahead f.quote_notMem), if_neg f.quote_notMem,
    if_pos rfl, if_neg hplain]

/-- A quoted field up to its closing quote. The quotes in the value are
doubled there, so none of them closes the field. -/
theorem parseFrom_inside (v more : List α) :
    parseFrom f .inside 0 (double f.quote v ++ f.quote :: more)
      = (parseFrom f .closing 0 more).map fun records =>
          v.foldr consLetter records := by
  induction v with
  | nil =>
      rw [double, List.nil_append, parseFrom, if_pos rfl]
      exact Option.map_id'.symm
  | cons c cs ih =>
      by_cases hc : c = f.quote
      · subst hc
        rw [double, if_pos rfl, List.cons_append, List.cons_append,
          parseFrom, if_pos rfl, parseFrom, if_pos rfl, ih, Option.map_map]
        rfl
      · rw [double, if_neg hc, List.cons_append, parseFrom, if_neg hc, ih,
          Option.map_map]
        rfl

omit [DecidableEq α] in
/-- Letters put one by one in front of a field. -/
theorem foldr_consLetter (v w : List α) (vs : List (List α))
    (records : List (List (List α))) :
    v.foldr consLetter ((w :: vs) :: records)
      = ((v ++ w) :: vs) :: records := by
  induction v with
  | nil => rfl
  | cons c cs ih => rw [List.foldr_cons, ih]; rfl

-- ============================================================ completeness

/-- A field and what follows it, from where a field can begin. Given how
what follows is read, both ways to write a field come to the same. -/
theorem parseFrom_field {v raw more : List α} {vs : List (List α)}
    {records : List (List (List α))} (hfield : FieldText f v raw)
    (hmore : ∀ s, s ≠ .inside → (s = .record → more ≠ []) →
      parseFrom f s 0 more = some (([] :: vs) :: records))
    {s : State} (hs : s = .record ∨ s = .field)
    (hne : s = .record → raw ++ more ≠ []) :
    parseFrom f s 0 (raw ++ more) = some ((v :: vs) :: records) := by
  have hs₁ : s ≠ .inside := by rcases hs with rfl | rfl <;> simp
  have hs₂ : s ≠ .closing := by rcases hs with rfl | rfl <;> simp
  cases hfield with
  | plain h =>
      have hplain : ∀ v, f.Plain v → parseFrom f .plain 0 (v ++ more)
          = some ((v :: vs) :: records) := by
        intro v h
        induction v with
        | nil => exact hmore .plain (by simp) (by simp)
        | cons c cs ih =>
            rw [Format.Plain, List.forall_mem_cons] at h
            rw [List.cons_append,
              parseFrom_plainLetter (by simp) (by simp) h.1, ih h.2]
            rfl
      cases v with
      | nil => exact hmore s hs₁ hne
      | cons c cs =>
          rw [Format.Plain, List.forall_mem_cons] at h
          rw [List.cons_append, parseFrom_plainLetter hs₁ hs₂ h.1,
            hplain cs h.2]
          rfl
  | quoted =>
      have hraw : literal f.quote v ++ more
          = f.quote :: (double f.quote v ++ f.quote :: more) := by
        unfold literal wrap
        simp
      rw [hraw, parseFrom_quote hs, parseFrom_inside,
        hmore .closing (by simp) (by simp), Option.map_some,
        foldr_consLetter, List.append_nil]

/-- What follows a field is read as that, from every state that can end one.
By induction on the derivation. -/
theorem parseFrom_rest {vs : List (List α)}
    {records : List (List (List α))} {more : List α}
    (h : Rest f vs records more) :
    ∀ s, s ≠ .inside → (s = .record → more ≠ []) →
      parseFrom f s 0 more = some (([] :: vs) :: records) := by
  induction h with
  | eof =>
      intro s hs hne
      cases s with
      | inside => exact absurd rfl hs
      | record => exact absurd rfl (hne rfl)
      | field => rfl
      | plain => rfl
      | closing => rfl
  | last =>
      intro s hs _
      have hread := @parseFrom_newLine α _ f s hs []
      rw [List.append_nil] at hread
      rw [hread]
      rfl
  | record hfield hne h ih =>
      intro s hs _
      rw [parseFrom_newLine hs,
        parseFrom_field hfield ih (Or.inl rfl) fun _ => hne]
      rfl
  | field hfield h ih =>
      intro s hs _
      rw [parseFrom_separator hs, parseFrom_field hfield ih (Or.inr rfl)
        (by simp)]
      rfl

/-- A text of the grammar is read as its records: the first field from the
state before a record, and then what follows it. -/
theorem parse_of_file {records : List (List (List α))} {text : List α}
    (h : File f records text) : parse f text = some records := by
  cases h with
  | nil => rfl
  | record hfield hne h =>
      exact parseFrom_field hfield (parseFrom_rest h) (Or.inl rfl)
        fun _ => hne

-- =============================================================== soundness

/-- What each state has left to read, from the records it yields. -/
private def Reads (f : Format α) :
    State → List (List (List α)) → List α → Prop
  | .record, records, text => File f records text
  | .field, records, text => ∃ v vs records' raw more,
      records = (v :: vs) :: records' ∧ text = raw ++ more
        ∧ FieldText f v raw ∧ Rest f vs records' more
  | .plain, records, text => ∃ v vs records' more,
      records = (v :: vs) :: records' ∧ text = v ++ more ∧ f.Plain v
        ∧ Rest f vs records' more
  | .inside, records, text => ∃ v vs records' more,
      records = (v :: vs) :: records'
        ∧ text = double f.quote v ++ f.quote :: more
        ∧ Rest f vs records' more
  | .closing, records, text => ∃ v vs records' more,
      records = (v :: vs) :: records'
        ∧ f.quote :: text = double f.quote v ++ f.quote :: more
        ∧ Rest f vs records' more

/-- A separator and a field more. -/
private theorem rest_of_separator {cs : List α}
    {records : List (List (List α))} (h : Reads f .field records cs) :
    ∃ vs records', consField records = ([] :: vs) :: records'
      ∧ Rest f vs records' (f.separator :: cs) := by
  obtain ⟨v, vs, records', raw, more, rfl, rfl, hfield, hrest⟩ := h
  exact ⟨v :: vs, records', rfl, .field hfield hrest⟩

omit [DecidableEq α] in
/-- What is behind a line break. -/
private theorem drop_of_newLine {c : α} {cs u : List α}
    (h : f.newLine ++ u = c :: cs) :
    cs.drop (f.newLine.length - 1) = u := by
  obtain ⟨b, w, hw, -⟩ := exists_cons_newLine f
  rw [hw, List.cons_append, List.cons.injEq] at h
  rw [hw, ← h.2, List.length_cons, Nat.add_sub_cancel, List.drop_left]

/-- A file behind a line break. -/
theorem rest_of_file {records : List (List (List α))} {text : List α}
    (h : File f records text) : Rest f [] records (f.newLine ++ text) := by
  cases h with
  | nil =>
      rw [List.append_nil]
      exact .last
  | record hfield hne h => exact .record hfield hne h

/-- A line break and a record more, or none. -/
private theorem rest_of_newLine {c : α} {cs : List α}
    {records : List (List (List α))}
    (hpre : f.newLine.isPrefixOf (c :: cs) = true)
    (h : Reads f .record records (cs.drop (f.newLine.length - 1))) :
    Rest f [] records (c :: cs) := by
  obtain ⟨u, hu⟩ := List.isPrefixOf_iff_prefix.mp hpre
  rw [drop_of_newLine hu] at h
  rw [← hu]
  exact rest_of_file h

/-- An empty rest of a field, and what follows it. -/
private theorem reads_of_rest {s : State} (hs : s ≠ .inside)
    {vs : List (List α)} {records : List (List (List α))} {c : α}
    {cs : List α} (h : Rest f vs records (c :: cs)) :
    Reads f s (([] :: vs) :: records) (c :: cs) := by
  have hplain : f.Plain [] := fun c hc => absurd hc List.not_mem_nil
  cases s with
  | record => exact .record (.plain hplain) (List.cons_ne_nil c cs) h
  | field => exact ⟨[], vs, records, [], c :: cs, rfl, rfl, .plain hplain, h⟩
  | plain => exact ⟨[], vs, records, c :: cs, rfl, rfl, hplain, h⟩
  | inside => exact absurd rfl hs
  | closing => exact ⟨[], vs, records, c :: cs, rfl, rfl, h⟩

/-- A plain letter in front of the rest of a plain field. -/
private theorem reads_of_plainLetter {s : State} (hs : s ≠ .inside)
    (hs' : s ≠ .closing) {c : α} (hc : f.PlainLetter c) {cs : List α}
    {records : List (List (List α))} (h : Reads f .plain records cs) :
    Reads f s (consLetter c records) (c :: cs) := by
  obtain ⟨v, vs, records', more, rfl, rfl, hv, hrest⟩ := h
  have hplain : f.Plain (c :: v) := List.forall_mem_cons.mpr ⟨hc, hv⟩
  cases s with
  | record =>
      have hfile : File f (((c :: v) :: vs) :: records') ((c :: v) ++ more) :=
        .record (.plain hplain) (List.cons_ne_nil c _) hrest
      exact hfile
  | field =>
      exact ⟨c :: v, vs, records', c :: v, more, rfl, rfl, .plain hplain,
        hrest⟩
  | plain => exact ⟨c :: v, vs, records', more, rfl, rfl, hplain, hrest⟩
  | inside => exact absurd rfl hs
  | closing => exact absurd rfl hs'

/-- A quoted field from its opening quote. -/
private theorem reads_of_quote {s : State}
    (hs : s = .record ∨ s = .field) {cs : List α}
    {records : List (List (List α))} (h : Reads f .inside records cs) :
    Reads f s records (f.quote :: cs) := by
  obtain ⟨v, vs, records', more, rfl, rfl, hrest⟩ := h
  have hraw : f.quote :: (double f.quote v ++ f.quote :: more)
      = literal f.quote v ++ more := by
    unfold literal wrap
    simp
  rw [hraw]
  rcases hs with rfl | rfl
  · exact .record (.quoted v) (by rw [← hraw]; exact List.cons_ne_nil _ _)
      hrest
  · exact ⟨v, vs, records', _, more, rfl, rfl, .quoted v, hrest⟩

/-- Every state reads the rest of a text, after `skip` letters, by the
grammar. -/
private def ReadsAll (f : Format α) (cs : List α) : Prop :=
  ∀ (s : State) (skip : Nat) (records : List (List (List α))),
    parseFrom f s skip cs = some records → Reads f s records (cs.drop skip)

/-- One letter more, at a separator or a line break. -/
private theorem reads_of_end {c : α} {cs : List α} (ih : ReadsAll f cs)
    {s : State} (hs : s ≠ .inside)
    (hend : c = f.separator ∨ f.newLine.isPrefixOf (c :: cs) = true)
    {records : List (List (List α))}
    (h : parseFrom f s 0 (c :: cs) = some records) :
    Reads f s records (c :: cs) := by
  rcases hend with rfl | hpre
  · rw [parseFrom_separator hs] at h
    obtain ⟨records', hread, rfl⟩ := Option.map_eq_some_iff.mp h
    obtain ⟨vs, records'', heq, hrest⟩ :=
      rest_of_separator (ih .field 0 records' hread)
    rw [heq]
    exact reads_of_rest hs hrest
  · obtain ⟨u, hu⟩ := List.isPrefixOf_iff_prefix.mp hpre
    rw [← hu, parseFrom_newLine hs, ← drop_of_newLine hu, ← parseFrom_skip]
      at h
    obtain ⟨records', hread, rfl⟩ := Option.map_eq_some_iff.mp h
    exact reads_of_rest hs
      (rest_of_newLine hpre (ih .record _ records' hread))

/-- One letter more in quotes. -/
private theorem reads_inside {c : α} {cs : List α} (ih : ReadsAll f cs)
    {records : List (List (List α))}
    (h : parseFrom f .inside 0 (c :: cs) = some records) :
    Reads f .inside records (c :: cs) := by
  rw [parseFrom] at h
  split at h
  case isTrue hc =>
    obtain ⟨v, vs, records', more, rfl, htext, hrest⟩ :=
      ih .closing 0 records h
    rw [hc]
    exact ⟨v, vs, records', more, rfl, htext, hrest⟩
  case isFalse hc =>
    obtain ⟨records', hread, rfl⟩ := Option.map_eq_some_iff.mp h
    obtain ⟨v, vs, records'', more, rfl, htext, hrest⟩ :=
      ih .inside 0 records' hread
    rw [List.drop_zero] at htext
    refine ⟨c :: v, vs, records'', more, rfl, ?_, hrest⟩
    rw [double, if_neg hc, List.cons_append, ← htext]

/-- One letter more behind a quote in quotes. -/
private theorem reads_closing {c : α} {cs : List α} (ih : ReadsAll f cs)
    {records : List (List (List α))}
    (h : parseFrom f .closing 0 (c :: cs) = some records) :
    Reads f .closing records (c :: cs) := by
  by_cases hend : c = f.separator ∨ f.newLine.isPrefixOf (c :: cs) = true
  · exact reads_of_end ih (by simp) hend h
  rw [not_or] at hend
  rw [parseFrom, if_neg hend.1, if_neg hend.2] at h
  split at h
  case isFalse => cases h
  case isTrue hc =>
    obtain ⟨records', hread, rfl⟩ := Option.map_eq_some_iff.mp h
    obtain ⟨v, vs, records'', more, rfl, htext, hrest⟩ :=
      ih .inside 0 records' hread
    rw [List.drop_zero] at htext
    refine ⟨f.quote :: v, vs, records'', more, rfl, ?_, hrest⟩
    rw [double, if_pos rfl, hc, List.cons_append, List.cons_append, ← htext]

/-- One letter more outside of quotes: it ends a field, opens quotes, or is
a letter of a plain field. A quote within a plain field is refused. -/
private theorem reads_outside {c : α} {cs : List α} (ih : ReadsAll f cs)
    {s : State} (hs : s ≠ .inside) (hs' : s ≠ .closing)
    {records : List (List (List α))}
    (h : parseFrom f s 0 (c :: cs) = some records) :
    Reads f s records (c :: cs) := by
  by_cases hend : c = f.separator ∨ f.newLine.isPrefixOf (c :: cs) = true
  · exact reads_of_end ih hs hend h
  rw [not_or] at hend
  rw [parseFrom_outside hs hs', if_neg hend.1, if_neg hend.2] at h
  by_cases hbreak : c ∈ f.breaks
  · rw [if_pos hbreak] at h
    cases h
  rw [if_neg hbreak] at h
  by_cases hquote : c = f.quote
  · rw [if_pos hquote] at h
    split at h
    case isTrue => cases h
    case isFalse hplain =>
      subst hquote
      refine reads_of_quote ?_ (ih .inside 0 records h)
      cases s with
      | record => exact Or.inl rfl
      | field => exact Or.inr rfl
      | plain => exact absurd rfl hplain
      | inside => exact absurd rfl hs
      | closing => exact absurd rfl hs'
  · rw [if_neg hquote] at h
    obtain ⟨records', hread, rfl⟩ := Option.map_eq_some_iff.mp h
    exact reads_of_plainLetter hs hs' ⟨hend.1, hquote, hbreak⟩
      (ih .plain 0 records' hread)

/-- What is read belongs to the grammar. By induction on the text; the
letters of a line break after its first are skipped, which is why the
statement has `skip` in it. -/
private theorem readsAll (text : List α) : ReadsAll f text := by
  induction text with
  | nil =>
      intro s skip records h
      have hplain : f.Plain [] := fun c hc => absurd hc List.not_mem_nil
      rw [parseFrom_skip] at h
      rw [List.drop_nil] at h ⊢
      cases s with
      | inside => cases h
      | record =>
          obtain rfl := Option.some.inj h
          exact .nil
      | field =>
          obtain rfl := Option.some.inj h
          exact ⟨[], [], [], [], [], rfl, rfl, .plain hplain, .eof⟩
      | plain =>
          obtain rfl := Option.some.inj h
          exact ⟨[], [], [], [], rfl, rfl, hplain, .eof⟩
      | closing =>
          obtain rfl := Option.some.inj h
          exact ⟨[], [], [], [], rfl, rfl, .eof⟩
  | cons c cs ih =>
      intro s skip records h
      cases skip with
      | succ skip =>
          rw [parseFrom_skip, List.drop_succ_cons, ← parseFrom_skip] at h
          rw [List.drop_succ_cons]
          exact ih s skip records h
      | zero =>
          rw [List.drop_zero]
          by_cases hinside : s = .inside
          · subst hinside
            exact reads_inside ih h
          by_cases hclosing : s = .closing
          · subst hclosing
            exact reads_closing ih h
          exact reads_outside ih hinside hclosing h

/-- The parser decides the grammar: it returns the records of a text that
has some, and nothing for a text that has none. -/
theorem parse_eq_some_iff {records : List (List (List α))}
    {text : List α} : parse f text = some records ↔ File f records text := by
  constructor
  · intro h
    exact readsAll text .record 0 records h
  · exact parse_of_file

-- =============================================================== writing

/-- Records of written fields, a line each. -/
def write (f : Format α) (records : List (List (List α))) : List α :=
  records.flatMap fun raws =>
    List.intercalate [f.separator] raws ++ f.newLine

omit [DecidableEq α] in
theorem write_cons (raws : List (List α))
    (records : List (List (List α))) :
    write f (raws :: records)
      = List.intercalate [f.separator] raws
        ++ (f.newLine ++ write f records) :=
  List.append_assoc ..

/-- A record more in front of what follows. -/
private theorem rest_of_fields {more : List α}
    {records : List (List (List α))} (hmore : Rest f [] records more) :
    ∀ fields : List (List α × List α), (∀ p ∈ fields, FieldText f p.1 p.2) →
      Rest f (fields.map Prod.fst) records
        ((fields.map Prod.snd).flatMap (fun raw => f.separator :: raw)
          ++ more) := by
  intro fields
  induction fields with
  | nil => exact fun _ => hmore
  | cons p fields ih =>
      intro hfields
      rw [List.forall_mem_cons] at hfields
      have hrest : Rest f (p.1 :: fields.map Prod.fst) records _ :=
        .field hfields.1 (ih hfields.2)
      rw [List.map_cons, List.map_cons, List.flatMap_cons, List.append_assoc]
      exact hrest

/-- Fields written as the grammar has them make a file, if no record is
without fields: what is behind a record is a line break and the next one. -/
theorem file_write {records : List (List (List α × List α))}
    (h : ∀ record ∈ records, record ≠ []
      ∧ ∀ p ∈ record, FieldText f p.1 p.2) :
    File f (records.map (List.map Prod.fst))
      (write f (records.map (List.map Prod.snd))) := by
  induction records with
  | nil => exact .nil
  | cons record records ih =>
      rw [List.forall_mem_cons] at h
      obtain ⟨⟨hne, hfields⟩, hrecords⟩ := h
      obtain ⟨p, fields, rfl⟩ := List.exists_cons_of_ne_nil hne
      rw [List.forall_mem_cons] at hfields
      have hrest := rest_of_fields (rest_of_file (ih hrecords)) fields
        hfields.2
      simp only [List.map_cons]
      rw [write_cons, intercalate_cons_eq, List.append_assoc]
      refine .record hfields.1 ?_ hrest
      simp [f.newLine_ne_nil]

-- ================================================================= lengths

/-- The least length of a field's text. -/
def cost (f : Format α) (v : List α) : Nat :=
  if f.Plain v then v.length else v.length + v.count f.quote + 2

/-- No way to write a field is shorter than its cost. -/
theorem cost_le_of_fieldText {v raw : List α} (h : FieldText f v raw) :
    cost f v ≤ raw.length := by
  unfold cost
  cases h with
  | plain h => rw [if_pos h]
  | quoted =>
      have hlen : (literal f.quote v).length
          = v.length + v.count f.quote + 2 := by
        unfold literal wrap
        rw [List.length_cons, List.length_append, length_double]
        rfl
      rw [hlen]
      split
      · omega
      · exact Nat.le_refl _

/-- The least length of a record's text, counting a separator more. -/
def recordCost (f : Format α) (vs : List (List α)) : Nat :=
  (vs.map fun v => cost f v + 1).sum + f.newLine.length

/-- The text ends with a letter of a line break. -/
def EndsInBreak (f : Format α) (text : List α) : Prop :=
  ∃ b ∈ f.breaks, text.getLast? = some b

omit [DecidableEq α] in
/-- What is behind a text that does not end so ends so. -/
theorem EndsInBreak.of_append {x y : List α}
    (h : EndsInBreak f (x ++ y)) (hx : ¬EndsInBreak f x) :
    EndsInBreak f y := by
  obtain ⟨b, hb, hlast⟩ := h
  rw [List.getLast?_append] at hlast
  cases hy : y.getLast? with
  | none =>
      rw [hy, Option.none_or] at hlast
      exact absurd ⟨b, hb, hlast⟩ hx
  | some b' =>
      rw [hy, Option.some_or] at hlast
      exact ⟨b, hb, by rw [hy, hlast]⟩

/-- No field ends in a line break. -/
theorem not_endsInBreak_of_fieldText {v raw : List α}
    (h : FieldText f v raw) : ¬EndsInBreak f raw := by
  intro hends
  obtain ⟨b, hb, hlast⟩ := hends
  cases h with
  | plain h => exact (h b (List.mem_of_getLast? hlast)).2.2 hb
  | quoted =>
      unfold literal wrap at hlast
      rw [← List.cons_append, List.getLast?_append] at hlast
      obtain rfl := Option.some.inj hlast
      exact f.quote_notMem hb

/-- What follows a field is no shorter than its parts. -/
private theorem length_of_rest {vs : List (List α)}
    {records : List (List (List α))} {more : List α}
    (h : Rest f vs records more) :
    EndsInBreak f more →
      (vs.map fun v => cost f v + 1).sum + f.newLine.length
          + (records.map (recordCost f)).sum
        ≤ more.length + records.length := by
  induction h with
  | eof =>
      intro hends
      obtain ⟨b, -, hlast⟩ := hends
      cases hlast
  | last =>
      intro _
      simp
  | @record v raw more vs records hfield hne h ih =>
      intro hends
      obtain ⟨b, hb, hlast⟩ := hends
      have hend : EndsInBreak f (raw ++ more) := by
        rw [List.getLast?_append_of_ne_nil _ hne] at hlast
        exact ⟨b, hb, hlast⟩
      have hlen := ih (hend.of_append (not_endsInBreak_of_fieldText hfield))
      have hcost := cost_le_of_fieldText hfield
      simp only [List.map_nil, List.sum_nil, List.map_cons, List.sum_cons,
        recordCost, List.length_append, List.length_cons]
      omega
  | @field v raw more vs records hfield h ih =>
      intro hend
      have hnot : ¬EndsInBreak f [f.separator] := by
        intro hends
        obtain ⟨b, hb, hlast⟩ := hends
        obtain rfl := Option.some.inj hlast
        exact f.separator_notMem hb
      have hend : EndsInBreak f (raw ++ more) :=
        EndsInBreak.of_append (x := [f.separator]) hend hnot
      have hlen := ih (hend.of_append (not_endsInBreak_of_fieldText hfield))
      have hcost := cost_le_of_fieldText hfield
      simp only [List.map_cons, List.sum_cons, List.length_append,
        List.length_cons]
      omega

/-- A text that ends in a line break is no shorter than its records. Without
the line break at its end the last record would be shorter by that. -/
theorem recordCost_le_of_file {records : List (List (List α))}
    {text : List α} (h : File f records text) (hend : EndsInBreak f text) :
    (records.map (recordCost f)).sum ≤ text.length + records.length := by
  cases h with
  | nil => exact Nat.zero_le _
  | record hfield hne h =>
      have hlen := length_of_rest h
        (hend.of_append (not_endsInBreak_of_fieldText hfield))
      have hcost := cost_le_of_fieldText hfield
      simp only [List.map_cons, List.sum_cons, recordCost,
        List.length_append, List.length_cons] at hlen ⊢
      omega

omit [DecidableEq α] in
/-- Written records end in a line break. -/
theorem endsInBreak_write {records : List (List (List α))}
    (hne : records ≠ []) : EndsInBreak f (write f records) := by
  obtain ⟨init, raws, rfl⟩ : ∃ init raws, records = init ++ [raws] :=
    ⟨_, _, (List.dropLast_append_getLast hne).symm⟩
  have hlast : (write f (init ++ [raws])).getLast? = f.newLine.getLast? := by
    unfold write
    rw [List.flatMap_append, List.flatMap_singleton, ← List.append_assoc,
      List.getLast?_append_of_ne_nil _ f.newLine_ne_nil]
  rw [EndsInBreak, hlast, List.getLast?_eq_some_getLast f.newLine_ne_nil]
  exact ⟨_, f.newLine_subset (List.getLast_mem _), rfl⟩

/-- The length of a written record, counting a separator more. -/
def recordLength (f : Format α) (raws : List (List α)) : Nat :=
  (raws.map fun raw => raw.length + 1).sum + f.newLine.length

omit [DecidableEq α] in
/-- The length of written records, counting a separator more for each. -/
theorem length_write {records : List (List (List α))}
    (hne : ∀ raws ∈ records, raws ≠ []) :
    (write f records).length + records.length
      = (records.map (recordLength f)).sum := by
  have hsucc : ∀ raws : List (List α),
      (raws.map fun raw => raw.length + 1).sum
        = (raws.map List.length).sum + raws.length := by
    intro raws
    induction raws with
    | nil => rfl
    | cons raw raws ih =>
        rw [List.map_cons, List.sum_cons, ih, List.map_cons, List.sum_cons,
          List.length_cons]
        omega
  induction records with
  | nil => rfl
  | cons raws records ih =>
      rw [List.forall_mem_cons] at hne
      obtain ⟨hraws, hrecords⟩ := hne
      obtain ⟨raw, raws, rfl⟩ := List.exists_cons_of_ne_nil hraws
      have hrest := ih hrecords
      have hline := length_intercalate_cons f.separator raw raws
      rw [List.map_cons, List.sum_cons, recordLength, hsucc, write_cons,
        List.map_cons, List.sum_cons]
      simp only [List.length_append, List.length_cons]
      omega

/-- Where no field is written longer than its cost, the text is a file of
the values only if every field is written at its cost. The lengths add up
to the length of the text on both sides, so no field can be shorter. -/
theorem cost_eq_of_file {records : List (List (List α × List α))}
    (hne : ∀ record ∈ records, record ≠ [])
    (hle : ∀ record ∈ records, ∀ p ∈ record, p.2.length ≤ cost f p.1)
    (h : File f (records.map (List.map Prod.fst))
      (write f (records.map (List.map Prod.snd)))) :
    ∀ record ∈ records, ∀ p ∈ record, p.2.length = cost f p.1 := by
  by_cases hnil : records = []
  · subst hnil
    exact fun record hrecord => absurd hrecord List.not_mem_nil
  have hpointwise : ∀ record ∈ records,
      recordLength f (record.map Prod.snd)
        ≤ recordCost f (record.map Prod.fst) := by
    intro record hrecord
    unfold recordLength recordCost
    rw [List.map_map, List.map_map]
    refine Nat.add_le_add_right (List.sum_le_sum fun p hp => ?_) _
    exact Nat.succ_le_succ (hle record hrecord p hp)
  have hsum : (records.map fun record =>
        recordLength f (record.map Prod.snd)).sum
      = (records.map fun record =>
        recordCost f (record.map Prod.fst)).sum := by
    apply Nat.le_antisymm (List.sum_le_sum hpointwise)
    have hraws : ∀ raws ∈ records.map (List.map Prod.snd), raws ≠ [] := by
      intro raws hraws
      obtain ⟨record, hrecord, rfl⟩ := List.mem_map.mp hraws
      exact fun hmap => hne record hrecord (List.map_eq_nil_iff.mp hmap)
    have hwritten := @length_write α f _ hraws
    have hleast := recordCost_le_of_file h
      (endsInBreak_write fun hmap => hnil (List.map_eq_nil_iff.mp hmap))
    rw [List.map_map, List.length_map] at hwritten hleast
    exact hleast.trans_eq hwritten
  intro record hrecord
  have hrecord' := eq_of_sum_map_eq hpointwise hsum record hrecord
  unfold recordLength recordCost at hrecord'
  rw [List.map_map, List.map_map] at hrecord'
  intro p hp
  have hp := eq_of_sum_map_eq
    (fun p hp => Nat.succ_le_succ (hle record hrecord p hp))
    (Nat.add_right_cancel hrecord') p hp
  exact Nat.succ.inj hp

end SkillBuddy.Lib.Csv
