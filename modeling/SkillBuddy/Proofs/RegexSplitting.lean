/-
Cutting a line of a CSV file with a regular expression.

# The lookahead

Behind a delimiter the pattern looks for pairs of quotes with no quote
after them: that is an even number of quotes in the rest of the line
(`exists_matches_pairs_iff`). `CsvParser` counts the quotes before the
separator instead. On a line with an even number of quotes both counts
have the same parity, and the two cut at the same places. So `CsvParser`
returns the pieces of the expression, without an empty last one, each
without quotes and trimmed (`csvParser_eq_regexSplit`).

# The delimiter

The delimiter is spliced into the pattern and keeps its role there. As a
literal it cuts where it stands; some characters make the pattern
invalid, `|`, `^` and `$` match the empty text, and `.` any letter but a
line feed (`losslessSplit_iff`). One lemma for each of these ways:

- a pattern that is refused splits nothing;
- an expression that matches only the empty text, and does so somewhere
  in the line, cuts there without taking a delimiter, so the pieces joined
  with the delimiter are not the line (`not_lossless_of_empty`);
- a letter, whichever it matches, cuts at these letters, and the pieces
  are lossless exactly if these are the delimiters
  (`lossless_letter_iff`).

# The matcher

The constructor is modelled by a parser of the pattern (`newRegex`) and
the matching by a backtracking matcher; that the two sides agree with the
declarative `Matches` is the library's. So the proofs below never run the
matcher: they are about which places an expression matches at.
-/
import SkillBuddy.Core.CsvRegex
import SkillBuddy.Proofs.CsvSplitting

namespace SkillBuddy.Helper

open DotNet
open Lib (Regex)
open Lib.Regex (Matches)
open Relation

-- =========================================================== the patterns

/-- `[^"]*"`. -/
def toQuote : Regex CodeUnit :=
  .seq (.star (.letter true [unit '"'])) (.letter false [unit '"'])

/-- `[^"]*"[^"]*"`. -/
def quotePair : Regex CodeUnit :=
  .seq (.star (.letter true [unit '"'])) (.seq (.letter false [unit '"'])
    toQuote)

/-- `(?:[^"]*"[^"]*")*(?![^"]*")`. -/
def quotePairs : Regex CodeUnit :=
  .seq (.star quotePair) (.ahead false toQuote)

/-- A delimiter's expression with the lookahead behind it. -/
def delimited (delimiter : Regex CodeUnit) : Regex CodeUnit :=
  .seq delimiter (.ahead true quotePairs)

/-- The characters that keep a role at the front of the pattern. -/
def patternRoles : Str := str "\\*+?|[()^$."

/-- Characters whose role in the pattern never leaves a line whole: they
make it invalid, or match the empty text. -/
def losingDelimiters : Str := str "\\*+?|[()^$"

theorem losingDelimiters_eq : losingDelimiters
    = [unit '\\', unit '*', unit '+', unit '?', unit '|', unit '[',
      unit '(', unit ')', unit '^', unit '$'] := rfl

/-- The dot is the one other character with a role. -/
theorem mem_patternRoles_iff {c : CodeUnit} :
    c ∈ patternRoles ↔ c ∈ losingDelimiters ∨ c = unit '.' := by
  rw [show patternRoles = losingDelimiters ++ [unit '.'] from rfl,
    List.mem_append, List.mem_singleton]

/-- Any other character is a literal there. -/
theorem newRegex_csvPattern {delimiter : CodeUnit}
    (h : delimiter ∉ patternRoles) :
    newRegex (csvPattern delimiter)
      = some (.ok (delimited (.letter false [delimiter]))) := by
  by_cases hbrace : delimiter = unit '{'
  · rw [hbrace]
    rfl
  · have hplain : lexPlain delimiter
        = ([.letter false [delimiter]], .plain) := by
      have hne : ∀ c ∈ patternRoles, delimiter ≠ c := by
        intro c hc heq
        exact h (heq ▸ hc)
      unfold lexPlain
      rw [if_neg (hne (unit '\\') (by decide)),
        if_neg (hne (unit '[') (by decide)),
        if_neg (hne (unit '(') (by decide)), if_neg hbrace,
        if_neg (hne (unit ')') (by decide)),
        if_neg (hne (unit '|') (by decide)),
        if_neg (hne (unit '^') (by decide)),
        if_neg (hne (unit '$') (by decide)),
        if_neg (hne (unit '.') (by decide)),
        if_neg (hne (unit '*') (by decide)),
        if_neg (hne (unit '+') (by decide)),
        if_neg (hne (unit '?') (by decide))]
    unfold newRegex csvPattern
    rw [lex, lexStep, hplain]
    rfl

/-- Whatever the delimiter, the pattern keeps to the modelled constructs:
it is accepted or refused. -/
theorem csvToDataTableRegex_ne_none (file : CsvFile)
    (delimiter : CodeUnit) : csvToDataTableRegex file delimiter ≠ none := by
  have hsome : (newRegex (csvPattern delimiter)).isSome := by
    by_cases hrole : delimiter ∈ patternRoles
    · have hroles : ∀ c ∈ patternRoles,
          (newRegex (csvPattern c)).isSome := by
        intro c hc
        rw [mem_patternRoles_iff, losingDelimiters_eq] at hc
        simp only [List.mem_cons, List.not_mem_nil, or_false] at hc
        rcases hc with
          (rfl | rfl | rfl | rfl | rfl | rfl | rfl | rfl | rfl | rfl) | rfl
          <;> rfl
      exact hroles delimiter hrole
    · rw [newRegex_csvPattern hrole]
      rfl
  unfold csvToDataTableRegex
  rw [Option.map_eq_none_iff.ne]
  exact Option.isSome_iff_ne_none.mp hsome

-- ========================================================== the lookahead

variable {total : Nat} {s t : Str}

theorem matches_toQuote_iff :
    Matches total toQuote s t
      ↔ ∃ before, unit '"' ∉ before ∧ s = before ++ unit '"' :: t := by
  have hpassed : ∀ before : Str,
      (∀ c ∈ before, decide (c ∈ [unit '"']) ≠ true)
        ↔ unit '"' ∉ before := by
    intro before
    simp only [List.mem_singleton, ne_eq, decide_eq_true_eq]
    exact ⟨fun h hmem => h _ hmem rfl, fun h c hc heq => h (heq ▸ hc)⟩
  constructor
  · intro h
    obtain ⟨m, hm, c, rfl, hc⟩ := h
    obtain ⟨before, rfl, hbefore⟩ := Lib.Regex.matches_star_letter_iff.mp hm
    obtain rfl : c = unit '"' := by simpa using hc
    exact ⟨before, (hpassed before).mp hbefore, rfl⟩
  · intro h
    obtain ⟨before, hbefore, rfl⟩ := h
    refine ⟨unit '"' :: t, ?_, unit '"', rfl, by decide⟩
    rw [Lib.Regex.matches_star_letter_iff]
    exact ⟨before, rfl, (hpassed before).mpr hbefore⟩

/-- There is a next quote to go to iff there is a quote. -/
theorem exists_matches_toQuote_iff :
    (∃ t, Matches total toQuote s t) ↔ unit '"' ∈ s := by
  constructor
  · intro h
    obtain ⟨t, ht⟩ := h
    obtain ⟨before, -, rfl⟩ := matches_toQuote_iff.mp ht
    simp
  · intro h
    obtain ⟨before, after, rfl, hbefore⟩ := List.eq_append_cons_of_mem h
    exact ⟨after, matches_toQuote_iff.mpr ⟨before, hbefore, rfl⟩⟩

/-- A pair of quotes is two quotes, one behind the other. -/
theorem matches_quotePair_iff :
    Matches total quotePair s t
      ↔ ∃ m, Matches total toQuote s m ∧ Matches total toQuote m t := by
  constructor
  · intro h
    obtain ⟨m, hm, m', hm', ht⟩ := h
    exact ⟨m', ⟨m, hm, hm'⟩, ht⟩
  · intro h
    obtain ⟨m', ⟨m, hm, hm'⟩, ht⟩ := h
    exact ⟨m, hm, m', hm', ht⟩

theorem count_of_matches_toQuote (h : Matches total toQuote s t) :
    s.count (unit '"') = t.count (unit '"') + 1 := by
  obtain ⟨before, hbefore, rfl⟩ := matches_toQuote_iff.mp h
  rw [List.count_append, List.count_eq_zero_of_not_mem hbefore,
    List.count_cons_self, Nat.zero_add]

/-- Pairs keep the parity of the quotes that are left. -/
theorem even_count_of_star_quotePair
    (h : ReflTransGen (Matches total quotePair) s t) :
    Even (s.count (unit '"')) ↔ Even (t.count (unit '"')) := by
  induction h with
  | refl => exact Iff.rfl
  | tail _ hpair ih =>
      obtain ⟨m, hm, ht⟩ := matches_quotePair_iff.mp hpair
      rw [ih, count_of_matches_toQuote hm, count_of_matches_toQuote ht]
      simp only [Nat.even_add_one, not_not]

/-- Pairs lead from an even number of quotes to none. -/
theorem exists_star_quotePair (n : Nat) :
    ∀ s : Str, s.count (unit '"') = 2 * n →
      ∃ t, ReflTransGen (Matches total quotePair) s t ∧ unit '"' ∉ t := by
  induction n with
  | zero =>
      intro s hs
      exact ⟨s, ReflTransGen.refl, List.count_eq_zero.mp hs⟩
  | succ n ih =>
      intro s hs
      have hsome : unit '"' ∈ s := by
        rw [← List.count_pos_iff]
        omega
      obtain ⟨m, hm⟩ := (@exists_matches_toQuote_iff total s).mpr hsome
      have hm' := count_of_matches_toQuote hm
      have hnext : unit '"' ∈ m := by
        rw [← List.count_pos_iff]
        omega
      obtain ⟨r, hr⟩ := (@exists_matches_toQuote_iff total m).mpr hnext
      have hr' := count_of_matches_toQuote hr
      obtain ⟨t, ht, hnone⟩ := ih r (by omega)
      exact ⟨t, ReflTransGen.head (matches_quotePair_iff.mpr ⟨m, hm, hr⟩) ht,
        hnone⟩

/-- The lookahead holds in front of an even number of quotes. -/
theorem exists_matches_pairs_iff :
    (∃ t, Matches total quotePairs s t) ↔ Even (s.count (unit '"')) := by
  have hnone : ∀ t, Matches total (.ahead false toQuote) t t
      ↔ unit '"' ∉ t := by
    intro t
    show t = t ∧ ((∃ m, Matches total toQuote t m) ↔ false = true) ↔ _
    rw [exists_matches_toQuote_iff]
    simp
  constructor
  · intro h
    obtain ⟨t, m, hm, ht⟩ := h
    obtain rfl : t = m := ht.1
    rw [even_count_of_star_quotePair hm,
      List.count_eq_zero_of_not_mem ((hnone t).mp ht)]
    exact Even.zero
  · intro h
    obtain ⟨n, hn⟩ := h
    obtain ⟨t, ht, hquote⟩ := exists_star_quotePair n s (by omega)
    exact ⟨t, t, ht, (hnone t).mpr hquote⟩

theorem matches_delimited_iff {delimiter : Regex CodeUnit} :
    Matches total (delimited delimiter) s t
      ↔ Matches total delimiter s t ∧ Even (t.count (unit '"')) := by
  rw [← @exists_matches_pairs_iff total]
  constructor
  · intro h
    obtain ⟨m, hm, rfl, hahead⟩ := h
    exact ⟨hm, hahead.mpr rfl⟩
  · intro h
    exact ⟨t, h.1, rfl, iff_of_true h.2 rfl⟩

-- ================================================================ cutting

/-- A letter the expression takes, with an even number of quotes behind
it. -/
def IsRegexCut (negated : Bool) (letters text : Str) (i : Nat) : Prop :=
  (∃ c ∈ text[i]?, decide (c ∈ letters) ≠ negated)
    ∧ Even ((text.drop (i + 1)).count (unit '"'))

instance (negated : Bool) (letters text : Str) :
    DecidablePred (IsRegexCut negated letters text) :=
  fun _ => inferInstanceAs (Decidable (_ ∧ _))

/-- A letter with the lookahead behind it splits a line at its cuts. -/
theorem split_delimited_letter (negated : Bool) (letters text : Str) :
    (delimited (.letter negated letters)).split text
      = Lib.Cut.cutFrom (IsRegexCut negated letters text) 0 text := by
  apply Lib.Regex.split_of_letter
  intro i hi t
  rw [matches_delimited_iff]
  show (∃ c, text.drop i = c :: t ∧ decide (c ∈ letters) ≠ negated)
    ∧ Even (t.count (unit '"')) ↔ _
  -- what is left behind the letter at `i` is the text from `i + 1` on
  have hletter : ∀ c, text.drop i = c :: t →
      text[i]? = some c ∧ text.drop (i + 1) = t := by
    intro c hc
    constructor
    · rw [← List.head?_drop, hc]
      rfl
    · rw [← List.tail_drop, hc]
      rfl
  constructor
  · intro h
    obtain ⟨⟨c, hc, hin⟩, heven⟩ := h
    obtain ⟨hci, ht⟩ := hletter c hc
    refine ⟨⟨c, hc⟩, ⟨c, hci, hin⟩, ?_⟩
    rw [ht]
    exact heven
  · intro h
    obtain ⟨⟨c, hc⟩, ⟨c', hc', hin⟩, heven⟩ := h
    obtain ⟨hci, ht⟩ := hletter c hc
    obtain rfl : c = c' := Option.some.inj (hci.symm.trans hc')
    rw [ht] at heven
    exact ⟨⟨c, hc, hin⟩, heven⟩

/-- On a line with an even number of quotes a delimiter has an even number
of them before it iff it has one behind it. -/
theorem isRegexCut_iff_isOpenSeparator {delimiter : CodeUnit} {text : Str}
    (hne : delimiter ≠ unit '"') (heven : Even (text.count (unit '"')))
    (i : Nat) :
    IsRegexCut false [delimiter] text i
      ↔ IsOpenSeparator text delimiter (unit '"') i := by
  unfold IsRegexCut IsOpenSeparator
  have hletter : (∃ c ∈ text[i]?, decide (c ∈ [delimiter]) ≠ false)
      ↔ text[i]? = some delimiter := by
    simp
  rw [hletter]
  refine and_congr_right ?_
  intro hi
  have hline : text = text.take i ++ delimiter :: text.drop (i + 1) := by
    obtain ⟨hlt, hget⟩ := List.getElem?_eq_some_iff.mp hi
    rw [← hget, List.getElem_cons_drop, List.take_append_drop]
  rw [hline, List.count_append, List.count_cons_of_ne hne,
    Nat.even_add] at heven
  exact heven.symm

/-- The two line splitters agree: on a line with an even number of quotes,
with a delimiter that is neither the quote nor a character with a role in
the pattern, `CsvParser` returns the pieces of the regular expression,
without an empty last one, each without quotes and trimmed. -/
theorem csvParser_eq_regexSplit {line : Str} {delimiter : CodeUnit}
    (heven : Even (line.count (unit '"'))) (hne : delimiter ≠ unit '"')
    (hrole : delimiter ∉ patternRoles) :
    ∃ csvParserRegex,
      newRegex (csvPattern delimiter) = some (.ok csvParserRegex)
        ∧ csvParser line delimiter (unit '"')
          = .ok ((dropLastEmpty (csvParserRegex.split line)).map
              fun raw => trim (raw.filter (· ≠ unit '"'))) := by
  refine ⟨_, newRegex_csvPattern hrole, ?_⟩
  rw [csvParser_eq_cutFrom hne, split_delimited_letter]
  have hcuts : Lib.Cut.cutFrom
        (IsOpenSeparator line delimiter (unit '"')) 0 line
      = Lib.Cut.cutFrom (IsRegexCut false [delimiter] line) 0 line := by
    apply Lib.Cut.cutFrom_congr
    intro k hk
    exact (isRegexCut_iff_isOpenSeparator hne heven (0 + k)).symm
  rw [hcuts]
  rfl

/-- With a quoted semicolon and one at the end. -/
theorem csvParser_eq_regexSplit_semicolon :
    ∃ csvParserRegex,
      newRegex (csvPattern (unit ';')) = some (.ok csvParserRegex)
        ∧ csvParser (str "a;\"b;c\" ;d;") (unit ';') (unit '"')
          = .ok ((dropLastEmpty (csvParserRegex.split
              (str "a;\"b;c\" ;d;"))).map
                fun raw => trim (raw.filter (· ≠ unit '"'))) :=
  csvParser_eq_regexSplit (by decide) (by decide) (by decide)

-- ============================================================== lossless

/-- The constructor accepts the pattern, no piece of the line has the
delimiter, and the pieces joined with it are the line. -/
def LosslessSplit (delimiter : CodeUnit) (line : Str) : Prop :=
  ∃ csvParserRegex,
    newRegex (csvPattern delimiter) = some (.ok csvParserRegex)
      ∧ (∀ piece ∈ csvParserRegex.split line, delimiter ∉ piece)
      ∧ List.intercalate [delimiter] (csvParserRegex.split line) = line

/-- On a line without quotes the lookahead always holds. -/
theorem even_count_drop {line : Str} (hline : unit '"' ∉ line) (i : Nat) :
    Even ((line.drop i).count (unit '"')) := by
  rw [List.count_eq_zero_of_not_mem fun h => hline (List.mem_of_mem_drop h)]
  exact Even.zero

theorem isRegexCut_of_no_quote {negated : Bool} {letters text : Str}
    (hline : unit '"' ∉ text) (i : Nat) :
    IsRegexCut negated letters text i
      ↔ ∃ c ∈ text[i]?, decide (c ∈ letters) ≠ negated :=
  and_iff_left (even_count_drop hline (i + 1))

/-- What a letter's expression leaves of a line without quotes: no piece
has the delimiter iff the expression takes it wherever it stands, and the
join is the line iff the expression takes nothing else. -/
theorem lossless_letter_iff {negated : Bool} {letters line : Str}
    {delimiter : CodeUnit} (hline : unit '"' ∉ line) :
    ((∀ piece ∈ (delimited (.letter negated letters)).split line,
        delimiter ∉ piece)
      ∧ List.intercalate [delimiter]
          ((delimited (.letter negated letters)).split line) = line)
      ↔ ∀ c ∈ line, decide (c ∈ letters) ≠ negated ↔ c = delimiter := by
  rw [split_delimited_letter, Lib.Cut.forall_notMem_cutFrom_iff,
    Lib.Cut.intercalate_cutFrom_eq_iff]
  simp only [isRegexCut_of_no_quote hline, Nat.zero_add, Option.mem_def]
  constructor
  · intro h c hc
    obtain ⟨htaken, honly⟩ := h
    obtain ⟨k, hk⟩ := List.getElem?_of_mem hc
    constructor
    · intro hin
      exact honly k c hk ⟨c, hk, hin⟩
    · intro heq
      subst heq
      obtain ⟨c', hc', hin⟩ := htaken k hk
      rwa [Option.some.inj (hk.symm.trans hc')]
  · intro h
    constructor
    · intro k hk
      exact ⟨delimiter, hk, (h delimiter (List.mem_of_getElem? hk)).mpr rfl⟩
    · intro k c hk hcut
      obtain ⟨c', hc', hin⟩ := hcut
      obtain rfl : c = c' := Option.some.inj (hk.symm.trans hc')
      exact (h c (List.mem_of_getElem? hk)).mp hin

/-- A pattern that matches only the empty text, and does so somewhere in
the line, loses the line. -/
theorem not_lossless_of_empty {regex : Regex CodeUnit} {line : Str}
    {delimiter : CodeUnit}
    (hregex : newRegex (csvPattern delimiter) = some (.ok regex))
    (hempty : ∀ s t, Matches line.length regex s t → t = s)
    {i : Nat} (hi : i ≤ line.length)
    (hmatch : Matches line.length regex (line.drop i) (line.drop i)) :
    ¬LosslessSplit delimiter line := by
  intro h
  obtain ⟨regex', hregex', -, hjoin⟩ := h
  obtain rfl := Except.ok.inj (Option.some.inj (hregex.symm.trans hregex'))
  exact Lib.Regex.intercalate_split_ne_of_empty hempty delimiter hi
    ⟨_, hmatch⟩ hjoin

theorem not_lossless_of_losing {delimiter : CodeUnit} {line : Str}
    (hlosing : delimiter ∈ losingDelimiters) (hline : unit '"' ∉ line) :
    ¬LosslessSplit delimiter line := by
  have hinvalid : ∀ {d e}, newRegex (csvPattern d) = some (.error e) →
      ¬LosslessSplit d line := by
    intro d e herror h
    obtain ⟨regex, hregex, -⟩ := h
    rw [herror] at hregex
    cases hregex
  have hanchor : ∀ {d r i},
      newRegex (csvPattern d) = some (.ok (delimited r)) →
      (∀ s t, Matches line.length r s t → t = s) → i ≤ line.length →
      Matches line.length r (line.drop i) (line.drop i) →
      ¬LosslessSplit d line := by
    intro d r i hregex hempty hi hmatch
    apply not_lossless_of_empty hregex ?_ hi
    · exact matches_delimited_iff.mpr ⟨hmatch, even_count_drop hline i⟩
    · intro s t h
      exact hempty s t (matches_delimited_iff.mp h).1
  rw [losingDelimiters_eq] at hlosing
  simp only [List.mem_cons, List.not_mem_nil, or_false] at hlosing
  rcases hlosing with
    rfl | rfl | rfl | rfl | rfl | rfl | rfl | rfl | rfl | rfl
  · exact hinvalid (e := .insufficientOpeningParentheses) rfl
  · exact hinvalid (e := .quantifierAfterNothing) rfl
  · exact hinvalid (e := .quantifierAfterNothing) rfl
  · exact hinvalid (e := .quantifierAfterNothing) rfl
  · -- `|`: nothing, or the lookahead
    have hregex : newRegex (csvPattern (unit '|'))
        = some (.ok (.alt .empty (.ahead true quotePairs))) := rfl
    refine not_lossless_of_empty hregex ?_ (Nat.zero_le _) (Or.inl rfl)
    intro s t h
    rcases h with h | h
    · exact h
    · exact h.1
  · exact hinvalid (e := .insufficientOpeningParentheses) rfl
  · exact hinvalid (e := .insufficientClosingParentheses) rfl
  · exact hinvalid (e := .insufficientOpeningParentheses) rfl
  · -- `^`: the start of the line
    exact hanchor (r := .start) rfl (fun _ _ h => h.1) (Nat.zero_le _)
      ⟨rfl, rfl⟩
  · -- `$`: the end of the line
    refine hanchor (r := .finish (unit '\n')) rfl (fun _ _ h => h.1)
      (Nat.le_refl _) ⟨rfl, Or.inl ?_⟩
    exact List.drop_length

/-- Splitting a line without quotes is lossless exactly when the delimiter
is none of the losing ones and, where it is the dot, the line has only
dots and line feeds. -/
theorem losslessSplit_iff {delimiter : CodeUnit} {line : Str}
    (hne : delimiter ≠ unit '"') (hline : unit '"' ∉ line) :
    LosslessSplit delimiter line
      ↔ delimiter ∉ losingDelimiters
        ∧ (delimiter = unit '.' → ∀ c ∈ line, c = unit '.' ∨ c = lf) := by
  by_cases hlosing : delimiter ∈ losingDelimiters
  · exact iff_of_false (not_lossless_of_losing hlosing hline)
      (fun h => h.1 hlosing)
  -- what is left is accepted, as one letter with the lookahead behind it
  have hletter : ∀ {negated letters},
      newRegex (csvPattern delimiter)
        = some (.ok (delimited (.letter negated letters))) →
      (LosslessSplit delimiter line
        ↔ ∀ c ∈ line, decide (c ∈ letters) ≠ negated ↔ c = delimiter) := by
    intro negated letters hregex
    rw [← lossless_letter_iff hline, LosslessSplit, hregex]
    simp
  by_cases hdot : delimiter = unit '.'
  · subst hdot
    rw [@hletter true [unit '\n'] rfl]
    constructor
    · intro h
      refine ⟨hlosing, ?_⟩
      intro _ c hc
      by_cases hlf : c = lf
      · exact Or.inr hlf
      · refine Or.inl ((h c hc).mp ?_)
        have hne : c ≠ unit '\n' := hlf
        simpa using hne
    · intro h c hc
      rcases h.2 rfl c hc with rfl | rfl <;> decide
  · have hrole : delimiter ∉ patternRoles := by
      intro hmem
      rw [mem_patternRoles_iff] at hmem
      rcases hmem with hmem | hmem
      · exact hlosing hmem
      · exact hdot hmem
    rw [hletter (newRegex_csvPattern hrole)]
    refine iff_of_true ?_ ⟨hlosing, fun h => absurd h hdot⟩
    intro c _
    simp

/-- Semicolons are kept. -/
theorem losslessSplit_semicolon :
    LosslessSplit (unit ';') (str "a;;b")
      ↔ unit ';' ∉ losingDelimiters
        ∧ (unit ';' = unit '.' →
          ∀ c ∈ str "a;;b", c = unit '.' ∨ c = lf) :=
  losslessSplit_iff (by decide) (by decide)

/-- A bar is accepted and matches the empty text everywhere, an asterisk
is refused, and a dot takes every letter. -/
theorem bar_asterisk_and_dot_lose :
    ¬LosslessSplit (unit '|') (str "a|b")
      ∧ ¬LosslessSplit (unit '*') (str "a*b")
      ∧ (∃ csvParserRegex,
        newRegex (csvPattern (unit '|')) = some (.ok csvParserRegex)
          ∧ csvParserRegex.split (str "a|b")
            = [[], str "a", str "|", str "b", []])
      ∧ newRegex (csvPattern (unit '*'))
        = some (.error .quantifierAfterNothing)
      ∧ ∃ csvParserRegex,
        newRegex (csvPattern (unit '.')) = some (.ok csvParserRegex)
          ∧ csvParserRegex.split (str "a.b") = [[], [], [], []] :=
  ⟨not_lossless_of_losing (by decide) (by decide),
    not_lossless_of_losing (by decide) (by decide),
    ⟨_, rfl, by decide⟩, rfl, _, rfl, by decide⟩

end SkillBuddy.Helper
