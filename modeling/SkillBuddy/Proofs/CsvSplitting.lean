/-
Cutting a line of a CSV file: `CsvParser` against its specification.

# The specification

It speaks of positions and not of a loop. A separator is open if the
number of qualifiers before it is even (`IsOpenSeparator`); the line is
cut at the open separators, and at nothing else. Of every piece the
qualifiers are taken out and the white space at its ends; an empty last
piece is none.

# The loop

The loop goes over the line once, with a toggle that every qualifier
turns over. The toggle says whether the number of qualifiers passed so far
is odd (`segments_eq_cutFrom`): this is its invariant, and the induction
is on what is left of the line. Read as a set of positions, the loop
therefore cuts at the separators with an even number of qualifiers before
them, and nowhere else. This needs the separator not to be the qualifier,
which the loop asks for first.

A qualifier that is never closed leaves the toggle up, and the separators
behind it are letters of the last piece; the specification says the same
(`csvParser_meets_specification_unbalanced`).
-/
import SkillBuddy.Core.Csv
import SkillBuddy.Lib.Cut
import Mathlib.Algebra.Group.Nat.Even

namespace SkillBuddy.Helper

open DotNet
open Lib.Cut (slices cutFrom slices_filter_range)

-- ============================================================= CsvParser

/-- A separator with an even number of qualifiers before it. -/
def IsOpenSeparator (csvText : Str) (separator qualifier : CodeUnit)
    (i : Nat) : Prop :=
  csvText[i]? = some separator ∧ Even ((csvText.take i).count qualifier)

instance (csvText : Str) (separator qualifier : CodeUnit) :
    DecidablePred (IsOpenSeparator csvText separator qualifier) :=
  fun _ => inferInstanceAs (Decidable (_ ∧ _))

/-- Their positions, in order. -/
def openSeparators (csvText : Str) (separator qualifier : CodeUnit) :
    List Nat :=
  (List.range csvText.length).filter
    (IsOpenSeparator csvText separator qualifier ·)

/-- The letter behind `before` is an open separator iff it is the
separator and the toggle is down. -/
theorem isOpenSeparator_length_iff {separator qualifier : CodeUnit}
    (before : Str) (c : CodeUnit) (cs : Str) :
    IsOpenSeparator (before ++ c :: cs) separator qualifier before.length
      ↔ c = separator ∧ Even (before.count qualifier) := by
  unfold IsOpenSeparator
  rw [List.getElem?_append_right (Nat.le_refl _), Nat.sub_self,
    List.take_left]
  exact and_congr_left fun _ => Option.some_inj

/-- The toggle is the parity of the qualifiers passed. -/
theorem segments_eq_cutFrom {separator qualifier : CodeUnit}
    (hne : separator ≠ qualifier) (before cs : Str) :
    segments separator qualifier (!decide (Even (before.count qualifier)))
        cs
      = cutFrom (IsOpenSeparator (before ++ cs) separator qualifier)
          before.length cs := by
  induction cs generalizing before with
  | nil => rfl
  | cons c cs ih =>
      have hnext := ih (before ++ [c])
      rw [List.append_assoc, List.length_append, List.count_append] at hnext
      rw [segments, cutFrom,
        if_congr (isOpenSeparator_length_iff before c cs) rfl rfl]
      by_cases hqualifier : c = qualifier
      · have hparity : (!decide (Even (before.count qualifier
            + [c].count qualifier)))
            = !(!decide (Even (before.count qualifier))) := by
          rw [hqualifier, List.count_singleton_self]
          simp only [Nat.even_add_one, decide_not]
        have hnot : ¬ (c = separator ∧ Even (before.count qualifier)) := by
          intro h
          exact hne (h.1.symm.trans hqualifier)
        rw [hparity] at hnext
        rw [if_pos hqualifier, if_neg hnot, hnext]
        rfl
      · have hparity : before.count qualifier + [c].count qualifier
            = before.count qualifier := by
          rw [List.count_singleton, if_neg (by simpa using hqualifier),
            Nat.add_zero]
        rw [hparity] at hnext
        rw [if_neg hqualifier, hnext]
        refine if_congr ?_ rfl rfl
        simp

/-- What `CsvParser` returns, by one pass over the positions. -/
theorem csvParser_eq_cutFrom {separator qualifier : CodeUnit}
    (hne : separator ≠ qualifier) (csvText : Str) :
    csvParser csvText separator qualifier
      = .ok ((dropLastEmpty (cutFrom
          (IsOpenSeparator csvText separator qualifier) 0 csvText)).map
            (token qualifier)) := by
  have hpieces := segments_eq_cutFrom hne [] csvText
  rw [List.nil_append] at hpieces
  rw [csvParser_eq, ← List.length_nil, ← hpieces]
  rfl

/-- `CsvParser` never takes a substring out of range: it returns the
slices between the separators with an even number of qualifiers before
them, without an empty last one, each without qualifiers and trimmed. -/
theorem csvParser_meets_specification (csvText : Str)
    {separator qualifier : CodeUnit} (hne : separator ≠ qualifier) :
    csvParser csvText separator qualifier
      = .ok ((dropLastEmpty (slices csvText 0
          (openSeparators csvText separator qualifier))).map
            fun raw => trim (raw.filter (· ≠ qualifier))) := by
  rw [csvParser_eq_cutFrom hne, openSeparators, slices_filter_range]
  rfl

/-- With an unbalanced quote and separators at both ends: the empty first
piece is kept, and the separators behind the quote cut nothing. -/
theorem csvParser_meets_specification_unbalanced :
    csvParser (str ",a\",b,") (unit ',') (unit '"')
      = .ok ((dropLastEmpty (slices (str ",a\",b,") 0
          (openSeparators (str ",a\",b,") (unit ',') (unit '"')))).map
            fun raw => trim (raw.filter (· ≠ unit '"'))) :=
  csvParser_meets_specification _ (by decide)

example : csvParser (str "a,\"b,c\" ,d,") (unit ',') (unit '"')
    = .ok [str "a", str "b,c", str "d"] := by
  decide

end SkillBuddy.Helper
