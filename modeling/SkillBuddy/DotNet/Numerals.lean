/-
`long.TryParse`, in the invariant culture: white space, a sign, digits,
white space again, then nothing but null characters.

`longTryParse` is the parser, step by step as it takes the parts off the
text; a number that does not fit into 64 bits is refused. `Numeral` is the
format with its value, each part carrying what it may hold: the white
space is white space, the digits are digits, and there is at least one.

The parser reads exactly the numerals of 64 bits
(`longTryParse_eq_some_iff`). One direction takes a numeral's text apart
as the parser does, each part ending where the next one begins
(`dropWhile_white`, `digits_end`, `trailing_end`); the other makes a
numeral of the parts that the parser has taken off. So a text is the
numeral of one number at most, and the parser reads what `ToString` writes
(`longTryParse_intText`).
-/
import Mathlib.Algebra.Order.Ring.Int
import Mathlib.Data.List.TakeWhile
import SkillBuddy.DotNet.Text

namespace SkillBuddy.DotNet

-- ============================================================ the parser

/-- White space to the parsers of numbers. -/
def isNumberWhite (u : CodeUnit) : Bool :=
  u.toNat == 32 || (9 ≤ u.toNat && u.toNat ≤ 13)

/-- A decimal digit. -/
def isNumberDigit (u : CodeUnit) : Bool :=
  48 ≤ u.toNat && u.toNat ≤ 57

/-- The number that digits stand for. -/
def digitsValue (digits : Str) : Nat :=
  digits.foldl (fun n u => 10 * n + (u.toNat - 48)) 0

/-- Whether a minus comes first, and what comes after the sign. -/
def readSign : Str → Bool × Str
  | [] => (false, [])
  | u :: s =>
      if u = unit '-' then (true, s)
      else if u = unit '+' then (false, s)
      else (false, u :: s)

/-- A number with its sign. -/
def signed (isNegative : Bool) (answer : Nat) : Int :=
  if isNegative then -answer else answer

/-- `long.TryParse(s, out result)`. -/
def longTryParse (s : Str) : Option Int64 :=
  let (isNegative, s) := readSign (s.dropWhile isNumberWhite)
  let digits := s.takeWhile isNumberDigit
  let rest := (s.dropWhile isNumberDigit).dropWhile isNumberWhite
  let result := signed isNegative (digitsValue digits)
  if digits = [] ∨ ¬rest.all (· == 0) then none
  else if -2 ^ 63 ≤ result ∧ result < 2 ^ 63 then
    some (Int64.ofInt result)
  else none

-- ============================================================ the format

/-- A sign: plus or minus. -/
def signText (isNegative : Bool) : Str :=
  [if isNegative then unit '-' else unit '+']

/-- A numeral. -/
structure Numeral where
  leading : Str
  leading_white : ∀ u ∈ leading, isNumberWhite u
  sign : Option Bool
  digits : Str
  digits_ne_nil : digits ≠ []
  digits_digit : ∀ u ∈ digits, isNumberDigit u
  trailing : Str
  trailing_white : ∀ u ∈ trailing, isNumberWhite u
  nulls : Nat

namespace Numeral

/-- What follows the white space in front. -/
def body (numeral : Numeral) : Str :=
  numeral.digits
    ++ (numeral.trailing ++ List.replicate numeral.nulls 0)

/-- Its text. -/
def text (numeral : Numeral) : Str :=
  numeral.leading ++ ((numeral.sign.map signText).getD [] ++ numeral.body)

/-- The number it stands for. -/
def value (numeral : Numeral) : Int :=
  signed (numeral.sign == some true) (digitsValue numeral.digits)

end Numeral

-- ============================================================= the parts

/-- No digit is white space. -/
theorem not_white_of_digit {u : CodeUnit} (h : isNumberDigit u = true) :
    isNumberWhite u = false := by
  unfold isNumberDigit at h
  unfold isNumberWhite
  rw [Bool.and_eq_true, decide_eq_true_eq, decide_eq_true_eq] at h
  rw [Bool.or_eq_false_iff, beq_eq_false_iff_ne, Bool.and_eq_false_iff,
    decide_eq_false_iff_not, decide_eq_false_iff_not]
  omega

/-- No digit is a sign. -/
theorem readSign_digit {u : CodeUnit} {s : Str}
    (h : isNumberDigit u = true) : readSign (u :: s) = (false, u :: s) := by
  have hminus : u ≠ unit '-' := by
    intro hu
    subst hu
    cases h
  have hplus : u ≠ unit '+' := by
    intro hu
    subst hu
    cases h
  rw [readSign, if_neg hminus, if_neg hplus]

/-- A sign is taken off and nothing else is. -/
theorem readSign_spec (s : Str) :
    ∃ sign : Option Bool, s = (sign.map signText).getD [] ++ (readSign s).2
      ∧ (readSign s).1 = (sign == some true) := by
  cases s with
  | nil => exact ⟨none, rfl, rfl⟩
  | cons u s =>
      rw [readSign]
      by_cases hminus : u = unit '-'
      · rw [if_pos hminus, hminus]
        exact ⟨some true, rfl, rfl⟩
      · rw [if_neg hminus]
        by_cases hplus : u = unit '+'
        · rw [if_pos hplus, hplus]
          exact ⟨some false, rfl, rfl⟩
        · rw [if_neg hplus]
          exact ⟨none, rfl, rfl⟩

/-- Whatever is behind the sign, if it begins with a digit. -/
theorem readSign_sign (sign : Option Bool) {u : CodeUnit} {s : Str}
    (h : isNumberDigit u = true) :
    readSign ((sign.map signText).getD [] ++ u :: s)
      = (sign == some true, u :: s) := by
  cases sign with
  | none => exact readSign_digit h
  | some isNegative =>
      cases isNegative with
      | false => rfl
      | true => rfl

/-- White space ends at a sign or a digit. -/
theorem dropWhile_white {leading : Str}
    (hleading : ∀ u ∈ leading, isNumberWhite u) (sign : Option Bool)
    {u : CodeUnit} (h : isNumberDigit u = true) (s : Str) :
    (leading ++ ((sign.map signText).getD [] ++ u :: s)).dropWhile
        isNumberWhite
      = (sign.map signText).getD [] ++ u :: s := by
  rw [List.dropWhile_append_of_pos hleading]
  cases sign with
  | none =>
      exact List.dropWhile_cons_of_neg
        (Bool.eq_false_iff.mp (not_white_of_digit h))
  | some isNegative =>
      cases isNegative with
      | false => exact List.dropWhile_cons_of_neg (by decide)
      | true => exact List.dropWhile_cons_of_neg (by decide)

/-- Digits end where white space or nulls begin. -/
theorem digits_end {digits trailing : Str} {nulls : Nat}
    (hdigits : ∀ u ∈ digits, isNumberDigit u)
    (htrailing : ∀ u ∈ trailing, isNumberWhite u) :
    (digits ++ (trailing ++ List.replicate nulls 0)).takeWhile isNumberDigit
        = digits
    ∧ (digits ++ (trailing ++ List.replicate nulls 0)).dropWhile
        isNumberDigit = trailing ++ List.replicate nulls 0 := by
  have hend : ∀ u s, trailing ++ List.replicate nulls 0 = u :: s →
      ¬isNumberDigit u = true := by
    intro u s hus hu
    cases trailing with
    | nil =>
        cases nulls with
        | zero => cases hus
        | succ nulls =>
            rw [List.nil_append, List.replicate_succ] at hus
            injection hus with h0
            rw [← h0] at hu
            cases hu
    | cons v trailing =>
        injection hus with hv
        have hwhite := htrailing v List.mem_cons_self
        rw [hv, not_white_of_digit hu] at hwhite
        cases hwhite
  rw [List.takeWhile_append_of_pos hdigits,
    List.dropWhile_append_of_pos hdigits]
  cases hs : trailing ++ List.replicate nulls 0 with
  | nil => exact ⟨List.append_nil _, rfl⟩
  | cons u s =>
      rw [List.takeWhile_cons_of_neg (hend u s hs),
        List.dropWhile_cons_of_neg (hend u s hs)]
      exact ⟨List.append_nil _, rfl⟩

/-- White space ends where nulls begin. -/
theorem trailing_end {trailing : Str} (nulls : Nat)
    (htrailing : ∀ u ∈ trailing, isNumberWhite u) :
    (trailing ++ List.replicate nulls 0).dropWhile isNumberWhite
      = List.replicate nulls 0 := by
  rw [List.dropWhile_append_of_pos htrailing]
  cases nulls with
  | zero => rfl
  | succ nulls => exact List.dropWhile_cons_of_neg (by decide)

-- ===================================================== parser and format

/-- A numeral is parsed to its number, if that has 64 bits. -/
theorem longTryParse_text (numeral : Numeral) :
    longTryParse numeral.text
      = if -2 ^ 63 ≤ numeral.value ∧ numeral.value < 2 ^ 63 then
          some (Int64.ofInt numeral.value)
        else none := by
  obtain ⟨leading, hleading, sign, digits, hne, hdigits, trailing,
    htrailing, nulls⟩ := numeral
  obtain ⟨htake, hdrop⟩ :=
    @digits_end digits trailing nulls hdigits htrailing
  have hnulls : (List.replicate nulls (0 : CodeUnit)).all (· == 0) = true :=
    List.all_replicate.trans (by cases nulls <;> rfl)
  cases digits with
  | nil => exact absurd rfl hne
  | cons u digits =>
      have hu := hdigits u List.mem_cons_self
      unfold longTryParse Numeral.text Numeral.value Numeral.body
      dsimp only
      rw [List.cons_append, dropWhile_white hleading sign hu,
        readSign_sign sign hu]
      dsimp only
      rw [← List.cons_append, htake, hdrop, trailing_end nulls htrailing,
        hnulls, if_neg (not_or.mpr ⟨hne, not_not.mpr rfl⟩)]

/-- What is parsed is the numeral of what comes out. -/
theorem numeral_of_longTryParse {s : Str} {result : Int64}
    (h : longTryParse s = some result) :
    ∃ numeral : Numeral,
      numeral.text = s ∧ numeral.value = result.toInt := by
  obtain ⟨sign, hsign, hnegative⟩ :=
    readSign_spec (s.dropWhile isNumberWhite)
  unfold longTryParse at h
  dsimp only at h
  generalize hrest : (readSign (s.dropWhile isNumberWhite)).2 = rest
    at h hsign
  rw [hnegative] at h
  split at h
  · cases h
  · next hform =>
    rw [not_or, not_not] at hform
    split at h
    · next hrange =>
      have hnulls := List.eq_replicate_iff.mpr ⟨rfl, fun u hu =>
        eq_of_beq (List.all_eq_true.mp hform.2 u hu)⟩
      refine ⟨{
        leading := s.takeWhile isNumberWhite
        leading_white := fun u hu => List.mem_takeWhile_imp hu
        sign := sign
        digits := rest.takeWhile isNumberDigit
        digits_ne_nil := hform.1
        digits_digit := fun u hu => List.mem_takeWhile_imp hu
        trailing := (rest.dropWhile isNumberDigit).takeWhile isNumberWhite
        trailing_white := fun u hu => List.mem_takeWhile_imp hu
        nulls := ((rest.dropWhile isNumberDigit).dropWhile
          isNumberWhite).length }, ?_, ?_⟩
      · unfold Numeral.text Numeral.body
        dsimp only
        rw [← hnulls, List.takeWhile_append_dropWhile,
          List.takeWhile_append_dropWhile, ← hsign,
          List.takeWhile_append_dropWhile]
      · rw [← Option.some.inj h, Int64.toInt_ofInt_of_le hrange.1 hrange.2]
        rfl
    · cases h

/-- The parser reads exactly the numerals of 64 bits: a result is the value
of every numeral with the text, and there is one. -/
theorem longTryParse_eq_some_iff {s : Str} {result : Int64} :
    longTryParse s = some result
      ↔ ∃ numeral : Numeral,
          numeral.text = s ∧ numeral.value = result.toInt := by
  refine ⟨numeral_of_longTryParse, ?_⟩
  rintro ⟨numeral, rfl, hvalue⟩
  rw [longTryParse_text, hvalue, if_pos ⟨result.le_toInt, result.toInt_lt⟩,
    Int64.ofInt_toInt]

-- ======================================================= written numbers

/-- Decimal text stands for its number. -/
theorem digitsValue_natText (n : Nat) : digitsValue (natText n) = n := by
  have hfold : ∀ (cs : List Char) (init : Nat),
      (∀ c ∈ cs, c ∈ Nat.toDigits 10 n) →
      (cs.map unit).foldl (fun n u => 10 * n + (u.toNat - 48)) init
        = Nat.ofDigitChars 10 cs init := by
    intro cs
    induction cs with
    | nil => exact fun init _ => Nat.ofDigitChars_nil.symm
    | cons c cs ih =>
        intro init hcs
        have hc := Nat.isDigit_of_mem_toDigits (by decide) (by decide)
          (hcs c List.mem_cons_self)
        simp only [Char.isDigit, Bool.and_eq_true, decide_eq_true_eq] at hc
        have hunit : (unit c).toNat = c.toNat := by
          rw [unit, UInt16.toNat_ofNat']
          exact Nat.mod_eq_of_lt
            (Nat.lt_of_le_of_lt (show c.toNat ≤ 57 from hc.2) (by decide))
        rw [List.map_cons, List.foldl_cons, hunit, Nat.ofDigitChars_cons]
        exact ih _ fun c hc => hcs c (List.mem_cons_of_mem _ hc)
  rw [digitsValue, natText, hfold _ _ fun c hc => hc,
    Nat.ofDigitChars_ten_toDigits]

/-- A number's own text is a numeral of it. -/
theorem exists_numeral_intText (n : Int) :
    ∃ numeral : Numeral, numeral.text = intText n ∧ numeral.value = n := by
  have hdigit : ∀ m, ∀ u ∈ natText m, isNumberDigit u = true := by
    intro m u hu
    unfold isNumberDigit
    rw [Bool.and_eq_true, decide_eq_true_eq, decide_eq_true_eq]
    exact mem_natText hu
  cases n with
  | ofNat n =>
      refine ⟨⟨[], List.forall_mem_nil _, none, natText n, natText_ne_nil n,
        hdigit n, [], List.forall_mem_nil _, 0⟩, ?_, ?_⟩
      · exact List.append_nil _
      · exact congrArg Int.ofNat (digitsValue_natText n)
  | negSucc n =>
      refine ⟨⟨[], List.forall_mem_nil _, some true, natText (n + 1),
        natText_ne_nil _, hdigit _, [], List.forall_mem_nil _, 0⟩, ?_, ?_⟩
      · exact congrArg (List.cons (unit '-')) (List.append_nil _)
      · exact congrArg (fun m : Nat => -(m : Int)) (digitsValue_natText _)

/-- `long.TryParse` reads what `ToString` writes. -/
theorem longTryParse_intText (n : Int64) :
    longTryParse (intText n.toInt) = some n :=
  longTryParse_eq_some_iff.mpr (exists_numeral_intText n.toInt)

end SkillBuddy.DotNet
