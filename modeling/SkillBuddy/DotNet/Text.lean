/-
.NET strings, and the texts the framework gives to numbers.

A string is its sequence of UTF-16 code units, so that a `char` may be
any unit, surrogate halves included. `str` spells a literal of the
source. Numbers are written as the invariant culture writes them.

Whether a letter is white space is decided by its number
(`isWhiteSpaceNumber`): the texts of files and of messages, whose letters
are code units, and those of the templates, whose letters are code
points, are trimmed and tested alike.

The facts below are the ones a reader of rendered text needs: a decimal
text determines its number (`natText_inj`, `intText_inj`), is not empty,
and has a sign and digits only (`mem_intText`), so it contains no comma
and no quote.
-/
import Mathlib.Data.List.Basic

namespace SkillBuddy.DotNet

-- ============================================================== strings

/-- A `char`: one UTF-16 code unit. -/
abbrev CodeUnit := UInt16

/-- A `string`: its code units. -/
abbrev Str := List CodeUnit

/-- The code unit of an ASCII character. -/
def unit (c : Char) : CodeUnit := UInt16.ofNat c.toNat

/-- A string literal (every literal of the source is ASCII). -/
def str (s : String) : Str := s.toList.map unit

/-- `Char.IsWhiteSpace`, of a character's number. All of them are in the
basic plane, so a code unit and a code point are judged alike. -/
def isWhiteSpaceNumber (n : Nat) : Bool :=
  (9 ≤ n && n ≤ 13) || n == 0x20 || n == 0x85 || n == 0xA0 || n == 0x1680
    || (0x2000 ≤ n && n ≤ 0x200A) || n == 0x2028 || n == 0x2029
    || n == 0x202F || n == 0x205F || n == 0x3000

/-- `Char.IsWhiteSpace(c)`. -/
def isWhiteSpace (c : CodeUnit) : Bool := isWhiteSpaceNumber c.toNat

/-- `String.Join(",", items)`. -/
def joinComma (items : List Str) : Str :=
  List.intercalate [unit ','] items

-- ======================================================= decimal numbers

/-- A natural number in decimal. -/
def natText (n : Nat) : Str := (Nat.toDigits 10 n).map unit

/-- An integer in decimal. -/
def intText : Int → Str
  | .ofNat n => natText n
  | .negSucc n => unit '-' :: natText (n + 1)

/-- `text.PadLeft(width, '0')`. -/
def padZero (width : Nat) (text : Str) : Str :=
  List.replicate (width - text.length) (unit '0') ++ text

/-- `unit` loses nothing on code points of 16 bits. -/
theorem ofNat_unit {c : Char} (hc : c.toNat < 65536) :
    Char.ofNat (unit c).toNat = c := by
  rw [unit, UInt16.toNat_ofNat', Nat.mod_eq_of_lt hc]
  exact Char.ofNat_toNat c

/-- A decimal digit is an ASCII digit. -/
private theorem digit_bounds {n : Nat} {c : Char}
    (h : c ∈ Nat.toDigits 10 n) : 48 ≤ c.toNat ∧ c.toNat ≤ 57 := by
  have hd := Nat.isDigit_of_mem_toDigits (by decide) (by decide) h
  simp only [Char.isDigit, Bool.and_eq_true, decide_eq_true_eq] at hd
  exact ⟨hd.1, hd.2⟩

/-- The code units of a decimal text are ASCII digits. -/
theorem mem_natText {n : Nat} {u : CodeUnit} (h : u ∈ natText n) :
    48 ≤ u.toNat ∧ u.toNat ≤ 57 := by
  obtain ⟨c, hc, rfl⟩ := List.mem_map.mp h
  have hb := digit_bounds hc
  rw [unit, UInt16.toNat_ofNat', Nat.mod_eq_of_lt (by omega)]
  exact hb

/-- A decimal text is not empty. -/
theorem natText_ne_nil (n : Nat) : natText n ≠ [] :=
  fun h => Nat.toDigits_ne_nil (List.map_eq_nil_iff.mp h)

/-- A decimal text determines its number. -/
theorem natText_inj {m n : Nat} (h : natText m = natText n) : m = n := by
  have hread : ∀ k, (natText k).map (fun u => Char.ofNat u.toNat)
      = Nat.toDigits 10 k := by
    intro k
    rw [natText, List.map_map]
    refine (List.map_congr_left fun c hc => ?_).trans (List.map_id _)
    have hb := digit_bounds hc
    exact ofNat_unit (by omega)
  have hdigits : Nat.toDigits 10 m = Nat.toDigits 10 n := by
    rw [← hread, h, hread]
  rw [← Nat.ofDigitChars_ten_toDigits (n := m), hdigits,
    Nat.ofDigitChars_ten_toDigits]

/-- Nor is an integer's. -/
theorem intText_ne_nil (i : Int) : intText i ≠ [] := by
  cases i with
  | ofNat n => exact natText_ne_nil n
  | negSucc n => exact List.cons_ne_nil _ _

/-- The code units of an integer's text are a sign and ASCII digits. -/
theorem mem_intText {i : Int} {u : CodeUnit} (h : u ∈ intText i) :
    u = unit '-' ∨ 48 ≤ u.toNat ∧ u.toNat ≤ 57 := by
  cases i with
  | ofNat n => exact Or.inr (mem_natText h)
  | negSucc n =>
      rcases List.mem_cons.mp h with h | h
      · exact Or.inl h
      · exact Or.inr (mem_natText h)

/-- No sign, digit or their texts is a comma. -/
theorem comma_notMem_intText (i : Int) : unit ',' ∉ intText i := by
  intro h
  rcases mem_intText h with h | ⟨hlow, -⟩
  · exact absurd h (by decide)
  · exact absurd hlow (by decide)

/-- A natural number's text carries no sign. -/
private theorem natText_ne_minus (m n : Nat) :
    natText m ≠ unit '-' :: natText n := by
  intro h
  have hb := mem_natText (n := m) (u := unit '-') (by rw [h]; simp)
  have : (unit '-').toNat = 45 := by decide
  omega

/-- An integer's text determines it. -/
theorem intText_inj {i j : Int} (h : intText i = intText j) : i = j := by
  cases i with
  | ofNat m =>
      cases j with
      | ofNat n => rw [natText_inj h]
      | negSucc n => exact absurd h (natText_ne_minus m (n + 1))
  | negSucc m =>
      cases j with
      | ofNat n => exact absurd h.symm (natText_ne_minus n (m + 1))
      | negSucc n =>
          have hnat := natText_inj (List.cons.inj h).2
          rw [Nat.add_right_cancel hnat]

end SkillBuddy.DotNet
