/-
Rounding to a binary floating-point format: to the nearest number, of two
the one with the even significand.

# The format

It has `p` digits behind the leading one and exponents without bounds.
Where a number lies, between two powers of two, the numbers of the format
are `spacing` apart; `round` goes to the nearest multiple of it. The
nearest integer is the floor or the number behind it, and of two that are
as near the even one (`nearest`).

# What rounding does

It keeps the order. Within a power of two that is so because `nearest`
keeps it (`nearest_mono`), and where the spacing changes because a number
does not leave the powers of two around it (`round_bounds`, `round_mono`).
It changes nothing about a number of the format (`round_eq_self`), and it
moves a number by half the spacing at most (`abs_round_sub_le`). So a
value is what a number is rounded to if it is near (`round_eq_of_near`),
and not if it is far. A whole number with some digits too many loses them,
and `nearest` says which way (`round_scaled`).
-/
import Mathlib.Algebra.Order.Field.Power
import Mathlib.Data.Int.Log
import Mathlib.Data.Rat.Floor
import Mathlib.Tactic.FieldSimp
import Mathlib.Tactic.Linarith
import Mathlib.Tactic.NormNum
import Mathlib.Tactic.Positivity
import Mathlib.Tactic.Ring

namespace SkillBuddy.Lib.Rounding

-- ==================================================== the nearest integer

/-- The nearest integer, of two the even one. -/
def nearest (x : ℚ) : ℤ :=
  if Int.fract x < 1 / 2 then ⌊x⌋
  else if 1 / 2 < Int.fract x then ⌊x⌋ + 1
  else if Even ⌊x⌋ then ⌊x⌋
  else ⌊x⌋ + 1

/-- It is the floor or the number behind it. -/
theorem floor_le_nearest (x : ℚ) :
    ⌊x⌋ ≤ nearest x ∧ nearest x ≤ ⌊x⌋ + 1 := by
  unfold nearest
  split_ifs <;> omega

/-- It is off by a half at most. -/
theorem abs_nearest_sub_le (x : ℚ) : |(nearest x : ℚ) - x| ≤ 1 / 2 := by
  have hfract := Int.self_sub_floor x
  have hnonneg := Int.fract_nonneg x
  have hlt := Int.fract_lt_one x
  unfold nearest
  rw [abs_le]
  split_ifs <;> push_cast <;> constructor <;> linarith

/-- It keeps the order. -/
theorem nearest_mono {x y : ℚ} (h : x ≤ y) : nearest x ≤ nearest y := by
  have hfloor := Int.floor_le_floor h
  rcases hfloor.lt_or_eq with hlt | heq
  · have hx := (floor_le_nearest x).2
    have hy := (floor_le_nearest y).1
    omega
  · -- between the same integers the larger fraction is not rounded down
    have hx := Int.self_sub_floor x
    have hy := Int.self_sub_floor y
    have hfract : Int.fract x ≤ Int.fract y := by
      rw [← hx, ← hy, heq]
      linarith
    unfold nearest
    rw [heq]
    split_ifs <;> first | omega | (exfalso; linarith)

/-- A number is rounded to the integer it is near to. -/
theorem nearest_eq {x : ℚ} {n : ℤ} (h : |x - n| < 1 / 2) :
    nearest x = n := by
  have hle := abs_nearest_sub_le x
  rw [abs_lt] at h
  rw [abs_le] at hle
  have hlow : ((n - 1 : ℤ) : ℚ) < nearest x := by
    push_cast
    linarith [h.1, h.2, hle.1]
  have hhigh : (nearest x : ℚ) < ((n + 1 : ℤ) : ℚ) := by
    push_cast
    linarith [h.1, h.2, hle.2]
  have hlow' := Int.cast_lt.mp hlow
  have hhigh' := Int.cast_lt.mp hhigh
  omega

/-- An integer is its own nearest one. -/
theorem nearest_intCast (n : ℤ) : nearest n = n :=
  nearest_eq (by simp)

/-- Between two integers the even one is taken. -/
theorem nearest_half (n : ℤ) :
    nearest (n + 1 / 2) = if Even n then n else n + 1 := by
  have hfloor : ⌊(n : ℚ) + 1 / 2⌋ = n := by
    rw [Int.floor_eq_iff]
    constructor <;> linarith
  have hfract : Int.fract ((n : ℚ) + 1 / 2) = 1 / 2 := by
    rw [← Int.self_sub_floor, hfloor]
    ring
  unfold nearest
  rw [hfract, hfloor, if_neg (lt_irrefl _), if_neg (lt_irrefl _)]

theorem nearest_neg (x : ℚ) : nearest (-x) = -nearest x := by
  obtain ⟨n, hn⟩ : ∃ n : ℤ, n = ⌊x⌋ := ⟨_, rfl⟩
  have hx := Int.self_sub_floor x
  have hlt := Int.fract_lt_one x
  have hnonneg := Int.fract_nonneg x
  rw [← hn] at hx
  rcases lt_trichotomy (Int.fract x) (1 / 2) with h | h | h
  · have hnear : nearest x = n := by
      apply nearest_eq
      rw [abs_lt]
      constructor <;> linarith
    rw [hnear]
    apply nearest_eq
    rw [abs_lt]
    push_cast
    constructor <;> linarith
  · have hval : x = n + 1 / 2 := by linarith
    have hneg : -x = ((-n - 1 : ℤ) : ℚ) + 1 / 2 := by
      rw [hval]
      push_cast
      ring
    rw [hneg, nearest_half, hval, nearest_half]
    have hparity : Even (-n - 1) ↔ ¬Even n := by
      rw [Int.even_sub, even_neg]
      simp
    by_cases heven : Even n
    · rw [if_neg (fun h => hparity.mp h heven), if_pos heven]
      omega
    · rw [if_pos (hparity.mpr heven), if_neg heven]
      omega
  · have hnear : nearest x = n + 1 := by
      apply nearest_eq
      rw [abs_lt]
      push_cast
      constructor <;> linarith
    rw [hnear]
    apply nearest_eq
    rw [abs_lt]
    push_cast
    constructor <;> linarith

-- ============================================================= the format

/-- The distance of the numbers of the format where `x` lies. -/
def spacing (p : ℕ) (x : ℚ) : ℚ := 2 ^ (Int.log 2 |x| - p)

/-- The nearest number of the format. -/
def round (p : ℕ) (x : ℚ) : ℚ := nearest (x / spacing p x) * spacing p x

variable {p : ℕ} {x y : ℚ}

/-- There is always a next number. -/
theorem spacing_pos (p : ℕ) (x : ℚ) : 0 < spacing p x := by
  unfold spacing
  positivity

/-- The spacing between two powers of two. -/
theorem spacing_eq {k : ℤ} (hlow : (2 : ℚ) ^ k ≤ |x|)
    (hhigh : |x| < (2 : ℚ) ^ (k + 1)) : spacing p x = 2 ^ (k - p) := by
  have hx : 0 < |x| := lt_of_lt_of_le (by positivity) hlow
  have hle : k ≤ Int.log 2 |x| :=
    (Int.zpow_le_iff_le_log Nat.one_lt_two hx).mp (by simpa using hlow)
  have hlt : Int.log 2 |x| < k + 1 :=
    (Int.lt_zpow_iff_log_lt Nat.one_lt_two hx).mp (by simpa using hhigh)
  unfold spacing
  rw [show Int.log 2 |x| = k by omega]

/-- Below a power of two the spacing is no larger than before it. -/
theorem spacing_le {k : ℤ} (hk : 0 ≤ k) (h : |x| < (2 : ℚ) ^ (k + 1)) :
    spacing p x ≤ 2 ^ (k - p) := by
  have hlog : Int.log 2 |x| ≤ k := by
    rcases (abs_nonneg x).lt_or_eq with hx | hx
    · have hlt : Int.log 2 |x| < k + 1 :=
        (Int.lt_zpow_iff_log_lt Nat.one_lt_two hx).mp (by simpa using h)
      omega
    · rw [← hx, Int.log_zero_right]
      exact hk
  unfold spacing
  apply zpow_le_zpow_right₀ one_le_two
  omega

/-- Rounding moves a number by half the spacing at most. -/
theorem abs_round_sub_le (p : ℕ) (x : ℚ) :
    |round p x - x| ≤ spacing p x / 2 := by
  have hs := spacing_pos p x
  have hnear := abs_nearest_sub_le (x / spacing p x)
  have hx : round p x - x
      = ((nearest (x / spacing p x) : ℚ) - x / spacing p x)
        * spacing p x := by
    unfold round
    field_simp
  rw [hx, abs_mul, abs_of_pos hs]
  calc |(nearest (x / spacing p x) : ℚ) - x / spacing p x| * spacing p x
      ≤ 1 / 2 * spacing p x := by gcongr
    _ = spacing p x / 2 := by ring

/-- A multiple of the spacing that is nearer than half of it is what the
number is rounded to. -/
theorem round_eq_of_near {m : ℤ}
    (h : |x - m * spacing p x| < spacing p x / 2) :
    round p x = m * spacing p x := by
  have hs := spacing_pos p x
  unfold round
  congr 2
  apply nearest_eq
  have hx : x / spacing p x - m = (x - m * spacing p x) / spacing p x := by
    field_simp
  rw [hx, abs_div, abs_of_pos hs, div_lt_iff₀ hs]
  linarith

theorem round_neg (p : ℕ) (x : ℚ) : round p (-x) = -round p x := by
  have hs : spacing p (-x) = spacing p x := by
    unfold spacing
    rw [abs_neg]
  unfold round
  rw [hs, neg_div, nearest_neg]
  push_cast
  ring

theorem round_zero (p : ℕ) : round p 0 = 0 := by
  have hnearest : nearest 0 = 0 := nearest_intCast 0
  unfold round
  rw [zero_div, hnearest, Int.cast_zero, zero_mul]

/-- A number of the format is not changed. -/
theorem round_eq_self {m : ℤ} (j : ℤ) (hm : |m| < 2 ^ (p + 1)) :
    round p (m * 2 ^ j) = m * 2 ^ j := by
  by_cases hzero : m = 0
  · rw [hzero, Int.cast_zero, zero_mul, round_zero]
  have hpos : 0 < |(m : ℚ) * 2 ^ j| := by positivity
  have hlog : Int.log 2 |(m : ℚ) * 2 ^ j| < p + 1 + j := by
    rw [← Int.lt_zpow_iff_log_lt Nat.one_lt_two hpos]
    have hm' : |(m : ℚ)| < 2 ^ (p + 1) := by exact_mod_cast hm
    rw [abs_mul, abs_of_pos (by positivity : (0 : ℚ) < 2 ^ j),
      Nat.cast_ofNat,
      zpow_add₀ two_ne_zero]
    have hcast : (2 : ℚ) ^ ((p : ℤ) + 1) = 2 ^ (p + 1) := by
      exact_mod_cast rfl
    rw [hcast]
    gcongr
  -- the significand is a whole multiple of the spacing
  obtain ⟨n, hn⟩ := Int.eq_ofNat_of_zero_le
    (show 0 ≤ j - (Int.log 2 |(m : ℚ) * 2 ^ j| - p) by omega)
  have hmultiple : (m : ℚ) * 2 ^ j
      = ((m * 2 ^ n : ℤ) : ℚ) * spacing p (m * 2 ^ j) := by
    unfold spacing
    push_cast
    rw [mul_assoc, ← zpow_natCast, ← zpow_add₀ two_ne_zero]
    congr 2
    rw [← hn]
    ring
  have hs := spacing_pos p ((m : ℚ) * 2 ^ j)
  rw [round_eq_of_near (m := m * 2 ^ n), ← hmultiple]
  rw [← hmultiple, sub_self, abs_zero]
  linarith

/-- A whole number with `j` digits too many, scaled by a power of two,
loses them. -/
theorem round_scaled {n : ℤ} (j : ℕ) (i : ℤ) (hlow : 2 ^ (p + j) ≤ n)
    (hhigh : n < 2 ^ (p + j + 1)) :
    round p (n * 2 ^ i) = nearest ((n : ℚ) / 2 ^ j) * 2 ^ j * 2 ^ i := by
  have hpower : ∀ k : ℕ, (2 : ℚ) ^ ((k : ℤ) + i) = 2 ^ k * 2 ^ i := by
    intro k
    rw [zpow_add₀ two_ne_zero, zpow_natCast]
  have hn : (0 : ℚ) < n := by
    have hpos : (0 : ℤ) < n := lt_of_lt_of_le (by positivity) hlow
    exact_mod_cast hpos
  have habs : |(n : ℚ) * 2 ^ i| = n * 2 ^ i := abs_of_pos (by positivity)
  have hs : spacing p (n * 2 ^ i) = 2 ^ j * 2 ^ i := by
    rw [@spacing_eq p _ ((p + j : ℕ) + i), ← hpower]
    · congr 1
      push_cast
      ring
    · rw [habs, hpower]
      have hcast : (2 : ℚ) ^ (p + j) ≤ n := by exact_mod_cast hlow
      gcongr
    · have hsucc :
          ((p + j : ℕ) : ℤ) + i + 1 = ((p + j + 1 : ℕ) : ℤ) + i := by
        push_cast
        ring
      rw [habs, hsucc, hpower]
      have hcast : (n : ℚ) < 2 ^ (p + j + 1) := by exact_mod_cast hhigh
      gcongr
  have hquotient : (n : ℚ) * 2 ^ i / (2 ^ j * 2 ^ i) = n / 2 ^ j := by
    field_simp
  unfold round
  rw [hs, hquotient, mul_assoc]

-- ================================================================== order

/-- A positive number stays between the powers of two around it. -/
theorem round_bounds (hx : 0 < x) :
    (2 : ℚ) ^ Int.log 2 x ≤ round p x
      ∧ round p x ≤ 2 ^ (Int.log 2 x + 1) := by
  have habs := abs_of_pos hx
  have hlow := Int.zpow_log_le_self Nat.one_lt_two hx
  have hhigh := Int.lt_zpow_succ_log_self Nat.one_lt_two x
  rw [Nat.cast_ofNat] at hlow hhigh
  have hs := spacing_pos p x
  have hunit : (2 : ℚ) ^ Int.log 2 x = 2 ^ p * spacing p x := by
    unfold spacing
    rw [habs, ← zpow_natCast, ← zpow_add₀ two_ne_zero]
    congr 1
    ring
  have hpower : (2 : ℚ) ^ (Int.log 2 x + 1) = 2 ^ (p + 1) * spacing p x := by
    rw [zpow_add₀ two_ne_zero, hunit, zpow_one]
    ring
  rw [hunit] at hlow ⊢
  rw [hpower] at hhigh ⊢
  unfold round
  constructor
  · have hle : ((2 ^ p : ℤ) : ℚ) ≤ x / spacing p x := by
      rw [le_div_iff₀ hs]
      exact_mod_cast hlow
    have hnear := nearest_mono hle
    rw [nearest_intCast] at hnear
    have hcast : (2 : ℚ) ^ p ≤ nearest (x / spacing p x) := by
      exact_mod_cast hnear
    gcongr
  · have hle : x / spacing p x ≤ ((2 ^ (p + 1) : ℤ) : ℚ) := by
      rw [div_le_iff₀ hs]
      exact_mod_cast hhigh.le
    have hnear := nearest_mono hle
    rw [nearest_intCast] at hnear
    have hcast : (nearest (x / spacing p x) : ℚ) ≤ 2 ^ (p + 1) := by
      exact_mod_cast hnear
    gcongr

/-- So it stays positive. -/
theorem round_pos (hx : 0 < x) : 0 < round p x :=
  lt_of_lt_of_le (by positivity) (round_bounds hx).1

/-- Rounding keeps the order of positive numbers: between the same powers of
two by `nearest`, and otherwise there is a power between them. -/
theorem round_mono_of_pos (hx : 0 < x) (h : x ≤ y) :
    round p x ≤ round p y := by
  have hy := lt_of_lt_of_le hx h
  rcases (Int.log_mono_right (b := 2) hx h).lt_or_eq with hlt | heq
  · -- a power of two lies between
    calc round p x ≤ 2 ^ (Int.log 2 x + 1) := (round_bounds hx).2
      _ ≤ 2 ^ Int.log 2 y := by
          apply zpow_le_zpow_right₀ one_le_two
          omega
      _ ≤ round p y := (round_bounds hy).1
  · have hs : spacing p x = spacing p y := by
      unfold spacing
      rw [abs_of_pos hx, abs_of_pos hy, heq]
    have hpos := spacing_pos p y
    unfold round
    rw [hs]
    have hnear : nearest (x / spacing p y) ≤ nearest (y / spacing p y) := by
      apply nearest_mono
      gcongr
    have hcast : (nearest (x / spacing p y) : ℚ)
        ≤ nearest (y / spacing p y) := by exact_mod_cast hnear
    gcongr

/-- Rounding keeps the order. -/
theorem round_mono (p : ℕ) (h : x ≤ y) : round p x ≤ round p y := by
  rcases lt_trichotomy x 0 with hx | hx | hx
  · rcases lt_or_ge y 0 with hy | hy
    · have hneg := @round_mono_of_pos p (-y) (-x) (by linarith) (by linarith)
      rw [round_neg, round_neg] at hneg
      linarith
    · have hlow : round p x < 0 := by
        have hneg := @round_pos p (-x) (by linarith)
        rw [round_neg] at hneg
        linarith
      rcases hy.lt_or_eq with hpos | hzero
      · linarith [@round_pos p y hpos]
      · rw [← hzero, round_zero]
        linarith
  · rw [hx, round_zero]
    rcases (hx ▸ h : 0 ≤ y).lt_or_eq with hpos | hzero
    · exact (round_pos hpos).le
    · rw [← hzero, round_zero]
  · exact round_mono_of_pos hx h

end SkillBuddy.Lib.Rounding
