/-
Unix time: what `ToUnixTimeSeconds` makes of what `ToDateTime` made.

# There

`ToDateTime` adds whole seconds to the epoch. A `double` may not hold the
number, but then it is out of range, and `AddSeconds` refuses it as
`AddTicks` would (`addSeconds_unixEpoch`); so the time is the epoch and
that many seconds, exactly, or there is none (`toDateTime_eq`).

# And back

Ticks are exact, but `TotalSeconds` rounds twice: the ticks become a
`double`, and so does their quotient. A second is 78125 times 128 ticks.
Up to 2 ^ 53 multiples of 128 ticks nothing is rounded. Behind that the
first rounding moves the odd seconds by 128 ticks, which the second one
takes back only where `double`s are 2 ^ -15 seconds apart; further on it
moves by 256 ticks the seconds that are twice an odd number, and these
are not taken back (`unix_time_round_trip_iff`). `slip` is by how much
the first rounding moves, and `double_slipped_iff` whether the second one
takes it back; what is left is a case distinction on the number of
seconds, in four ranges.

# Any time

A time that is not a whole number of seconds is rounded as well, but each
rounding keeps the order and is off by half of the distance of two
`double`s at most. So the order of times is kept, and the result is off by
less than 41 microseconds (`toUnixTimeSeconds_keeps_order`).
-/
import SkillBuddy.Core.UnixTime

namespace SkillBuddy.DateTimeExtension

open DotNet Lib

-- ========================================================== whole numbers

/-- A whole number of 53 digits is a `double`, and so are its multiples by
powers of two. -/
theorem double_mul_zpow {n : ℤ} (j : ℤ) (h : |n| < 2 ^ 53) :
    double (n * 2 ^ j) = n * 2 ^ j :=
  Rounding.round_eq_self j h

/-- So is every whole number of 53 digits. -/
theorem double_intCast {n : ℤ} (h : |n| < 2 ^ 53) : double n = n := by
  have hround := double_mul_zpow 0 h
  rwa [zpow_zero, mul_one] at hround

/-- A whole number is its own integer part. -/
theorem truncate_intCast (n : ℤ) : truncate n = n := by
  unfold truncate
  split
  · exact Int.floor_intCast n
  · exact Int.ceil_intCast n

theorem maxSeconds_eq : maxSeconds = 315537897599 := by decide

/-- Whole seconds are added as ticks. -/
theorem addSeconds_intCast (time : TickTime) {n : ℤ}
    (h : |n| ≤ maxSeconds) :
    time.addSeconds n = time.addTicks (n * ticksPerSecond) := by
  have hzero : double 0 = 0 := Rounding.round_zero 52
  have htruncate : truncate 0 = 0 := truncate_intCast 0
  have hle : ¬(maxSeconds : ℚ) < |(n : ℚ)| := by
    rw [not_lt]
    exact_mod_cast h
  unfold TickTime.addSeconds
  rw [if_neg hle]
  dsimp only
  rw [truncate_intCast, sub_self, hzero, zero_mul, hzero, htruncate,
    add_zero]

/-- More seconds than there are between the first and the last time are
refused. -/
theorem addSeconds_double_of_lt (time : TickTime) {n : ℤ}
    (h : maxSeconds < |n|) : time.addSeconds (double n) = none := by
  have hstep : |maxSeconds + 1| < 2 ^ 53 := by
    rw [maxSeconds_eq]
    decide
  have hlarge : (maxSeconds : ℚ) < |double n| := by
    have hlt : (maxSeconds : ℚ) < ((maxSeconds + 1 : ℤ) : ℚ) := by
      push_cast
      linarith
    rw [lt_abs] at h ⊢
    rcases h with h | h
    · left
      have hmono := Rounding.round_mono 52
        (Int.cast_le (R := ℚ).mpr (Int.add_one_le_of_lt h))
      have hself := double_intCast hstep
      unfold double at hself ⊢
      linarith
    · right
      have hmono := Rounding.round_mono 52
        (Int.cast_le (R := ℚ).mpr (Int.add_one_le_of_lt h))
      have hself := double_intCast hstep
      unfold double at hself ⊢
      rw [Int.cast_neg, Rounding.round_neg] at hmono
      linarith
  unfold TickTime.addSeconds
  rw [if_pos hlarge]

/-- Seconds after the epoch: a time that is too early or too late is
refused by `AddSeconds` or by `AddTicks`. -/
theorem addSeconds_unixEpoch (epoch : Int64) :
    unixEpoch.addSeconds (double epoch.toInt)
      = unixEpoch.addTicks (epoch.toInt * ticksPerSecond) := by
  rcases le_or_gt |epoch.toInt| maxSeconds with h | h
  · have hsmall : |epoch.toInt| < 2 ^ 53 := by
      rw [maxSeconds_eq] at h
      omega
    rw [double_intCast hsmall, addSeconds_intCast _ h]
  · rw [addSeconds_double_of_lt _ h]
    unfold TickTime.addTicks
    rw [dif_neg]
    rw [maxSeconds_eq, lt_abs] at h
    unfold unixEpoch unixEpochTicks ticksPerSecond maxTicks
    dsimp only
    omega

/-- What `ToDateTime` returns: the time of that many seconds, if there is
one. -/
theorem toDateTime_eq (zone : LocalZone) (epoch : Int64) :
    toDateTime zone epoch
      = unixEpoch.addTicks (epoch.toInt * ticksPerSecond) := by
  unfold toDateTime
  rw [addSeconds_unixEpoch]
  unfold TickTime.addTicks
  split <;> rfl

/-- It is in UTC, and that many seconds after the epoch. -/
theorem toDateTime_eq_some {zone : LocalZone} {epoch : Int64}
    {time : TickTime} (h : toDateTime zone epoch = some time) :
    time.kind = .utc
      ∧ time.ticks = unixEpochTicks + epoch.toInt * ticksPerSecond := by
  rw [toDateTime_eq] at h
  unfold TickTime.addTicks at h
  split at h
  · obtain rfl := Option.some.inj h
    exact ⟨rfl, rfl⟩
  · cases h

/-- The seconds that have no time: those before the year 1 and after
9999. -/
theorem toDateTime_eq_none_iff (zone : LocalZone) (epoch : Int64) :
    toDateTime zone epoch = none
      ↔ epoch.toInt < -62135596800 ∨ 253402300799 < epoch.toInt := by
  rw [toDateTime_eq]
  unfold TickTime.addTicks
  rw [dite_eq_right_iff]
  unfold unixEpoch unixEpochTicks ticksPerSecond maxTicks
  dsimp only
  constructor
  · intro h
    by_contra hin
    have hnone := h (by omega)
    cases hnone
  · intro h hin
    omega

-- ============================================================= first step

/-- By how many multiples of 128 ticks the first rounding moves a number
of seconds. -/
def slip (e : ℤ) : ℤ :=
  if e < 115292150461 then 0
  else if e < 230584300922 then e % 2
  else if e % 4 = 2 then 2
  else e % 2

/-- Without its last binary digit a whole number is moved by 1 if it is
odd. -/
theorem nearest_half_of (n : ℤ) :
    |Rounding.nearest ((n : ℚ) / 2) * 2 - n| = n % 2 := by
  rcases Int.emod_two_eq_zero_or_one n with h | h
  · obtain ⟨k, rfl⟩ : ∃ k, n = 2 * k := ⟨n / 2, by omega⟩
    have hhalf : ((2 * k : ℤ) : ℚ) / 2 = k := by
      push_cast
      ring
    rw [hhalf, Rounding.nearest_intCast, h, abs_eq_zero.mpr]
    ring
  · obtain ⟨k, rfl⟩ : ∃ k, n = 2 * k + 1 := ⟨n / 2, by omega⟩
    have hhalf : ((2 * k + 1 : ℤ) : ℚ) / 2 = k + 1 / 2 := by
      push_cast
      ring
    rw [hhalf, Rounding.nearest_half, h]
    split_ifs <;> [rw [abs_eq one_pos.le]; rw [abs_eq one_pos.le]] <;> omega

/-- Without the last two digits it is moved by 2 between two multiples of
four, and by 1 if it is odd. -/
theorem nearest_quarter_of (n : ℤ) :
    |Rounding.nearest ((n : ℚ) / 4) * 4 - n|
      = if n % 4 = 2 then 2 else n % 2 := by
  obtain ⟨k, hk⟩ : ∃ k, k = n / 4 := ⟨_, rfl⟩
  have hcases : n = 4 * k ∨ n = 4 * k + 1 ∨ n = 4 * k + 2
      ∨ n = 4 * k + 3 := by omega
  have hnear : ∀ m : ℤ, |(n : ℚ) / 4 - m| < 1 / 2 →
      Rounding.nearest ((n : ℚ) / 4) = m := fun m => Rounding.nearest_eq
  rcases hcases with h | h | h | h
  · rw [hnear k (by rw [h, abs_lt]; push_cast; constructor <;> linarith),
      if_neg (by omega), abs_of_nonpos (by omega)]
    omega
  · rw [hnear k (by rw [h, abs_lt]; push_cast; constructor <;> linarith),
      if_neg (by omega), abs_of_nonpos (by omega)]
    omega
  · have hhalf : (n : ℚ) / 4 = k + 1 / 2 := by
      rw [h]
      push_cast
      ring
    rw [if_pos (show n % 4 = 2 by omega), hhalf, Rounding.nearest_half,
      abs_eq two_pos.le]
    split_ifs <;> omega
  · rw [hnear (k + 1)
        (by rw [h, abs_lt]; push_cast; constructor <;> linarith),
      if_neg (by omega), abs_of_nonneg (by omega)]
    omega

/-- The first rounding. The ticks are a multiple of 128 anyway, so what is
rounded is the number of these multiples. -/
theorem double_ticks {e : ℤ} (hlow : -62135596800 ≤ e)
    (hhigh : e ≤ 253402300799) :
    ∃ s : ℤ, |s| = slip e
      ∧ double ((e * ticksPerSecond : ℤ) : ℚ)
        = ((e * 78125 + s : ℤ) : ℚ) * 2 ^ (7 : ℤ) := by
  have hticks : ((e * ticksPerSecond : ℤ) : ℚ)
      = ((e * 78125 : ℤ) : ℚ) * 2 ^ (7 : ℤ) := by
    unfold ticksPerSecond
    push_cast
    ring
  rw [hticks]
  unfold slip
  by_cases h1 : e < 115292150461
  · refine ⟨0, ?_, ?_⟩
    · rw [if_pos h1, abs_zero]
    · rw [add_zero, double_mul_zpow 7]
      rw [abs_lt]
      constructor <;> omega
  by_cases h2 : e < 230584300922
  · refine ⟨Rounding.nearest (((e * 78125 : ℤ) : ℚ) / 2) * 2 - e * 78125,
      ?_, ?_⟩
    · rw [if_neg h1, if_pos h2, nearest_half_of]
      omega
    · have hround := @Rounding.round_scaled 52 (e * 78125) 1 7 (by omega)
        (by omega)
      rw [pow_one] at hround
      unfold double
      rw [hround]
      push_cast
      ring
  · refine ⟨Rounding.nearest (((e * 78125 : ℤ) : ℚ) / 4) * 4 - e * 78125,
      ?_, ?_⟩
    · rw [if_neg h1, if_neg h2, nearest_quarter_of]
      split_ifs <;> omega
    · have hround := @Rounding.round_scaled 52 (e * 78125) 2 7 (by omega)
        (by omega)
      rw [show (2 : ℚ) ^ 2 = 4 by norm_num] at hround
      unfold double
      rw [hround]
      push_cast
      ring

-- ============================================================ second step

/-- Whether the second rounding takes the first one back: where two
`double`s are further apart than what the first one has moved. -/
theorem double_slipped_iff {e s : ℤ} (hs : |s| = slip e)
    (hlow : -62135596800 ≤ e) (hhigh : e ≤ 253402300799) :
    double (e + s / 78125) = e
      ↔ s = 0 ∨ 137438953472 ≤ e ∧ |s| = 1 := by
  by_cases hzero : s = 0
  · refine iff_of_true ?_ (Or.inl hzero)
    rw [hzero, Int.cast_zero, zero_div, add_zero]
    apply double_intCast
    rw [abs_lt]
    constructor <;> omega
  rw [or_iff_right hzero]
  have hpos : 0 < |s| := abs_pos.mpr hzero
  -- what has slipped lies behind the exact seconds
  have hlarge : 115292150461 ≤ e := by
    by_contra h
    rw [slip, if_pos (by omega)] at hs
    omega
  have hs2 : |s| ≤ 2 := by
    rw [hs]
    unfold slip
    split_ifs <;> omega
  have hs2' := abs_le.mp hs2
  have hmoved : |(e : ℚ) + s / 78125 - e| = |(s : ℚ)| / 78125 := by
    rw [add_sub_cancel_left, abs_div]
    norm_num
  have hlower : (e : ℚ) - 1 / 2 ≤ e + s / 78125 := by
    have h : (-2 : ℚ) ≤ s := by exact_mod_cast hs2'.1
    linarith
  have hupper : (e : ℚ) + s / 78125 ≤ e + 1 / 2 := by
    have h : (s : ℚ) ≤ 2 := by exact_mod_cast hs2'.2
    linarith
  have he : (115292150461 : ℚ) ≤ e := by exact_mod_cast hlarge
  have habs : |(e : ℚ) + s / 78125| = e + s / 78125 :=
    abs_of_nonneg (by linarith)
  by_cases hbinade : e < 137438953472
  · -- two doubles are 2 ^ -16 seconds apart: the slip stays
    have hspacing : Rounding.spacing 52 ((e : ℚ) + s / 78125)
        = 2 ^ (36 - 52 : ℤ) := by
      have hlt : (e : ℚ) ≤ 137438953471 := by exact_mod_cast (by omega)
      apply Rounding.spacing_eq
      · rw [habs]
        norm_num
        linarith
      · rw [habs]
        norm_num
        linarith
    refine iff_of_false ?_ (fun h => absurd h.1 (by omega))
    intro heq
    have hle := Rounding.abs_round_sub_le 52 ((e : ℚ) + s / 78125)
    unfold double at heq
    rw [heq, abs_sub_comm, hmoved, hspacing] at hle
    have hone : 1 ≤ |(s : ℚ)| := by exact_mod_cast hpos
    norm_num at hle
    linarith
  · -- they are 2 ^ -15 seconds apart
    have hspacing : Rounding.spacing 52 ((e : ℚ) + s / 78125)
        = 2 ^ (37 - 52 : ℤ) := by
      have hodd : e ≠ 137438953472 := by
        intro h
        rw [h] at hs
        have hnone : slip 137438953472 = 0 := by decide
        omega
      have hlt : (137438953473 : ℚ) ≤ e := by exact_mod_cast (by omega)
      have hmax : (e : ℚ) ≤ 253402300799 := by exact_mod_cast hhigh
      apply Rounding.spacing_eq
      · rw [habs]
        norm_num
        linarith
      · rw [habs]
        norm_num
        linarith
    constructor
    · intro heq
      refine ⟨by omega, ?_⟩
      have hle := Rounding.abs_round_sub_le 52 ((e : ℚ) + s / 78125)
      unfold double at heq
      rw [heq, abs_sub_comm, hmoved, hspacing] at hle
      by_contra hne
      have htwo : (2 : ℤ) ≤ |s| := by omega
      have htwo' : 2 ≤ |(s : ℚ)| := by exact_mod_cast htwo
      norm_num at hle
      linarith
    · intro h
      have hmultiple : (e : ℚ) = ((e * 2 ^ 15 : ℤ) : ℚ)
          * Rounding.spacing 52 ((e : ℚ) + s / 78125) := by
        rw [hspacing]
        push_cast
        norm_num
        ring
      have hone : |(s : ℚ)| = 1 := by exact_mod_cast h.2
      have hround := @Rounding.round_eq_of_near 52
        ((e : ℚ) + s / 78125) (e * 2 ^ 15) (by
          rw [← hmultiple, hmoved, hspacing, hone]
          norm_num)
      rw [← hmultiple] at hround
      exact hround

-- ============================================================ round trip

/-- The seconds whose slip is not taken back. -/
def Slips (e : ℤ) : Prop :=
  115292150461 ≤ e ∧ e < 137438953472 ∧ e % 2 = 1
    ∨ 230584300922 ≤ e ∧ e % 4 = 2

instance (e : ℤ) : Decidable (Slips e) :=
  inferInstanceAs (Decidable (_ ∨ _))

/-- The seconds of a time that was made of seconds are these, unless the
first rounding moved them and the second did not take it back. -/
theorem toUnixTimeSeconds_eq_iff {zone : LocalZone} {epoch : Int64}
    {time : TickTime} (htime : toDateTime zone epoch = some time) :
    toUnixTimeSeconds zone time = epoch.toInt ↔ ¬Slips epoch.toInt := by
  obtain ⟨hkind, hticks⟩ := toDateTime_eq_some htime
  have hin : ¬(epoch.toInt < -62135596800
      ∨ 253402300799 < epoch.toInt) := by
    rw [← toDateTime_eq_none_iff zone, htime]
    exact Option.some_ne_none time
  obtain ⟨s, hs, hdouble⟩ := @double_ticks epoch.toInt (by omega) (by omega)
  have hseconds : toUnixTimeSeconds zone time
      = double (epoch.toInt + s / 78125) := by
    unfold toUnixTimeSeconds LocalZone.toUniversalTime totalSeconds
    rw [hkind]
    dsimp only
    rw [hticks, show unixEpochTicks + epoch.toInt * ticksPerSecond
        - unixEpoch.ticks = epoch.toInt * ticksPerSecond from
          add_sub_cancel_left _ _, hdouble]
    congr 1
    unfold ticksPerSecond
    push_cast
    ring
  rw [hseconds, double_slipped_iff hs (by omega) (by omega)]
  unfold Slips
  unfold slip at hs
  rw [← abs_eq_zero]
  split_ifs at hs <;> omega

/-- `ToDateTime` throws exactly outside of the years 1 to 9999, and
`ToUnixTimeSeconds` gives back the seconds it was given, but for the odd
ones from 115292150461 (in the year 5623) to 2 ^ 37 and twice the odd ones
from 230584300922 (in the year 9276) on. -/
theorem unix_time_round_trip_iff (zone : LocalZone) (epoch : Int64) :
    (toDateTime zone epoch = none
      ↔ epoch.toInt < -62135596800 ∨ 253402300799 < epoch.toInt)
    ∧ ∀ time, toDateTime zone epoch = some time →
      (toUnixTimeSeconds zone time = epoch.toInt ↔ ¬Slips epoch.toInt) :=
  ⟨toDateTime_eq_none_iff zone epoch, fun _ => toUnixTimeSeconds_eq_iff⟩

/-- A second of the year 5623 is not given back. -/
theorem unix_time_slips :
    ∃ time, toDateTime ⟨id, id⟩ 115292150461 = some time
      ∧ toUnixTimeSeconds ⟨id, id⟩ time
        ≠ (115292150461 : Int64).toInt := by
  obtain ⟨hnone, hsome⟩ := unix_time_round_trip_iff ⟨id, id⟩ 115292150461
  cases htime : toDateTime ⟨id, id⟩ 115292150461 with
  | none => exact absurd (hnone.mp htime) (by decide)
  | some time =>
      refine ⟨time, rfl, fun heq => ?_⟩
      exact (hsome time htime).mp heq (by decide)

/-- `TimeStampToLocalDate` is `ToDateTime`, in local time. -/
theorem timeStampToLocalDate_eq (zone : LocalZone) (unixDate : Int64) :
    Helper.timeStampToLocalDate zone (some unixDate)
      = (toDateTime zone unixDate).map fun time =>
          some (zone.toLocalTime time) := by
  rw [toDateTime_eq, ← addSeconds_unixEpoch]
  rfl

/-- So the local date of a time stamp gives the time stamp back where its
time in UTC does, if the time zone gives that time back. -/
theorem local_date_gives_back_iff {zone : LocalZone} {unixDate : Int64}
    {time date : TickTime} (htime : toDateTime zone unixDate = some time)
    (hdate : Helper.timeStampToLocalDate zone (some unixDate)
      = some (some date))
    (hback : zone.toUniversalTime (zone.toLocalTime time) = time) :
    toUnixTimeSeconds zone date = unixDate.toInt
      ↔ ¬Slips unixDate.toInt := by
  rw [timeStampToLocalDate_eq, htime, Option.map_some] at hdate
  obtain rfl := Option.some.inj (Option.some.inj hdate)
  rw [← toUnixTimeSeconds_eq_iff htime]
  unfold toUnixTimeSeconds
  have hutc : zone.toUniversalTime time = time := by
    unfold LocalZone.toUniversalTime
    rw [(toDateTime_eq_some htime).1]
  rw [hback, hutc]

-- ================================================================= order

/-- The seconds from the epoch to a time, exactly. -/
def exactSeconds (zone : LocalZone) (time : TickTime) : ℚ :=
  ((zone.toUniversalTime time).ticks - unixEpochTicks : ℤ) / 10000000

/-- The result is off by less than 41 microseconds: by half of the distance
of two `double`s at each of the roundings. -/
theorem abs_toUnixTimeSeconds_sub_lt (zone : LocalZone) (time : TickTime) :
    |toUnixTimeSeconds zone time - exactSeconds zone time|
      < 41 / 1000000 := by
  unfold toUnixTimeSeconds exactSeconds totalSeconds double
  rw [show unixEpoch.ticks = unixEpochTicks from rfl]
  obtain ⟨hlow, hhigh⟩ := (zone.toUniversalTime time).inRange
  generalize hn : (zone.toUniversalTime time).ticks - unixEpochTicks = n
  have hlow' : (-621355968000000000 : ℚ) ≤ n := by
    unfold unixEpochTicks at hn
    exact_mod_cast (by omega)
  have hhigh' : (n : ℚ) ≤ 2534023007999999999 := by
    unfold unixEpochTicks at hn
    unfold maxTicks at hhigh
    exact_mod_cast (by omega)
  -- the ticks become a double
  have hticks : |(n : ℚ)| < 2 ^ (61 + 1 : ℤ) := by
    rw [abs_lt]
    norm_num
    constructor <;> linarith
  have hfirst := Rounding.abs_round_sub_le 52 (n : ℚ)
  have hspacing := @Rounding.spacing_le 52 (n : ℚ) 61 (by decide) hticks
  norm_num at hspacing
  rw [abs_le] at hfirst
  generalize Rounding.round 52 (n : ℚ) = d at hfirst ⊢
  unfold ticksPerSecond
  push_cast
  -- and their quotient
  have hquotient : |d / 10000000| < 2 ^ (37 + 1 : ℤ) := by
    rw [abs_lt]
    norm_num
    constructor <;> linarith
  have hsecond := Rounding.abs_round_sub_le 52 (d / 10000000)
  have hspacing' := @Rounding.spacing_le 52 (d / 10000000) 37 (by decide)
    hquotient
  norm_num at hspacing'
  rw [abs_le] at hsecond
  rw [abs_lt]
  constructor <;> linarith

/-- `ToUnixTimeSeconds` never turns two times round, and tells times apart
that are 82 microseconds (820 ticks) from each other; it is off by less
than 41 microseconds. -/
theorem toUnixTimeSeconds_keeps_order (zone : LocalZone)
    (first second : TickTime) :
    ((zone.toUniversalTime first).ticks
        ≤ (zone.toUniversalTime second).ticks →
      toUnixTimeSeconds zone first ≤ toUnixTimeSeconds zone second)
    ∧ ((zone.toUniversalTime first).ticks + 820
        ≤ (zone.toUniversalTime second).ticks →
      toUnixTimeSeconds zone first < toUnixTimeSeconds zone second)
    ∧ |toUnixTimeSeconds zone first - exactSeconds zone first|
      < 41 / 1000000 := by
  have hfirst := abs_toUnixTimeSeconds_sub_lt zone first
  refine ⟨fun h => ?_, fun h => ?_, hfirst⟩
  · unfold toUnixTimeSeconds totalSeconds double
    apply Rounding.round_mono
    unfold ticksPerSecond
    have hround := Rounding.round_mono 52 (Int.cast_le (R := ℚ).mpr
      (Int.sub_le_sub_right h unixEpoch.ticks))
    gcongr
  · have hsecond := abs_toUnixTimeSeconds_sub_lt zone second
    have hapart : exactSeconds zone first + 82 / 1000000
        ≤ exactSeconds zone second := by
      have hcast : (((zone.toUniversalTime first).ticks + 820 : ℤ) : ℚ)
          ≤ (zone.toUniversalTime second).ticks := by exact_mod_cast h
      unfold exactSeconds
      push_cast at hcast ⊢
      linarith
    rw [abs_lt] at hfirst hsecond
    linarith

theorem toUnixTimeSeconds_keeps_order_epoch :
    toUnixTimeSeconds ⟨id, id⟩ unixEpoch
      < toUnixTimeSeconds ⟨id, id⟩
        ⟨unixEpochTicks + 820, .utc, by decide⟩ :=
  (toUnixTimeSeconds_keeps_order ⟨id, id⟩ unixEpoch _).2.1 (by decide)

end SkillBuddy.DateTimeExtension
