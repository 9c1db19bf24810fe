/-
`DateTime` and `TimeSpan` by their ticks, as far as the conversions from
and to Unix time use them.

A `double` is the rational number it stands for; the results of
conversions and of arithmetic are rounded to 53 digits. None of them here
comes near the largest or the smallest exponents. The time zone of the
computer is a parameter.
-/
import SkillBuddy.Lib.Rounding

namespace SkillBuddy.DotNet

open Lib

-- ================================================================ doubles

/-- `(double)x`: the nearest `double`. -/
def double (x : ℚ) : ℚ := Rounding.round 52 x

/-- `Math.Truncate(x)`, and the cast to `long`. -/
def truncate (x : ℚ) : ℤ := if 0 ≤ x then ⌊x⌋ else ⌈x⌉

-- ================================================================== times

/-- `DateTime.MaxValue.Ticks`. -/
def maxTicks : ℤ := 3155378975999999999

/-- `DateTime.UnixEpoch.Ticks`. -/
def unixEpochTicks : ℤ := 621355968000000000

/-- `TimeSpan.TicksPerSecond`. -/
def ticksPerSecond : ℤ := 10000000

/-- The seconds `AddSeconds` takes at most. -/
def maxSeconds : ℤ := maxTicks / ticksPerSecond

/-- `DateTimeKind`. -/
inductive DateTimeKind where
  | unspecified
  | utc
  | local_
  deriving DecidableEq, Repr

/-- A `DateTime`, by its ticks. -/
structure TickTime where
  ticks : ℤ
  kind : DateTimeKind
  inRange : 0 ≤ ticks ∧ ticks ≤ maxTicks

/-- `DateTime.UnixEpoch`. -/
def unixEpoch : TickTime where
  ticks := unixEpochTicks
  kind := .utc
  inRange := by decide

/-- `TimeZoneInfo.Local`: what it makes of a time that is not UTC, and of
one that is. -/
structure LocalZone where
  toUtc : TickTime → TickTime
  fromUtc : TickTime → TickTime

/-- `time.ToUniversalTime()`. -/
def LocalZone.toUniversalTime (zone : LocalZone) (time : TickTime) :
    TickTime :=
  match time.kind with
  | .utc => time
  | .unspecified | .local_ => zone.toUtc time

/-- `time.ToLocalTime()`. -/
def LocalZone.toLocalTime (zone : LocalZone) (time : TickTime) : TickTime :=
  match time.kind with
  | .local_ => time
  | .unspecified | .utc => zone.fromUtc time

namespace TickTime

/-- `time.AddTicks(value)`; `none` stands for the
`ArgumentOutOfRangeException`. -/
def addTicks (time : TickTime) (value : ℤ) : Option TickTime :=
  if h : 0 ≤ time.ticks + value ∧ time.ticks + value ≤ maxTicks then
    some ⟨time.ticks + value, time.kind, h⟩
  else none

/-- `time.AddSeconds(value)`: the whole seconds and the rest are turned
into ticks apart. -/
def addSeconds (time : TickTime) (value : ℚ) : Option TickTime :=
  if maxSeconds < |value| then none
  else
    let integralPart := truncate value
    let fractionalPart := double (value - integralPart)
    time.addTicks (integralPart * ticksPerSecond
      + truncate (double (fractionalPart * ticksPerSecond)))

end TickTime

/-- `new TimeSpan(ticks).TotalSeconds`. -/
def totalSeconds (ticks : ℤ) : ℚ := double (double ticks / ticksPerSecond)

end SkillBuddy.DotNet
