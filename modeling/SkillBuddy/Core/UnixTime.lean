/-
`SkillBuddy.Core.DateTimeExtension` and `Helper`: times as seconds since
the Unix epoch, and back.
-/
import SkillBuddy.DotNet.Clock
import SkillBuddy.DotNet.Numerals

namespace SkillBuddy

open DotNet

namespace DateTimeExtension

/-- `epoch.ToDateTime()`; `none` stands for the
`ArgumentOutOfRangeException`. -/
def toDateTime (zone : LocalZone) (epoch : Int64) : Option TickTime :=
  (unixEpoch.addSeconds (double epoch.toInt)).map zone.toUniversalTime

/-- `dateTime.ToUnixTimeSeconds()`. -/
def toUnixTimeSeconds (zone : LocalZone) (dateTime : TickTime) : ℚ :=
  totalSeconds ((zone.toUniversalTime dateTime).ticks - unixEpoch.ticks)

end DateTimeExtension

namespace Helper

/-- `TimeStampToLocalDate(unixDate)`: null for null, and `none` for the
`ArgumentOutOfRangeException`. -/
def timeStampToLocalDate (zone : LocalZone) :
    Option Int64 → Option (Option TickTime)
  | none => some none
  | some unixDate =>
      (unixEpoch.addSeconds (double unixDate.toInt)).map fun time =>
        some (zone.toLocalTime time)

/-- `TimeStampToLocalDate(unixDateString)`: null, too, for a text that is
no number. -/
def timeStampTextToLocalDate (zone : LocalZone)
    (unixDateString : Option Str) : Option (Option TickTime) :=
  match unixDateString.bind longTryParse with
  | some unixDate => timeStampToLocalDate zone (some unixDate)
  | none => some none

end Helper

end SkillBuddy
