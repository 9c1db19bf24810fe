/-
Time stamps as text: what `TimeStampToLocalDate` makes of any text.

A text that is the numeral of a `long` is the numeral of that one only
(`value_of_longTryParse`), so each text has one of three results: null if
it is no such numeral, an exception if no `DateTime` is that many seconds
from the epoch, and the local time of that many seconds otherwise
(`timeStampText_iff`).

Each of the three is an equivalence. Whether a text is a numeral is
decided by the format, not by the parser, and whether there is a
`DateTime` by the bounds of its range; the time zone enters only where
there is one, and is any. A `long` that was written as text is read back
(`timeStampText_intText`), so the overload for a `long` is a case of this.
-/
import SkillBuddy.Proofs.UnixTime

namespace SkillBuddy

open DotNet

/-- The number that was parsed is the value of every numeral with the
text. -/
theorem value_of_longTryParse {numeral : Numeral} {n : Int64}
    (h : longTryParse numeral.text = some n) : numeral.value = n.toInt := by
  rw [longTryParse_text] at h
  split at h
  · next hrange =>
    rw [← Option.some.inj h, Int64.toInt_ofInt_of_le hrange.1 hrange.2]
  · cases h

namespace DateTimeExtension

/-- `ToDateTime` returns exactly the UTC time that many seconds from the
epoch. -/
theorem toDateTime_eq_some_iff {zone : LocalZone} {epoch : Int64}
    {time : TickTime} :
    toDateTime zone epoch = some time
      ↔ time.kind = .utc
        ∧ time.ticks = unixEpochTicks + epoch.toInt * ticksPerSecond := by
  refine ⟨toDateTime_eq_some, ?_⟩
  rintro ⟨hkind, hticks⟩
  obtain ⟨ticks, kind, hin⟩ := time
  obtain rfl : kind = .utc := hkind
  obtain rfl : ticks = _ := hticks
  rw [toDateTime_eq, TickTime.addTicks]
  exact dif_pos hin

end DateTimeExtension

namespace Helper

open DateTimeExtension

/-- A text that is parsed is treated as the number, -/
theorem timeStampText_of_some {zone : LocalZone} {text : Str} {n : Int64}
    (h : longTryParse text = some n) :
    timeStampTextToLocalDate zone (some text)
      = (toDateTime zone n).map fun time =>
          some (zone.toLocalTime time) := by
  unfold timeStampTextToLocalDate
  rw [Option.bind_some, h]
  exact timeStampToLocalDate_eq zone n

/-- and one that is not has null. -/
theorem timeStampText_of_none {zone : LocalZone} {text : Str}
    (h : longTryParse text = none) :
    timeStampTextToLocalDate zone (some text) = some none := by
  unfold timeStampTextToLocalDate
  rw [Option.bind_some, h]

/-- A `long` is read back from its own text. -/
theorem timeStampText_intText (zone : LocalZone) (unixDate : Int64) :
    timeStampTextToLocalDate zone (some (intText unixDate.toInt))
      = timeStampToLocalDate zone (some unixDate) := by
  rw [timeStampText_of_some (longTryParse_intText unixDate),
    timeStampToLocalDate_eq]

/-- Null is for the texts that are no numeral of a `long`, the exception
for the numerals of the seconds that have no time, and every other text
has the local time of the seconds that it is a numeral of. -/
theorem timeStampText_iff (zone : LocalZone) (text : Str) :
    (timeStampTextToLocalDate zone (some text) = some none
      ↔ ∀ numeral : Numeral, numeral.text = text →
          ¬(-2 ^ 63 ≤ numeral.value ∧ numeral.value < 2 ^ 63))
    ∧ (timeStampTextToLocalDate zone (some text) = none
      ↔ ∃ numeral : Numeral, numeral.text = text
          ∧ (-2 ^ 63 ≤ numeral.value ∧ numeral.value < 2 ^ 63)
          ∧ (numeral.value < -62135596800 ∨ 253402300799 < numeral.value))
    ∧ ∀ date, timeStampTextToLocalDate zone (some text) = some (some date)
      ↔ ∃ numeral : Numeral, numeral.text = text
          ∧ ∃ time : TickTime, time.kind = .utc
            ∧ time.ticks
                = unixEpochTicks + numeral.value * ticksPerSecond
            ∧ zone.toLocalTime time = date := by
  cases hparse : longTryParse text with
  | none =>
      have hrange : ∀ numeral : Numeral, numeral.text = text →
          ¬(-2 ^ 63 ≤ numeral.value ∧ numeral.value < 2 ^ 63) := by
        rintro numeral rfl hin
        rw [longTryParse_text, if_pos hin] at hparse
        cases hparse
      rw [timeStampText_of_none hparse]
      refine ⟨⟨fun _ => hrange, fun _ => rfl⟩, ⟨fun h => (by cases h), ?_⟩,
        fun date => ⟨fun h => (by cases h), ?_⟩⟩
      · rintro ⟨numeral, htext, hin, -⟩
        exact absurd hin (hrange numeral htext)
      · rintro ⟨numeral, htext, time, -, hticks, -⟩
        -- a value that has a time is a `long`
        refine absurd ?_ (hrange numeral htext)
        obtain ⟨hlow, hhigh⟩ := time.inRange
        unfold unixEpochTicks ticksPerSecond at hticks
        unfold maxTicks at hhigh
        omega
  | some n =>
      obtain ⟨numeral, htext, hvalue⟩ := longTryParse_eq_some_iff.mp hparse
      have hunique : ∀ numeral : Numeral, numeral.text = text →
          numeral.value = n.toInt := by
        rintro numeral rfl
        exact value_of_longTryParse hparse
      have hin : -2 ^ 63 ≤ n.toInt ∧ n.toInt < 2 ^ 63 :=
        ⟨n.le_toInt, n.toInt_lt⟩
      rw [timeStampText_of_some hparse]
      refine ⟨⟨fun h => ?_, fun h => ?_⟩, ?_, fun date => ?_⟩
      · cases htime : toDateTime zone n with
        | none =>
            rw [htime] at h
            cases h
        | some time =>
            rw [htime] at h
            cases h
      · refine absurd ?_ (h numeral htext)
        rw [hvalue]
        exact hin
      · rw [Option.map_eq_none_iff, toDateTime_eq_none_iff]
        refine ⟨fun h => ⟨numeral, htext, ?_, ?_⟩, ?_⟩
        · rw [hvalue]
          exact hin
        · rw [hvalue]
          exact h
        · rintro ⟨numeral', htext', -, h⟩
          rwa [hunique numeral' htext'] at h
      · rw [Option.map_eq_some_iff]
        constructor
        · rintro ⟨time, htime, hdate⟩
          obtain ⟨hkind, hticks⟩ := toDateTime_eq_some_iff.mp htime
          rw [← hvalue] at hticks
          exact ⟨numeral, htext, time, hkind, hticks, Option.some.inj hdate⟩
        · rintro ⟨numeral', htext', time, hkind, hticks, rfl⟩
          rw [hunique numeral' htext'] at hticks
          exact ⟨time, toDateTime_eq_some_iff.mpr ⟨hkind, hticks⟩, rfl⟩

end Helper

end SkillBuddy
