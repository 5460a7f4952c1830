/-!
# Time stamps

A moment as a date and a time of day, from the seconds since the beginning of 1970. Years are
counted from the first of March, so that the day that comes every four years is the last one.
-/

namespace Runbook.Run

/-- A number with two digits at least. -/
def twoDigits (n : Nat) : String := if n < 10 then "0" ++ toString n else toString n

/-- A day as year, month and day of the month, from the days since the beginning of 1970. -/
def dateOf (days : Nat) : Nat × Nat × Nat :=
  let days := days + 719468
  let era := days / 146097
  let dayOfEra := days % 146097
  let yearOfEra := (dayOfEra - dayOfEra / 1460 + dayOfEra / 36524 - dayOfEra / 146096) / 365
  let dayOfYear := dayOfEra - (365 * yearOfEra + yearOfEra / 4 - yearOfEra / 100)
  let monthFromMarch := (5 * dayOfYear + 2) / 153
  let day := dayOfYear - (153 * monthFromMarch + 2) / 5 + 1
  let month := if monthFromMarch < 10 then monthFromMarch + 3 else monthFromMarch - 9
  let year := yearOfEra + era * 400 + (if month ≤ 2 then 1 else 0)
  (year, month, day)

/-- The time stamp of a moment. -/
def timestamp (seconds : Nat) : String :=
  let (year, month, day) := dateOf (seconds / 86400)
  let clock := [seconds / 3600 % 24, seconds / 60 % 60, seconds % 60]
  toString year ++ "-" ++ twoDigits month ++ "-" ++ twoDigits day ++ "T" ++
    ":".intercalate (clock.map twoDigits) ++ "+00:00"

example : timestamp 0 = "1970-01-01T00:00:00+00:00" := by cbv

/-- A leap day. -/
example : timestamp 1709210096 = "2024-02-29T12:34:56+00:00" := by cbv

end Runbook.Run
