import Fanfolio.Schema

/-!
# Calendar dates

The dates and weeks that the code writes into its keys, from a count of microseconds.
-/

namespace Fanfolio

def microsPerDay : Nat := 86400000000

/-- Year, month and day of a day count from 1970-01-01. -/
def civilOfDays (day : Nat) : Nat × Nat × Nat :=
  let shifted := day + 719468
  let era := shifted / 146097
  let dayOfEra := shifted % 146097
  let yearOfEra := (dayOfEra - dayOfEra / 1460 + dayOfEra / 36524 - dayOfEra / 146096) / 365
  let dayOfYear := dayOfEra - (365 * yearOfEra + yearOfEra / 4 - yearOfEra / 100)
  let shiftedMonth := (5 * dayOfYear + 2) / 153
  let month := if shiftedMonth < 10 then shiftedMonth + 3 else shiftedMonth - 9
  let year := yearOfEra + era * 400 + if month ≤ 2 then 1 else 0
  (year, month, dayOfYear - (153 * shiftedMonth + 2) / 5 + 1)

/-- The day count of the first of January. -/
def daysBeforeYear (year : Nat) : Nat :=
  365 * (year - 1) + (year - 1) / 4 - (year - 1) / 100 + (year - 1) / 400 - 719162

/-- The year and week of `isocalendar`: those of the Thursday of the week. -/
def isoWeekOfDays (day : Nat) : Nat × Nat :=
  let thursday := day + 3 - (day + 3) % 7
  let year := (civilOfDays thursday).1
  (year, (thursday - daysBeforeYear year) / 7 + 1)

def zeroPadded (width n : Nat) : String :=
  let digits := Nat.toDigits 10 n
  String.ofList (List.replicate (width - digits.length) '0' ++ digits)

/-- `date.isoformat`. -/
def isoDate (time : Time) : String :=
  let (year, month, day) := civilOfDays (time / microsPerDay)
  zeroPadded 4 year ++ "-" ++ zeroPadded 2 month ++ "-" ++ zeroPadded 2 day

/-- The year and week of a time, as `f"{year}-W{week:02d}"`. -/
def isoWeek (time : Time) : String :=
  let (year, week) := isoWeekOfDays (time / microsPerDay)
  toString year ++ "-W" ++ zeroPadded 2 week

/-- `datetime.isoformat` of a UTC instant. -/
def isoDatetime (time : Time) : String :=
  let seconds := time % microsPerDay / 1000000
  let micros := time % 1000000
  isoDate time ++ "T" ++ zeroPadded 2 (seconds / 3600) ++ ":" ++
    zeroPadded 2 (seconds / 60 % 60) ++ ":" ++ zeroPadded 2 (seconds % 60) ++
    (if micros = 0 then "" else "." ++ zeroPadded 6 micros) ++ "+00:00"

end Fanfolio
