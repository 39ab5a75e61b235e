/-
Module: ModemLink.Calendar
Purpose: Dates and times of day in the Gregorian calendar, in universal time.
Main exports: Timestamp, Timestamp.text
-/

namespace ModemLink

/-- Milliseconds since the start of 1970, without leap seconds. -/
structure Timestamp where
  millis : Int
deriving DecidableEq, Repr, Inhabited

namespace Timestamp

/-- Year, month and day of a day counted from the start of 1970.  Years begin in March here, so that a
leap day ends its year, and 146097 days make 400 years. -/
def date (day : Int) : Int × Nat × Nat :=
  let shifted := day + 719468
  let era := shifted.fdiv 146097
  let dayOfEra := (shifted - era * 146097).toNat
  let yearOfEra := (dayOfEra - dayOfEra / 1460 + dayOfEra / 36524 - dayOfEra / 146096) / 365
  let dayOfYear := dayOfEra - (365 * yearOfEra + yearOfEra / 4 - yearOfEra / 100)
  let marchMonth := (5 * dayOfYear + 2) / 153
  let dayOfMonth := dayOfYear - (153 * marchMonth + 2) / 5 + 1
  let month := if marchMonth < 10 then marchMonth + 3 else marchMonth - 9
  let year := era * 400 + yearOfEra + if month ≤ 2 then 1 else 0
  (year, month, dayOfMonth)

/-- A number in at least `width` digits. -/
def padded (width n : Nat) : String :=
  let digits := (toString n).toList
  String.ofList (List.replicate (width - digits.length) '0' ++ digits)

/-- A year: four digits, and a sign before a year that needs more or is negative. -/
def yearText (year : Int) : String :=
  if year < 0 then "-" ++ padded 4 year.natAbs
  else if 9999 < year then "+" ++ toString year
  else padded 4 year.natAbs

/-- Date and time with a mark for universal time at the end.  Milliseconds are given if there are
any. -/
def text (time : Timestamp) (zone : String) : String :=
  let day := time.millis.fdiv 86400000
  let millisOfDay := (time.millis - day * 86400000).toNat
  let (year, month, dayOfMonth) := date day
  let seconds := millisOfDay / 1000
  let millis := millisOfDay % 1000
  String.join
    [yearText year, "-", padded 2 month, "-", padded 2 dayOfMonth, "T",
      padded 2 (seconds / 3600), ":", padded 2 (seconds / 60 % 60), ":", padded 2 (seconds % 60),
      if millis = 0 then "" else "." ++ padded 3 millis, zone]

end Timestamp

end ModemLink
