import DocStore.Text.Numeral

/-!
# Civil dates of an instant

Instants count milliseconds from the start of 1970.  Days fall into eras of 400
years that start on the first of March, so that a leap day ends its year.
-/

namespace DocStore

/-- A date and time of day of the proleptic Gregorian calendar. -/
structure CivilTime where
  year : Int
  /-- From one to twelve. -/
  month : Nat
  /-- From one on. -/
  day : Nat
  hour : Nat
  minute : Nat
  second : Nat
  /-- From Sunday, which is zero, to Saturday. -/
  weekday : Nat
  deriving DecidableEq

namespace CivilTime

/-- Milliseconds of a day. -/
def millisPerDay : Int := 86400000

/-- The year, month and day of a number of days since the start of 1970. -/
def ofDays (days : Int) : Int × Nat × Nat :=
  let shifted := days + 719468
  let era := shifted / 146097
  let dayOfEra := (shifted % 146097).toNat
  let yearOfEra := (dayOfEra - dayOfEra / 1460 + dayOfEra / 36524 - dayOfEra / 146096) / 365
  let dayOfYear := dayOfEra - (365 * yearOfEra + yearOfEra / 4 - yearOfEra / 100)
  let monthFromMarch := (5 * dayOfYear + 2) / 153
  let day := dayOfYear - (153 * monthFromMarch + 2) / 5 + 1
  let month := if monthFromMarch < 10 then monthFromMarch + 3 else monthFromMarch - 9
  let year := era * 400 + yearOfEra
  (if month ≤ 2 then year + 1 else year, month, day)

/-- The date and time of an instant. -/
def ofMillis (millis : Int) : CivilTime :=
  let days := millis / millisPerDay
  let seconds := (millis % millisPerDay).toNat / 1000
  let (year, month, day) := ofDays days
  { year, month, day
    hour := seconds / 3600
    minute := seconds / 60 % 60
    second := seconds % 60
    weekday := ((days + 4) % 7).toNat }

/-- The years that dates are written for. -/
def writableYears : Int × Int := (-262143, 262142)

/-- Whether a date of an instant can be written. -/
def isWritable (millis : Int) : Bool :=
  let year := (ofMillis millis).year
  writableYears.1 ≤ year && year ≤ writableYears.2

/-- The names of the days of the week. -/
def weekdayNames : List String := ["Sun", "Mon", "Tue", "Wed", "Thu", "Fri", "Sat"]

/-- The names of the months. -/
def monthNames : List String :=
  ["Jan", "Feb", "Mar", "Apr", "May", "Jun", "Jul", "Aug", "Sep", "Oct", "Nov", "Dec"]

/-- Digits with zeros in front up to a width. -/
def padded (width n : Nat) : List Char :=
  let digits := Text.Numeral.showNat n
  List.replicate (width - digits.length) '0' ++ digits

/-- A year in four digits, with a sign outside of `0000` to `9999`. -/
def yearChars (year : Int) : List Char :=
  (if year < 0 then ['-'] else if year > 9999 then ['+'] else []) ++ padded 4 year.natAbs

/-- The form of dates in HTTP headers, as in `Fri, 05 Jan 2018 11:25:15 GMT`. -/
def httpDate (time : CivilTime) : String :=
  String.ofList <|
    (weekdayNames.getD time.weekday "").toList ++ [',', ' '] ++ padded 2 time.day ++ [' '] ++
      (monthNames.getD (time.month - 1) "").toList ++ [' '] ++ yearChars time.year ++ [' '] ++
      padded 2 time.hour ++ [':'] ++ padded 2 time.minute ++ [':'] ++ padded 2 time.second ++
      " GMT".toList

example : (ofMillis 1515151515678).httpDate = "Fri, 05 Jan 2018 11:25:15 GMT" := by
  decide +kernel
example : (ofMillis (-1)).httpDate = "Wed, 31 Dec 1969 23:59:59 GMT" := by decide +kernel

end CivilTime
end DocStore
