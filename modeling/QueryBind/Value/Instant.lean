/-! # Instants

An instant is a number of milliseconds since the first of January 1970, in universal time.
The calendar is the Gregorian one, carried on before its introduction.
-/

namespace QueryBind.Instant

/-- Milliseconds in a day. -/
def dayLength : Int := 86400000

/-- The largest magnitude of an instant: a hundred million days. -/
def limit : Int := 8640000000000000

/-- The instant with this number of milliseconds, if there is one. -/
def ofMilliseconds? (ms : Int) : Option Int :=
  if -limit ≤ ms ∧ ms ≤ limit then some ms else none

/-- A day of the calendar. -/
structure Day where
  year : Int
  month : Nat
  day : Nat
  deriving DecidableEq, Repr

/-- The day with this number, day zero being the first of January 1970. Days are counted in
eras of 400 years that begin in March, so that the leap day is the last of its year. -/
def dayOf (number : Int) : Day :=
  let shifted := number + 719468
  let era := shifted.fdiv 146097
  let dayOfEra := (shifted - era * 146097).toNat
  let yearOfEra := (dayOfEra - dayOfEra / 1460 + dayOfEra / 36524 - dayOfEra / 146096) / 365
  let dayOfYear := dayOfEra - (365 * yearOfEra + yearOfEra / 4 - yearOfEra / 100)
  let monthIndex := (5 * dayOfYear + 2) / 153
  let day := dayOfYear - (153 * monthIndex + 2) / 5 + 1
  let month := if monthIndex < 10 then monthIndex + 3 else monthIndex - 9
  let year : Int := yearOfEra + era * 400
  ⟨if month ≤ 2 then year + 1 else year, month, day⟩

/-- A number with at least the given count of digits. -/
def padded (width n : Nat) : String :=
  let digits := Nat.toDigits 10 n
  String.ofList (List.replicate (width - digits.length) '0' ++ digits)

/-- Hours, minutes, seconds and milliseconds of the day. -/
def clock (instant : Int) : Nat × Nat × Nat × Nat :=
  let ms := (instant.fmod dayLength).toNat
  (ms / 3600000, ms / 60000 % 60, ms / 1000 % 60, ms % 1000)

/-- A year with four digits, or with a sign and six digits outside 0 to 9999. -/
def isoYear (year : Int) : String :=
  if 0 ≤ year ∧ year ≤ 9999 then padded 4 year.natAbs
  else (if year < 0 then "-" else "+") ++ padded 6 year.natAbs

/-- The international form, with milliseconds and the zone letter. -/
def iso (instant : Int) : String :=
  let day := dayOf (instant.fdiv dayLength)
  let (hours, minutes, seconds, ms) := clock instant
  isoYear day.year ++ "-" ++ padded 2 day.month ++ "-" ++ padded 2 day.day ++ "T" ++
    padded 2 hours ++ ":" ++ padded 2 minutes ++ ":" ++ padded 2 seconds ++ "." ++
    padded 3 ms ++ "Z"

/-- Short names of the days of the week, from the day of the epoch on. -/
def weekdays : List String :=
  ["Thu", "Fri", "Sat", "Sun", "Mon", "Tue", "Wed"]

/-- Short names of the months. -/
def months : List String :=
  ["Jan", "Feb", "Mar", "Apr", "May", "Jun", "Jul", "Aug", "Sep", "Oct", "Nov", "Dec"]

/-- The long form: weekday, date, time and zone. -/
def long (instant : Int) : String :=
  let number := instant.fdiv dayLength
  let day := dayOf number
  let (hours, minutes, seconds, _) := clock instant
  (weekdays.getD (number.fmod 7).toNat "") ++ " " ++ (months.getD (day.month - 1) "") ++ " " ++
    padded 2 day.day ++ " " ++ (if day.year < 0 then "-" else "") ++
    padded 4 day.year.natAbs ++ " " ++ padded 2 hours ++ ":" ++ padded 2 minutes ++ ":" ++
    padded 2 seconds ++ " GMT+0000 (Coordinated Universal Time)"

end QueryBind.Instant
