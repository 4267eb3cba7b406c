import CommonChangelog.Text.Digit

/-!
# Timestamps

An instant, given in seconds since 1970 in UTC, is written in the form of RFC 3339 in an offset of
so many minutes: `2024-01-01T05:00:00-05:00`. The calendar is the Gregorian one, extended to all
years.
-/

namespace CommonChangelog.Timestamp

/-- Seconds of a day. -/
def daySeconds : Int := 86400

/-- A day of the calendar. -/
structure Date where
  year : Int
  month : Int
  day : Int
  deriving DecidableEq, Repr

/--
The calendar day that lies so many days after 1970-01-01. Years are counted from March, so that a
leap day is the last day of its year, and eras of 400 years all have 146097 days.
-/
def dateOfDays (days : Int) : Date :=
  let shifted := days + 719468
  let era := shifted.fdiv 146097
  let dayOfEra := shifted.fmod 146097
  let yearOfEra := (dayOfEra - dayOfEra / 1460 + dayOfEra / 36524 - dayOfEra / 146096) / 365
  let dayOfYear := dayOfEra - (365 * yearOfEra + yearOfEra / 4 - yearOfEra / 100)
  let marchMonth := (5 * dayOfYear + 2) / 153
  let day := dayOfYear - (153 * marchMonth + 2) / 5 + 1
  let month := if marchMonth < 10 then marchMonth + 3 else marchMonth - 9
  ⟨yearOfEra + era * 400 + (if month ≤ 2 then 1 else 0), month, day⟩

/-- A number with zeros before it, up to a width. -/
def padded (width : Nat) (n : Nat) : Text :=
  let digits := Text.ofNat n
  List.replicate (width - digits.length) '0' ++ digits

/-- A year of four digits, or with a sign if it has no place in four digits. -/
def yearText (year : Int) : Text :=
  if 0 ≤ year ∧ year ≤ 9999 then padded 4 year.toNat
  else (if year < 0 then '-' else '+') :: padded 4 year.natAbs

def dateText (date : Date) : Text :=
  yearText date.year ++ "-" ++ padded 2 date.month.toNat ++ "-" ++ padded 2 date.day.toNat

/-- A time of day, in seconds since midnight. -/
def clockText (seconds : Nat) : Text :=
  padded 2 (seconds / 3600) ++ ":" ++ padded 2 (seconds / 60 % 60) ++ ":" ++
    padded 2 (seconds % 60)

/-- An offset from UTC, in minutes. -/
def offsetText (minutes : Int) : Text :=
  (if minutes < 0 then '-' else '+') ::
    (padded 2 (minutes.natAbs / 60) ++ ":" ++ padded 2 (minutes.natAbs % 60))

/-- The greatest distance of an offset from UTC: less than a day. -/
def isOffset (minutes : Int) : Bool := -1440 < minutes && minutes < 1440

/-- The years that have a calendar. -/
def isYear (year : Int) : Bool := -262143 ≤ year && year ≤ 262142

/-- The written form of an instant in an offset. An offset of a day or more has none. -/
def render? (seconds minutes : Int) : Option Text :=
  let here := seconds + minutes * 60
  if isOffset minutes && isYear (dateOfDays (seconds.fdiv daySeconds)).year then
    some (dateText (dateOfDays (here.fdiv daySeconds)) ++ "T" ++
      clockText (here.fmod daySeconds).toNat ++ offsetText minutes)
  else none

end CommonChangelog.Timestamp
