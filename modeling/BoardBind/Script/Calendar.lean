/-! # Dates and times

A moment is a number of seconds since the start of 1970; a date and a time of day are what people
call it. The years before and after follow the same rules as those of today.
-/

namespace BoardBind.Script

/-- A date and a time of day. -/
structure Civil where
  year : Int
  /-- From one to twelve. -/
  month : Nat
  /-- From one. -/
  day : Nat
  hour : Nat := 0
  minute : Nat := 0
  second : Nat := 0
  deriving DecidableEq

namespace Calendar

def daySeconds : Nat := 86400

/-- Whether a year has a day more than others. -/
def isLeap (year : Int) : Bool :=
  (year % 4 = 0 && year % 100 ≠ 0) || year % 400 = 0

def daysIn (year : Int) (month : Nat) : Nat :=
  if month = 2 then (if isLeap year then 29 else 28)
  else if month ∈ [4, 6, 9, 11] then 30 else 31

/-- The number of days from the start of 1970 to a date. Years are counted from March, so that the
day that only some years have is the last one, and 400 years always have the same number of days. -/
def days (year : Int) (month day : Nat) : Int :=
  let y := if month ≤ 2 then year - 1 else year
  let era := y.fdiv 400
  let yearOfEra := y - era * 400
  let monthFromMarch : Int := if 2 < month then (month : Int) - 3 else (month : Int) + 9
  let dayOfYear := (153 * monthFromMarch + 2) / 5 + day - 1
  let dayOfEra := yearOfEra * 365 + yearOfEra / 4 - yearOfEra / 100 + dayOfYear
  era * 146097 + dayOfEra - 719468

/-- The date that a number of days after the start of 1970 means. -/
def dateOf (days : Int) : Int × Nat × Nat :=
  let z := days + 719468
  let era := z.fdiv 146097
  let dayOfEra := z - era * 146097
  let yearOfEra := (dayOfEra - dayOfEra / 1460 + dayOfEra / 36524 - dayOfEra / 146096) / 365
  let dayOfYear := dayOfEra - (365 * yearOfEra + yearOfEra / 4 - yearOfEra / 100)
  let monthFromMarch := (5 * dayOfYear + 2) / 153
  let day := dayOfYear - (153 * monthFromMarch + 2) / 5 + 1
  let month := if monthFromMarch < 10 then monthFromMarch + 3 else monthFromMarch - 9
  let year := yearOfEra + era * 400
  (if month ≤ 2 then year + 1 else year, month.toNat, day.toNat)

end Calendar

namespace Civil

/-- The date and the time of day of a moment. -/
def ofSeconds (seconds : Int) : Civil :=
  let days := seconds.fdiv Calendar.daySeconds
  let rest := (seconds - days * Calendar.daySeconds).toNat
  let (year, month, day) := Calendar.dateOf days
  { year, month, day, hour := rest / 3600, minute := rest / 60 % 60, second := rest % 60 }

def days (c : Civil) : Int :=
  Calendar.days c.year c.month c.day

/-- The moment that a date and a time of day mean. -/
def seconds (c : Civil) : Int :=
  c.days * Calendar.daySeconds + (c.hour * 3600 + c.minute * 60 + c.second : Nat)

def weekday (c : Civil) : Nat :=
  ((c.days + 4) % 7).toNat

/-- The day of the year; the first one is zero. -/
def dayOfYear (c : Civil) : Nat :=
  (c.days - Calendar.days c.year 1 1).toNat

/-- The week of the year, where weeks start with the given day. The days before the first such day
are in week zero. -/
def week (c : Civil) (start : Nat) : Nat :=
  (c.dayOfYear + 7 - (c.weekday + 7 - start) % 7) / 7

/-- The year and the week by the rule that the first week is the one with the first Thursday. -/
def isoWeek (c : Civil) : Int × Nat :=
  let thursday := c.days - ((c.weekday : Int) + 6) % 7 + 3
  let year := (Calendar.dateOf thursday).1
  (year, ((thursday - Calendar.days year 1 1) / 7).toNat + 1)

/-- Whether a date and a time of day exist. -/
def isValid (c : Civil) : Bool :=
  1 ≤ c.month && c.month ≤ 12 && 1 ≤ c.day && c.day ≤ Calendar.daysIn c.year c.month &&
    c.hour ≤ 23 && c.minute ≤ 59 && c.second ≤ 60

end Civil

end BoardBind.Script
