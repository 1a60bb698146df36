import BoardBind.Script.Calendar
import BoardBind.Script.Options

/-! # Dates as people write them

A date may be written in several ways, and it may be given by its distance from now. What is written
is cut into numbers, words and signs; these make up items such as a time of day, a date, a day of
the week, a zone or a distance, in any order.
-/

namespace BoardBind.Script

def monthNames : List String :=
  ["January", "February", "March", "April", "May", "June", "July", "August", "September",
    "October", "November", "December"]

def dayNames : List String :=
  ["Sunday", "Monday", "Tuesday", "Wednesday", "Thursday", "Friday", "Saturday"]

/-- A moment: seconds since the start of 1970 and nanoseconds after them. -/
structure Moment where
  seconds : Int
  nanoseconds : Nat := 0
  deriving DecidableEq

namespace Moment

def ofNanoseconds (n : Int) : Moment :=
  let seconds := n.fdiv 1000000000
  ⟨seconds, (n - seconds * 1000000000).toNat⟩

def total (m : Moment) : Int :=
  m.seconds * 1000000000 + m.nanoseconds

end Moment

/-- The place that a time is told at: its distance from the time of the whole world in seconds, and
its name. -/
structure Zone where
  offset : Int := 0
  name : String := "UTC"
  deriving DecidableEq

def clockSeconds (text : List Char) : Option Nat :=
  let parts := (text.splitOn ':').map fun part => natural? part
  match parts with
  | [some hours] =>
    if text.length ≤ 2 then some (hours * 3600)
    else if text.length = 4 || text.length = 3 then some (hours / 100 * 3600 + hours % 100 * 60)
    else none
  | [some hours, some minutes] => some (hours * 3600 + minutes * 60)
  | [some hours, some minutes, some seconds] => some (hours * 3600 + minutes * 60 + seconds)
  | _ => none

/-- The zone that the variable for it names: letters, and how far they are behind. -/
def zoneOf (setting? : Option (List Char)) : Zone :=
  match setting? with
  | none => {}
  | some text =>
    let name := text.takeWhile Char.isAlpha
    let (sign, rest) : Int × List Char := match text.drop name.length with
      | '-' :: rest => (1, rest)
      | '+' :: rest => (-1, rest)
      | rest => (-1, rest)
    if name.length < 3 then {}
    else
      match clockSeconds (rest.takeWhile fun c => c.isDigit || c = ':') with
      | some seconds => { offset := sign * seconds, name := String.ofList name }
      | none => if rest = [] && name ≠ "UTC".toList then { name := String.ofList name } else {}

/-- Something that is counted in a distance. -/
inductive TimeUnit where
  | seconds (n : Nat)
  | days (n : Nat)
  | months (n : Nat)

/-- What a word in a date means. -/
inductive DateWord where
  /-- The hours before noon, or those behind it. -/
  | half (isLate : Bool)
  | month (n : Nat)
  | weekday (n : Nat)
  /-- The distance of a zone in seconds. -/
  | zone (offset : Int)
  | summerTime
  | unit (u : TimeUnit)
  | ordinal (n : Int)
  | shift (days : Int)
  /-- Turns a distance back, or leaves it. -/
  | turn (sign : Int)
  /-- A letter that divides a date from a time, or names a zone. -/
  | divider

structure DateNumber where
  /-- Whether the number has a sign, so that it continues something. -/
  isSigned : Bool
  isNegative : Bool := false
  /-- The number without its sign. -/
  size : Nat
  digits : Nat
  /-- The nanoseconds behind a point, if there is one. -/
  fraction : Option Nat := none

/-- A part of a written date. -/
inductive DateToken where
  | number (n : DateNumber)
  | word (w : DateWord)
  | sign (c : Char)

def DateNumber.value (n : DateNumber) : Int :=
  if n.isNegative then -(n.size : Int) else n.size

/-- The zones that have names, with their distances in hours and minutes. -/
def zoneNames : List (String × Int) :=
  [("GMT", 0), ("UT", 0), ("UTC", 0), ("WET", 0), ("WEST", 100), ("BST", 100), ("ART", -300),
    ("BRT", -300), ("BRST", -200), ("NST", -330), ("NDT", -230), ("AST", -400), ("ADT", -300),
    ("CLT", -400), ("CLST", -300), ("EST", -500), ("EDT", -400), ("CST", -600), ("CDT", -500),
    ("MST", -700), ("MDT", -600), ("PST", -800), ("PDT", -700), ("AKST", -900), ("AKDT", -800),
    ("HST", -1000), ("HAST", -1000), ("HADT", -900), ("SST", -1200), ("WAT", 100), ("CET", 100),
    ("CEST", 200), ("MET", 100), ("MEZ", 100), ("MEST", 200), ("MESZ", 200), ("EET", 200),
    ("EEST", 300), ("CAT", 200), ("SAST", 200), ("EAT", 300), ("MSK", 300), ("MSD", 400),
    ("IST", 530), ("SGT", 800), ("KST", 900), ("JST", 900), ("GST", 1000), ("NZST", 1200),
    ("NZDT", 1300)]

/-- Seconds of a distance in hours and minutes that is written as one number. -/
def clockOffset (n : Int) : Int :=
  (n.tdiv 100 * 60 + n.tmod 100) * 60

def namedZone? (word : List Char) : Option DateWord :=
  (zoneNames.lookup (String.ofList word)).map fun n => .zone (clockOffset n)

def timeUnit? (word : List Char) : Option TimeUnit :=
  match String.ofList word with
  | "YEAR" => some (.months 12)
  | "MONTH" => some (.months 1)
  | "FORTNIGHT" => some (.days 14)
  | "WEEK" => some (.days 7)
  | "DAY" => some (.days 1)
  | "HOUR" => some (.seconds 3600)
  | "MINUTE" => some (.seconds 60)
  | "MIN" => some (.seconds 60)
  | "SECOND" => some (.seconds 1)
  | "SEC" => some (.seconds 1)
  | _ => none

def relativeWord? (word : List Char) : Option DateWord :=
  match String.ofList word with
  | "TOMORROW" => some (.shift 1)
  | "YESTERDAY" => some (.shift (-1))
  | "TODAY" => some (.shift 0)
  | "NOW" => some (.shift 0)
  | "LAST" => some (.ordinal (-1))
  | "THIS" => some (.ordinal 0)
  | "NEXT" => some (.ordinal 1)
  | "FIRST" => some (.ordinal 1)
  | "THIRD" => some (.ordinal 3)
  | "FOURTH" => some (.ordinal 4)
  | "FIFTH" => some (.ordinal 5)
  | "SIXTH" => some (.ordinal 6)
  | "SEVENTH" => some (.ordinal 7)
  | "EIGHTH" => some (.ordinal 8)
  | "NINTH" => some (.ordinal 9)
  | "TENTH" => some (.ordinal 10)
  | "ELEVENTH" => some (.ordinal 11)
  | "TWELFTH" => some (.ordinal 12)
  | "AGO" => some (.turn (-1))
  | "HENCE" => some (.turn 1)
  | _ => none

/-- The zones of single letters: to the east from A, to the west from N. -/
def letterZone? : List Char → Option DateWord
  | ['T'] => some .divider
  | ['Z'] => some (.zone 0)
  | [c] =>
    let hours : Option Int :=
      if 'A' ≤ c && c ≤ 'I' then some (c.toNat - 'A'.toNat + 1 : Nat)
      else if 'K' ≤ c && c ≤ 'M' then some (c.toNat - 'K'.toNat + 10 : Nat)
      else if 'N' ≤ c && c ≤ 'Y' then some (-(c.toNat - 'N'.toNat + 1 : Nat))
      else none
    hours.map fun n => .zone (n * 3600)
  | _ => none

/-- The place of a word in a list of names, of which three letters are enough. -/
def nameIndex? (names : List String) (word : List Char) : Option Nat :=
  let isShort := word.length = 3 || (word.length = 4 && word.getLast? = some '.')
  names.findIdx? fun name =>
    let name := name.toList.map Char.toUpper
    if isShort then name.take 3 = word.take 3 else name = word

/-- The month or the day of the week that a word means. -/
def calendarWord? (word : List Char) : Option DateWord :=
  match nameIndex? monthNames word, nameIndex? dayNames word, String.ofList word with
  | some n, _, _ => some (.month (n + 1))
  | none, some n, _ => some (.weekday n)
  | none, none, "SEPT" => some (.month 9)
  | none, none, "TUES" => some (.weekday 2)
  | none, none, "WEDNES" => some (.weekday 3)
  | none, none, "THUR" => some (.weekday 4)
  | none, none, "THURS" => some (.weekday 4)
  | none, none, _ => none

def dateWord? (written : List Char) : Option DateWord :=
  let word := written.map Char.toUpper
  let plain := word.filter (· ≠ '.')
  let meridian := match String.ofList word with
    | "AM" => some (DateWord.half false)
    | "A.M." => some (.half false)
    | "PM" => some (.half true)
    | "P.M." => some (.half true)
    | _ => none
  let single := if word.getLast? = some 'S' then word.dropLast else word
  meridian.or <| (calendarWord? word).or <| (namedZone? word).or <|
    (if word = "DST".toList then some .summerTime else none).or <|
    ((timeUnit? word).map DateWord.unit).or <| ((timeUnit? single).map DateWord.unit).or <|
    (relativeWord? word).or <| (letterZone? word).or <| namedZone? plain

/-- The number of nanoseconds that digits behind a point mean. -/
def nanosecondsOf (digits : List Char) : Nat :=
  Arithmetic.ofDigits 10 ((digits ++ List.replicate 9 '0').take 9)

/-- What is left behind a remark in round brackets, which may hold others. -/
def behindRemark : Nat → List Char → List Char
  | _, [] => []
  | depth, '(' :: rest => behindRemark (depth + 1) rest
  | depth, ')' :: rest => if depth ≤ 1 then rest else behindRemark (depth - 1) rest
  | depth, _ :: rest => behindRemark depth rest

/-- Cuts a date into its parts; there are none if a word means nothing. -/
def dateTokens : Nat → List Char → Option (List DateToken)
  | 0, _ => none
  | _ + 1, [] => some []
  | fuel + 1, c :: rest =>
    let isSign := c = '-' || c = '+'
    let behind := if isSign then rest.dropWhile Arithmetic.isBlankChar else c :: rest
    if Arithmetic.isBlankChar c then dateTokens fuel rest
    else if c.isDigit || isSign then
      let digits := behind.takeWhile Char.isDigit
      let after := behind.drop digits.length
      let places := (after.drop 1).takeWhile Char.isDigit
      if digits = [] then dateTokens fuel behind
      else
        let hasFraction := (after.head? = some '.' || after.head? = some ',') && places ≠ []
        let number : DateNumber := {
          isSigned := isSign, isNegative := c = '-', size := Arithmetic.ofDigits 10 digits
          digits := digits.length
          fraction := if hasFraction then some (nanosecondsOf places) else none }
        let left := if hasFraction then after.drop (places.length + 1) else after
        (dateTokens fuel left).map (.number number :: ·)
    else if c.isAlpha then
      let word := (c :: rest).takeWhile fun c => c.isAlpha || c = '.'
      match dateWord? word, dateTokens fuel ((c :: rest).drop word.length) with
      | some meaning, some tokens => some (.word meaning :: tokens)
      | _, _ => none
    else if c = '(' then dateTokens fuel (behindRemark 0 (c :: rest))
    else (dateTokens fuel rest).map (.sign c :: ·)

/-- What has been read of a date. -/
structure DateParts where
  /-- The year with the number of its digits, the month and the day. -/
  year : Option (Nat × Nat) := none
  day : Option (Nat × Nat) := none
  dates : Nat := 0
  /-- Hours, minutes, seconds and nanoseconds. -/
  time : Nat × Nat × Nat × Nat := (0, 0, 0, 0)
  isLate : Option Bool := none
  times : Nat := 0
  /-- A day of the week, and how many of these to go on. -/
  weekday : Nat × Int := (0, 0)
  weekdays : Nat := 0
  zone : Int := 0
  zones : Nat := 0
  months : Int := 0
  days : Int := 0
  nanoseconds : Int := 0
  hasDistance : Bool := false

namespace DateParts

def move (p : DateParts) (count : Int) (u : TimeUnit) : DateParts :=
  let p := { p with hasDistance := true }
  match u with
  | .seconds n => { p with nanoseconds := p.nanoseconds + count * n * 1000000000 }
  | .days n => { p with days := p.days + count * n }
  | .months n => { p with months := p.months + count * n }

def withDate (p : DateParts) (year : Option DateNumber) (month day : Nat) : DateParts :=
  { p with
    year := (year.map fun n => (n.size, n.digits)).or p.year
    day := some (month, day), dates := p.dates + 1 }

def withTime (p : DateParts) (hour minute second nanosecond : Nat) (isLate : Option Bool) :
    DateParts :=
  { p with time := (hour, minute, second, nanosecond), isLate, times := p.times + 1 }

def withZone (p : DateParts) (offset : Int) : DateParts :=
  { p with zone := offset, zones := p.zones + 1 }

/-- Takes a number that stands alone: a year behind a date without one, a date of digits, or a time
of day. -/
def withNumber (p : DateParts) (n : DateNumber) : DateParts :=
  if p.dates ≠ 0 && p.year.isNone && !p.hasDistance && (p.times ≠ 0 || 2 < n.digits) then
    { p with year := some (n.size, n.digits) }
  else if 4 < n.digits then
    { p with
      year := some (n.size / 10000, n.digits - 4)
      day := some (n.size / 100 % 100, n.size % 100), dates := p.dates + 1 }
  else if n.digits ≤ 2 then p.withTime n.size 0 0 0 none
  else p.withTime (n.size / 100) (n.size % 100) 0 0 none

end DateParts

/-- The distance of a zone that a number with a sign writes, with minutes behind a colon or not. -/
def writtenOffset? (n : DateNumber) (minutes : Option Nat) : Option Int :=
  let sign : Int := if n.isNegative then -1 else 1
  let total := match minutes with
    | some minutes => n.size * 60 + minutes
    | none => if n.digits ≤ 2 then n.size * 60 else n.size / 100 * 60 + n.size % 100
  if 24 * 60 < total then none else some (sign * total * 60)

/-- Reads the distance of a zone behind a time of day, if one is written there. -/
def zoneBehind (p : DateParts) : List DateToken → Option (DateParts × List DateToken)
  | .number n :: .sign ':' :: .number m :: rest =>
    if !n.isSigned then some (p, .number n :: .sign ':' :: .number m :: rest)
    else if m.isSigned then none
    else (writtenOffset? n (some m.size)).map fun offset => (p.withZone offset, rest)
  | .number n :: rest =>
    if n.isSigned && n.fraction.isNone then
      (writtenOffset? n none).map fun offset => (p.withZone offset, rest)
    else some (p, .number n :: rest)
  | rest => some (p, rest)

def timeBehind (p : DateParts) (hour : Nat) :
    List DateToken → Option (DateParts × List DateToken)
  | .number m :: .sign ':' :: .number s :: rest =>
    if m.isSigned || s.isSigned || m.fraction.isSome then none
    else
      let timed := p.withTime hour m.size s.size (s.fraction.getD 0)
      match rest with
      | .word (.half isLate) :: rest => some (timed (some isLate), rest)
      | rest => zoneBehind (timed none) rest
  | .number m :: rest =>
    if m.isSigned || m.fraction.isSome then none
    else
      let timed := p.withTime hour m.size 0 0
      match rest with
      | .word (.half isLate) :: rest => some (timed (some isLate), rest)
      | rest => zoneBehind (timed none) rest
  | _ => none

/-- Goes a distance on, or back if the next word turns it. -/
def moveBehind (p : DateParts) (count : Int) (u : TimeUnit) :
    List DateToken → DateParts × List DateToken
  | .word (.turn sign) :: rest => (p.move (sign * count) u, rest)
  | rest => (p.move count u, rest)

/-- Goes on a number of seconds with a fraction, or back if the next word turns it. -/
def moveFraction (p : DateParts) (n : DateNumber) : List DateToken → DateParts × List DateToken
  | rest =>
    let size : Int := n.size * 1000000000 + n.fraction.getD 0
    let moved := fun sign : Int =>
      { p with
        hasDistance := true
        nanoseconds := p.nanoseconds + sign * (if n.isNegative then -size else size) }
    match rest with
    | .word (.turn sign) :: rest => (moved sign, rest)
    | rest => (moved 1, rest)

def numberItem (p : DateParts) (n : DateNumber) :
    List DateToken → Option (DateParts × List DateToken)
  | .word (.half isLate) :: rest => some (p.withTime n.size 0 0 0 (some isLate), rest)
  | .sign ':' :: rest => timeBehind p n.size rest
  | .sign '/' :: .number a :: .sign '/' :: .number b :: rest =>
    if a.isSigned || b.isSigned then none
    else if 4 ≤ n.digits then some (p.withDate (some n) a.size b.size, rest)
    else some (p.withDate (some b) n.size a.size, rest)
  | .sign '/' :: .number a :: rest =>
    if a.isSigned then none else some (p.withDate none n.size a.size, rest)
  | .word (.month month) :: .number y :: rest =>
    if y.isSigned && !y.isNegative then none
    else some (p.withDate (some y) month n.size, rest)
  | .word (.month month) :: rest => some (p.withDate none month n.size, rest)
  | .word (.weekday day) :: rest =>
    some ({ p with weekday := (day, n.size), weekdays := p.weekdays + 1 }, rest)
  | .word (.unit u) :: rest => some (moveBehind p n.size u rest)
  | .number m :: rest =>
    if !m.isSigned || m.fraction.isSome then some (p.withNumber n, .number m :: rest)
    else
      match rest with
      | .number d :: rest =>
        if !d.isSigned || !m.isNegative || !d.isNegative then none
        else
          let dated := p.withDate (some n) m.size d.size
          match rest with
          | .word .divider :: .number hour :: .sign ':' :: rest =>
            if hour.isSigned then none else timeBehind dated hour.size rest
          | .word .divider :: .number hour :: .number offset :: rest =>
            if hour.isSigned || !offset.isSigned then none
            else zoneBehind (dated.withTime hour.size 0 0 0 none) (.number offset :: rest)
          | rest => some (dated, rest)
      | .word (.unit u) :: rest =>
        some (moveBehind (p.withNumber n) m.value u rest)
      | rest => zoneBehind (p.withTime n.size 0 0 0 none) (.number m :: rest)
  | rest => some (p.withNumber n, rest)

def dateItem (p : DateParts) : List DateToken → Option (DateParts × List DateToken)
  | .number n :: rest =>
    match n.fraction, rest with
    | some _, .word (.unit (.seconds 1)) :: rest => some (moveFraction p n rest)
    | some _, _ => none
    | none, .word (.unit u) :: rest => some (moveBehind p n.value u rest)
    | none, rest => if n.isSigned then none else numberItem p n rest
  | .word (.weekday day) :: rest =>
    let dated := { p with weekday := (day, 0), weekdays := p.weekdays + 1 }
    match rest with
    | .sign ',' :: rest => some (dated, rest)
    | rest => some (dated, rest)
  | .word (.ordinal n) :: .word (.weekday day) :: rest =>
    some ({ p with weekday := (day, n), weekdays := p.weekdays + 1 }, rest)
  | .word (.ordinal n) :: .word (.unit u) :: rest => some (moveBehind p n u rest)
  | .word (.unit u) :: rest => some (moveBehind p 1 u rest)
  | .word (.shift days) :: rest =>
    some ({ p with days := p.days + days, hasDistance := true }, rest)
  | .word (.month month) :: .number a :: .number b :: rest =>
    if a.isSigned && b.isSigned then
      if a.isNegative && b.isNegative then some (p.withDate (some b) month a.size, rest) else none
    else if a.isSigned then none
    else some (p.withDate none month a.size, .number b :: rest)
  | .word (.month month) :: .number a :: .sign ',' :: .number b :: rest =>
    if a.isSigned || b.isSigned then none else some (p.withDate (some b) month a.size, rest)
  | .word (.month month) :: .number a :: rest =>
    if a.isSigned then none else some (p.withDate none month a.size, rest)
  | .word (.zone offset) :: .word .summerTime :: rest => some (p.withZone (offset + 3600), rest)
  | .word (.zone offset) :: .number n :: rest =>
    let zoned := p.withZone offset
    if !n.isSigned then some (zoned, .number n :: rest)
    else
      match rest with
      | .word (.unit u) :: rest => some (moveBehind zoned n.value u rest)
      | .sign ':' :: .number m :: rest =>
        (writtenOffset? n (some m.size)).map fun more => (p.withZone (offset + more), rest)
      | rest => (writtenOffset? n none).map fun more => (p.withZone (offset + more), rest)
  | .word (.zone offset) :: rest => some (p.withZone offset, rest)
  | .word .divider :: rest => some (p.withZone (-7 * 3600), rest)
  | _ => none

def readDate : Nat → DateParts → List DateToken → Option DateParts
  | 0, _, _ => none
  | _ + 1, p, [] => some p
  | fuel + 1, p, tokens => (dateItem p tokens).bind fun (p, rest) => readDate fuel p rest

def fullYear (year digits : Nat) : Nat :=
  if digits = 2 then (if year < 69 then 2000 + year else 1900 + year) else year

def hourOfDay? (hour : Nat) : Option Bool → Option Nat
  | none => if hour ≤ 23 then some hour else none
  | some isLate =>
    if hour = 0 || 12 < hour then none
    else some (hour % 12 + if isLate then 12 else 0)

/-- The moment that the parts of a date mean, seen from now, unless there is none. -/
def DateParts.moment? (p : DateParts) (zone : Zone) (now : Moment) : Option Moment :=
  if 1 < p.times || 1 < p.dates || 1 < p.weekdays || 1 < p.zones then none
  else do
    let here := Civil.ofSeconds (now.seconds + zone.offset)
    let keepsTime := p.times = 0 && p.hasDistance && p.dates = 0 && p.weekdays = 0
    let (hour, minute, second, nanosecond) ←
      if keepsTime then some (here.hour, here.minute, here.second, now.nanoseconds)
      else if p.times = 0 then some (0, 0, 0, 0)
      else (hourOfDay? p.time.1 p.isLate).map fun hour => (hour, p.time.2)
    let year : Int := p.year.elim here.year fun (year, digits) => fullYear year digits
    let (month, day) := p.day.getD (here.month, here.day)
    let civil : Civil := { year, month, day, hour, minute, second }
    if !civil.isValid || second = 60 then none
    let ahead : Int := ((p.weekday.1 + 7 - civil.weekday) % 7 : Nat)
    let isLater := 0 < p.weekday.2 && civil.weekday ≠ p.weekday.1
    let named := if p.weekdays = 0 || p.dates ≠ 0 then 0
      else ahead + 7 * (p.weekday.2 - (if isLater then 1 else 0))
    let start := Calendar.dateOf (civil.days + named)
    let months := start.1 * 12 + (start.2.1 : Int) - 1 + p.months
    let days := Calendar.days (months.fdiv 12) ((months % 12).toNat + 1) 1 +
      (start.2.2 : Int) - 1 + p.days
    let offset := if p.zones = 0 then zone.offset else p.zone
    let seconds := days * Calendar.daySeconds + (hour * 3600 + minute * 60 + second : Nat) - offset
    return .ofNanoseconds (seconds * 1000000000 + nanosecond + p.nanoseconds)

/-- The moment of a number of seconds, which may have a fraction. -/
def secondsMoment? (text : List Char) : Option Moment :=
  match dateTokens (text.length + 1) text with
  | some [.number n] =>
    let size : Int := n.size * 1000000000 + n.fraction.getD 0
    some (.ofNanoseconds (if n.isNegative then -size else size))
  | _ => none

/-- The zone that is written in front of a date, and the date. -/
def zonedText (zone : Zone) (text : List Char) : Zone × List Char :=
  let mark := "TZ=\"".toList
  let inner := text.drop mark.length
  if mark.isPrefixOf text && inner.contains '"' then
    (zoneOf (some (inner.takeWhile (· ≠ '"'))), (inner.dropWhile (· ≠ '"')).drop 1)
  else (zone, text)

def momentOf? (zone : Zone) (now : Moment) (text : List Char) : Option Moment :=
  let (zone, text) := zonedText zone (text.dropWhile Arithmetic.isBlankChar)
  match text.dropWhile Arithmetic.isBlankChar with
  | '@' :: number => secondsMoment? number
  | text => do
    let tokens ← dateTokens (text.length + 1) text
    let parts ← readDate (tokens.length + 1) {} tokens
    parts.moment? zone now

end BoardBind.Script
