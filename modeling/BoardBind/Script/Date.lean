import BoardBind.Script.WrittenDate

/-! # Dates as programs print them

A format says how a moment is printed.
-/

namespace BoardBind.Script

def filledNumber (width : Nat) (pad : Char) (n : Int) : List Char :=
  let digits := (toString n.natAbs).toList
  let sign := if n < 0 then ['-'] else []
  sign ++ List.replicate (width - digits.length - sign.length) pad ++ digits

def zoneText (offset : Int) (colons : Nat) : List Char :=
  let size := offset.natAbs
  let sign := if offset < 0 then '-' else '+'
  let part := fun n : Nat => filledNumber 2 '0' n
  let hours := part (size / 3600)
  let minutes := part (size / 60 % 60)
  match colons with
  | 0 => sign :: hours ++ minutes
  | 1 => sign :: hours ++ ':' :: minutes
  | 2 => sign :: hours ++ ':' :: minutes ++ ':' :: part (size % 60)
  | _ =>
    if size % 60 ≠ 0 then sign :: hours ++ ':' :: minutes ++ ':' :: part (size % 60)
    else if size / 60 % 60 ≠ 0 then sign :: hours ++ ':' :: minutes
    else sign :: hours

/-- How a part of a date is laid out: its least width, what it is filled with, and letters. -/
structure DateLayout where
  fill : Option Char := none
  width : Option Nat := none
  isUpper : Bool := false
  isSwapped : Bool := false

namespace DateLayout

def number (l : DateLayout) (width : Nat) (pad : Char) (n : Int) : List Char :=
  match l.fill with
  | some '-' => (toString n).toList
  | some '_' => filledNumber (l.width.getD width) ' ' n
  | some c => filledNumber (l.width.getD width) (if c = '+' then '0' else c) n
  | none => filledNumber (l.width.getD width) pad n

def text (l : DateLayout) (value : String) : List Char :=
  let value := if l.isUpper || l.isSwapped then value.toList.map Char.toUpper else value.toList
  let pad := if l.fill = some '0' then '0' else ' '
  List.replicate (l.width.getD 0 - value.length) pad ++ value

/-- The digits behind a point, as many as the width asks for. -/
def fraction (l : DateLayout) (nanoseconds : Nat) : List Char :=
  let digits := (filledNumber 9 '0' nanoseconds).take (l.width.getD 9)
  let more := List.replicate (l.width.getD 9 - 9) '0'
  let shown := match digits with
    | first :: rest =>
      let kept := (rest.reverse.dropWhile (· = '0')).reverse
      if l.fill = some '_' then
        first :: kept ++ List.replicate (rest.length - kept.length + more.length) ' '
      else digits ++ more
    | [] => []
  shown

end DateLayout

def dateText (zone : Zone) (m : Moment) : Nat → List Char → List Char
  | 0, _ => []
  | _, [] => []
  | fuel + 1, '%' :: rest =>
    let flags := rest.takeWhile (· ∈ ['-', '_', '0', '+', '^', '#'])
    let digits := (rest.drop flags.length).takeWhile Char.isDigit
    let behind := rest.drop (flags.length + digits.length)
    let colons := behind.takeWhile (· = ':')
    let behind := (behind.drop colons.length).dropWhile (· ∈ ['E', 'O'])
    let l : DateLayout := {
      fill := (flags.filter (· ∈ ['-', '_', '0', '+'])).getLast?
      width := if digits = [] then none else some (Arithmetic.ofDigits 10 digits)
      isUpper := flags.contains '^', isSwapped := flags.contains '#' }
    let c := Civil.ofSeconds (m.seconds + zone.offset)
    let hour12 := if c.hour % 12 = 0 then 12 else c.hour % 12
    let nested := fun format : String => dateText zone m fuel format.toList
    let padded := fun format : String =>
      { l with isSwapped := false }.text (String.ofList (nested format))
    let month := monthNames.getD (c.month - 1) ""
    let day := dayNames.getD c.weekday ""
    let short := fun name : String => l.text (String.ofList (name.toList.take 3))
    match behind with
    | [] => '%' :: rest
    | letter :: after =>
      let piece : Option (List Char) := match letter with
        | '%' => some ['%']
        | 'n' => some ['\n']
        | 't' => some ['\t']
        | 'Y' => some (l.number 4 '0' c.year)
        | 'C' => some (l.number 2 '0' (c.year.fdiv 100))
        | 'y' => some (l.number 2 '0' (c.year % 100))
        | 'm' => some (l.number 2 '0' c.month)
        | 'd' => some (l.number 2 '0' c.day)
        | 'e' => some (l.number 2 ' ' c.day)
        | 'H' => some (l.number 2 '0' c.hour)
        | 'I' => some (l.number 2 '0' hour12)
        | 'k' => some (l.number 2 ' ' c.hour)
        | 'l' => some (l.number 2 ' ' hour12)
        | 'M' => some (l.number 2 '0' c.minute)
        | 'S' => some (l.number 2 '0' c.second)
        | 'N' =>
          some (l.fraction m.nanoseconds)
        | 'q' => some (l.number 1 '0' (((c.month - 1) / 3 + 1 : Nat)))
        | 'j' => some (l.number 3 '0' (c.dayOfYear + 1 : Nat))
        | 'u' => some (l.number 1 '0' ((c.weekday + 6) % 7 + 1 : Nat))
        | 'w' => some (l.number 1 '0' c.weekday)
        | 'U' => some (l.number 2 '0' (c.week 0))
        | 'W' => some (l.number 2 '0' (c.week 1))
        | 'V' => some (l.number 2 '0' c.isoWeek.2)
        | 'G' => some (l.number 4 '0' c.isoWeek.1)
        | 'g' => some (l.number 2 '0' (c.isoWeek.1 % 100))
        | 's' => some (l.number 1 '0' m.seconds)
        | 'A' => some (l.text day)
        | 'a' => some (short day)
        | 'B' => some (l.text month)
        | 'b' => some (short month)
        | 'h' => some (short month)
        | 'p' =>
          let half := if c.hour < 12 then "AM" else "PM"
          some (if l.isSwapped then half.toList.map Char.toLower else l.text half)
        | 'P' => some (if c.hour < 12 then "am".toList else "pm".toList)
        | 'D' => some (padded "%m/%d/%y")
        | 'x' => some (padded "%m/%d/%y")
        | 'F' => some (padded "%Y-%m-%d")
        | 'T' => some (padded "%H:%M:%S")
        | 'X' => some (padded "%H:%M:%S")
        | 'R' => some (padded "%H:%M")
        | 'r' => some (padded "%I:%M:%S %p")
        | 'c' => some (padded "%a %b %e %H:%M:%S %Y")
        | 'z' => some (zoneText zone.offset colons.length)
        | 'Z' =>
          some (if l.isSwapped then zone.name.toList.map Char.toLower else l.text zone.name)
        | _ => none
      match piece with
      | some text => text ++ dateText zone m fuel after
      | none => '%' :: rest.take (rest.length - after.length) ++ dateText zone m fuel after
  | fuel + 1, c :: rest => c :: dateText zone m fuel rest

def formatMoment (zone : Zone) (m : Moment) (format : List Char) : List Char :=
  dateText zone m (format.length + 32) format

def Setting.now (s : Setting) : Moment :=
  .ofNanoseconds s.making.moment

def Setting.zone (s : Setting) : Zone :=
  zoneOf (s.environment.lookup "TZ".toList)

/-- The options of `date`. -/
def dateFlags : Flags where
  plain := "uR"
  valued := "drfs3"
  optional := "I"
  words := [("utc", 'u'), ("universal", 'u'), ("date", 'd'), ("reference", 'r'), ("file", 'f'),
    ("set", 's'), ("rfc-email", 'R'), ("iso-8601", 'I'), ("rfc-3339", '3')]

/-- The format of a date up to some unit, as one option asks for it. -/
def isoFormat? (unit : List Char) : Option String :=
  match String.ofList unit with
  | "" => some "%Y-%m-%d"
  | "date" => some "%Y-%m-%d"
  | "hours" => some "%Y-%m-%dT%H%:z"
  | "minutes" => some "%Y-%m-%dT%H:%M%:z"
  | "seconds" => some "%Y-%m-%dT%H:%M:%S%:z"
  | "ns" => some "%Y-%m-%dT%H:%M:%S,%N%:z"
  | _ => none

/-- The format of a date up to some unit, as another option asks for it. -/
def rfcFormat? (unit : List Char) : Option String :=
  match String.ofList unit with
  | "date" => some "%Y-%m-%d"
  | "seconds" => some "%Y-%m-%d %H:%M:%S%:z"
  | "ns" => some "%Y-%m-%d %H:%M:%S.%N%:z"
  | _ => none

def dateProgram : Utility := withOptions dateFlags 1 fun s o =>
  let zone := if o.has 'u' then {} else s.zone
  let format : Option (List Char) :=
    match o.operands, o.value? 'I', o.value? '3' with
    | ['+' :: format], _, _ => some format
    | [], some unit, _ => (isoFormat? unit).map String.toList
    | [], none, some unit => (rfcFormat? unit).map String.toList
    | [], none, none =>
      some (if o.has 'R' then "%a, %d %b %Y %H:%M:%S %z" else "%a %b %e %H:%M:%S %Z %Y").toList
    | _, _, _ => none
  let shown := fun (format : List Char) (m : Moment) => formatMoment zone m format ++ ['\n']
  match format with
  | none =>
    match o.operands with
    | [] => s.misused 1 "invalid argument".toList
    | [one] => s.failing 1 ("invalid date ".toList ++ inMarks one)
    | _ :: extra :: _ => s.misused 1 ("extra operand ".toList ++ inMarks extra)
  | some format =>
    let meant := fun text : List Char =>
      match momentOf? zone s.now text with
      | some m => { text := shown format m }
      | none => s.complaint ("invalid date ".toList ++ inMarks text)
    let shownAll := fun said : List Saying =>
      ({ said, status := if said.any (·.isComplaint) then 1 else 0 } : Effect)
    if 1 < (['d', 'r', 'f'].filter o.has).length then
      s.misused 1 "the options to specify dates for printing are mutually exclusive".toList
    else
      match o.value? 'd', o.value? 'r', o.value? 'f' with
      | some text, _, _ => shownAll [meant text]
      | none, some name, _ =>
        match s.disk.find (s.path name) with
        | .ok (place, _) => printing (shown format (.ofNanoseconds (s.disk.modifiedAt place)))
        | .error reason => s.failing 1 (name ++ ": ".toList ++ reason.reason.toList)
      | none, none, some name =>
        match s.read name with
        | .ok text =>
          { shownAll ((plainLines text).map meant) with
            left := if name = ['-'] then some [] else none }
        | .error reason => s.failing 1 (name ++ ": ".toList ++ reason.reason.toList)
      | none, none, none => printing (shown format s.now)

end BoardBind.Script
