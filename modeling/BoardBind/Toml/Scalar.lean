import BoardBind.Text.Match
import BoardBind.Toml.Value

/-! # Scalars of a TOML document

Strings in their four forms, integers, floating-point numbers, booleans, dates and times. Each
reader consumes its value at the front of a text and returns what remains.
-/

namespace BoardBind.Toml

open Text

/-- Whether a character may stand in a comment or a string: control characters other than the
tab may not. -/
def isAllowed (c : Char) : Bool :=
  c = '\t' || (' ' ≤ c && c ≠ '\x7f')

/-- What remains behind a line end. -/
def newline : List Char → Option (List Char)
  | '\n' :: text => some text
  | '\r' :: '\n' :: text => some text
  | _ => none

/-- Blanks within a line. -/
def isSpace (c : Char) : Bool :=
  c = ' ' || c = '\t'

/-- Drops blanks within a line. -/
def skipSpaces (text : List Char) : List Char :=
  text.dropWhile isSpace

def hexDigit? (c : Char) : Option Nat :=
  if c.isDigit then some (c.toNat - '0'.toNat)
  else if 'a' ≤ c ∧ c ≤ 'f' then some (c.toNat - 'a'.toNat + 10)
  else if 'A' ≤ c ∧ c ≤ 'F' then some (c.toNat - 'A'.toNat + 10)
  else none

/-- The character of the number written in the first `count` hexadecimal digits. -/
def unicode (count : Nat) (text : List Char) : Option (Char × List Char) := do
  let digits ← (text.take count).mapM hexDigit?
  if digits.length ≠ count then none
  let value := digits.foldl (fun value d => 16 * value + d) 0
  if value.isValidChar then some (Char.ofNat value, text.drop count) else none

/-- The character that an escape stands for, read behind the backslash. -/
def escape : List Char → Option (Char × List Char)
  | 'b' :: text => some ('\x08', text)
  | 't' :: text => some ('\t', text)
  | 'n' :: text => some ('\n', text)
  | 'f' :: text => some ('\x0c', text)
  | 'r' :: text => some ('\r', text)
  | '"' :: text => some ('"', text)
  | '\\' :: text => some ('\\', text)
  | 'u' :: text => unicode 4 text
  | 'U' :: text => unicode 8 text
  | _ => none

/-- The rest of a string on one line, up to its closing quote. -/
def lineBody (quote : Char) : Nat → List Char → Option (List Char × List Char)
  | 0, _ => none
  | _, [] => none
  | fuel + 1, c :: text =>
    if c = quote then some ([], text)
    else if c = '\\' && quote = '"' then do
      let (c, text) ← escape text
      let (body, text) ← lineBody quote fuel text
      return (c :: body, text)
    else if isAllowed c then do
      let (body, text) ← lineBody quote fuel text
      return (c :: body, text)
    else none

def skipBlankLines : Nat → List Char → List Char
  | 0, text => text
  | fuel + 1, text =>
    match newline (skipSpaces text) with
    | some text => skipBlankLines fuel text
    | none => skipSpaces text

/-- The rest of a string over several lines, up to three closing quotes. Up to two further quotes
in front of these belong to the string, a line end is a newline however it is written, and a
backslash at the end of a line drops the blanks and line ends behind it. -/
def blockBody (quote : Char) : Nat → List Char → Option (List Char × List Char)
  | 0, _ => none
  | _, [] => none
  | fuel + 1, c :: text =>
    if c = quote then
      let count := ((c :: text).takeWhile (· = quote)).length
      let kept := if count < 3 then count else min (count - 3) 2
      if count < 3 then do
        let (body, text) ← blockBody quote fuel ((c :: text).drop count)
        return (List.replicate kept quote ++ body, text)
      else some (List.replicate kept quote, (c :: text).drop (kept + 3))
    else if c = '\\' && quote = '"' then
      match newline (skipSpaces text) with
      | some text => blockBody quote fuel (skipBlankLines text.length text)
      | none => do
        let (c, text) ← escape text
        let (body, text) ← blockBody quote fuel text
        return (c :: body, text)
    else
      match newline (c :: text) with
      | some text => do
        let (body, text) ← blockBody quote fuel text
        return ('\n' :: body, text)
      | none =>
        if isAllowed c then do
          let (body, text) ← blockBody quote fuel text
          return (c :: body, text)
        else none

/-- A string on one line, whose opening quote has been read. -/
def lineString (quote : Char) (text : List Char) : Option (String × List Char) := do
  let (body, text) ← lineBody quote text.length text
  return (String.ofList body, text)

/-- A string over several lines, whose opening quotes have been read. A line end right behind
them is dropped. -/
def blockString (quote : Char) (text : List Char) : Option (String × List Char) := do
  let text := (newline text).getD text
  let (body, text) ← blockBody quote text.length text
  return (String.ofList body, text)

/-- A run of digits in which single underscores stand between digits only. -/
def digitRun (isDigit : Char → Bool) : List Char → Option (List Char)
  | [c] => if isDigit c then some [c] else none
  | c :: '_' :: rest => if isDigit c then (digitRun isDigit rest).map (c :: ·) else none
  | c :: rest => if isDigit c then (digitRun isDigit rest).map (c :: ·) else none
  | [] => none

/-- Digits without a zero in front, unless it is the only one. -/
def plainDigits (written : List Char) : Option (List Char) :=
  match digitRun Char.isDigit written with
  | some ('0' :: _ :: _) => none
  | found => found

def inRange (value : Int) : Option Int :=
  if -0x8000000000000000 ≤ value ∧ value ≤ 0x7fffffffffffffff then some value else none

def baseValue (base : Nat) (written : List Char) : Option Int := do
  let digits ← digitRun (fun c => (hexDigit? c).any (· < base)) written
  let values ← digits.mapM hexDigit?
  inRange (values.foldl (fun value d => base * value + d) 0 : Nat)

/-- An integer in decimal, hexadecimal, octal or binary digits. -/
def integer? : List Char → Option Int
  | '0' :: 'x' :: digits => baseValue 16 digits
  | '0' :: 'o' :: digits => baseValue 8 digits
  | '0' :: 'b' :: digits => baseValue 2 digits
  | '-' :: digits => do inRange (-(digitsValue (← plainDigits digits) 0 : Int))
  | '+' :: digits => do inRange (digitsValue (← plainDigits digits) 0)
  | digits => do inRange (digitsValue (← plainDigits digits) 0)

def unsigned : List Char → List Char
  | '+' :: text => text
  | '-' :: text => text
  | text => text

/-- The value of an exponent behind its mark. -/
def exponent? (text : List Char) : Option Int := do
  let digits ← digitRun Char.isDigit (unsigned text)
  let value : Int := digitsValue digits 0
  return if text.head? = some '-' then -value else value

/-- The digits of a floating-point number and the power of ten that their value is scaled by. -/
def floatParts? (text : List Char) : Option (List Char × Int) :=
  let isMark := fun c : Char => c = 'e' || c = 'E'
  let whole := text.takeWhile fun c => c ≠ '.' && !isMark c
  match text.drop whole.length with
  | '.' :: rest => do
    let places := rest.takeWhile fun c => !isMark c
    let digits ← plainDigits whole
    let decimals ← digitRun Char.isDigit places
    let exponent ←
      match rest.drop places.length with
      | [] => some 0
      | _ :: exponent => exponent? exponent
    return (digits ++ decimals, exponent - decimals.length)
  | _ :: exponent => do return (← plainDigits whole, ← exponent? exponent)
  | [] => none

/-- The least number that is rounded to infinity instead of a number of 64 bits. -/
def floatLimit : Nat :=
  1 <<< 1024 - 1 <<< 970

/-- Whether the value of digits, scaled by a power of ten, is rounded to infinity. The number of
places in front of the decimal point decides unless it is close to that of the limit, 309. -/
def isInfinite (digits : List Char) (exponent : Int) : Bool :=
  let digits := digits.dropWhile (· = '0')
  let places := exponent + digits.length
  if digits = [] || places < 300 then false
  else if 320 < places then true
  else floatLimit * Nat.pow 10 (-exponent).toNat ≤
    digitsValue digits 0 * Nat.pow 10 exponent.toNat

/-- Whether a text is a floating-point number. A positive number must not be too large, but a
negative one may be. -/
def isFloat (written : List Char) : Bool :=
  let text := unsigned written
  if text = ['i', 'n', 'f'] || text = ['n', 'a', 'n'] then true
  else
    match floatParts? text with
    | some (digits, exponent) => written.head? = some '-' || !isInfinite digits exponent
    | none => false

/-- The value of exactly `count` digits and what remains behind them. -/
def fixedDigits (count : Nat) (text : List Char) : Option (Nat × List Char) :=
  let digits := text.take count
  if digits.length = count && digits.all Char.isDigit then
    some (digitsValue digits 0, text.drop count)
  else none

/-- A date as it is written, and what remains behind it. Every month may have 31 days. -/
def date (text : List Char) : Option (List Char × List Char) := do
  let (_, rest) ← fixedDigits 4 text
  let (month, rest) ← fixedDigits 2 (← literal ['-'] rest)
  let (day, rest) ← fixedDigits 2 (← literal ['-'] rest)
  if 1 ≤ month ∧ month ≤ 12 ∧ 1 ≤ day ∧ day ≤ 31 then some (text.take 10, rest) else none

/-- A fraction of a second: nine decimals count, and zeros at their end are left out. -/
def fraction (decimals : List Char) : List Char :=
  match ((decimals.take 9).reverse.dropWhile (· = '0')).reverse with
  | [] => []
  | kept => '.' :: kept

/-- A time of day as it is written out, and what remains behind it. -/
def time (text : List Char) : Option (List Char × List Char) := do
  let (hour, rest) ← fixedDigits 2 text
  let (minute, rest) ← fixedDigits 2 (← literal [':'] rest)
  let (second, rest) ← fixedDigits 2 (← literal [':'] rest)
  if 24 ≤ hour ∨ 60 ≤ minute ∨ 61 ≤ second then none
  match rest with
  | '.' :: rest => do
    let (decimals, rest) ← run Char.isDigit rest
    return (text.take 8 ++ fraction decimals, rest)
  | rest => return (text.take 8, rest)

/-- An offset from universal time as it is written out, or nothing. No offset is negative. -/
def offset : List Char → Option (List Char)
  | [] => some []
  | [c] => if c = 'Z' || c = 'z' then some ['Z'] else none
  | c :: written => do
    if c ≠ '+' ∧ c ≠ '-' then none
    let (hour, rest) ← fixedDigits 2 written
    let (minute, rest) ← fixedDigits 2 (← literal [':'] rest)
    if 24 ≤ hour ∨ 60 ≤ minute ∨ rest ≠ [] then none
    return (if hour = 0 ∧ minute = 0 then '+' else c) :: written

/-- A date, a time, or both with an offset, as it is written out. -/
def dateTime? (text : List Char) : Option (List Char) :=
  match date text with
  | some (day, []) => some day
  | some (day, c :: rest) => do
    if c ≠ 'T' ∧ c ≠ 't' ∧ c ≠ ' ' then none
    let (clock, rest) ← time rest
    return day ++ 'T' :: clock ++ (← offset rest)
  | none => do
    let (clock, rest) ← time text
    if rest = [] then some clock else none

def isScalarChar (c : Char) : Bool :=
  c.isAlphanum || c = '_' || c = '+' || c = '-' || c = '.' || c = ':'

/-- The text of a scalar without quotes; a date and a time may be separated by one blank. -/
def scalarText (text : List Char) : List Char × List Char :=
  let first := text.takeWhile isScalarChar
  let rest := text.dropWhile isScalarChar
  match rest with
  | ' ' :: c :: more =>
    if (date first).any (·.2 = []) && c.isDigit then
      (first ++ ' ' :: (c :: more).takeWhile isScalarChar, (c :: more).dropWhile isScalarChar)
    else (first, rest)
  | _ => (first, rest)

/-- A number, date or boolean. -/
def scalar (text : List Char) : Option (Value × List Char) :=
  let (written, rest) := scalarText text
  let value :=
    if written = "true".toList then some (.boolean true)
    else if written = "false".toList then some (.boolean false)
    else
      match dateTime? written with
      | some instant => some (.dateTime (String.ofList instant))
      | none =>
        if isFloat written then some (.float (String.ofList written))
        else (integer? written).map .integer
  value.map fun value => (value, rest)

end BoardBind.Toml
