import BoardBind.Script.Awk.Syntax
import BoardBind.Script.Awk.Value
import BoardBind.Script.Regex.Reader

/-! # Texts in programs for records

Texts are cut into fields and records, searched, changed in part, and laid out by formats.
-/

namespace BoardBind.Script.Awk

/-- The character of an escape in an expression, and what follows it. -/
def regexEscape : List Char → Char × List Char
  | [] => ('\\', [])
  | c :: rest =>
    let octal := ((c :: rest).take 3).takeWhile isOctal
    if octal ≠ [] then
      (Char.ofNat (Arithmetic.ofDigits 8 octal % 256), (c :: rest).drop octal.length)
    else ((textEscape? c).getD c, rest)

/-- A character that stands for itself outside of a set. -/
def plainSign (c : Char) : List Char :=
  if c ∈ ['.', '[', ']', '(', ')', '*', '+', '?', '|', '^', '$', '\\', '\x7b', '\x7d'] then
    ['\\', c]
  else [c]

def plainMember (c : Char) : List Char :=
  if c ∈ [']', '-', '^', '\\', '['] then ['[', '.', c, '.', ']'] else [c]

/-- An expression where escapes are replaced by the characters that they mean. -/
def plainRegex : Nat → RegexPlace → List Char → List Char
  | 0, _, text => text
  | _ + 1, _, [] => []
  | fuel + 1, .outside, '\\' :: rest =>
    let (c, left) := regexEscape rest
    plainSign c ++ plainRegex fuel .outside left
  | fuel + 1, place, '\\' :: rest =>
    let (c, left) := regexEscape rest
    plainMember c ++ plainRegex fuel place left
  | fuel + 1, .outside, '[' :: '^' :: ']' :: rest =>
    '[' :: '^' :: ']' :: plainRegex fuel .inSet rest
  | fuel + 1, .outside, '[' :: '^' :: rest => '[' :: '^' :: plainRegex fuel .inSet rest
  | fuel + 1, .outside, '[' :: ']' :: rest => '[' :: ']' :: plainRegex fuel .inSet rest
  | fuel + 1, .inSet, '[' :: ':' :: rest => '[' :: ':' :: plainRegex fuel .inClass rest
  | fuel + 1, .inClass, ':' :: ']' :: rest => ':' :: ']' :: plainRegex fuel .inSet rest
  | fuel + 1, place, c :: rest =>
    let next := match place, c with
      | .outside, '[' => .inSet
      | .inSet, ']' => .outside
      | place, _ => place
    c :: plainRegex fuel next rest

/-- What is wrong with an expression, if something is. On the way it is known whether an operand is
wanted, whether the start of a line was meant last, and how many parentheses are open. -/
def regexFault? (isWanted isFixed : Bool) (opened : Nat) :
    RegexPlace → List Char → Option String
  | .outside, [] =>
    if 0 < opened then some "missing ')'" else if isWanted then some "missing operand" else none
  | _, [] => some "bad class -- [], [^] or ["
  | .outside, '\\' :: _ :: rest => regexFault? false false opened .outside rest
  | .outside, '[' :: '^' :: ']' :: rest => regexFault? false false opened .inSet rest
  | .outside, '[' :: ']' :: rest => regexFault? false false opened .inSet rest
  | .outside, '[' :: rest => regexFault? false false opened .inSet rest
  | .inSet, '[' :: ':' :: rest => regexFault? false false opened .inClass rest
  | .inSet, ']' :: rest => regexFault? false false opened .outside rest
  | .inSet, _ :: rest => regexFault? false false opened .inSet rest
  | .inClass, ':' :: ']' :: rest => regexFault? false false opened .inSet rest
  | .inClass, _ :: rest => regexFault? false false opened .inClass rest
  | .outside, '(' :: ')' :: rest =>
    if isWanted then some "missing operand" else regexFault? false false opened .outside rest
  | .outside, '(' :: rest => regexFault? true false (opened + 1) .outside rest
  | .outside, ')' :: rest =>
    if opened = 0 then regexFault? false false 0 .outside rest
    else if isWanted then some "missing operand"
    else regexFault? false false (opened - 1) .outside rest
  | .outside, '|' :: rest =>
    if isWanted then some "missing operand" else regexFault? true false opened .outside rest
  | .outside, '^' :: rest => regexFault? false true opened .outside rest
  | .outside, '$' :: rest => regexFault? false isFixed opened .outside rest
  | .outside, c :: rest =>
    if c = '*' || c = '+' || c = '?' then
      if isWanted then some "missing operand"
      else if isFixed && c ≠ '?' then some "syntax error ^* or ^+"
      else regexFault? false false opened .outside rest
    else regexFault? false false opened .outside rest

/-- The expression that a text is, or what is wrong with it. -/
def readRegex (source : List Char) : Except String Regex :=
  let plain := plainRegex (source.length + 1) .outside source
  let writing : Regex.Writing :=
    { isExtended := true, isForgiving := true, isSparing := true, repeatsPlaces := true }
  match if plain = [] then none else regexFault? true false 0 .outside plain with
  | some fault => .error fault
  | none =>
    match Regex.read writing plain with
    | .ok r => .ok r.regex
    | .error .bounds => .error "bad interval expression"
    | .error _ => .error "syntax error"

def regexOf? (source : List Char) : Option Regex :=
  (readRegex source).toOption

/-- Where an expression is found first: how many characters stand before it, and how many fit. -/
def foundIn (r : Regex) (text : List Char) : Option (Nat × Nat) :=
  (r.search {} text).map fun (start, stop) =>
    (text.length - start.left, start.left - stop.left)

/-- What is put in for something that was found: a sign stands for what was found. -/
def replacement (found : List Char) : List Char → List Char
  | [] => []
  | '\\' :: '\\' :: '&' :: rest => '\\' :: found ++ replacement found rest
  | '\\' :: '&' :: rest => '&' :: replacement found rest
  | '&' :: rest => found ++ replacement found rest
  | c :: rest => c :: replacement found rest

/-- Replaces what fits an expression from a position on, once or everywhere, and counts how often.
Nothing is not found right behind something that was. -/
def replaceFrom (r : Regex) (isAll : Bool) (new : List Char) :
    Nat → Regex.Position → Bool → Nat × List Char
  | 0, p, _ => (0, p.after)
  | fuel + 1, p, isBehind =>
    let step := fun (count : Nat) (shown : List Char) =>
      match p.after with
      | [] => (count, shown)
      | c :: rest =>
        let next : Regex.Position := { before := c :: p.before, after := rest, left := p.left - 1 }
        if isAll || count = 0 then
          let (more, text) := replaceFrom r isAll new fuel next false
          (count + more, shown ++ c :: text)
        else (count, shown ++ p.after)
    match r.matchAt {} p with
    | none => step 0 []
    | some q =>
      let found := p.upTo q
      if found = [] then
        if isBehind then step 0 [] else step 1 (replacement [] new)
      else
        let shown := replacement found new
        if isAll then
          let next : Regex.Position := {
            before := found.reverse ++ p.before, after := q.after, left := q.left }
          let (more, text) := replaceFrom r isAll new fuel next true
          (more + 1, shown ++ text)
        else (1, shown ++ q.after)

/-- Replaces what fits an expression, once or everywhere, and counts how often. -/
def replacedIn (r : Regex) (isAll : Bool) (new text : List Char) : Nat × List Char :=
  replaceFrom r isAll new (text.length + 2) (.ofText text) false

/-- What stands between the parts of a text. -/
inductive Separator where
  | blanks
  | each
  | char (c : Char)
  | regex (r : Regex)
  /-- An expression that cannot be read. -/
  | broken

def separatorOf (text : List Char) : Separator :=
  match text with
  | [] => .each
  | [' '] => .blanks
  | [c] => .char c
  | text => (regexOf? text).elim .broken .regex

/-- The parts of a text between what fits an expression; nothing does not divide. -/
def partsBy (r : Regex) : Nat → List Char → Regex.Position → List (List Char)
  | 0, _, _ => []
  | fuel + 1, held, p =>
    match p.after with
    | [] => [held.reverse]
    | c :: rest =>
      let goOn := fun _ : Unit =>
        partsBy r fuel (c :: held) { before := c :: p.before, after := rest, left := p.left - 1 }
      match r.matchAt {} p with
      | none => goOn ()
      | some q =>
        if q.left = p.left then goOn ()
        else
          held.reverse ::
            partsBy r fuel [] { before := p.before, after := q.after, left := q.left }

def Separator.parts (separator : Separator) (text : List Char) : List (List Char) :=
  if text = [] then []
  else
    match separator with
    | .blanks => (text.splitOnP fun c => c = ' ' || c = '\t' || c = '\n').filter (· ≠ [])
    | .each => text.map fun c => [c]
    | .char c => text.splitOn c
    | .regex r => partsBy r (text.length + 1) [] (.ofText text)
    | .broken => [text]

/-- The next record of a text and what follows it, as the text between records says. -/
def nextRecord (between text : List Char) : Option (List Char × List Char) :=
  match between with
  | [] =>
    let text := text.dropWhile (· = '\n')
    if text = [] then none
    else
      let lines := text.splitOn '\n'
      let record := ['\n'].intercalate (lines.takeWhile (· ≠ []))
      some (record, (text.drop record.length).dropWhile (· = '\n'))
  | [c] =>
    if text = [] then none
    else
      let record := text.takeWhile (· ≠ c)
      some (record, text.drop (record.length + 1))
  | between =>
    if text = [] then none
    else
      match (regexOf? between).bind fun r => foundIn r text with
      | some (before, size) =>
        if size = 0 then some (text, []) else some (text.take before, text.drop (before + size))
      | none => some (text, [])

/-- The part of a text from a place on, as long as given. A place before the start makes the part
longer. -/
def subtext (text : List Char) (start : Float) (length : Option Float) : List Char :=
  let first := truncated start
  let count : Int := match length with
    | some n => truncated n
    | none => text.length + 1
  let (first, count) := if first ≤ 0 then (1, count - first) else (first, count)
  (text.drop (first - 1).toNat).take count.toNat

/-- Where a text is found in another one, counted from one. -/
def indexIn (part : List Char) : Nat → List Char → Nat
  | place, text =>
    if part.isPrefixOf text then place + 1
    else
      match text with
      | [] => 0
      | _ :: rest => indexIn part (place + 1) rest

/-- What is wrong with a format. -/
inductive FormatFault where
  | tooFew
  /-- A directive with no meaning, with its number. -/
  | unknown (place : Nat)

def FormatFault.further : FormatFault → FormatFault
  | .tooFew => .tooFew
  | .unknown place => .unknown (place + 1)

/-- The text of a fault in a format that a function was called with. -/
def FormatFault.message (function format : List Char) : FormatFault → List Char
  | .tooFew => "not enough arguments passed to ".toList ++ function ++ "(\"".toList ++ format ++
    "\")".toList
  | .unknown place => "improper conversion(number ".toList ++ (toString place).toList ++
    ") in ".toList ++ function ++ "(\"".toList ++ format ++ "\")".toList

/-- A width or a precision, which a star takes from the values. -/
def formatSize (values : List Value) (text : List Char) :
    Except FormatFault (Int × List Value × List Char) :=
  match text, values with
  | '*' :: rest, value :: values => .ok (truncated value.toNumber, values, rest)
  | '*' :: _, [] => .error .tooFew
  | _, _ =>
    let digits := text.takeWhile Char.isDigit
    .ok (Arithmetic.ofDigits 10 digits, values, text.drop digits.length)

/-- A whole number as a directive shows it, not larger than the greatest one. -/
def shownWhole (x : Float) : Int :=
  match Decimal.Exact.ofFloat x with
  | .undefined _ => -9223372036854775808
  | _ =>
    let n := truncated x
    if n < -9223372036854775808 then -9223372036854775807 else min n 18446744073709551615

def shownBy (layout : Layout) (convert : List Char) (value : Value) : Char → Option (List Char)
  | 'd' => some (layout.signed (shownWhole value.toNumber))
  | 'i' => some (layout.signed (shownWhole value.toNumber))
  | 'o' => some (layout.unsigned 8 (shownWhole value.toNumber))
  | 'x' => some (layout.unsigned 16 (shownWhole value.toNumber))
  | 'X' => some ((layout.unsigned 16 (shownWhole value.toNumber)).map Char.toUpper)
  | 'u' => some (layout.unsigned 10 (shownWhole value.toNumber))
  | 's' => some (layout.text (value.toText convert))
  | 'c' =>
    some (layout.pad (match value with
      | .number x => [Char.ofNat ((truncated x) % 256).toNat]
      | .unset => ['\x00']
      | other => [(other.toText convert).headD '\x00']))
  | c => if c ∈ ['e', 'E', 'f', 'F', 'g', 'G'] then some (shownReal layout c value.toNumber)
    else none

/-- Values laid out by a format; numbers are turned into texts by another one. What was laid out
before a fault is kept. -/
def laidOut (convert : List Char) : Nat → List Char → List Value →
    List Char × Option FormatFault
  | 0, _, _ => ([], none)
  | _ + 1, [], _ => ([], none)
  | fuel + 1, '%' :: '%' :: rest, values =>
    let (text, fault) := laidOut convert fuel rest values
    ('%' :: text, fault.map FormatFault.further)
  | fuel + 1, '%' :: rest, values =>
    let flags := rest.takeWhile (· ∈ ['#', '-', '+', ' ', '0'])
    let read := do
      let (width, values, rest) ← formatSize values (rest.drop flags.length)
      match rest with
      | '.' :: rest =>
        let (places, values, rest) ← formatSize values rest
        return (width, if places < 0 then none else some places.toNat, values, rest)
      | rest => return (width, none, values, rest)
    match read with
    | .error fault => ([], some fault)
    | .ok (width, precision, values, rest) =>
      let layout : Layout := {
        flags := if width < 0 then '-' :: flags else flags, width := width.natAbs, precision }
      match rest.dropWhile (· ∈ ['h', 'l']), values with
      | [], _ => ([], some (.unknown 1))
      | '%' :: rest, values =>
        let (text, fault) := laidOut convert fuel rest values
        (layout.pad ['%'] ++ text, fault.map FormatFault.further)
      | _ :: _, [] => ([], some .tooFew)
      | c :: rest, value :: values =>
        match shownBy layout convert value c with
        | none => ([], some (.unknown 1))
        | some shown =>
          let (text, fault) := laidOut convert fuel rest values
          (shown ++ text, fault.map FormatFault.further)
  | fuel + 1, c :: rest, values =>
    let (text, fault) := laidOut convert fuel rest values
    (c :: text, fault)

end BoardBind.Script.Awk
