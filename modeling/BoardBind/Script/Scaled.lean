import BoardBind.Script.Decimal
import BoardBind.Script.Columns

/-! # Numbers with units

Numbers are read and written with letters that stand for powers of 1000 or 1024. A number is kept
with 64 binary digits, and each step of a calculation is rounded to these.
-/

namespace BoardBind.Script

/-- A number with 64 binary digits. -/
structure LongNumber where
  isNegative : Bool := false
  size : Decimal.Size := ⟨0, 1⟩

namespace LongNumber

def nearestSize (s : Decimal.Size) : Decimal.Size :=
  if s.numerator = 0 then ⟨0, 1⟩
  else
    let high := s.numerator.log2
    let low := s.denominator.log2
    let isLess := s.numerator <<< (low - high) < s.denominator <<< (high - low)
    let bits := if isLess then 64 else 63
    let up := bits + low - high
    let down := high - (bits + low)
    let quotient := Decimal.roundDiv (s.numerator <<< up) (s.denominator <<< down)
    let common := Nat.gcd (quotient <<< down) (1 <<< up)
    ⟨(quotient <<< down) / common, (1 <<< up) / common⟩

def ofNat (n : Nat) : LongNumber := { size := nearestSize ⟨n, 1⟩ }

def times (x : LongNumber) (a b : Nat) : LongNumber :=
  { x with size := nearestSize ⟨x.size.numerator * a, x.size.denominator * b⟩ }

/-- Whether a number without its sign is at least as great as another. -/
def reaches (x : LongNumber) (n : Nat) : Bool :=
  n * x.size.denominator ≤ x.size.numerator

/-- Divides a number as long as it reaches a base, and counts how often. -/
def normalised (base : Nat) : Nat → LongNumber → LongNumber × Nat
  | 0, x => (x, 0)
  | fuel + 1, x =>
    if x.reaches base then
      let (y, power) := normalised base fuel (x.times 1 base)
      (y, power + 1)
    else (x, 0)

end LongNumber

/-- How numbers are rounded to whole ones. -/
inductive Rounding where
  | up
  | down
  | fromZero
  | towardsZero
  | nearest

def Rounding.apply (r : Rounding) (x : LongNumber) : LongNumber :=
  let whole := x.size.numerator / x.size.denominator
  let isExact := x.size.numerator % x.size.denominator = 0
  let away := if isExact then whole else whole + 1
  let n := match r with
    | .up => if x.isNegative then whole else away
    | .down => if x.isNegative then away else whole
    | .fromZero => away
    | .towardsZero => whole
    | .nearest => (2 * x.size.numerator + x.size.denominator) / (2 * x.size.denominator)
  { x with size := LongNumber.nearestSize ⟨n, 1⟩ }

/-- How letters multiply numbers. -/
inductive NumberScale where
  | none
  | auto
  /-- Powers of 1000. -/
  | thousands
  /-- Powers of 1024. -/
  | binary
  /-- Powers of 1024, with a small letter behind the large one. -/
  | binaryMarked
  deriving DecidableEq

def NumberScale.base : NumberScale → Nat
  | .binary => 1024
  | .binaryMarked => 1024
  | _ => 1000

/-- What is done about texts that are no numbers. -/
inductive InvalidNumbers where
  | abort
  | fail
  | warn
  | ignore
  deriving DecidableEq

/-- How numbers are read and written. -/
structure ScaledFormat where
  source : NumberScale := .none
  target : NumberScale := .none
  sourceUnit : Nat := 1
  targetUnit : Nat := 1
  rounding : Rounding := .fromZero
  invalid : InvalidNumbers := .abort
  suffix : Option (List Char) := none
  delimiter : Option Char := none
  /-- The width of a number, and whether it stands to the left. -/
  padding : Option (Nat × Bool) := none
  zeros : Nat := 0
  precision : Option Nat := none
  before : List Char := []
  after : List Char := []
  fields : List PositionRange := [⟨1, some 1⟩]
  header : Nat := 0
  ending : Char := '\n'

def scaleLetters : List Char := ['K', 'M', 'G', 'T', 'P', 'E', 'Z', 'Y', 'R', 'Q']

def unitCount? (text : List Char) : Option Nat :=
  let digits := text.takeWhile Char.isDigit
  let power := fun (base : Nat) (c : Char) =>
    (scaleLetters.idxOf? c).map fun rank => (List.replicate (rank + 1) base).foldl (· * ·) 1
  let unit := match text.drop digits.length with
    | [] => some 1
    | [c] => power 1000 c
    | [c, 'i'] => power 1024 c
    | _ => none
  match unit with
  | none => none
  | some unit =>
    if digits = [] then (if unit = 1 then none else some unit)
    else
      let n := Arithmetic.ofDigits 10 digits * unit
      if n = 0 then none else some n

/-- A number with decimals: what it is, how many decimals it has, and what follows. -/
def decimalNumber? (isNegative : Bool) (whole text : List Char) :
    Option (LongNumber × Nat × List Char) :=
  let decimals := text.takeWhile Char.isDigit
  if decimals = [] then none
  else
    let all := Arithmetic.ofDigits 10 (whole ++ decimals)
    some ({ isNegative, size := LongNumber.nearestSize ⟨all, Decimal.tenTo decimals.length⟩ },
      decimals.length, text.drop decimals.length)

/-- Reads a number without a letter: what it is, how many decimals it has, and what follows. -/
def plainNumber (text : List Char) : Except (List Char) (LongNumber × Nat × List Char) :=
  let isNegative := text.head? = some '-'
  let body := if isNegative then text.tail else text
  let whole := body.takeWhile Char.isDigit
  let read? := match whole, body.drop whole.length with
    | whole, '.' :: more => decimalNumber? isNegative whole more
    | [], _ => none
    | whole, rest =>
      some ({ LongNumber.ofNat (Arithmetic.ofDigits 10 whole) with isNegative }, 0, rest)
  if 27 < whole.length then
    .error ("value too large to be converted: ".toList ++ inMarks text)
  else
    match read? with
    | some read => .ok read
    | none => .error ("invalid number: ".toList ++ inMarks text)

def LongNumber.raised (x : LongNumber) (base power : Nat) : LongNumber :=
  x.times ((List.replicate power base).foldl (· * ·) 1) 1

namespace ScaledFormat

/-- Reads a number, perhaps with a letter, and how many decimals it is written with. -/
def read (f : ScaledFormat) (text : List Char) : Except (List Char) (LongNumber × Nat) := do
  let (x, places, rest) ← plainNumber text
  match rest with
  | [] => return (x, places)
  | rest =>
    let rest := rest.dropWhile fun c => c = ' ' || c = '\t'
    match rest.head?.bind fun c => scaleLetters.idxOf? c with
    | none => throw ("invalid suffix in input: ".toList ++ inMarks text)
    | some rank =>
      if f.source = .none then
        throw ("rejecting suffix in input: ".toList ++ inMarks text ++
          " (consider using --from)".toList)
      let hasMark := rest.tail.head? = some 'i'
      if f.source = .binaryMarked && !hasMark then
        throw ("missing 'i' suffix in input: ".toList ++ inMarks text ++
          " (e.g Ki/Mi/Gi)".toList)
      let takesMark := hasMark && (f.source = .binaryMarked || f.source = .auto)
      let base := if f.source = .auto && hasMark then 1024 else f.source.base
      let after := if takesMark then rest.drop 2 else rest.drop 1
      if after ≠ [] then
        throw ("invalid suffix in input ".toList ++ inMarks text ++ ": ".toList ++ inMarks after)
      return (x.raised base (rank + 1), 0)

def digits (f : ScaledFormat) (x : LongNumber) (places : Nat) : List Char :=
  let sign := if x.isNegative then ['-'] else []
  sign ++ filled '0' (f.zeros - sign.length) (x.size.fixed places false)

def roundedTo (f : ScaledFormat) (x : LongNumber) (places : Nat) : LongNumber :=
  let unit := Decimal.tenTo places
  (f.rounding.apply (x.times unit 1)).times 1 unit

def plain (f : ScaledFormat) (x : LongNumber) (places : Nat) : List Char :=
  f.digits (f.roundedTo x places) places

def scaled (f : ScaledFormat) (x : LongNumber) : List Char :=
  let base := f.target.base
  let (y, power) := x.normalised base 16
  let places := match f.precision with
    | some n => min (power * 3) n
    | none => if y.reaches 10 then 0 else 1
  let y := f.roundedTo y places
  let (y, power) := if y.reaches base then (y.times 1 base, power + 1) else (y, power)
  let hasPoint := y.size.numerator ≠ 0 && !y.reaches 10 && 0 < power
  let shown := f.digits y (f.precision.getD (if hasPoint then 1 else 0))
  if power = 0 then shown
  else
    shown ++ scaleLetters.getD (power - 1) 'Q' ::
      if f.target = .binaryMarked then ['i'] else []

/-- Writes a number that was written with some decimals. The width is handed in. -/
def write (f : ScaledFormat) (padding : Option (Nat × Bool)) (x : LongNumber) (places : Nat) :
    Except (List Char) (List Char) :=
  let places := f.precision.getD places
  let (_, magnitude) := x.normalised 10 64
  let shown := (if x.isNegative then ['-'] else []) ++ x.size.general 'e' 6 false
  if f.target = .none && 18 < magnitude + places then
    .error (if places = 0 then
        "value too large to be printed: '".toList ++ shown ++ "' (consider using --to)".toList
      else
        "value/precision too large to be printed: '".toList ++ shown ++ '/' :: decimal places ++
          "' (consider using --to)".toList)
  else if 32 < magnitude then
    .error ("value too large to be printed: '".toList ++ shown ++
      "' (cannot handle values > 999Q)".toList)
  else
    let text := (if f.target = .none then f.plain x places else f.scaled x) ++ f.suffix.getD []
    let text := match padding with
      | some (width, true) => text ++ List.replicate (width - text.length) ' '
      | some (width, false) => filled ' ' width text
      | none => text
    .ok (f.before ++ text ++ f.after)

/-- A text without an ending, unless it is nothing else. -/
def withoutSuffix (f : ScaledFormat) (text : List Char) : List Char :=
  match f.suffix with
  | some suffix =>
    if suffix.length < text.length && suffix.isSuffixOf text then
      text.take (text.length - suffix.length)
    else text
  | none => text

/-- What is printed for a field, and the complaint about it. -/
def field (f : ScaledFormat) (number : Nat) (text : List Char) : List Char × Option (List Char) :=
  if !f.fields.any fun r => r.first ≤ number && r.last.all (number ≤ ·) then (text, none)
  else
    let bare := f.withoutSuffix text
    let body := bare.dropWhile fun c => c = ' ' || c = '\t'
    let padding := match f.padding, f.delimiter with
      | some padding, _ => some padding
      | none, none =>
        if body.length < bare.length || 1 < number then some (bare.length, false) else none
      | none, some _ => none
    let written := do
      let (x, places) ← f.read body
      let x := if f.sourceUnit = 1 && f.targetUnit = 1 then x
        else (x.times f.sourceUnit 1).times 1 f.targetUnit
      f.write padding x places
    match written with
    | .ok shown => (shown, none)
    | .error complaint => (bare, some complaint)

/-- The fields of a line. Without a delimiter, the blanks before a field belong to it. -/
def fieldsOf (f : ScaledFormat) : Nat → List Char → List (List Char)
  | 0, _ => []
  | fuel + 1, line =>
    let isBlank := fun c : Char => c = ' ' || c = '\t' || c = '\n'
    let first := match f.delimiter with
      | some d => line.takeWhile (· ≠ d)
      | none =>
        let blanks := line.takeWhile isBlank
        blanks ++ (line.drop blanks.length).takeWhile (!isBlank ·)
    match line.drop first.length with
    | [] => [first]
    | _ :: rest => first :: fieldsOf f fuel rest

def line (f : ScaledFormat) (s : Setting) (text : List Char) : List Saying × Bool :=
  let parts := (f.fieldsOf (text.length + 1) text).zipIdx.map fun (part, n) => f.field (n + 1) part
  let between := (f.delimiter.getD ' ')
  let step := fun (state : List Saying × Bool) (part : (List Char × Option (List Char)) × Nat) =>
    let ((shown, complaint), n) := part
    if f.invalid = .abort && !state.2 then state
    else
      let lead : List Saying := if n = 0 then [] else [{ text := [between] }]
      match complaint with
      | none => (state.1 ++ lead ++ [{ text := shown }], state.2)
      | some complaint =>
        let said := if f.invalid = .ignore then [] else [s.complaint complaint]
        let shown : List Saying := if f.invalid = .abort then [] else [{ text := shown }]
        (state.1 ++ lead ++ said ++ shown, false)
  let (said, isFine) := parts.zipIdx.foldl step ([], true)
  (if f.invalid = .abort && !isFine then said else said ++ [{ text := [f.ending] }], isFine)

/-- What is said about lines. The first wrong one may end it. -/
def lines (f : ScaledFormat) (s : Setting) : List (List Char) → List Saying × Bool
  | [] => ([], true)
  | text :: rest =>
    let (said, isFine) := f.line s text
    if !isFine && f.invalid = .abort then (said, false)
    else
      let (more, areFine) := lines f s rest
      (said ++ more, isFine && areFine)

/-- The number of characters before a directive, where two percent signs count as one, and the
text from the directive on. -/
def leadingText : Nat → List Char → Nat × List Char
  | 0, text => (0, text)
  | _, [] => (0, [])
  | fuel + 1, '%' :: '%' :: rest =>
    let (n, rest) := leadingText fuel rest
    (n + 1, rest)
  | fuel + 1, c :: rest =>
    if c = '%' then (0, c :: rest)
    else
      let (n, rest) := leadingText fuel rest
      (n + 1, rest)

def withFormat (f : ScaledFormat) (text : List Char) : Except (List Char) ScaledFormat := do
  let shown := "format ".toList ++ inMarks text
  let (count, rest) := leadingText (text.length + 1) text
  match rest with
  | [] => throw (shown ++ " has no % directive".toList)
  | _ :: body =>
    let flags := body.takeWhile fun c => c = '\'' || c = '0' || c = ' '
    let body := body.drop flags.length
    let isLeft := body.head? = some '-'
    let body := if isLeft then body.tail else body
    let width := body.takeWhile Char.isDigit
    let body := body.drop width.length
    let (precision, body) ← match body with
      | '.' :: more =>
        if more.head?.any fun c => c = '-' || c = '+' || c = ' ' then
          throw ("invalid precision in ".toList ++ shown)
        else
          let digits := more.takeWhile Char.isDigit
          pure (some (Arithmetic.ofDigits 10 digits), more.drop digits.length)
      | body => pure (none, body)
    match body with
    | [] => throw (shown ++ " ends in %".toList)
    | 'f' :: after =>
      if (leadingText (after.length + 1) after).2 ≠ [] then
        throw (shown ++ " has too many % directives".toList)
      let n := Arithmetic.ofDigits 10 width
      let fillsUp := flags.contains '0' && !isLeft
      return { f with
        before := text.take count, after, precision
        zeros := if fillsUp then n else 0
        padding := if n ≠ 0 && !fillsUp then some (n, isLeft) else f.padding }
    | _ =>
      throw ("invalid ".toList ++ shown ++
        ", directive must be %[0]['][-][N][.][N]f".toList)

end ScaledFormat

/-- The options of `numfmt`. -/
def numfmtFlags : Flags where
  plain := "zgD"
  valued := "dftSTuUipr+"
  optional := "h"
  words := [("debug", 'D'), ("delimiter", 'd'), ("field", 'i'), ("format", 'f'), ("from", 'S'),
    ("from-unit", 'u'), ("grouping", 'g'), ("header", 'h'), ("invalid", 't'), ("padding", 'p'),
    ("round", 'r'), ("suffix", '+'), ("to", 'T'), ("to-unit", 'U'), ("zero-terminated", 'z')]

/-- The ways to read and write letters, by their names. -/
def scaleChoices (withAuto : Bool) : List (List String × NumberScale) :=
  [(["none"], NumberScale.none)] ++ (if withAuto then [(["auto"], .auto)] else []) ++
    [(["si"], .thousands), (["iec"], .binary), (["iec-i"], .binaryMarked)]

/-- Adds an option to a format, or complains; a hint follows if it is marked so. -/
def ScaledFormat.tell (f : ScaledFormat) (flag : Char) (value : List Char) :
    Except (Bool × List Char) ScaledFormat :=
  let hinted := fun {α : Type} (result : Except (List Char) α) =>
    result.mapError fun complaint => (true, complaint)
  let plainly := fun {α : Type} (what : String) (result : Option α) =>
    match result with
    | some x => Except.ok x
    | none => .error (false, what.toList ++ inMarks value)
  match flag with
  | 'S' => (hinted (choiceOf "from" (scaleChoices true) value)).map fun x => { f with source := x }
  | 'T' => (hinted (choiceOf "to" (scaleChoices false) value)).map fun x => { f with target := x }
  | 'u' => (plainly "invalid unit size: " (unitCount? value)).map fun n => { f with sourceUnit := n }
  | 'U' => (plainly "invalid unit size: " (unitCount? value)).map fun n => { f with targetUnit := n }
  | 'r' =>
    (hinted (choiceOf "round" [(["up"], Rounding.up), (["down"], .down), (["from-zero"], .fromZero),
      (["towards-zero"], .towardsZero), (["nearest"], .nearest)] value)).map fun x =>
        { f with rounding := x }
  | 't' =>
    (hinted (choiceOf "invalid" [(["abort"], InvalidNumbers.abort), (["fail"], .fail),
      (["warn"], .warn), (["ignore"], .ignore)] value)).map fun x => { f with invalid := x }
  | 'p' =>
    let isLeft := value.head? = some '-'
    let width := (natural? (if isLeft then value.tail else value)).filter (· ≠ 0)
    (plainly "invalid padding value " width).map fun n => { f with padding := some (n, isLeft) }
  | 'd' =>
    if 1 < value.length then .error (false, "the delimiter must be a single character".toList)
    else .ok { f with delimiter := some (value.headD '\x00') }
  | '+' => .ok { f with suffix := some value }
  | 'h' =>
    let count := if value = [] then some 1 else (natural? value).filter (· ≠ 0)
    (plainly "invalid header value " count).map fun n => { f with header := n }
  | 'i' =>
    if value = ['-'] then .ok { f with fields := [⟨1, none⟩] }
    else
      let pieces := value.splitOnP fun c => c = ',' || c = ' ' || c = '\t'
      match positionRanges? pieces value with
      | .error reason => .error (true, reason.message true)
      | .ok ranges => .ok { f with fields := ranges }
  | 'z' => .ok { f with ending := '\x00' }
  | _ => .ok f

def scaledFormat (o : Options) : Except (Bool × List Char) ScaledFormat := do
  let f ← o.flags.foldlM (fun (f : ScaledFormat) (flag, value) => f.tell flag value) {}
  if 1 < (o.values 'i').length then throw (false, "multiple field specifications".toList)
  if o.has 'f' && o.has 'g' then
    throw (false, "--grouping cannot be combined with --format".toList)
  if o.has 'g' && f.target ≠ .none then
    throw (false, "grouping cannot be combined with --to".toList)
  match o.value? 'f' with
  | some text => (f.withFormat text).mapError fun complaint => (false, complaint)
  | none => return f

/-- Reads and writes numbers with units. -/
def numfmt : Utility := withOptions numfmtFlags 1 fun s o =>
  match scaledFormat o with
  | .error (true, complaint) => s.misused 1 complaint
  | .error (false, complaint) => s.failing 1 complaint
  | .ok f =>
    let texts := if o.operands = [] then plainPieces f.ending s.input.text else o.operands
    let header := if o.operands = [] then f.header else 0
    let isIdle := f.source = .none && f.target = .none && !o.has 'g' && f.padding.isNone &&
      !o.has 'f'
    let warnings := if o.has 'D' && isIdle then
        [s.complaint "no conversion option specified".toList] else []
    let (said, isFine) := f.lines s (texts.drop header)
    { said := warnings ++ { text := joinPieces f.ending (texts.take header) } :: said
      status := if isFine || f.invalid = .warn || f.invalid = .ignore then 0 else 2
      left := leftAfter o.operands }

end BoardBind.Script
