import BoardBind.Script.Decimal
import BoardBind.Script.Arithmetic

/-! # Printed text

What `echo` and `printf` make of their arguments. A backslash starts an escape, a per cent sign in
a format a directive that takes the next argument. A format is used again as long as there are
arguments left.
-/

namespace BoardBind.Script

def isOctal (c : Char) : Bool :=
  '0' ≤ c && c ≤ '7'

def escapeLetter? : Char → Option Char
  | 'a' => some '\x07'
  | 'b' => some '\x08'
  | 'e' => some '\x1b'
  | 'f' => some '\x0c'
  | 'n' => some '\n'
  | 'r' => some '\r'
  | 't' => some '\t'
  | 'v' => some '\x0b'
  | '\\' => some '\\'
  | _ => none

/-- Who prints: a shell by itself, or a program, which knows more escapes and says more. -/
inductive Printer where
  | shell
  | program
  deriving DecidableEq

/-- Whether a character is a digit of a number in base sixteen. -/
def isHexDigit (c : Char) : Bool :=
  c.isDigit || ('a' ≤ c && c ≤ 'f') || ('A' ≤ c && c ≤ 'F')

/-- The value of a digit of a number in base sixteen. -/
def hexValue (digits : List Char) : Nat :=
  digits.foldl (fun n c =>
    n * 16 + (if c.isDigit then c.toNat - '0'.toNat else c.toLower.toNat - 'a'.toNat + 10)) 0

/-- The character of an escape, after its backslash, and what follows it. An unknown escape is a
backslash. -/
def readEscape (printer : Printer) (text : List Char) : Char × List Char :=
  let digits := (text.take 3).takeWhile isOctal
  let hexDigits := (text.tail.take 2).takeWhile isHexDigit
  if digits ≠ [] then
    (Char.ofNat (Arithmetic.ofDigits 8 digits % 256), text.drop digits.length)
  else if printer = .program && text.head? = some 'x' && hexDigits ≠ [] then
    (Char.ofNat (hexValue hexDigits), text.drop (hexDigits.length + 1))
  else
    match text with
    | c :: rest =>
      match escapeLetter? c with
      | some plain => (plain, rest)
      | none => ('\\', text)
    | [] => ('\\', [])

/-- A text with its escapes replaced, and whether it ends all output. -/
def unescape (printer : Printer) : Nat → List Char → List Char × Bool
  | 0, text => (text, false)
  | _, [] => ([], false)
  | _ + 1, '\\' :: 'c' :: _ => ([], true)
  | fuel + 1, '\\' :: '0' :: rest =>
    let digits := (rest.take 3).takeWhile isOctal
    let (more, stops) := unescape printer fuel (rest.drop digits.length)
    (Char.ofNat (Arithmetic.ofDigits 8 digits % 256) :: more, stops)
  | fuel + 1, '\\' :: rest =>
    let (c, rest) := readEscape printer rest
    let (more, stops) := unescape printer fuel rest
    (c :: more, stops)
  | fuel + 1, c :: rest =>
    let (more, stops) := unescape printer fuel rest
    (c :: more, stops)

/-- The values between blanks, with escapes if they are wanted, and with a line end. -/
def echoedLine (printer : Printer) (escapes hasEnd : Bool) (values : List (List Char)) :
    List Char :=
  let text := [' '].intercalate values
  let (plain, stops) := if escapes then unescape printer text.length text else (text, false)
  if hasEnd && !stops then plain ++ ['\n'] else plain

/-- What `echo` prints with escapes: a first `-n` leaves out the line end. -/
def echoed : List (List Char) → List Char
  | ['-', 'n'] :: values => echoedLine .shell true false values
  | values => echoedLine .shell true true values

/-- What `echo` prints without escapes, unless a flag asks for them. -/
def echoedPlainly : Bool → Bool → List (List Char) → List Char
  | escapes, hasEnd, ('-' :: letter :: letters) :: rest =>
    if (letter :: letters).all (· ∈ ['n', 'e', 'E']) then
      let escapes := (letter :: letters).foldl
        (fun escapes c => if c = 'e' then true else if c = 'E' then false else escapes) escapes
      echoedPlainly escapes (hasEnd && !(letter :: letters).contains 'n') rest
    else echoedLine .program escapes hasEnd (('-' :: letter :: letters) :: rest)
  | escapes, hasEnd, values => echoedLine .program escapes hasEnd values

/-- How a directive lays its argument out. -/
structure Layout where
  flags : List Char := []
  width : Nat := 0
  precision : Option Nat := none

namespace Layout

def pad (layout : Layout) (text : List Char) : List Char :=
  let missing := List.replicate (layout.width - text.length) ' '
  if layout.flags.contains '-' then text ++ missing else missing ++ text

def text (layout : Layout) (value : List Char) : List Char :=
  layout.pad (match layout.precision with
    | some n => value.take n
    | none => value)

def number (layout : Layout) (sign digits : List Char) : List Char :=
  let digits := match layout.precision with
    | some n => if n = 0 && digits = ['0'] then [] else
      List.replicate (n - digits.length) '0' ++ digits
    | none =>
      if layout.flags.contains '0' && !layout.flags.contains '-' then
        List.replicate (layout.width - sign.length - digits.length) '0' ++ digits
      else digits
  layout.pad (sign ++ digits)

def sign (layout : Layout) (isNegative : Bool) : List Char :=
  if isNegative then ['-'] else if layout.flags.contains '+' then ['+']
  else if layout.flags.contains ' ' then [' '] else []

def signed (layout : Layout) (n : Int) : List Char :=
  layout.number (layout.sign (n < 0)) (toString n.natAbs).toList

/-- A number without a sign in a base, which a flag lets stand in front of it. -/
def unsigned (layout : Layout) (base : Nat) (n : Int) : List Char :=
  let value := Arithmetic.bits n
  let digits := Nat.toDigits base value
  if !layout.flags.contains '#' || base = 10 then layout.number [] digits
  else if base = 16 then layout.number (if value = 0 then [] else ['0', 'x']) digits
  else if value = 0 then
    { layout with precision := layout.precision.map (max 1) }.number [] digits
  else layout.number [] ('0' :: digits)

/-- A number with decimals, written as the letter of its directive says. -/
def real (layout : Layout) (letter : Char) (x : Float) : List Char :=
  let precision := layout.precision.getD 6
  let isFull := layout.flags.contains '#'
  let cased := fun text : List Char => if letter.isUpper then text.map Char.toUpper else text
  match Decimal.Exact.ofFloat x with
  | .infinite isNegative => layout.pad (layout.sign isNegative ++ cased "inf".toList)
  | .undefined isNegative => layout.pad (layout.sign isNegative ++ cased "nan".toList)
  | .finite isNegative size =>
    let digits := match letter.toLower with
      | 'f' => size.fixed precision isFull
      | 'e' => size.scientific 'e' precision isFull
      | _ => size.general 'e' precision isFull
    { layout with precision := none }.number (layout.sign isNegative) (cased digits)

end Layout

/-- What is wrong with an argument that should be a number. -/
inductive NumberFault where
  | notNumeric
  | partly
  | outOfRange

def NumberFault.message (value : List Char) : Printer → NumberFault → List Char
  | .shell, .notNumeric => value ++ ": expected numeric value".toList
  | .shell, .partly => value ++ ": not completely converted".toList
  | .shell, .outOfRange => value ++ ": Numerical result out of range".toList
  | .program, .notNumeric => '\'' :: value ++ "': expected a numeric value".toList
  | .program, .partly => '\'' :: value ++ "': value not completely converted".toList
  | .program, .outOfRange => '\'' :: value ++ "': Numerical result out of range".toList

/-- The number that an argument of a directive is, and what is wrong with it. -/
def numberOf (value : List Char) : Int × Option NumberFault :=
  match value with
  | [] => (0, none)
  | '\'' :: c :: _ => (c.toNat, none)
  | '"' :: c :: _ => (c.toNat, none)
  | _ =>
    let (isNegative, digits) :=
      match Arithmetic.skipBlanks value with
      | '-' :: rest => (true, rest)
      | '+' :: rest => (false, rest)
      | rest => (false, rest)
    match Arithmetic.readNatural digits with
    | some (n, rest) =>
      let written := Arithmetic.ofDigits 10 (digits.takeWhile Char.isDigit)
      (if isNegative then -(n : Int) else n,
        if rest ≠ [] then some .partly
        else if Arithmetic.greatest < written then some .outOfRange
        else none)
    | none => (0, some .notNumeric)

/-- The number with decimals that an argument of a directive is, and what is wrong with it. -/
def realOf (value : List Char) : Float × Option NumberFault :=
  match value with
  | [] => (0, none)
  | '\'' :: c :: _ => (Float.ofNat c.toNat, none)
  | '"' :: c :: _ => (Float.ofNat c.toNat, none)
  | _ =>
    match Decimal.number? (Arithmetic.skipBlanks value) with
    | some (x, []) => (x, none)
    | some (x, _) => (x, some .partly)
    | none => (0, some .notNumeric)

/-- A run of `printf`: what is printed, the last piece first, and the arguments that are left. -/
structure Printing where
  printer : Printer
  pieces : List (List Char) := []
  values : List (List Char)
  status : Nat := 0
  stopped : Bool := false
  /-- What is wrong, the last first. -/
  complaints : List (List Char) := []

namespace Printing

def complain (p : Printing) (status : Nat) (complaint : List Char) : Printing :=
  { p with status, complaints := complaint :: p.complaints }

def print (p : Printing) (text : List Char) : Printing :=
  { p with pieces := text :: p.pieces }

/-- Takes the next argument; a missing one is empty. -/
def next (p : Printing) : List Char × Printing :=
  (p.values.headD [], { p with values := p.values.tail })

def nextNumber (p : Printing) : Int × Printing :=
  let (value, p) := p.next
  match numberOf value with
  | (n, none) => (n, p)
  | (n, some fault) => (n, p.complain 1 (fault.message value p.printer))

/-- Reads a width or a precision, which a star takes from the arguments. -/
def size (p : Printing) (text : List Char) : Int × Printing × List Char :=
  match text with
  | '*' :: rest =>
    let (n, p) := p.nextNumber
    (n, p, rest)
  | _ =>
    let digits := text.takeWhile Char.isDigit
    (Arithmetic.ofDigits 10 digits, p, text.drop digits.length)

def printNumber (p : Printing) (render : Int → List Char) : Printing :=
  let (n, p) := p.nextNumber
  p.print (render n)

def printReal (p : Printing) (render : Float → List Char) : Printing :=
  let (value, p) := p.next
  let (x, reason) := realOf value
  let p := match reason with
    | none => p
    | some fault => p.complain 1 (fault.message value p.printer)
  p.print (render x)

/-- Carries out a directive, after its per cent sign. An unknown one ends the run. -/
def directive (p : Printing) (text : List Char) : Printing × List Char :=
  let flags := text.takeWhile (· ∈ ['#', '-', '+', ' ', '0'])
  let (width, p, rest) := p.size (text.drop flags.length)
  let (precision, p, rest) :=
    match rest with
    | '.' :: rest =>
      let (n, p, rest) := p.size rest
      (if n < 0 then none else some n.toNat, p, rest)
    | _ => (none, p, rest)
  let layout : Layout := {
    flags := if width < 0 then '-' :: flags else flags, width := width.natAbs, precision }
  let rest := if p.printer = .program then rest.dropWhile (· ∈ ['h', 'l', 'L', 'j', 'z', 't'])
    else rest
  match rest with
  | 's' :: rest =>
    let (value, p) := p.next
    (p.print (layout.text value), rest)
  | 'b' :: rest =>
    let (value, p) := p.next
    let (plain, stops) := unescape p.printer value.length value
    ({ p.print (layout.text plain) with stopped := stops }, rest)
  | 'c' :: rest =>
    let (value, p) := p.next
    (p.print (layout.pad [value.headD '\x00']), rest)
  | 'd' :: rest => (p.printNumber layout.signed, rest)
  | 'i' :: rest => (p.printNumber layout.signed, rest)
  | 'u' :: rest => (p.printNumber (layout.unsigned 10), rest)
  | 'o' :: rest => (p.printNumber (layout.unsigned 8), rest)
  | 'x' :: rest => (p.printNumber (layout.unsigned 16), rest)
  | 'X' :: rest => (p.printNumber fun n => (layout.unsigned 16 n).map Char.toUpper, rest)
  | 'f' :: rest => (p.printReal (layout.real 'f'), rest)
  | 'F' :: rest => (p.printReal (layout.real 'F'), rest)
  | 'e' :: rest => (p.printReal (layout.real 'e'), rest)
  | 'E' :: rest => (p.printReal (layout.real 'E'), rest)
  | 'g' :: rest => (p.printReal (layout.real 'g'), rest)
  | 'G' :: rest => (p.printReal (layout.real 'G'), rest)
  | [] =>
    let complaint := if p.printer = .program then
        '%' :: text ++ ": invalid conversion specification".toList
      else "missing format character".toList
    ({ p.complain 2 complaint with stopped := true }, [])
  | c :: rest =>
    let written := text.take (text.length - rest.length - 1)
    let problem := if p.printer = .program then ": invalid conversion specification"
      else ": invalid directive"
    let complaint := '%' :: written ++ c :: problem.toList
    ({ p.complain 2 complaint with stopped := true }, [])

def once : Nat → List Char → Printing → Printing
  | 0, _, p => p
  | _, [], p => p
  | fuel + 1, '\\' :: rest, p =>
    if p.printer = .program && rest.head? = some 'c' then { p with stopped := true }
    else
      let (c, rest) := readEscape p.printer rest
      once fuel rest (p.print [c])
  | fuel + 1, '%' :: '%' :: rest, p => once fuel rest (p.print ['%'])
  | fuel + 1, '%' :: rest, p =>
    let (p, rest) := p.directive rest
    if p.stopped then p else once fuel rest p
  | fuel + 1, c :: rest, p => once fuel rest (p.print [c])

/-- Goes through a format as long as it uses up arguments. -/
def repeated : Nat → List Char → Printing → Printing
  | 0, _, p => p
  | fuel + 1, format, p =>
    let after := once format.length format p
    if after.stopped || after.values = [] || after.values.length = p.values.length then after
    else repeated fuel format after

/-- A run of `printf` with a format and values. -/
def ofFormat (printer : Printer) (format : List Char) (values : List (List Char)) : Printing :=
  repeated (values.length + 1) format { printer, values }

def text (p : Printing) : List Char :=
  p.pieces.reverse.flatten

end Printing

end BoardBind.Script
