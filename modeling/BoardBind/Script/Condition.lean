import BoardBind.Script.Attribute
import BoardBind.Script.Arithmetic
import BoardBind.Text.Encoding

/-! # Conditions

The conditions that `test` decides: comparisons of texts and numbers, questions about files, and
their combinations. A condition that is not well formed has no truth value.
-/

namespace BoardBind.Script

open Text

def toBytes (text : List Char) : List UInt8 :=
  text.map fun c => UInt8.ofNat c.toNat

def pathOf (text : List Char) : Path :=
  ⟨String.ofList (ofUtf8Lossy (toBytes text))⟩

def ofString (text : String) : List Char :=
  ofBytes text.toUTF8.toList

namespace Condition

/-- Where conditions look for files. -/
structure Files where
  disk : Disk
  directory : Path
  /-- Whether a file that is missing counts as older than all others. -/
  missingIsOlder : Bool := false

def Files.path (files : Files) (text : List Char) : Path :=
  files.directory.join (pathOf text)

def Files.find (files : Files) (text : List Char) : Option (Place × Node) :=
  if text = [] then none else (files.disk.find (files.path text)).toOption

def Files.isLink (files : Files) (text : List Char) : Bool :=
  match if text = [] then none else (files.disk.entry (files.path text)).toOption with
  | some (_, .link _) => true
  | _ => false

def unary : List String :=
  ["-r", "-w", "-x", "-e", "-f", "-d", "-s", "-z", "-n", "-t", "-c", "-b", "-p", "-S", "-h", "-L",
    "-u", "-g", "-k", "-O", "-G"]

def binary : List String :=
  ["=", "!=", "<", ">", "-eq", "-ne", "-ge", "-gt", "-le", "-lt", "-nt", "-ot", "-ef"]

def isOneOf (signs : List String) (text : List Char) : Bool :=
  String.ofList text ∈ signs

def isPlain (machine : Machine) : Place × Node → Bool
  | (place, .file ..) => !machine.isDevice place
  | _ => false

/-- Answers a question about one operand. -/
def ask (files : Files) (sign : String) (value : List Char) : Bool :=
  let found := files.find value
  match sign with
  | "-z" => value = []
  | "-n" => value ≠ []
  | "-d" => found.any fun f => f.2 = .directory
  | "-f" => found.any (isPlain files.disk.machine)
  | "-x" => found.any fun f => f.2 = .directory || files.disk.isExecutableAt f.1
  | "-s" =>
    found.any fun f =>
      match f.2 with
      | .file bytes _ => bytes ≠ []
      | _ => true
  | "-c" => found.any fun f => files.disk.machine.isDevice f.1
  | "-h" => files.isLink value
  | "-L" => files.isLink value
  | "-u" => found.any fun f => files.disk.modeAt f.1 &&& 0o4000 ≠ 0
  | "-g" => found.any fun f => files.disk.modeAt f.1 &&& 0o2000 ≠ 0
  | "-k" => found.any fun f => files.disk.modeAt f.1 &&& 0o1000 ≠ 0
  | "-e" => found.isSome
  | "-r" => found.isSome
  | "-w" => found.isSome
  | "-O" => found.isSome
  | "-G" => found.isSome
  | _ => false

def decimal? (text : List Char) : Option Int :=
  let (isNegative, digits) :=
    match Arithmetic.skipBlanks text with
    | '-' :: rest => (true, rest)
    | '+' :: rest => (false, rest)
    | rest => (false, rest)
  let number := digits.takeWhile Char.isDigit
  if number ≠ [] ∧ Arithmetic.skipBlanks (digits.drop number.length) = [] then
    let n : Int := Arithmetic.ofDigits 10 number
    some (if isNegative then -n else n)
  else none

/-- Why a condition has no truth value. -/
inductive Fault where
  /-- A number is wanted. -/
  | notNumber (text : List Char)
  /-- Something follows an operand that is no operator. -/
  | noOperator (operand : List Char)
  /-- An operator lacks an operand. -/
  | noOperand (sign : List Char)
  | unclosed

def Fault.message : Fault → List Char
  | .notNumber text => "Illegal number: ".toList ++ text
  | .noOperator operand => operand ++ ": unexpected operator".toList
  | .noOperand sign => sign ++ ": argument expected".toList
  | .unclosed => "closing paren expected".toList

def numberOf (text : List Char) : Except Fault Int :=
  match decimal? text with
  | some n => .ok n
  | none => .error (.notNumber text)

/-- Whether a file was changed after another one. -/
def Files.isNewer (files : Files) (a b : List Char) : Bool :=
  match files.find a, files.find b with
  | some x, some y => files.disk.modifiedAt y.1 < files.disk.modifiedAt x.1
  | some _, none => files.missingIsOlder
  | none, _ => false

def compare (files : Files) (sign : String) (a b : List Char) : Except Fault Bool :=
  match sign with
  | "=" => .ok (a = b)
  | "!=" => .ok (a ≠ b)
  | "<" => .ok (decide (a < b))
  | ">" => .ok (decide (b < a))
  | "-nt" => .ok (files.isNewer a b)
  | "-ot" => .ok (files.isNewer b a)
  | "-ef" =>
    .ok (match files.find a, files.find b with
      | some x, some y => files.disk.isSame x.1 y.1
      | _, _ => false)
  | _ => do
    let x ← numberOf a
    let y ← numberOf b
    match sign with
    | "-eq" => .ok (x = y)
    | "-ne" => .ok (x ≠ y)
    | "-ge" => .ok (y ≤ x)
    | "-gt" => .ok (y < x)
    | "-le" => .ok (x ≤ y)
    | _ => .ok (x < y)

/-- Whether a sign that asks about one operand is an operand itself: nothing follows it, or a
comparison does. -/
def isOperand : List (List Char) → Bool
  | [] => true
  | [_] => false
  | sign :: _ => isOneOf binary sign

/-- What is left to read of a condition. -/
abbrev Rest := List (List Char)

mutual

/-- Reads conditions joined by `-o`. -/
def either : Nat → Files → Rest → Except Fault (Bool × Rest)
  | 0, _, _ => .error .unclosed
  | fuel + 1, files, text => do
    let (a, rest) ← both fuel files text
    match rest with
    | ['-', 'o'] :: rest =>
      let (b, rest) ← either fuel files rest
      .ok (a || b, rest)
    | _ => .ok (a, rest)

/-- Reads conditions joined by `-a`. -/
def both : Nat → Files → Rest → Except Fault (Bool × Rest)
  | 0, _, _ => .error .unclosed
  | fuel + 1, files, text => do
    let (a, rest) ← negation fuel files text
    match rest with
    | ['-', 'a'] :: rest =>
      let (b, rest) ← both fuel files rest
      .ok (a && b, rest)
    | _ => .ok (a, rest)

def negation : Nat → Files → Rest → Except Fault (Bool × Rest)
  | 0, _, _ => .error .unclosed
  | fuel + 1, files, ['!'] :: rest =>
    (negation fuel files rest).map fun (a, rest) => (!a, rest)
  | fuel + 1, files, text => primary fuel files text

def primary : Nat → Files → Rest → Except Fault (Bool × Rest)
  | 0, _, _ => .error .unclosed
  | _ + 1, _, [] => .ok (false, [])
  | fuel + 1, files, first :: rest =>
    if first = ['('] ∧ rest ≠ [] then do
      let (a, rest) ← either fuel files rest
      match rest with
      | [')'] :: rest => .ok (a, rest)
      | _ => .error .unclosed
    else if isOneOf unary first && !isOperand rest then
      match rest with
      | value :: rest => .ok (ask files (String.ofList first) value, rest)
      | [] => .error (.noOperand first)
    else
      match rest with
      | sign :: more =>
        if isOneOf binary sign then
          match more with
          | second :: rest =>
            (compare files (String.ofList sign) first second).map fun a => (a, rest)
          | [] => .error (.noOperand sign)
        else .ok (first ≠ [], rest)
      | [] => .ok (first ≠ [], [])

end

def general (files : Files) (text : Rest) : Except Fault Bool := do
  let (a, rest) ← either (4 * text.length + 4) files text
  if rest = [] then .ok a
  else .error (.noOperator ((text.drop (text.length - rest.length - 1)).headD []))

/-- The truth of a condition. Three words with a comparison in the middle are always compared. -/
def holds (files : Files) : Rest → Except Fault Bool
  | [] => .ok false
  | [a, sign, b] =>
    if isOneOf binary sign then compare files (String.ofList sign) a b
    else if a = ['('] ∧ b = [')'] then general files [sign]
    else general files [a, sign, b]
  | text => general files text

end Condition

end BoardBind.Script
