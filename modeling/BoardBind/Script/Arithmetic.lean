import BoardBind.Script.Word

/-! # Arithmetic of scripts

Expressions are over integers of 64 bits that wrap around. Names stand for the values of variables
and may be assigned to. An expression is read and evaluated in one go; what is assigned on the way
is collected.
-/

namespace BoardBind.Script.Arithmetic

/-- The integer of 64 bits that an integer wraps around to. -/
def wrap (n : Int) : Int :=
  Int.bmod n 18446744073709551616

def digitValue (c : Char) : Nat :=
  if c.isDigit then c.toNat - '0'.toNat
  else if 'a' ≤ c && c ≤ 'z' then c.toNat - 'a'.toNat + 10
  else if 'A' ≤ c && c ≤ 'Z' then c.toNat - 'A'.toNat + 10
  else 36

def ofDigits (base : Nat) (digits : List Char) : Nat :=
  digits.foldl (fun n c => base * n + digitValue c) 0

def greatest : Nat := 9223372036854775807

/-- The number at the start of a text, in base 16 after `0x`, in base 8 after `0` and else in base
10, and what follows it. Too great a number counts as the greatest. -/
def readNatural (text : List Char) : Option (Nat × List Char) :=
  let take := fun (base : Nat) (text : List Char) =>
    let digits := text.takeWhile fun c => digitValue c < base
    (min greatest (ofDigits base digits), text.drop digits.length)
  match text with
  | '0' :: x :: d :: rest =>
    if (x = 'x' || x = 'X') && digitValue d < 16 then some (take 16 (d :: rest))
    else some (take 8 text)
  | '0' :: _ => some (take 8 text)
  | c :: _ => if c.isDigit then some (take 10 text) else none
  | [] => none

def isBlankChar (c : Char) : Bool :=
  c = ' ' || ('\t' ≤ c && c ≤ '\r')

def skipBlanks (text : List Char) : List Char :=
  text.dropWhile isBlankChar

/-- The integer that a whole text is, with a sign perhaps and with blanks around it. -/
def integer? (text : List Char) : Option Int :=
  let (isNegative, digits) :=
    match skipBlanks text with
    | '-' :: rest => (true, rest)
    | '+' :: rest => (false, rest)
    | rest => (false, rest)
  match readNatural digits with
  | some (n, rest) =>
    if skipBlanks rest = [] then some (if isNegative then -(n : Int) else n) else none
  | none => none

/-- Why an expression has no value. -/
inductive Fault where
  /-- Something is wanted where something else stands. -/
  | expecting (wanted : String)
  | divisionByZero
  /-- A variable holds no number. -/
  | notNumber (value : List Char)
  deriving DecidableEq

def Fault.message (expression : List Char) : Fault → List Char
  | .expecting wanted =>
    ("arithmetic expression: expecting " ++ wanted ++ ": \"").toList ++ expression ++ ['"']
  | .divisionByZero =>
    "arithmetic expression: division by zero: \"".toList ++ expression ++ ['"']
  | .notNumber value => "Illegal number: ".toList ++ value

/-- What an evaluation looks variables up in, and what it has assigned until now. -/
structure Env where
  value : List Char → List Char
  assigned : List (List Char × Int) := []

/-- The value of a variable; a missing or blank one counts as zero. -/
def Env.get (env : Env) (name : List Char) : Except Fault Int :=
  match env.assigned.lookup name with
  | some n => .ok n
  | none =>
    let value := env.value name
    match if skipBlanks value = [] then some 0 else integer? value with
    | some n => .ok n
    | none => .error (.notNumber value)

/-- The operators with two operands and how strongly each binds. Longer signs come first. -/
def operators : List (String × Nat) :=
  [("<<", 8), (">>", 8), ("<=", 7), (">=", 7), ("==", 6), ("!=", 6), ("&&", 2), ("||", 1),
    ("*", 10), ("/", 10), ("%", 10), ("+", 9), ("-", 9), ("<", 7), (">", 7), ("&", 5), ("^", 4),
    ("|", 3)]

def operatorAt? (text : List Char) : Option (String × Nat × List Char) :=
  (operators.find? fun (sign, _) => sign.toList.isPrefixOf text).map fun (sign, strength) =>
    (sign, strength, text.drop sign.length)

def ofBool (b : Bool) : Int := if b then 1 else 0

def bits (n : Int) : Nat := (n % 18446744073709551616).toNat

/-- What an operator makes of two operands. There is no quotient by zero. -/
def apply (sign : String) (a b : Int) : Except Fault Int :=
  match sign with
  | "*" => .ok (wrap (a * b))
  | "/" => if b = 0 then .error .divisionByZero else .ok (wrap (Int.tdiv a b))
  | "%" => if b = 0 then .error .divisionByZero else .ok (wrap (Int.tmod a b))
  | "+" => .ok (wrap (a + b))
  | "-" => .ok (wrap (a - b))
  | "<<" => .ok (wrap ((bits a <<< (bits b % 64) : Nat) : Int))
  | ">>" => .ok (a / ((1 <<< (bits b % 64) : Nat) : Int))
  | "<" => .ok (ofBool (a < b))
  | "<=" => .ok (ofBool (a ≤ b))
  | ">" => .ok (ofBool (b < a))
  | ">=" => .ok (ofBool (b ≤ a))
  | "==" => .ok (ofBool (a = b))
  | "!=" => .ok (ofBool (a ≠ b))
  | "&" => .ok (wrap ((bits a &&& bits b : Nat) : Int))
  | "^" => .ok (wrap ((bits a ^^^ bits b : Nat) : Int))
  | "|" => .ok (wrap ((bits a ||| bits b : Nat) : Int))
  | _ => .ok 0

/-- The assignment sign at the start of a text: the operator it applies first, if any, and what
follows it. -/
def assignAt? (text : List Char) : Option (String × List Char) :=
  match text with
  | '=' :: '=' :: _ => none
  | '=' :: rest => some ("", rest)
  | _ =>
    (["<<", ">>", "*", "/", "%", "+", "-", "&", "^", "|"].find? fun sign =>
      (sign.toList ++ ['=']).isPrefixOf text).map fun sign =>
        (sign, text.drop (sign.length + 1))

/-- The name and the sign of an assignment at the start of a text, and what follows them. -/
def assignment? (text : List Char) : Option (List Char × String × List Char) :=
  let name := (skipBlanks text).takeWhile isNameChar
  match name with
  | [] => none
  | c :: _ =>
    if c.isDigit then none
    else (assignAt? (skipBlanks ((skipBlanks text).drop name.length))).map fun (sign, rest) =>
      (name, sign, rest)

/-- A result: a number, what was assigned, and the rest of the text. -/
abbrev Result := Except Fault (Int × Env × List Char)

/-- The fault of an expression without an operand where one is wanted. -/
def noOperand : Result := .error (.expecting "primary")

mutual

/-- Reads an operand. What is not wanted is read but neither assigned nor divided. -/
def operand : Nat → Bool → Env → List Char → Result
  | 0, _, _, _ => noOperand
  | fuel + 1, wanted, env, text =>
    match skipBlanks text with
    | '(' :: rest => do
      let (n, env, rest) ← expression fuel wanted env rest
      match skipBlanks rest with
      | ')' :: rest => .ok (n, env, rest)
      | _ => .error (.expecting "')'")
    | '-' :: rest => (operand fuel wanted env rest).map fun (n, r) => (wrap (-n), r)
    | '+' :: rest => operand fuel wanted env rest
    | '!' :: rest => (operand fuel wanted env rest).map fun (n, r) => (ofBool (n = 0), r)
    | '~' :: rest => (operand fuel wanted env rest).map fun (n, r) => (-n - 1, r)
    | rest =>
      match readNatural rest with
      | some (n, rest) => .ok (n, env, rest)
      | none =>
        let name := rest.takeWhile isNameChar
        let rest := rest.drop name.length
        if name = [] then noOperand
        else if wanted then (env.get name).map fun n => (n, env, rest)
        else .ok (0, env, rest)

/-- Reads operators that bind at least as strongly as given, after their first operand. -/
def operations : Nat → Bool → Nat → Int → Env → List Char → Result
  | 0, _, _, _, _, _ => noOperand
  | fuel + 1, wanted, least, a, env, text =>
    match operatorAt? (skipBlanks text) with
    | none => .ok (a, env, text)
    | some (sign, strength, rest) =>
      if strength < least then .ok (a, env, text)
      else do
        let needsRight := wanted && !(sign = "&&" && a = 0) && !(sign = "||" && a ≠ 0)
        let (b, env, rest) ← operand fuel needsRight env rest
        let (b, env, rest) ← operations fuel needsRight (strength + 1) b env rest
        let n ←
          if sign = "&&" then .ok (ofBool (a ≠ 0 && b ≠ 0))
          else if sign = "||" then .ok (ofBool (a ≠ 0 || b ≠ 0))
          else if wanted then apply sign a b
          else .ok 0
        operations fuel wanted least n env rest

/-- Reads operations with a choice between two values, perhaps. -/
def choice : Nat → Bool → Env → List Char → Result
  | 0, _, _, _ => noOperand
  | fuel + 1, wanted, env, text => do
    let (a, env, rest) ← operand fuel wanted env text
    let (a, env, rest) ← operations fuel wanted 1 a env rest
    match skipBlanks rest with
    | '?' :: rest =>
      let (b, env, rest) ← expression fuel (wanted && a ≠ 0) env rest
      match skipBlanks rest with
      | ':' :: rest =>
        let (c, env, rest) ← choice fuel (wanted && a = 0) env rest
        .ok (if a ≠ 0 then b else c, env, rest)
      | _ => .error (.expecting "':'")
    | rest => .ok (a, env, rest)

/-- Reads an expression: an assignment to a name, or a choice. An operand is never an assignment
without brackets. -/
def expression : Nat → Bool → Env → List Char → Result
  | 0, _, _, _ => noOperand
  | fuel + 1, wanted, env, text =>
    match assignment? text with
    | none => choice fuel wanted env text
    | some (name, sign, rest) => do
      let (n, env, rest) ← expression fuel wanted env rest
      if !wanted then .ok (0, env, rest)
      else
        let n ← if sign = "" then .ok n else apply sign (← env.get name) n
        .ok (n, { env with assigned := (name, n) :: env.assigned }, rest)

end

def evaluate (value : List Char → List Char) (text : List Char) :
    Except Fault (Int × List (List Char × Int)) := do
  let (n, env, rest) ← expression (6 * text.length + 6) true { value } text
  if skipBlanks rest = [] then .ok (n, env.assigned) else .error (.expecting "EOF")

end BoardBind.Script.Arithmetic
