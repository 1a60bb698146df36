import BoardBind.Script.Options
import BoardBind.Script.Regex.Reader

/-! # A calculator for scripts

The program `expr` evaluates an expression whose operands and operators are its arguments.
-/

namespace BoardBind.Script

/-- The number that an operand of `expr` is: digits, perhaps behind a minus sign. -/
def exprInteger? (value : List Char) : Option Int :=
  match value with
  | '-' :: digits => (natural? digits).map fun n => -(n : Int)
  | digits => (natural? digits).map fun n => (n : Int)

/-- The truth of an operand of `expr`. -/
def isTruthy (value : List Char) : Bool :=
  value ≠ [] && exprInteger? value ≠ some 0

/-- Why `expr` cannot evaluate its arguments. -/
inductive ExprError where
  /-- An operand is wanted where the arguments end. -/
  | missing
  /-- A bracket is wanted where the arguments end. -/
  | unclosed
  /-- A bracket is wanted where another argument stands. -/
  | unclosedAt (argument : List Char)
  /-- A bracket closes where none is open. -/
  | unopened
  /-- An operator on numbers has another operand. -/
  | notNumber
  | divisionByZero
  /-- An expression to match cannot be read. -/
  | malformed (reason : Regex.Fault)

/-- The text of an error in arguments, of which the last one is given. -/
def ExprError.message (last : List Char) : ExprError → List Char
  | .missing => "syntax error: missing argument after ".toList ++ inMarks last
  | .unclosed => "syntax error: expecting ')' after ".toList ++ inMarks last
  | .unclosedAt argument => "syntax error: expecting ')' instead of ".toList ++ inMarks argument
  | .unopened => "syntax error: unexpected ')'".toList
  | .notNumber => "non-integer argument".toList
  | .divisionByZero => "division by zero".toList
  | .malformed reason => reason.message

/-- What an expression matches at the start of a text: the text of its first group if it has one,
else the number of characters. -/
def matched (text pattern : List Char) : Except ExprError (List Char) :=
  match Regex.read { isExtended := false } pattern with
  | .error reason => .error (.malformed reason)
  | .ok r =>
    match r.regex.matchAt {} (.ofText text) with
    | none => .ok (if 0 < r.groups then [] else ['0'])
    | some p =>
      .ok (if 0 < r.groups then (p.groups.lookup 1).getD [] else decimal (text.length - p.left))

/-- The arithmetic of `expr`. -/
def exprCalculate (sign : String) (a b : List Char) : Except ExprError (List Char) :=
  let number := fun n : Int => (toString n).toList
  match exprInteger? a, exprInteger? b with
  | some x, some y =>
    match sign with
    | "+" => .ok (number (x + y))
    | "-" => .ok (number (x - y))
    | "*" => .ok (number (x * y))
    | "/" => if y = 0 then .error .divisionByZero else .ok (number (Int.tdiv x y))
    | _ => if y = 0 then .error .divisionByZero else .ok (number (Int.tmod x y))
  | _, _ => .error .notNumber

/-- What an operator of `expr` makes of two operands. -/
def exprApply (sign : String) (a b : List Char) : Except ExprError (List Char) :=
  let truth := fun t : Bool => if t then ['1'] else ['0']
  let compared := fun (numbers : Int → Int → Bool) (texts : List Char → List Char → Bool) =>
    match exprInteger? a, exprInteger? b with
    | some x, some y => truth (numbers x y)
    | _, _ => truth (texts a b)
  match sign with
  | "|" => .ok (if isTruthy a then a else if isTruthy b then b else ['0'])
  | "&" => .ok (if isTruthy a && isTruthy b then a else ['0'])
  | "=" => .ok (compared (fun x y => x = y) fun x y => x = y)
  | "!=" => .ok (compared (fun x y => x ≠ y) fun x y => x ≠ y)
  | "<" => .ok (compared (fun x y => x < y) fun x y => decide (x < y))
  | "<=" => .ok (compared (fun x y => x ≤ y) fun x y => !decide (y < x))
  | ">" => .ok (compared (fun x y => y < x) fun x y => decide (y < x))
  | ">=" => .ok (compared (fun x y => y ≤ x) fun x y => !decide (x < y))
  | ":" => matched a b
  | sign => exprCalculate sign a b

/-- Whether the second operand of an operator counts, by the first one. -/
def exprNeedsSecond (sign : String) (a : List Char) : Bool :=
  match sign with
  | "|" => !isTruthy a
  | "&" => isTruthy a
  | _ => true

/-- How strongly an operator of `expr` binds. -/
def exprStrength? (sign : List Char) : Option Nat :=
  match String.ofList sign with
  | "|" => some 1
  | "&" => some 2
  | "=" => some 3
  | "!=" => some 3
  | "<" => some 3
  | "<=" => some 3
  | ">" => some 3
  | ">=" => some 3
  | "+" => some 4
  | "-" => some 4
  | "*" => some 5
  | "/" => some 5
  | "%" => some 5
  | ":" => some 6
  | _ => none

mutual

/-- Evaluates an operand of `expr`. What does not count is read, but cannot fail by its values. -/
def exprOperand (counts : Bool) :
    Nat → List (List Char) → Except ExprError (List Char × List (List Char))
  | 0, _ => .error .missing
  | _ + 1, [] => .error .missing
  | fuel + 1, first :: rest =>
    match String.ofList first with
    | "(" => do
      let (a, rest) ← exprOperand counts fuel rest
      let (a, rest) ← exprOperations counts fuel 1 a rest
      match rest with
      | [')'] :: rest => .ok (a, rest)
      | argument :: _ => .error (.unclosedAt argument)
      | [] => .error .unclosed
    | ")" => .error .unopened
    | "+" =>
      match rest with
      | value :: rest => .ok (value, rest)
      | [] => .error .missing
    | "length" => do
      let (a, rest) ← exprOperand counts fuel rest
      .ok (decimal a.length, rest)
    | "match" => do
      let (a, rest) ← exprOperand counts fuel rest
      let (b, rest) ← exprOperand counts fuel rest
      .ok (← if counts then matched a b else .ok a, rest)
    | "index" => do
      let (a, rest) ← exprOperand counts fuel rest
      let (b, rest) ← exprOperand counts fuel rest
      .ok (decimal ((a.findIdx? fun c => b.contains c).elim 0 (· + 1)), rest)
    | "substr" => do
      let (a, rest) ← exprOperand counts fuel rest
      let (b, rest) ← exprOperand counts fuel rest
      let (c, rest) ← exprOperand counts fuel rest
      match exprInteger? b, exprInteger? c with
      | some start, some size =>
        .ok (if start < 1 || size < 1 then []
          else (a.drop (start.toNat - 1)).take size.toNat, rest)
      | _, _ => .ok ([], rest)
    | _ => .ok (first, rest)

/-- Evaluates operators of `expr` that bind at least as strongly as given. -/
def exprOperations (counts : Bool) : Nat → Nat → List Char → List (List Char) →
    Except ExprError (List Char × List (List Char))
  | 0, _, _, _ => .error .missing
  | _ + 1, _, a, [] => .ok (a, [])
  | fuel + 1, least, a, sign :: rest =>
    match exprStrength? sign with
    | none => .ok (a, sign :: rest)
    | some strength =>
      if strength < least then .ok (a, sign :: rest)
      else do
        let counts' := counts && exprNeedsSecond (String.ofList sign) a
        let (b, rest) ← exprOperand counts' fuel rest
        let (b, rest) ← exprOperations counts' fuel (strength + 1) b rest
        let a ← if counts then exprApply (String.ofList sign) a b else .ok a
        exprOperations counts fuel least a rest

end

def expr : Utility := fun s arguments =>
  let arguments := if arguments.head? = some ['-', '-'] then arguments.tail else arguments
  let result := do
    let (a, rest) ← exprOperand true (4 * arguments.length + 4) arguments
    exprOperations true (4 * arguments.length + 4) 1 a rest
  match result with
  | .ok (value, []) =>
    { printing (value ++ ['\n']) with status := if isTruthy value then 0 else 1 }
  | .ok (_, extra :: _) =>
    s.failing 2 ("syntax error: unexpected argument ".toList ++ inMarks extra)
  | .error reason =>
    match arguments.getLast? with
    | none => s.misused 2 "missing operand".toList
    | some last => s.failing 2 (reason.message last)

end BoardBind.Script
