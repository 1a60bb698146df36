import BoardBind.Script.Awk.Syntax
import BoardBind.Script.Awk.Text

/-! # Reading programs for records

The tokens of a program are put together to rules and functions. What stands side by side is joined;
that binds less than arithmetic and more than a comparison.
-/

namespace BoardBind.Script.Awk

abbrev Tokens := List (Token × Nat)

/-- A complaint about the next token. The end of a program has no line. -/
def unexpected {α : Type} : Tokens → Except Fault (α × Tokens)
  | [] => .error ⟨0, "unexpected end of file".toList, false⟩
  | [(.newline, _)] => .error ⟨0, "unexpected end of file".toList, false⟩
  | (token, line) :: _ => .error ⟨line, "syntax error at or near ".toList ++ token.shown, false⟩

def nextIs (sign : String) : Tokens → Bool
  | (.sign s, _) :: _ => s = sign
  | _ => false

def nextIsWord (word : String) : Tokens → Bool
  | (.word w, _) :: _ => w = word
  | _ => false

def expectSign (sign : String) (input : Tokens) : Except Fault (Unit × Tokens) :=
  if nextIs sign input then .ok ((), input.tail) else unexpected input

def behindNewlines : Tokens → Tokens
  | (.newline, _) :: rest => behindNewlines rest
  | input => input

/-- What is left behind line ends and signs that end statements. -/
def behindEnds : Tokens → Tokens
  | (.newline, _) :: rest => behindEnds rest
  | (.sign ";", _) :: rest => behindEnds rest
  | input => input

def assignment? : Tokens → Option (Option Operation)
  | (.sign s, _) :: _ =>
    match s with
    | "=" => some none
    | "+=" => some (some .plus)
    | "-=" => some (some .minus)
    | "*=" => some (some .times)
    | "/=" => some (some .over)
    | "%=" => some (some .modulo)
    | "^=" => some (some .power)
    | _ => none
  | _ => none

/-- The comparison of a sign; the sign for greater may be one that redirects. -/
def comparison? (isPrinting : Bool) : Tokens → Option Comparison
  | (.sign s, _) :: _ =>
    match s with
    | "<" => some .less
    | "<=" => some .lessEqual
    | "==" => some .equal
    | "!=" => some .unequal
    | ">" => if isPrinting then none else some .greater
    | ">=" => some .greaterEqual
    | _ => none
  | _ => none

/-- Whether an operand can start with the next token when something stands before it. -/
def startsOperand : Tokens → Bool
  | (token, _) :: _ =>
    match token with
    | .number _ => true
    | .text _ => true
    | .regex _ => true
    | .name _ => true
    | .function _ => true
    | .builtin _ => true
    | .word w => w = "getline"
    | .sign s => s ∈ ["$", "!", "(", "++", "--"]
    | .newline => false
  | [] => false

/-- Whether a function can be called with so many arguments. -/
def takesCount (function : String) (count : Nat) : Bool :=
  match function with
  | "length" => count ≤ 1
  | "index" => count = 2
  | "substr" => count = 2 || count = 3
  | "sprintf" => 1 ≤ count
  | "atan2" => count = 2
  | "rand" => count = 0
  | "srand" => count ≤ 1
  | "sub" => count = 2 || count = 3
  | "gsub" => count = 2 || count = 3
  | "match" => count = 2
  | "split" => count = 2 || count = 3
  | "fflush" => count ≤ 1
  | "strftime" => count ≤ 3
  | "systime" => count = 0
  | "mktime" => count = 1 || count = 2
  | _ => count = 1

mutual

/-- Reads an expression. Where something is printed, the sign for greater is not part of it. -/
def readExpr : Nat → Bool → Tokens → Except Fault (Expr × Tokens)
  | 0, _, input => unexpected input
  | fuel + 1, printing, input => do
    let (condition, input) ← readEither fuel printing input
    if nextIs "?" input then
      let (yes, input) ← readExpr fuel printing (behindNewlines input.tail)
      let (_, input) ← expectSign ":" (behindNewlines input)
      let (no, input) ← readExpr fuel printing (behindNewlines input)
      return (.choice condition yes no, input)
    else return (condition, input)

def readEither : Nat → Bool → Tokens → Except Fault (Expr × Tokens)
  | 0, _, input => unexpected input
  | fuel + 1, printing, input => do
    let (first, input) ← readBoth fuel printing input
    moreEither fuel printing first input

def moreEither : Nat → Bool → Expr → Tokens → Except Fault (Expr × Tokens)
  | 0, _, _, input => unexpected input
  | fuel + 1, printing, first, input =>
    if nextIs "||" input then do
      let (next, input) ← readBoth fuel printing input.tail
      moreEither fuel printing (.either first next) input
    else .ok (first, input)

def readBoth : Nat → Bool → Tokens → Except Fault (Expr × Tokens)
  | 0, _, input => unexpected input
  | fuel + 1, printing, input => do
    let (first, input) ← readMember fuel printing input
    moreBoth fuel printing first input

def moreBoth : Nat → Bool → Expr → Tokens → Except Fault (Expr × Tokens)
  | 0, _, _, input => unexpected input
  | fuel + 1, printing, first, input =>
    if nextIs "&&" input then do
      let (next, input) ← readMember fuel printing input.tail
      moreBoth fuel printing (.both first next) input
    else .ok (first, input)

def readMember : Nat → Bool → Tokens → Except Fault (Expr × Tokens)
  | 0, _, input => unexpected input
  | fuel + 1, printing, input => do
    let (first, input) ← readFit fuel printing input
    moreMember fuel first input

/-- Reads more tests whether something is in an array. -/
def moreMember : Nat → Expr → Tokens → Except Fault (Expr × Tokens)
  | 0, _, input => unexpected input
  | fuel + 1, first, input =>
    match input with
    | (.word "in", _) :: (.name array, _) :: rest =>
      let keys := match first with
        | .list items => items
        | key => [key]
      moreMember fuel (.isIn keys array) rest
    | _ => .ok (first, input)

/-- Reads a test whether something fits an expression. -/
def readFit : Nat → Bool → Tokens → Except Fault (Expr × Tokens)
  | 0, _, input => unexpected input
  | fuel + 1, printing, input => do
    let (first, input) ← readComparison fuel printing input
    moreFit fuel printing first input

/-- Reads more tests whether something fits an expression. -/
def moreFit : Nat → Bool → Expr → Tokens → Except Fault (Expr × Tokens)
  | 0, _, _, input => unexpected input
  | fuel + 1, printing, first, input =>
    if nextIs "~" input || nextIs "!~" input then do
      let (pattern, rest) ← readComparison fuel printing input.tail
      moreFit fuel printing (.fits (nextIs "~" input) first pattern) rest
    else .ok (first, input)

def readComparison : Nat → Bool → Tokens → Except Fault (Expr × Tokens)
  | 0, _, input => unexpected input
  | fuel + 1, printing, input => do
    let (first, input) ← readJoined fuel printing input
    moreComparison fuel printing first input

def moreComparison : Nat → Bool → Expr → Tokens → Except Fault (Expr × Tokens)
  | 0, _, _, input => unexpected input
  | fuel + 1, printing, first, input =>
    match comparison? printing input with
    | some comparison => do
      let (next, input) ← readJoined fuel printing input.tail
      moreComparison fuel printing (.compare comparison first next) input
    | none => .ok (first, input)

def readJoined : Nat → Bool → Tokens → Except Fault (Expr × Tokens)
  | 0, _, input => unexpected input
  | fuel + 1, printing, input => do
    let (first, input) ← readSum fuel printing input
    moreJoined fuel printing first input

/-- Reads more of what stands side by side. -/
def moreJoined : Nat → Bool → Expr → Tokens → Except Fault (Expr × Tokens)
  | 0, _, _, input => unexpected input
  | fuel + 1, printing, first, input =>
    if startsOperand input then do
      let (next, input) ← readSum fuel printing input
      moreJoined fuel printing (.joined first next) input
    else .ok (first, input)

def readSum : Nat → Bool → Tokens → Except Fault (Expr × Tokens)
  | 0, _, input => unexpected input
  | fuel + 1, printing, input => do
    let (first, input) ← readProduct fuel printing input
    moreSum fuel printing first input

def moreSum : Nat → Bool → Expr → Tokens → Except Fault (Expr × Tokens)
  | 0, _, _, input => unexpected input
  | fuel + 1, printing, first, input =>
    if nextIs "+" input || nextIs "-" input then do
      let operation := if nextIs "+" input then Operation.plus else .minus
      let (next, rest) ← readProduct fuel printing input.tail
      moreSum fuel printing (.arithmetic operation first next) rest
    else .ok (first, input)

def readProduct : Nat → Bool → Tokens → Except Fault (Expr × Tokens)
  | 0, _, input => unexpected input
  | fuel + 1, printing, input => do
    let (first, input) ← readSigned fuel printing input
    moreProduct fuel printing first input

def moreProduct : Nat → Bool → Expr → Tokens → Except Fault (Expr × Tokens)
  | 0, _, _, input => unexpected input
  | fuel + 1, printing, first, input =>
    let operation := if nextIs "*" input then some Operation.times
      else if nextIs "/" input then some .over
      else if nextIs "%" input then some .modulo
      else none
    match operation with
    | some operation => do
      let (next, rest) ← readSigned fuel printing input.tail
      moreProduct fuel printing (.arithmetic operation first next) rest
    | none => .ok (first, input)

def readSigned : Nat → Bool → Tokens → Except Fault (Expr × Tokens)
  | 0, _, input => unexpected input
  | fuel + 1, printing, input => do
    if nextIs "!" input then
      let (e, input) ← readSigned fuel printing input.tail
      return (.opposite e, input)
    else if nextIs "-" input then
      let (e, input) ← readSigned fuel printing input.tail
      return (.negative e, input)
    else if nextIs "+" input then
      let (e, input) ← readSigned fuel printing input.tail
      return (.positive e, input)
    else
      let (e, input) ← readPower fuel printing input
      moreLines fuel printing e input

/-- Reads the commands whose output is taken line by line. Where something is printed, the sign
before a command sends it there. -/
def moreLines : Nat → Bool → Expr → Tokens → Except Fault (Expr × Tokens)
  | 0, _, _, input => unexpected input
  | _ + 1, true, command, input => .ok (command, input)
  | fuel + 1, false, command, input =>
    match input with
    | (.sign "|", _) :: (.word "getline", _) :: rest => do
      let (target, rest) ← readTarget? fuel rest
      moreLines fuel false (.commandLine command target) rest
    | _ => .ok (command, input)

def readPower : Nat → Bool → Tokens → Except Fault (Expr × Tokens)
  | 0, _, input => unexpected input
  | fuel + 1, printing, input => do
    let (base, input) ← readCounted fuel printing input
    if nextIs "^" input then
      let isSigned := ["-", "+", "!"].any fun sign => nextIs sign input.tail
      let (exponent, input) ←
        if isSigned then readSigned fuel printing input.tail
        else readPower fuel printing input.tail
      return (.arithmetic .power base exponent, input)
    else return (base, input)

/-- Reads an operand that may be counted up or down, or assigned to. -/
def readCounted : Nat → Bool → Tokens → Except Fault (Expr × Tokens)
  | 0, _, input => unexpected input
  | fuel + 1, printing, input => do
    let (e, input) ← readOperand fuel input
    if !e.isTarget then return (e, input)
    else if nextIs "++" input then return (.step false true e, input.tail)
    else if nextIs "--" input then return (.step false false e, input.tail)
    else
      match assignment? input with
      | some operation =>
        let (value, input) ← readExpr fuel printing (behindNewlines input.tail)
        return (.assign operation e value, input)
      | none => return (e, input)

/-- Reads something that a value is assigned to, if there is one. -/
def readTarget? : Nat → Tokens → Except Fault (Option Expr × Tokens)
  | 0, input => unexpected input
  | fuel + 1, input =>
    let startsTarget := match input with
      | (.name _, _) :: _ => true
      | (.sign "$", _) :: _ => true
      | _ => false
    if startsTarget then do
      let (e, input) ← readOperand fuel input
      return (some e, input)
    else .ok (none, input)

def readOperand : Nat → Tokens → Except Fault (Expr × Tokens)
  | 0, input => unexpected input
  | fuel + 1, input =>
    match input with
    | (.number x, _) :: rest => .ok (.number x, rest)
    | (.text t, _) :: rest => .ok (.text t, rest)
    | (.regex source, line) :: rest =>
      match readRegex source with
      | .ok _ => .ok (.regex source, rest)
      | .error reason =>
        .error { line, message := "regular expression compile failed (".toList ++
          reason.toList ++ ")\n".toList ++ source }
    | (.name n, _) :: rest =>
      if nextIs "[" rest then do
        let (keys, rest) ← readList fuel rest.tail
        let (_, rest) ← expectSign "]" rest
        return (.item n keys, rest)
      else .ok (.name n, rest)
    | (.function n, _) :: rest => do
      let (arguments, rest) ← readArguments fuel rest
      return (.call n arguments, rest)
    | (.builtin n, line) :: rest => do
      if nextIs "(" rest then
        let (arguments, rest) ← readArguments fuel rest
        if takesCount n arguments.length then return (.builtin n arguments, rest)
        else throw ⟨line, "wrong number of arguments in call to ".toList ++ n.toList, false⟩
      else if n = "length" then return (.builtin n [], rest)
      else unexpected ((.builtin n, line) :: rest)
    | (.sign "$", _) :: rest => do
      if nextIs "-" rest then
        let (e, rest) ← readOperand fuel rest.tail
        return (.field (.negative e), rest)
      else
        let (e, rest) ← readOperand fuel rest
        return (.field e, rest)
    | (.sign "++", _) :: rest => do
      let (e, rest) ← readOperand fuel rest
      if e.isTarget then return (.step true true e, rest) else unexpected rest
    | (.sign "--", _) :: rest => do
      let (e, rest) ← readOperand fuel rest
      if e.isTarget then return (.step true false e, rest) else unexpected rest
    | (.sign "(", _) :: rest => do
      let (items, rest) ← readList fuel (behindNewlines rest)
      let (_, rest) ← expectSign ")" (behindNewlines rest)
      if items.length = 1 || nextIsWord "in" rest then return (.list items, rest)
      else unexpected rest
    | (.word "getline", _) :: rest => do
      let (target, rest) ← readTarget? fuel rest
      if nextIs "<" rest then
        let (file, rest) ← readOperand fuel rest.tail
        return (.fileLine file target, rest)
      else return (.line target, rest)
    | input => unexpected input

def readList : Nat → Tokens → Except Fault (List Expr × Tokens)
  | 0, input => unexpected input
  | fuel + 1, input => do
    let (first, input) ← readExpr fuel false input
    let input := behindNewlines input
    if nextIs "," input then
      let (more, input) ← readList fuel (behindNewlines input.tail)
      return (first :: more, input)
    else return ([first], input)

def readArguments : Nat → Tokens → Except Fault (List Expr × Tokens)
  | 0, input => unexpected input
  | fuel + 1, input => do
    let (_, input) ← expectSign "(" input
    let input := behindNewlines input
    if nextIs ")" input then return ([], input.tail)
    else
      let (items, input) ← readList fuel input
      let (_, input) ← expectSign ")" (behindNewlines input)
      return (items, input)

end

def readPrinted : Nat → Tokens → Except Fault (List Expr × Tokens)
  | 0, input => unexpected input
  | fuel + 1, input => do
    let (first, input) ← readExpr (fuel + 1) true input
    if nextIs "," input then
      let (more, input) ← readPrinted fuel (behindNewlines input.tail)
      return (first :: more, input)
    else return ([first], input)

def isEnd : Tokens → Bool
  | (.newline, _) :: _ => true
  | (.sign s, _) :: _ => s = ";" || s = "\x7d"
  | [] => true
  | _ => false

def readEnd : Tokens → Except Fault (Unit × Tokens)
  | (.newline, _) :: rest => .ok ((), rest)
  | (.sign ";", _) :: rest => .ok ((), rest)
  | (.sign "\x7d", line) :: rest => .ok ((), (.sign "\x7d", line) :: rest)
  | [] => .ok ((), [])
  | input => unexpected input

def readOutlet (fuel : Nat) (input : Tokens) : Except Fault ((Option (Outlet × Expr)) × Tokens) :=
  let outlet := if nextIs ">" input then some Outlet.file
    else if nextIs ">>" input then some .appended
    else if nextIs "|" input then some .command
    else none
  match outlet with
  | none => .ok (none, input)
  | some outlet => do
    let (target, input) ← readExpr fuel true input.tail
    return (some (outlet, target), input)

/-- Reads what is printed in brackets, if nothing but that is printed. -/
def readBracketed? (fuel : Nat) (input : Tokens) : Option (List Expr × Tokens) :=
  let read := do
    let (_, input) ← expectSign "(" input
    let (items, input) ← readList fuel (behindNewlines input)
    let (_, input) ← expectSign ")" (behindNewlines input)
    return (items, input)
  match read with
  | .ok (items, rest) =>
    if isEnd rest || [">", ">>", "|"].any fun sign => nextIs sign rest then some (items, rest)
    else none
  | .error _ => none

def readPrint (fuel : Nat) (input : Tokens) :
    Except Fault ((List Expr × Option (Outlet × Expr)) × Tokens) := do
  let startsOutlet := [">", ">>", "|"].any fun sign => nextIs sign input
  let (items, input) ← if isEnd input || startsOutlet then .ok ([], input)
    else (readBracketed? fuel input).elim (readPrinted fuel input) .ok
  let (outlet, input) ← readOutlet fuel input
  return ((items, outlet), input)

def readSimple (fuel : Nat) (input : Tokens) : Except Fault (Statement × Tokens) :=
  match input with
  | (.word "print", _) :: rest => do
    let ((items, outlet), rest) ← readPrint fuel rest
    return (.print items outlet, rest)
  | (.word "printf", _) :: rest => do
    let ((items, outlet), rest) ← readPrint fuel rest
    match items, rest with
    | [], (_, line) :: _ => throw ⟨line, "no arguments in call to printf".toList, false⟩
    | _, _ => return (.printf items outlet, rest)
  | (.word "delete", _) :: (.name array, _) :: rest => do
    if nextIs "[" rest then
      let (keys, rest) ← readList fuel rest.tail
      let (_, rest) ← expectSign "]" rest
      return (.delete array keys, rest)
    else return (.deleteAll array, rest)
  | (.word "delete", _) :: (.sign "(", _) :: (.name array, _) :: (.sign ")", _) :: rest =>
    .ok (.deleteAll array, rest)
  | input => do
    let (e, rest) ← readExpr fuel false input
    return (.evaluate e, rest)

def readValue? (fuel : Nat) (input : Tokens) : Except Fault (Option Expr × Tokens) :=
  if isEnd input then .ok (none, input)
  else do
    let (e, rest) ← readExpr fuel false input
    return (some e, rest)

mutual

def readStatement : Nat → Tokens → Except Fault (Statement × Tokens)
  | 0, input => unexpected input
  | fuel + 1, input =>
    match input with
    | (.sign "\x7b", _) :: rest => readBlock fuel rest
    | (.sign ";", _) :: rest => .ok (.block [], rest)
    | (.word "if", _) :: rest => do
      let (condition, rest) ← readCondition fuel rest
      let (yes, rest) ← readStatement fuel (behindNewlines rest)
      let later := behindEnds rest
      if nextIsWord "else" later then
        let (no, rest) ← readStatement fuel (behindNewlines later.tail)
        return (.choose condition yes (some no), rest)
      else return (.choose condition yes none, rest)
    | (.word "while", _) :: rest => do
      let (condition, rest) ← readCondition fuel rest
      if nextIs ";" rest then return (.whileDo condition (.block []), rest.tail)
      else
        let (body, rest) ← readStatement fuel (behindNewlines rest)
        return (.whileDo condition body, rest)
    | (.word "do", _) :: rest => do
      let (body, rest) ← readStatement fuel (behindNewlines rest)
      let rest := behindEnds rest
      if nextIsWord "while" rest then
        let (condition, rest) ← readCondition fuel rest.tail
        let (_, rest) ← readEnd rest
        return (.doWhile body condition, rest)
      else unexpected rest
    | (.word "for", _) :: rest => readFor fuel rest
    | (.word "break", _) :: rest => ended .leave rest
    | (.word "continue", _) :: rest => ended .again rest
    | (.word "next", _) :: rest => ended .next rest
    | (.word "nextfile", _) :: rest => ended .nextFile rest
    | (.word "exit", _) :: rest => do
      let (status, rest) ← readValue? fuel rest
      ended (.exit status) rest
    | (.word "return", _) :: rest => do
      let (value, rest) ← readValue? fuel rest
      ended (.giveBack value) rest
    | input => do
      let (statement, rest) ← readSimple fuel input
      ended statement rest

def ended (statement : Statement) (input : Tokens) : Except Fault (Statement × Tokens) := do
  let (_, rest) ← readEnd input
  return (statement, rest)

def readCondition (fuel : Nat) (input : Tokens) : Except Fault (Expr × Tokens) := do
  let (_, input) ← expectSign "(" input
  let (condition, input) ← readExpr fuel false (behindNewlines input)
  let (_, input) ← expectSign ")" (behindNewlines input)
  return (condition, input)

/-- Reads a loop that counts, or one over the keys of an array. -/
def readFor : Nat → Tokens → Except Fault (Statement × Tokens)
  | 0, input => unexpected input
  | fuel + 1, input =>
    match input with
    | (.sign "(", _) :: (.name n, _) :: (.word "in", _) :: (.name array, _) :: (.sign ")", _) ::
        rest => do
      let (body, rest) ← readStatement fuel (behindNewlines rest)
      return (.each n array body, rest)
    | input => do
      let (_, input) ← expectSign "(" input
      let (start, input) ← if nextIs ";" input then .ok (none, input)
        else (readSimple fuel input).map fun (s, rest) => (some s, rest)
      let (_, input) ← expectSign ";" input
      let input := behindNewlines input
      let (condition, input) ← if nextIs ";" input then .ok (none, input)
        else (readExpr fuel false input).map fun (e, rest) => (some e, rest)
      let (_, input) ← expectSign ";" input
      let input := behindNewlines input
      let (step, input) ← if nextIs ")" input then .ok (none, input)
        else (readSimple fuel input).map fun (s, rest) => (some s, rest)
      let (_, input) ← expectSign ")" input
      if nextIs ";" input then return (.count start condition step (.block []), input.tail)
      else
        let (body, input) ← readStatement fuel (behindNewlines input)
        return (.count start condition step body, input)

def readBlock : Nat → Tokens → Except Fault (Statement × Tokens)
  | 0, input => unexpected input
  | fuel + 1, input =>
    let input := behindEnds input
    if nextIs "\x7d" input then .ok (.block [], input.tail)
    else do
      let (first, input) ← readStatement fuel input
      let (rest, input) ← readBlock fuel input
      match rest with
      | .block body => return (.block (first :: body), input)
      | other => return (.block [first, other], input)

end

def readParameters : Tokens → Except Fault (List (List Char) × Tokens)
  | (.sign ")", _) :: rest => .ok ([], rest)
  | (.name n, _) :: (.sign ",", _) :: rest =>
    (readParameters (rest)).map fun (more, rest) => (n :: more, rest)
  | (.name n, _) :: (.sign ")", _) :: rest => .ok ([n], rest)
  | input => unexpected input

def readAction (fuel : Nat) (input : Tokens) : Except Fault (Option Statement × Tokens) :=
  if nextIs "\x7b" input then
    (readBlock fuel input.tail).map fun (body, rest) => (some body, rest)
  else .ok (none, input)

/-- Where a statement stands. -/
inductive Scope where
  | rule
  /-- An action for the start or for the end. -/
  | border
  | function
  deriving DecidableEq

/-- The complaint about a word that has no place where it stands. -/
def misused? (scope : Scope) : Token → Option (List Char)
  | .word w =>
    if (w = "next" || w = "nextfile") && scope ≠ .rule then
      some ("improper use of ".toList ++ w.toList)
    else if w = "return" && scope ≠ .function then some "return outside function body".toList
    else none
  | _ => none

mutual

def Statement.strayWord? : Statement → Option String
  | .leave => some "break"
  | .again => some "continue"
  | .block body => strayWordIn? body
  | .choose _ yes none => yes.strayWord?
  | .choose _ yes (some no) => yes.strayWord?.or no.strayWord?
  | _ => none

/-- The first word of statements for loops that is in no loop. -/
def strayWordIn? : List Statement → Option String
  | [] => none
  | statement :: rest => statement.strayWord?.or (strayWordIn? rest)

end

/-- Complains about words that have no place in an action. The tokens are those from the start of
the action, and those from its end. -/
def checkedWords (scope : Scope) (body : Option Statement) (input rest : Tokens) :
    Except Fault Unit := do
  let inside := input.take (input.length - rest.length)
  for (token, line) in inside do
    match misused? scope token with
    | some message => throw ⟨line, message, false⟩
    | none => pure ()
  match body.bind Statement.strayWord? with
  | some w =>
    let line := (inside.find? fun t => nextIsWord w [t]).elim 1 (·.2)
    throw ⟨line, w.toList ++ " statement outside of loop".toList, false⟩
  | none => return ()

def readRule (fuel : Nat) (program : Program) (input : Tokens) : Except Fault (Program × Tokens) :=
  match input with
  | (.word "function", line) :: (named, _) :: (.sign "(", _) :: rest => do
    let n ← match named with
      | .function n => .ok n
      | .name n => .ok n
      | _ => (unexpected input).map fun (n, _) => n
    if program.functions.any fun f => f.name = n then
      throw ⟨line, "redefinition of ".toList ++ n, false⟩
    let (parameters, rest) ← readParameters rest
    let rest := behindNewlines rest
    let (_, rest) ← expectSign "\x7b" rest
    let (body, rest) ← readBlock fuel rest
    checkedWords .function (some body) input rest
    return ({ program with functions := program.functions ++ [⟨n, parameters, body⟩] }, rest)
  | (.word "function", _) :: (.name _, _) :: rest => unexpected rest
  | (.word "function", _) :: (.function _, _) :: rest => unexpected rest
  | (.word "function", _) :: rest => unexpected rest
  | (.word "BEGIN", _) :: rest => do
    let (action, rest) ← readAction fuel rest
    checkedWords .border action input rest
    if action.isNone then unexpected rest
    else return ({ program with rules := program.rules ++ [⟨.start, action⟩] }, rest)
  | (.word "END", _) :: rest => do
    let (action, rest) ← readAction fuel rest
    checkedWords .border action input rest
    if action.isNone then unexpected rest
    else return ({ program with rules := program.rules ++ [⟨.finish, action⟩] }, rest)
  | input => do
    if nextIs "\x7b" input then
      let (action, rest) ← readAction fuel input
      checkedWords .rule action input rest
      return ({ program with rules := program.rules ++ [⟨.always, action⟩] }, rest)
    else
      let (first, rest) ← readExpr fuel false input
      if nextIs "," rest then
        let (last, rest) ← readExpr fuel false (behindNewlines rest.tail)
        let (action, rest) ← readAction fuel rest
        checkedWords .rule action input rest
        return ({ program with rules := program.rules ++ [⟨.range first last, action⟩] }, rest)
      else
        let (action, rest) ← readAction fuel rest
        checkedWords .rule action input rest
        return ({ program with rules := program.rules ++ [⟨.condition first, action⟩] }, rest)

def readRules : Nat → Program → Tokens → Except Fault Program
  | 0, program, _ => .ok program
  | fuel + 1, program, input =>
    let input := behindEnds input
    if input.isEmpty then .ok program
    else do
      let (program, rest) ← readRule (16 * input.length + 64) program input
      let isSeparate := rest.isEmpty || isEnd rest || rest.length < input.length
      if isSeparate then readRules fuel program rest else .ok program

/-- The complaint about a program that ends too early. -/
def endFault (input : Tokens) : Fault :=
  let count := fun sign : String => input.countP fun t => nextIs sign [t]
  let last := (input.getLast?.map (·.2)).getD 1
  if count "\x7d" < count "\x7b" then ⟨last + 1, "missing \x7d near end of file".toList, false⟩
  else ⟨last, "syntax error at or near end of line".toList, false⟩

/-- The program that a text is. All functions that it calls must be there. -/
def programOf (text : List Char) : Except Fault Program := do
  let input ← tokensOf text
  let program ← tryCatch (readRules (input.length + 1) {} input) fun fault =>
    throw (if fault.line = 0 then endFault input else fault)
  let missing := input.findSome? fun
    | (.function n, _) => if program.functions.any (·.name = n) then none else some n
    | _ => none
  match missing with
  | some n =>
    let last := (input.getLast?.map (·.2)).getD 1
    .error ⟨last + 1, "function ".toList ++ n ++ " never defined".toList, false⟩
  | none => return program

end BoardBind.Script.Awk
