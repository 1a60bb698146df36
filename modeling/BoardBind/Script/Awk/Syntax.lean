import BoardBind.Script.Decimal
import BoardBind.Script.Format

/-! # Words and syntax of programs for records

A program is cut into numbers, texts, names, words with a meaning of their own, and signs. A slash
divides where a value stands before it; elsewhere it starts an expression between two slashes.

A program is a list of rules: for each record of the input, the actions are carried out whose
patterns fit. Actions are statements, and these hold expressions.
-/

namespace BoardBind.Script.Awk

/-! ## The words of programs for records -/

/-- A part of a program. -/
inductive Token where
  | number (x : Float)
  | text (t : List Char)
  | regex (source : List Char)
  | name (n : List Char)
  /-- A name with an opening bracket right behind it. -/
  | function (n : List Char)
  | builtin (n : String)
  | word (w : String)
  | sign (s : String)
  | newline

def keywords : List String :=
  ["BEGIN", "END", "function", "if", "else", "while", "for", "do", "break", "continue", "next",
    "nextfile", "exit", "return", "in", "delete", "print", "printf", "getline"]

def builtins : List String :=
  ["length", "index", "substr", "sprintf", "sin", "cos", "atan2", "exp", "log", "int", "sqrt",
    "rand", "srand", "sub", "gsub", "match", "split", "close", "system", "toupper", "tolower",
    "fflush", "strftime", "systime", "mktime"]

/-- The signs, longer ones before those that they start with. -/
def signs : List String :=
  ["&&", "||", "++", "--", "+=", "-=", "*=", "/=", "%=", "^=", "==", "!=", "<=", ">=", ">>", "!~",
    "\x7b", "\x7d", "(", ")", "[", "]", ";", ",", "+", "-", "*", "/", "%", "^", "!", "<", ">", "|",
    "?", ":", "~", "$", "="]

def Token.isValue : Token → Bool
  | .number _ => true
  | .text _ => true
  | .regex _ => true
  | .name _ => true
  | .builtin _ => true
  | .sign s => s ∈ [")", "]", "$", "++", "--"]
  | _ => false

/-- Whether a line may end behind a token without ending a statement. -/
def Token.goesOn : Token → Bool
  | .newline => true
  | .sign s => s ∈ ["\x7b", "&&", "||", ",", ";"]
  | .word w => w = "do" || w = "else"
  | _ => false

def Token.shown : Token → List Char
  | .number x => if x.floor == x then (toString x.toUInt64).toList else (toString x).toList
  | .text t => t
  | .regex source => '/' :: source ++ ['/']
  | .name n => n
  | .function n => n
  | .builtin n => n.toList
  | .word w => w.toList
  | .sign s => s.toList
  | .newline => "end of line".toList

def textEscape? : Char → Option Char
  | '"' => some '"'
  | '\\' => some '\\'
  | 'a' => some '\x07'
  | 'b' => some '\x08'
  | 'f' => some '\x0c'
  | 'n' => some '\n'
  | 'r' => some '\r'
  | 't' => some '\t'
  | 'v' => some '\x0b'
  | _ => none

/-- A text with its escapes replaced. An escape that is not known stays as it is. -/
def unescaped : Nat → List Char → List Char
  | 0, text => text
  | _ + 1, [] => []
  | fuel + 1, '\\' :: rest =>
    let octal := (rest.take 3).takeWhile isOctal
    let hexDigits := ((rest.drop 1).take 2).takeWhile isHexDigit
    if octal ≠ [] then
      Char.ofNat (Arithmetic.ofDigits 8 octal % 256) :: unescaped fuel (rest.drop octal.length)
    else if rest.head? = some 'x' && hexDigits ≠ [] then
      Char.ofNat (hexValue hexDigits) :: unescaped fuel (rest.drop (hexDigits.length + 1))
    else
      match rest with
      | '\n' :: rest => unescaped fuel rest
      | c :: rest =>
        match textEscape? c with
        | some plain => plain :: unescaped fuel rest
        | none => '\\' :: c :: unescaped fuel rest
      | [] => ['\\']
  | fuel + 1, c :: rest => c :: unescaped fuel rest

/-- What stands before the end of a text, and what follows it. -/
def quotedPart : List Char → Option (List Char × List Char)
  | [] => none
  | '"' :: rest => some ([], rest)
  | '\\' :: c :: rest => (quotedPart rest).map fun (part, rest) => ('\\' :: c :: part, rest)
  | '\n' :: _ => none
  | c :: rest => (quotedPart rest).map fun (part, rest) => (c :: part, rest)

/-- Where a character of an expression stands. -/
inductive RegexPlace where
  | outside
  | inSet
  /-- In the name of a class of characters in a set. -/
  | inClass

/-- What stands before the slash that ends an expression, and what follows it. A slash in a set does
not end it. -/
def regexPart : RegexPlace → List Char → Option (List Char × List Char)
  | _, [] => none
  | _, '\n' :: _ => none
  | .outside, '/' :: rest => some ([], rest)
  | place, '\\' :: c :: rest =>
    (regexPart place rest).map fun (part, rest) =>
      (if c = '/' then '/' :: part else '\\' :: c :: part, rest)
  | .outside, '[' :: '^' :: ']' :: rest =>
    (regexPart .inSet rest).map fun (part, rest) => ('[' :: '^' :: ']' :: part, rest)
  | .outside, '[' :: ']' :: rest =>
    (regexPart .inSet rest).map fun (part, rest) => ('[' :: ']' :: part, rest)
  | .inSet, '[' :: ':' :: rest =>
    (regexPart .inClass rest).map fun (part, rest) => ('[' :: ':' :: part, rest)
  | .inClass, ':' :: ']' :: rest =>
    (regexPart .inSet rest).map fun (part, rest) => (':' :: ']' :: part, rest)
  | place, c :: rest =>
    let next := match place, c with
      | .outside, '[' => .inSet
      | .inSet, ']' => .outside
      | place, _ => place
    (regexPart next rest).map fun (part, rest) => (c :: part, rest)

def isNameChar (c : Char) : Bool :=
  c.isAlphanum || c = '_'

/-- What is wrong with a program: the line and the words of the complaint. -/
structure Fault where
  line : Nat
  message : List Char
  /-- Whether a character has no meaning at all. -/
  isStrange : Bool := false

def Fault.shown (fault : Fault) : List Char :=
  (if fault.isStrange then [] else "line ".toList) ++ (toString fault.line).toList ++ ": ".toList ++
    fault.message

/-- Cuts a program into tokens, each with its line. The token before is known. -/
def tokens : Nat → Nat → Token → List Char → Except Fault (List (Token × Nat))
  | 0, line, _, _ => .error ⟨line, "program too long".toList, false⟩
  | _ + 1, line, _, [] => .ok [(.newline, line)]
  | fuel + 1, line, last, c :: rest =>
    let on := fun (token : Token) (left : List Char) =>
      (tokens fuel line token left).map ((token, line) :: ·)
    if c = ' ' || c = '\t' || c = '\r' then tokens fuel line last rest
    else if c = '\n' then
      let more := tokens fuel (line + 1) .newline rest
      if last.goesOn then
        (tokens fuel (line + 1) last rest)
      else more.map ((.newline, line) :: ·)
    else if c = '#' then tokens fuel line last (rest.dropWhile (· ≠ '\n'))
    else if c = '\\' && rest.head? = some '\n' then tokens fuel (line + 1) last rest.tail
    else if c = '\\' && rest.take 2 = ['\r', '\n'] then
      tokens fuel (line + 1) last (rest.drop 2)
    else if c = '"' then
      match quotedPart rest with
      | some (part, left) => on (.text (unescaped (part.length + 1) part)) left
      | none => .error ⟨line, "runaway string constant \"".toList ++ rest.take 10 ++ " ...".toList, false⟩
    else if c = '/' && !last.isValue then
      match regexPart .outside rest with
      | some (source, left) => on (.regex source) left
      | none => .error ⟨line, "runaway regular expression /".toList ++ rest.take 10 ++ " ...".toList, false⟩
    else if c.isDigit || (c = '.' && rest.head?.any Char.isDigit) then
      match Decimal.unsigned? (c :: rest) with
      | some (x, left) =>
        let shown := (c :: rest).take (rest.length + 1 - left.length)
        let isSmall := x < 2.2250738585072014e-308 && x != 0
        if isSmall || Decimal.Exact.ofFloat x matches .infinite _ then
          .error ⟨line, shown ++ " : decimal overflow".toList, false⟩
        else on (.number x) left
      | none => .error ⟨line, "bad number".toList, false⟩
    else if c.isAlpha || c = '_' then
      let name := (c :: rest).takeWhile isNameChar
      let left := (c :: rest).drop name.length
      let word := String.ofList name
      if word ∈ keywords then on (.word word) left
      else if word ∈ builtins then on (.builtin word) left
      else if left.head? = some '(' then on (.function name) left
      else on (.name name) left
    else
      match signs.find? fun sign => sign.toList.isPrefixOf (c :: rest) with
      | some sign => on (.sign sign) ((c :: rest).drop sign.length)
      | none =>
        .error ⟨line, "unexpected character '".toList ++ c :: ['\''], true⟩

def tokensOf (text : List Char) : Except Fault (List (Token × Nat)) :=
  tokens (2 * text.length + 2) 1 .newline text

/-! ## Programs for records -/

/-- How two values are compared. -/
inductive Comparison where
  | less
  | lessEqual
  | equal
  | unequal
  | greater
  | greaterEqual
  deriving DecidableEq

/-- The operations of arithmetic. -/
inductive Operation where
  | plus
  | minus
  | times
  | over
  | modulo
  | power
  deriving DecidableEq

inductive Expr where
  | number (x : Float)
  | text (t : List Char)
  /-- An expression that a record fits. -/
  | regex (source : List Char)
  | name (n : List Char)
  | field (index : Expr)
  | item (array : List Char) (keys : List Expr)
  | assign (operation : Option Operation) (target value : Expr)
  /-- Counts up or down; the value is the one before or after that. -/
  | step (isBefore isUp : Bool) (target : Expr)
  | choice (condition yes no : Expr)
  | both (a b : Expr)
  | either (a b : Expr)
  | opposite (e : Expr)
  | negative (e : Expr)
  | positive (e : Expr)
  | arithmetic (operation : Operation) (a b : Expr)
  | joined (a b : Expr)
  | compare (comparison : Comparison) (a b : Expr)
  | fits (isWanted : Bool) (subject pattern : Expr)
  | isIn (keys : List Expr) (array : List Char)
  | call (function : List Char) (arguments : List Expr)
  | builtin (function : String) (arguments : List Expr)
  /-- The next line of the input. -/
  | line (target : Option Expr)
  | fileLine (file : Expr) (target : Option Expr)
  | commandLine (command : Expr) (target : Option Expr)
  /-- Several expressions in brackets. -/
  | list (items : List Expr)

/-- Where something is printed to. -/
inductive Outlet where
  | file
  | appended
  | command
  deriving DecidableEq

inductive Statement where
  | block (body : List Statement)
  | print (items : List Expr) (outlet : Option (Outlet × Expr))
  | printf (items : List Expr) (outlet : Option (Outlet × Expr))
  | choose (condition : Expr) (yes : Statement) (no : Option Statement)
  | whileDo (condition : Expr) (body : Statement)
  | doWhile (body : Statement) (condition : Expr)
  | count (start : Option Statement) (condition : Option Expr) (step : Option Statement)
      (body : Statement)
  | each (name array : List Char) (body : Statement)
  | evaluate (e : Expr)
  | next
  | nextFile
  | exit (status : Option Expr)
  | giveBack (value : Option Expr)
  | leave
  | again
  | delete (array : List Char) (keys : List Expr)
  | deleteAll (array : List Char)

/-- When an action is carried out. -/
inductive Pattern where
  | start
  | finish
  | always
  | condition (e : Expr)
  | range (first last : Expr)

/-- A pattern with its action; without one, the record is printed. -/
structure Rule where
  pattern : Pattern
  action : Option Statement := none

structure Function where
  name : List Char
  parameters : List (List Char)
  body : Statement

structure Program where
  rules : List Rule := []
  functions : List Function := []

def Expr.isTarget : Expr → Bool
  | .name _ => true
  | .field _ => true
  | .item .. => true
  | _ => false

end BoardBind.Script.Awk
