import BoardBind.Script.Syntax

/-! # Reading words

A word ends at a blank or an operator outside of quotes. Inside of it stand quotes, parameters,
arithmetic expressions and whole commands, whose reader is handed in.
-/

namespace BoardBind.Script

/-- The characters that end a word outside of quotes. -/
def endsWord (c : Char) : Bool :=
  c ∈ [' ', '\t', '\n', ';', '&', '|', '<', '>', '(', ')']

/-- Where a stretch of a word is read. -/
inductive Context where
  /-- Outside of quotes, up to a character that ends words. -/
  | bare
  /-- As outside of quotes, but with nothing to expand. -/
  | verbatim
  /-- Between double quotes. -/
  | double
  /-- After the name of a parameter in braces. -/
  | braces (isQuoted : Bool)
  /-- In a text that is a word as a whole. -/
  | document
  /-- In an arithmetic expression, inside of so many parentheses. -/
  | arithmetic (depth : Nat)
  deriving DecidableEq

namespace Context

def isQuoted : Context → Bool
  | .bare => false
  | .verbatim => false
  | .braces isQuoted => isQuoted
  | _ => true

/-- Whether a backslash takes away the meaning of a character. -/
def isEscapable : Context → Char → Bool
  | .bare, _ => true
  | .verbatim, _ => true
  | .braces false, _ => true
  | .braces true, c => c ∈ ['$', '\x60', '"', '\\', '\x7d']
  | .document, c => c ∈ ['$', '\x60', '\\']
  | _, c => c ∈ ['$', '\x60', '"', '\\']

def hasQuotes : Context → Bool
  | .document => false
  | .arithmetic _ => false
  | _ => true

/-- What is wrong if the text ends in a stretch. -/
def openFault? : Context → Option SyntaxFault
  | .double => some .openQuotes
  | .braces true => some .openQuotes
  | .braces false => some .openBrace
  | .arithmetic _ => some .openArithmetic
  | _ => none

end Context

/-- Reads the commands inside of a word, up to a closing parenthesis or up to the end of the text. -/
abbrev CommandsReader := Bool → Reading (List Command)

/-- Reads a stretch of a word; the pieces before it are handed in, the last first. -/
abbrev StretchReader := Context → List Piece → Reading Word

namespace Reading

def singleQuoted : Reading (List Char) := fun c =>
  let inner := c.text.takeWhile (· ≠ '\'')
  match c.text.drop inner.length with
  | [] => .error ⟨c.line, .openQuotes⟩
  | _ :: text => .ok (inner, { c with text, line := c.line + inner.count '\n' })

/-- Cuts a text at the next backquote and takes away the backslashes that protect characters from
being read too early. -/
def closingBackquote (isQuoted : Bool) : List Char → Option (List Char × List Char)
  | [] => none
  | '\x60' :: rest => some ([], rest)
  | '\\' :: '\n' :: rest => closingBackquote isQuoted rest
  | '\\' :: c :: rest =>
    let isProtected := c ∈ ['$', '\x60', '\\'] || (isQuoted && c = '"')
    (closingBackquote isQuoted rest).map fun (inner, rest) =>
      (if isProtected then c :: inner else '\\' :: c :: inner, rest)
  | c :: rest => (closingBackquote isQuoted rest).map fun (inner, rest) => (c :: inner, rest)

def backquoted (commands : CommandsReader) (isQuoted : Bool) : Reading Piece := fun c =>
  match closingBackquote isQuoted c.text with
  | none => .error ⟨c.line + c.text.count '\n', .openBackquote⟩
  | some (script, rest) =>
    let lines := (c.text.take (c.text.length - rest.length)).count '\n'
    let after := { c with text := rest, line := c.line + lines }
    (within script 1 (commands false) after).map fun (body, c) => (.output body isQuoted, c)

/-- The name of a parameter at the start of a text, and what follows it. -/
def parameterName (text : List Char) : List Char × List Char :=
  match text with
  | [] => ([], [])
  | c :: rest =>
    if isNameStart c then (text.takeWhile isNameChar, text.dropWhile isNameChar)
    else if c.isDigit then (text.takeWhile Char.isDigit, text.dropWhile Char.isDigit)
    else if isSpecial c then ([c], rest)
    else ([], text)

/-- The change written after a parameter's name, and what follows it. -/
def readChange : List Char → Change × List Char
  | ':' :: '-' :: rest => (.useDefault true, rest)
  | ':' :: '=' :: rest => (.assignDefault true, rest)
  | ':' :: '?' :: rest => (.demand true, rest)
  | ':' :: '+' :: rest => (.useAlternative true, rest)
  | '-' :: rest => (.useDefault false, rest)
  | '=' :: rest => (.assignDefault false, rest)
  | '?' :: rest => (.demand false, rest)
  | '+' :: rest => (.useAlternative false, rest)
  | '#' :: '#' :: rest => (.dropFront true, rest)
  | '#' :: rest => (.dropFront false, rest)
  | '%' :: '%' :: rest => (.dropBack true, rest)
  | '%' :: rest => (.dropBack false, rest)
  | rest => (.unknown, rest)

def skipTo (text : List Char) : Reading Unit := fun c =>
  .ok ((), { c with text })

/-- Reads a parameter in braces, behind the opening one. -/
def inBraces (stretch : StretchReader) (isQuoted : Bool) : Reading Piece := do
  let _ ← peek?
  let text := (← get).text
  let plain : Reading Piece := do
    let (name, rest) := parameterName text
    match rest with
    | '\x7d' :: rest =>
      skipTo rest
      return .parameter name (if name = [] then .unknown else .plain) [] isQuoted
    | _ =>
      let (change, rest) := readChange rest
      let change := if name = [] then Change.unknown else change
      skipTo rest
      let word ← stretch (.braces (isQuoted && !change.takesPattern)) []
      return .parameter name change word isQuoted
  match text with
  | '#' :: rest =>
    match parameterName rest with
    | (c :: name, '\x7d' :: rest) =>
      skipTo rest
      return .parameter (c :: name) .length [] isQuoted
    | _ => plain
  | _ => plain

def behindDollar (commands : CommandsReader) (stretch : StretchReader) (isQuoted : Bool) :
    Reading Piece := do
  match ← peek? with
  | none => return .char '$' isQuoted
  | some '(' =>
    let _ ← char?
    if ← takeIf '(' then
      return .arithmetic (← stretch (.arithmetic 0) []) isQuoted
    else return .output (← commands true) isQuoted
  | some '\x7b' =>
    let _ ← char?
    inBraces stretch isQuoted
  | some c =>
    if c.isDigit || isSpecial c then
      let _ ← char?
      return .parameter [c] .plain [] isQuoted
    else if isNameStart c then
      let text := (← get).text
      skipTo (text.dropWhile isNameChar)
      return .parameter (text.takeWhile isNameChar) .plain [] isQuoted
    else return .char '$' isQuoted

/-- What stood between double quotes. All arguments with nothing else make no field if there are
none. -/
def inQuotes (w : Word) : Word :=
  match w with
  | [.parameter ['@'] .plain _ _] => w
  | _ => .quotes :: w

def stretch (commands : CommandsReader) : Nat → StretchReader
  | 0, _, _ => refuse .tooDeep
  | fuel + 1, context, read => do
    let go := fun (context : Context) (pieces : List Piece) =>
      stretch commands fuel context (pieces.reverse ++ read)
    let on := go context
    let plain := fun c : Char => on [.char c context.isQuoted]
    match ← peek? with
    | none =>
      match context.openFault? with
      | none => return read.reverse
      | some fault => refuse fault
    | some c =>
      if (context = .bare || context = .verbatim) && endsWord c then return read.reverse
      let _ ← char?
      match context, c with
      | .double, '"' => return read.reverse
      | .braces _, '\x7d' => return read.reverse
      | .arithmetic 0, ')' =>
        if ← takeIf ')' then return read.reverse else plain ')'
      | .arithmetic (depth + 1), ')' => go (.arithmetic depth) [.char ')' true]
      | .arithmetic depth, '(' => go (.arithmetic (depth + 1)) [.char '(' true]
      | _, '\\' =>
        match ← char? with
        | none => on [.char '\\' true]
        | some next =>
          on (if context.isEscapable next then [.char next true]
            else [.char '\\' true, .char next true])
      | _, '\'' =>
        if context.isQuoted then plain '\''
        else on (.quotes :: (← singleQuoted).map fun c => .char c true)
      | _, '"' =>
        if context.hasQuotes then
          let inner ← stretch commands fuel .double []
          on (inQuotes inner)
        else plain '"'
      | .verbatim, '$' => plain '$'
      | .verbatim, '\x60' => on [.quotes, .char '\x60' false]
      | _, '$' =>
        on [← behindDollar commands (stretch commands fuel) context.isQuoted]
      | _, '\x60' => on [← backquoted commands context.isQuoted]
      | _, c => plain c

end Reading

end BoardBind.Script
