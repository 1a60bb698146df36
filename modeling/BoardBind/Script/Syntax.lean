/-! # What command scripts are made of

A word is a run of pieces: characters, in quotes or not, and what is to be put in place of a
parameter, of commands or of an arithmetic expression when the script runs. Words with assignments
before them and redirections among them are simple commands, and commands can be combined. Scripts
are read with one character for each byte.

A script is read from front to back, token by token. The cursor knows the text that is left and its
line, a token that was looked at too early, and the texts that the current line has announced. A
name that stands for a text of its own is replaced by that text in front of what is left.
-/

namespace BoardBind.Script

/-! ## What command scripts are made of -/

/-- What is done with the value of a parameter. `emptyToo` says whether an empty value counts as
a missing one. -/
inductive Change where
  | plain
  | length
  | useDefault (emptyToo : Bool)
  | assignDefault (emptyToo : Bool)
  | demand (emptyToo : Bool)
  | useAlternative (emptyToo : Bool)
  | dropFront (longest : Bool)
  | dropBack (longest : Bool)
  /-- No change that scripts know. -/
  | unknown
  deriving DecidableEq

def Change.takesPattern : Change → Bool
  | .dropFront _ => true
  | .dropBack _ => true
  | _ => false

/-- How a file is opened by a redirection. -/
inductive OpenMode where
  | reading
  /-- For writing from the start, where some shells refuse a file that is there. -/
  | writing
  /-- For writing from the start, whatever is there. -/
  | replacing
  | appending
  /-- For both, at the start of what is there. -/
  | both
  deriving DecidableEq

mutual

/-- A piece of a word. -/
inductive Piece where
  | char (c : Char) (isQuoted : Bool)
  /-- Quotes stand here, so that there is a field even if nothing is in them. -/
  | quotes
  | parameter (name : List Char) (change : Change) (word : List Piece) (isQuoted : Bool)
  /-- The output of commands. -/
  | output (body : List Command) (isQuoted : Bool)
  | arithmetic (expression : List Piece) (isQuoted : Bool)

inductive Redirect where
  | file (descriptor : Nat) (mode : OpenMode) (target : List Piece)
  | duplicate (descriptor : Nat) (source : List Piece)
  /-- A text of the script itself. -/
  | document (descriptor : Nat) (body : List Piece)
  /-- A text that follows further down in the script, by its number among those of the line. -/
  | announced (descriptor index : Nat)

/-- The commands of a script. -/
inductive Command where
  | simple (assigned : List (List Char × List Piece)) (words : List (List Piece))
    (redirects : List Redirect)
  | redirected (body : Command) (redirects : List Redirect)
  | pipeline (stages : List Command)
  | negated (body : Command)
  | both (first second : Command)
  | either (first second : Command)
  | background (body : Command)
  | group (body : List Command)
  | subshell (body : List Command)
  | branch (condition body otherwise : List Command)
  /-- Repeats the body as long as the condition holds, or as long as it does not. -/
  | loop (wanted : Bool) (condition body : List Command)
  | forEach (name : List Char) (words : Option (List (List Piece))) (body : List Command)
  | choose (subject : List Piece) (cases : List (List (List Piece) × List Command))
  /-- Names a command. -/
  | define (name : List Char) (body : Command)
  /-- A command with its line. -/
  | at (line : Nat) (body : Command)

end

abbrev Word := List Piece

/-- The plain text of a word without quotes and without anything to expand. -/
def Word.plain? (w : Word) : Option (List Char) :=
  w.mapM fun
    | .char c false => some c
    | _ => none

/-- The text of a word that is not expanded, without its quotes. -/
def Word.unquoted (w : Word) : List Char :=
  w.filterMap fun
    | .char c _ => some c
    | _ => none

def Word.hasQuotes (w : Word) : Bool :=
  w.any fun
    | .char _ isQuoted => isQuoted
    | .quotes => true
    | _ => false

mutual

def Command.withDocuments (bodies : List Word) : Command → Command
  | .simple assigned words redirects =>
    .simple assigned words (redirectsWithDocuments bodies redirects)
  | .redirected body redirects =>
    .redirected (body.withDocuments bodies) (redirectsWithDocuments bodies redirects)
  | .pipeline stages => .pipeline (withDocuments bodies stages)
  | .negated body => .negated (body.withDocuments bodies)
  | .both first second => .both (first.withDocuments bodies) (second.withDocuments bodies)
  | .either first second => .either (first.withDocuments bodies) (second.withDocuments bodies)
  | .background body => .background (body.withDocuments bodies)
  | .group body => .group (withDocuments bodies body)
  | .subshell body => .subshell (withDocuments bodies body)
  | .branch condition body otherwise =>
    .branch (withDocuments bodies condition) (withDocuments bodies body)
      (withDocuments bodies otherwise)
  | .loop wanted condition body =>
    .loop wanted (withDocuments bodies condition) (withDocuments bodies body)
  | .forEach name words body => .forEach name words (withDocuments bodies body)
  | .choose subject cases => .choose subject (casesWithDocuments bodies cases)
  | .define name body => .define name (body.withDocuments bodies)
  | .at line body => .at line (body.withDocuments bodies)

def withDocuments (bodies : List Word) : List Command → List Command
  | [] => []
  | first :: rest => first.withDocuments bodies :: withDocuments bodies rest

def casesWithDocuments (bodies : List Word) :
    List (List Word × List Command) → List (List Word × List Command)
  | [] => []
  | (patterns, body) :: rest =>
    (patterns, withDocuments bodies body) :: casesWithDocuments bodies rest

/-- Redirections with announced texts in their places; one that never came is empty. -/
def redirectsWithDocuments (bodies : List Word) : List Redirect → List Redirect
  | [] => []
  | .announced descriptor index :: rest =>
    .document descriptor ((bodies[index]?).getD []) :: redirectsWithDocuments bodies rest
  | first :: rest => first :: redirectsWithDocuments bodies rest

end

def isNameStart (c : Char) : Bool :=
  c.isAlpha || c = '_'

def isNameChar (c : Char) : Bool :=
  c.isAlphanum || c = '_'

def isName (text : List Char) : Bool :=
  text.head?.any isNameStart && text.all isNameChar

def isSpecial (c : Char) : Bool :=
  c ∈ ['@', '*', '#', '?', '-', '$', '!']

def assignment? (w : Word) : Option (List Char × Word) :=
  let start := w.takeWhile fun
    | .char c isQuoted => !isQuoted && c ≠ '='
    | _ => false
  match w.drop start.length with
  | .char '=' false :: value =>
    let name := Word.unquoted start
    if isName name then some (name, value) else none
  | _ => none

/-- The words that have a meaning of their own where a command may start. -/
def reserved : List String :=
  ["!", "\x7b", "\x7d", "case", "do", "done", "elif", "else", "esac", "fi", "for", "if", "in",
    "then", "until", "while"]

/-- The commands of the shell whose faults end it, and which no function may replace. -/
def specialBuiltins : List String :=
  [".", ":", "break", "continue", "eval", "exec", "exit", "export", "local", "readonly", "return",
    "set", "shift", "times", "trap", "unset"]

/-! ## Where a script is being read -/

/-- How a redirection is written. -/
inductive RedirectSign where
  | open (mode : OpenMode)
  | duplicate
  /-- Announces a text on the lines that follow. -/
  | announce (dropsTabs : Bool)
  deriving DecidableEq

/-- The tokens of a script. -/
inductive Token where
  | endOfText
  | newline
  | semicolon
  | ampersand
  | doubleAmpersand
  | doubleBar
  | bar
  | leftParenthesis
  | rightParenthesis
  | doubleSemicolon
  | redirection (descriptor : Nat) (sign : RedirectSign)
  | word (w : Word)
  /-- A word that has a meaning of its own. -/
  | keyword (name : String)

def Token.name : Token → String
  | .endOfText => "end of file"
  | .newline => "newline"
  | .semicolon => "\";\""
  | .ampersand => "\"&\""
  | .doubleAmpersand => "\"&&\""
  | .doubleBar => "\"||\""
  | .bar => "\"|\""
  | .leftParenthesis => "\"(\""
  | .rightParenthesis => "\")\""
  | .doubleSemicolon => "\";;\""
  | .redirection .. => "redirection"
  | .word _ => "word"
  | .keyword name => "\"" ++ name ++ "\""

/-- What is wrong with the writing of a script. -/
inductive SyntaxFault where
  | unexpected (found : String) (expected : Option String)
  | openQuotes
  | openBrace
  | openArithmetic
  | openBackquote
  | badLoopVariable
  | badFunctionName
  /-- Commands stand too deep inside of each other. -/
  | tooDeep
  deriving DecidableEq

def SyntaxFault.message : SyntaxFault → String
  | .unexpected found none => found ++ " unexpected"
  | .unexpected found (some expected) =>
    found ++ " unexpected (expecting " ++ expected ++ ")"
  | .openQuotes => "Unterminated quoted string"
  | .openBrace => "Missing '\x7d'"
  | .openArithmetic => "Missing '))'"
  | .openBackquote => "EOF in backquote substitution"
  | .badLoopVariable => "Bad for loop variable"
  | .badFunctionName => "Bad function name"
  | .tooDeep => "out of memory"

/-- A fault and the line where it was found. -/
structure SyntaxError where
  line : Nat
  fault : SyntaxFault
  deriving DecidableEq

/-- A text that is still to come: its last line, whether it is taken as it stands, and whether
tabs at the start of lines are dropped. -/
structure Announced where
  lastLine : List Char
  isLiteral : Bool
  dropsTabs : Bool
  deriving DecidableEq

/-- A name that was replaced by its text: how much is left to read when that text has been read, and
whether it ended in a blank. -/
structure Replaced where
  name : List Char
  rest : Nat
  endsInBlank : Bool
  deriving DecidableEq

/-- Where a script is being read. -/
structure Cursor where
  /-- What is left to read. -/
  text : List Char
  line : Nat := 1
  /-- A token that was read too early. -/
  unread : Option Token := none
  /-- The texts announced by the current line that are still to come. -/
  announced : List Announced := []
  /-- The number of texts announced until now, and those that have come. -/
  count : Nat := 0
  bodies : List Word := []
  /-- The names that stand for texts, and those being read now. -/
  aliases : List (List Char × List Char) := []
  replaced : List Replaced := []

abbrev Reading := StateT Cursor (Except SyntaxError)

namespace Reading

def refuse {α : Type} (fault : SyntaxFault) : Reading α := fun c =>
  .error ⟨c.line, fault⟩

def surprise {α : Type} (found : Token) (expected : Option String) : Reading α :=
  refuse (.unexpected found.name expected)

def char? : Reading (Option Char) := fun c =>
  match c.text with
  | [] => .ok (none, c)
  | '\n' :: text => .ok (some '\n', { c with text, line := c.line + 1 })
  | first :: text => .ok (some first, { c with text })

/-- Drops line ends behind backslashes, which join lines. -/
def joined : List Char → Nat → List Char × Nat
  | '\\' :: '\n' :: text, line => joined text (line + 1)
  | text, line => (text, line)

/-- Looks at the next character behind joined lines. -/
def peek? : Reading (Option Char) := fun c =>
  let (text, line) := joined c.text c.line
  .ok (text.head?, { c with text, line })

/-- Takes the next character behind joined lines. -/
def take? : Reading (Option Char) := do
  let _ ← peek?
  char?

def takeIf (c : Char) : Reading Bool := do
  if (← peek?) = some c then
    let _ ← char?
    return true
  else return false

def withoutBlanks : Bool → List Char → Nat → List Char × Nat
  | _, [], line => ([], line)
  | true, '\n' :: text, line => ('\n' :: text, line)
  | true, _ :: text, line => withoutBlanks true text line
  | false, '\\' :: '\n' :: text, line => withoutBlanks false text (line + 1)
  | false, c :: text, line =>
    if c = ' ' || c = '\t' then withoutBlanks false text line
    else if c = '#' then withoutBlanks true text line
    else (c :: text, line)

/-- Goes to the start of the next token. -/
def skipBlanks : Reading Unit := fun c =>
  let (text, line) := withoutBlanks false c.text c.line
  .ok ((), { c with text, line })

/-- Reads another text instead, and then goes on as before. -/
def within {α : Type} (text : List Char) (line : Nat) (body : Reading α) : Reading α := fun c =>
  match body { text, line, aliases := c.aliases } with
  | .ok (a, _) => .ok (a, c)
  | .error e => .error e

def apart {α : Type} (body : Reading α) : Reading α := fun c =>
  match body { c with unread := none, announced := [], count := 0, bodies := [] } with
  | .ok (a, after) =>
    .ok (a, { after with
      unread := none, announced := c.announced, count := c.count, bodies := c.bodies })
  | .error e => .error e

end Reading

end BoardBind.Script
