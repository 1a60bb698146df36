import BoardBind.Script.Token

/-! # Reading commands

The tokens of a script make commands: simple ones, and the ways to combine commands. A script is
read one line at a time, where a line goes on as long as a command is open; whatever cannot be read
ends the script there.
-/

namespace BoardBind.Script

inductive ListKind where
  /-- The commands of a line. -/
  | line
  /-- Commands inside of others, of which there must be one. -/
  | body
  /-- Commands inside of others that may be missing. -/
  | loose
  deriving DecidableEq

/-- Whether a token ends a list of commands inside of others. -/
def endsList : Token → Bool
  | .rightParenthesis => true
  | .doubleSemicolon => true
  | .keyword name => name ∈ ["\x7d", "do", "done", "elif", "else", "esac", "fi", "then"]
  | _ => false

/-- The parts of a simple command, the last ones first. -/
structure SimpleParts where
  assigned : List (List Char × Word) := []
  words : List Word := []
  redirects : List Redirect := []

def SimpleParts.command (parts : SimpleParts) : Command :=
  .simple parts.assigned.reverse parts.words.reverse parts.redirects.reverse

/-- The function that a simple command starts to define: it is a single word. -/
def SimpleParts.function? (parts : SimpleParts) : Option Word :=
  match parts with
  | ⟨[], [w], []⟩ => some w
  | _ => none

/-- A command with redirections behind it. Those of a group that is nothing but commands in
parentheses replace the redirections behind these. -/
def withRedirects (line : Nat) (body : Command) (redirects : List Redirect) : Command :=
  if redirects.isEmpty then body
  else
    match body with
    | .group [.at _ (.redirected (.subshell inner) _)] =>
      .at line (.redirected (.subshell inner) redirects)
    | .at _ body => .at line (.redirected body redirects)
    | body => .at line (.redirected body redirects)

namespace Reading

def line : Reading Nat := do
  return (← get).line

def redirectTarget (stretch : StretchReader) (fuel descriptor : Nat) (sign : RedirectSign) :
    Reading Redirect := do
  match sign with
  | .announce dropsTabs =>
    match ← rawToken stretch .verbatim with
    | .word w =>
      let document := ⟨w.unquoted, w.hasQuotes, dropsTabs⟩
      let c ← get
      set { c with announced := c.announced ++ [document], count := c.count + 1 }
      return .announced descriptor c.count
    | found => surprise found none
  | .duplicate =>
    match ← token stretch fuel .nothing with
    | .word w => return .duplicate descriptor w
    | found => surprise found none
  | .open mode =>
    match ← token stretch fuel .nothing with
    | .word w => return .file descriptor mode w
    | found => surprise found none

def redirects (stretch : StretchReader) : Nat → Reading (List Redirect)
  | 0 => refuse .tooDeep
  | fuel + 1 => do
    match ← token stretch fuel .command with
    | .redirection descriptor sign =>
      let first ← redirectTarget stretch fuel descriptor sign
      return first :: (← redirects stretch fuel)
    | other =>
      putBack other
      return []

/-- Reads words up to the end of a line or a semicolon. -/
def loopWords (stretch : StretchReader) : Nat → Reading (List Word)
  | 0 => refuse .tooDeep
  | fuel + 1 => do
    match ← token stretch fuel .nothing with
    | .word w => return w :: (← loopWords stretch fuel)
    | .newline => return []
    | .semicolon => return []
    | found => surprise found none

/-- The word that a token is, where words have no meaning of their own. -/
def Token.word? : Token → Option Word
  | .word w => some w
  | .keyword name => some (name.toList.map fun c => .char c false)
  | _ => none

/-- Reads the patterns of a case, of which the first token has been read. -/
def patterns (stretch : StretchReader) : Nat → Token → Reading (List Word)
  | 0, _ => refuse .tooDeep
  | fuel + 1, first => do
    match Token.word? first with
    | none => surprise first (some Token.rightParenthesis.name)
    | some w =>
      match ← token stretch fuel .nothing with
      | .bar => return w :: (← patterns stretch fuel (← token stretch fuel .nothing))
      | .rightParenthesis => return [w]
      | found => surprise found (some Token.rightParenthesis.name)

mutual

def stretchWithin : Nat → StretchReader
  | 0, _, _ => refuse .tooDeep
  | fuel + 1, context, read => do
    stretch (commandsInside fuel) ((← get).text.length + 2) context read

def commandsInside : Nat → CommandsReader
  | 0, _ => refuse .tooDeep
  | fuel + 1, isClosed => apart do
    let body ← list fuel .loose []
    if isClosed then expectParenthesis (stretchWithin fuel) fuel .nothing
    return withDocuments (← get).bodies body

/-- Reads a list of commands; those before are handed in, the last first. -/
def list : Nat → ListKind → List Command → Reading (List Command)
  | 0, _, _ => refuse .tooDeep
  | fuel + 1, kind, read => do
    match ← token (stretchWithin fuel) fuel
      { newlines := kind ≠ .line, keywords := true, aliases := true } with
    | .newline => return read.reverse
    | .endOfText =>
      putBack .endOfText
      return read.reverse
    | first =>
      putBack first
      if endsList first && (kind = .loose || (kind = .body && !read.isEmpty)) then
        return read.reverse
      let command ← andOr fuel
      match ← token (stretchWithin fuel) fuel .nothing with
      | .endOfText =>
        putBack .endOfText
        return (command :: read).reverse
      | .newline =>
        putBack .newline
        list fuel kind (command :: read)
      | .semicolon => list fuel kind (command :: read)
      | .ampersand => list fuel kind (.background command :: read)
      | other =>
        if kind = .line then surprise other none
        else
          putBack other
          return (command :: read).reverse

/-- Reads commands that run on the success or failure of each other. -/
def andOr : Nat → Reading Command
  | 0 => refuse .tooDeep
  | fuel + 1 => do operands fuel (← pipeline fuel .nothing)

/-- Reads what follows on the success or failure of a command. -/
def operands : Nat → Command → Reading Command
  | 0, _ => refuse .tooDeep
  | fuel + 1, first => do
    match ← token (stretchWithin fuel) fuel .nothing with
    | .doubleAmpersand => operands fuel (.both first (← pipeline fuel .start))
    | .doubleBar => operands fuel (.either first (← pipeline fuel .start))
    | other =>
      putBack other
      return first

/-- Reads commands that hand their output on, perhaps negated. -/
def pipeline : Nat → Wanted → Reading Command
  | 0, _ => refuse .tooDeep
  | fuel + 1, wanted => do
    let first ← token (stretchWithin fuel) fuel wanted
    let isNegated := match first with
      | .keyword name => name = "!"
      | _ => false
    if !isNegated then putBack first
    let stages ← stages fuel (if isNegated then .command else .nothing)
    let body := match stages with
      | [stage] => stage
      | _ => .pipeline stages
    return if isNegated then .negated body else body

def stages : Nat → Wanted → Reading (List Command)
  | 0, _ => refuse .tooDeep
  | fuel + 1, wanted => do
    let first ← single fuel wanted
    match ← token (stretchWithin fuel) fuel .nothing with
    | .bar => return first :: (← stages fuel .start)
    | other =>
      putBack other
      return [first]

def single : Nat → Wanted → Reading Command
  | 0, _ => refuse .tooDeep
  | fuel + 1, wanted => do
    let begun ← line
    let inside := stretchWithin fuel
    let finish := fun command : Command => do
      return withRedirects begun command (← redirects inside fuel)
    let body := list fuel .body []
    match ← token inside fuel wanted with
    | .keyword "if" => finish (← branch fuel)
    | .keyword "while" =>
      let condition ← body
      expect inside fuel .nothing "do"
      let commands ← body
      expect inside fuel .nothing "done"
      finish (.loop true condition commands)
    | .keyword "until" =>
      let condition ← body
      expect inside fuel .nothing "do"
      let commands ← body
      expect inside fuel .nothing "done"
      finish (.loop false condition commands)
    | .keyword "for" =>
      let name ← match ← token inside fuel .nothing with
        | .word w => match w.plain? with
          | some name => if isName name then pure name else refuse .badLoopVariable
          | none => refuse .badLoopVariable
        | _ => refuse .badLoopVariable
      let words ← match ← token inside fuel .start with
        | .keyword "in" => do pure (some (← loopWords inside fuel))
        | .semicolon => pure none
        | other => do
          putBack other
          pure none
      expect inside fuel .start "do"
      let commands ← body
      expect inside fuel .nothing "done"
      finish (.at begun (.forEach name words commands))
    | .keyword "case" =>
      match ← token inside fuel .nothing with
      | .word subject =>
        expect inside fuel .start "in"
        finish (.at begun (.choose subject (← cases fuel)))
      | found => surprise found (some "word")
    | .leftParenthesis =>
      let commands ← body
      expectParenthesis inside fuel .nothing
      finish (.at begun (.subshell commands))
    | .keyword "\x7b" =>
      let commands ← body
      expect inside fuel .nothing "\x7d"
      finish (.group commands)
    | .word w =>
      putBack (.word w)
      return .at (← line) (← simple fuel (← line) true {})
    | .redirection descriptor sign =>
      putBack (.redirection descriptor sign)
      return .at (← line) (← simple fuel (← line) true {})
    | found => surprise found none

/-- Reads the parts of a simple command, or the definition of a function. In front of its first word
assignments are taken for themselves. -/
def simple : Nat → Nat → Bool → SimpleParts → Reading Command
  | 0, _, _, _ => refuse .tooDeep
  | fuel + 1, begun, isFront, parts => do
    let inside := stretchWithin fuel
    match ← token inside fuel { aliases := isFront } with
    | .word w =>
      match assignment? w, isFront with
      | some binding, true =>
        simple fuel begun true { parts with assigned := binding :: parts.assigned }
      | _, _ => simple fuel begun false { parts with words := w :: parts.words }
    | .redirection descriptor sign =>
      let r ← redirectTarget inside fuel descriptor sign
      simple fuel begun isFront { parts with redirects := r :: parts.redirects }
    | .leftParenthesis =>
      match parts.function? with
      | some w =>
        expectParenthesis inside fuel .nothing
        match w.plain? with
        | some name =>
          if !isName name || String.ofList name ∈ specialBuiltins then refuse .badFunctionName
          return .define name (← single fuel .start)
        | none => refuse .badFunctionName
      | none =>
        putBack .leftParenthesis
        return parts.command
    | other =>
      putBack other
      return parts.command

/-- Reads what follows the word that starts a branch, with the word that ends it. -/
def branch : Nat → Reading Command
  | 0 => refuse .tooDeep
  | fuel + 1 => do
    let inside := stretchWithin fuel
    let condition ← list fuel .body []
    expect inside fuel .nothing "then"
    let body ← list fuel .body []
    match ← token inside fuel .nothing with
    | .keyword "elif" => return .branch condition body [← branch fuel]
    | .keyword "else" =>
      let otherwise ← list fuel .body []
      expect inside fuel .nothing "fi"
      return .branch condition body otherwise
    | .keyword "fi" => return .branch condition body []
    | found => surprise found (some (Token.keyword "fi").name)

def cases : Nat → Reading (List (List Word × List Command))
  | 0 => refuse .tooDeep
  | fuel + 1 => do
    let inside := stretchWithin fuel
    match ← token inside fuel { newlines := true, keywords := true } with
    | .keyword "esac" => return []
    | first =>
      let first ← match first with
        | .leftParenthesis => token inside fuel .nothing
        | _ => pure first
      let patterns ← patterns inside fuel first
      let body ← list fuel .loose []
      match ← token inside fuel { newlines := true, keywords := true } with
      | .doubleSemicolon => return (patterns, body) :: (← cases fuel)
      | .keyword "esac" => return [(patterns, body)]
      | found => surprise found (some Token.doubleSemicolon.name)

end

end Reading

/-- What the next line of a script is. -/
inductive ScriptLine where
  /-- The commands of the line, and what follows it. -/
  | commands (body : List Command) (rest : Cursor)
  | finished
  | spoiled (e : SyntaxError)

def Cursor.nextLine (c : Cursor) : ScriptLine :=
  let fuel := 16 * c.text.length + 64
  match Reading.list fuel .line [] { c with unread := none, count := 0, bodies := [] } with
  | .error e => .spoiled e
  | .ok (body, rest) =>
    match body, rest.unread with
    | [], some .endOfText => .finished
    | body, _ => .commands (withDocuments rest.bodies body) rest

end BoardBind.Script
