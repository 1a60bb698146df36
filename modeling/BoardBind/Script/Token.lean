import BoardBind.Script.Word

/-! # Reading tokens

The next token of a script is an operator, a redirection or a word. Where a line ends, the texts
that it has announced follow. Where a command may start, some words have a meaning of their own, and
a name may stand for a text that is read in its place.
-/

namespace BoardBind.Script

/-- What is looked for in front of a token: line ends, which are passed over, words with a meaning
of their own, and names that stand for texts. -/
structure Wanted where
  newlines : Bool := false
  keywords : Bool := false
  aliases : Bool := false

namespace Wanted

def nothing : Wanted := {}

/-- What is looked for where a command may start on the same line. -/
def command : Wanted := { keywords := true, aliases := true }

def start : Wanted := { newlines := true, keywords := true, aliases := true }

end Wanted

namespace Reading

/-- The lines of a text up to a last line, and what follows that. In a text that is expanded a line
with a backslash at its end goes on with the next one. -/
def linesUpTo (document : Announced) : Nat → Bool → List Char → List Char × List Char
  | 0, _, rest => ([], rest)
  | _, _, [] => ([], [])
  | fuel + 1, isJoined, text =>
    let line := text.takeWhile (· ≠ '\n')
    let rest := text.drop (line.length + 1)
    let kept := if document.dropsTabs && !isJoined then line.dropWhile (· = '\t') else line
    if kept = document.lastLine && !isJoined then ([], rest)
    else
      let joins := !document.isLiteral && (line.reverse.takeWhile (· = '\\')).length % 2 = 1
      let (more, rest) := linesUpTo document fuel joins rest
      (kept ++ (if line.length < text.length then '\n' :: more else more), rest)

def documents (stretch : StretchReader) : List Announced → Reading Unit
  | [] => return ()
  | document :: more => do
    let c ← get
    let (text, rest) := linesUpTo document (c.text.length + 1) false c.text
    let body ←
      if document.isLiteral then pure (text.map fun c => Piece.char c true)
      else within text c.line (stretch .document [])
    let lines := (c.text.take (c.text.length - rest.length)).count '\n'
    set { c with text := rest, line := c.line + lines, bodies := c.bodies ++ [body] }
    documents stretch more

def lineEnd (stretch : StretchReader) : Reading Token := do
  let _ ← char?
  let announced := (← get).announced
  modify fun c => { c with announced := [] }
  documents stretch announced
  return .newline

def doubled (c : Char) (double single : Token) : Reading Token := do
  let _ ← char?
  return if ← takeIf c then double else single

def redirectSign (descriptor : Option Nat) : Reading Token := do
  if (← take?) = some '>' then
    let fd := descriptor.getD 1
    if ← takeIf '>' then return .redirection fd (.open .appending)
    if ← takeIf '|' then return .redirection fd (.open .replacing)
    if ← takeIf '&' then return .redirection fd .duplicate
    return .redirection fd (.open .writing)
  else
    let fd := descriptor.getD 0
    if ← takeIf '<' then return .redirection fd (.announce (← takeIf '-'))
    if ← takeIf '&' then return .redirection fd .duplicate
    if ← takeIf '>' then return .redirection fd (.open .both)
    return .redirection fd (.open .reading)

/-- The descriptor that a word in front of a redirection means. -/
def descriptor? : Word → Option (Option Nat)
  | [] => some none
  | [.char c false] => if c.isDigit then some (some (c.toNat - '0'.toNat)) else none
  | _ => none

def wordToken (stretch : StretchReader) (context : Context) : Reading Token := do
  let w ← stretch context []
  match descriptor? w, ← peek? with
  | some fd, some '<' => redirectSign fd
  | some fd, some '>' => redirectSign fd
  | _, _ => return .word w

def rawToken (stretch : StretchReader) (context : Context) : Reading Token := do
  skipBlanks
  match ← peek? with
  | none => return .endOfText
  | some '\n' => lineEnd stretch
  | some '&' => doubled '&' .doubleAmpersand .ampersand
  | some '|' => doubled '|' .doubleBar .bar
  | some ';' => doubled ';' .doubleSemicolon .semicolon
  | some '(' =>
    let _ ← char?
    return .leftParenthesis
  | some ')' =>
    let _ ← char?
    return .rightParenthesis
  | some _ => wordToken stretch context

/-- The next token and whether a text that ended in a blank ended in front of it. -/
def nextToken (stretch : StretchReader) : Reading (Token × Bool) := do
  let c ← get
  match c.unread with
  | some token =>
    set { c with unread := none }
    return (token, false)
  | none =>
    let before := c.text.length
    let endsBlank := if c.replaced.isEmpty then fun _ => false
      else fun after : Nat => c.replaced.any fun r =>
        r.endsInBlank && after ≤ r.rest && r.rest < before
    skipBlanks
    let isBehindBlank := endsBlank (← get).text.length
    return (← rawToken stretch .bare, isBehindBlank)

/-- The text that a name stands for, unless it is being read now. -/
def alias? (c : Cursor) (name : List Char) : Option (List Char) :=
  if c.aliases.isEmpty then none
  else
    let size := c.text.length
    if c.replaced.any fun r => r.name = name && r.rest ≤ size then none
    else c.aliases.lookup name

/-- Puts the text that a name stands for in front of what is left. -/
def replace (name text : List Char) : Reading Unit :=
  modify fun c => { c with
    text := text ++ c.text
    replaced := ⟨name, c.text.length, text.getLast?.any fun c => c = ' ' || c = '\t'⟩ ::
      c.replaced.filter fun r => r.rest ≤ c.text.length }

def token (stretch : StretchReader) : Nat → Wanted → Reading Token
  | 0, _ => refuse .tooDeep
  | fuel + 1, wanted => do
    match ← nextToken stretch with
    | (.newline, _) => if wanted.newlines then token stretch fuel wanted else return .newline
    | (.word w, isBehindBlank) =>
      match w.plain? with
      | none => return .word w
      | some name =>
        if wanted.keywords && String.ofList name ∈ reserved then
          return .keyword (String.ofList name)
        else if wanted.aliases || isBehindBlank then
          match alias? (← get) name with
          | some text =>
            replace name text
            token stretch fuel { wanted with aliases := true }
          | none => return .word w
        else return .word w
    | (other, _) => return other

def putBack (token : Token) : Reading Unit :=
  modify fun c => { c with unread := some token }

def expect (stretch : StretchReader) (fuel : Nat) (wanted : Wanted) (name : String) :
    Reading Unit := do
  match ← token stretch fuel wanted with
  | .keyword found =>
    if found ≠ name then surprise (.keyword found) (some (Token.keyword name).name)
  | found => surprise found (some (Token.keyword name).name)

def expectParenthesis (stretch : StretchReader) (fuel : Nat) (wanted : Wanted) : Reading Unit := do
  match ← token stretch fuel wanted with
  | .rightParenthesis => return ()
  | found => surprise found (some Token.rightParenthesis.name)

end Reading

end BoardBind.Script
