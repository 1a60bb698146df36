import BoardBind.Script.Regex.Reader

/-! # Commands of a line editor and how they are read

A line editor goes through its input line by line and carries out commands on each line. A command
may be for some lines only. Commands stand in a row; those that belong together are enclosed, and
jumps lead from one place in the row to another.

Commands stand on lines or between semicolons. Texts and expressions are enclosed by a sign of the
script's choice, which a backslash keeps from ending them. What cannot be read is no script.
-/

namespace BoardBind.Script.Edit

/-! ## Commands of a line editor -/

/-- What is looked for. Without an expression it is what was looked for last. -/
structure Search where
  regex? : Option Regex
  mode : Regex.Mode := {}

/-- The lines that an address means. -/
inductive Address where
  | line (number : Nat)
  /-- Every line at a distance from the first one. -/
  | every (first step : Nat)
  | last
  | found (what : Search)

/-- Where a range of lines ends. -/
inductive RangeEnd where
  | at (address : Address)
  /-- After a number of lines. -/
  | after (count : Nat)
  /-- At the next line whose number is a multiple. -/
  | multiple (of : Nat)

/-- The lines that a command is for. -/
structure Selection where
  first : Option Address := none
  last : Option RangeEnd := none
  /-- Whether the range is open before the first line. -/
  startsOpen : Bool := false
  isNegated : Bool := false

/-- How letters are changed. -/
inductive Case where
  | same
  | upper
  | lower
  deriving DecidableEq

/-- A part of a replacement: a text and then what a group has matched. Letters are changed, and the
first one perhaps in its own way. -/
structure Part where
  text : List Char
  group : Option Nat := none
  style : Case := .same
  first : Option Case := none

structure Substitution where
  what : Search
  parts : List Part
  isGlobal : Bool := false
  /-- The number of the match that is replaced first. -/
  number : Nat := 1
  prints : Bool := false
  target : Option (List Char) := none

/-- What a command does. Jumps lead to a place in the row of commands. -/
inductive Action where
  /-- Opens a group of commands, which is left out up to a place unless the line is selected. -/
  | enclose (stop : Nat)
  | nothing
  | substitute (s : Substitution)
  | exchange (pairs : List (Char × Char))
  | print
  | printFirst
  | delete
  | deleteFirst
  | next
  | appendNext
  | keep
  | keepMore
  | recall
  | recallMore
  | swap
  | clear
  | jump (target : Nat)
  /-- Jumps if something was substituted since the last line or jump, or if nothing was. -/
  | jumpIf (substituted : Bool) (target : Nat)
  | quit (code : Nat)
  | quitSilently (code : Nat)
  | append (text : List Char)
  | insert (text : List Char)
  | change (text : List Char)
  | readFile (name : List Char)
  | readLine (name : List Char)
  | write (name : List Char)
  | writeFirst (name : List Char)
  | number
  | fileName
  /-- Prints the line with all characters visible, in pieces of a width. -/
  | display (width : Option Nat)

structure Command where
  lines : Selection := {}
  action : Action

def Action.target? : Action → Option (List Char)
  | .substitute s => s.target
  | .write name => some name
  | .writeFirst name => some name
  | _ => none

/-! ## Reading the commands of a line editor -/

/-- Whether a character is a blank between parts of a command. -/
def isGapChar (c : Char) : Bool :=
  c = ' ' || c = '\t'

def skipGaps (text : List Char) : List Char :=
  text.dropWhile isGapChar

/-- The rest of a set of characters, up to its closing bracket, and what follows it. -/
def throughSet : Nat → Bool → List Char → List Char × List Char
  | 0, _, text => ([], text)
  | _, _, [] => ([], [])
  | fuel + 1, isFirst, c :: rest =>
    if c = ']' && !isFirst then ([c], rest)
    else
      let (inner, rest) :=
        match c, rest with
        | '[', sign :: more =>
          if sign = ':' || sign = '.' || sign = '=' then
            let name := more.takeWhile (· ≠ sign)
            match more.drop name.length with
            | _ :: ']' :: after => ('[' :: sign :: name ++ [sign, ']'], after)
            | _ => ([c], rest)
          else ([c], rest)
        | '\\', 'n' :: more => (['\n'], more)
        | '\\', next :: more => (if next = ']' then ['\\'] else ['\\', next],
          if next = ']' then rest else more)
        | _, _ => ([c], rest)
      let isNegation := isFirst && c = '^'
      let (more, rest) := throughSet fuel isNegation rest
      (inner ++ more, rest)

/-- Cuts an expression, or another text, at the sign that ends it. A line must not end inside, a
sign in a set of characters does not count, and a protected sign loses its backslash. -/
def upToSign (sign : Char) (isRegex : Bool) : Nat → List Char → Option (List Char × List Char)
  | 0, _ => none
  | _, [] => none
  | fuel + 1, c :: rest =>
    if c = sign then some ([], rest)
    else if c = '\n' && isRegex then none
    else if c = '\\' then
      match rest with
      | [] => none
      | next :: rest =>
        let kept :=
          if next = sign then (if !isRegex && next = '&' then ['\\', next] else [next])
          else if next = 'n' && isRegex then ['\n']
          else if next = '\n' && isRegex then ['\n']
          else ['\\', next]
        (upToSign sign isRegex fuel rest).map fun (inner, rest) => (kept ++ inner, rest)
    else if c = '[' && isRegex then
      let (set, rest) := throughSet rest.length true rest
      (upToSign sign isRegex fuel rest).map fun (inner, rest) => ('[' :: set ++ inner, rest)
    else (upToSign sign isRegex fuel rest).map fun (inner, rest) => (c :: inner, rest)

/-- The number written by at most so many digits of a base, unless there is none. -/
def codeOf? (base size : Nat) (text : List Char) : Option (Char × List Char) :=
  let digits := (text.take size).takeWhile fun c => Arithmetic.digitValue c < base
  if digits = [] then none
  else some (Char.ofNat (Arithmetic.ofDigits base digits % 256), text.drop digits.length)

/-- The character that an escape stands for, after its backslash, and what follows it. -/
def plainEscape? : List Char → Option (Char × List Char)
  | 'a' :: rest => some ('\x07', rest)
  | 'f' :: rest => some ('\x0c', rest)
  | 'n' :: rest => some ('\n', rest)
  | 'r' :: rest => some ('\r', rest)
  | 't' :: rest => some ('\t', rest)
  | 'v' :: rest => some ('\x0b', rest)
  | 'd' :: rest => codeOf? 10 3 rest
  | 'o' :: rest => codeOf? 8 3 rest
  | 'x' :: rest => codeOf? 16 2 rest
  | 'c' :: c :: rest => some (Char.ofNat (Nat.xor c.toUpper.toNat 64), rest)
  | _ => none

/-- A text with the escapes of single characters replaced; other backslashes stay. -/
def withEscapes : Nat → List Char → List Char
  | 0, text => text
  | _, [] => []
  | fuel + 1, '\\' :: rest =>
    match plainEscape? rest with
    | some (c, rest) => c :: withEscapes fuel rest
    | none =>
      match rest with
      | c :: rest => '\\' :: c :: withEscapes fuel rest
      | [] => ['\\']
  | fuel + 1, c :: rest => c :: withEscapes fuel rest

/-- What a script is read with. -/
structure Dialect where
  writing : Regex.Writing

/-- The search for an expression, and the number of its groups. -/
def searchFor (d : Dialect) (mode : Regex.Mode) (text : List Char) : Option (Search × Nat) :=
  if text = [] then some ({ regex? := none, mode }, 9)
  else
    (Regex.ofText? d.writing (withEscapes text.length text)).map fun (r, groups) =>
      ({ regex? := some r, mode }, groups)

/-- Reads the letters behind an expression that say how it is applied. -/
def readMode : Regex.Mode → List Char → Regex.Mode × List Char
  | mode, 'I' :: rest => readMode { mode with anyCase := true } rest
  | mode, 'M' :: rest => readMode { mode with hasLines := true } rest
  | mode, rest => (mode, rest)

def readFound (d : Dialect) (sign : Char) (text : List Char) : Option (Address × List Char) := do
  let (pattern, rest) ← upToSign sign true (text.length + 1) text
  let (mode, rest) := readMode {} rest
  let (what, _) ← searchFor d mode pattern
  some (.found what, rest)

/-- The digits at the start of a text as a number, and what follows them. -/
def readDigits (text : List Char) : Nat × List Char :=
  (Arithmetic.ofDigits 10 (text.takeWhile Char.isDigit), text.dropWhile Char.isDigit)

def readAddress (d : Dialect) (text : List Char) : Option (Option Address × List Char) :=
  match text with
  | '$' :: rest => some (some .last, rest)
  | '/' :: rest => (readFound d '/' rest).map fun (a, rest) => (some a, rest)
  | '\\' :: sign :: rest => (readFound d sign rest).map fun (a, rest) => (some a, rest)
  | c :: _ =>
    if c.isDigit then
      let (n, rest) := readDigits text
      match skipGaps rest with
      | '~' :: rest =>
        let (step, rest) := readDigits (skipGaps rest)
        some (some (.every n step), rest)
      | _ => some (some (.line n), rest)
    else some (none, text)
  | [] => some (none, text)

def readRangeEnd (d : Dialect) (text : List Char) : Option (RangeEnd × List Char) :=
  match text with
  | '+' :: rest =>
    let (n, rest) := readDigits rest
    some (.after n, rest)
  | '~' :: rest =>
    let (n, rest) := readDigits rest
    some (.multiple n, rest)
  | _ =>
    match readAddress d text with
    | some (some a, rest) => some (.at a, rest)
    | _ => none

/-- Whether an address is the line before the first one, which only an expression may follow. -/
def isBeforeFirst : Address → Bool
  | .line 0 => true
  | _ => false

def readSelection (d : Dialect) (text : List Char) : Option (Selection × List Char) := do
  let (first, rest) ← readAddress d text
  let (lines, rest) : Selection × List Char ←
    match first, skipGaps rest with
    | some a, ',' :: rest =>
      match readRangeEnd d (skipGaps rest) with
      | some (.at (.found what), rest) =>
        some ({ first, last := some (.at (.found what)), startsOpen := isBeforeFirst a }, rest)
      | some (last, rest) =>
        if isBeforeFirst a then none else some ({ first, last := some last }, rest)
      | none => none
    | some a, rest => if isBeforeFirst a then none else some ({ first }, rest)
    | none, rest => some ({}, rest)
  match skipGaps rest with
  | '!' :: rest =>
    match skipGaps rest with
    | '!' :: _ => none
    | rest => some ({ lines with isNegated := true }, rest)
  | rest => some (lines, rest)

/-- The building of a replacement: the parts until now, the last first, the text since then, the
last character first, and how letters are changed now and after the next part. -/
structure Building where
  parts : List Part := []
  text : List Char := []
  style : Case := .same
  first : Option Case := none

namespace Building

def close (b : Building) (group : Option Nat) : Building :=
  let part : Part := { text := b.text.reverse, group, style := b.style, first := b.first }
  { b with parts := part :: b.parts, text := [], first := none }

def put (b : Building) (c : Char) : Building :=
  { b with text := c :: b.text }

/-- Takes a character into the part that was just ended. -/
def putBehind (b : Building) (c : Char) : Building :=
  match b.parts with
  | part :: rest =>
    { b with parts := { part with text := part.text ++ [c] } :: rest }
  | [] => b.put c

end Building

def readParts : Nat → List Char → Building → Building
  | 0, _, b => b
  | _, [], b => b
  | fuel + 1, '&' :: rest, b => readParts fuel rest (b.close (some 0))
  | fuel + 1, '\\' :: rest, b =>
    match plainEscape? rest with
    | some (c, rest) => readParts fuel rest (b.put c)
    | none =>
      match rest with
      | [] => b.put '\\'
      | c :: rest =>
        if c.isDigit then readParts fuel rest (b.close (some (c.toNat - '0'.toNat)))
        else
          let b := b.close none
          match c with
          | 'L' => readParts fuel rest { b with style := .lower }
          | 'U' => readParts fuel rest { b with style := .upper }
          | 'E' => readParts fuel rest { b with style := .same }
          | 'l' => readParts fuel rest { b with first := some .lower }
          | 'u' => readParts fuel rest { b with first := some .upper }
          | c => readParts fuel rest (b.putBehind c)
  | fuel + 1, c :: rest, b => readParts fuel rest (b.put c)

def partsOf (text : List Char) : List Part :=
  let b := readParts text.length text {}
  (if b.text = [] then b else b.close none).parts.reverse

/-- Whether nothing more belongs to a command: a line end or a semicolon follows, or something that
starts anew. -/
def endOfCommand? (text : List Char) : Option (List Char) :=
  match skipGaps text with
  | [] => some []
  | '\n' :: rest => some rest
  | ';' :: rest => some rest
  | '\r' :: [] => some []
  | '\x7d' :: rest => some ('\x7d' :: rest)
  | '#' :: rest => some ('#' :: rest)
  | _ => none

def readFileName (text : List Char) : Option (List Char × List Char) :=
  let name := (skipGaps text).takeWhile (· ≠ '\n')
  if name = [] then none else some (name, ((skipGaps text).drop name.length).tail)

/-- The flags of a substitution, and how its expression is applied. -/
structure SubstitutionFlags where
  isGlobal : Bool := false
  number : Option Nat := none
  prints : Bool := false
  mode : Regex.Mode := {}
  target : Option (List Char) := none

/-- Reads the flags of a substitution, up to the end of the command. -/
def readFlags : Nat → SubstitutionFlags → List Char → Option (SubstitutionFlags × List Char)
  | 0, _, _ => none
  | _ + 1, f, [] => some (f, [])
  | fuel + 1, f, c :: rest =>
    match c with
    | 'i' => readFlags fuel { f with mode := { f.mode with anyCase := true } } rest
    | 'I' => readFlags fuel { f with mode := { f.mode with anyCase := true } } rest
    | 'm' => readFlags fuel { f with mode := { f.mode with hasLines := true } } rest
    | 'M' => readFlags fuel { f with mode := { f.mode with hasLines := true } } rest
    | 'p' => if f.prints then none else readFlags fuel { f with prints := true } rest
    | 'g' => if f.isGlobal then none else readFlags fuel { f with isGlobal := true } rest
    | 'w' => (readFileName rest).map fun (name, rest) => ({ f with target := some name }, rest)
    | '\n' => some (f, rest)
    | ';' => some (f, rest)
    | '\x7d' => some (f, c :: rest)
    | '#' => some (f, c :: rest)
    | ' ' => readFlags fuel f rest
    | '\t' => readFlags fuel f rest
    | _ =>
      if c.isDigit then
        let (n, rest) := readDigits (c :: rest)
        if n = 0 || f.number.isSome then none
        else readFlags fuel { f with number := some n } rest
      else none

def readSubstitution (d : Dialect) (text : List Char) : Option (Action × List Char) :=
  match text with
  | [] => none
  | sign :: rest => do
    if sign = '\n' || sign = '\\' then none
    let (pattern, rest) ← upToSign sign true (rest.length + 1) rest
    let (replacement, rest) ← upToSign sign false (rest.length + 1) rest
    let (flags, rest) ← readFlags (rest.length + 1) {} rest
    let (what, groups) ← searchFor d flags.mode pattern
    let parts := partsOf replacement
    if parts.any fun part => part.group.any (groups < ·) then none
    else
      some (.substitute {
        what, parts, isGlobal := flags.isGlobal, number := flags.number.getD 1
        prints := flags.prints, target := flags.target }, rest)

/-- The characters of an exchange, without the backslashes that protect them. -/
def exchanged : Nat → List Char → List Char
  | 0, text => text
  | _, [] => []
  | fuel + 1, '\\' :: '\\' :: rest => '\\' :: exchanged fuel rest
  | fuel + 1, '\\' :: rest =>
    match plainEscape? rest with
    | some (c, rest) => c :: exchanged fuel rest
    | none => exchanged fuel rest
  | fuel + 1, c :: rest => c :: exchanged fuel rest

def readExchange (text : List Char) : Option (Action × List Char) :=
  match text with
  | [] => none
  | sign :: rest => do
    let (source, rest) ← upToSign sign false (rest.length + 1) rest
    let (target, rest) ← upToSign sign false (rest.length + 1) rest
    let rest ← endOfCommand? rest
    let source := exchanged (source.length + 1) source
    let target := exchanged (target.length + 1) target
    if source.length = target.length then some (.exchange (source.zip target), rest) else none

/-- Reads a text up to the end of a line that no backslash stands before. -/
def readText : Nat → List Char → List Char × List Char
  | 0, text => ([], text)
  | _, [] => (['\n'], [])
  | _ + 1, '\\' :: [] => (['\n'], [])
  | fuel + 1, '\\' :: rest =>
    match plainEscape? rest with
    | some (c, rest) =>
      let (inner, rest) := readText fuel rest
      (c :: inner, rest)
    | none =>
      let (inner, after) := readText fuel rest.tail
      (rest.take 1 ++ inner, after)
  | _ + 1, '\n' :: rest => (['\n'], rest)
  | fuel + 1, c :: rest =>
    let (inner, rest) := readText fuel rest
    (c :: inner, rest)

/-- Reads the text that a command adds, after its letter. -/
def readAdded (text : List Char) : Option (List Char × List Char) :=
  match skipGaps text with
  | [] => none
  | '\\' :: rest =>
    match skipGaps rest with
    | [] => some ([], [])
    | '\n' :: [] => some (['\n'], [])
    | '\n' :: rest => some (readText rest.length.succ rest)
    | _ => some (readText rest.length.succ rest)
  | '\n' :: _ => none
  | rest => some (readText rest.length.succ rest)

def readLabel (text : List Char) : List Char × List Char :=
  let ends := fun c : Char => c = ';' || c = '\x7d' || c.isWhitespace
  let text := skipGaps text
  let label := text.takeWhile fun c => !ends c
  (label, text.drop label.length)

/-- A command whose jumps lead to labels. -/
inductive Draft where
  | ready (action : Action)
  | open
  | close
  | label (name : List Char)
  | jump (name : List Char)
  | jumpIf (substituted : Bool) (name : List Char)

def letterAction? : Char → Option Action
  | '=' => some .number
  | 'd' => some .delete
  | 'D' => some .deleteFirst
  | 'F' => some .fileName
  | 'g' => some .recall
  | 'G' => some .recallMore
  | 'h' => some .keep
  | 'H' => some .keepMore
  | 'n' => some .next
  | 'N' => some .appendNext
  | 'p' => some .print
  | 'P' => some .printFirst
  | 'x' => some .swap
  | 'z' => some .clear
  | _ => none

/-- Reads a number that may be missing, up to the end of the command. -/
def readCode (text : List Char) : Option (Option Nat × List Char) :=
  let text := skipGaps text
  let (n, rest) := readDigits text
  let given := text.head?.any Char.isDigit
  (endOfCommand? rest).map fun rest => (if given then some n else none, rest)

def readDraft (d : Dialect) (lines : Selection) : List Char → Option (Draft × List Char)
  | [] => none
  | c :: rest =>
    match c with
    | '\x7b' => some (.open, rest)
    | '\x7d' =>
      if lines.first.isSome then none else (endOfCommand? rest).map fun rest => (.close, rest)
    | ':' =>
      let (label, rest) := readLabel rest
      if lines.first.isSome || label = [] then none else some (.label label, rest)
    | 'b' =>
      let (label, rest) := readLabel rest
      (endOfCommand? rest).map fun rest => (.jump label, rest)
    | 't' =>
      let (label, rest) := readLabel rest
      (endOfCommand? rest).map fun rest => (.jumpIf true label, rest)
    | 'T' =>
      let (label, rest) := readLabel rest
      (endOfCommand? rest).map fun rest => (.jumpIf false label, rest)
    | 'q' =>
      if lines.last.isSome then none
      else (readCode rest).map fun (code, rest) => (.ready (.quit (code.getD 0)), rest)
    | 'Q' =>
      if lines.last.isSome then none
      else (readCode rest).map fun (code, rest) => (.ready (.quitSilently (code.getD 0)), rest)
    | 'l' => (readCode rest).map fun (width, rest) => (.ready (.display width), rest)
    | 's' => (readSubstitution d rest).map fun (action, rest) => (.ready action, rest)
    | 'y' => (readExchange rest).map fun (action, rest) => (.ready action, rest)
    | 'a' => (readAdded rest).map fun (text, rest) => (.ready (.append text), rest)
    | 'i' => (readAdded rest).map fun (text, rest) => (.ready (.insert text), rest)
    | 'c' => (readAdded rest).map fun (text, rest) => (.ready (.change text), rest)
    | 'r' => (readFileName rest).map fun (name, rest) => (.ready (.readFile name), rest)
    | 'R' => (readFileName rest).map fun (name, rest) => (.ready (.readLine name), rest)
    | 'w' => (readFileName rest).map fun (name, rest) => (.ready (.write name), rest)
    | 'W' => (readFileName rest).map fun (name, rest) => (.ready (.writeFirst name), rest)
    | 'v' => some (.ready .nothing, rest.dropWhile (· ≠ '\n'))
    | _ =>
      match letterAction? c with
      | some action => (endOfCommand? rest).map fun rest => (.ready action, rest)
      | none => none

def readDrafts (d : Dialect) : Nat → List Char → Option (List (Selection × Draft))
  | 0, _ => none
  | fuel + 1, text =>
    match text.dropWhile fun c => c.isWhitespace || c = ';' with
    | [] => some []
    | '#' :: rest => readDrafts d fuel (rest.dropWhile (· ≠ '\n'))
    | text => do
      let (lines, rest) ← readSelection d text
      let (draft, rest) ← readDraft d lines rest
      let more ← readDrafts d fuel rest
      some ((lines, draft) :: more)

/-- The place behind the command that closes the group opened before a row. -/
def closing? : Nat → Nat → List (Selection × Draft) → Option Nat
  | _, _, [] => none
  | place, depth, (_, draft) :: rest =>
    match draft, depth with
    | .close, 0 => some (place + 1)
    | .close, depth + 1 => closing? (place + 1) depth rest
    | .open, depth => closing? (place + 1) (depth + 1) rest
    | _, depth => closing? (place + 1) depth rest

/-- The place of a label; without a name it is the end. -/
def placeOf? (drafts : List (Selection × Draft)) (name : List Char) : Option Nat :=
  if name = [] then some drafts.length
  else
    drafts.findIdx? fun (_, draft) =>
      match draft with
      | .label label => label = name
      | _ => false

/-- Why a script is none. -/
inductive ScriptFault where
  | malformed
  | missingLabel (name : List Char)

def resolved (all : List (Selection × Draft)) :
    Nat → Nat → List (Selection × Draft) → Except ScriptFault (List Command)
  | _, depth, [] => if depth = 0 then .ok [] else .error .malformed
  | place, depth, (lines, draft) :: rest => do
    let placeOf := fun name : List Char =>
      match placeOf? all name with
      | some target => Except.ok target
      | none => .error (ScriptFault.missingLabel name)
    let (action, depth) : Action × Nat ←
      match draft with
      | .ready action => .ok (action, depth)
      | .open =>
        match closing? (place + 1) 0 rest with
        | some stop => .ok (Action.enclose stop, depth + 1)
        | none => .error .malformed
      | .close => if depth = 0 then .error .malformed else .ok (.nothing, depth - 1)
      | .label _ => .ok (.nothing, depth)
      | .jump name => (placeOf name).map fun target => (.jump target, depth)
      | .jumpIf substituted name =>
        (placeOf name).map fun target => (.jumpIf substituted target, depth)
    let more ← resolved all (place + 1) depth rest
    return { lines, action } :: more

def commandsOf (d : Dialect) (script : List Char) : Except ScriptFault (List Command) :=
  match readDrafts d (script.length + 1) script with
  | some drafts => resolved drafts 0 0 drafts
  | none => .error .malformed

end BoardBind.Script.Edit
