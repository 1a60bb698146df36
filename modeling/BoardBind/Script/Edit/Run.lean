import BoardBind.Script.Edit.Reader
import BoardBind.Script.Files

/-! # Running a line editor

A cycle reads a line, carries out the commands on it and prints what has become of it. Texts that
are to follow the line wait for the end of the cycle. One text is kept from cycle to cycle. A line
end that is missing in the input is missing in the output too, unless more is printed.
-/

namespace BoardBind.Script.Edit

/-- A line of the input: its text, whether a line end follows it, and the name of its file. -/
structure Line where
  text : List Char
  hasEnd : Bool
  file : List Char

/-- A text with whether a line end follows it. -/
structure Space where
  text : List Char := []
  hasEnd : Bool := true

/-- What is printed at the end of a cycle. -/
inductive Waiting where
  | text (text : List Char)
  | file (name : List Char)

/-- Whether the range of a command is open, and the number of its last line if that is known. -/
inductive RangeState where
  | idle
  | running (stop : Option Nat)

/-- What an editor works with. -/
structure Program where
  commands : Array Command
  isQuiet : Bool := false
  /-- The width of lines with all characters visible; none is without limit. -/
  width : Nat := 70
  /-- The character that ends lines. -/
  lineEnd : Char := '\n'

/-- The state of an editor. -/
structure Session where
  setting : Setting
  unread : List Line
  space : Space := {}
  kept : Space := {}
  number : Nat := 0
  file : List Char := ['-']
  /-- What is printed, the last piece first. -/
  printed : List (List Char) := []
  /-- Whether the output lacks a line end. -/
  lacksEnd : Bool := false
  waiting : List Waiting := []
  ranges : Array RangeState
  hasSubstituted : Bool := false
  /-- What was looked for last. -/
  recent : Search := { regex? := none }
  /-- What is left of files that are read line by line. -/
  lineFiles : List (List Char × List (List Char)) := []
  /-- The status, once the editor has quit. -/
  status : Option Nat := none
  /-- Whether the commands never come to an end. -/
  isStuck : Bool := false

namespace Session

def emit (e : Session) (text : List Char) : Session :=
  let printed := if e.lacksEnd then ['\n'] :: e.printed else e.printed
  { e with printed := text :: printed, lacksEnd := false }

def emitLine (e : Session) (script : Program) (text : List Char) (hasEnd : Bool) : Session :=
  if hasEnd then e.emit (text ++ [script.lineEnd])
  else { e.emit text with lacksEnd := true }

def writeTo (e : Session) (script : Program) (name text : List Char) (hasEnd : Bool) : Session :=
  if name = "/dev/stdout".toList then e.emitLine script text hasEnd
  else
    match openedPlace e.setting.disk (e.setting.path name) with
    | .ok place =>
      let full := if hasEnd then text ++ [script.lineEnd] else text
      { e with setting := { e.setting with
          disk := writeAt e.setting.making e.setting.disk place true (toBytes full) } }
    | .error _ => e

def resolve (e : Session) (what : Search) : Search × Session :=
  match what.regex? with
  | some _ => (what, { e with recent := what })
  | none => (e.recent, e)

def finds (e : Session) (what : Search) : Bool × Session :=
  let (what, e) := e.resolve what
  match what.regex? with
  | some r => (r.isIn what.mode e.space.text, e)
  | none => (false, e)

def isAt (e : Session) : Address → Bool × Session
  | .line n => (n = e.number, e)
  | .every first step =>
    (if step = 0 then e.number = first else first ≤ e.number && (e.number - first) % step = 0, e)
  | .last => (e.unread.isEmpty, e)
  | .found what => e.finds what

def rangeFrom (e : Session) : RangeEnd → RangeState
  | .at (.line n) => if n ≤ e.number then .idle else .running (some n)
  | .at _ => .running none
  | .after 0 => .idle
  | .after n => .running (some (e.number + n))
  | .multiple 0 => .idle
  | .multiple n =>
    if e.number % n = 0 then .idle else .running (some ((e.number / n + 1) * n))

def setRange (e : Session) (place : Nat) (range : RangeState) : Session :=
  { e with ranges := e.ranges.setIfInBounds place range }

/-- Whether the range of the command at a place is open. -/
def isRunning (e : Session) (place : Nat) : Bool :=
  match e.ranges[place]? with
  | some (.running _) => true
  | _ => false

/-- Whether the line is in the lines of the command at a place, before a negation. -/
def isIn (e : Session) (place : Nat) (lines : Selection) : Bool × Session :=
  match lines.first, lines.last with
  | none, _ => (true, e)
  | some a, none => e.isAt a
  | some a, some last =>
    match e.ranges[place]? with
    | some (.running (some stop)) =>
      (e.number ≤ stop, if stop ≤ e.number then e.setRange place .idle else e)
    | some (.running none) =>
      match last with
      | .at b =>
        let (isEnd, e) := e.isAt b
        (true, if isEnd then e.setRange place .idle else e)
      | _ => (true, e)
    | _ =>
      let (isStart, e) := e.isAt a
      if isStart then (true, e.setRange place (e.rangeFrom last)) else (false, e)

/-- Prints what waits for the end of the cycle. -/
def flush (e : Session) : Session :=
  e.waiting.foldl (fun e waiting =>
    match waiting with
    | .text text => e.emit text
    | .file name =>
      match e.setting.read name with
      | .ok text => if text = [] then e else e.emit text
      | .error _ => e) { e with waiting := [] }

def read? (e : Session) : Option (Line × Session) :=
  match e.unread with
  | [] => none
  | line :: unread =>
    some (line, { e with unread, number := e.number + 1, file := line.file })

end Session

def Case.applied (style : Case) (c : Char) : Char :=
  match style with
  | .same => c
  | .upper => c.toUpper
  | .lower => c.toLower

/-- A text with its letters changed, and the first one perhaps in its own way. -/
def styled (style : Case) (first : Option Case) (text : List Char) : List Char :=
  match first, text with
  | some other, c :: rest => other.applied c :: rest.map style.applied
  | _, text => text.map style.applied

/-- The text of a replacement. A change of the first letter that finds nothing to change waits for
the next part. -/
def replacement (whole : List Char) (groups : List (Nat × List Char)) :
    List Part → Option Case → List Char
  | [], _ => []
  | part :: rest, pending =>
    let first := part.first.or pending
    let start := styled part.style first part.text
    let first := if part.text = [] then first else none
    match part.group with
    | none => start ++ replacement whole groups rest none
    | some index =>
      match if index = 0 then whole else (groups.lookup index).getD [] with
      | [] => start ++ replacement whole groups rest (if part.first.isSome then first else none)
      | found => start ++ styled part.style first found ++ replacement whole groups rest none

/-- Replaces the match of a number in a text, or all matches from it on, and says whether there was
one. An empty match right behind another one does not count. What is done already is handed
through, the last piece first. -/
def replaceFrom (r : Regex) (s : Substitution) :
    Nat → Nat → Bool → Regex.Position → List (List Char) → Bool → Bool × List (List Char)
  | 0, _, _, p, pieces, did => (did, p.after :: pieces)
  | fuel + 1, number, isBehind, start, pieces, did =>
    match Regex.searchFrom r s.what.mode start.left start.before start.after with
    | none => (did, start.after :: pieces)
    | some (p, q) =>
      let skipped := start.upTo p
      let found := p.upTo q
      let counts := !(found = [] && skipped = [] && isBehind)
      let isMeant := counts && number ≤ 1
      let shown := if isMeant then replacement found q.groups s.parts none else found
      let pieces := shown :: skipped :: pieces
      let number := if counts then number - 1 else number
      let did := did || isMeant
      if isMeant && !s.isGlobal then (did, q.after :: pieces)
      else if found = [] then
        match q.after with
        | [] => (did, pieces)
        | c :: rest =>
          let next := { before := c :: q.before, after := rest, left := q.left - 1 }
          replaceFrom r s fuel number false next ([c] :: pieces) did
      else replaceFrom r s fuel number true { q with groups := [] } pieces did

/-- A text after a substitution, unless nothing is replaced. -/
def substituted? (s : Substitution) (text : List Char) : Option (List Char) :=
  match s.what.regex? with
  | none => none
  | some r =>
    match replaceFrom r s (text.length + 2) s.number false (.ofText text) [] false with
    | (true, pieces) => some pieces.reverse.flatten
    | (false, _) => none

def visible (c : Char) : List Char :=
  match c with
  | '\\' => ['\\', '\\']
  | '\x07' => ['\\', 'a']
  | '\x08' => ['\\', 'b']
  | '\x0c' => ['\\', 'f']
  | '\n' => ['\\', 'n']
  | '\r' => ['\\', 'r']
  | '\t' => ['\\', 't']
  | '\x0b' => ['\\', 'v']
  | c =>
    if ' ' ≤ c && c ≤ '~' then [c]
    else
      let digit := fun n : Nat => Char.ofNat ('0'.toNat + n % 8)
      ['\\', digit (c.toNat / 64), digit (c.toNat / 8), digit c.toNat]

/-- Characters with nothing hidden, in lines of a width. What is done already is handed through,
the last character first, with the room on its line. -/
def displayed (width : Nat) : List Char → List Char → Nat → List Char
  | [], done, _ => (('\n' :: '$' :: done)).reverse
  | c :: rest, done, used =>
    let shown := visible c
    if 1 < width && width ≤ used + shown.length then
      displayed width rest (shown.reverse ++ '\n' :: '\\' :: done) shown.length
    else displayed width rest (shown.reverse ++ done) (used + shown.length)

def firstLineOf (text : List Char) : List Char × Option (List Char) :=
  let line := text.takeWhile (· ≠ '\n')
  (line, if line.length < text.length then some (text.drop (line.length + 1)) else none)

/-- How the cycle goes on after a command. -/
inductive Flow where
  /-- With the command at a place. -/
  | goTo (place : Nat)
  /-- With the next line, after the line is printed. -/
  | endCycle
  /-- With the next line. -/
  | dropCycle
  /-- With the first command on what is left of the line. -/
  | restart
  /-- Not at all, after the line is printed. -/
  | quit (code : Nat)
  /-- Not at all. -/
  | stop (code : Nat)

namespace Session

def printSpace (e : Session) (script : Program) : Session :=
  e.emitLine script e.space.text e.space.hasEnd

def substitute (e : Session) (script : Program) (s : Substitution) : Session :=
  let (what, e) := e.resolve s.what
  match substituted? { s with what := { what with mode := s.what.mode } } e.space.text with
  | none => e
  | some text =>
    let e := { e with space := { e.space with text }, hasSubstituted := true }
    let e := if s.prints then e.printSpace script else e
    match s.target with
    | some name => e.writeTo script name text e.space.hasEnd
    | none => e

/-- Takes the next line of a file that is read line by line. -/
def nextLineOf (e : Session) (name : List Char) : Option (List Char) × Session :=
  let lines := match e.lineFiles.lookup name with
    | some lines => lines
    | none => ((e.setting.read name).toOption.map fullLines).getD []
  let others := e.lineFiles.filter fun f => f.1 ≠ name
  (lines.head?, { e with lineFiles := (name, lines.tail) :: others })

/-- Lets something wait for the end of the cycle. -/
def wait (e : Session) (waiting : Waiting) : Session :=
  { e with waiting := e.waiting ++ [waiting] }

def perform (e : Session) (script : Program) (place : Nat) (action : Action) : Session × Flow :=
  let on := Flow.goTo (place + 1)
  match action with
  | .enclose _ => (e, on)
  | .nothing => (e, on)
  | .substitute s => (e.substitute script s, on)
  | .exchange pairs =>
    ({ e with space := { e.space with
        text := e.space.text.map fun c => (pairs.lookup c).getD c } }, on)
  | .print => (e.printSpace script, on)
  | .printFirst =>
    let (line, rest) := firstLineOf e.space.text
    (e.emitLine script line (rest.isSome || e.space.hasEnd), on)
  | .delete => (e, .dropCycle)
  | .deleteFirst =>
    match (firstLineOf e.space.text).2 with
    | none => (e, .dropCycle)
    | some rest => ({ e with space := { e.space with text := rest } }, .restart)
  | .next =>
    match e.read? with
    | none => (e, .quit 0)
    | some _ =>
      let e := (if script.isQuiet then e else e.printSpace script).flush
      match e.read? with
      | some (line, e) => ({ e with space := ⟨line.text, line.hasEnd⟩ }, on)
      | none => (e, .quit 0)
  | .appendNext =>
    match e.read? with
    | none => (e, .quit 0)
    | some (line, e) =>
      ({ e.flush with
        space := ⟨e.space.text ++ script.lineEnd :: line.text, line.hasEnd⟩ }, on)
  | .keep => ({ e with kept := e.space }, on)
  | .keepMore =>
    ({ e with kept := ⟨e.kept.text ++ script.lineEnd :: e.space.text, e.space.hasEnd⟩ }, on)
  | .recall => ({ e with space := e.kept }, on)
  | .recallMore =>
    ({ e with space := ⟨e.space.text ++ script.lineEnd :: e.kept.text, e.kept.hasEnd⟩ }, on)
  | .swap => ({ e with space := e.kept, kept := e.space }, on)
  | .clear => ({ e with space := { e.space with text := [] } }, on)
  | .jump target => (e, .goTo target)
  | .jumpIf wanted target =>
    if e.hasSubstituted = wanted then ({ e with hasSubstituted := false }, .goTo target)
    else ({ e with hasSubstituted := false }, on)
  | .quit code => (e, .quit code)
  | .quitSilently code => (e, .stop code)
  | .append text => (e.wait (.text text), on)
  | .insert text => (if text = [] then e else e.emit text, on)
  | .change text =>
    (if e.isRunning place || text = [] then e else e.emit text, .dropCycle)
  | .readFile name => (e.wait (.file name), on)
  | .readLine name =>
    match e.nextLineOf name with
    | (some line, e) => (e.wait (.text line), on)
    | (none, e) => (e, on)
  | .write name => (e.writeTo script name e.space.text e.space.hasEnd, on)
  | .writeFirst name => (e.writeTo script name (firstLineOf e.space.text).1 true, on)
  | .number => (e.emit (decimal e.number ++ ['\n']), on)
  | .fileName => (e.emit (e.file ++ ['\n']), on)
  | .display width =>
    (e.emit (displayed (width.getD script.width) e.space.text [] 0), on)

end Session

/-- Carries out the commands from a place on, and then cycle after cycle. -/
def runFrom (script : Program) : Nat → Nat → Session → Session
  | 0, _, e => { e with isStuck := true }
  | fuel + 1, place, e =>
    let newCycle := fun e : Session =>
      match e.flush.read? with
      | none => { e.flush with status := none }
      | some (line, e) =>
        runFrom script fuel 0 { e with
          space := ⟨line.text, line.hasEnd⟩, hasSubstituted := false }
    let printed := fun e : Session => if script.isQuiet then e else e.printSpace script
    match script.commands[place]? with
    | none => newCycle (printed e)
    | some c =>
      let (isIn, e) := e.isIn place c.lines
      let (e, flow) :=
        if isIn ≠ c.lines.isNegated then e.perform script place c.action
        else
          match c.action with
          | .enclose stop => (e, .goTo stop)
          | _ => (e, .goTo (place + 1))
      match flow with
      | .goTo place => runFrom script fuel place e
      | .endCycle => newCycle (printed e)
      | .dropCycle => newCycle e
      | .restart => runFrom script fuel 0 e
      | .quit code => { (printed e).flush with status := some code }
      | .stop code => { e with status := some code }

/-- The greatest number of commands that are carried out. -/
def commandLimit : Nat := 1000000

def edit (script : Program) (e : Session) : Session :=
  let ranges := script.commands.map fun c =>
    if c.lines.startsOpen then RangeState.running none else .idle
  match ({ e with ranges }).read? with
  | none => e
  | some (line, e) =>
    runFrom script commandLimit 0 { e with
      space := ⟨line.text, line.hasEnd⟩, hasSubstituted := false }

end BoardBind.Script.Edit
