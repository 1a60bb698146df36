import BoardBind.Script.Expansion
import BoardBind.Script.Format

/-! # Commands of the shell itself

The commands that look at the shell's own state or change it, as far as they run no other
commands.
-/

namespace BoardBind.Script

def regularBuiltins : List String :=
  ["[", "alias", "bg", "cd", "chdir", "command", "echo", "false", "fg", "getopts", "hash", "jobs",
    "kill", "printf", "pwd", "read", "test", "true", "type", "ulimit", "umask", "unalias", "wait"]

/-- Whether a command belongs to the shell itself. -/
def isBuiltin (name : List Char) : Bool :=
  String.ofList name ∈ specialBuiltins || String.ofList name ∈ regularBuiltins

def signals : List (String × Nat) :=
  [("EXIT", 0), ("HUP", 1), ("INT", 2), ("QUIT", 3), ("ILL", 4), ("TRAP", 5), ("ABRT", 6),
    ("BUS", 7), ("FPE", 8), ("KILL", 9), ("USR1", 10), ("SEGV", 11), ("USR2", 12), ("PIPE", 13),
    ("ALRM", 14), ("TERM", 15), ("STKFLT", 16), ("CHLD", 17), ("CONT", 18), ("STOP", 19),
    ("TSTP", 20), ("TTIN", 21), ("TTOU", 22), ("URG", 23), ("XCPU", 24), ("XFSZ", 25),
    ("VTALRM", 26), ("PROF", 27), ("WINCH", 28), ("IO", 29), ("PWR", 30), ("SYS", 31)]

/-- The number of a signal given by its number or name. -/
def signal? (text : List Char) : Option Nat :=
  match natural? text with
  | some n => if n < 65 then some n else none
  | none => signals.lookup (String.ofList text |>.toUpper)

/-- What a signal is called when a program has died of it. -/
def deathTexts : List (Nat × String) :=
  [(1, "Hangup"), (3, "Quit"), (4, "Illegal instruction"), (5, "Trace/breakpoint trap"),
    (6, "Aborted"), (7, "Bus error"), (8, "Floating point exception"), (9, "Killed"),
    (10, "User defined signal 1"), (11, "Segmentation fault"), (12, "User defined signal 2"),
    (14, "Alarm clock"), (15, "Terminated"), (16, "Stack fault"), (24, "CPU time limit exceeded"),
    (25, "File size limit exceeded"), (26, "Virtual timer expired"),
    (27, "Profiling timer expired"), (29, "I/O possible"), (30, "Power failure"),
    (31, "Bad system call")]

/-- The line that a shell writes when a program has died of a signal; it says nothing of those that
users and readers send. -/
def deathNotice (signal : Nat) : List Char :=
  (deathTexts.lookup signal).elim [] fun text => text.toList ++ ['\n']

/-- The signals that a process does not notice, unless it asks for them. -/
def isUnnoticed (signal : Nat) : Bool :=
  signal ∈ [0, 17, 18, 23, 28]

def isHolding (signal : Nat) : Bool :=
  signal ∈ [19, 20, 21, 22]

namespace State

def withTruth (s : State) (truth : Bool) : State :=
  s.withStatus (if truth then 0 else 1)

def refuse (s : State) (complaint : List Char) : State :=
  (s.complain complaint).withStatus 2

/-- Ends the shell because of a text that is no number. -/
def faultOfNumber (s : State) (text : List Char) : State :=
  s.fault ("Illegal number: ".toList ++ text)

/-- Ends the shell because of a text that is no name. -/
def faultOfName (s : State) (text : List Char) : State :=
  s.fault (text ++ ": bad variable name".toList)

def test (s : State) (text : List (List Char)) : State :=
  match Condition.holds ⟨s.world.disk, s.shell.directory, false⟩ text with
  | .ok truth => s.withTruth truth
  | .error reason => s.refuse reason.message

def bracket (s : State) (text : List (List Char)) : State :=
  if text.getLast? = some [']'] then s.test text.dropLast else s.refuse "missing ]".toList

def printOrFail (s : State) (name : String) (text : List Char) (status : Nat) : State :=
  if !s.takesOutput 1 && text ≠ [] then
    (s.complain (name ++ ": I/O error").toList).withStatus 1
  else (s.print text).withStatus status

def echo (s : State) (arguments : List (List Char)) : State :=
  s.printOrFail "echo"
    (if s.shell.isBash then echoedPlainly false true arguments else echoed arguments) 0

/-- Prints values as a format says. All complaints come first. -/
def printedAs (s : State) (format : List Char) (values : List (List Char)) : State :=
  let p := Printing.ofFormat .shell format values
  (p.complaints.reverse.foldl complain s).printOrFail "printf" p.text p.status

def printf (s : State) (arguments : List (List Char)) : State :=
  match arguments with
  | ['-', '-'] :: format :: values => s.printedAs format values
  | ('-' :: c :: _) :: _ => s.refuse ("Illegal option -".toList ++ [c])
  | format :: values => s.printedAs format values
  | [] => s.refuse "usage: printf format [arg ...]".toList

def shift (s : State) (arguments : List (List Char)) : State :=
  let text := arguments.headD ['1']
  match natural? text with
  | some n =>
    if s.shell.arguments.length < n then s.fault "can't shift that many".toList
    else { s with shell := { s.shell with arguments := s.shell.arguments.drop n, status := 0 } }
  | none => s.faultOfNumber text

def flagNamed? (name : List Char) : Option Char :=
  [("errexit", 'e'), ("noglob", 'f'), ("ignoreeof", 'I'), ("interactive", 'i'), ("monitor", 'm'),
    ("noexec", 'n'), ("stdin", 's'), ("xtrace", 'x'), ("verbose", 'v'), ("vi", 'V'), ("emacs", 'E'),
    ("noclobber", 'C'), ("allexport", 'a'), ("notify", 'b'), ("nounset", 'u')].lookup
      (String.ofList name)

/-- Sets an option or takes it back. -/
def setFlag (s : State) (flag : Char) (isSet : Bool) : State :=
  let others := s.shell.flags.filter (· ≠ flag)
  { s with shell := { s.shell with flags := if isSet then flag :: others else others } }

def flagLetters : List Char :=
  ['a', 'b', 'C', 'e', 'E', 'f', 'I', 'i', 'm', 'n', 's', 'u', 'v', 'V', 'x']

def unknownOption (option : List Char) : List Char :=
  "Illegal option -".toList ++ option

/-- Sets an option that is given by its name, unless there is none. -/
def setNamedFlag (s : State) (name : List Char) (isSet : Bool) : Except (List Char) State :=
  match flagNamed? name with
  | some flag => .ok (s.setFlag flag isSet)
  | none => .error (unknownOption ("o ".toList ++ name))

/-- Sets the options of a run of letters. None is known under another letter. -/
def setFlags (isSet : Bool) : List Char → State → Except (List Char) State
  | [], s => .ok s
  | c :: rest, s =>
    if c ∈ flagLetters then setFlags isSet rest (s.setFlag c isSet)
    else .error (unknownOption [c])

/-- Reads options in front of arguments, which are handed back if there are any. -/
def readFlags : State → List (List Char) →
    Except (List Char) (State × Option (List (List Char)))
  | s, [] => .ok (s, none)
  | s, ['-', '-'] :: rest => .ok (s, some rest)
  | s, ['-'] :: rest => .ok (s, if rest = [] then none else some rest)
  | s, [['-', 'o']] => .ok (s, none)
  | s, [['+', 'o']] => .ok (s, none)
  | s, ['-', 'o'] :: name :: rest => do readFlags (← s.setNamedFlag name true) rest
  | s, ['+', 'o'] :: name :: rest => do readFlags (← s.setNamedFlag name false) rest
  | s, ('-' :: letters) :: rest => do readFlags (← setFlags true letters s) rest
  | s, ('+' :: letters) :: rest => do readFlags (← setFlags false letters s) rest
  | s, rest => .ok (s, some rest)

/-- A text in quotes that a shell reads as the text again: quotes inside of it stand between quotes
of the other kind. -/
def quotedFrom : Nat → List Char → List Char
  | 0, _ => []
  | fuel + 1, text =>
    let plain := text.takeWhile (· ≠ '\'')
    let marks := (text.drop plain.length).takeWhile (· = '\'')
    let rest := text.drop (plain.length + marks.length)
    '\'' :: plain ++ '\'' :: (if marks = [] then [] else
      '"' :: marks ++ '"' :: if rest = [] then [] else quotedFrom fuel rest)

/-- A text in quotes that a shell reads as the text again. -/
def quoted (text : List Char) : List Char :=
  quotedFrom text.length.succ text

def flagNames : List (String × Option Char) :=
  [("errexit", some 'e'), ("noglob", some 'f'), ("ignoreeof", some 'I'),
    ("interactive", some 'i'), ("monitor", some 'm'), ("noexec", some 'n'), ("stdin", some 's'),
    ("xtrace", some 'x'), ("verbose", some 'v'), ("vi", some 'V'), ("emacs", some 'E'),
    ("noclobber", some 'C'), ("allexport", some 'a'), ("notify", some 'b'),
    ("nounset", some 'u'), ("privileged", some 'p'), ("nolog", none), ("debug", none)]

def flagLines (s : State) (asCommands : Bool) : List Char :=
  let lines := flagNames.map fun (name, letter) =>
    let isSet := letter.any s.hasFlag
    if asCommands then ("set " ++ (if isSet then "-o " else "+o ") ++ name).toList
    else
      name.toList ++ List.replicate (16 - name.length) ' ' ++ (if isSet then "on" else "off").toList
  joinLines (if asCommands then lines else "Current option settings".toList :: lines)

def byName {α : Type} (entries : List (List Char × α)) : List (List Char × α) :=
  entries.mergeSort fun a b => !decide (b.1 < a.1)

def variableLines (s : State) : List Char :=
  let shown := s.shell.assigned.filter fun v => isName v.1
  joinLines ((byName shown).map fun (name, value) => name ++ '=' :: quoted value)

/-- The commands that would give some variables the state that they have. -/
def markedLines (s : State) (word : String) (names : List (List Char)) : List Char :=
  let shown := (byName ((names.eraseDups).map fun name => (name, ()))).map (·.1)
  joinLines (shown.map fun name =>
    word.toList ++ ' ' :: name ++
      (s.shell.assigned.lookup name).elim [] fun value => '=' :: quoted value)

def set (s : State) (arguments : List (List Char)) : State :=
  if arguments = [] then s.printOrFail "set" s.variableLines 0
  else
  match readFlags s arguments with
  | .error complaint => s.fault complaint
  | .ok (s, none) =>
    match arguments.getLast? with
    | some ['-', 'o'] => s.printOrFail "set" (s.flagLines false) 0
    | some ['+', 'o'] => s.printOrFail "set" (s.flagLines true) 0
    | _ => s.withStatus 0
  | .ok (s, some values) =>
    { s with shell := { s.shell with arguments := values, status := 0 } }

/-- The name and the value of an argument that assigns. -/
def binding (text : List Char) : List Char × Option (List Char) :=
  let name := text.takeWhile (· ≠ '=')
  (name, if name.length < text.length then some (text.drop (name.length + 1)) else none)

/-- Carries out a step for each argument that assigns. Any other text ends the shell. -/
def forBindings (step : State → List Char → State) : List (List Char) → State → State
  | [], s => s
  | text :: rest, s =>
    let (name, value) := binding text
    if s.isStopped then s
    else if !isName name then s.faultOfName name
    else
      let s := match value with
        | some value => s.assign name value
        | none => s
      forBindings step rest (if s.isStopped then s else step s name)

/-- Carries out something with the arguments behind options, of which only some letters are known.
Any other letter ends the shell. -/
def withLetters (letters : List Char) (body : State → List Char → List (List Char) → State) :
    List (List Char) → State → State
  | ['-', '-'] :: rest, s => body s [] rest
  | ('-' :: c :: more) :: rest, s =>
    match (c :: more).find? (· ∉ letters) with
    | some bad => s.fault (unknownOption [bad])
    | none => withLetters letters (fun s given => body s (c :: more ++ given)) rest s
  | arguments, s => body s [] arguments

/-- Hands variables to the programs that are started. -/
def publish (s : State) (arguments : List (List Char)) : State :=
  withLetters ['p'] (fun s letters names =>
    if names = [] || letters ≠ [] then
      s.printOrFail "export" (s.markedLines "export" s.shell.exported) 0
    else
    forBindings (fun s name =>
      { s with shell := { s.shell with
          exported := name :: s.shell.exported.filter (· ≠ name) } }) names (s.withStatus 0))
    arguments s

def freeze (s : State) (arguments : List (List Char)) : State :=
  withLetters ['p'] (fun s letters names =>
    if names = [] || letters ≠ [] then
      s.printOrFail "readonly" (s.markedLines "readonly" s.shell.frozen) 0
    else
    forBindings (fun s name =>
      { s with shell := { s.shell with frozen := name :: s.shell.frozen } }) names (s.withStatus 0))
    arguments s

def makeLocal (s : State) (arguments : List (List Char)) : State :=
  match s.shell.shadowed with
  | [] => s.fault "not in a function".toList
  | _ =>
    arguments.foldl (fun s text =>
      match s.shell.shadowed with
      | frame :: frames =>
        let (name, value) := binding text
        let old := s.shell.assigned.lookup name
        let shadowed := ((name, old) :: frame) :: frames
        let kept := { s with shell := { s.shell with shadowed } }
        match value with
        | some value => kept.assign name value
        | none => kept
      | [] => s) (s.withStatus 0)

/-- Takes variables or functions away. -/
def unset (s : State) (arguments : List (List Char)) : State :=
  withLetters ['f', 'v'] (fun s letters names =>
    names.foldl (fun s name =>
      if s.isStopped then s
      else if letters.getLast? = some 'f' then
        { s with shell := { s.shell with
            functions := s.shell.functions.filter fun f => f.1 ≠ name } }
      else if !isName name then s.faultOfName name
      else if s.isFrozen name then s.fault (name ++ ": is read only".toList)
      else s.unassign name) (s.withStatus 0)) arguments s

def directoryText (s : State) : List Char :=
  s.shell.writtenDirectory.getD (directoryPath s.world.disk s.shell.directory)

/-- A path from the root where steps that stay or lead upwards are taken away. -/
def plainPath (path : List Char) : List Char :=
  let names := ((path.splitOn '/').foldl (fun (names : List (List Char)) name =>
    if name = [] || name = ['.'] then names
    else if name = ['.', '.'] then names.dropLast
    else names ++ [name]) [])
  let start := if "//".toList.isPrefixOf path && path[2]? ≠ some '/' then "//".toList else ['/']
  start ++ ['/'].intercalate names

def moveTo (s : State) (isPhysical : Bool) (target : List Char) : State :=
  let full := if target.head? = some '/' then target else s.directoryText ++ '/' :: target
  let written := if isPhysical then full else plainPath full
  let path := if isPhysical then s.path target else pathOf written
  if s.world.disk.hasDirectory path then
    let moved := { s with shell := { s.shell with
      directory := path, status := 0
      writtenDirectory := if isPhysical then none else some written } }
    let moved := { moved with shell := { moved.shell with
      exported := "PWD".toList :: "OLDPWD".toList :: moved.shell.exported.filter fun name =>
        name ≠ "PWD".toList && name ≠ "OLDPWD".toList } }
    (moved.assign "OLDPWD".toList s.directoryText).assign "PWD".toList moved.directoryText
  else s.refuse ("can't cd to ".toList ++ target)

/-- The directory of a name in the list of directories that names are looked for in, and whether it
is to be shown. -/
def directoryAside? (s : State) (target : List Char) : Option (List Char × Bool) :=
  let first := (target.splitOn '/').headD []
  match s.valueOf? "CDPATH" with
  | none => none
  | some path =>
    if target.head? = some '/' || first = ['.'] || first = ['.', '.'] then none
    else
      ((path.splitOn ':').map fun directory =>
        if directory = [] then (target, false) else (directory ++ '/' :: target, true)).find?
          fun (candidate, _) => s.world.disk.hasDirectory (s.path candidate)

def showDirectory (s : State) (arguments : List (List Char)) : State :=
  let options := arguments.takeWhile fun a => a.head? = some '-' && 1 < a.length
  let letters := options.flatMap List.tail
  match letters.find? (· ∉ ['L', 'P', '-']) with
  | some letter => s.refuse (unknownOption [letter])
  | none =>
    let path := if letters.getLast? = some 'P' then
        directoryPath s.world.disk s.shell.directory
      else s.directoryText
    s.printOrFail "pwd" (path ++ ['\n']) 0

/-- Moves to a directory, or back to the one before. -/
def cd (s : State) (arguments : List (List Char)) : State :=
  let options := arguments.takeWhile fun a => a = ['-', 'P'] || a = ['-', 'L']
  let isPhysical := options.getLast? = some ['-', 'P']
  let rest := arguments.drop options.length
  match if rest.head? = some ['-', '-'] then rest.tail else rest with
  | [] :: _ => s.withStatus 0
  | ['-'] :: _ =>
    let old := (s.valueOf? "OLDPWD").getD s.directoryText
    let moved := s.moveTo isPhysical old
    if moved.shell.status = 0 then moved.print (old ++ ['\n']) else moved
  | ('-' :: c :: _) :: _ => s.refuse (unknownOption [c])
  | target :: _ =>
    match s.directoryAside? target with
    | some (path, isShown) =>
      let moved := s.moveTo isPhysical path
      if isShown then moved.print (moved.directoryText ++ ['\n']) else moved
    | none => s.moveTo isPhysical target
  | [] =>
    match s.valueOf? "HOME" with
    | some (c :: home) => s.moveTo isPhysical (c :: home)
    | _ => s.withStatus 0

/-- The line at the start of a text as `read` takes it: its characters, each with whether a
backslash stands before it, what follows, and whether the line is complete. -/
def inputLine (isRaw : Bool) : List Char → List Marked × List Char × Bool
  | [] => ([], [], false)
  | '\n' :: rest => ([], rest, true)
  | '\\' :: c :: rest =>
    if isRaw then
      let (line, rest, isComplete) := inputLine isRaw (c :: rest)
      (('\\', false) :: line, rest, isComplete)
    else
      let (line, rest, isComplete) := inputLine isRaw rest
      (if c = '\n' then line else (c, true) :: line, rest, isComplete)
  | c :: rest =>
    let (line, rest, isComplete) := inputLine isRaw rest
    ((c, false) :: line, rest, isComplete)

/-- Whether a character of a line is a separator, or a separating blank. -/
def isSeparator (separators : List Char) (m : Marked) : Bool :=
  !m.2 && separators.contains m.1

def isSeparatingBlank (separators : List Char) (m : Marked) : Bool :=
  isSeparator separators m && (m.1 = ' ' || m.1 = '\t' || m.1 = '\n')

/-- Drops separating blanks at both ends. -/
def trimmed (separators : List Char) (line : List Marked) : List Marked :=
  let blank := isSeparatingBlank separators
  ((line.dropWhile blank).reverse.dropWhile blank).reverse

/-- The last field of a line: all that is left, without a single separator at its end. -/
def lastField (separators : List Char) (line : List Marked) : List Marked :=
  let line := trimmed separators line
  let field := line.takeWhile fun m => !isSeparator separators m
  match (line.drop field.length).dropWhile (isSeparatingBlank separators) with
  | [m] => if isSeparator separators m then field else line
  | _ => line

/-- Assigns the fields of a line to names; the last name takes all that is left. -/
def assignFields (separators : List Char) : List (List Char) → List Marked → State → State
  | [], _, s => s
  | [name], line, s => s.assign name ((lastField separators line).map (·.1))
  | name :: names, line, s =>
    let line := line.dropWhile (isSeparatingBlank separators)
    let field := line.takeWhile fun m => !isSeparator separators m
    let rest := (line.drop field.length).dropWhile (isSeparatingBlank separators)
    let rest := match rest with
      | m :: after =>
        if isSeparator separators m && !(line.drop field.length).isEmpty then after else rest
      | [] => []
    let s := s.assign name (field.map (·.1))
    if s.isStopped then s else assignFields separators names rest s

/-- The options in front of the names that a line is read into: whether backslashes are read as
they are, and what is left. -/
def readOptions : Nat → Bool → List (List Char) → Except (List Char) (Bool × List (List Char))
  | 0, isRaw, rest => .ok (isRaw, rest)
  | _, isRaw, [] => .ok (isRaw, [])
  | _, isRaw, ['-', '-'] :: rest => .ok (isRaw, rest)
  | fuel + 1, isRaw, ('-' :: c :: more) :: rest =>
    if c = 'r' then
      if more = [] then readOptions fuel true rest else readOptions fuel true (('-' :: more) :: rest)
    else if c = 'p' then
      match more, rest with
      | [], [] => .error "No arg for -p option".toList
      | [], _ :: rest => readOptions fuel isRaw rest
      | _ :: _, rest => readOptions fuel isRaw rest
    else .error (unknownOption [c])
  | _, isRaw, rest => .ok (isRaw, rest)

def read (s : State) (arguments : List (List Char)) : State :=
  let size := arguments.foldl (fun n a => n + a.length + 1) 1
  match readOptions size false arguments with
  | .error complaint => s.refuse complaint
  | .ok (_, []) => s.refuse "arg count".toList
  | .ok (isRaw, names) =>
    match names.find? fun name => !isName name with
    | some name => s.refuse (name ++ ": bad variable name".toList)
    | none =>
      let (line, rest, isComplete) := inputLine isRaw (s.unread 0)
      let line := line.filter (·.1 ≠ Char.ofNat 0)
      let s := assignFields s.separators names line (s.withUnread 0 rest)
      if s.isStopped then s else s.withTruth isComplete

def passTo (s : State) (moment : Nat) : State :=
  { s with world := { s.world with now := max s.world.now moment } }

/-- The commands that set what is done on signals. -/
def trapLines (s : State) : List Char :=
  let set := s.shell.traps.mergeSort fun a b => a.1 ≤ b.1
  joinLines (set.map fun (signal, action) =>
    let name := (signals.find? fun known => known.2 = signal).elim (digits signal) (·.1.toList)
    "trap -- ".toList ++ quoted action ++ ' ' :: name)

/-- Sets what is done on signals, or prints it. -/
def trap (s : State) (arguments : List (List Char)) : State :=
  let arguments := if arguments.head? = some ['-', '-'] then arguments.tail else arguments
  let (action, names) : Option (List Char) × List (List Char) :=
    match arguments with
    | [] => (none, [])
    | [name] => (none, [name])
    | ['-'] :: names => (none, names)
    | first :: names =>
      if (natural? first).isSome then (none, first :: names) else (some first, names)
  if arguments = [] then s.printOrFail "trap" s.trapLines 0
  else
  match arguments with
  | ('-' :: c :: _) :: _ => s.fault (unknownOption [c])
  | _ =>
  names.foldl (fun s name =>
    match signal? name with
    | none => (s.emit 2 ("trap: ".toList ++ name ++ ": bad trap\n".toList)).withStatus 1
    | some n =>
      let others := s.shell.traps.filter fun t => t.1 ≠ n
      { s with shell := { s.shell with
          traps := (action.map fun text => (n, text)).toList ++ others } }) (s.withStatus 0)

/-- An option letter found among arguments: what its variable is set to, its value, the place of
the next argument and of the next letter in it, and what is wrong. -/
structure OptionStep where
  letter : List Char
  value : Option (List Char) := none
  index : Nat
  offset : Nat := 0
  complaint : List Char := []

def optionStep (options : List Char) (arguments : List (List Char)) (index offset : Nat) :
    Option OptionStep :=
  let isQuiet := options.head? = some ':'
  match arguments[index - 1]? with
  | none => none
  | some argument =>
    if offset = 0 && (argument.head? ≠ some '-' || argument = ['-']) then none
    else if argument = ['-', '-'] then none
    else
      let position := max 1 offset
      match argument.drop position with
      | [] => none
      | letter :: more =>
        let next := if more = [] then (index + 1, 0) else (index, position + 1)
        let known := options.dropWhile (· ≠ letter)
        if letter = ':' || known = [] then
          some <| if isQuiet then ⟨['?'], some [letter], next.1, next.2, []⟩
            else ⟨['?'], none, next.1, next.2, unknownOption [letter, '\n']⟩
        else if known.tail.head? = some ':' then
          if more ≠ [] then some ⟨[letter], some more, index + 1, 0, []⟩
          else
            match arguments[index]? with
            | some value => some ⟨[letter], some value, index + 2, 0, []⟩
            | none =>
              some <| if isQuiet then ⟨[':'], some [letter], index + 1, 0, []⟩
                else ⟨['?'], none, index + 1, 0,
                  "No arg for -".toList ++ letter :: " option\n".toList⟩
        else some ⟨[letter], none, next.1, next.2, []⟩

/-- Takes the next option letter of the arguments. The position inside of an argument is kept in a
variable that scripts cannot name. -/
def getopts (s : State) (arguments : List (List Char)) : State :=
  match arguments with
  | options :: name :: values =>
    let values := if values = [] then s.shell.arguments else values
    let index := (natural? ((s.parameter? "OPTIND".toList).getD ['1'])).getD 1
    let offset := (natural? ((s.shell.assigned.lookup ['.']).getD ['0'])).getD 0
    match optionStep options values index offset with
    | none =>
      let passed := if values[index - 1]? = some ['-', '-'] then index + 1 else index
      let s := (s.assign name ['?']).assign "OPTIND".toList (digits passed)
      (s.assign ['.'] ['0']).withStatus 1
    | some step =>
      let s := (s.emit 2 step.complaint).assign name step.letter
      let s := (s.assign "OPTIND".toList (digits step.index)).assign ['.'] (digits step.offset)
      let s := match step.value with
        | some value => s.assign "OPTARG".toList value
        | none => s.unassign "OPTARG".toList
      if s.isStopped then s else s.withStatus 0
  | _ => s.refuse "Usage: getopts optstring var [arg...]".toList

end State

end BoardBind.Script
