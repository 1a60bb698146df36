import BoardBind.Script.Condition
import BoardBind.Script.Job

/-! # How names and files become running programs

A file is run by the program of the system that it is, or by the interpreter that its first line
names. That interpreter may be a file with a first line again, up to a number of levels.

A name may be a word of the shell's own language, stand for a text, be a function, a command of the
shell itself, or a program. A shell takes note of the programs that it has found.
-/

namespace BoardBind.Script

/-! ## How a file becomes a running program -/

/-- A program of the system with its arguments. -/
structure Invocation where
  program : String
  /-- What the program is called by. -/
  title : List Char
  arguments : List (List Char)

/-- How much of a file is looked at for its first line. -/
def firstLineLimit : Nat := 256

/-- Whether a character separates the parts of a first line. -/
def isGap (c : Char) : Bool :=
  c = ' ' || c = '\t'

def endsName (c : Char) : Bool :=
  isGap c || c = '\x00'

/-- The first line of a file that names an interpreter, behind its sign. Without an end in the part
looked at, the line goes on with NUL behind the file, and it must show the end of a name. -/
def firstLine? (file : List Char) : Option (List Char) :=
  match (file ++ List.replicate firstLineLimit '\x00').take firstLineLimit with
  | '#' :: '!' :: text =>
    if text.contains '\n' then some (text.takeWhile (· ≠ '\n'))
    else if (text.dropWhile isGap).all fun c => !endsName c then none
    else some text.dropLast
  | _ => none

/-- The interpreter that a file names on its first line, with at most one argument, which is the
rest of the line. -/
def interpreter? (file : List Char) : Option (List Char × Option (List Char)) :=
  (firstLine? file).bind fun line =>
    match (line.dropWhile isGap).reverse.dropWhile isGap with
    | [] => none
    | shown =>
      let name := shown.reverse.takeWhile fun c => !endsName c
      match shown.reverse.drop name.length with
      | [] => some (name, none)
      | c :: rest =>
        if isGap c then some (name, some ((rest.dropWhile isGap).takeWhile (· ≠ '\x00')))
        else some (name, none)

/-- The greatest number of files that may run each other. -/
def levelLimit : Nat := 6

/-- Starts the file of a name, seen from a directory. An interpreter without a name is the
directory itself. -/
def start (disk : Disk) (directory : Path) :
    Nat → List Char → List (List Char) → Except OsError Invocation
  | levels, name, arguments =>
    match disk.find (directory.join (pathOf name)) with
    | .error reason => .error reason
    | .ok (place, .file bytes executable) =>
      if !executable then .error .denied
      else
        match levels with
        | 0 => .error .tooManyLevels
        | levels + 1 =>
          match disk.machine.program? place with
          | some program => .ok { program, title := name, arguments }
          | none =>
            match interpreter? (Text.ofBytes bytes) with
            | none => .error .badExecutable
            | some (interpreter, argument) =>
              let file := if interpreter = [] then ['.'] else interpreter
              start disk directory levels file (argument.toList ++ name :: arguments)
    | .ok _ => .error .denied

/-- The list of directories that programs are looked for in, unless another one is given. -/
def standardPath : List Char :=
  "/usr/local/sbin:/usr/local/bin:/usr/sbin:/usr/bin:/sbin:/bin".toList

/-- The files that a name without a slash may mean in a list of directories with colons between
them. An empty directory is the one at hand. -/
def candidates (path name : List Char) : List (List Char) :=
  (path.splitOn ':').map fun directory =>
    if directory = [] then name else directory ++ '/' :: name

/-- The first of several files that can be run. Without one, a file that is there but cannot be run
is what counts. -/
def firstRunnable (disk : Disk) (directory : Path) :
    OsError → List (List Char) → Except OsError (List Char)
  | reason, [] => .error reason
  | reason, file :: rest =>
    match disk.find (directory.join (pathOf file)) with
    | .ok (_, .file _ true) => .ok file
    | .ok _ => firstRunnable disk directory .denied rest
    | .error .nameTooLong => .error .nameTooLong
    | .error _ => firstRunnable disk directory reason rest

/-- The file that a program's name means: one without a slash is looked for in a list of
directories. -/
def programFile (disk : Disk) (directory : Path) (path name : List Char) :
    Except OsError (List Char) :=
  if name.contains '/' then .ok name
  else if name = [] then .error .noEntry
  else if Disk.nameLimit < name.length then .error .nameTooLong
  else firstRunnable disk directory .noEntry (candidates path name)

def startByName (disk : Disk) (directory : Path) (path name : List Char)
    (arguments : List (List Char)) : Except OsError Invocation := do
  let file ← programFile disk directory path name
  let i ← start disk directory levelLimit file arguments
  return if i.title = file then { i with title := name } else i

/-! ## How a shell understands names -/

/-- The place of a name in a table of the given size. Tables are listed from their first place. -/
def tablePlace (size : Nat) (name : List Char) : Nat :=
  ((name.headD '\x00').toNat * 16 + name.foldl (fun n c => n + c.toNat) 0) % size

def inTableOrder {α : Type} (size : Nat) (entries : List (List Char × α)) :
    List (List Char × α) :=
  entries.mergeSort fun a b => tablePlace size a.1 ≤ tablePlace size b.1

/-- The size of the tables of variables and of names that stand for texts. -/
def tableSize : Nat := 39

def trackedSize : Nat := 31

namespace State

/-- The file of a program in the directories that the shell looks into. -/
def programPath? (s : State) (name : List Char) : Option (List Char) :=
  (programFile s.world.disk s.shell.directory ((s.valueOf? "PATH").getD []) name).toOption

/-- Takes note of a program, if it is found. -/
def track (s : State) (name : List Char) : State :=
  if name.contains '/' then s
  else
    match s.programPath? name with
    | some file =>
      { s with shell := { s.shell with tracked := withValue name file s.shell.tracked } }
    | none => s

/-- Takes note of a name that can only mean a program. -/
def trackProgram (s : State) (name : List Char) : State :=
  if isBuiltin name || (s.shell.functions.lookup name).isSome then s else s.track name

/-- Takes note of the program that a stage of a pipeline starts, if its name is plain to see. -/
def trackStage (s : State) (stage : Command) : State :=
  let stage := match stage with
    | .at _ body => body
    | body => body
  let words := match stage with
    | .simple _ words _ => words
    | .group [.simple _ words _] => words
    | .group [.at _ (.simple _ words _)] => words
    | _ => []
  match words.head?.bind Word.plain? with
  | some name => if isName name then s.trackProgram name else s
  | none => s

/-- How a name is understood as a command: what it stands for, and how that is told. -/
def meaning? (s : State) (name : List Char) : Option (List Char × List Char) :=
  if String.ofList name ∈ reserved then some (name, " is a shell keyword".toList)
  else
    match s.shell.aliases.lookup name with
    | some text =>
      some ("alias ".toList ++ name ++ '=' :: quoted text, " is an alias for ".toList ++ text)
    | none =>
      if String.ofList name ∈ specialBuiltins then
        some (name, " is a special shell builtin".toList)
      else if (s.shell.functions.lookup name).isSome then
        some (name, " is a shell function".toList)
      else if isBuiltin name then some (name, " is a shell builtin".toList)
      else if name.contains '/' then
        match s.world.disk.find (s.path name) with
        | .ok (place, .file ..) =>
          if s.world.disk.isExecutableAt place then some (name, " is ".toList ++ name) else none
        | _ => none
      else
        match s.shell.tracked.lookup name with
        | some file => some (file, " is a tracked alias for ".toList ++ file)
        | none => (s.programPath? name).map fun file => (file, " is ".toList ++ file)

def describe (s : State) (name : List Char) : State :=
  match s.meaning? name with
  | some (_, text) =>
    let isProgram := !isBuiltin name && (s.shell.functions.lookup name).isNone &&
      (s.shell.aliases.lookup name).isNone && String.ofList name ∉ reserved
    let s := s.print (name ++ text ++ ['\n'])
    if isProgram then s.track name else s
  | none => (s.print (name ++ ": not found\n".toList)).withStatus 127

def type (s : State) (arguments : List (List Char)) : State :=
  arguments.foldl describe (s.withStatus 0)

def locate (s : State) (name : List Char) : State :=
  match s.meaning? name with
  | some (text, _) =>
    let isPlain := (s.shell.aliases.lookup name).isNone && String.ofList name ∉ reserved
    let s := (s.print (text ++ ['\n'])).withStatus 0
    if isPlain then s.trackProgram name else s
  | none => s.withStatus 127

/-- Lists the programs that the shell has found, or looks for more. -/
def hash (s : State) (arguments : List (List Char)) : State :=
  match arguments with
  | [] =>
    let files := (inTableOrder trackedSize s.shell.tracked).map (·.2)
    s.printOrFail "hash" (joinLines files) 0
  | ['-', 'r'] :: _ => { s with shell := { s.shell with tracked := [], status := 0 } }
  | ('-' :: c :: _) :: _ => s.refuse (unknownOption [c])
  | names =>
    names.foldl (fun s name =>
      if isBuiltin name || (s.shell.functions.lookup name).isSome then s
      else if (s.programPath? name).isSome then s.track name
      else (s.complain (name ++ ": not found".toList)).withStatus 1) (s.withStatus 0)

/-- The line about a name that stands for a text. -/
def aliasLine (entry : List Char × List Char) : List Char :=
  entry.1 ++ '=' :: quoted entry.2 ++ ['\n']

/-- Complains about a name that stands for nothing. -/
def missingAlias (s : State) (command : String) (name : List Char) : State :=
  (s.emit 2 ((command ++ ": ").toList ++ name ++ " not found\n".toList)).withStatus 1

/-- Lets names stand for texts, or lists them. -/
def setAliases (s : State) (arguments : List (List Char)) : State :=
  if arguments = [] then
    s.printOrFail "alias" ((inTableOrder tableSize s.shell.aliases).flatMap aliasLine) 0
  else
    arguments.foldl (fun s text =>
      match binding text with
      | (name, some value) =>
        if name = [] then s.missingAlias "alias" text
        else { s with shell := { s.shell with aliases := withValue name value s.shell.aliases } }
      | (name, none) =>
        match s.shell.aliases.lookup name with
        | some value => s.print (aliasLine (name, value))
        | none => s.missingAlias "alias" name) (s.withStatus 0)

/-- Lets names no longer stand for texts. -/
def unsetAliases (s : State) (arguments : List (List Char)) : State :=
  match arguments with
  | ['-', 'a'] :: _ => { s with shell := { s.shell with aliases := [], status := 0 } }
  | ('-' :: c :: _) :: _ => s.refuse (unknownOption [c])
  | names =>
    names.foldl (fun s name =>
      if (s.shell.aliases.lookup name).isSome then
        { s with shell := { s.shell with
            aliases := s.shell.aliases.filter fun entry => entry.1 ≠ name } }
      else s.missingAlias "unalias" name) (s.withStatus 0)

end State

end BoardBind.Script
