import BoardBind.Script.Flow
import BoardBind.Script.Lookup
import BoardBind.Script.Programs

/-! # Programs that scripts start

A script starts programs of the system, other scripts, and programs that start others. All of them
share the world of the script; what a program does to its own shell is gone when it ends.
-/

namespace BoardBind.Script

def programCost : Nat := 300

/-- How a program ended: with a status or by a signal. -/
inductive Ending where
  | status (n : Nat)
  | signal (n : Nat)
  /-- It never ends, unless nobody reads what it prints. -/
  | blocked

/-- The status that an ending shows to the shell that started the program. -/
def Ending.shown : Ending → Nat
  | .status n => n
  | .signal n => 128 + n
  | .blocked => 141

def environment (s : State) : List (List Char × List Char) :=
  let shown := s.shell.assigned.filter fun v => s.shell.exported.contains v.1
  if s.shell.keepsOrder then shown else inTableOrder tableSize shown

def standardVariables : List (List Char × List Char) :=
  [("IFS".toList, " \t\n".toList), ("OPTIND".toList, ['1']), ("PS1".toList, "# ".toList),
    ("PS2".toList, "> ".toList), ("PS4".toList, "+ ".toList)]

/-- What a shell is to run: a text, the name it goes by, and arguments. -/
structure Task where
  text : List Char
  title : List Char
  arguments : List (List Char)

/-- The task that the operands of a shell name: a file, or else the input. -/
def taskOf (s : State) (title : List Char) (readsInput : Bool) :
    Option (List (List Char)) → Except (List Char) Task
  | some (file :: rest) =>
    if readsInput then .ok ⟨s.unread 0, title, file :: rest⟩
    else
      match s.world.disk.read (s.path file) with
      | .ok bytes => .ok ⟨Text.ofBytes bytes, file, rest⟩
      | .error reason =>
        .error ("cannot open ".toList ++ file ++ ": ".toList ++
          (shownReason "No such file" reason).toList)
  | _ => .ok ⟨s.unread 0, title, []⟩

/-- Reads the options of a shell: the shell with its options set and what it is to run. -/
def readTask (title : List Char) : State → List (List Char) → Except (List Char) (State × Task)
  | s, [] => do .ok (s, ← taskOf s title false none)
  | s, ('-' :: c :: letters) :: rest =>
    if c = '-' && letters = [] then do .ok (s, ← taskOf s title false (some rest))
    else if (c :: letters).contains 'c' then do
      let s ← State.setFlags true ((c :: letters).filter (· ≠ 'c')) s
      match rest with
      | text :: rest => .ok (s, ⟨text, rest.headD title, rest.tail⟩)
      | [] => .error "-c requires an argument".toList
    else if c = 'o' && letters = [] then
      match rest with
      | name :: rest => do readTask title (← s.setNamedFlag name true) rest
      | [] => .error (State.unknownOption ['o'])
    else if (c :: letters).contains 's' then do
      let s ← State.setFlags true (c :: letters) s
      .ok (s, ← taskOf s title true (some rest))
    else do readTask title (← State.setFlags true (c :: letters) s) rest
  | s, ('+' :: letters) :: rest => do readTask title (← State.setFlags false letters s) rest
  | s, ['-'] :: rest => do .ok (s, ← taskOf s title false (some rest))
  | s, rest => do .ok (s, ← taskOf s title false (some rest))

def runShell (self : Runner) (i : Invocation) (s : State) : World × Ending :=
  let process := s.world.processes + 1
  let environment := environment s
  let shell : Shell := {
    process, title := i.title
    assigned := standardVariables ++
      (environment.filter fun v => v.1 ≠ "PWD".toList && v.1 ≠ "IFS".toList) ++
        [("PPID".toList, State.digits s.shell.process),
          ("PWD".toList, s.directoryText)]
    exported := "PWD".toList :: environment.map (·.1)
    descriptors := s.shell.descriptors, directory := s.shell.directory
    writtenDirectory := s.shell.writtenDirectory
    isBash := i.program = "bash", mask := s.shell.mask }
  let fresh : State := { world := { s.world with processes := process }, shell }
  match readTask i.title fresh i.arguments with
  | .error complaint => ((fresh.complain complaint).world, .status 2)
  | .ok (ready, task) =>
    let ready := { ready with shell := { ready.shell with
      title := task.title, arguments := task.arguments } }
    let after := runExitTrap self (runText self task.text ready)
    (after.world, match after.shell.halt with
      | some (.killed _ signal) => .signal signal
      | some .blocked => .blocked
      | _ => .status (after.shell.status % 256))

/-- What a program of the system finds in a shell. -/
def settingOf (s : State) (title : List Char) : Setting :=
  let source := (s.source? 0).getD { stream := {} }
  { disk := s.world.disk, directory := s.shell.directory, title
    input := source.stream, inputIsFile := source.isFile
    inputIsDirectory := source.isDirectory
    target := match s.channel? 1 with
      | some (.file index) => (s.world.files[index]?).bind s.world.placeOf?
      | _ => none
    environment := environment s
    making := s.making }

/-- Whether a program is to read all of a text that never ends. -/
def readsForever (setting : Setting) (name : String) (effect : Effect)
    (arguments : List (List Char)) : Bool :=
  !isPatient name &&
    ((effect.left.isSome && setting.input.isEndless) ||
      arguments.any fun text =>
        match setting.disk.find (setting.path text) with
        | .ok (place, .file ..) => deviceUnit place ≠ []
        | _ => false)

/-- Prints what a program says, and what it complains about. -/
def State.say (s : State) (effect : Effect) : State :=
  effect.said.foldl (fun s say => s.emit (if say.isComplaint then 2 else 1) say.text) s

def runUtility (i : Invocation) (utility : Utility) (s : State) : World × Ending :=
  let setting := settingOf s i.title
  let effect := utility setting i.arguments
  let s := match effect.left with
    | some text => s.withUnread 0 text
    | none => s
  let s := { s with world := s.world.withDisk (effect.disk.getD s.world.disk) }
  let s := s.say effect
  let s := s.spend effect.microseconds
  let s := if readsForever setting i.program effect i.arguments then s.spend endlessTime else s
  let isLost := !s.takesOutput 1 &&
    effect.said.any fun say => !say.isComplaint && say.text ≠ []
  if effect.unit ≠ [] then ((s.printForever effect.unit).world, .blocked)
  else (s.world, .status (if isLost && effect.status = 0 then 1 else effect.status))

/-- The status of a program that could not be started. -/
def startFailure : OsError → Nat
  | .noEntry => 127
  | .notDirectory => 127
  | .nameTooLong => 127
  | .tooManyLevels => 127
  | _ => 126

/-- Runs a program, unless it starts others. -/
def runInvocation (self : Runner) (i : Invocation) (s : State) : World × Ending :=
  let s := s.spend programCost
  if i.program = "sh" || i.program = "dash" || i.program = "bash" then runShell self i s
  else
    match utilities.lookup i.program with
    | some utility => runUtility i utility s
    | none => (s.world, .status 127)

/-- Starts the program of a name, or hands a file without a first line to a shell. -/
def invocation (s : State) (name : List Char) (arguments : List (List Char)) :
    Except OsError Invocation :=
  match startByName s.world.disk s.shell.directory ((s.valueOf? "PATH").getD []) name arguments with
  | .error .badExecutable =>
    .ok { program := "sh", title := "/bin/sh".toList, arguments := name :: arguments }
  | other => other

end BoardBind.Script
