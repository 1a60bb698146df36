import BoardBind.Script.Awk

/-! # Programs that start others

The programs of the system that start the program that their arguments name: with changed
variables, for a limited time, or once for each group of words that they read.
-/

namespace BoardBind.Script

/-- Complains for a program that another one cannot be started, which fails with a status. -/
def refusedStart (s : State) (title complaint : List Char) (reason : OsError) : World × Ending :=
  let text := title ++ ": ".toList ++ complaint ++ ": ".toList ++ reason.reason.toList ++ ['\n']
  ((s.emit 2 text).world, .status (if reason = .noEntry then 127 else 126))

/-- Fails as a program that is not used as it should be. -/
def misusedStart (s : State) (title complaint : List Char) : World × Ending :=
  ((s.say ((settingOf s title).misused 125 complaint)).world, .status 125)

/-- The assignments in front of a command's name, and what follows them. -/
def leadingBindings : List (List Char) → List (List Char × List Char) × List (List Char)
  | [] => ([], [])
  | text :: rest =>
    match State.binding text with
    | (name, some value) =>
      let (more, rest) := leadingBindings rest
      ((name, value) :: more, rest)
    | (_, none) => ([], text :: rest)

def blankWords (text : List Char) : List (List Char) :=
  (text.splitOnP Arithmetic.isBlankChar).filter (· ≠ [])

/-- The arguments of `env` where a single one that holds several is cut at its blanks. -/
def splitArguments : List (List Char) → List (List Char)
  | ['-', 'S'] :: text :: rest => blankWords text ++ rest
  | ('-' :: 'S' :: text) :: rest => blankWords text ++ rest
  | arguments => arguments

/-- A state where nothing is kept but the variables that are handed on, in their order. -/
def onlyEnvironment (s : State) : State :=
  let kept := environment s
  { s with shell := { s.shell with
      assigned := kept, exported := kept.map (·.1), keepsOrder := true } }

/-- The options of `env`. -/
def envFlags : Flags where
  plain := "i0v"
  valued := "uCS"
  optional := "!"
  words := [("ignore-environment", 'i'), ("null", '0'), ("unset", 'u'), ("chdir", 'C'),
    ("split-string", 'S'), ("debug", 'v'), ("ignore-signal", '!'), ("default-signal", '!'),
    ("block-signal", '!'), ("list-signal-handling", '!')]
  isOrdered := true

/-- Runs `env`: a program with changed variables, or a list of the variables. -/
def runEnv (start : Starter) (arguments : List (List Char)) (s : State) : World × Ending :=
  match Options.readFrom envFlags none arguments with
  | .error complaint => misusedStart s "env".toList complaint
  | .ok o =>
    let isBare := o.operands.head? = some ['-']
    let s := onlyEnvironment s
    let s := if o.has 'i' || isBare then
        { s with shell := { s.shell with assigned := [], exported := [] } }
      else s
    let s := (o.values 'u').foldl State.unassign s
    let (bindings, rest) := leadingBindings (if isBare then o.operands.tail else o.operands)
    let s := bindings.foldl (fun s (name, value) =>
      let s := s.restore name (some value)
      { s with shell := { s.shell with exported := name :: s.shell.exported } }) s
    let moved := match o.value? 'C' with
      | some name => { s with shell := { s.shell with directory := s.path name } }
      | none => s
    match o.value? 'C', rest with
    | some _, [] => misusedStart s "env".toList "must specify command with --chdir (-C)".toList
    | some name, _ :: _ =>
      if s.world.disk.hasDirectory (s.path name) then
        match start (rest.headD []) rest.tail moved with
        | .ok result => result
        | .error reason => refusedStart s "env".toList (inMarks (rest.headD [])) reason
      else
        ((s.emit 2 ("env: cannot change directory to ".toList ++ inMarks name ++
          ": No such file or directory\n".toList)).world, .status 125)
    | none, [] =>
      let lineEnd := if o.has '0' then '\x00' else '\n'
      let lines := (environment s).map fun (name, value) => name ++ ['='] ++ value ++ [lineEnd]
      ((s.print lines.flatten).world, .status 0)
    | none, name :: arguments =>
      match start name arguments s with
      | .ok result => result
      | .error reason => refusedStart s "env".toList (inMarks name) reason

/-- Runs `nice`: a program with another priority, which changes nothing here. -/
def runNice (start : Starter) : List (List Char) → State → World × Ending
  | ['-', 'n'] :: _ :: rest, s => runNice start rest s
  | ('-' :: _ :: _) :: rest, s => runNice start rest s
  | [], s => ((s.print "0\n".toList).world, .status 0)
  | name :: arguments, s =>
    match start name arguments s with
    | .ok result => result
    | .error reason => refusedStart s "nice".toList (inMarks name) reason

/-- Runs `nohup`: a program that goes on when its terminal is gone, which it never had here. -/
def runNohup (start : Starter) (arguments : List (List Char)) (s : State) : World × Ending :=
  match arguments with
  | [] => misusedStart s "nohup".toList "missing operand".toList
  | name :: arguments =>
    match start name arguments s with
    | .ok result => result
    | .error reason =>
      refusedStart s "nohup".toList ("failed to run command ".toList ++ inMarks name) reason

/-- The options of `timeout`. -/
def timeoutFlags : Flags where
  plain := "v!"
  valued := "sk"
  words := [("signal", 's'), ("kill-after", 'k'), ("verbose", 'v'), ("preserve-status", '!')]
  isOrdered := true

/-- Runs a program for at most some microseconds; a program that takes longer is stopped then. -/
def runWithin (start : Starter) (o : Options) (duration : Nat) (name : List Char)
    (arguments : List (List Char)) (s : State) : World × Ending :=
  let limit := s.world.now + duration
  let hasLimit := 0 < duration && limit < s.world.limit
  let inner := if hasLimit then { s with world := { s.world with limit } } else s
  let signal := ((o.value? 's').bind signal?).getD 15
  match start name arguments inner with
  | .error reason =>
    refusedStart s "timeout".toList ("failed to run command ".toList ++ inMarks name) reason
  | .ok (world, ending) =>
    if hasLimit && limit < world.now then
      ({ world with now := limit, limit := s.world.limit },
        if signal = 9 then .signal 9
        else if o.has '!' then .status (128 + signal)
        else .status 124)
    else ({ world with limit := s.world.limit }, ending)

/-- Runs `timeout`. -/
def runTimeout (start : Starter) (arguments : List (List Char)) (s : State) : World × Ending :=
  match Options.readFrom timeoutFlags none arguments with
  | .error complaint => misusedStart s "timeout".toList complaint
  | .ok o =>
    match o.operands with
    | text :: name :: arguments =>
      match duration? text with
      | some duration => runWithin start o duration name arguments s
      | none =>
        misusedStart s "timeout".toList ("invalid time interval ".toList ++ inMarks text)
    | _ =>
      ((s.emit 2 "Try 'timeout --help' for more information.\n".toList).world, .status 125)

/-- The words at the start of a text as `xargs` reads them: quotes and backslashes keep blanks
together. The word that is open is handed in. Without the end of quotes there are none. -/
def quotedWords : Option (List Char) → List Char → Except Char (List (List Char))
  | none, [] => .ok []
  | some word, [] => .ok [word]
  | word, '\\' :: c :: rest => quotedWords (some (word.getD [] ++ [c])) rest
  | word, '\'' :: rest =>
    let inner := rest.takeWhile (· ≠ '\'')
    if inner.length = rest.length || inner.contains '\n' then .error '\''
    else quotedWords (some (word.getD [] ++ inner)) (rest.drop (inner.length + 1))
  | word, '"' :: rest =>
    let inner := rest.takeWhile (· ≠ '"')
    if inner.length = rest.length || inner.contains '\n' then .error '"'
    else quotedWords (some (word.getD [] ++ inner)) (rest.drop (inner.length + 1))
  | word, c :: rest =>
    if Arithmetic.isBlankChar c then
      match word with
      | none => quotedWords none rest
      | some word => (quotedWords none rest).map (word :: ·)
    else quotedWords (some (word.getD [] ++ [c])) rest
termination_by _ text => text.length
decreasing_by all_goals (simp only [List.length_cons, List.length_drop]; omega)

/-- The options of `xargs`. -/
def xargsFlags : Flags where
  plain := "0rtxp"
  valued := "adEILnPs"
  words := [("null", '0'), ("no-run-if-empty", 'r'), ("verbose", 't'), ("arg-file", 'a'),
    ("delimiter", 'd'), ("replace", 'I'), ("max-lines", 'L'), ("max-args", 'n'), ("max-procs", 'P')]
  isOrdered := true

/-- The pieces of a text between marks, where the last one may lack its mark. -/
def piecesAt (mark : Char) (text : List Char) : List (List Char) :=
  match (text.splitOn mark).reverse with
  | [] :: pieces => pieces.reverse
  | pieces => pieces.reverse

/-- The character that an option names, perhaps by an escape. -/
def delimiterOf : List Char → Char
  | ['\\', 'n'] => '\n'
  | ['\\', 't'] => '\t'
  | ['\\', '0'] => '\x00'
  | text => text.headD '\n'

def grouped {α : Type} (size : Nat) : Nat → List α → List (List α)
  | 0, _ => []
  | _, [] => []
  | fuel + 1, items => items.take size :: grouped size fuel (items.drop size)

/-- The lines of a text that are not blank; one that ends in a blank goes on with the next. -/
def logicalLines : List (List Char) → List (List Char)
  | [] => []
  | line :: rest =>
    if line.all Arithmetic.isBlankChar then logicalLines rest
    else
      match line.getLast?, logicalLines rest with
      | some ' ', next :: more => (line ++ next) :: more
      | some '\t', next :: more => (line ++ next) :: more
      | _, more => line :: more

/-- The groups of words that `xargs` hands on, each with one run of the program. -/
def xargsGroups (o : Options) (text : List Char) : Except Char (List (List (List Char))) := do
  let number := fun flag : Char => (o.value? flag).bind natural?
  let items ←
    if o.has '0' then .ok (piecesAt '\x00' text)
    else if let some mark := o.value? 'd' then .ok (piecesAt (delimiterOf mark) text)
    else if o.has 'I' then
      .ok (((plainLines text).map fun line => line.dropWhile Arithmetic.isBlankChar).filter
        (· ≠ []))
    else quotedWords none text
  if o.has 'I' then return items.map fun item => [item]
  match number 'L', number 'n' with
  | some size, _ =>
    let lines := grouped size text.length.succ (logicalLines (plainLines text))
    lines.mapM fun group => (group.mapM (quotedWords none)).map List.flatten
  | none, some size => return grouped size items.length items
  | none, none => return if items = [] then [] else [items]

def xargsArguments (o : Options) (initial group : List (List Char)) : List (List Char) :=
  match o.value? 'I' with
  | none => initial ++ group
  | some mark =>
    let item := group.headD []
    initial.map fun argument => replaced mark item argument.length.succ argument

/-- Runs the program of `xargs` for each group, until one makes it stop. -/
def runGroups (start : Starter) (o : Options) (name : List Char) (initial : List (List Char)) :
    List (List (List Char)) → Nat → State → World × Ending
  | [], status, s => (s.world, .status status)
  | group :: rest, status, s =>
    let arguments := xargsArguments o initial group
    let shown := [' '].intercalate (name :: arguments) ++ ['\n']
    let s := if o.has 't' then s.emit 2 shown else s
    let complaint := fun (s : State) (text : List Char) =>
      s.emit 2 ("xargs: ".toList ++ name ++ ": ".toList ++ text ++ ['\n'])
    match start name arguments (if o.has 'a' then s else s.connect 0 (some .nothing)) with
    | .error reason => refusedStart s "xargs".toList name reason
    | .ok (world, .blocked) => (world, .blocked)
    | .ok (world, .signal signal) =>
      let s := complaint { s with world } ("terminated by signal ".toList ++ decimal signal)
      (s.world, .status 125)
    | .ok (world, .status 255) =>
      let s := complaint { s with world } "exited with status 255; aborting".toList
      (s.world, .status 124)
    | .ok (world, .status n) =>
      if world.limit < world.now then (world, .status n)
      else runGroups start o name initial rest (if n = 0 then status else 123) { s with world }

/-- Runs `xargs`: a program with the words of the input as its last arguments. -/
def runXargs (start : Starter) (arguments : List (List Char)) (s : State) : World × Ending :=
  let failing := fun (effect : Effect) => ((s.say effect).world, Ending.status effect.status)
  let setting := settingOf s "xargs".toList
  match Options.readFrom xargsFlags none arguments with
  | .error complaint => failing (setting.misused 1 complaint)
  | .ok o =>
    let text := match o.value? 'a' with
      | some name => (setting.read name).toOption.getD []
      | none => s.unread 0
    let s := if o.has 'a' then s else s.withUnread 0 []
    match ['n', 'L'].find? fun flag => o.value? flag = some ['0'] with
    | some flag =>
      failing (setting.misused 1
        ("value 0 for -".toList ++ flag :: " option should be >= 1".toList))
    | none =>
      match xargsGroups o text with
      | .error mark =>
        let kind := if mark = '"' then "double" else "single"
        failing (setting.failing 1 (("unmatched " ++ kind ++
          " quote; by default quotes are special to xargs unless you use the -0 option").toList))
      | .ok groups =>
        let groups := if groups = [] && !o.has 'r' && !o.has 'I' then [[]] else groups
        match o.operands with
        | [] => runGroups start o "echo".toList [] groups 0 s
        | name :: initial => runGroups start o name initial groups 0 s

def relayLimit : Nat := 16

/-- Runs a program that has been started. Those that start others hand on what they are told. -/
def runRelayed (self : Runner) : Nat → Invocation → State → World × Ending
  | 0, _, s => (s.world, .status 126)
  | fuel + 1, i, s =>
    let start : Starter := fun name arguments s =>
      let path := ((environment s).lookup "PATH".toList).getD "/bin:/usr/bin".toList
      let started := match startByName s.world.disk s.shell.directory path name arguments with
        | .error .badExecutable =>
          (programFile s.world.disk s.shell.directory path name).map fun file =>
            ({ program := "sh", title := "/bin/sh".toList, arguments := file :: arguments } :
              Invocation)
        | other => other
      started.map fun i => runRelayed self fuel i s
    match i.program with
    | "awk" => runAwk start "awk".toList i.arguments (s.spend programCost)
    | "mawk" => runAwk start "mawk".toList i.arguments (s.spend programCost)
    | "env" => runEnv start (splitArguments i.arguments) (s.spend programCost)
    | "find" => runFind start i.arguments (s.spend programCost)
    | "nice" => runNice start i.arguments (s.spend programCost)
    | "nohup" => runNohup start i.arguments (s.spend programCost)
    | "timeout" => runTimeout start i.arguments (s.spend programCost)
    | "xargs" => runXargs start i.arguments (s.spend programCost)
    | _ => runInvocation self i s

def runStarted (self : Runner) (i : Invocation) (s : State) : World × Ending :=
  runRelayed self relayLimit i s

def runExternal (self : Runner) (name : List Char) (arguments : List (List Char)) (s : State) :
    World × Ending :=
  match invocation s name arguments with
  | .ok i => runStarted self i s
  | .error reason =>
    let missing := if s.shell.isBash && !name.contains '/' then "command not found"
      else if s.shell.isBash then reason.reason else "not found"
    let reason := if name = [] then .denied else reason
    let complaint := name ++ ": ".toList ++ (shownReason missing reason).toList
    ((s.complain complaint).world,
      .status (if name.contains '/' then startFailure reason else 127))

end BoardBind.Script
