import BoardBind.Script.Limit
import BoardBind.Script.Relay
import BoardBind.Script.Signal

/-! # Running scripts

Commands are carried out on the state of a shell. `run` ties the ways to combine commands together.
The number of commands inside of each other is limited; to go beyond it is a fault in the script.
-/

namespace BoardBind.Script

def runExec (self : Runner) (arguments : List (List Char)) (s : State) : State :=
  match arguments with
  | [] => s.withStatus 0
  | name :: arguments =>
    let (world, ending) := runExternal self name arguments s
    let after := { s with world, shell := { s.shell with traps := [] } }
    match ending with
    | .status n => after.leaving n
    | .signal n => after.halting (.killed s.shell.process n)
    | .blocked => after.halting .blocked

/-- The file of a script that is to be carried out in the shell itself: a name without a slash is
looked for where programs are. -/
def sourceFile? (s : State) (name : List Char) : Option (List Char) :=
  if name.contains '/' then some name
  else (candidates ((s.valueOf? "PATH").getD []) name).find? fun file =>
    s.world.disk.hasFile (s.path file)

/-- Carries out the lines of a file in the shell itself. -/
def runSource (self : Runner) (arguments : List (List Char)) (s : State) : State :=
  match arguments with
  | [] => s.withStatus 0
  | name :: _ =>
    match sourceFile? s name with
    | none => s.fault (name ++ ": not found".toList)
    | some file =>
      match s.world.disk.read (s.path file) with
      | .error reason =>
        s.fault ("cannot open ".toList ++ name ++ ": ".toList ++
          (shownReason "No such file" reason).toList)
      | .ok bytes =>
        let inner := { s with shell := { s.shell with inside := some name } }
        let after := runText self (Text.ofBytes bytes) inner
        if after.shell.halt = some .returning then
          { after with shell := { after.shell with halt := none } }
        else after

/-- The number that a command of the shell is given, with a default. A fault ends the shell. -/
def numberOr (arguments : List (List Char)) (standard : Nat) (body : Nat → State) (s : State) :
    State :=
  match arguments with
  | [] => body standard
  | text :: _ =>
    match natural? text with
    | some n => body n
    | none => s.faultOfNumber text

/-- Leaves loops, or goes on with their next rounds. -/
def runJump (arguments : List (List Char)) (halt : Nat → Halt) (s : State) : State :=
  numberOr arguments 1 (fun n =>
    if n = 0 then s.faultOfNumber ['0']
    else if s.shell.loops = 0 then s.withStatus 0
    else (s.withStatus 0).halting (halt (min n s.shell.loops))) s

/-- Carries out a command of the shell itself. -/
def runBuiltin (self : Runner) (name : String) (arguments : List (List Char)) (s : State) : State :=
  match name with
  | "." => runSource self arguments s
  | ":" => s.withStatus 0
  | "[" => s.bracket arguments
  | "break" => runJump arguments .breakLoops s
  | "alias" => s.setAliases arguments
  | "bg" => s.moveJob arguments
  | "cd" => s.cd arguments
  | "chdir" => s.cd arguments
  | "continue" => runJump arguments .nextRound s
  | "echo" => s.echo arguments
  | "eval" => runText self ([' '].intercalate arguments) s
  | "exec" => runExec self arguments s
  | "exit" => numberOr arguments s.shell.status s.leaving s
  | "export" => s.publish arguments
  | "false" => s.withStatus 1
  | "fg" => s.moveJob arguments
  | "getopts" => s.getopts arguments
  | "hash" => s.hash arguments
  | "jobs" => s.listJobs arguments
  | "kill" => runKill self arguments s
  | "local" => s.makeLocal arguments
  | "printf" => s.printf arguments
  | "pwd" => s.showDirectory arguments
  | "read" => s.read arguments
  | "readonly" => s.freeze arguments
  | "return" =>
    numberOr arguments s.shell.status (fun n => (s.withStatus n).halting .returning) s
  | "set" => s.set arguments
  | "shift" => s.shift arguments
  | "test" => s.test arguments
  | "trap" => s.trap arguments
  | "times" => s.times
  | "type" => s.type arguments
  | "ulimit" => s.ulimit arguments
  | "umask" => s.umask arguments
  | "unalias" => s.unsetAliases arguments
  | "unset" => s.unset arguments
  | "wait" => s.wait arguments
  | _ => s.withStatus 0

/-- Carries out a command of the shell itself, with its name in all complaints. -/
def runInside (self : Runner) (name : List Char) (arguments : List (List Char)) (s : State) :
    State :=
  let inner := { s with shell := { s.shell with inside := some name } }
  let after := runBuiltin self (String.ofList name) arguments inner
  { after with shell := { after.shell with inside := s.shell.inside } }

/-- Carries out something with variables assigned for as long as it takes. -/
def withAssigned (bindings : List (List Char × List Char)) (body : State → State) (s : State) :
    State :=
  if bindings.isEmpty then body s
  else
    let names := bindings.map (·.1)
    let old := names.map fun name => (name, s.shell.assigned.lookup name)
    let changed := bindings.foldl (fun s (name, value) => s.assign name value) s
    let changed := { changed with shell := { changed.shell with
      exported := names ++ changed.shell.exported } }
    if changed.isStopped then changed
    else
      let after := old.foldl (fun s (name, value) => s.restore name value) (body changed)
      { after with shell := { after.shell with exported := s.shell.exported } }

/-- Carries out a command by its name, where functions may be passed over. -/
def runNamed (self : Runner) (passesFunctions : Bool) (name : List Char)
    (arguments : List (List Char)) (s : State) : State :=
  match if passesFunctions then none else s.shell.functions.lookup name with
  | some body => callFunction self body arguments s
  | none =>
    if isBuiltin name then
      let after := runInside self name arguments s
      if String.ofList name ∈ regularBuiltins && name ≠ "kill".toList &&
          after.shell.halt = some .leave then
        { after with shell := { after.shell with halt := none } }
      else after
    else
      let (world, ending) := runExternal self name arguments s
      let after := { s with world }.withStatus ending.shown |>.track name
      match ending with
      | .status _ => after
      | .signal signal => after.emit 2 (deathNotice signal)
      | .blocked => after.halting .blocked

/-- Carries out `command`: a command by its name without functions, or the answer to how a name is
understood. Faults in it do not end the shell. -/
def runCommand (self : Runner) (arguments : List (List Char)) (s : State) : State :=
  let options := arguments.takeWhile fun a =>
    a.head? = some '-' && 1 < a.length && a ≠ ['-', '-']
  let letters := options.flatMap List.tail
  let words := arguments.drop options.length
  let words := if words.head? = some ['-', '-'] then words.tail else words
  match letters.find? (· ∉ ['p', 'v', 'V']), words with
  | some bad, _ =>
    let inner := { s with shell := { s.shell with inside := some "command".toList } }
    let after := inner.refuse (State.unknownOption [bad])
    { after with shell := { after.shell with inside := s.shell.inside } }
  | none, [] => s.withStatus 0
  | none, name :: rest =>
    if letters.contains 'V' then (s.withStatus 0).describe name
    else if letters.contains 'v' then s.locate name
    else
      let standard := if letters.contains 'p' then s.restore "PATH".toList (some standardPath)
        else s
      let after := runNamed self true name rest standard
      let after := if letters.contains 'p' then
          after.restore "PATH".toList (s.valueOf? "PATH")
        else after
      if after.shell.halt = some .leave && after.shell.status = 2 && name ≠ "exit".toList then
        { after with shell := { after.shell with halt := none } }
      else after

/-- The words of a command. Those that assign are not cut into fields where a command of the shell
assigns them. -/
def expandCommand (self : Runner) (words : List Word) (s : State) : State × List (List Char) :=
  match words with
  | first :: rest =>
    let assigns := (Word.plain? first).any fun name =>
      String.ofList name ∈ ["export", "readonly", "local"]
    if assigns then
      rest.foldl (fun (s, fields) w =>
        if s.isStopped then (s, fields)
        else
          match assignment? w with
          | some (name, value) =>
            let (s, text) := expandText (outputOf self) .behindColons value s
            (s, fields ++ [name ++ ['='] ++ text])
          | none =>
            let (s, more) := expandFields (outputOf self) w s
            (s, fields ++ more)) (expandFields (outputOf self) first s)
    else expandAll (outputOf self) words s
  | [] => (s, [])

/-- The values of assignments in front of a command. -/
def expandBindings (self : Runner) : List (List Char × Word) → State →
    State × List (List Char × List Char)
  | [], s => (s, [])
  | (name, w) :: rest, s =>
    let (s, value) := expandText (outputOf self) .behindColons w s
    if s.isStopped then (s, [])
    else
      let (s, more) := expandBindings self rest s
      (s, (name, value) :: more)

/-- Assigns variables one by one, so that each value may use the ones before it. -/
def assignInOrder (self : Runner) : List (List Char × Word) → State → State
  | [], s => s
  | (name, w) :: rest, s =>
    let (s, value) := expandText (outputOf self) .behindColons w s
    if s.isStopped then s
    else
      let s := s.assign name value
      if s.isStopped then s else assignInOrder self rest s

/-- Shows a command before it is carried out, if the shell is to do so. -/
def traced (channel : Option Channel) (assigned : List (List Char)) (fields : List (List Char))
    (s : State) : State :=
  let bindings := assigned.map fun name => name ++ '=' :: (s.shell.assigned.lookup name).getD []
  if s.hasFlag 'x' && bindings ++ fields ≠ [] then
    let sign := (s.shell.assigned.lookup "PS4".toList).getD ['+', ' ']
    s.write channel (sign ++ [' '].intercalate (bindings ++ fields) ++ ['\n'])
  else s

def runSimple (self : Runner) (assigned : List (List Char × Word)) (words : List Word)
    (redirects : List Redirect) (s : State) : State :=
  let s := { s.spend commandCost with shell := { s.shell with substituted := none } }
  let (s, fields) := expandCommand self words s
  let showing := traced (s.channel? 2) (assigned.map (·.1)) fields
  if s.isStopped then s
  else
    match fields with
    | [] =>
      let failed := fun s : State => s.withStatus 2
      let assign := fun s : State => showing (assignInOrder self assigned s)
      let done := redirecting self redirects assign failed
      let after := done (s.withStatus s.shell.status)
      if after.isStopped || (after.shell.status = 2 && !redirects.isEmpty) then after.checkFailure
      else (after.withStatus (after.shell.substituted.getD 0)).checkFailure
    | name :: arguments =>
      let isSpecial := String.ofList name ∈ specialBuiltins
      let failed := fun s : State => if isSpecial then s.leaving 2 else s.withStatus 2
      if name = "exec".toList && arguments = [] then
        let (opened, fine) := redirectAll self redirects (assignInOrder self assigned s)
        if opened.isStopped then opened else if fine then opened.withStatus 0 else opened.leaving 2
      else
        let body := fun s : State =>
          if isSpecial && (s.shell.functions.lookup name).isNone then
            let s := assignInOrder self assigned s
            if s.isStopped then s else runInside self name arguments (showing s)
          else
            let (s, bindings) := expandBindings self assigned s
            if s.isStopped then s
            else
              withAssigned bindings
                (fun s =>
                  if name = "command".toList && (s.shell.functions.lookup name).isNone then
                    runCommand self arguments (showing s)
                  else runNamed self false name arguments (showing s)) s
        (redirecting self redirects body failed s).checkFailure

/-- A command without its lines, which the shell takes note of. -/
def arrived (command : Command) (s : State) : Command × State :=
  match command with
  | .at line body => (body, { s with shell := { s.shell with line } })
  | _ => (command, s)

/-- Carries out a command. A shell that only checks what it reads carries out none. -/
def run : Nat → Runner
  | 0, _, s => s.leaving 2
  | fuel + 1, command, s =>
    let self := run fuel
    let (command, s) := arrived command s
    if s.isStopped || s.hasFlag 'n' then s
    else
      match command with
      | .at _ _ => s
      | .simple assigned words redirects => runSimple self assigned words redirects s
      | .redirected body redirects =>
        redirecting self redirects (self body) (fun s => (s.withStatus 2).checkFailure) s
      | .pipeline stages =>
        (runPipeline self stages (stages.foldl State.trackStage s)).checkFailure
      | .negated body =>
        let after := runTested self [body] s
        if after.isStopped then after else after.withTruth (after.shell.status ≠ 0)
      | .both first second =>
        let after := runTested self [first] s
        if after.isStopped || after.shell.status ≠ 0 then after else self second after
      | .either first second =>
        let after := runTested self [first] s
        if after.isStopped || after.shell.status = 0 then after else self second after
      | .background body => runInBackground self body s
      | .group body => runAll self body s
      | .subshell body => (aside self (runAll self body) s).checkFailure
      | .branch condition body otherwise =>
        let tested := runTested self condition s
        if tested.isStopped then tested
        else if tested.shell.status = 0 then runAll self body tested
        else if otherwise.isEmpty then tested.withStatus 0
        else runAll self otherwise tested
      | .loop wanted condition body =>
        let rounds := repeatRounds (conditionRound self wanted condition body)
        inLoop (fun s => (rounds (s.world.limit - s.world.now + 2) (s, 0)).1) s
      | .forEach name words body =>
        let (s, values) :=
          match words with
          | some words => expandAll (outputOf self) words s
          | none => (s, s.shell.arguments)
        if s.isStopped then s
        else if values.isEmpty then s.withStatus 0
        else inLoop (runForEach self name body values) s
      | .choose subject cases =>
        let (s, text) := expandText (outputOf self) .atStart subject s
        if s.isStopped then s else runCases self text cases s
      | .define name body =>
        let others := s.shell.functions.filter fun f => f.1 ≠ name
        { s with shell := { s.shell with
            functions := (name, body) :: others, status := 0 } }

/-- The greatest number of commands inside of each other. -/
def depthLimit : Nat := 5000

end BoardBind.Script
