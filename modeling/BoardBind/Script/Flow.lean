import BoardBind.Script.Job

/-! # How commands are combined

Each way to combine commands is a function of the way its parts are carried out. What runs aside,
such as a pipeline or a command in parentheses, runs in a copy of the shell.
-/

namespace BoardBind.Script

abbrev Runner := Command → State → State

/-- The microseconds that a command of the shell takes. -/
def commandCost : Nat := 2

def runAll (self : Runner) : List Command → State → State
  | [], s => s
  | c :: rest, s => if s.isStopped then s else runAll self rest (self c s)

/-- Carries out the lines of a script, as far as they can be read. Each is read when those before it
have been carried out. Without any commands the status is that of success. -/
def runLines (self : Runner) : Nat → Bool → Cursor → State → State
  | 0, _, _, s => s
  | fuel + 1, hasRun, c, s =>
    if s.isStopped then s
    else
      match { c with aliases := s.shell.aliases }.nextLine with
      | .finished => if hasRun then s else s.withStatus 0
      | .spoiled e =>
        { s with shell := { s.shell with line := e.line } }.fault
          ("Syntax error: " ++ e.fault.message).toList
      | .commands body rest =>
        runLines self fuel (hasRun || !body.isEmpty) rest
          (runAll self body { s with shell := { s.shell with readLine := rest.line } })

/-- Carries out a script, as far as it can be read. -/
def runText (self : Runner) (text : List Char) (s : State) : State :=
  runLines self (text.length + 2) false { text } s

def runTested (self : Runner) (commands : List Command) (s : State) : State :=
  let outer := s.shell.isTested
  let after := runAll self commands { s with shell := { s.shell with isTested := true } }
  { after with shell := { after.shell with isTested := outer } }

def runExitTrap (self : Runner) (s : State) : State :=
  match s.shell.traps.lookup 0, s.shell.halt with
  | some (c :: action), halt =>
    match halt with
    | some (.killed ..) => s
    | some .blocked => s
    | _ =>
      let status := s.shell.status
      let traps := s.shell.traps.filter fun t => t.1 ≠ 0
      let ready := { s with shell := { s.shell with traps, halt := none } }
      let after := runText self (c :: action) ready
      if after.shell.halt.isSome then after else after.leaving status
  | _, _ => s

/-- Carries out something in a copy of the shell. Of the copy only its status is kept, and its
death if that means the shell itself. A copy that never ends is waited for. -/
def aside (self : Runner) (body : State → State) (s : State) : State :=
  let traps := s.shell.traps.filter fun t => t.2 = []
  let after := runExitTrap self
    (body { s with shell := { s.shell with traps, loops := 0, jobs := [] } })
  let halt := match after.shell.halt with
    | some (.killed process signal) => some (.killed process signal)
    | some .blocked => some .blocked
    | _ => s.shell.halt
  { after with shell := { s.shell with status := after.shell.status % 256, halt } }

/-- Obtains the output of a script. No value holds the character NUL. -/
def outputOf (self : Runner) : Substitution := fun body s =>
  let run := fun s : State => if body.isEmpty then s.withStatus 0 else runAll self body s
  let (after, output) := s.collecting fun opened =>
    aside self run { opened with shell := { opened.shell with isTested := false } }
  let after := if output.isEndless then after.spend endlessTime else after
  ({ after with shell := { s.shell with
      substituted := some after.shell.status, halt := after.shell.halt } },
    withoutNul output.text)

/-- What a file leads to that stands for a descriptor. The one that is always full takes nothing. -/
def State.deviceChannel? (s : State) (name : List Char) : Option (Option Channel) :=
  match s.world.disk.find (s.path name) with
  | .ok (["/", "dev", "stdin"], _) => some (s.channel? 0)
  | .ok (["/", "dev", "stdout"], _) => some (s.channel? 1)
  | .ok (["/", "dev", "stderr"], _) => some (s.channel? 2)
  | .ok (["/", "dev", "full"], _) => some none
  | _ => none

/-- The reason of a failure as a shell puts it: what is missing has a text of its own. -/
def shownReason (missing : String) (reason : OsError) : String :=
  if reason = .noEntry || reason = .notDirectory then missing else reason.reason

/-- Lets a descriptor read a file, unless that fails. -/
def State.openToRead (s : State) (descriptor : Nat) (name : List Char) : State × Bool :=
  match s.world.disk.find (s.path name) with
  | .ok (place, .file bytes _) =>
    if s.world.disk.machine.isDevice place then
      let stream := { text := Text.ofBytes bytes, unit := Text.ofBytes (deviceUnit place) }
      (s.supply descriptor { stream }, true)
    else
      let (world, index) := s.world.opened place { number := 0, isWritable := false }
      ({ s with world }.connect descriptor (some (.file index)), true)
  | .ok _ => (s.supply descriptor { stream := {}, isDirectory := true }, true)
  | .error reason =>
    (s.complain ("cannot open ".toList ++ name ++ ": ".toList ++
      (shownReason "No such file" reason).toList), false)

/-- Lets a descriptor write a file, unless that fails. -/
def State.openToWrite (s : State) (descriptor : Nat) (mode : OpenMode) (name : List Char) :
    State × Bool :=
  let refused := fun reason : OsError =>
    (s.complain ("cannot create ".toList ++ name ++ ": ".toList ++
      (shownReason "Directory nonexistent" reason).toList), false)
  match openedPlace s.world.disk (s.path name) with
  | .error reason => refused reason
  | .ok place =>
    if s.world.disk.machine.isDevice place then (s.connect descriptor (some .nothing), true)
    else if mode = .writing && s.hasFlag 'C' && s.world.disk.hasEntry (s.path name) then
      refused .alreadyExists
    else
      let keeps := mode = OpenMode.appending || mode = OpenMode.both
      let disk := writeAt s.making s.world.disk place keeps []
      let (world, index) := { s.world with disk }.opened place
        { number := 0, appends := mode = OpenMode.appending, isReadable := mode = OpenMode.both }
      ({ s with world }.connect descriptor (some (.file index)), true)

def redirect (self : Runner) (s : State) : Redirect → State × Bool
  | .document descriptor body =>
    let (s, text) := expandText (outputOf self) .nowhere body s
    (s.supply descriptor { stream := { text } }, true)
  | .announced descriptor _ => (s.supply descriptor { stream := {} }, true)
  | .duplicate descriptor source =>
    let (s, text) := expandText (outputOf self) .nowhere source s
    if s.isStopped then (s, true)
    else if text = ['-'] then (s.connect descriptor none, true)
    else
      match natural? text with
      | none =>
        ({ s with shell := { s.shell with line := s.shell.readLine } }.fault
          "Syntax error: Bad fd number".toList, false)
      | some source =>
        match s.channel? source with
        | some channel => (s.connect descriptor (some channel), true)
        | none => (s.complain (text ++ ": Bad file descriptor".toList), false)
  | .file descriptor mode target =>
    let (s, name) := expandText (outputOf self) .atStart target s
    if s.isStopped then (s, true)
    else
      match s.deviceChannel? name with
      | some channel => (s.connect descriptor channel, true)
      | none => if mode = .reading then s.openToRead descriptor name else
        s.openToWrite descriptor mode name

def Redirect.descriptor : Redirect → Nat
  | .file descriptor .. => descriptor
  | .duplicate descriptor _ => descriptor
  | .document descriptor _ => descriptor
  | .announced descriptor _ => descriptor

/-- Redirects descriptors in order, until one fails. -/
def redirectAll (self : Runner) : List Redirect → State → State × Bool
  | [], s => (s, true)
  | r :: rest, s =>
    match redirect self s r with
    | (s, true) => if s.isStopped then (s, true) else redirectAll self rest s
    | (s, false) => (s, false)

/-- Carries out something with descriptors redirected, or something else if that fails. -/
def redirecting (self : Runner) (redirects : List Redirect) (body failure : State → State)
    (s : State) : State :=
  if redirects.isEmpty then body s
  else
    let (opened, fine) := redirectAll self redirects s
    let after := if opened.isStopped then opened else if fine then body opened else failure opened
    redirects.foldl (fun after r => after.connect r.descriptor (s.channel? r.descriptor)) after

def afterRound (s : State) : State × Bool :=
  match s.shell.halt with
  | none => (s, s.world.now ≤ s.world.limit)
  | some (.breakLoops n) =>
    if n ≤ 1 then ({ s with shell := { s.shell with halt := none, status := 0 } }, false)
    else (s.halting (.breakLoops (n - 1)), false)
  | some (.nextRound n) =>
    if n ≤ 1 then ({ s with shell := { s.shell with halt := none, status := 0 } }, true)
    else (s.halting (.nextRound (n - 1)), false)
  | some _ => (s, false)

def repeatRounds {α : Type} (round : α → α × Bool) : Nat → α → α
  | 0, a => a
  | fuel + 1, a =>
    match round a with
    | (a, true) => repeatRounds round fuel a
    | (a, false) => a

def inLoop (body : State → State) (s : State) : State :=
  let after := body { s with shell := { s.shell with loops := s.shell.loops + 1 } }
  { after with shell := { after.shell with loops := s.shell.loops } }

def conditionRound (self : Runner) (wanted : Bool) (condition body : List Command) :
    State × Nat → (State × Nat) × Bool
  | (s, last) =>
    let tested := runTested self condition (s.spend 1)
    if tested.isStopped then
      let (after, goesOn) := afterRound tested
      ((after, after.shell.status), goesOn)
    else if (tested.shell.status = 0) = wanted then
      let (after, goesOn) := afterRound (runAll self body tested)
      ((after, after.shell.status), goesOn)
    else ((tested.withStatus last, last), false)

def runForEach (self : Runner) (name : List Char) (body : List Command) :
    List (List Char) → State → State
  | [], s => s
  | value :: rest, s =>
    let s := (s.spend 1).assign name value
    if s.isStopped then s
    else
      match afterRound (runAll self body s) with
      | (s, true) => runForEach self name body rest s
      | (s, false) => s

def matchesAny (self : Runner) (subject : List Char) : List Word → State → State × Bool
  | [], s => (s, false)
  | w :: rest, s =>
    let (s, expanded) := expandWord (outputOf self) false w s
    if s.isStopped then (s, false)
    else if (Pattern.ofMarked (markedOf (tildeStart s false expanded))).accepts subject then
      (s, true)
    else matchesAny self subject rest s

/-- Carries out the body of the first case that matches. -/
def runCases (self : Runner) (subject : List Char) :
    List (List Word × List Command) → State → State
  | [], s => s.withStatus 0
  | (patterns, body) :: rest, s =>
    match matchesAny self subject patterns s with
    | (s, true) => if body.isEmpty then s.withStatus 0 else runAll self body s
    | (s, false) => if s.isStopped then s else runCases self subject rest s

/-- The microseconds after which a command is looked at whose reader may have gone. -/
def patience : Nat := 50000

/-- Whether a source has something left that nobody has read. -/
def isLeftUnread (w : World) (index : Nat) : Bool :=
  match w.sources[index]? with
  | some source => source.stream.text ≠ []
  | none => false

/-- Carries out the stages of a pipeline, each on the output of the one before. They all start at
the same time. A stage whose reader has gone does not go on. -/
def runStages (self : Runner) (begun : Nat) : List Command → State → State
  | [], s => s
  | [stage], s => aside self (self stage) { s with world := { s.world with now := begun } }
  | stage :: rest, s =>
    let ended := s.world.now
    let finish := fun (after : State) (output : Stream) =>
      let halt := if after.shell.halt = some .blocked then none else after.shell.halt
      let next := ({ after with
        world := { after.world with limit := s.world.limit }
        shell := { s.shell with halt } }).supply 0 { stream := output }
      runStages self begun rest (next.passTo ended)
    let runWithin := fun limit : Nat =>
      let start := { s with world := { s.world with now := begun, limit } }
      start.collecting fun opened => aside self (self stage) opened
    let lasting := fun (after done : State) =>
      { done with world := { done.world with now := max done.world.now after.world.now } }
    let (early, output) := runWithin (min s.world.limit (begun + patience))
    if early.world.now ≤ early.world.limit || s.world.limit ≤ begun + patience then
      lasting early (finish early output)
    else
      let done := finish early output
      if isLeftUnread done.world s.world.sources.size then done
      else
        let (after, output) := runWithin s.world.limit
        lasting after (finish after output)

def runPipeline (self : Runner) (stages : List Command) (s : State) : State :=
  let after := runStages self s.world.now stages s
  { after with shell := { after.shell with descriptors := s.shell.descriptors } }

/-- The microseconds that a command in the background takes to start. -/
def backgroundCost : Nat := 100

def runInBackground (self : Runner) (body : Command) (s : State) : State :=
  let process := s.world.processes + 1
  let apart := { s with world := { s.world with processes := process } }
  let after := aside self (self body) ((apart.connect 0 (some .nothing)).spend backgroundCost)
  let stages := match body with
    | .pipeline stages => stages.length
    | _ => 1
  let job : Job := {
    process, status := after.shell.status, finish := after.world.now
    number := s.freshJobNumber, stages }
  { world := { after.world with now := s.world.now }
    shell := { s.shell with status := 0, halt := after.shell.halt } : State }.withJob job

/-- The greatest number of functions that may call each other. -/
def callLimit : Nat := 1000

/-- Calls a function. Too many calls inside of each other end the shell. -/
def callFunction (self : Runner) (body : Command) (arguments : List (List Char)) (s : State) :
    State :=
  if callLimit ≤ s.shell.shadowed.length then
    s.fault "Maximum function recursion depth (1000) reached".toList
  else
    let called := self body { s with shell := { s.shell with
      arguments, loops := 0, shadowed := [] :: s.shell.shadowed } }
    let after := (called.shell.shadowed.headD []).foldl
      (fun s (name, old) => s.restore name old) called
    let halt := if after.shell.halt = some .returning then none else after.shell.halt
    { after with shell := { after.shell with
        arguments := s.shell.arguments, loops := s.shell.loops
        shadowed := s.shell.shadowed, halt } }

end BoardBind.Script
