import BoardBind.Script.Builtin

/-! # Jobs in the background

A shell numbers the commands that it starts in the background. It lists them, and it waits for
them. A job that has ended is forgotten once it has been listed.
-/

namespace BoardBind.Script

def Job.isDone (w : World) (job : Job) : Bool :=
  job.finish ≤ w.now

def Job.stateText (w : World) (job : Job) : List Char :=
  if !job.isDone w then "Running".toList
  else if job.signal ≠ 0 then ((deathTexts.lookup job.signal).getD "").toList
  else if job.status = 0 then "Done".toList
  else "Done(".toList ++ State.digits job.status ++ [')']

/-- The line about a job; the sign marks the last two jobs. -/
def Job.line (w : World) (sign : Char) (showsProcess : Bool) (job : Job) : List Char :=
  let process := if showsProcess then State.digits job.process ++ [' '] else []
  let shown := '[' :: State.digits job.number ++ "] ".toList ++ sign :: ' ' :: process ++
    job.stateText w
  shown ++ List.replicate (max 1 (33 - shown.length)) ' ' ++
    (List.replicate (job.stages - 1) " | ".toList).flatten ++ ['\n']

namespace State

def knownJobs (s : State) : List (Job × Char) :=
  (s.shell.jobs.filter fun job => job.number ≠ 0).zipIdx.map fun (job, n) =>
    (job, if n = 0 then '+' else if n = 1 then '-' else ' ')

/-- The number of a job that is started now. Numbers of jobs that were waited for are used again. -/
def freshJobNumber (s : State) : Nat :=
  let taken := (s.shell.jobs.filter fun job => !(job.isDone s.world && job.isWaited)).map (·.number)
  ((List.range (taken.length + 1)).map (· + 1)).find? (!taken.contains ·) |>.getD 1

/-- Takes note of a job. A job whose number is used again is forgotten. -/
def withJob (s : State) (job : Job) : State :=
  let others := s.shell.jobs.map fun old =>
    if old.number = job.number then { old with number := 0 } else old
  { s with shell := { s.shell with jobs := job :: others, lastJob := some job.process } }

/-- The job that a text names: by its number, or as the last one or the one before. -/
def jobNamed? (s : State) (name : List Char) : Option (Job × Char) :=
  match name with
  | ['%'] => s.knownJobs.head?
  | ['%', '%'] => s.knownJobs.head?
  | ['%', '+'] => s.knownJobs.head?
  | ['%', '-'] => (s.knownJobs.drop 1).head?
  | '%' :: digits =>
    (natural? digits).bind fun n => s.knownJobs.find? fun (job, _) => job.number = n
  | _ => none

def forgetDone (s : State) (job : Job) : State :=
  if !job.isDone s.world then s
  else
    { s with shell := { s.shell with
        jobs := s.shell.jobs.map fun other =>
          if other.number = job.number then { other with number := 0 } else other } }

/-- Lists jobs in order. Once a job that has ended is listed, the next ones move up. -/
def jobLines (showsProcess : Bool) : List Job → State → State × List Char
  | [], s => (s, [])
  | job :: rest, s =>
    let sign := (s.knownJobs.find? fun (known, _) => known.number = job.number).elim ' ' (·.2)
    let (after, more) := jobLines showsProcess rest (s.forgetDone job)
    (after, job.line s.world sign showsProcess ++ more)

def listJobs (s : State) (arguments : List (List Char)) : State :=
  let options := arguments.takeWhile fun a => a.head? = some '-' && 1 < a.length
  let letters := options.flatMap List.tail
  let names := arguments.drop options.length
  match letters.find? (· ∉ ['l', 'p']) with
  | some letter => s.refuse (unknownOption [letter])
  | none =>
    match names.find? fun name => (s.jobNamed? name).isNone with
    | some name => s.refuse ("No such job: ".toList ++ name)
    | none =>
      let wanted := (if names = [] then s.knownJobs else names.filterMap s.jobNamed?).map (·.1)
      if letters.contains 'p' then
        s.printOrFail "jobs" (joinLines (wanted.map fun job => digits job.process)) 0
      else
        let (after, lines) := jobLines (letters.contains 'l') wanted s
        after.printOrFail "jobs" lines 0

/-- Refuses to bring a job to the front or to the back, since jobs are not controlled. -/
def moveJob (s : State) (arguments : List (List Char)) : State :=
  match arguments with
  | [] =>
    if s.knownJobs = [] then s.refuse "No current job".toList
    else s.refuse "job (null) not created under job control".toList
  | name :: _ =>
    if (s.jobNamed? name).isSome then
      s.refuse ("job ".toList ++ name ++ " not created under job control".toList)
    else s.refuse ("No such job: ".toList ++ name)

def waited (s : State) (process : Nat) : State :=
  { s with shell := { s.shell with
      jobs := s.shell.jobs.map fun job =>
        if job.process = process then { job with isWaited := true } else job } }

def waitFor (s : State) (name : List Char) : State :=
  let job? := match s.jobNamed? name with
    | some (job, _) => some job
    | none => s.shell.jobs.find? fun job => digits job.process = name
  match job? with
  | some job =>
    (((s.passTo job.finish).emit 2 (deathNotice job.signal)).withStatus job.status).waited
      job.process
  | none =>
    if (natural? name).isSome then s.withStatus 127
    else if name.head? = some '%' then s.refuse ("No such job: ".toList ++ name)
    else s.refuse ("Illegal number: ".toList ++ name)

def wait (s : State) (arguments : List (List Char)) : State :=
  match arguments with
  | [] =>
    (s.shell.jobs.foldl (fun s job => (s.passTo job.finish).waited job.process) s).withStatus 0
  | names => names.foldl waitFor s

end State

end BoardBind.Script
