import BoardBind.Script.Flow

/-! # Signals

Signals that a script sends to itself or to its jobs in the background, and what they do.
-/

namespace BoardBind.Script

def receive (self : Runner) (signal : Nat) (s : State) : State :=
  match s.shell.traps.lookup signal with
  | some action =>
    if signal = 9 || signal = 19 then s.halting (.killed s.shell.process signal)
    else if action = [] then s
    else
      let after := runText self action s
      if after.isStopped then after else after.withStatus s.shell.status
  | none =>
    if isUnnoticed signal then s
    else if isHolding signal then s.spend (s.world.limit + 1)
    else s.halting (.killed s.shell.process signal)

def sendSignal (self : Runner) (signal : Nat) : List (List Char) → State → State
  | [], s => s
  | target :: rest, s =>
    if s.isStopped then s
    else
      match natural? target with
      | none =>
        if (s.jobNamed? target).isSome then (s.complain "No such process\n".toList).withStatus 1
        else
          let start := if target.head? = some '%' then "No such job: " else "Illegal number: "
          s.refuse (start.toList ++ target)
      | some process =>
        let reached :=
          if process = s.shell.process then receive self signal s
          else if s.shell.jobs.any fun job => job.process = process then
            { s with shell := { s.shell with
                jobs := s.shell.jobs.map fun job =>
                  if job.process = process && s.world.now < job.finish && !isUnnoticed signal then
                    { job with status := 128 + signal, finish := s.world.now, signal }
                  else job } }
          else (s.complain "No such process\n".toList).withStatus 1
        sendSignal self signal rest reached

/-- How `kill` is used. -/
def killUsage : List Char :=
  ("Usage: kill [-s sigspec | -signum | -sigspec] [pid | job]... or\n" ++
    "kill -l [exitstatus]").toList

def signalName (n : Nat) : List Char :=
  if n = 0 then ['0']
  else
    match signals.find? fun signal => signal.2 = n && n ≠ 16 with
    | some (text, _) => text.toList
    | none =>
      if n < 34 then State.digits n
      else if n = 34 then "RTMIN".toList
      else if n < 50 then "RTMIN+".toList ++ State.digits (n - 34)
      else if n < 64 then "RTMAX-".toList ++ State.digits (64 - n)
      else "RTMAX".toList

/-- Prints the names of signals that are given by their numbers or by statuses. -/
def listSignals (names : List (List Char)) (s : State) : State :=
  match names with
  | [] => s.printOrFail "kill" (joinLines ((List.range 65).map signalName)) 0
  | name :: _ =>
    match natural? name with
    | none => s.refuse ("Illegal number: ".toList ++ name)
    | some n =>
      let number := if 128 < n then n - 128 else n
      match signals.find? fun signal => signal.2 = number with
      | some (text, _) => (s.print (text.toList ++ ['\n'])).withStatus 0
      | none => s.refuse ("invalid signal number or exit status: ".toList ++ name)

def runKill (self : Runner) (arguments : List (List Char)) (s : State) : State :=
  let send := fun (signal : Nat) (targets : List (List Char)) =>
    if targets = [] then s.refuse killUsage else sendSignal self signal targets (s.withStatus 0)
  let sendNamed := fun (name : List Char) (targets : List (List Char)) =>
    match signal? name with
    | some signal => send signal targets
    | none => s.refuse ("invalid signal number or name: ".toList ++ name)
  match arguments with
  | ('-' :: c :: text) :: rest =>
    match signal? (c :: text) with
    | some signal => send signal rest
    | none =>
      match c, text, rest with
      | '-', [], _ => send 15 rest
      | 's', [], name :: targets => sendNamed name targets
      | 's', [], [] => s.refuse "No arg for -s option".toList
      | 's', name, targets => sendNamed name targets
      | 'l', _, names => listSignals names s
      | c, _, _ => s.refuse (State.unknownOption [c])
  | targets => send 15 targets

end BoardBind.Script
