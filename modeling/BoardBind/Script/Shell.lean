import BoardBind.Script.Command
import BoardBind.Script.Files

/-! # The state of running scripts

A shell is a process that carries out commands: it has arguments, variables, functions and
descriptors of its own. All shells share a world: the disk, the texts that pass between commands,
and the time. A run that uses up its time goes no further.
-/

namespace BoardBind.Script

/-- What a descriptor leads to. -/
inductive Channel where
  /-- Reads as empty and swallows what is written. -/
  | nothing
  /-- Collects what is written. -/
  | sink (index : Nat)
  /-- Holds what is read. -/
  | source (index : Nat)
  /-- Reads or writes a file. -/
  | file (index : Nat)
  deriving DecidableEq

/-- Why a shell no longer carries out its commands in order. -/
inductive Halt where
  | leave
  | killed (process signal : Nat)
  /-- Leaves the given number of loops. -/
  | breakLoops (count : Nat)
  /-- Goes on with the next round of the loop that is reached by leaving one less than given. -/
  | nextRound (count : Nat)
  | returning
  /-- Prints for ever, as long as somebody reads it. -/
  | blocked
  deriving DecidableEq

/-- A job in the background: the process, its status, when it ends and the signal it dies of; zero
is none. -/
structure Job where
  process : Nat
  status : Nat
  finish : Nat
  signal : Nat := 0
  /-- The number that the shell knows the job by; zero means that it knows it no longer. -/
  number : Nat := 0
  /-- Whether the shell has waited for the job. -/
  isWaited : Bool := false
  /-- The number of commands in the job. -/
  stages : Nat := 1

/-- A text being collected: pieces with the time of each, the last piece first. -/
structure Sink where
  pieces : List (Nat × List Char) := []
  /-- What is printed for ever behind the pieces. -/
  unit : List Char := []

/-- A text being read, and whether it is that of a file or of a directory, which has none. -/
structure Source where
  stream : Stream
  isFile : Bool := false
  isDirectory : Bool := false

/-- A file that is open: where it is read or written next. -/
structure OpenFile where
  /-- The number that the disk knows the file by. -/
  number : Nat
  /-- What the file holds, once it is no longer found on the disk. -/
  orphan : Option (List UInt8) := none
  offset : Nat := 0
  /-- Whether what is written goes behind all that is there. -/
  appends : Bool := false
  isReadable : Bool := true
  isWritable : Bool := true

/-- What all shells of a run share. -/
structure World where
  disk : Disk
  /-- The files that were opened. -/
  files : Array OpenFile := #[]
  /-- The texts being collected. -/
  sinks : Array Sink := #[]
  /-- The texts being read. -/
  sources : Array Source := #[]
  /-- The time since the start in microseconds. -/
  now : Nat := 0
  /-- When the run is stopped. -/
  limit : Nat
  /-- The number of processes until now. -/
  processes : Nat := 100

namespace World

/-- The nanoseconds between two ticks of the clock that files are stamped by. -/
def tick : Nat := 4000000

/-- The time of the run in nanoseconds since the start of 1970, as files are stamped with it. -/
def moment (w : World) : Int :=
  Disk.bornMoment + 10000000 + (w.now * 1000 / tick * tick : Nat)

def placeOf? (w : World) (file : OpenFile) : Option Place :=
  if file.orphan.isSome then none else (w.disk.placesOf file.number).head?

def bytesOf (w : World) (file : OpenFile) : List UInt8 :=
  match file.orphan, (w.placeOf? file).bind w.disk.at? with
  | some bytes, _ => bytes
  | none, some (.file bytes _) => bytes
  | none, _ => []

/-- The world with another disk. Open files that are no longer found there keep what they hold. -/
def withDisk (w : World) (disk : Disk) : World :=
  { w with
    disk
    files := w.files.map fun file =>
      if file.orphan.isSome || !(disk.placesOf file.number).isEmpty then file
      else { file with orphan := some (w.bytesOf file) } }

/-- Replaces what an open file holds. -/
def withBytes (w : World) (making : Making) (index : Nat) (bytes : List UInt8) (offset : Nat) :
    World :=
  match w.files[index]? with
  | none => w
  | some file =>
    match w.placeOf? file with
    | some place =>
      { w with
        disk := w.disk.overwritten making place bytes
        files := w.files.setIfInBounds index { file with offset } }
    | none =>
      { w with files := w.files.setIfInBounds index { file with orphan := some bytes, offset } }

def opened (w : World) (place : Place) (file : OpenFile) : World × Nat :=
  let fresh := w.files.foldl (fun n file => max n file.number) w.disk.lastNumber + 1
  let (disk, number) := w.disk.numbered place fresh
  ({ w with disk, files := w.files.push { file with number } }, w.files.size)

end World

/-- The pieces of a collected text with the time of each, in the order of time. -/
def World.collected (w : World) (index : Nat) : List (Nat × List Char) :=
  ((w.sinks[index]?).getD {}).pieces.reverse.mergeSort fun a b => a.1 ≤ b.1

structure Shell where
  process : Nat
  /-- What the script is called by. -/
  title : List Char
  arguments : List (List Char) := []
  assigned : List (List Char × List Char) := []
  exported : List (List Char) := []
  frozen : List (List Char) := []
  functions : List (List Char × Command) := []
  /-- The names that stand for texts. -/
  aliases : List (List Char × List Char) := []
  /-- The programs that the shell has looked for and found, and where. -/
  tracked : List (List Char × List Char) := []
  /-- The limits that were set, by their letters. -/
  limits : List (Char × List Char) := []
  /-- Whether variables are handed on in the order in which they were set. -/
  keepsOrder : Bool := false
  descriptors : List (Nat × Channel) := []
  directory : Path := ⟨""⟩
  /-- The path that the shell calls its directory by, if it has come there through links. -/
  writtenDirectory : Option (List Char) := none
  /-- The bits of the mode that new files are not given. -/
  mask : Nat := 0o022
  status : Nat := 0
  /-- The letters of the options that are set. -/
  flags : List Char := []
  /-- Whether a failure is looked at by a condition around the command. -/
  isTested : Bool := false
  /-- The number of loops around the command. -/
  loops : Nat := 0
  /-- What the functions around the command have made local: what was there before. -/
  shadowed : List (List (List Char × Option (List Char))) := []
  /-- What is done on signals; number zero is the end of the shell. -/
  traps : List (Nat × List Char) := []
  jobs : List Job := []
  /-- The process of the last command that was started in the background. -/
  lastJob : Option Nat := none
  /-- The status of the last command whose output was put into a word of the current one. -/
  substituted : Option Nat := none
  /-- Whether the shell is `bash`, where `echo` prints backslashes as they are. -/
  isBash : Bool := false
  /-- The line of the current command. -/
  line : Nat := 0
  /-- The line up to which the script has been read. -/
  readLine : Nat := 0
  /-- The command of the shell itself, or the file, whose commands are being carried out. -/
  inside : Option (List Char) := none
  halt : Option Halt := none

def withoutNul (text : List Char) : List Char :=
  text.filter (· ≠ Char.ofNat 0)

structure State where
  world : World
  shell : Shell

namespace State

def isStopped (s : State) : Bool :=
  s.shell.halt.isSome || s.world.limit < s.world.now

def spend (s : State) (microseconds : Nat) : State :=
  { s with world := { s.world with now := s.world.now + microseconds } }

def withStatus (s : State) (status : Nat) : State :=
  { s with shell := { s.shell with status } }

def halting (s : State) (halt : Halt) : State :=
  { s with shell := { s.shell with halt := some halt } }

def leaving (s : State) (status : Nat) : State :=
  (s.withStatus status).halting .leave

def hasFlag (s : State) (flag : Char) : Bool :=
  s.shell.flags.contains flag

/-- Ends the shell after a failure that nobody looks at, if it is to end then. -/
def checkFailure (s : State) : State :=
  if s.hasFlag 'e' && !s.shell.isTested && s.shell.status ≠ 0 && s.shell.halt.isNone then
    s.halting .leave
  else s

def channel? (s : State) (descriptor : Nat) : Option Channel :=
  s.shell.descriptors.lookup descriptor

/-- Lets a descriptor lead to a channel, or to nowhere. -/
def connect (s : State) (descriptor : Nat) (channel : Option Channel) : State :=
  let others := s.shell.descriptors.filter fun d => d.1 ≠ descriptor
  { s with shell := { s.shell with
      descriptors := (channel.map fun c => (descriptor, c)).toList ++ others } }

def making (s : State) : Making where
  moment := s.world.moment
  mask := s.shell.mask

def takesOutput (s : State) (descriptor : Nat) : Bool :=
  match s.channel? descriptor with
  | none => false
  | some (.source _) => false
  | some (.file index) => (s.world.files[index]?).any (·.isWritable)
  | some _ => true

def writeFile (s : State) (index : Nat) (text : List Char) : State :=
  match s.world.files[index]? with
  | none => s
  | some file =>
    if !file.isWritable then s
    else
      let old := s.world.bytesOf file
      let offset := if file.appends then old.length else file.offset
      let gap := List.replicate (offset - old.length) 0
      let added := toBytes text
      let bytes := old.take offset ++ gap ++ added ++ old.drop (offset + added.length)
      { s with world := s.world.withBytes s.making index bytes (offset + added.length) }

def write (s : State) (channel : Option Channel) (text : List Char) : State :=
  if text = [] then s
  else
    match channel with
    | some (.sink index) =>
      let add := fun sink : Sink => { sink with pieces := (s.world.now, text) :: sink.pieces }
      { s with world := { s.world with sinks := s.world.sinks.modify index add } }
    | some (.file index) => s.writeFile index text
    | _ => s

def emit (s : State) (descriptor : Nat) (text : List Char) : State :=
  s.write (s.channel? descriptor) text

def print (s : State) (text : List Char) : State := s.emit 1 text

def digits (n : Nat) : List Char := (toString n).toList

/-- Complains about something, with the line and the command where it was found. -/
def complain (s : State) (text : List Char) : State :=
  let line := (if s.shell.isBash then ": line " else ": ").toList ++ digits s.shell.line
  let inside := s.shell.inside.elim [] fun name => ": ".toList ++ name
  s.emit 2 (s.shell.title ++ line ++ inside ++ ": ".toList ++ text ++ ['\n'])

/-- Ends the shell because of a fault in the script. -/
def fault (s : State) (complaint : List Char) : State :=
  (s.complain complaint).leaving 2

/-- Prints a unit for ever. Where nobody may stop reading, that takes all the time. -/
def printForever (s : State) (unit : List Char) : State :=
  match s.channel? 1 with
  | some (.sink index) =>
    let add := fun sink : Sink => { sink with unit }
    { s with world := { s.world with sinks := s.world.sinks.modify index add } }.halting .blocked
  | none => s
  | _ => s.spend endlessTime

def source? (s : State) (descriptor : Nat) : Option Source :=
  match s.channel? descriptor with
  | some (.source index) => s.world.sources[index]?
  | some (.file index) =>
    ((s.world.files[index]?).filter (·.isReadable)).map fun file =>
      { stream := { text := Text.ofBytes ((s.world.bytesOf file).drop file.offset) }, isFile := true }
  | _ => none

/-- How much of a text that never ends is looked at. -/
def endlessSize : Nat := 4096

def unread (s : State) (descriptor : Nat) : List Char :=
  match s.source? descriptor with
  | some source => (source.stream.written endlessSize).text
  | none => []

def withUnread (s : State) (descriptor : Nat) (text : List Char) : State :=
  match s.channel? descriptor with
  | some (.source index) =>
    let set := fun source : Source => { source with stream := { source.stream with text } }
    { s with world := { s.world with sources := s.world.sources.modify index set } }
  | some (.file index) =>
    match s.world.files[index]? with
    | none => s
    | some file =>
      let offset := max file.offset ((s.world.bytesOf file).length - text.length)
      { s with world := { s.world with files := s.world.files.setIfInBounds index { file with offset } } }
  | _ => s

def supply (s : State) (descriptor : Nat) (source : Source) : State :=
  let index := s.world.sources.size
  let s := { s with world := { s.world with sources := s.world.sources.push source } }
  s.connect descriptor (some (.source index))

/-- Runs something with what it prints collected in a text. -/
def collecting (s : State) (body : State → State) : State × Stream :=
  let index := s.world.sinks.size
  let opened := { s with world := { s.world with sinks := s.world.sinks.push {} } }
  let after := body (opened.connect 1 (some (.sink index)))
  let text := (after.world.collected index).flatMap (·.2)
  let unit := ((after.world.sinks[index]?).getD {}).unit
  ({ after with world := { after.world with sinks := after.world.sinks.take index } },
    { text, unit })

/-- The path that a text means in the shell's directory. -/
def path (s : State) (name : List Char) : Path :=
  s.shell.directory.join (pathOf name)

def isFrozen (s : State) (name : List Char) : Bool :=
  s.shell.frozen.contains name

/-- Variables of which one has a value. A variable keeps its place, and a new one comes last. -/
def withValue (name value : List Char) :
    List (List Char × List Char) → List (List Char × List Char)
  | [] => [(name, value)]
  | v :: rest => if v.1 = name then (name, value) :: rest else v :: withValue name value rest

/-- Gives a variable a value. A frozen one ends the shell. -/
def assign (s : State) (name value : List Char) : State :=
  if s.isFrozen name then s.fault (name ++ ": is read only".toList)
  else
    let exported :=
      if s.hasFlag 'a' && !s.shell.exported.contains name then name :: s.shell.exported
      else s.shell.exported
    let tracked := if name = "PATH".toList then [] else s.shell.tracked
    { s with shell := { s.shell with
        assigned := withValue name value s.shell.assigned, exported, tracked } }

def unassign (s : State) (name : List Char) : State :=
  { s with shell := { s.shell with
      assigned := s.shell.assigned.filter fun v => v.1 ≠ name
      exported := s.shell.exported.filter (· ≠ name) } }

/-- Gives a variable back what it was. -/
def restore (s : State) (name : List Char) (old : Option (List Char)) : State :=
  let assigned := match old with
    | some value => withValue name value s.shell.assigned
    | none => s.shell.assigned.filter fun v => v.1 ≠ name
  { s with shell := { s.shell with assigned } }

def parameter? (s : State) (name : List Char) : Option (List Char) :=
  match name with
  | ['#'] => some (digits s.shell.arguments.length)
  | ['?'] => some (digits s.shell.status)
  | ['$'] => some (digits s.shell.process)
  | ['!'] => s.shell.lastJob.map digits
  | ['-'] => some s.shell.flags
  | ['0'] => some s.shell.title
  | _ =>
    if name.all Char.isDigit then s.shell.arguments[Arithmetic.ofDigits 10 name - 1]?
    else s.shell.assigned.lookup name

/-- The value of a variable that a shell looks at for itself. -/
def valueOf? (s : State) (name : String) : Option (List Char) :=
  s.shell.assigned.lookup name.toList

def separators (s : State) : List Char :=
  (s.shell.assigned.lookup ['I', 'F', 'S']).getD [' ', '\t', '\n']

/-- All arguments in one text, with the first separator between them. -/
def allArguments (s : State) : List Char :=
  (s.separators.take 1).intercalate s.shell.arguments

end State

end BoardBind.Script
