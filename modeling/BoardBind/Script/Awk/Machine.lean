import BoardBind.Script.Awk.Syntax
import BoardBind.Script.Awk.Text
import BoardBind.Script.Awk.Value
import BoardBind.Script.Process

/-! # The state of a program for records

A running program has variables and arrays, a record with its fields, and files and commands that it
reads from and prints to. What it prints for itself is held back until something else is started.
-/

namespace BoardBind.Script.Awk

/-- What a name stands for. -/
inductive Slot where
  | untyped
  | scalar (value : Value)
  | array (id : Nat)
  /-- An array, unless it turns out to be a plain variable. -/
  | fresh (id : Nat)

/-- Where a program prints to. -/
inductive Sending where
  /-- The output of the program itself. -/
  | own
  /-- A file, with what has been held back, the last part first. -/
  | file (descriptor : Nat) (held : List (List Char))
  /-- The output for complaints, where nothing is held back. -/
  | complaints
  /-- A command with what it is to read. -/
  | command (text : List (List Char))

/-- Something that is read in parts: what is left, and the status of the command that printed it. -/
structure Feed where
  left : List Char
  status : Option Nat := none

/-- What ends the run of statements. -/
inductive Stop where
  | next
  | nextFile
  | exit
  | leave
  | again
  | giveBack (value : Value)
  /-- The program cannot go on. -/
  | fault (message : List Char)
  /-- The program would never end. -/
  | endless

/-- A running program. -/
structure Machine where
  shell : State
  title : List Char
  program : Program
  globals : Std.HashMap String Slot := {}
  locals : List (List Char × Slot) := []
  tables : Array Table := #[]
  record : List Char := []
  fields : Array Value := #[]
  /-- Whether the fields are those of the record. -/
  isSplit : Bool := false
  /-- Whether the record is to be put together from the fields. -/
  isStale : Bool := false
  feeds : List (List Char × Feed) := []
  /-- The files and commands that are printed to; the one that was used last is the first. -/
  sendings : List (List Char × Sending) := [("/dev/stdout".toList, .own)]
  /-- What the program printed and holds back, the last part first. -/
  held : List (List Char) := []
  /-- What is left of the file that is read. -/
  left : Option (List Char) := none
  /-- The number of the next argument. -/
  argument : Nat := 1
  hasRead : Bool := false
  /-- The rules whose ranges have started. -/
  ranges : List Nat := []
  status : Nat := 0
  seed : Nat := 0

abbrev Act (α : Type) := ExceptT Stop (StateM Machine) α

abbrev CommandRunner := List Char → State → World × Ending

namespace Act

/-- A complaint about something that is wrong while a program runs. -/
def fault {α : Type} (message : List Char) : Act α :=
  throw (.fault ("run time error: ".toList ++ message))

/-- Does something again as long as it says so, at most so many times. -/
def loop (round : Machine → Except Stop Bool × Machine) :
    Nat → Machine → Except Stop Unit × Machine
  | 0, m => (.error .endless, m)
  | n + 1, m =>
    match round m with
    | (.ok true, m) => loop round n m
    | (.ok false, m) => (.ok (), m)
    | (.error stop, m) => (.error stop, m)

/-- How often something is done again before it is taken for endless. -/
def patience : Nat := 2000000

/-- Does something again as long as it says so. -/
def repeating (round : Act Bool) : Act Unit :=
  ExceptT.mk fun m => loop (fun m => round.run m) patience m

def goesOn (body : Act Unit) : Act Bool :=
  tryCatch (do body; return true) fun
    | .leave => return false
    | .again => return true
    | stop => throw stop

end Act

def slotOf (n : List Char) : Act Slot := do
  let m ← get
  match m.locals.lookup n with
  | some slot => return slot
  | none => return (m.globals[String.ofList n]?).getD .untyped

def putSlot (n : List Char) (slot : Slot) : Act Unit :=
  modify fun m =>
    if m.locals.any fun l => l.1 = n then
      { m with locals := m.locals.map fun l => if l.1 = n then (n, slot) else l }
    else { m with globals := m.globals.insert (String.ofList n) slot }

def globalOf (n : String) : Act Value := do
  let m ← get
  match m.globals[n]? with
  | some (.scalar value) => return value
  | _ => return .unset

def putGlobal (n : String) (value : Value) : Act Unit :=
  modify fun m => { m with globals := m.globals.insert n (.scalar value) }

/-- The format that turns numbers into texts. -/
def conversion : Act (List Char) := do
  return (← globalOf "CONVFMT").toText []

def textOf (value : Value) : Act (List Char) := do
  match value with
  | .number x => return numberText (← conversion) x
  | other => return other.toText []

/-- Cuts the record into fields, unless that has been done. -/
def splitRecord : Act Unit := do
  let m ← get
  if m.isSplit then return ()
  let separator ← textOf (← globalOf "FS")
  let fields := ((separatorOf separator).parts m.record).map Value.input
  modify fun m => { m with fields := fields.toArray, isSplit := true }
  putGlobal "NF" (.number (Float.ofNat fields.length))

/-- Puts the record together from its fields, if they have changed. -/
def joinRecord : Act Unit := do
  let m ← get
  if !m.isStale then return ()
  let format ← conversion
  let between ← textOf (← globalOf "OFS")
  let record := between.intercalate (m.fields.toList.map (Value.toText format))
  modify fun m => { m with record, isStale := false }

def putRecord (record : List Char) : Act Unit :=
  modify fun m => { m with record, isSplit := false, isStale := false }

def fieldNumber (value : Value) : Act Nat := do
  let n := truncated value.toNumber
  if n < 0 then Act.fault ("negative field index $".toList ++ (toString n).toList)
  else return n.toNat

def fieldOf (n : Nat) : Act Value := do
  if n = 0 then
    joinRecord
    return .input (← get).record
  else
    splitRecord
    return ((← get).fields[n - 1]?).getD .unset

def putCount (n : Nat) : Act Unit := do
  splitRecord
  modify fun m =>
    let kept := m.fields.extract 0 n
    { m with fields := kept ++ Array.replicate (n - kept.size) (.text []), isStale := true }
  putGlobal "NF" (.number (Float.ofNat n))

def putField (n : Nat) (value : Value) : Act Unit := do
  if n = 0 then putRecord (← textOf value)
  else
    splitRecord
    if (← get).fields.size < n then putCount n
    modify fun m => { m with fields := m.fields.setIfInBounds (n - 1) value, isStale := true }

def valueOf (n : List Char) : Act Value := do
  if n = "NF".toList then splitRecord
  match ← slotOf n with
  | .scalar value => return value
  | _ => return .unset

def putValue (n : List Char) (value : Value) : Act Unit := do
  let isLocal := (← get).locals.any fun l => l.1 = n
  if n = "NF".toList && !isLocal then putCount (truncated value.toNumber).toNat
  else
    if n = "FS".toList && !isLocal then splitRecord
    putSlot n (.scalar value)

def newTable (t : Table) : Act Nat := do
  let m ← get
  set { m with tables := m.tables.push t }
  return m.tables.size

/-- The array that a name stands for, which is made if there is none. -/
def arrayOf (n : List Char) : Act Nat := do
  match ← slotOf n with
  | .array id => return id
  | .fresh id =>
    putSlot n (.array id)
    return id
  | .untyped =>
    let id ← newTable {}
    putSlot n (.array id)
    return id
  | .scalar _ => throw (.fault ("type error in arg or use of ".toList ++ n))

def tableOf (id : Nat) : Act Table := do
  return ((← get).tables[id]?).getD {}

def putTable (id : Nat) (t : Table) : Act Unit :=
  modify fun m => { m with tables := m.tables.setIfInBounds id t }

def keyOf (value : Value) : Act Key := do
  match value with
  | .number x =>
    if isWhole x && x.abs < longSize then return .whole (truncated x)
    else return .text (numberText (← conversion) x)
  | other => return .text (other.toText [])

/-- Prints what has been held back. -/
def flush : Act Unit :=
  modify fun m =>
    if m.held.isEmpty then m
    else { m with shell := m.shell.emit 1 m.held.reverse.flatten, held := [] }

/-- Prints what has been held back for files. -/
def flushFiles (isMeant : List Char → Bool) : Act Unit := do
  for (name, sending) in (← get).sendings do
    match sending with
    | .file descriptor held =>
      if isMeant name then
        modify fun m =>
          let sendings := m.sendings.map fun s =>
            if s.1 = name then (name, .file descriptor []) else s
          { m with shell := m.shell.emit descriptor held.reverse.flatten, sendings }
    | _ => pure ()

/-- Runs a command with something to read, and tells its status. -/
def runCommand (run : CommandRunner) (command : List Char) (input : Option (List Char)) :
    Act Nat := do
  let m ← get
  let prepared := match input with
    | some text => m.shell.supply 0 { stream := { text } }
    | none => m.shell
  let (world, ending) := run command prepared
  set { m with shell := { m.shell with world } }
  return match ending with
    | .status n => n
    | .signal n => 256 + n
    | .blocked => 0

def collectCommand (run : CommandRunner) (command : List Char) : Act Feed := do
  flush
  let m ← get
  let index := m.shell.world.sinks.size
  let sinks := m.shell.world.sinks.push {}
  let opened := { m.shell with world := { m.shell.world with sinks } }
  let (world, ending) := run command (opened.connect 1 (some (.sink index)))
  let text := (world.collected index).flatMap (·.2)
  set { m with shell := { m.shell with world := { world with sinks := world.sinks.take index } } }
  return { left := text, status := some ending.shown }

/-- Finishes something that was printed to: what was held back is sent on. -/
def finishSending (run : CommandRunner) (name : List Char) : Sending → Act Nat
  | .own => do
    flush
    return 0
  | .file descriptor held => do
    modify fun m => { m with shell := m.shell.emit descriptor held.reverse.flatten }
    return 0
  | .complaints => return 0
  | .command text => runCommand run name (some text.reverse.flatten)

def isOwnOutput (name : List Char) : Bool :=
  name = ['-'] || name = "/dev/stdout".toList

def openSending (outlet : Outlet) (name : List Char) : Act Sending := do
  match outlet with
  | .command =>
    flush
    return .command []
  | _ =>
    if isOwnOutput name then return .own
    else if name = "/dev/stderr".toList then return .complaints
    else
      let m ← get
      let refused := "cannot open \"".toList ++ name ++ "\" for output".toList
      match openedPlace m.shell.world.disk (m.shell.path name) with
      | .error reason =>
        throw (.fault (refused ++ " (".toList ++ reason.reason.toList ++ [')']))
      | .ok _ =>
        let descriptor := 100 + m.sendings.length + m.shell.world.files.size
        let mode := if outlet = .appended then OpenMode.appending else .writing
        let (shell, isOpen) := m.shell.openToWrite descriptor mode name
        if isOpen then
          set { m with shell }
          return .file descriptor []
        else throw (.fault refused)

/-- Prints a text to a file or a command, which is opened by that. -/
def sendTo (outlet : Outlet) (name text : List Char) : Act Unit := do
  let name := if outlet ≠ .command && isOwnOutput name then "/dev/stdout".toList else name
  let sending ← match (← get).sendings.lookup name with
    | some sending => pure sending
    | none => openSending outlet name
  let sending := match sending with
    | .command held => .command (text :: held)
    | .file descriptor held => .file descriptor (text :: held)
    | other => other
  modify fun m =>
    let others := m.sendings.filter fun s => s.1 ≠ name
    let m := { m with sendings := (name, sending) :: others }
    match sending with
    | .own => { m with held := text :: m.held }
    | .complaints => { m with shell := m.shell.emit 2 text }
    | .file .. => m
    | .command _ => m

def sendOwn (text : List Char) : Act Unit :=
  modify fun m => { m with held := text :: m.held }

/-- Closes a file or a command; the status of a command is handed back. -/
def closeNamed (run : CommandRunner) (name : List Char) : Act Value := do
  let m ← get
  match m.sendings.lookup name, m.feeds.lookup name with
  | some sending, _ =>
    set { m with sendings := m.sendings.filter fun s => s.1 ≠ name }
    return .number (Float.ofNat (← finishSending run name sending))
  | none, some feed =>
    set { m with feeds := m.feeds.filter fun f => f.1 ≠ name }
    return .number (Float.ofNat (feed.status.getD 0))
  | none, none => return .number (-1)

/-- Finishes everything that was printed to, in the order in which it was used last. -/
def finishAll (run : CommandRunner) : Act Unit := do
  let sendings := (← get).sendings
  for (name, sending) in sendings do
    let _ ← finishSending run name sending
  modify fun m => { m with sendings := [] }
  flush

def takeInput : Act (List Char) := do
  let m ← get
  let text := m.shell.unread 0
  set { m with shell := m.shell.withUnread 0 [] }
  return text

def isOwnInput (name : List Char) : Bool :=
  name = ['-'] || name = "/dev/stdin".toList

def fileText? (name : List Char) : Act (Option (List Char)) := do
  if isOwnInput name then return some (← takeInput)
  else
    let m ← get
    match m.shell.world.disk.read (m.shell.path name) with
    | .ok bytes => return some (Text.ofBytes bytes)
    | .error reason =>
      if m.shell.world.disk.hasDirectory (m.shell.path name) then
        throw (.fault ("read error (".toList ++ reason.reason.toList ++ [')']))
      else return none

/-- An argument that sets a variable: its name and value. -/
def assignmentOf? (argument : List Char) : Option (List Char × List Char) :=
  let name := argument.takeWhile isNameChar
  let startsName := name.head?.any fun c => c.isAlpha || c = '_'
  match startsName, argument.drop name.length with
  | true, '=' :: value => some (name, unescaped (value.length + 1) value)
  | _, _ => none

/-- The argument of a number, unless it was taken away. -/
def argumentOf (n : Nat) : Act (List Char) := do
  let id ← arrayOf "ARGV".toList
  let t ← tableOf id
  match t.values[toString n]? with
  | some value => textOf value
  | none => return []

/-- Goes on to the next file that the arguments name. There is none behind the last one, unless no
file was named at all. -/
def nextFile : Nat → Act Bool
  | 0 => return false
  | fuel + 1 => do
    let m ← get
    let count := (truncated (← globalOf "ARGC").toNumber).toNat
    if count ≤ m.argument then
      if m.hasRead then return false
      else
        let text ← takeInput
        putGlobal "FILENAME" (.text ['-'])
        modify fun m => { m with hasRead := true, left := some text }
        return true
    else
      let argument ← argumentOf m.argument
      modify fun m => { m with argument := m.argument + 1 }
      if argument = [] then nextFile fuel
      else
        match assignmentOf? argument with
        | some (name, value) =>
          putValue name (.input value)
          nextFile fuel
        | none =>
          match ← fileText? argument with
          | some text =>
            putGlobal "FILENAME" (.text argument)
            putGlobal "FNR" (.number 0)
            modify fun m => { m with hasRead := true, left := some text }
            return true
          | none =>
            throw (.fault ("cannot open \"".toList ++ argument ++
              "\" (No such file or directory)".toList))

def countUp (n : String) : Act Unit := do
  putGlobal n (.number ((← globalOf n).toNumber + 1))

def mainRecord : Nat → Act (Option (List Char))
  | 0 => return none
  | fuel + 1 => do
    let between ← textOf (← globalOf "RS")
    match (← get).left with
    | none =>
      if ← nextFile (fuel + 1) then mainRecord fuel else return none
    | some text =>
      match nextRecord between text with
      | some (record, left) =>
        modify fun m => { m with left := some left }
        countUp "NR"
        countUp "FNR"
        return some record
      | none =>
        modify fun m => { m with left := none }
        if ← nextFile (fuel + 1) then mainRecord fuel else return none

def fileLimit : Nat := 10000

/-- The next record of something that is read besides the input. -/
def feedRecord (name : List Char) (opening : Act (Option Feed)) : Act (Option (Option (List Char))) :=
  do
    let between ← textOf (← globalOf "RS")
    let feed? ← match (← get).feeds.lookup name with
      | some feed => pure (some feed)
      | none => opening
    match feed? with
    | none => return none
    | some feed =>
      let put := fun (feed : Feed) (m : Machine) =>
        { m with feeds := (name, feed) :: m.feeds.filter fun f => f.1 ≠ name }
      match nextRecord between feed.left with
      | some (record, left) =>
        modify (put { feed with left })
        return some (some record)
      | none =>
        modify (put { feed with left := [] })
        return some none

end BoardBind.Script.Awk
