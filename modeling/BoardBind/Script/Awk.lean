import BoardBind.Script.Awk.Reader
import BoardBind.Script.Awk.Run
import BoardBind.Script.Find

/-! # A program that runs programs for records

The program for the records is an argument or stands in files; other arguments set variables or name
the files with the records.
-/

namespace BoardBind.Script

namespace Awk

def usage : List String :=
  ["Usage: mawk [Options] [Program] [file ...]",
    "",
    "Program:",
    "    The -f option value is the name of a file containing program text.",
    "    If no -f option is given, a \"--\" ends option processing; the following",
    "    parameters are the program text.",
    "",
    "Options:",
    "    -f program-file  Program  text is read from file instead of from the",
    "                     command-line.  Multiple -f options are accepted.",
    "    -F value         sets the field separator, FS, to value.",
    "    -v var=value     assigns value to program variable var.",
    "    --               unambiguous end of options.",
    "",
    "    Implementation-specific options are prefixed with \"-W\".  They can be",
    "    abbreviated:",
    "",
    "    -W version       show version information and exit.",
    "    -W compat        pre-POSIX 2001.",
    "    -W dump          show assembler-like listing of program and exit.",
    "    -W help          show this message and exit.",
    "    -W interactive   set unbuffered output, line-buffered input.",
    "    -W exec file     use file as program as well as last option.",
    "    -W posix         stricter POSIX checking.",
    "    -W random=number set initial random seed.",
    "    -W sprintf=number adjust size of sprintf buffer.",
    "    -W usage         show this message and exit."]

/-- What the arguments ask for. -/
structure Request where
  separator : Option (List Char) := none
  assigned : List (List Char) := []
  files : List (List Char) := []
  rest : List (List Char) := []

/-- Reads the options, up to the first argument that is none. -/
def requestOf : List (List Char) → Except (List Char) Request
  | ['-', '-'] :: rest => .ok { rest }
  | ['-', 'F'] :: value :: rest =>
    (requestOf rest).map fun r => { r with separator := r.separator.or (some value) }
  | ('-' :: 'F' :: value) :: rest =>
    if value = [] then .error "option -F lacks argument".toList
    else (requestOf rest).map fun r => { r with separator := r.separator.or (some value) }
  | ['-', 'v'] :: value :: rest =>
    (requestOf rest).map fun r => { r with assigned := value :: r.assigned }
  | ('-' :: 'v' :: value) :: rest =>
    if value = [] then .error "option -v lacks argument".toList
    else (requestOf rest).map fun r => { r with assigned := value :: r.assigned }
  | ['-', 'f'] :: value :: rest =>
    (requestOf rest).map fun r => { r with files := value :: r.files }
  | ('-' :: 'f' :: value) :: rest =>
    if value = [] then .error "option -f lacks argument".toList
    else (requestOf rest).map fun r => { r with files := value :: r.files }
  | ['-', 'W'] :: _ :: rest => requestOf rest
  | ('-' :: c :: more) :: _ => .error ("not an option: -".toList ++ c :: more)
  | rest => .ok { rest }

def standardGlobals : List (String × Value) :=
  [("FS", .text [' ']), ("OFS", .text [' ']), ("ORS", .text ['\n']), ("RS", .text ['\n']),
    ("NF", .number 0), ("NR", .number 0), ("FNR", .number 0), ("SUBSEP", .text ['\x1c']),
    ("CONVFMT", .text "%.6g".toList), ("OFMT", .text "%.6g".toList), ("RSTART", .number 0),
    ("RLENGTH", .number (-1)), ("FILENAME", .text [])]

/-- Sets the variables that are always there, and those that the arguments set. -/
def prepare (request : Request) (arguments : List (List Char))
    (environment : List (List Char × List Char)) : Act Unit := do
  for (n, value) in standardGlobals do
    putGlobal n value
  let id ← newTable (environment.foldl (fun t v => t.put (.text v.1) (.input v.2)) {})
  putSlot "ENVIRON".toList (.array id)
  let title := (← get).title
  let id ← newTable ((title :: arguments).zipIdx.foldl
    (fun t (a, n) => t.put (.whole n) (.input a)) {})
  putSlot "ARGV".toList (.array id)
  putGlobal "ARGC" (.number (Float.ofNat (arguments.length + 1)))
  match request.separator with
  | some value => putGlobal "FS" (.text (unescaped (value.length + 1) value))
  | none => pure ()
  for assigned in request.assigned do
    match assignmentOf? assigned with
    | some (n, value) => putValue n (.input value)
    | none =>
      throw (.fault ("improper assignment: -v ".toList ++ assigned))

/-- The text of the program: that of the files, or the first argument. -/
def programText (s : State) (request : Request) :
    Except (List Char) (List Char × List (List Char)) :=
  if request.files = [] then
    match request.rest with
    | text :: arguments => .ok (text, arguments)
    | [] => .error []
  else do
    let texts ← request.files.mapM fun name =>
      if isOwnInput name then .ok (s.unread 0)
      else
        match s.world.disk.read (s.path name) with
        | .ok bytes => .ok (Text.ofBytes bytes)
        | .error reason =>
          .error ("cannot open \"".toList ++ name ++ "\" (".toList ++ reason.reason.toList ++ [')'])
    return (['\n'].intercalate texts, request.rest)

/-- Ends a run: what is held back is printed, and a fault is complained about. -/
def concluded (run : CommandRunner) (m : Machine) : Option Stop → World × Ending
  | some (.fault message) =>
    let number := fun n : String =>
      match m.globals[n]? with
      | some (.scalar value) => value.toText []
      | _ => []
    let place := "\tFILENAME=\"".toList ++ number "FILENAME" ++ "\" FNR=".toList ++ number "FNR" ++
      " NR=".toList ++ number "NR" ++ ['\n']
    let isLate := "run time error".toList.isPrefixOf message
    let complaint := m.title ++ ": ".toList ++ message ++ '\n' :: if isLate then place else []
    let after := ((finishAll run).run { m with shell := m.shell.emit 2 complaint }).2
    (after.shell.world, .status 2)
  | some .endless => ((m.shell.spend endlessTime).world, .status 2)
  | _ =>
    let after := ((finishAll run).run m).2
    (after.shell.world, .status after.status)

end Awk

/-- Runs `awk`. -/
def runAwk (start : Starter) (name : List Char) (arguments : List (List Char)) (s : State) :
    World × Ending :=
  let failing := fun complaint : List Char =>
    ((s.emit 2 (name ++ ": ".toList ++ complaint ++ ['\n'])).world, Ending.status 2)
  let run : Awk.CommandRunner := fun command s =>
    match start "/bin/sh".toList ["-c".toList, command] s with
    | .ok result => result
    | .error _ => (s.world, .status 127)
  match Awk.requestOf arguments with
  | .error complaint => failing complaint
  | .ok request =>
    match Awk.programText s request with
    | .error [] =>
      let shown := Awk.usage.flatMap fun line => line.toList ++ ['\n']
      ((s.emit 2 shown).world, .status 0)
    | .error complaint => failing complaint
    | .ok (text, operands) =>
      match Awk.programOf text with
      | .error fault =>
        failing fault.shown
      | .ok program =>
        let machine : Awk.Machine := { shell := s, title := name, program }
        let whole : Awk.Act Unit := do
          Awk.prepare request operands (environment s)
          Awk.runRules run
        match whole.run machine with
        | (.ok _, m) => Awk.concluded run m none
        | (.error stop, m) => Awk.concluded run m (some stop)

end BoardBind.Script
