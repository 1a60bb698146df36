import BoardBind.Command.Check

/-! # Generating the wrapper

The command writes the wrapper that binds the top unit to the board and, on demand, a testbench. An
existing testbench is overwritten only if this is asked for.
-/

namespace BoardBind.Command

open Text

/-- The choices made for a run of the command. -/
structure Gen where
  directory : Option Path
  language : Option Language
  top : Option String
  testbench : Option Path
  force : Bool
  deriving DecidableEq

namespace Gen

def reading : Reading Gen := do
  askHelp (unlines genUsage)
  let force ← flag "force"
  let directory ← option "dir" "path" readPath
  let language ← option "lang" "lang" readLanguage
  let top ← option "top" "unit" anyText
  let testbench ← option "testbench" "dir" readPath
  return { directory, language, top, testbench, force }

def wrapper (board : Board) (s : Selection) : Wrapper where
  language := s.design.language
  unit := (s.unit?.map (·.spelling)).getD s.top
  ports := s.ports
  bits := s.bits
  defaults := (s.table board).unusedDefaults
  board := board.ports s.design.language

/-- Writes the file of a built-in template for a bound design. -/
def write (disk : Disk) (board : Board) (s : Selection) (kind : Builtin) (dest : Path) :
    Except Failure Disk :=
  (generate disk (kind.text s.design.language) dest (wrapper board s) (s.table board)).mapError
    (.generation dest)

/-- What writing a file reports on the way. -/
def writeNotes (disk : Disk) (board : Board) (s : Selection) (kind : Builtin) (dest : Path) :
    List Note :=
  strayNotes board s.design.language s.bits ++
    generateNotes disk (kind.text s.design.language) dest (wrapper board s) (s.table board)

/-- What the command prints about a file it wrote. -/
def announcement (dest : Path) : String :=
  "info: generated " ++ dest.text ++ "\n"

def testbenchPath (s : Selection) (dir : Path) : Path :=
  dir.join ⟨Builtin.testbenchFile s.design.language⟩

/-- Writes the testbench into a directory, which is created if it is missing. Returns the disk
afterwards, also on failure. -/
def writeTestbench (force : Bool) (disk : Disk) (board : Board) (s : Selection) (dir : Path) :
    Outcome :=
  let dest := testbenchPath s dir
  if disk.hasEntry dest && !force then { disk, failure := some (.alreadyExists dest) }
  else
    match disk.createDirectories dir with
    | (created, some reason) =>
      { disk := created, failure := some (.generation dest (.directory reason)) }
    | (created, none) =>
      match write created board s .testbench dest with
      | .error failure =>
        { disk := created, notes := writeNotes created board s .testbench dest,
          failure := some failure }
      | .ok written =>
        { disk := written, notes := writeNotes created board s .testbench dest,
          printed := announcement dest }

def writeAll (c : Gen) (disk : Disk) (settings : Settings) (s : Selection) : Outcome :=
  let dest := settings.outputPath
  let notes := writeNotes disk settings.board s .top dest
  match write disk settings.board s .top dest with
  | .error failure => { disk, notes, failure := some failure }
  | .ok written =>
    match c.testbench with
    | none => { disk := written, notes, printed := announcement dest }
    | some dir =>
      let outcome := writeTestbench c.force written settings.board s dir
      { outcome with
        printed := announcement dest ++ outcome.printed
        notes := notes ++ outcome.notes }

def run (c : Gen) (host : Host) : Outcome :=
  let (disk, prepared) := prepare host c.directory c.language c.top
  match prepared.result with
  | .error failure => { disk, notes := prepared.notes, failure := some failure }
  | .ok (settings, s) =>
    let outcome := c.writeAll disk settings s
    { outcome with notes := prepared.notes ++ outcome.notes }

end Gen

end BoardBind.Command
