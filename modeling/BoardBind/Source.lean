import BoardBind.Note
import BoardBind.Text.Encoding
import BoardBind.Tool.Launch
import BoardBind.Verilog.Listing
import BoardBind.Vhdl.Scanner

/-! # Reading source files

A VHDL file is scanned itself. For a Verilog file the analysis tool is run, and its listing is
read; the tool must end within its time limit.
-/

namespace BoardBind

open Text

/-- The analysis tool for Verilog sources. -/
structure AnalysisTool where
  path : Path
  /-- The time limit in milliseconds. -/
  timeout : Nat := 1000
  deriving DecidableEq

/-- Why a source file was not read. -/
inductive SourceError where
  | unreadable (path : Path) (reason : OsError)
  | toolNotConfigured
  | toolMissing (tool : Path)
  | toolRefused (tool : Path) (reason : OsError)
  | toolTimeout (file : Path) (milliseconds : Nat)
  | toolFailed (file : Path) (code : Option Nat)
  deriving DecidableEq

namespace SourceError

def message : SourceError → String
  | .unreadable path reason =>
    "failed to read source file " ++ path.quoted ++ ": " ++ reason.message
  | .toolNotConfigured => "the source analysis tool is not configured"
  | .toolMissing tool => "the source analysis tool was not found at " ++ tool.quoted
  | .toolRefused tool reason =>
    "failed to launch the source analysis tool " ++ tool.quoted ++ ": " ++ reason.message
  | .toolTimeout file milliseconds =>
    "source analysis of " ++ file.quoted ++ " timed out after " ++ toString milliseconds ++ " ms"
  | .toolFailed file code =>
    "source analysis of " ++ file.quoted ++ " failed" ++
      match code with
      | some c => " with exit code " ++ toString c
      | none => ""

def isToolFailure : SourceError → Bool
  | .unreadable .. => false
  | _ => true

end SourceError

namespace AnalysisTool

/-- The listing that the tool has printed for a file. -/
def listing (tool : AnalysisTool) (file : Path) : Launch → Except SourceError String
  | .notFound => .error (.toolMissing tool.path)
  | .refused reason => .error (.toolRefused tool.path reason)
  | .expired _ => .error (.toolTimeout file tool.timeout)
  | .finished code output _ =>
    if code = some 0 then .ok (String.ofList (ofUtf8Lossy output))
    else .error (.toolFailed file code)

/-- What a run of the tool reports on the way. -/
def notes (tool : AnalysisTool) (file : Path) : Launch → List Note
  | .expired _ =>
    [.debug ("running " ++ tool.path.quoted ++ " --allow_incomplete " ++ file.quoted),
     .warn ("analysis of " ++ file.quoted ++ " timed out; killing " ++ tool.path.quoted)]
  | _ => [.debug ("running " ++ tool.path.quoted ++ " --allow_incomplete " ++ file.quoted)]

/-- Runs the tool on a file. Returns the disk afterwards, which the tool may have changed. -/
def run (tool : AnalysisTool) (launch : Launcher) (disk : Disk) (file : Path) :
    Disk × Noted SourceError String :=
  let launched := launch disk tool.path ["--allow_incomplete", file.text] tool.timeout
  (launched.diskFrom disk, ⟨tool.notes file launched, tool.listing file launched⟩)

end AnalysisTool

def readVhdl (disk : Disk) (path : Path) : Noted SourceError Declarations :=
  match disk.read path with
  | .error reason => .fail (.unreadable path reason)
  | .ok bytes =>
    let found := Vhdl.scan (String.ofList (ofBytes bytes)) path.fileName
    ⟨[.debug ("scanned " ++ path.quoted ++ ": " ++ toString found.units.length ++ " entities, " ++
      toString found.instances.length ++ " components")], .ok found⟩

def readVerilog (listing : String) (path : Path) : Noted SourceError Declarations := do
  let read := Verilog.readListing listing path.fileName
  Noted.say (List.replicate read.skipped
    (.warn ("skipping port without a name or direction in " ++ path.fileName)))
  Noted.say [.debug ("analyzed " ++ path.quoted ++ ": " ++ toString read.found.units.length ++
    " modules, " ++ toString read.found.instances.length ++ " instances")]
  return read.found

/-- Reads the declarations of a source file. Returns the disk afterwards, which the tool may have
changed. -/
def readSource (lang : Language) (tool : Option AnalysisTool) (launch : Launcher) (disk : Disk)
    (path : Path) : Disk × Noted SourceError Declarations :=
  match lang, tool with
  | .vhdl, _ => (disk, readVhdl disk path)
  | .verilog, none => (disk, .fail .toolNotConfigured)
  | .verilog, some tool =>
    let (after, listing) := tool.run launch disk path
    (after, listing.bind fun text => readVerilog text path)

/-- Reads source files one after the other. -/
def readSources (lang : Language) (tool : Option AnalysisTool) (launch : Launcher) :
    Disk → List Path → Disk × List (Noted SourceError Declarations)
  | disk, [] => (disk, [])
  | disk, path :: rest =>
    let (after, first) := readSource lang tool launch disk path
    let (last, more) := readSources lang tool launch after rest
    (last, first :: more)

end BoardBind
