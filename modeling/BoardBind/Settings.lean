import BoardBind.Config
import BoardBind.Host.Disk
import BoardBind.Note
import BoardBind.Source
import BoardBind.Template.Builtin
import BoardBind.Text.Match

/-! # Settings of a run

Where the sources are, how they are read, and what they are bound to. Settings start from
defaults; the configuration of the project's directory comes on top, and choices made for the run
come last.
-/

namespace BoardBind

open Text

/-- A configured path: taken from the project's directory if it is there, else as it stands. -/
def resolvePath (disk : Disk) (root : Path) (path : Path) : Path :=
  if !path.isAbsolute && disk.hasEntry (root.join path) then root.join path else path

/-- The source files of a directory by name, and those left out because they are generated, in the
order of the names that exclude them. -/
def sourceFiles (disk : Disk) (dir : Path) (lang : Language) (excluded : List String) :
    Except OsError (List Path × List Path) :=
  (disk.listFiles dir).map fun names =>
    let sources := names.filter lang.isSourceName
    let rank := fun name => excluded.findIdx fun e => sameIgnoringCase e name
    let (generated, others) := sources.partition fun name => rank name < excluded.length
    (others.map fun name => dir.join ⟨name⟩,
     (generated.mergeSort fun a b => rank a ≤ rank b).map fun name => dir.join ⟨name⟩)

/-- The settings of a run. -/
structure Settings where
  directory : Path := ⟨"."⟩
  language : Language := .vhdl
  /-- The path of the analysis tool. -/
  toolPath : Option Path := none
  /-- The time limit of the tool in milliseconds. -/
  timeout : Nat := 1000
  /-- The name of the top unit. -/
  top : Option String := none
  /-- The name of the wrapper's file. -/
  output : Option String := none
  board : Board := Board.standard
  /-- The configured bindings. -/
  bindings : List Binding := []
  deriving DecidableEq

namespace Settings

def applyProject (s : Settings) (disk : Disk) (project : Project) : Settings :=
  { s with
    language := project.language.getD s.language
    toolPath := (project.tool.map fun tool => resolvePath disk s.directory ⟨tool⟩).or s.toolPath
    timeout := project.timeout.getD s.timeout
    top := project.top
    output := project.output }

def applyConfig (s : Settings) (disk : Disk) (config : Config) : Settings :=
  let s := match config.project with
    | some project => s.applyProject disk project
    | none => s
  { s with board := config.board.getD s.board, bindings := config.bindings }

/-- Moves to a directory, if one is given, and applies the configuration found there. -/
def inDirectory (s : Settings) (disk : Disk) (dir : Option Path) : Noted ConfigError Settings :=
  let s := { s with directory := dir.getD s.directory }
  if disk.hasDirectory s.directory then do
    let config ← Config.load disk s.directory
    return s.applyConfig disk config
  else .fail (.missingDirectory s.directory)

def withLanguage (s : Settings) (language : Option Language) : Settings :=
  { s with language := language.getD s.language }

def withTop (s : Settings) (top : Option String) : Settings :=
  { s with top := top.or s.top }

def withTool (s : Settings) (named : Option String) : Settings :=
  { s with toolPath := s.toolPath.or (named.map Path.mk) }

def tool (s : Settings) : Option AnalysisTool :=
  s.toolPath.map fun path => { path, timeout := s.timeout }

def outputPath (s : Settings) : Path :=
  s.directory.join ⟨s.output.getD (Builtin.topFile s.language)⟩

def generatedNames (s : Settings) : List String :=
  [s.outputPath.fileName, Builtin.testbenchFile s.language]

def sources (s : Settings) (disk : Disk) : Noted OsError (List Path) :=
  match sourceFiles disk s.directory s.language s.generatedNames with
  | .error reason => .fail reason
  | .ok (files, excluded) =>
    ⟨excluded.map fun path => .debug ("excluding generated file " ++ path.quoted), .ok files⟩

end Settings

end BoardBind
