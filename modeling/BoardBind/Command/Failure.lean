import BoardBind.Command.Arguments
import BoardBind.Config
import BoardBind.Design
import BoardBind.Generate
import BoardBind.Settings

/-! # Failures of commands -/

namespace BoardBind.Command

open Text

/-- Why a command failed. -/
inductive Failure where
  | usage (cause : UsageError)
  | config (cause : ConfigError)
  | alreadyExists (path : Path)
  | toolNotConfigured (lang : Language)
  | topNotFound (lang : Language) (name : String)
  | analysis (cause : DesignError)
  | generation (path : Path) (cause : GenerateError)
  | sourcesUnreadable (dir : Path) (reason : OsError)
  | noSources (lang : Language) (dir : Path)
  | noPort (lang : Language) (unit : String)
  deriving DecidableEq

namespace Failure

def hint (colours : Bool) (text : String) : String :=
  "\n\n" ++ paint colours .green "hint" ++ ": " ++ text

def message? (colours : Bool) : Failure → Option String
  | .usage cause => cause.message? colours
  | .config (.malformed _) => none
  | .config cause => some cause.message
  | .alreadyExists path =>
    some ("path " ++ path.quoted ++ " already exists" ++
      hint colours "use the \"--force\" flag to overwrite the existing file")
  | .toolNotConfigured lang =>
    some ("no source analysis tool is configured for " ++ lang.display ++ " sources" ++
      hint colours
        "set \"svinst\" under [project] in hdltop.toml or the SVINST environment variable")
  | .topNotFound lang name =>
    some ("no " ++ lang.unitTerm ++ " named " ++ quoted name ++
      " exists among the analyzed sources" ++
      hint colours "use `hdltop check` to see the list of analyzed design units")
  | .analysis cause => some ("failed to analyze the sources: " ++ continued cause.message)
  | .generation path cause =>
    some ("failed to generate " ++ path.quoted ++ ": " ++ continued cause.message)
  | .sourcesUnreadable dir reason =>
    some ("failed to read the sources of " ++ dir.quoted ++ ": " ++ continued reason.message)
  | .noSources lang dir => some ("no " ++ lang.display ++ " sources found in " ++ dir.quoted)
  | .noPort lang unit => some (lang.unitTerm ++ " " ++ unit ++ " needs at least one port")

end Failure

/-- The surroundings of a run. -/
structure Host where
  disk : Disk
  launch : Launcher
  /-- The tool named by the environment. -/
  toolVariable : Option String := none
  /-- Whether output is coloured. -/
  colours : Bool := false

def Host.settings (host : Host) : Settings :=
  Settings.withTool {} host.toolVariable

/-- What a command did: the disk afterwards, what it printed and noted, and how it failed. -/
structure Outcome where
  disk : Disk
  printed : String := ""
  notes : List Note := []
  failure : Option Failure := none

end BoardBind.Command
