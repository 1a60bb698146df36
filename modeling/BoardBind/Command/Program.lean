import BoardBind.Command.Gen
import BoardBind.Command.Help
import BoardBind.Command.New

/-! # The program and its commands -/

namespace BoardBind.Command

open Text

/-- The commands of the program. -/
inductive Name where
  | check
  | gen
  | new
  | help
  deriving DecidableEq

def Name.ofText? (name : String) : Option Name :=
  [("check", Name.check), ("gen", .gen), ("new", .new), ("help", .help)].lookup name

/-- Reads a command's arguments and runs it, unless they are refused. -/
def execute {α : Type} (reading : Reading α) (run : α → Host → Outcome) (arguments : List String)
    (host : Host) : Outcome :=
  match interpret reading arguments with
  | .error e => { disk := host.disk, failure := some (.usage e) }
  | .ok choices => run choices host

/-- Runs a command on its arguments. -/
def run (command : Name) (arguments : List String) (host : Host) : Outcome :=
  match command with
  | .check => execute Check.reading Check.run arguments host
  | .gen => execute Gen.reading Gen.run arguments host
  | .new => execute New.reading New.run arguments host
  | .help => execute Help.reading Help.run arguments host

/-- The choices made for the program as a whole. -/
structure Program where
  colour : ColourMode
  version : Bool
  verbose : Bool
  deriving DecidableEq

/-- Reads the program's own arguments. The colour is asked for before the flags, an order that the
stages of reading do not allow, so the reading never succeeds. -/
def Program.reading : Reading Program := do
  askHelp (unlines mainUsage)
  let colour ← option "color" "when" fun value =>
    (ColourMode.ofName value).mapError UnknownChoice.message
  let version ← flag "version"
  let verbose ← flag "verbose"
  return { colour := colour.getD .auto, version, verbose }

/-- How the program's own arguments are refused, if they are. -/
def Program.refusal? (arguments : List String) : Option UsageError :=
  match interpret Program.reading arguments with
  | .error e => some e
  | .ok _ => none

end BoardBind.Command
