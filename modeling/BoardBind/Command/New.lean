import BoardBind.Command.Check

/-! # Creating the skeleton of a design unit

The command writes a source file for a new unit with the given ports. An existing file is
overwritten only if this is asked for.
-/

namespace BoardBind.Command

open Text

/-- A port as it is given on the command line. -/
structure PortSpec where
  name : String
  direction : Direction
  width : UInt64
  deriving DecidableEq

namespace PortSpec

/-- Reads `NAME:DIRECTION` or `NAME:DIRECTION:WIDTH`. -/
def parse? (text : String) : Option PortSpec :=
  match text.toList.splitOn ':' with
  | [name, direction] => do
    if name = [] then none
    let direction ← (Direction.ofName (String.ofList direction)).toOption
    return ⟨String.ofList name, direction, 1⟩
  | [name, direction, width] => do
    if name = [] then none
    let direction ← (Direction.ofName (String.ofList direction)).toOption
    return ⟨String.ofList name, direction, ← signedWord64? width⟩
  | _ => none

def read (text : String) : Except String PortSpec :=
  match parse? text with
  | some spec => .ok spec
  | none =>
    .error ("invalid port " ++ quoted text ++ ": expecting <name>:<in|out>[:<width>]")

def toPort (lang : Language) (spec : PortSpec) : Except GenerateError Port :=
  if spec.width = 0 then .error (.emptyPort spec.name)
  else .ok (Port.ofWidth lang spec.name spec.direction spec.width)

end PortSpec

/-- The choices made for a run of the command. -/
structure New where
  unit : String
  ports : List PortSpec
  language : Option Language
  output : Option Path
  force : Bool
  deriving DecidableEq

namespace New

def reading : Reading New := do
  askHelp (unlines newUsage)
  let force ← flag "force"
  let ports ← options "port" "spec" PortSpec.read
  let language ← option "lang" "lang" readLanguage
  let output ← option "output" "file" readPath
  let unit ← requiredPositional "unit" anyText
  return { unit, ports, language, output, force }

/-- The file to write, by default named for the unit. -/
def destination (c : New) (lang : Language) : Path :=
  c.output.getD ⟨c.unit ++ "." ++ lang.defaultExtension⟩

def write (c : New) (disk : Disk) (lang : Language) (dest : Path) : Except Failure Disk :=
  if disk.hasEntry dest && !c.force then .error (.alreadyExists dest)
  else if c.ports = [] then .error (.noPort lang c.unit)
  else
    (do
      let ports ← c.ports.mapM (PortSpec.toPort lang)
      generateSkeleton disk (Builtin.skeleton.text lang) dest lang c.unit ports).mapError
      (.generation dest)

def run (c : New) (host : Host) : Outcome :=
  let lang := c.language.getD host.settings.language
  let dest := c.destination lang
  match c.write host.disk lang dest with
  | .ok written => { disk := written, printed := "info: created " ++ dest.text ++ "\n" }
  | .error failure => { disk := host.disk, failure := some failure }

end New

end BoardBind.Command
