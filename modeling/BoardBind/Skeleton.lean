import BoardBind.Language.Identifier
import BoardBind.Template.Builtin
import BoardBind.Text.Substitute
import BoardBind.Wrapper

/-! # Skeletons of new design units

A new unit is written from a template in which a placeholder stands for its name and a marker for
its ports. Names are checked before anything is written.
-/

namespace BoardBind

open Text

/-- What is wrong with the names of a new unit. -/
inductive NameError where
  /-- A name that is no identifier, or reserved; `kind` says what it would have named. -/
  | invalid (kind name : String)
  | repeatedPort (name : String)
  deriving DecidableEq

def NameError.message : NameError → String
  | .invalid kind name => "invalid " ++ kind ++ " name " ++ quoted name
  | .repeatedPort name => "port " ++ quoted name ++ " is declared more than once"

namespace Skeleton

/-- The fault of a port that stands behind ports of the folded names `seen`. -/
def portFault (lang : Language) (seen : List String) (port : Port) : Option NameError :=
  if !lang.isValidName port.spelling then some (.invalid "port" port.spelling)
  else if port.name ∈ seen then some (.repeatedPort port.spelling)
  else none

/-- The first fault among ports that stand behind ports of the folded names `seen`. -/
def portsFault (lang : Language) (seen : List String) : List Port → Option NameError
  | [] => none
  | port :: rest => (portFault lang seen port).or (portsFault lang (port.name :: seen) rest)

/-- The first fault in the names of a new unit, if there is one. -/
def fault? (lang : Language) (unit : String) (ports : List Port) : Option NameError :=
  if !lang.isValidName unit then some (.invalid lang.unitTerm unit)
  else portsFault lang [] ports

def placeholder : String := "DR_ENTITY_NAME"

def indent : Language → String
  | .vhdl => "        "
  | .verilog => "    "

/-- The lines that take the place of a template line. -/
def renderLine (lang : Language) (unit : String) (ports : List Port) (line : List Char) :
    List String :=
  match Marker.ofLine? lang.comment line with
  | some .port =>
    separated lang.portSeparator "" (ports.map fun port => indent lang ++ lang.portText port)
  | _ => [substitute placeholder unit (String.ofList line)]

def render (template : String) (lang : Language) (unit : String) (ports : List Port) : String :=
  unlines ((lines template.toList).flatMap (renderLine lang unit ports))

end Skeleton

end BoardBind
