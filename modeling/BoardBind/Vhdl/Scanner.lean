import BoardBind.Declarations
import BoardBind.Text.Lines
import BoardBind.Vhdl.Line

/-! # Scanning VHDL sources

The scanner reads a text line by line and keeps track of the construct it is in. Inside an entity
it collects ports, inside an architecture the units that are instantiated there.
-/

namespace BoardBind.Vhdl

open Text

/-- The construct a line stands in, named by folded names. -/
inductive Scope where
  | outside
  | entity (name : String)
  | architecture (name entity : String)
  deriving DecidableEq

/-- The entity that a construct belongs to, with no name outside of all constructs. -/
def Scope.owner : Scope → String
  | .outside => ""
  | .entity name => name
  | .architecture _ unit => unit

/-- What the scanner knows between two lines. -/
structure Scan where
  found : Declarations := {}
  scope : Scope := .outside
  deriving DecidableEq

namespace Scan

def folded (name : List Char) : String :=
  Language.vhdl.fold (String.ofList name)

/-- An entity declaration opens its entity and leaves any other construct. -/
def openEntity (file : String) (line : List Char) (s : Scan) : Scan :=
  match entityName? line with
  | some name =>
    { found := s.found.addUnit (.declare .vhdl (String.ofList name) file)
      scope := .entity (folded name) }
  | none => s

def addPorts (entity : String) (decl : PortLine) (found : Declarations) : Declarations :=
  decl.names.foldl (fun found name =>
    found.addPort entity (.declare .vhdl (String.ofList name) decl.direction decl.range)) found

/-- Inside an entity a closing line leaves it, and ports are recorded for an entity still open. -/
def readEntity (line : List Char) (s : Scan) : Scan :=
  match s.scope with
  | .entity name =>
    if closes "entity" name line then { s with scope := .outside }
    else
      match portLine? line with
      | some decl => { s with found := addPorts name decl s.found }
      | none => s
  | _ => s

/-- An architecture opens, whatever construct was open before. -/
def openArchitecture (line : List Char) (s : Scan) : Scan :=
  match architectureNames? line with
  | some (name, entity) => { s with scope := .architecture (folded name) (folded entity) }
  | none => s

/-- The unit that a line of an architecture declares as a component or instantiates directly. -/
def child? (line : List Char) : Option (List Char) :=
  (componentName? line).or (instanceName? line)

/-- Inside an architecture a closing line leaves it; an instance on the line is recorded for the
construct that is then open. -/
def readArchitecture (line : List Char) (s : Scan) : Scan :=
  match s.scope with
  | .architecture name _ =>
    let scope := if closes "architecture" name line then .outside else s.scope
    match child? line with
    | some child => { found := s.found.addInstance ⟨folded child, scope.owner⟩, scope }
    | none => { s with scope }
  | _ => s

def step (file : String) (s : Scan) (line : List Char) : Scan :=
  let line := code line
  readArchitecture line (openArchitecture line (readEntity line (openEntity file line s)))

end Scan

def scanLines (file : String) (lines : List (List Char)) (s : Scan) : Scan :=
  lines.foldl (Scan.step file) s

/-- The declarations of a VHDL text. -/
def scan (text : String) (file : String) : Declarations :=
  (scanLines file (lines text.toList) {}).found

end BoardBind.Vhdl
