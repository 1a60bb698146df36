import BoardBind.Proofs.Vhdl.Statement

/-! # Sources in canonical form

A source is a list of entities and architectures. Its canonical text has one construct on a line, and
its meaning are the declared entities with their ports and the instances in its architectures.
-/

namespace BoardBind.Vhdl

open Text Declarations

/-! ## Canonical sources -/

/-- A name that may be given to a unit, a port or a label. -/
structure Name where
  text : String
  valid : Language.vhdl.isValidName text

/-- The folded spelling of a name. -/
def Name.folded (name : Name) : String := Language.vhdl.fold name.text

/-- The bounds of a vector, in either order. -/
structure Bounds where
  upper : UInt64
  lower : UInt64
  upper_lt : upper.toNat < 2 ^ 63
  lower_lt : lower.toNat < 2 ^ 63

/-- The range of a vector; a vector of one bit is a scalar. -/
def Bounds.range? (bounds : Bounds) : Option BitRange :=
  if bounds.upper = bounds.lower then none else some (.ofBounds bounds.upper bounds.lower)

/-- A declaration of ports that share their mode and type. -/
structure PortGroup where
  first : Name
  others : List Name := []
  direction : Direction
  bounds : Option Bounds := none

/-- An entity or a component: a name and declarations of ports. -/
structure Interface where
  name : Name
  groups : List PortGroup

/-- What a port is associated with in a port map. -/
inductive Actual where
  | object (name : Name) (part : Part)
  | level (value : Logic)
  | unconnected

/-- An association of a port map, by the name of the port or by position. -/
structure Association where
  formal : Option (Name × Part) := none
  actual : Actual

/-- A direct instance of an entity. -/
structure DirectInstance where
  label : Name
  unit : Name
  associations : List Association

/-- An architecture of an entity. -/
structure Architecture where
  name : Name
  entity : Name
  components : List Interface
  instances : List DirectInstance

/-- A unit of a source. -/
inductive SourceUnit where
  | entity (declared : Interface)
  | architecture (body : Architecture)

/-! ## Their text -/

/-- The blanks that a line is indented by. -/
def indentation (width : Nat) : String := String.ofList (List.replicate width ' ')

def PortGroup.text (group : PortGroup) : String :=
  ", ".intercalate ((group.first :: group.others).map Name.text) ++
    modeText group.direction (group.bounds.map fun b => (b.upper, b.lower))

/-- The port clause, absent without ports. -/
def portClause (width : Nat) (groups : List PortGroup) : List String :=
  if groups.isEmpty then []
  else (indentation width ++ "port (") ::
    separated ";" "" (groups.map fun group => indentation (width + 4) ++ group.text) ++
      [indentation width ++ ");"]

def Interface.entityLines (unit : Interface) : List String :=
  ["entity " ++ unit.name.text ++ " is"] ++ portClause 4 unit.groups ++
    ["end entity " ++ unit.name.text ++ ";"]

def Interface.componentLines (unit : Interface) : List String :=
  ["    component " ++ unit.name.text ++ " is"] ++ portClause 8 unit.groups ++ ["    end component;"]

def Actual.text : Actual → String
  | .object name part => name.text ++ part.written
  | .level value => Language.vhdl.constant value
  | .unconnected => "open"

def Association.text (association : Association) : String :=
  match association.formal with
  | some (name, part) => name.text ++ part.written ++ " => " ++ association.actual.text
  | none => association.actual.text

def DirectInstance.text (i : DirectInstance) : String :=
  "    " ++ i.label.text ++ " : entity work." ++ i.unit.text ++ " port map (" ++
    ", ".intercalate (i.associations.map Association.text) ++ ");"

/-- The lines between the header of an architecture and its end. -/
def Architecture.bodyLines (body : Architecture) : List String :=
  body.components.flatMap Interface.componentLines ++ ["begin"] ++
    body.instances.map DirectInstance.text

def Architecture.lines (body : Architecture) : List String :=
  ["architecture " ++ body.name.text ++ " of " ++ body.entity.text ++ " is"] ++ body.bodyLines ++
    ["end architecture " ++ body.name.text ++ ";"]

def SourceUnit.lines : SourceUnit → List String
  | .entity declared => declared.entityLines
  | .architecture body => body.lines

/-- The canonical text of a source. -/
def sourceText (source : List SourceUnit) : String :=
  unlines (source.flatMap SourceUnit.lines)

/-! ## What they declare -/

def PortGroup.ports (group : PortGroup) : List Port :=
  (group.first :: group.others).map fun name =>
    { name := name.folded
      spelling := name.text
      direction := group.direction
      range := group.bounds.bind Bounds.range? }

def Interface.ports (unit : Interface) : List Port := unit.groups.flatMap PortGroup.ports

/-- The units that an architecture instantiates, its components first. -/
def Architecture.edges (body : Architecture) : List Instance :=
  (body.components.map Interface.name ++ body.instances.map DirectInstance.unit).map fun child =>
    ⟨child.folded, body.entity.folded⟩

/-- The entities of a source in order. -/
def entities (source : List SourceUnit) : List Interface :=
  source.filterMap fun
    | .entity declared => some declared
    | .architecture _ => none

/-- The architectures of a source in order. -/
def architectures (source : List SourceUnit) : List Architecture :=
  source.filterMap fun
    | .entity _ => none
    | .architecture body => some body

/-- Declarations that say what a source declares: its entities in order, for every folded name the ports
of the entities of that name in order, and every edge once. -/
structure Describes (file : String) (source : List SourceUnit) (d : Declarations) : Prop where
  units : d.units = (entities source).map fun unit => .declare .vhdl unit.name.text file
  ports : ∀ name, d.portsOf name =
    ((entities source).filter fun unit => unit.name.folded = name).flatMap Interface.ports
  instances : d.instances = ((architectures source).flatMap Architecture.edges).eraseDups

/-- An architecture whose header is read as that of another construct as well. -/
def Architecture.Misread (body : Architecture) : Prop :=
  (EndsIn "entity" body.name.text.toList ∨ EndsIn "component" body.name.text.toList) ∧
    StartsWith "is" body.entity.text.toList

end BoardBind.Vhdl
