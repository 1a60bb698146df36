import BoardBind.Port

/-! # What a source file declares

A source file declares design units with their ports, and instances of units inside others. Units
and instances are kept in the order in which they were met. A unit declared twice has one port
list, to which both declarations contribute.
-/

namespace BoardBind

/-- A declared design unit. -/
structure DesignUnit where
  /-- The folded name, by which units are compared. -/
  name : String
  /-- The name as it was spelled in the source. -/
  spelling : String
  /-- The name of the declaring file. -/
  file : String
  deriving DecidableEq

/-- A unit as it is declared in a file. -/
def DesignUnit.declare (lang : Language) (spelling file : String) : DesignUnit where
  name := lang.fold spelling
  spelling := spelling
  file := file

/-- An instance of the unit `child` inside the unit `parent`, both by folded name. -/
structure Instance where
  child : String
  parent : String
  deriving DecidableEq

/-- The declarations of one source file. -/
structure Declarations where
  units : List DesignUnit := []
  /-- Every port together with the folded name of its unit. -/
  ports : List (String × Port) := []
  /-- The instances, each once. -/
  instances : List Instance := []
  deriving DecidableEq

namespace Declarations

def empty : Declarations := {}

def declares (d : Declarations) (name : String) : Bool :=
  d.units.any fun u => u.name = name

def addUnit (d : Declarations) (u : DesignUnit) : Declarations :=
  { d with units := d.units ++ [u] }

/-- Adds an instance unless the same one was met before. -/
def addInstance (d : Declarations) (i : Instance) : Declarations :=
  if i ∈ d.instances then d else { d with instances := d.instances ++ [i] }

/-- Adds a port to a declared unit; a port of an undeclared unit is dropped. -/
def addPort (d : Declarations) (unit : String) (port : Port) : Declarations :=
  if d.declares unit then { d with ports := d.ports ++ [(unit, port)] } else d

/-- The ports recorded under a unit's folded name, in order. -/
def portsOf (d : Declarations) (unit : String) : List Port :=
  d.ports.filterMap fun (owner, port) => if owner = unit then some port else none

/-- The ports of a unit, if it is declared. -/
def portsOf? (d : Declarations) (unit : String) : Option (List Port) :=
  if d.declares unit then some (d.portsOf unit) else none

/-- The declarations of two texts read one after the other. -/
def merge (a b : Declarations) : Declarations where
  units := a.units ++ b.units
  ports := a.ports ++ b.ports
  instances := a.instances ++ b.instances.filter fun i => i ∉ a.instances

end Declarations

end BoardBind
