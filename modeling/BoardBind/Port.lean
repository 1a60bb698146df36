import BoardBind.Language

/-! # Ports of a design unit

A port is a single bit or a vector whose bits are numbered by a range of 64-bit words. For
binding, every port is expanded into its single bits, each of which may hold a board signal.
-/

namespace BoardBind

/-- The direction of a port, seen from inside its unit. -/
inductive Direction where
  | input
  | output
  deriving DecidableEq

namespace Direction

/-- Reads a direction in any letter case. -/
def ofName (name : String) : Except UnknownChoice Direction :=
  let lower := name.toLower
  if lower ∈ ["in", "input"] then .ok .input
  else if lower ∈ ["out", "output"] then .ok .output
  else .error (.direction name)

def display : Direction → String
  | .input => "in"
  | .output => "out"

end Direction

/-- The indices of a vector, both bounds included. -/
structure BitRange where
  upper : UInt64
  lower : UInt64
  lower_le_upper : lower ≤ upper
  deriving DecidableEq

namespace BitRange

/-- The range between two bounds given in either order. -/
def ofBounds (a b : UInt64) : BitRange :=
  if h : b ≤ a then ⟨a, b, h⟩
  else ⟨b, a, UInt64.le_of_lt (UInt64.not_le.mp h)⟩

/-- The range of `width` indices that starts at zero; an empty width gives the range of one. -/
def ofWidth (width : UInt64) : BitRange :=
  ofBounds (if width = 0 then 0 else width - 1) 0

/-- The number of indices as a 64-bit word, which wraps to zero for the range of all words. -/
def width (range : BitRange) : UInt64 :=
  range.upper - range.lower + 1

/-- The indices from the upper bound down to the lower one. -/
def indices (range : BitRange) : List Nat :=
  (List.range' range.lower.toNat (range.upper.toNat - range.lower.toNat + 1)).reverse

end BitRange

/-- One bit of a unit's ports and the board signal it is bound to. -/
structure PortBit where
  name : String
  direction : Direction
  /-- The board signal, empty while the bit is unbound. -/
  signal : String := ""
  deriving DecidableEq

namespace PortBit

def isBound (bit : PortBit) : Bool :=
  bit.signal ≠ ""

def bind (bit : PortBit) (signal : String) : PortBit :=
  { bit with signal }

/-- Frees a bit from its board signal. -/
def unbind (bit : PortBit) : PortBit :=
  { bit with signal := "" }

end PortBit

/-- A declared port: a vector if it has a range. -/
structure Port where
  /-- The folded name, by which ports are compared. -/
  name : String
  /-- The name as it was spelled in the source. -/
  spelling : String
  direction : Direction
  range : Option BitRange
  deriving DecidableEq

namespace Port

/-- Declares a port; a range is kept only if it spans more than one bit. -/
def declare (lang : Language) (spelling : String) (direction : Direction)
    (range : Option BitRange) : Port where
  name := lang.fold spelling
  spelling := spelling
  direction := direction
  range := range.filter fun r => 1 < r.width

/-- Declares a port by its number of bits, where one bit or none is no vector. -/
def ofWidth (lang : Language) (spelling : String) (direction : Direction) (width : UInt64) : Port :=
  declare lang spelling direction (if 1 < width then some (BitRange.ofWidth width) else none)

def isVector (port : Port) : Bool :=
  port.range.isSome

def width (port : Port) : UInt64 :=
  (port.range.map BitRange.width).getD 1

/-- The single bits of a port, a vector's from its upper index down, all unbound. -/
def bits (lang : Language) (port : Port) : List PortBit :=
  match port.range with
  | some range =>
    range.indices.map fun i => { name := lang.index port.spelling i, direction := port.direction }
  | none => [{ name := port.spelling, direction := port.direction }]

/-- The written range of a vector, which differs between the languages. -/
def rangeText (lang : Language) (range : BitRange) : String :=
  match lang with
  | .vhdl => "(" ++ toString range.upper ++ " downto " ++ toString range.lower ++ ")"
  | .verilog => "[" ++ toString range.upper ++ ":" ++ toString range.lower ++ "]"

/-- The stable order of ports by folded name. -/
def sortByName (ports : List Port) : List Port :=
  ports.mergeSort fun a b => !decide (b.name < a.name)

end Port

end BoardBind
