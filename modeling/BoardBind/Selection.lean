import BoardBind.Bindings
import BoardBind.Board.AssignmentTable
import BoardBind.Design

/-! # The selected top unit and its bindings

One unit of a design is selected as the top. The single bits of its ports, sorted by name, can be
bound to the signals of a board. A binding is accepted only if the board has a target of that
name in the direction of the bit.
-/

namespace BoardBind

/-- An item of the trees, and whether it is marked as the selected top. -/
structure MarkedItem extends TreeItem where
  isTop : Bool
  deriving DecidableEq

/-- A design with its selected top unit, and all that is kept of this unit. -/
structure Selection where
  design : Design
  /-- The folded name of the top unit. -/
  top : String
  /-- The ports of the top unit, sorted by name. -/
  ports : List Port
  /-- The single bits of these ports with their bindings. -/
  bits : List PortBit
  /-- The items of the trees, with those of the top unit marked. -/
  items : List MarkedItem

namespace Selection

/-- The top unit as it was declared. -/
def unit? (s : Selection) : Option DesignUnit :=
  (s.design.unit? s.top).map (·.unit)

/-- Whether an item of the trees is marked as the top unit. -/
def isTop (s : Selection) (item : TreeItem) : Bool :=
  s.items.contains { item with isTop := true }

def freshBits (lang : Language) (ports : List Port) : List PortBit :=
  ports.flatMap (Port.bits lang)

/-- The signal that the last bound bit of exactly this name holds. -/
def signalOf? (bits : List PortBit) (name : String) : Option String :=
  (bits.findRev? fun bit => bit.isBound && bit.name = name).map (·.signal)

/-- Binds a bit to the signal that a bit of the same name held before. -/
def rebind (old : List PortBit) (bit : PortBit) : PortBit :=
  match signalOf? old bit.name with
  | some signal => bit.bind signal
  | none => bit

/-- Makes a unit with the given ports the top. Its bits take over the bindings of `old` bits. -/
def select (s : Selection) (top : String) (ports : List Port) (old : List PortBit) : Selection :=
  let sorted := Port.sortByName ports
  { s with
    top
    ports := sorted
    bits := (freshBits s.design.language sorted).map (rebind old)
    items := s.items.map fun item => { item with isTop := item.name = top } }

/-- Selects the unit of a name as the top. With `preserve`, its bits take over the bindings of
old bits of the same name. A name of no registered unit is refused and changes nothing. -/
def setTop (s : Selection) (name : String) (preserve : Bool) : Bool × Selection :=
  let key := s.design.language.fold name
  match s.design.graph.find? key with
  | none => (false, s)
  | some r => (true, s.select key r.ports (if preserve then s.bits else []))

/-- A design before any unit of it is selected. -/
def unselected (d : Design) : Selection where
  design := d
  top := ""
  ports := []
  bits := []
  items := d.items.map fun item => { item with isTop := false }

/-- The selection that a design starts with: its suggested top, with nothing bound. -/
def initial (d : Design) : Selection :=
  ((unselected d).setTop d.suggested false).2

/-- The number of the first bit of a name in any of its spellings. -/
def bitIndex? (s : Selection) (name : String) : Option Nat :=
  s.bits.findIdx? fun bit => s.design.language.fold bit.name = s.design.language.fold name

/-- Whether a binding names a bit and a target that the board offers in its direction. -/
def admits (s : Selection) (board : Board) (binding : Binding) : Bool :=
  match s.bits.find? fun bit =>
      s.design.language.fold bit.name = s.design.language.fold binding.port with
  | some bit => board.accepts s.design.language binding.signal bit.direction
  | none => false

/-- Binds a bit to a target of the board. A binding that is not admitted changes nothing. -/
def assign (s : Selection) (board : Board) (binding : Binding) : Bool × Selection :=
  match s.admits board binding, s.bitIndex? binding.port with
  | true, some i => (true, { s with bits := s.bits.modify i fun bit => bit.bind binding.signal })
  | _, _ => (false, s)

/-- Applies bindings in order and counts those that were admitted. -/
def restore (s : Selection) (board : Board) : List Binding → Nat × Selection
  | [] => (0, s)
  | binding :: rest =>
    match s.assign board binding with
    | (true, next) =>
      let (count, last) := next.restore board rest
      (count + 1, last)
    | (false, _) => s.restore board rest

/-- What restoring bindings reports on the way. Binding a bit does not change which bindings are
admitted, so the bindings refused are those refused at the start. -/
def restoreNotes (s : Selection) (board : Board) (bindings : List Binding) : List Note :=
  (bindings.filter fun b => !s.admits board b).map fun b =>
    .debug ("not restoring " ++ b.port ++ " => " ++ b.signal)

/-- Frees every bit that holds one of the given signals. -/
def release (s : Selection) (signals : List String) : Selection :=
  { s with bits := s.bits.map fun bit => if bit.signal ∈ signals then bit.unbind else bit }

/-- The table of all bindings. -/
def table (s : Selection) (board : Board) : AssignmentTable :=
  board.assignments s.design.language s.bits

end Selection

end BoardBind
