import BoardBind.Board

/-! # Which port bits are bound to each target

The table lists every target of a board with the bits bound to it. A target bound by two bits is
a conflict; a target bound by none may have to be driven to its idle level.
-/

namespace BoardBind

/-- A target and the names of the bits bound to it. -/
structure Assignment where
  target : Target
  ports : List String
  deriving DecidableEq

/-- The assignments of all targets, in board order. -/
abbrev AssignmentTable := List Assignment

namespace AssignmentTable

def ofTargets (targets : List Target) : AssignmentTable :=
  targets.map fun t => ⟨t, []⟩

/-- Records a binding at the first target of the signal's name. -/
def record (port signal : String) : AssignmentTable → AssignmentTable
  | [] => []
  | entry :: rest =>
    if entry.target.name = signal then { entry with ports := entry.ports ++ [port] } :: rest
    else entry :: record port signal rest

/-- The bits bound to the first target of a name, if there is one. -/
def get? (table : AssignmentTable) (target : String) : Option (List String) :=
  (table.find? fun entry => entry.target.name = target).map (·.ports)

/-- The assignments of targets bound by two bits or more. -/
def conflicts (table : AssignmentTable) : List Assignment :=
  table.filter fun entry => 2 ≤ entry.ports.length

/-- The unbound targets that have an idle level, and that level. -/
def unusedDefaults (table : AssignmentTable) : List (String × Logic) :=
  table.filterMap fun entry =>
    if entry.ports.isEmpty then entry.target.idle.map fun level => (entry.target.name, level)
    else none

end AssignmentTable

namespace Board

/-- The table of all bindings; those to names that are no targets are left out. -/
def assignments (board : Board) (lang : Language) (bits : List PortBit) : AssignmentTable :=
  (bits.filter PortBit.isBound).foldl (fun table bit => table.record bit.name bit.signal)
    (.ofTargets (board.targets lang))

/-- The bits bound to names that are no targets of the board. -/
def strayBits (board : Board) (lang : Language) (bits : List PortBit) : List PortBit :=
  bits.filter fun bit => bit.isBound && !(board.targets lang).any fun t => t.name = bit.signal

end Board

end BoardBind
