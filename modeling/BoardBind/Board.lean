import BoardBind.Port
import BoardBind.Text.Quoted

/-! # Development boards

A board offers named signals, each a bit or a vector of bits, in one direction. Seen from the
design, an input signal is driven by the board. An output may have an idle level, to which its
bits are driven while no port is bound to them. The single bits are the board's targets.
-/

namespace BoardBind

open Text

structure BoardSignal where
  name : String
  direction : Direction
  /-- The number of bits, one if it is not given. -/
  declaredWidth : Option UInt64 := none
  idle : Option Logic := none
  deriving DecidableEq

def BoardSignal.width (s : BoardSignal) : UInt64 :=
  s.declaredWidth.getD 1

/-- A single bit of a board. -/
structure Target where
  name : String
  direction : Direction
  idle : Option Logic
  deriving DecidableEq

/-- The single bits of a signal; those of a vector are numbered from zero upwards. -/
def BoardSignal.targets (lang : Language) (s : BoardSignal) : List Target :=
  if s.width = 1 then [⟨s.name, s.direction, s.idle⟩]
  else (List.range s.width.toNat).map fun i => ⟨lang.index s.name i, s.direction, s.idle⟩

/-- A board with its signals in order. -/
structure Board where
  name : String
  signals : List BoardSignal
  deriving DecidableEq

/-- What makes a board unusable, with the name of the signal at fault. -/
inductive BoardError where
  | emptySignal (name : String)
  | idleInput (name : String)
  | repeatedSignal (name : String)
  deriving DecidableEq

def BoardError.message : BoardError → String
  | .emptySignal name => "board signal " ++ quoted name ++ " has a width of 0"
  | .idleInput name =>
    "board signal " ++ quoted name ++ " is an input and cannot have an idle value"
  | .repeatedSignal name => "board signal " ++ quoted name ++ " is defined more than once"

namespace Board

/-- The board used unless another one is described. -/
def standard : Board where
  name := "Nexys A7-100T"
  signals :=
    [{ name := "SW", direction := .input, declaredWidth := some 16 }] ++
    ["BTNC", "BTNL", "BTNR", "BTNU", "BTND", "CLK", "RST"].map
      (fun name => { name, direction := .input }) ++
    [{ name := "LD", direction := .output, declaredWidth := some 16, idle := some .low },
     { name := "AN", direction := .output, declaredWidth := some 8, idle := some .high }] ++
    ["CA", "CB", "CC", "CD", "CE", "CF", "CG", "DP"].map
      (fun name => { name, direction := .output, idle := some .high })

/-- The fault of a signal that stands behind signals of the names `seen`. -/
def signalFault (seen : List String) (s : BoardSignal) : Option BoardError :=
  if s.width = 0 then some (.emptySignal s.name)
  else if s.idle.isSome ∧ s.direction = .input then some (.idleInput s.name)
  else if s.name ∈ seen then some (.repeatedSignal s.name)
  else none

/-- The first fault among signals that stand behind signals of the names `seen`. -/
def faultAfter (seen : List String) : List BoardSignal → Option BoardError
  | [] => none
  | s :: rest => (signalFault seen s).or (faultAfter (s.name :: seen) rest)

/-- The first fault of a board, if it has one. -/
def fault? (board : Board) : Option BoardError :=
  faultAfter [] board.signals

/-- Every signal as a port of the wrapper, in order. -/
def ports (lang : Language) (board : Board) : List Port :=
  board.signals.map fun s => Port.ofWidth lang s.name s.direction s.width

/-- The single bits of all signals, in order. -/
def targets (lang : Language) (board : Board) : List Target :=
  board.signals.flatMap (BoardSignal.targets lang)

/-- Whether a bit of the given direction may be bound to the target of that name. -/
def accepts (board : Board) (lang : Language) (target : String) (direction : Direction) : Bool :=
  (board.targets lang).any fun t => t.name = target && t.direction = direction

end Board

end BoardBind
