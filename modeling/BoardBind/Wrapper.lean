import BoardBind.Bindings
import BoardBind.Port
import BoardBind.Template.Marker

/-! # The code that fills a wrapper

A wrapper instantiates the top unit of a design and binds its port bits to the signals of a
board. Each marker of a template asks for one block of lines, which is written in the conventions
of the language.
-/

namespace BoardBind

/-- What a wrapper is made of. -/
structure Wrapper where
  language : Language
  /-- The wrapped unit as it is spelled in its source. -/
  unit : String
  /-- The ports of the wrapped unit. -/
  ports : List Port
  /-- The single bits of these ports with their bindings. -/
  bits : List PortBit
  /-- The targets driven to a constant level. -/
  defaults : List (String × Logic)
  /-- The signals of the board. -/
  board : List Port := []
  deriving DecidableEq

/-- Ends every line with a separator and the last one with `final`. -/
def separated (separator final : String) : List String → List String
  | [] => []
  | [line] => [line ++ final]
  | line :: next :: rest => (line ++ separator) :: separated separator final (next :: rest)

namespace Vhdl

def typeText (port : Port) : String :=
  match port.range with
  | some range => "std_logic_vector" ++ Port.rangeText .vhdl range
  | none => "std_logic"

def portText (port : Port) : String :=
  port.spelling ++ " : " ++ port.direction.display ++ " " ++ typeText port

/-- The port clause of the wrapper, absent on a board without signals. -/
def boardBlock (w : Wrapper) : List String :=
  if w.board.isEmpty then []
  else "    port (" :: separated ";" " );" (w.board.map fun port => "        " ++ portText port)

def componentBlock (w : Wrapper) : List String :=
  ["    component " ++ w.unit ++ " is"] ++
    (if w.ports.isEmpty then []
     else "        port (" ::
       separated ";" ");" (w.ports.map fun port => "            " ++ portText port)) ++
    ["    end component;"]

/-- The declarations of the signals around the unit under test. -/
def signalBlock (w : Wrapper) : List String :=
  w.ports.map fun port => "    signal " ++ port.spelling ++ " : " ++ typeText port ++ ";"

/-- What a bit is associated with: its board signal, the low level for an unbound input, and
nothing for an unbound output. -/
def source (bit : PortBit) : String :=
  if bit.isBound then bit.signal
  else match bit.direction with
    | .input => Language.vhdl.constant .low
    | .output => "open"

def associationText (bit : PortBit) : String :=
  "        " ++ bit.name ++ " => " ++ source bit

/-- A target driven to a constant level. -/
def defaultText (default : String × Logic) : String :=
  "    " ++ default.1 ++ " <= " ++ Language.vhdl.constant default.2 ++ ";"

/-- The instance of the wrapped unit, bound to the board, and the idle levels. -/
def instanceBlock (w : Wrapper) : List String :=
  ["    usr : " ++ w.unit ++ " port map ("] ++
    separated "," " );" (w.bits.map associationText) ++
    w.defaults.map defaultText

/-- The instance of the unit under test, every bit associated with the signal of its name. -/
def testBlock (w : Wrapper) : List String :=
  ("    uut : " ++ w.unit ++ " port map (") ::
    separated "," " );" (w.bits.map fun bit => "        " ++ bit.name ++ " => " ++ bit.name)

def block (w : Wrapper) : Marker → List String
  | .component => componentBlock w
  | .signal _ => signalBlock w
  | .unitInstance _ => instanceBlock w
  | .unitUnderTest => testBlock w
  | .board => boardBlock w
  | _ => []

end Vhdl

namespace Verilog

/-- What the names of signals start with under a marker. -/
def mark (marked : Bool) : String :=
  if marked then internalMark else ""

def signalText (marked : Bool) (port : Port) : String :=
  "logic " ++
    (match port.range with
     | some range => Port.rangeText .verilog range ++ " "
     | none => "") ++
    mark marked ++ port.spelling

def portText (port : Port) : String :=
  (match port.direction with
   | .input => "input "
   | .output => "output ") ++ signalText false port

def boardBlock (w : Wrapper) : List String :=
  separated "," "" (w.board.map fun port => "    " ++ portText port)

def signalBlock (w : Wrapper) (marked : Bool) : List String :=
  w.ports.map fun port => "    " ++ signalText marked port ++ ";"

/-- The connection of a port to the signal of its name. -/
def connectionText (marked : Bool) (port : Port) : String :=
  "        ." ++ port.spelling ++ "(" ++ mark marked ++ port.spelling ++ ")"

def instanceBlock (w : Wrapper) (label : String) (marked : Bool) : List String :=
  ("    " ++ w.unit ++ " " ++ label ++ " (") ::
    if w.ports.isEmpty then ["    );"]
    else separated "," ");" (w.ports.map (connectionText marked))

/-- The assignment between a bit and the board: an unbound input is tied to the low level, and an
unbound output is left alone. -/
def assignmentText? (bit : PortBit) : Option String :=
  match bit.direction with
  | .input =>
    some ("    assign " ++ internalMark ++ bit.name ++ " = " ++
      (if bit.isBound then bit.signal else Language.verilog.constant .low) ++ ";")
  | .output =>
    if bit.isBound then
      some ("    assign " ++ bit.signal ++ " = " ++ internalMark ++ bit.name ++ ";")
    else none

/-- A target driven to a constant level. -/
def defaultText (default : String × Logic) : String :=
  "    assign " ++ default.1 ++ " = " ++ Language.verilog.constant default.2 ++ ";"

/-- The assignments between the bits and the board, and the idle levels. -/
def assignmentBlock (w : Wrapper) : List String :=
  w.bits.filterMap assignmentText? ++ w.defaults.map defaultText

def block (w : Wrapper) : Marker → List String
  | .signal marked => signalBlock w marked
  | .unitInstance marked =>
    instanceBlock w "usr" marked ++ if marked then assignmentBlock w else []
  | .unitUnderTest => instanceBlock w "uut" false
  | .board => boardBlock w
  | _ => []

end Verilog

def Language.portText : Language → Port → String
  | .vhdl => Vhdl.portText
  | .verilog => Verilog.portText

/-- The block of lines that a marker asks for. -/
def Wrapper.block (w : Wrapper) : Marker → List String :=
  match w.language with
  | .vhdl => Vhdl.block w
  | .verilog => Verilog.block w

end BoardBind
