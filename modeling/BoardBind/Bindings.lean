import BoardBind.Language
import BoardBind.Text.Lines
import BoardBind.Text.Match

/-! # Bindings read back from a wrapper

A generated wrapper is the record of which board signal each port bit is bound to. It is read
back line by line, one binding from a line at most.
-/

namespace BoardBind

open Text

/-- A port bit and the board signal it is bound to, both by name. -/
structure Binding where
  port : String
  signal : String
  deriving DecidableEq

namespace Vhdl

def isBindingChar (c : Char) : Bool :=
  c.isAlphanum || c = '_' || c = '(' || c = ')'

/-- The association `PORT => SIGNAL` on a line. -/
def association? (line : List Char) : Option Binding :=
  search (fun text => do
    let (port, text) ← run isBindingChar text
    let text ← literal [' ', '=', '>', ' '] text
    let (signal, _) ← run isBindingChar text
    return ⟨String.ofList port, String.ofList signal⟩) line

/-- The binding on a line; a port left open is not bound. -/
def binding? (line : List Char) : Option Binding :=
  (association? line).filter fun b => !sameIgnoringCase b.signal "open"

end Vhdl

namespace Verilog

/-- What the names of the internal signals start with, one for each port of the wrapped unit. -/
def internalMark : String := "_usr_"

def isBindingChar (c : Char) : Bool :=
  c.isAlphanum || c = '_' || c = '$' || c = '[' || c = ']'

/-- The assignment `assign _usr_PORT = SIGNAL;` to an input of the wrapped unit. -/
def inputBinding? (line : List Char) : Option Binding :=
  search (fun text => do
    let text ← literal ("assign ".toList ++ internalMark.toList) text
    let (port, text) ← run isBindingChar text
    let text ← literal [' ', '=', ' '] text
    let (signal, text) ← run isBindingChar text
    let _ ← literal [';'] text
    return ⟨String.ofList port, String.ofList signal⟩) line

/-- The assignment `assign SIGNAL = _usr_PORT;` from an output of the wrapped unit. -/
def outputBinding? (line : List Char) : Option Binding :=
  search (fun text => do
    let text ← literal "assign ".toList text
    let (signal, text) ← run isBindingChar text
    let text ← literal ([' ', '=', ' '] ++ internalMark.toList) text
    let (port, text) ← run isBindingChar text
    let _ ← literal [';'] text
    return ⟨String.ofList port, String.ofList signal⟩) line

def binding? (line : List Char) : Option Binding :=
  (inputBinding? line).or (outputBinding? line)

end Verilog

def Language.binding? : Language → List Char → Option Binding
  | .vhdl => Vhdl.binding?
  | .verilog => Verilog.binding?

/-- The bindings that a wrapper records, in order. -/
def readBindings (lang : Language) (text : List Char) : List Binding :=
  (lines text).filterMap lang.binding?

end BoardBind
