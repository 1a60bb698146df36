import BoardBind.Choice

/-! # Hardware description languages

The two languages a design may be written in, with the conventions in which they differ: letter
case of names, bit selection, comments, file extensions, constants and words for a design unit.
-/

namespace BoardBind

/-- The language of a design's sources. -/
inductive Language where
  | vhdl
  | verilog
  deriving DecidableEq

/-- A constant level of a single bit. -/
inductive Logic where
  | low
  | high
  deriving DecidableEq

def Logic.digit : Logic → String
  | .low => "0"
  | .high => "1"

namespace Language

/-- Reads the name of a language in any letter case. -/
def ofName (name : String) : Except UnknownChoice Language :=
  let lower := name.toLower
  if lower ∈ ["vhdl", "vhd"] then .ok .vhdl
  else if lower ∈ ["verilog", "systemverilog", "verilog/systemverilog", "sv", "v"] then .ok .verilog
  else .error (.language name)

def display : Language → String
  | .vhdl => "VHDL"
  | .verilog => "Verilog/SystemVerilog"

def key : Language → String
  | .vhdl => "vhdl"
  | .verilog => "verilog"

/-- Folds a name onto the representative of its spellings: letter case matters in Verilog only. -/
def fold : Language → String → String
  | .vhdl, name => name.toLower
  | .verilog, name => name

/-- The name of bit `i` of the vector `base`. -/
def index : Language → String → Nat → String
  | .vhdl, base, i => base ++ "(" ++ toString i ++ ")"
  | .verilog, base, i => base ++ "[" ++ toString i ++ "]"

/-- The token that starts a line comment. -/
def comment : Language → String
  | .vhdl => "--"
  | .verilog => "//"

def unitTerm : Language → String
  | .vhdl => "entity"
  | .verilog => "module"

def extensions : Language → List String
  | .vhdl => ["vhd", "vhdl"]
  | .verilog => ["v", "sv"]

def defaultExtension : Language → String
  | .vhdl => "vhdl"
  | .verilog => "sv"

/-- A constant level as it is written in source code. -/
def constant : Language → Logic → String
  | .vhdl, .low => "'0'"
  | .vhdl, .high => "'1'"
  | .verilog, .low => "1'b0"
  | .verilog, .high => "1'b1"

def portSeparator : Language → String
  | .vhdl => ";"
  | .verilog => ","

/-- Whether a file name has an extension of the language, in any letter case. -/
def isSourceName (lang : Language) (name : String) : Bool :=
  lang.extensions.any fun extension =>
    ("." ++ extension).toList.isSuffixOf name.toLower.toList

end Language

end BoardBind
