import BoardBind.Declarations
import BoardBind.Language.Identifier
import BoardBind.Text.Lines
import BoardBind.Text.Match

/-! # Module listings

The analysis tool for Verilog prints a listing of the modules it found, in a fixed layout: six
blanks before a module's name, ten before the names of its instances and ports, and twelve before
the direction and width of a port. Every line is told by its indentation and key; all other lines
are skipped. A port is complete when its width has been read.
-/

namespace BoardBind.Verilog

open Text

/-- The value of `key: "..."` at the given indentation, if the quotes hold an identifier. -/
def quotedName? (indent : Nat) (key : String) (line : List Char) : Option String := do
  let text ← literal (List.replicate indent ' ' ++ key.toList ++ [':', ' ', '"']) line
  let (name, rest) ← run Language.isVerilogChar text
  let _ ← literal ['"'] rest
  if Language.isVerilogIdentifier name then some (String.ofList name) else none

def moduleName? (line : List Char) : Option String :=
  quotedName? 6 "- mod_name" line

def instanceName? (line : List Char) : Option String :=
  quotedName? 10 "- mod_name" line

def portName? (line : List Char) : Option String :=
  quotedName? 10 "- port_name" line

def portDirection? (line : List Char) : Option Direction := do
  let text ← literal (List.replicate 12 ' ' ++ "port_dir: \"".toList) line
  if (literal "input\"".toList text).isSome then some .input
  else if (literal "output\"".toList text).isSome then some .output
  else none

/-- The digits of the width that a line gives to a port. -/
def portWidth? (line : List Char) : Option (List Char) := do
  let text ← literal (List.replicate 12 ' ' ++ "port_width: ".toList) line
  let (digits, _) ← run Char.isDigit text
  return digits

/-- What has been read between two lines of a listing. -/
structure ListingState where
  found : Declarations := {}
  /-- The current module, with no name before the first one. -/
  module : String := ""
  /-- The name of the latest port, empty before the first one. -/
  port : String := ""
  /-- The direction of the latest port, once it is known. -/
  direction : Option Direction := none
  /-- The number of widths read without the name or direction of their port. -/
  skipped : Nat := 0
  deriving DecidableEq

namespace ListingState

/-- A width completes the latest port; one beyond 64 bits is passed over. -/
def readWidth (digits : List Char) (s : ListingState) : ListingState :=
  match word64? digits with
  | none => s
  | some width =>
    match s.direction with
    | some direction =>
      if s.port = "" then { s with skipped := s.skipped + 1 }
      else { s with found := s.found.addPort s.module (.ofWidth .verilog s.port direction width) }
    | none => { s with skipped := s.skipped + 1 }

def step (file : String) (s : ListingState) (line : List Char) : ListingState :=
  match moduleName? line with
  | some name =>
    { s with found := s.found.addUnit (.declare .verilog name file), module := name }
  | none =>
  match instanceName? line with
  | some name => { s with found := s.found.addInstance ⟨name, s.module⟩ }
  | none =>
  match portName? line with
  | some name => { s with port := name, direction := none }
  | none =>
  match portDirection? line with
  | some direction => { s with direction := some direction }
  | none =>
  match portWidth? line with
  | some digits => s.readWidth digits
  | none => s

end ListingState

def readListingLines (file : String) (lines : List (List Char)) (s : ListingState) : ListingState :=
  lines.foldl (ListingState.step file) s

/-- The declarations that a listing reports for a source file. -/
def readListing (listing : String) (file : String) : ListingState :=
  readListingLines file (lines listing.toList) {}

end BoardBind.Verilog
