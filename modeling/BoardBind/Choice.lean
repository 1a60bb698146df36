import BoardBind.Text.Quoted

/-! # Words that name one of a few choices -/

namespace BoardBind

open Text

/-- A word that names none of the choices offered in its place. -/
inductive UnknownChoice where
  | language (given : String)
  | direction (given : String)
  | colourMode (given : String)
  | topic (given : String)
  deriving DecidableEq

def UnknownChoice.message : UnknownChoice → String
  | .language given => "unknown language " ++ quoted given ++ ": expecting 'vhdl' or 'verilog'"
  | .direction given => "unknown port direction " ++ quoted given
  | .colourMode given =>
    "unknown color mode " ++ quoted given ++ ": expecting 'auto', 'always', or 'never'"
  | .topic given => "no help topic named " ++ quoted given

/-- When output is coloured. -/
inductive ColourMode where
  | always
  | never
  | auto
  deriving DecidableEq

def ColourMode.ofName (name : String) : Except UnknownChoice ColourMode :=
  if name = "always" then .ok .always
  else if name = "never" then .ok .never
  else if name = "auto" then .ok .auto
  else .error (.colourMode name)

end BoardBind
