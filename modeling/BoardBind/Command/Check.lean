import BoardBind.Command.Manual
import BoardBind.Command.Resolve
import BoardBind.Report
import BoardBind.TreeDrawing

/-! # Printing the design hierarchy

The command analyses the sources and prints the instantiation trees, then every bit of the top
unit's ports with its board signal. It writes nothing.
-/

namespace BoardBind.Command

open Text

/-- The choices made for a run of the command. -/
structure Check where
  directory : Option Path
  language : Option Language
  top : Option String
  ascii : Bool
  json : Bool
  deriving DecidableEq

def readLanguage (value : String) : Except String Language :=
  (Language.ofName value).mapError UnknownChoice.message

def readPath (value : String) : Except String Path :=
  .ok ⟨value⟩

namespace Check

def reading : Reading Check := do
  askHelp (unlines checkUsage)
  let ascii ← flag "ascii"
  let json ← flag "json"
  let directory ← option "dir" "path" readPath
  let language ← option "lang" "lang" readLanguage
  let top ← option "top" "unit" anyText
  return { directory, language, top, ascii, json }

/-- The line of an item, behind the prefix that draws its place in the tree. -/
def treeLine (colours ascii : Bool) (s : Selection) (item : MarkedItem) (twig : Twig) : String :=
  let name := ((s.design.unit? item.name).map (·.unit.spelling)).getD item.name
  (if ascii then Twig.plain twig.draw else twig.draw) ++
    if item.isTop then paint colours .greenBold name else name

def treeLines (colours ascii : Bool) (s : Selection) : List String :=
  List.zipWith (treeLine colours ascii s) s.items (Twig.shapes (s.items.map (·.level)))

def column (width : Nat) (text : String) : String :=
  text ++ String.ofList (List.replicate (width - text.length) ' ')

def row (name direction signal : String) : String :=
  column 24 name ++ column 6 direction ++ signal

/-- Lists the bits of the top unit with their signals. -/
def bitLines (s : Selection) : List String :=
  (s.unit?.toList.map fun u => "Top: " ++ u.spelling ++ " (" ++ u.file ++ ")") ++
    [row "Port" "Dir" "Signal", String.ofList (List.replicate 38 '-')] ++
    s.bits.map fun bit =>
      row bit.name bit.direction.display (if bit.isBound then bit.signal else "-")

/-- Warns of every target bound more than once. -/
def conflictLines (colours : Bool) (table : AssignmentTable) : List String :=
  table.conflicts.map fun entry =>
    paint colours .yellow "warning" ++ ": board signal " ++ entry.target.name ++
      " is assigned to " ++ ", ".intercalate entry.ports

def report (s : Selection) : Report :=
  .record [
    ("language", .text s.design.language.key),
    ("top", .text s.top),
    ("suggested", .text s.design.suggested),
    ("hierarchy", .list (s.items.map fun item => .record [
      ("level", .number item.level),
      ("name", .text item.name),
      ("source_file", .text item.file),
      ("is_top", .truth item.isTop)])),
    ("ports", .list (s.bits.map fun bit => .record [
      ("name", .text bit.name),
      ("direction", .text bit.direction.display),
      ("assigned", .text bit.signal)]))]

end Check

/-- The warnings about bits bound to names that the board does not have. -/
def strayNotes (board : Board) (lang : Language) (bits : List PortBit) : List Note :=
  (board.strayBits lang bits).map fun bit =>
    .warn ("port " ++ bit.name ++ " is bound to unknown board signal " ++ bit.signal)

namespace Check

/-- What the command prints and notes for a bound design. -/
def display (c : Check) (colours : Bool) (board : Board) (s : Selection) : String × List Note :=
  if c.json then ((report s).pretty "" ++ "\n", [])
  else
    (unlines (treeLines colours c.ascii s ++ [""] ++ bitLines s ++
      conflictLines colours (s.table board)),
     strayNotes board s.design.language s.bits)

def run (c : Check) (host : Host) : Outcome :=
  let (disk, prepared) := prepare host c.directory c.language c.top
  match prepared.result with
  | .error failure => { disk, notes := prepared.notes, failure := some failure }
  | .ok (settings, s) =>
    let (printed, notes) := c.display host.colours settings.board s
    { disk, printed, notes := prepared.notes ++ notes }

end Check

end BoardBind.Command
