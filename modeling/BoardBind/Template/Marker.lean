import BoardBind.Text.Encoding
import BoardBind.Text.Lines
import BoardBind.Text.Match

/-! # Markers in templates

A template is source code in which comment lines mark the places to fill. A marker line starts
with the language's comment token, one blank and a keyword; anything may follow.
-/

namespace BoardBind

open Text

/-- What a marker line asks for. -/
inductive Marker where
  /-- Declare the wrapped unit. -/
  | component
  /-- Declare the signals around the wrapped unit. -/
  | signal (marked : Bool)
  /-- Instantiate the wrapped unit and bind it. -/
  | unitInstance (marked : Bool)
  /-- Instantiate the unit under test. -/
  | unitUnderTest
  /-- Declare the ports of a new unit. -/
  | port
  /-- Declare the signals of the board. -/
  | board
  /-- Start a preserved region. -/
  | regionBegin
  /-- End a preserved region. -/
  | regionEnd
  deriving DecidableEq

namespace Marker

/-- The keywords and what they ask for; the first one that fits counts. -/
def keywords : List (String × Marker) :=
  [("USER_COMPONENT", .component),
   ("USER_SIGNAL_PREFIX", .signal true),
   ("USER_SIGNAL", .signal false),
   ("USER_INSTANCE_PREFIX", .unitInstance true),
   ("USER_INSTANCE", .unitInstance false),
   ("USER_UUT", .unitUnderTest),
   ("USER_PORT", .port),
   ("USER_BOARD", .board),
   ("vvv", .regionBegin),
   ("^^^", .regionEnd)]

/-- The marker whose keyword a text starts with. -/
def ofKeyword? (text : List Char) : Option Marker :=
  (keywords.find? fun entry => (literal entry.1.toList text).isSome).map Prod.snd

def ofLine? (comment : String) (line : List Char) : Option Marker := do
  let text ← literal (comment.toList ++ [' ']) line
  ofKeyword? text

end Marker

/-! ## Preserved regions

What stands between the marker lines `vvv` and `^^^` of a generated file belongs to its owner and
is carried over when the file is generated again. In an existing file a marker may be indented
and written in either comment style. A region without an end runs to the next begin or to the end
of the file.
-/

/-- Whether a line of an existing file is a marker with the given keyword. -/
def isRegionMarker (keyword : String) (line : List Char) : Bool :=
  let text := trimStart line
  (literal ("-- ".toList ++ keyword.toList) text).isSome ||
    (literal ("// ".toList ++ keyword.toList) text).isSome

/-- Regions found so far, and the lines of the open one. -/
structure RegionReader where
  closed : List (List String) := []
  current : Option (List String) := none
  deriving DecidableEq

namespace RegionReader

/-- The regions found, the open one included. -/
def regions (r : RegionReader) : List (List String) :=
  r.closed ++ r.current.toList

/-- Reads one line; an end outside of all regions is passed over. -/
def step (r : RegionReader) (line : List Char) : RegionReader :=
  if isRegionMarker "^^^" line then { closed := r.regions, current := none }
  else if isRegionMarker "vvv" line then { closed := r.regions, current := some [] }
  else { r with current := r.current.map fun kept => kept ++ [String.ofList (toAscii line)] }

end RegionReader

/-- The lines of every preserved region of a text, in order. -/
def regionLines (text : List Char) : List (List String) :=
  ((lines text).foldl RegionReader.step {}).regions

/-- The preserved regions of a text, each as a text of its own. -/
def regions (text : List Char) : List String :=
  (regionLines text).map unlines

end BoardBind
