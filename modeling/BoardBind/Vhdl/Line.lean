import BoardBind.Port
import BoardBind.Text.Match

/-! # Constructs on a line of VHDL

The scanner looks for one construct of each kind on a line. A construct may start anywhere on the
line unless it is said to start it, keywords may be written in any case, and words are separated
by runs of blanks.
-/

namespace BoardBind.Vhdl

open Text

/-- A keyword, a blank-separated word, and another keyword behind it: the word and the rest. -/
def wordBetween (opening closing : String) (text : List Char) :
    Option (List Char × List Char) := do
  let text ← caseless opening.toList text
  let text ← blanks text
  let (name, text) ← word text
  let text ← blanks text
  let text ← caseless closing.toList text
  return (name, text)

/-- The code of a line: what stands before a comment. -/
def code (line : List Char) : List Char :=
  before ['-', '-'] line

/-- The name in `entity NAME is`. -/
def entityName? (line : List Char) : Option (List Char) :=
  (search (wordBetween "entity" "is") line).map Prod.fst

/-- The names in `architecture NAME of ENTITY is`. -/
def architectureNames? (line : List Char) : Option (List Char × List Char) :=
  search (fun text => do
    let (name, text) ← wordBetween "architecture" "of" text
    let text ← blanks text
    let (entity, text) ← word text
    let text ← blanks text
    let _ ← caseless ['i', 's'] text
    return (name, entity)) line

/-- The name in `component NAME is`. -/
def componentName? (line : List Char) : Option (List Char) :=
  (search (wordBetween "component" "is") line).map Prod.fst

/-- The last name in `LABEL : entity LIBRARY.NAME` or `LABEL : entity NAME`, which must start the
line. -/
def instanceName? (line : List Char) : Option (List Char) := do
  let (_, text) ← word (trimStart line)
  let text ← literal [':'] (trimStart text)
  let text ← caseless "entity".toList (trimStart text)
  let (first, text) ← word (← blanks text)
  let selected := do
    let text ← literal ['.'] text
    let (name, _) ← word text
    return name
  return selected.getD first

/-- Whether a line starts with the word `end`, then the given words, then a semicolon. -/
def endsWith (words : List (List Char)) (line : List Char) : Bool :=
  let matched := do
    let text ← caseless ['e', 'n', 'd'] (trimStart line)
    let text ← words.foldlM (fun text expected => do caseless expected (← blanks text)) text
    literal [';'] (trimStart text)
  matched.isSome

/-- Whether a line closes the unit `name`: `end`, the keyword or not, the name or not, and a
semicolon. -/
def closes (keyword : String) (name : String) (line : List Char) : Bool :=
  [[], [keyword.toList], [name.toList], [keyword.toList, name.toList]].any fun words =>
    endsWith words line

/-- Further names of a list, each behind a comma. -/
def moreNames : Nat → List Char → List (List Char) × List Char
  | 0, text => ([], text)
  | fuel + 1, text =>
    let next := do
      let text ← literal [','] (trimStart text)
      word (trimStart text)
    match next with
    | none => ([], text)
    | some (name, rest) =>
      let (names, rest) := moreNames fuel rest
      (name :: names, rest)

def nameList (text : List Char) : Option (List (List Char) × List Char) := do
  let (name, rest) ← word text
  let (names, rest) := moreNames rest.length rest
  return (name :: names, rest)

def mode (text : List Char) : Option (Direction × List Char) :=
  match caseless ['i', 'n'] text with
  | some rest => some (.input, rest)
  | none => (caseless ['o', 'u', 't'] text).map fun rest => (.output, rest)

/-- The range `_vector ( U downto L )` behind a scalar type, if both bounds are words. -/
def vectorRange? (text : List Char) : Option BitRange := do
  let text ← caseless "_vector".toList text
  let text ← literal ['('] (trimStart text)
  let (upper, text) ← run Char.isDigit (trimStart text)
  let text ← caseless "downto".toList (← blanks text)
  let (lower, text) ← run Char.isDigit (← blanks text)
  let _ ← literal [')'] (trimStart text)
  return BitRange.ofBounds (← word64? upper) (← word64? lower)

/-- The ports declared on a line: their names, mode and range. -/
structure PortLine where
  names : List (List Char)
  direction : Direction
  range : Option BitRange
  deriving DecidableEq

/-- The port declaration `NAMES : MODE std_logic` with an optional vector range. -/
def portLine? (line : List Char) : Option PortLine :=
  search (fun text => do
    let (names, text) ← nameList text
    let text ← literal [':'] (trimStart text)
    let (direction, text) ← mode (trimStart text)
    let text ← caseless "std_logic".toList (← blanks text)
    return { names, direction, range := vectorRange? text }) line

end BoardBind.Vhdl
