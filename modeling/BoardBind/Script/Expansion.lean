import BoardBind.Script.Pattern
import BoardBind.Script.Shell

/-! # Expansion of words

When a command is carried out, values take the place of parameters, output that of commands and
numbers that of arithmetic expressions. What this brings in outside of quotes is cut into fields at
the separators, and fields that are patterns become the names of the files they match.
-/

namespace BoardBind.Script

/-- A mark of an expanded word. -/
inductive Mark where
  | char (c : Char) (isQuoted splits : Bool)
  /-- There is a field here even if it is empty. -/
  | quotes
  /-- A field ends here. -/
  | boundary
  deriving DecidableEq

/-- A text as marks; outside of quotes its separators split. -/
def marks (isQuoted : Bool) (text : List Char) : List Mark :=
  text.map fun c => .char c isQuoted (!isQuoted)

def textOf (expanded : List Mark) : List Char :=
  expanded.filterMap fun
    | .char c _ _ => some c
    | .quotes => none
    | .boundary => some ' '

def markedOf (expanded : List Mark) : List Marked :=
  expanded.filterMap fun
    | .char c isQuoted _ => some (c, isQuoted)
    | _ => none

/-- The marks of a word that stands for a value: outside of quotes its separators split. -/
def asValue (isQuoted : Bool) (expanded : List Mark) : List Mark :=
  if isQuoted then expanded
  else
    expanded.map fun
      | .char c inQuotes _ => .char c inQuotes (!inQuotes)
      | other => other

/-- The marks of all arguments. In quotes each of them is a field of its own. -/
def argumentMarks (isQuoted : Bool) (arguments : List (List Char)) : List Mark :=
  [Mark.boundary].intercalate (arguments.map fun a =>
    if isQuoted then .quotes :: marks true a else marks false a)

/-- Drops line ends at the end of a text. -/
def withoutLastNewlines (text : List Char) : List Char :=
  (text.reverse.dropWhile (· = '\n')).reverse

/-- How the output of commands is obtained. -/
abbrev Substitution := List Command → State → State × List Char

/-- Ends the shell because a parameter has no value. -/
def faultOfMissing (s : State) (name : List Char) : State :=
  s.fault (name ++ ": parameter not set".toList)

/-- The value of a parameter, where a missing one may be a fault. -/
def knownValue (s : State) (name : List Char) : Option (List Char) :=
  match s.parameter? name with
  | some value => some value
  | none => if s.hasFlag 'u' then none else some []

def valueMarks (s : State) (name : List Char) (isQuoted : Bool) : State × List Mark :=
  match knownValue s name with
  | some value => (s, marks isQuoted value)
  | none => (faultOfMissing s name, [])

def isOfAll (name : List Char) : Bool :=
  name = ['@'] || name = ['*']

/-- Whether a parameter stands for arguments that stay apart: they do where a word is cut into
fields, except for those that quotes join. -/
def staysApart (name : List Char) (isCut isQuoted : Bool) : Bool :=
  isCut && (name = ['@'] || (name = ['*'] && !isQuoted))

/-- What is missing for a change: the value of a parameter, or one that is not empty. All arguments
are empty if they and what separates them are. -/
def isMissing (s : State) (name : List Char) (isCut isQuoted emptyToo : Bool) : Bool :=
  let value :=
    if staysApart name isCut isQuoted then some ([' '].intercalate s.shell.arguments)
    else if isOfAll name then some s.allArguments
    else s.parameter? name
  match value with
  | none => true
  | some [] => emptyToo
  | some _ => false

def plainMarks (s : State) (name : List Char) (isCut isQuoted : Bool) : State × List Mark :=
  if staysApart name isCut isQuoted then (s, argumentMarks isQuoted s.shell.arguments)
  else if isOfAll name then (s, marks isQuoted s.allArguments)
  else valueMarks s name isQuoted

/-- The marks of a parameter of which a part is dropped: `whole` drops it from a value, `apart` from
arguments that stay apart. -/
def trimmedMarks (s : State) (name : List Char) (isCut isQuoted : Bool)
    (whole : List Char → List Char) (apart : List (List Char) → List (List Char)) : List Mark :=
  if staysApart name isCut isQuoted then argumentMarks isQuoted (apart s.shell.arguments)
  else if isOfAll name then marks isQuoted (whole s.allArguments)
  else marks isQuoted (whole ((s.parameter? name).getD []))

/-- Where the directory of a user is put in place of a tilde. -/
inductive TildeRule where
  | nowhere
  | atStart
  /-- At the start and behind colons. -/
  | behindColons
  deriving DecidableEq

/-- The directory of a user; no name means the one who runs the shell. -/
def homeOf? (s : State) (name : List Char) : Option (List Char) :=
  match String.ofList name with
  | "" => s.valueOf? "HOME"
  | "root" => some "/root".toList
  | "nobody" => some "/nonexistent".toList
  | _ => none

/-- The characters of a word that stand for themselves, as far as they go. -/
def literalRun : List Mark → List Char
  | .char c false false :: rest => c :: literalRun rest
  | _ => []

/-- Puts the directory of a user in place of a tilde at the start of a word. The name of the user
goes up to a slash or the end of the word, and up to a colon where these count. -/
def tildeStart (s : State) (hasColons : Bool) (expanded : List Mark) : List Mark :=
  match expanded with
  | .char '~' false false :: rest =>
    let name := (literalRun rest).takeWhile fun c => c ≠ '/' && !(hasColons && c = ':')
    let behind := rest.drop name.length
    let isWhole := match behind with
      | [] => true
      | .char c false false :: _ => c = '/' || (hasColons && c = ':')
      | _ => false
    match isWhole, homeOf? s name with
    | true, some home => marks true home ++ behind
    | _, _ => expanded
  | _ => expanded

/-- Puts the directories of users in place of tildes behind the colons of a word. -/
def tildeColons (s : State) : List Mark → List Mark
  | [] => []
  | .char ':' false false :: rest =>
    .char ':' false false :: tildeStart s true (tildeColons s rest)
  | mark :: rest => mark :: tildeColons s rest

/-- Puts the directories of users in place of tildes, where a rule says. -/
def TildeRule.apply (s : State) (expanded : List Mark) : TildeRule → List Mark
  | .nowhere => expanded
  | .atStart => tildeStart s false expanded
  | .behindColons => tildeStart s true (tildeColons s expanded)

/-- Assigns the numbers of an arithmetic expression, the first one last in the list. -/
def assignNumbers (s : State) (numbers : List (List Char × Int)) : State :=
  numbers.foldr (fun (name, n) s => s.assign name (toString n).toList) s

/-- Evaluates an arithmetic expression. A fault in it ends the shell. -/
def evaluateText (s : State) (text : List Char) : State × List Char :=
  match Arithmetic.evaluate (fun name => (s.parameter? name).getD []) text with
  | .ok (n, numbers) => (assignNumbers s numbers, (toString n).toList)
  | .error reason => (s.fault (reason.message text), [])

mutual

/-- Expands a piece of a word; `isCut` is whether that word is then cut into fields. -/
def expandPiece (substitute : Substitution) (isCut : Bool) : Piece → State → State × List Mark
  | .char c isQuoted, s => (s, [.char c isQuoted false])
  | .quotes, s => (s, [.quotes])
  | .output body isQuoted, s =>
    let (s, text) := substitute body s
    (s, marks isQuoted (withoutLastNewlines text))
  | .arithmetic expression isQuoted, s =>
    let (s, expanded) := expandWord substitute false expression s
    if s.isStopped then (s, [])
    else
      let (s, text) := evaluateText s (textOf expanded)
      (s, marks isQuoted text)
  | .parameter name change word isQuoted, s =>
    match change with
    | .plain => plainMarks s name isCut isQuoted
    | .length =>
      if isOfAll name then
        (s, marks isQuoted (State.digits s.allArguments.length))
      else
        match knownValue s name with
        | some value => (s, marks isQuoted (State.digits value.length))
        | none => (faultOfMissing s name, [])
    | .useDefault emptyToo =>
      if isMissing s name isCut isQuoted emptyToo then
        let (s, expanded) := expandWord substitute isCut word s
        (s, asValue isQuoted (tildeStart s false expanded))
      else plainMarks s name isCut isQuoted
    | .useAlternative emptyToo =>
      if isMissing s name isCut isQuoted emptyToo then (s, [])
      else
        let (s, expanded) := expandWord substitute isCut word s
        (s, asValue isQuoted (tildeStart s false expanded))
    | .assignDefault emptyToo =>
      if isMissing s name isCut isQuoted emptyToo then
        if !isName name then (s.fault (name ++ ": bad variable name".toList), [])
        else
          let (s, expanded) := expandWord substitute false word s
          let value := textOf (tildeStart s false expanded)
          (s.assign name value, marks isQuoted value)
      else plainMarks s name isCut isQuoted
    | .demand emptyToo =>
      if !isMissing s name isCut isQuoted emptyToo then plainMarks s name isCut isQuoted
      else if word.isEmpty then
        let ending := if emptyToo then " or null" else ""
        (s.fault (name ++ (": parameter not set" ++ ending).toList), [])
      else
        let (s, expanded) := expandWord substitute false word s
        (if s.isStopped then s else s.fault (name ++ ": ".toList ++ textOf expanded), [])
    | .dropFront longest =>
      if !isOfAll name && (s.parameter? name).isNone then valueMarks s name isQuoted
      else
        let (s, expanded) := expandWord substitute false word s
        let pattern := Pattern.ofMarked (markedOf (tildeStart s false expanded))
        (s, trimmedMarks s name isCut isQuoted (pattern.dropFront longest)
          (pattern.dropFrontOfAll longest))
    | .dropBack longest =>
      if !isOfAll name && (s.parameter? name).isNone then valueMarks s name isQuoted
      else
        let (s, expanded) := expandWord substitute false word s
        let pattern := Pattern.ofMarked (markedOf (tildeStart s false expanded))
        (s, trimmedMarks s name isCut isQuoted (pattern.dropBack longest)
          (pattern.dropBackOfAll longest))
    | .unknown => (s.fault "Bad substitution".toList, [])

def expandWord (substitute : Substitution) (isCut : Bool) : List Piece → State → State × List Mark
  | [], s => (s, [])
  | piece :: rest, s =>
    let (s, first) := expandPiece substitute isCut piece s
    if s.isStopped then (s, [])
    else
      let (s, more) := expandWord substitute isCut rest s
      (s, first ++ more)

end

/-- The cutting of a word into fields: the complete fields, the last first, the field that is open,
its last character first, and whether blanks have just ended a field. -/
structure Cutting where
  fields : List (List Marked) := []
  current : Option (List Marked) := none
  isBehindBlank : Bool := false

namespace Cutting

def close (p : Cutting) : Cutting :=
  match p.current with
  | some field => { fields := field.reverse :: p.fields }
  | none => { p with isBehindBlank := false }

/-- Takes the next mark. Blanks that separate go together, and with one other separator; any other
separator ends a field even if that is empty. -/
def step (separators : List Char) (p : Cutting) : Mark → Cutting
  | .quotes => { p with current := some (p.current.getD []), isBehindBlank := false }
  | .boundary => p.close
  | .char c isQuoted splits =>
    if splits && separators.contains c then
      if c = ' ' || c = '\t' || c = '\n' then
        if p.current.isSome then { p.close with isBehindBlank := true } else p
      else if p.isBehindBlank then { p with isBehindBlank := false }
      else close { p with current := some (p.current.getD []) }
    else { p with current := some ((c, isQuoted) :: p.current.getD []), isBehindBlank := false }

end Cutting

def fieldsOf (separators : List Char) (expanded : List Mark) : List (List Marked) :=
  (expanded.foldl (Cutting.step separators) {}).close.fields.reverse

/-- The paths that a pattern leads to, name by name, from the path before it. -/
def matchingPaths (s : State) : List (List Marked) → List Char → List (List Char)
  | [], path => [path]
  | component :: rest, path =>
    let pattern := Pattern.ofMarked component
    let ending := if rest = [] then [] else ['/']
    if !pattern.isWild then
      let next := path ++ component.map (·.1)
      if component = [] || s.world.disk.hasEntry (s.path next) then
        matchingPaths s rest (next ++ ending)
      else []
    else
      match s.world.disk.find (s.path (if path = [] then ['.'] else path)) with
      | .ok (place, .directory) =>
        let showsHidden := component.head?.map (·.1) = some '.'
        let own := if showsHidden then [['.'], ['.', '.']] else []
        let names := (own ++ namesAt s.world.disk place).filter fun name =>
          pattern.accepts name && (name.head? ≠ some '.' || showsHidden)
        names.flatMap fun name =>
          let next := path ++ name
          if rest = [] || s.world.disk.hasDirectory (s.path next) then
            matchingPaths s rest (next ++ ending)
          else []
      | _ => []

def componentsOf : List Marked → List (List Marked)
  | [] => [[]]
  | (c, isQuoted) :: rest =>
    match componentsOf rest with
    | [] => [[(c, isQuoted)]]
    | first :: more => if c = '/' then [] :: first :: more else ((c, isQuoted) :: first) :: more

/-- The names of files that a field stands for, or the field itself. -/
def fileNames (s : State) (field : List Marked) : List (List Char) :=
  let plain := field.map (·.1)
  if s.hasFlag 'f' || !(Pattern.ofMarked field).isWild then [plain]
  else
    match matchingPaths s (componentsOf field) [] with
    | [] => [plain]
    | found => found.mergeSort fun a b => !decide (b < a)

def expandFields (substitute : Substitution) (w : Word) (s : State) : State × List (List Char) :=
  let (s, expanded) := expandWord substitute true w s
  (s, (fieldsOf s.separators (tildeStart s false expanded)).flatMap (fileNames s))

def expandAll (substitute : Substitution) : List Word → State → State × List (List Char)
  | [], s => (s, [])
  | w :: rest, s =>
    let (s, first) := expandFields substitute w s
    if s.isStopped then (s, [])
    else
      let (s, more) := expandAll substitute rest s
      (s, first ++ more)

def expandText (substitute : Substitution) (rule : TildeRule) (w : Word) (s : State) :
    State × List Char :=
  let (s, expanded) := expandWord substitute false w s
  (s, textOf (rule.apply s expanded))

end BoardBind.Script
