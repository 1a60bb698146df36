import BoardBind.Text.Sentence

/-! # Reading command-line arguments

Arguments are first sorted into options, switches and free arguments. A command then asks for
what it knows, in a fixed order of stages: flags, options, positional arguments. Whatever was asked
for is taken out and leaves its place empty, so that an option never takes a value from behind an
argument taken earlier. Nothing may be left at the end; if the first option left is spelled much
like a known one, that is what is reported. Once help has been asked for, every failure and also
success end in the help text.
-/

namespace BoardBind.Command

open Text

/-- A sorted argument. -/
inductive Argument where
  /-- The name of a long option, without its dashes. -/
  | long (name : String)
  /-- A letter behind a single dash. -/
  | switch (letter : Char)
  /-- The value behind the equals sign of the option in front. -/
  | attached (value : String)
  /-- An argument that is no option. -/
  | free (value : String)
  /-- A dash alone, which is a switch without a letter. -/
  | dash
  /-- An argument that no command asks for: two dashes and all behind these. -/
  | unclaimed
  deriving DecidableEq

/-- The name of an option and the value attached to it. -/
def splitValue (text : List Char) : List Char × List Argument :=
  match text.dropWhile (· ≠ '=') with
  | [] => (text, [])
  | _ :: value => (text.takeWhile (· ≠ '='), [.attached (String.ofList value)])

/-- Sorts one argument in front of others. -/
def sortArgument (text : List Char) : List Argument :=
  match text with
  | '-' :: '-' :: body =>
    let (name, value) := splitValue body
    .long (String.ofList name) :: value
  | '-' :: body =>
    let (letters, value) := splitValue body
    if letters = [] then .dash :: value else letters.map .switch ++ value
  | text => [.free (String.ofList text)]

/-- Whether an argument is two dashes, perhaps with a value attached to them. -/
def endsOptions (text : List Char) : Bool :=
  match text with
  | '-' :: '-' :: body => (splitValue body).1 = []
  | _ => false

/-- Sorts arguments; those from two dashes on are never claimed. -/
def sortArguments : List String → List Argument
  | [] => []
  | first :: rest =>
    if endsOptions first.toList then List.replicate (rest.length + 1) .unclaimed
    else sortArgument first.toList ++ sortArguments rest

/-- Why arguments were refused. -/
inductive UsageError where
  | help (text : String)
  /-- A value that could not be read; `argument` is the form of the argument. -/
  | badValue (argument value reason : String)
  | repeatedOption
  | missingValue
  | missingPositional
  | unexpectedArgument
  /-- An unknown option that is spelled much like a known one. -/
  | misspelledOption
  | unexpectedValue
  /-- A command asked for an argument of a stage that it had passed already. -/
  | outOfOrder
  deriving DecidableEq

def UsageError.message? (colours : Bool) : UsageError → Option String
  | .help text => some text
  | .badValue argument value reason =>
    some ("argument \"" ++ paint colours .blue argument ++ "\" failed to process value \"" ++
      paint colours .yellow value ++ "\": " ++ lowerFirst reason)
  | _ => none

/-- The stages in which a command asks for its arguments. -/
inductive Stage where
  | flags
  | options
  | positionals
  deriving DecidableEq

def Stage.rank : Stage → Nat
  | .flags => 0
  | .options => 1
  | .positionals => 2

/-- What is left of the arguments while a command asks for them. -/
structure Pending where
  /-- The arguments at their places; a place is empty once its argument was taken. -/
  places : List (Option Argument)
  stage : Stage := .flags
  /-- The names of the flags and options asked for. -/
  known : List String := []
  /-- The help text, once help has been asked for. -/
  help : Option String := none
  deriving DecidableEq

namespace Pending

/-- Whether a name is at most one letter away from a known one. A name outside of ASCII counts as
close to every known one. -/
def isClose (p : Pending) (name : String) : Bool :=
  p.known.any fun known =>
    name.toList.any (fun c => 128 ≤ c.toNat) || distance name.toList known.toList ≤ 1

/-- The first option or switch that was not taken. -/
def firstLeft? (p : Pending) : Option Argument :=
  (p.places.filterMap id).find? fun
    | .long _ => true
    | .switch _ => true
    | .dash => true
    | _ => false

/-- Whether the first option that was not taken is spelled much like a known one. -/
def isMisspelled (p : Pending) : Bool :=
  match p.firstLeft? with
  | some (.long name) => p.isClose name
  | _ => false

/-- Whether some option that was not taken is spelled much like a known one. -/
def hasMisspelled (p : Pending) : Bool :=
  (p.places.filterMap id).any fun
    | .long name => p.isClose name
    | _ => false

/-- Why the arguments that are left are refused, if there are any. -/
def leftover? (p : Pending) : Option UsageError :=
  if p.isMisspelled then some .misspelledOption
  else if p.places.any Option.isSome then some .unexpectedArgument
  else none

end Pending

abbrev Reading := StateT Pending (Except UsageError)

/-- Fails, with the help text if help has been asked for. -/
def refuse {α : Type} (e : UsageError) : Reading α := do
  match (← get).help with
  | some text => throw (.help text)
  | none => throw e

/-- Enters a stage; an earlier one cannot be entered again. -/
def enter (stage : Stage) : Reading Unit := do
  let p ← get
  if stage.rank < p.stage.rank then throw .outOfOrder
  set { p with stage }

/-- Takes every flag of a name out, with the values attached to them. -/
def takeFlags (isFlag : Argument → Bool) :
    List (Option Argument) → List (Option String) × List (Option Argument)
  | [] => ([], [])
  | some first :: some (.attached value) :: rest =>
    let (found, others) := takeFlags isFlag rest
    if isFlag first then (some value :: found, none :: none :: others)
    else (found, some first :: some (.attached value) :: others)
  | some first :: rest =>
    let (found, others) := takeFlags isFlag rest
    if isFlag first then (none :: found, none :: others) else (found, some first :: others)
  | none :: rest =>
    let (found, others) := takeFlags isFlag rest
    (found, none :: others)

/-- Takes every option of a name out, each with the value attached to it or else the free argument
at the next place. -/
def takeOptions (name : String) :
    List (Option Argument) → List (Option String) × List (Option Argument)
  | [] => ([], [])
  | some (.long n) :: some (.attached value) :: rest =>
    let (found, others) := takeOptions name rest
    if n = name then (some value :: found, none :: none :: others)
    else (found, some (.long n) :: some (.attached value) :: others)
  | some (.long n) :: some (.free value) :: rest =>
    let (found, others) := takeOptions name rest
    if n = name then (some value :: found, none :: none :: others)
    else (found, some (.long n) :: some (.free value) :: others)
  | some (.long n) :: rest =>
    let (found, others) := takeOptions name rest
    if n = name then (none :: found, none :: others) else (found, some (.long n) :: others)
  | first :: rest =>
    let (found, others) := takeOptions name rest
    (found, first :: others)

def takeFree : List (Option Argument) → Option (String × List (Option Argument))
  | [] => none
  | some (.free value) :: rest => some (value, none :: rest)
  | first :: rest => (takeFree rest).map fun (value, others) => (value, first :: others)

def flag (name : String) : Reading Bool := do
  enter .flags
  let p ← get
  let (found, others) := takeFlags (· = .long name) p.places
  set { p with places := others, known := name :: p.known }
  if found.any Option.isSome then refuse .unexpectedValue
  else if 1 < found.length then refuse .repeatedOption
  else return found ≠ []

/-- Asks for help under its long name or its letter. Like any flag it may be given once; repeating
it fails at once, and as help has been asked for by then, the failure is the help text. -/
def askHelp (text : String) : Reading Unit := do
  let isHelp := fun a : Argument => a = .long "help" || a = .switch 'h'
  enter .flags
  let p ← get
  let (found, others) := takeFlags isHelp p.places
  if found.any Option.isSome then throw .unexpectedValue
  set { p with
    places := others
    known := "help" :: p.known
    help := if found = [] then none else some text }
  if 1 < found.length then refuse .repeatedOption

def valuesOf (name : String) : Reading (List (Option String)) := do
  enter .options
  let p ← get
  let (found, others) := takeOptions name p.places
  set { p with places := others, known := name :: p.known }
  return found

def readOption {α : Type} (name value : String) (read : String → Except String α) :
    Option String → Reading α
  | none => refuse .missingValue
  | some given =>
    match read given with
    | .ok a => return a
    | .error reason => refuse (.badValue ("--" ++ name ++ " <" ++ value ++ ">") given reason)

def options {α : Type} (name value : String) (read : String → Except String α) :
    Reading (List α) := do
  (← valuesOf name).mapM (readOption name value read)

/-- Asks for the value of an option that may be given once. -/
def option {α : Type} (name value : String) (read : String → Except String α) :
    Reading (Option α) := do
  match ← valuesOf name with
  | [] => return none
  | [given] => return some (← readOption name value read given)
  | _ => refuse .repeatedOption

/-- Asks for a positional argument that may be missing. A misspelled option is reported before a
value that cannot be read. -/
def positional {α : Type} (name : String) (read : String → Except String α) :
    Reading (Option α) := do
  enter .positionals
  let p ← get
  match takeFree p.places with
  | none => return none
  | some (given, others) =>
    set { p with places := others }
    match read given with
    | .ok a => return some a
    | .error reason =>
      refuse (if p.hasMisspelled then .misspelledOption
        else .badValue ("<" ++ name ++ ">") given reason)

/-- Asks for a positional argument that must be there. Arguments that nothing asked for are
reported before a missing one. -/
def requiredPositional {α : Type} (name : String) (read : String → Except String α) :
    Reading α := do
  match ← positional name read with
  | some a => return a
  | none => refuse ((← get).leftover?.getD .missingPositional)

/-- Ends the reading: nothing may be left, and help must not have been asked for. -/
def finish : Reading Unit := do
  let p ← get
  match p.help, p.leftover? with
  | some text, _ => throw (.help text)
  | none, some e => throw e
  | none, none => return ()

def interpret {α : Type} (reading : Reading α) (arguments : List String) : Except UsageError α :=
  (reading >>= fun a => finish >>= fun _ => pure a).run'
    { places := (sortArguments arguments).map some }

def anyText (value : String) : Except String String := .ok value

end BoardBind.Command
