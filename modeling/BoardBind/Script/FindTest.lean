import BoardBind.Script.Mode
import BoardBind.Script.Date
import BoardBind.Script.Regex.Reader

/-! # Expressions about files

The expressions of `find`: questions about a file, things to do with it, and their combinations.
-/

namespace BoardBind.Script

/-- A number that something is compared with: more, less or as many as given. -/
structure Measure where
  order : Ordering
  count : Nat
  deriving DecidableEq

def Measure.fits (m : Measure) (n : Int) : Bool :=
  compare n (m.count : Int) = m.order

/-- The expressions of `find`. -/
inductive FindTest where
  | name (pattern : List Char) (anyCase : Bool)
  | path (pattern : List Char) (anyCase : Bool)
  | regex (expression : Regex) (anyCase : Bool)
  /-- What a link holds. -/
  | linkText (pattern : List Char) (anyCase : Bool)
  | kind (letters : List Char)
  /-- The kind of what a link leads to. -/
  | behindKind (letters : List Char)
  | empty
  /-- The size in units, rounded up. -/
  | size (measure : Measure) (unit : Nat)
  /-- The age in units of seconds, rounded down. -/
  | age (measure : Measure) (unit : Nat)
  /-- Changed after a moment in nanoseconds. -/
  | newerThan (moment : Int)
  /-- The mode: exactly, with all bits, or with one of the bits. -/
  | mode (how : Char) (bits : Nat)
  | links (measure : Measure)
  | sameAs (place : Place)
  | executable
  | always (truth : Bool)
  | print (ending : Char)
  | format (text : List Char)
  /-- Prints something to a file. -/
  | toFile (file : List Char) (test : FindTest)
  /-- Runs a program with the path in place of each pair of braces, perhaps in the directory of the
  file. -/
  | run (words : List (List Char)) (isInside : Bool)
  /-- Runs a program at the end with all paths behind its arguments. -/
  | gather (words : List (List Char))
  /-- Asks before a program is run. -/
  | askRun (words : List (List Char))
  | delete
  | prune
  | quit
  | negation (test : FindTest)
  | both (first second : FindTest)
  | either (first second : FindTest)
  /-- Both are decided, and the second one counts. -/
  | sequence (first second : FindTest)

/-- Whether an expression does something, so that paths are not printed on their own. -/
def FindTest.acts : FindTest → Bool
  | .print _ => true
  | .format _ => true
  | .toFile .. => true
  | .run .. => true
  | .gather _ => true
  | .askRun _ => true
  | .delete => true
  | .quit => true
  | .negation test => test.acts
  | .both a b => a.acts || b.acts
  | .either a b => a.acts || b.acts
  | .sequence a b => a.acts || b.acts
  | _ => false

/-- Which links are followed. -/
inductive LinkRule where
  | none
  | operands
  | all
  deriving DecidableEq

/-- What holds for the whole of a walk. -/
structure FindSettings where
  leastDepth : Nat := 0
  greatestDepth : Option Nat := none
  /-- Whether what is in a directory comes before the directory. -/
  isDepthFirst : Bool := false
  links : LinkRule := .none
  /-- How regular expressions are written. -/
  writing : List Char := []
  /-- Where dates are told, and the moment of now. -/
  zone : Zone := {}
  now : Moment := ⟨0, 0⟩
  /-- The files that something is printed to. -/
  files : List (List Char) := []
  /-- The place of a file that others are compared with, and when it was changed. -/
  reference : List Char → Except OsError (Place × Int) := fun _ => .error .noEntry

/-- A part of an expression that has been read, and what is left. -/
abbrev FindReading := Except (List Char) (FindTest × FindSettings × List (List Char))

/-- The complaint about a question without its value. -/
def missingValue (word : List Char) : List Char :=
  "missing argument to \x60".toList ++ word ++ ['\'']

def badValue (word value : List Char) : List Char :=
  "invalid argument \x60".toList ++ value ++ "' to \x60".toList ++ word ++ ['\'']

def measureSign : List Char → Ordering × List Char
  | '+' :: rest => (.gt, rest)
  | '-' :: rest => (.lt, rest)
  | rest => (.eq, rest)

/-- A number with a sign that says how it is compared. -/
def measure? (text : List Char) : Option Measure :=
  let (order, digits) := measureSign text
  (natural? digits).map fun count => { order, count }

/-- The size that a value of `-size` means. -/
def findSize? (text : List Char) : Option FindTest :=
  let (order, text) := measureSign text
  let digits := text.takeWhile Char.isDigit
  let unit? : Option Nat := match text.drop digits.length with
    | [] => some 512
    | ['b'] => some 512
    | ['c'] => some 1
    | ['w'] => some 2
    | ['k'] => some 1024
    | ['M'] => some 1048576
    | ['G'] => some 1073741824
    | _ => none
  if digits = [] then none
  else unit?.map fun unit => .size ⟨order, Arithmetic.ofDigits 10 digits⟩ unit

/-- The mode that a value of `-perm` means. -/
def findMode? (text : List Char) : Option FindTest :=
  let (how, rest) := match text with
    | '-' :: rest => ('-', rest)
    | '/' :: rest => ('/', rest)
    | rest => ('=', rest)
  (modeChanges? rest).map fun changes => .mode how (applyChanges changes 0 false 0)

def findRegex? (writing text : List Char) : Option Regex :=
  let writing := String.ofList writing
  let isExtended := writing ∈ ["posix-extended", "egrep", "posix-egrep", "awk", "posix-awk",
    "gnu-awk"]
  let isBasic := writing ∈ ["posix-basic", "grep", "ed", "sed", "posix-minimal-basic"]
  let text := if isExtended || isBasic then text else Regex.basicWriting text
  (Regex.ofText? { isExtended, isForgiving := true } text).map (·.1)

def kindLetters (word value : List Char) : Except (List Char) (List Char) :=
  (value.splitOn ',').mapM fun part =>
    match part with
    | [c] =>
      if c ∈ ['f', 'd', 'l', 'b', 'c', 'p', 's', 'D'] then .ok c
      else .error ("Unknown argument to ".toList ++ word ++ ": ".toList ++ [c])
    | [] => .error ("Arguments to ".toList ++ word ++ " should contain at least one letter".toList)
    | _ =>
      .error ("Must separate multiple arguments to ".toList ++ word ++ " using: ','".toList)

def findCommand (word : List Char) (rest : List (List Char)) (isInside : Bool) :
    Except (List Char) (FindTest × List (List Char)) :=
  let words := rest.takeWhile fun w => w ≠ [';']
  let beforePlus := rest.takeWhile fun w => w ≠ ['+']
  if beforePlus.getLast? = some "\x7b\x7d".toList && beforePlus.length < words.length then
    .ok (.gather beforePlus.dropLast, rest.drop (beforePlus.length + 1))
  else if words = [] || words.length = rest.length then .error (missingValue word)
  else .ok (.run words isInside, rest.drop (words.length + 1))

/-- Reads a question or an action that is a single word, perhaps with a value. -/
def findPrimary (settings : FindSettings) (word : List Char) (rest : List (List Char)) :
    FindReading :=
  let plain := fun test : FindTest => (.ok (test, settings, rest) : FindReading)
  let set := fun settings : FindSettings => (.ok (.always true, settings, rest) : FindReading)
  let valued := fun read : List Char → Except (List Char) (FindTest × FindSettings) =>
    match rest with
    | [] => (.error (missingValue word) : FindReading)
    | value :: rest => (read value).map fun (test, settings) => (test, settings, rest)
  let tested := fun read : List Char → Option FindTest => valued fun value =>
    match read value with
    | some test => .ok (test, settings)
    | none => .error (badValue word value)
  let depth := fun (value : List Char) (set : Nat → FindSettings) =>
    match natural? value with
    | some n => .ok (.always true, set n)
    | none => .error ("Expected a positive decimal integer argument to ".toList ++ word ++
        ", but got ".toList ++ inMarks value)
  let aged := fun unit : Nat => tested fun value =>
    (measure? value).map fun m => .age m unit
  let owned := tested fun value =>
    if value = "root".toList || (natural? value).isSome then
      some (.always (value = "root".toList || natural? value = some 0))
    else none
  let compared := fun test : Place × Int → FindTest => valued fun value =>
    match settings.reference value with
    | .ok found => .ok (test found, settings)
    | .error reason => .error (inMarks value ++ ": ".toList ++ reason.reason.toList)
  let dated := valued fun value =>
    match momentOf? settings.zone settings.now value with
    | some m => .ok (.newerThan m.total, settings)
    | none =>
      .error ("I cannot figure out how to interpret ".toList ++ inMarks value ++
        " as a date or time".toList)
  match String.ofList word with
  | "-name" => valued fun value => .ok (.name value false, settings)
  | "-iname" => valued fun value => .ok (.name value true, settings)
  | "-path" => valued fun value => .ok (.path value false, settings)
  | "-wholename" => valued fun value => .ok (.path value false, settings)
  | "-ipath" => valued fun value => .ok (.path value true, settings)
  | "-iwholename" => valued fun value => .ok (.path value true, settings)
  | "-lname" => valued fun value => .ok (.linkText value false, settings)
  | "-ilname" => valued fun value => .ok (.linkText value true, settings)
  | "-regex" => tested fun value => (findRegex? settings.writing value).map (.regex · false)
  | "-iregex" => tested fun value => (findRegex? settings.writing value).map (.regex · true)
  | "-regextype" => valued fun value => .ok (.always true, { settings with writing := value })
  | "-type" => valued fun value => (kindLetters word value).map fun cs => (.kind cs, settings)
  | "-xtype" =>
    valued fun value => (kindLetters word value).map fun cs => (.behindKind cs, settings)
  | "-size" => valued fun value =>
    match findSize? value with
    | some test => .ok (test, settings)
    | none => .error ("Invalid argument \x60".toList ++ value ++ "' to -size".toList)
  | "-perm" => valued fun value =>
    match findMode? value with
    | some test => .ok (test, settings)
    | none => .error ("invalid mode ".toList ++ inMarks value)
  | "-mtime" => aged 86400
  | "-atime" => aged 86400
  | "-ctime" => aged 86400
  | "-mmin" => aged 60
  | "-amin" => aged 60
  | "-cmin" => aged 60
  | "-newer" => compared fun (_, moment) => .newerThan moment
  | "-anewer" => compared fun (_, moment) => .newerThan moment
  | "-cnewer" => compared fun (_, moment) => .newerThan moment
  | "-links" => tested fun value => (measure? value).map .links
  | "-inum" => tested fun value => (measure? value).map fun _ => .always false
  | "-samefile" => compared fun (place, _) => .sameAs place
  | "-user" => owned
  | "-group" => owned
  | "-uid" => tested fun value => (measure? value).map fun m => .always (m.fits 0)
  | "-gid" => tested fun value => (measure? value).map fun m => .always (m.fits 0)
  | "-nouser" => plain (.always false)
  | "-nogroup" => plain (.always false)
  | "-readable" => plain (.always true)
  | "-writable" => plain (.always true)
  | "-executable" => plain .executable
  | "-maxdepth" =>
    valued fun value => depth value fun n => { settings with greatestDepth := some n }
  | "-mindepth" => valued fun value => depth value fun n => { settings with leastDepth := n }
  | "-depth" => set { settings with isDepthFirst := true }
  | "-d" => set { settings with isDepthFirst := true }
  | "-follow" => set { settings with links := .all }
  | "-mount" => set settings
  | "-xdev" => set settings
  | "-noleaf" => set settings
  | "-warn" => set settings
  | "-nowarn" => set settings
  | "-daystart" =>
    let day := settings.now.seconds.fdiv Calendar.daySeconds * Calendar.daySeconds
    set { settings with now := ⟨day + Calendar.daySeconds, 0⟩ }
  | "-empty" => plain .empty
  | "-true" => plain (.always true)
  | "-false" => plain (.always false)
  | "-print" => plain (.print '\n')
  | "-print0" => plain (.print '\x00')
  | "-printf" => valued fun value => .ok (.format value, settings)
  | "-fprint" => valued fun value =>
    .ok (.toFile value (.print '\n'), { settings with files := value :: settings.files })
  | "-fprint0" => valued fun value =>
    .ok (.toFile value (.print '\x00'), { settings with files := value :: settings.files })
  | "-fprintf" =>
    match rest with
    | file :: format :: rest =>
      .ok (.toFile file (.format format), { settings with files := file :: settings.files }, rest)
    | _ => .error (missingValue word)
  | "-prune" => plain .prune
  | "-quit" => plain .quit
  | "-delete" => .ok (.delete, { settings with isDepthFirst := true }, rest)
  | "-exec" => (findCommand word rest false).map fun (test, rest) => (test, settings, rest)
  | "-execdir" => (findCommand word rest true).map fun (test, rest) => (test, settings, rest)
  | "-ok" =>
    (findCommand word rest false).map fun (test, rest) =>
      (match test with
        | .run words _ => .askRun words
        | other => other, settings, rest)
  | _ =>
    if "-newer".toList <+: word && word.length = 8 then
      let own := word.getD 6 ' '
      let other := word.getD 7 ' '
      if own ∉ ['a', 'c', 'm'] || other ∉ ['a', 'c', 'm', 't'] then
        .error ("invalid predicate \x60".toList ++ word ++ ['\''])
      else if other = 't' then dated
      else compared fun (_, moment) => .newerThan moment
    else if word.head? = some '-' then .error ("unknown predicate \x60".toList ++ word ++ ['\''])
    else .error ("paths must precede expression: \x60".toList ++ word ++ ['\''])

/-- Whether a word joins two expressions of which one must hold. -/
def isEitherSign (word : List Char) : Bool :=
  word = "-o".toList || word = "-or".toList

mutual

/-- Reads expressions that are decided one after another. -/
def findSequence (settings : FindSettings) : Nat → List (List Char) → FindReading
  | 0, _ => .error "invalid expression".toList
  | fuel + 1, words => do
    let (first, settings, rest) ← findEither settings fuel words
    match rest with
    | [','] :: rest =>
      let (second, settings, rest) ← findSequence settings fuel rest
      .ok (.sequence first second, settings, rest)
    | _ => .ok (first, settings, rest)

def findEither (settings : FindSettings) : Nat → List (List Char) → FindReading
  | 0, _ => .error "invalid expression".toList
  | fuel + 1, words => do
    let (first, settings, rest) ← findBoth settings fuel words
    match rest with
    | sign :: rest =>
      if isEitherSign sign then
        let (second, settings, rest) ← findEither settings fuel rest
        .ok (.either first second, settings, rest)
      else .ok (first, settings, sign :: rest)
    | [] => .ok (first, settings, [])

def findBoth (settings : FindSettings) : Nat → List (List Char) → FindReading
  | 0, _ => .error "invalid expression".toList
  | fuel + 1, words => do
    let (first, settings, rest) ← findSingle settings fuel words
    match rest with
    | [] => .ok (first, settings, [])
    | sign :: more =>
      if isEitherSign sign || sign = [')'] || sign = [','] then .ok (first, settings, rest)
      else
        let isSign := sign = "-a".toList || sign = "-and".toList
        let (second, settings, rest) ← findBoth settings fuel (if isSign then more else rest)
        .ok (.both first second, settings, rest)

def findSingle (settings : FindSettings) : Nat → List (List Char) → FindReading
  | 0, _ => .error "invalid expression".toList
  | _ + 1, [] => .error "invalid expression".toList
  | fuel + 1, word :: rest =>
    if word = ['!'] || word = "-not".toList then do
      let (test, settings, rest) ← findSingle settings fuel rest
      .ok (.negation test, settings, rest)
    else if word = ['('] then do
      let (test, settings, rest) ← findSequence settings fuel rest
      match rest with
      | [')'] :: rest => .ok (test, settings, rest)
      | _ => .error "invalid expression; I was expecting to find a ')' somewhere".toList
    else findPrimary settings word rest

end

/-- Whether a word starts the expression of `find`. -/
def startsExpression (word : List Char) : Bool :=
  (word.head? = some '-' && word ≠ ['-']) || word = ['!'] || word = ['('] || word = [',']

/-- The options in front of all paths, which say what links are followed. -/
def linkRule : LinkRule → List (List Char) → LinkRule × List (List Char)
  | _, ['-', 'L'] :: rest => linkRule .all rest
  | _, ['-', 'P'] :: rest => linkRule .none rest
  | _, ['-', 'H'] :: rest => linkRule .operands rest
  | rule, rest => (rule, rest)

end BoardBind.Script
