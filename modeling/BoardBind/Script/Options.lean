import BoardBind.Script.Condition

/-! # What programs of the system are started with

Some files never end, and some programs never stop printing. Such a text has a start and then
repeats a unit for ever. Whatever takes only a part of it, or changes it character by character,
works on it as on any other text.

A program of the system finds a disk, a directory and an input, reads its options, and leaves an
output, a status and perhaps a changed disk behind.
-/

namespace BoardBind.Script

/-! ## Texts that may go on for ever -/

/-- A text that may go on for ever. -/
structure Stream where
  text : List Char := []
  /-- What follows the text again and again; a text that ends has none. -/
  unit : List Char := []

namespace Stream

def isEndless (s : Stream) : Bool :=
  s.unit ≠ []

def units (s : Stream) (count : Nat) : List Char :=
  if s.isEndless then (List.replicate count s.unit).flatten else []

/-- The same text with at least as many characters written out as given, if it has as many. -/
def written (s : Stream) (size : Nat) : Stream :=
  if s.isEndless && s.text.length < size then
    { s with text := s.text ++ s.units ((size - s.text.length) / s.unit.length + 1) }
  else s

def take (s : Stream) (count : Nat) : List Char :=
  (s.written count).text.take count

end Stream

/-! ## What programs of the system are started with -/

/-- What a program finds when it starts. -/
structure Setting where
  disk : Disk
  directory : Path
  /-- What the program is called by. -/
  title : List Char := []
  input : Stream := {}
  /-- Whether the input is a file, so that what is left of it can be read by others. -/
  inputIsFile : Bool := false
  inputIsDirectory : Bool := false
  /-- The file that takes what is printed, if one does. -/
  target : Option Place := none
  environment : List (List Char × List Char) := []
  /-- How files are made. -/
  making : Making := { moment := 0 }

/-- Something that a program prints, or complains about. -/
structure Saying where
  isComplaint : Bool := false
  text : List Char

/-- What a program leaves behind. -/
structure Effect where
  said : List Saying := []
  /-- What is printed again and again at the end; a program that ends has none. -/
  unit : List Char := []
  status : Nat := 0
  /-- The disk, if the program changed it. -/
  disk : Option Disk := none
  /-- What is left of the input, if the program read it. -/
  left : Option (List Char) := none
  microseconds : Nat := 0

/-- More microseconds than any program is given. -/
def endlessTime : Nat := 1000000000000000

abbrev Utility := Setting → List (List Char) → Effect

def Setting.path (s : Setting) (name : List Char) : Path :=
  s.directory.join (pathOf name)

def printing (text : List Char) : Effect where
  said := [{ text }]

def Setting.complaint (s : Setting) (text : List Char) : Saying :=
  { isComplaint := true, text := s.title ++ ": ".toList ++ text ++ ['\n'] }

/-- Whether a character at a place in a name of some length has a meaning of its own for a shell. -/
def isShellSign (size place : Nat) (c : Char) : Bool :=
  if c = '#' || c = '~' then place = 0
  else if c = '\x7b' || c = '\x7d' then size = 1
  else
    c ≤ ' ' || '\x7f' ≤ c ||
      c ∈ ['!', '"', '$', '&', '\'', '(', ')', '*', ';', '<', '=', '>', '?', '[', '\\', '^', '\x60',
        '|']

/-- Whether a character stands for itself between double quotes too. -/
def isPlainInQuotes (c : Char) : Bool :=
  ' ' ≤ c && c < '\x7f' &&
    c ∉ ['!', '"', '$', '&', '(', ')', '*', ';', '<', '>', '?', '[', '\\', '^', '\x60', '|']

/-- The way to write a character that cannot be printed. -/
def charEscape (c : Char) : List Char :=
  match c with
  | '\x07' => "\\a".toList
  | '\x08' => "\\b".toList
  | '\x09' => "\\t".toList
  | '\x0a' => "\\n".toList
  | '\x0b' => "\\v".toList
  | '\x0c' => "\\f".toList
  | '\x0d' => "\\r".toList
  | c =>
    let digits := Nat.toDigits 8 c.toNat
    '\\' :: List.replicate (3 - digits.length) '0' ++ digits

/-- The characters of a name inside of single quotes. Those that cannot be printed stand in quotes
of another kind. -/
def quotedChars : Bool → List Char → List Char
  | _, [] => []
  | isEscaping, c :: rest =>
    if c < ' ' || '\x7f' ≤ c then
      (if isEscaping then [] else "'$'".toList) ++ charEscape c ++ quotedChars true rest
    else if c = '\'' then "'\\''".toList ++ quotedChars false rest
    else (if isEscaping then "''".toList else []) ++ c :: quotedChars false rest

/-- The name of a file in quotes, so that a shell would read it back. -/
def fileMarks (name : List Char) : List Char :=
  if name.contains '\'' && name.all isPlainInQuotes then '"' :: name ++ ['"']
  else '\'' :: quotedChars false name ++ ['\'']

/-- Whether a name must stand in quotes for a shell to read it back. -/
def needsMarks (name : List Char) : Bool :=
  name = [] || name.zipIdx.any fun (c, n) => isShellSign name.length n c

/-- The name of a file in a complaint: in quotes if it needs them, as it also does if something in
it looks like the end of the name. -/
def fileShown (name : List Char) : List Char :=
  if name.contains ':' || needsMarks name then fileMarks name else name

def Setting.fileComplaint (s : Setting) (name : List Char) (reason : OsError) : Saying :=
  s.complaint (fileShown name ++ ": ".toList ++ reason.reason.toList)

/-- The effect of a program that could not be started as asked. -/
def Setting.misused (s : Setting) (status : Nat) (complaint : List Char) : Effect :=
  let hint := "Try '".toList ++ s.title ++ " --help' for more information.\n".toList
  { said := [s.complaint complaint, { isComplaint := true, text := hint }], status }

def Setting.failing (s : Setting) (status : Nat) (complaint : List Char) : Effect :=
  { said := [s.complaint complaint], status }

def standardInput : Place := ["/", "dev", "stdin"]

/-- What some devices read as, again and again. -/
def deviceUnit (place : Place) : List UInt8 :=
  if (["zero", "random", "urandom", "full"].map fun name => ["/", "dev", name]).contains place then [0]
  else []

/-- The text of a file; a dash means the input. -/
def Setting.open (s : Setting) (name : List Char) : Except OsError Stream :=
  if name = ['-'] then (if s.inputIsDirectory then .error .isDirectory else .ok s.input)
  else
    match s.disk.find (s.path name) with
    | .error reason => .error reason
    | .ok (place, .file bytes _) =>
      if place = standardInput then .ok s.input
      else .ok { text := Text.ofBytes bytes, unit := Text.ofBytes (deviceUnit place) }
    | .ok _ => .error .isDirectory

/-- The text of a file as far as it is written out. -/
def Setting.read (s : Setting) (name : List Char) : Except OsError (List Char) :=
  (s.open name).map (·.text)

/-- The names of the files that a program reads: the input if none is given. -/
def orInput (names : List (List Char)) : List (List Char) :=
  if names = [] then [['-']] else names

def Setting.readAll (s : Setting) (names : List (List Char)) :
    List (List Char × Except OsError (List Char)) :=
  (orInput names).map fun name => (name, s.read name)

/-- What is left of the input when files have been read. -/
def leftAfter (names : List (List Char)) : Option (List Char) :=
  if names = [] || names.contains ['-'] then some [] else none

/-- What is left of the input when a number of characters has been used. A file is read on exactly
behind them; of anything else a program has read whole blocks. -/
def Setting.leftBehind (s : Setting) (block used : Nat) : List Char :=
  let text := (s.input.written (used + block)).text
  if s.inputIsFile then text.drop used else text.drop ((used + block - 1) / block * block)

/-- Whether a name means a file with contents that takes what is printed. -/
def Setting.isOwnTarget (s : Setting) (name : List Char) : Bool :=
  match s.disk.find (s.path name) with
  | .ok (place, .file bytes _) => s.target = some place && bytes ≠ []
  | _ => false

/-- The options that a program knows. -/
structure Flags where
  /-- Letters without a value. -/
  plain : String := ""
  /-- Letters with a value. -/
  valued : String := ""
  /-- Letters that take what is attached to them as a value. -/
  optional : String := ""
  /-- Words that mean the same as a letter. -/
  words : List (String × Char) := []
  /-- Whether the first operand ends the options. -/
  isOrdered : Bool := false

/-- The options and operands of a program. -/
structure Options where
  flags : List (Char × List Char) := []
  operands : List (List Char) := []

namespace Options

def has (o : Options) (flag : Char) : Bool :=
  o.flags.any fun f => f.1 = flag

def values (o : Options) (flag : Char) : List (List Char) :=
  (o.flags.filter fun f => f.1 = flag).map fun f => f.2

/-- The value of a flag that is given; the last one counts. -/
def value? (o : Options) (flag : Char) : Option (List Char) :=
  (o.values flag).getLast?

def last? (o : Options) (flags : List Char) : Option Char :=
  (o.flags.filter fun f => f.1 ∈ flags).getLast?.map fun f => f.1

/-- An option that waits for its value, and the complaint if there is none. -/
abbrev Waiting := Char × List Char

/-- Reads the letters behind a dash: those known without a value, until one that takes the rest as
its value or, if there is no rest, waits for one. The letter that is not known is handed back. -/
def letters (f : Flags) : List Char → Except Char (List (Char × List Char) × Option Waiting)
  | [] => .ok ([], none)
  | c :: more =>
    if f.valued.toList.contains c then
      let missing := "option requires an argument -- '".toList ++ [c, '\'']
      .ok (if more = [] then ([], some (c, missing)) else ([(c, more)], none))
    else if f.optional.toList.contains c then .ok ([(c, more)], none)
    else if f.plain.toList.contains c then
      (letters f more).map fun (flags, waiting) => ((c, []) :: flags, waiting)
    else .error c

/-- The words that a text may mean: the word itself, or those that start with it. -/
def wordsMeant (f : Flags) (text : List Char) : List (String × Char) :=
  match f.words.filter fun w => w.1.toList = text with
  | [] => f.words.filter fun w => text.isPrefixOf w.1.toList
  | found => found

/-- Reads a word behind two dashes: its letter and its value, or a letter that waits for one. -/
def wordFlag (f : Flags) (text : List Char) :
    Except (List Char) (List (Char × List Char) × Option Waiting) :=
  let word := text.takeWhile (· ≠ '=')
  let value := if word.length < text.length then some (text.drop (word.length + 1)) else none
  let meant := wordsMeant f word
  match meant, (meant.map (·.2)).eraseDups with
  | (full, c) :: _, [_] =>
    let named := "option '--".toList ++ full.toList ++ ['\'']
    if f.valued.toList.contains c then
      .ok (match value with
        | some value => ([(c, value)], none)
        | none => ([], some (c, named ++ " requires an argument".toList)))
    else
      match value with
      | some value =>
        if f.optional.toList.contains c then .ok ([(c, value)], none)
        else .error (named ++ " doesn't allow an argument".toList)
      | none => .ok ([(c, [])], none)
  | [], _ => .error ("unrecognized option '--".toList ++ text ++ ['\''])
  | _, _ =>
    let shown := meant.flatMap fun w => " '--".toList ++ w.1.toList ++ ['\'']
    .error ("option '--".toList ++ text ++ "' is ambiguous; possibilities:".toList ++ shown)

/-- Reads options and operands. Two dashes end the options. -/
def readFrom (f : Flags) : Option Waiting → List (List Char) → Except (List Char) Options
  | some (_, missing), [] => .error missing
  | some (flag, _), value :: rest =>
    (readFrom f none rest).map fun o => { o with flags := (flag, value) :: o.flags }
  | none, [] => .ok {}
  | none, ['-', '-'] :: rest => .ok { operands := rest }
  | none, ('-' :: '-' :: word) :: rest => do
    let (flags, waiting) ← wordFlag f word
    let o ← readFrom f waiting rest
    return { o with flags := flags ++ o.flags }
  | none, ('-' :: c :: more) :: rest =>
    match letters f (c :: more) with
    | .error letter => .error ("invalid option -- '".toList ++ [letter, '\''])
    | .ok (flags, waiting) => do
      let o ← readFrom f waiting rest
      return { o with flags := flags ++ o.flags }
  | none, operand :: rest =>
    if f.isOrdered then .ok { operands := operand :: rest }
    else (readFrom f none rest).map fun o => { o with operands := operand :: o.operands }

end Options

/-- Carries something out with the options that a program is given, unless they are wrong. -/
def withOptions (f : Flags) (failure : Nat) (body : Setting → Options → Effect) : Utility :=
  fun s arguments =>
    match Options.readFrom f none arguments with
    | .ok o => body s o
    | .error complaint => s.misused failure complaint

def natural? (text : List Char) : Option Nat :=
  if text ≠ [] ∧ text.all Char.isDigit then some (Arithmetic.ofDigits 10 text) else none

def decimal (n : Nat) : List Char := (toString n).toList

def inMarks (text : List Char) : List Char :=
  '\'' :: text ++ ['\'']

/-- The choice that a value names. Each choice has names that mean the same; a name may be cut short
as long as it is clear what is meant. -/
def choiceFor {α : Type} (what : String) (choices : List (List String × α)) (value : List Char) :
    Except (List Char) α :=
  let shown := fun names : List String =>
    "\n  - ".toList ++ ", ".toList.intercalate (names.map fun name => inMarks name.toList)
  let complaint := fun kind : String =>
    kind.toList ++ " argument ".toList ++ inMarks value ++ " for ".toList ++ inMarks what.toList ++
      "\nValid arguments are:".toList ++ choices.flatMap fun c => shown c.1
  match choices.find? fun c => c.1.any fun name => name.toList = value with
  | some c => .ok c.2
  | none =>
    match choices.filter fun c => c.1.any fun name => value.isPrefixOf name.toList with
    | [] => .error (complaint "invalid")
    | [c] => .ok c.2
    | _ => .error (complaint "ambiguous")

def choiceOf {α : Type} (option : String) (choices : List (List String × α)) (value : List Char) :
    Except (List Char) α :=
  choiceFor ("--" ++ option) choices value

/-- The pieces of a text that end with a character, with their ends; the last one may lack its
own. -/
def fullPieces (ending : Char) (text : List Char) : List (List Char) :=
  match text.splitOn ending with
  | [] => []
  | pieces =>
    (pieces.dropLast.map fun line => line ++ [ending]) ++
      (pieces.getLast?.toList.filter fun line => line ≠ [])

/-- The pieces of a text that end with a character, without their ends. -/
def plainPieces (ending : Char) (text : List Char) : List (List Char) :=
  match (text.splitOn ending).reverse with
  | [] :: lines => lines.reverse
  | lines => lines.reverse

def joinPieces (ending : Char) (lines : List (List Char)) : List Char :=
  lines.flatMap fun line => line ++ [ending]

/-- The lines of a text with their line ends; the last one may lack its own. -/
def fullLines (text : List Char) : List (List Char) := fullPieces '\n' text

def plainLines (text : List Char) : List (List Char) := plainPieces '\n' text

def joinLines (lines : List (List Char)) : List Char := joinPieces '\n' lines

/-- What ends a line: the end of a line, or the character zero if an option says so. -/
def Options.ending (o : Options) : Char :=
  if o.has 'z' then '\x00' else '\n'

end BoardBind.Script
