import BoardBind.Script.BlockCopy
import BoardBind.Script.Bytes
import BoardBind.Script.Calculator
import BoardBind.Script.Checksum
import BoardBind.Script.Columns
import BoardBind.Script.Diff
import BoardBind.Script.Edit
import BoardBind.Script.Factors
import BoardBind.Script.Filter
import BoardBind.Script.Join
import BoardBind.Script.Names
import BoardBind.Script.Numbering
import BoardBind.Script.Paragraph
import BoardBind.Script.Removal
import BoardBind.Script.Repeats
import BoardBind.Script.Scaled
import BoardBind.Script.Search
import BoardBind.Script.Sections
import BoardBind.Script.Split
import BoardBind.Script.Stat
import BoardBind.Script.Surroundings
import BoardBind.Script.Tabs

/-! # The programs of the system

Arguments are read as the options of another program, and printed with the options first, each in
full and apart from its value.

All programs of the system that start no other programs, by their names.
-/

namespace BoardBind.Script

/-! ## Arguments put in order -/

/-- Whether an option takes a value. -/
inductive ValueRule where
  | never
  | always
  | maybe
  deriving DecidableEq

/-- The options that arguments are read by. -/
structure ArgumentRules where
  letters : List (Char × ValueRule) := []
  words : List (List Char × ValueRule) := []
  /-- Whether the first operand ends the options. -/
  isOrdered : Bool := false
  /-- Whether operands stay between the options. -/
  keepsPlaces : Bool := false
  /-- Whether a single dash may stand before a word. -/
  isAlternative : Bool := false
  isQuoted : Bool := true
  /-- Whether nothing is complained about. -/
  isQuiet : Bool := false
  /-- What complaints are made by. -/
  title : List Char := []

/-- What arguments are put in order as. -/
structure ArgumentOrder where
  /-- What is printed for the options, the last first. -/
  options : List (List Char) := []
  /-- The operands, the last first. -/
  operands : List (List Char) := []
  /-- The complaints, the last first. -/
  complaints : List (List Char) := []

namespace ArgumentRules

/-- Reads letters, each with a colon behind it if it takes a value, or with two if it may. -/
def readLetters : List Char → List (Char × ValueRule)
  | c :: ':' :: ':' :: rest => (c, .maybe) :: readLetters rest
  | c :: ':' :: rest => (c, .always) :: readLetters rest
  | c :: rest => (c, .never) :: readLetters rest
  | [] => []

def readWord (text : List Char) : List Char × ValueRule :=
  match text.reverse with
  | ':' :: ':' :: name => (name.reverse, .maybe)
  | ':' :: name => (name.reverse, .always)
  | _ => (text, .never)

def quote (r : ArgumentRules) (text : List Char) : List Char :=
  if r.isQuoted then
    '\'' :: (text.flatMap fun c => if c = '\'' then "'\\''".toList else [c]) ++ ['\'']
  else text

def put (r : ArgumentRules) (o : ArgumentOrder) (name : List Char) (value : Option (List Char)) :
    ArgumentOrder :=
  let shown := name ++ (match value with
    | some value => ' ' :: r.quote value
    | none => [])
  { o with options := shown :: o.options }

def complain (r : ArgumentRules) (o : ArgumentOrder) (text : List Char) : ArgumentOrder :=
  { o with complaints := (r.title ++ ": ".toList ++ text) :: o.complaints }

/-- Takes a word and what is behind its equals sign; the next argument may be its value. -/
def takeWord (r : ArgumentRules) (dashes text : List Char) (rest : List (List Char)) (o : ArgumentOrder) :
    ArgumentOrder × List (List Char) :=
  let word := text.takeWhile (· ≠ '=')
  let value := if word.length < text.length then some (text.drop (word.length + 1)) else none
  let meant : List (List Char × ValueRule) := match r.words.filter fun w => w.1 = word with
    | [] => r.words.filter fun w => word.isPrefixOf w.1
    | found => found.take 1
  match meant with
  | [] => (r.complain o ("unrecognized option '".toList ++ dashes ++ text ++ ['\'']), rest)
  | [(name, rule)] =>
    let shown := "--".toList ++ name
    let named := "option '".toList ++ dashes ++ name ++ ['\'']
    match rule, value, rest with
    | .never, some _, rest => (r.complain o (named ++ " doesn't allow an argument".toList), rest)
    | .never, none, rest => (r.put o shown none, rest)
    | .maybe, value, rest => (r.put o shown (some (value.getD [])), rest)
    | .always, some value, rest => (r.put o shown (some value), rest)
    | .always, none, next :: rest => (r.put o shown (some next), rest)
    | .always, none, [] => (r.complain o (named ++ " requires an argument".toList), [])
  | several =>
    let shown := several.flatMap fun w => " '".toList ++ dashes ++ w.1 ++ ['\'']
    (r.complain o ("option '".toList ++ dashes ++ text ++
      "' is ambiguous; possibilities:".toList ++ shown), rest)

/-- Takes letters behind a dash; the next argument may be the value of the last one. -/
def takeLetters (r : ArgumentRules) :
    List Char → List (List Char) → ArgumentOrder → ArgumentOrder × List (List Char)
  | [], rest, o => (o, rest)
  | c :: more, rest, o =>
    match r.letters.lookup c with
    | none => takeLetters r more rest (r.complain o ("invalid option -- '".toList ++ [c, '\'']))
    | some .never => takeLetters r more rest (r.put o ['-', c] none)
    | some .maybe => (r.put o ['-', c] (some more), rest)
    | some .always =>
      if more ≠ [] then (r.put o ['-', c] (some more), rest)
      else
        match rest with
        | value :: rest => (r.put o ['-', c] (some value), rest)
        | [] =>
          (r.complain o ("option requires an argument -- '".toList ++ [c, '\'']), [])

def order (r : ArgumentRules) : Nat → List (List Char) → ArgumentOrder → ArgumentOrder
  | 0, _, o => o
  | _, [], o => o
  | _, ['-', '-'] :: rest, o => { o with operands := rest.reverse ++ o.operands }
  | fuel + 1, ('-' :: '-' :: word) :: rest, o =>
    let (o, rest) := r.takeWord ['-', '-'] word rest o
    order r fuel rest o
  | fuel + 1, ('-' :: c :: more) :: rest, o =>
    let isWord := r.isAlternative && r.words ≠ [] &&
      (more ≠ [] || (r.letters.lookup c).isNone) &&
      r.words.any fun w => ((c :: more).takeWhile (· ≠ '=')).isPrefixOf w.1
    let (o, rest) := if isWord then r.takeWord ['-'] (c :: more) rest o
      else r.takeLetters (c :: more) rest o
    order r fuel rest o
  | fuel + 1, operand :: rest, o =>
    if r.isOrdered then { o with operands := (operand :: rest).reverse ++ o.operands }
    else if r.keepsPlaces then order r fuel rest { o with options := r.quote operand :: o.options }
    else order r fuel rest { o with operands := operand :: o.operands }

/-- Sets the letters, whose list may start with a sign for how operands are treated. -/
def withLetters (r : ArgumentRules) (text : List Char) : ArgumentRules :=
  match text with
  | '+' :: rest => { r with isOrdered := true, letters := readLetters rest }
  | '-' :: rest => { r with keepsPlaces := true, letters := readLetters rest }
  | ':' :: rest => { r with isQuiet := true, letters := readLetters rest }
  | rest => { r with letters := readLetters rest }

def effect (r : ArgumentRules) (isSilent : Bool) (arguments : List (List Char)) : Effect :=
  let o := r.order (arguments.length + 1) arguments {}
  let parts := o.options.reverse ++ "--".toList :: o.operands.reverse.map r.quote
  let text := parts.flatMap (fun part => ' ' :: part) ++ ['\n']
  let complaints := if r.isQuiet then []
    else o.complaints.reverse.map fun text => { isComplaint := true, text := text ++ ['\n'] }
  { said := complaints ++ if isSilent then [] else [{ text }]
    status := if o.complaints.isEmpty then 0 else 1 }

end ArgumentRules

/-- The options of `getopt`. -/
def getoptFlags : Flags where
  plain := "aqQTu"
  valued := "olns"
  words := [("alternative", 'a'), ("longoptions", 'l'), ("name", 'n'), ("options", 'o'),
    ("quiet", 'q'), ("quiet-output", 'Q'), ("shell", 's'), ("test", 'T'), ("unquoted", 'u')]
  isOrdered := true

/-- Puts arguments in order. If the first argument is no option, it is the list of letters, and
nothing is put in quotes. -/
def getopt : Utility := fun s arguments =>
  match arguments with
  | [] => s.misused 2 "missing optstring argument".toList
  | first :: rest =>
    if first.head? ≠ some '-' then
      let r : ArgumentRules := { title := s.title, isQuoted := false }
      let letters := first.dropWhile fun c => c = '+' || c = '-'
      (r.withLetters letters).effect false rest
    else
      withOptions getoptFlags 2 (fun s o =>
        let words := (o.values 'l').flatMap fun list =>
          ((list.splitOnP fun c => c = ',' || c = ' ' || c = '\t' || c = '\n').filter (· ≠ [])).map
            ArgumentRules.readWord
        let r : ArgumentRules := {
          words, title := (o.value? 'n').getD s.title, isQuoted := !o.has 'u'
          isAlternative := o.has 'a', isQuiet := o.has 'q' }
        let run := fun (letters : List Char) (arguments : List (List Char)) =>
          (r.withLetters letters).effect (o.has 'Q') arguments
        if o.has 'T' then { status := 4 }
        else
          match o.value? 'o', o.operands with
          | some letters, operands => run letters operands
          | none, letters :: operands => run letters operands
          | none, [] => s.misused 2 "missing optstring argument".toList) s arguments

/-! ## The programs of the system -/

def testProgram : Utility := fun s arguments =>
  match Condition.holds ⟨s.disk, s.directory, true⟩ arguments with
  | .ok truth => { status := if truth then 0 else 1 }
  | .error (.notNumber text) => s.failing 2 ("invalid integer ".toList ++ inMarks text)
  | .error _ => s.failing 2 ("missing argument after ".toList ++ inMarks (arguments.getLastD []))

def bracketProgram : Utility := fun s arguments =>
  if arguments.getLast? = some [']'] then testProgram s arguments.dropLast
  else s.failing 2 "missing ']'".toList

/-- The programs of the system that start no others. -/
def utilities : List (String × Utility) :=
  [("[", bracketProgram), ("arch", arch), ("b2sum", b2sum), ("base32", base32), ("base64", base64),
    ("basename", basename), ("basenc", basenc), ("cat", cat), ("chmod", chmod), ("cksum", cksum),
    ("cmp", cmp), ("comm", comm), ("cp", cp), ("csplit", csplit), ("cut", cut),
    ("date", dateProgram), ("dd", dd), ("diff", Diff.program), ("dir", dir), ("dirname", dirname),
    ("echo", echoProgram), ("egrep", egrep), ("expand", expand), ("expr", expr),
    ("factor", factor), ("false", fun _ _ => { status := 1 }), ("fgrep", fgrep), ("fmt", fmt),
    ("fold", foldProgram), ("getopt", getopt), ("grep", grep), ("groups", groups), ("head", head),
    ("id", identity), ("install", install), ("join", join), ("link", linkProgram), ("ln", ln),
    ("logname", logname), ("ls", ls), ("md5sum", plainDigest "md5"), ("mkdir", mkdir),
    ("mktemp", mktemp), ("mv", mv), ("nl", nl), ("nproc", nproc), ("numfmt", numfmt), ("od", od),
    ("paste", paste), ("printenv", printenv), ("printf", printfProgram), ("pwd", pwd),
    ("readlink", readlink), ("realpath", realpath), ("rev", rev), ("rm", rm), ("rmdir", rmdir),
    ("sed", sed), ("seq", seq), ("sha1sum", plainDigest "sha1"),
    ("sha224sum", plainDigest "sha224"), ("sha256sum", plainDigest "sha256"),
    ("sha384sum", plainDigest "sha384"), ("sha512sum", plainDigest "sha512"), ("shuf", shuf),
    ("sleep", sleep), ("sort", sort), ("split", split), ("stat", stat), ("sum", sumProgram),
    ("sync", sync), ("tac", tac), ("tail", tail), ("tee", tee), ("test", testProgram),
    ("touch", touch), ("tr", tr), ("true", fun _ _ => {}), ("truncate", truncate),
    ("tsort", tsort), ("tty", tty), ("uname", uname), ("unexpand", unexpand), ("uniq", uniq),
    ("unlink", unlink), ("users", fun _ _ => {}), ("vdir", vdir), ("wc", wc), ("which", which),
    ("whoami", whoami), ("yes", yes)]

/-- The programs that take only a part of an input that never ends, or print for ever too. -/
def isPatient (name : String) : Bool :=
  name ∈ ["cat", "head", "tail", "tr", "sed", "tee", "yes", "true", "false", "echo"]

end BoardBind.Script
