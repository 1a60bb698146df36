import BoardBind.Script.Files
import BoardBind.Script.Search.Query

/-! # Searching files

The program of the system that prints the lines of files in which an expression is found, or what
else is asked about them.
-/

namespace BoardBind.Script

/-- Arguments where digits among letters are an option with a value: the number of lines around. What
follows a letter that waits for a value stays as it is. -/
def contextArguments : Bool → List (List Char) → List (List Char)
  | _, [] => []
  | true, value :: rest => value :: contextArguments false rest
  | false, ['-', '-'] :: rest => ['-', '-'] :: rest
  | false, ('-' :: text) :: rest =>
    let isValued := fun c : Char => c ∈ ['e', 'f', 'm', 'A', 'B', 'C', 'd', 'D', 'X', '-']
    let letters := text.takeWhile fun c => !isValued c
    let digits := letters.filter Char.isDigit
    let plain := letters.filter (!·.isDigit) ++ text.drop letters.length
    let waits := text.length = letters.length + 1
    let own := if digits = [] then ['-' :: text]
      else [['-', 'C'], digits] ++ if plain = [] then [] else ['-' :: plain]
    own ++ contextArguments waits rest
  | false, argument :: rest => argument :: contextArguments false rest

def searchFlags : Flags where
  plain := "EFGPivwxclLoqsbHhnTzaIrRyUZu&,#"
  valued := "efmABCdDX+-~^=!:"
  optional := "%"
  words :=
    [("basic-regexp", 'G'), ("extended-regexp", 'E'), ("fixed-regexp", 'F'),
      ("fixed-strings", 'F'), ("perl-regexp", 'P'), ("after-context", 'A'),
      ("before-context", 'B'), ("binary-files", '!'), ("binary", 'U'), ("byte-offset", 'b'),
      ("context", 'C'), ("color", '%'), ("colour", '%'), ("count", 'c'), ("devices", 'D'),
      ("directories", 'd'), ("exclude", '-'), ("exclude-from", '~'), ("exclude-dir", '^'),
      ("file", 'f'), ("files-with-matches", 'l'), ("files-without-match", 'L'),
      ("group-separator", ':'), ("include", '+'), ("ignore-case", 'i'), ("no-ignore-case", '#'),
      ("initial-tab", 'T'), ("label", '='), ("line-buffered", '&'), ("line-number", 'n'),
      ("line-regexp", 'x'), ("max-count", 'm'), ("no-filename", 'h'), ("no-group-separator", ','),
      ("no-messages", 's'), ("null", 'Z'), ("null-data", 'z'), ("only-matching", 'o'),
      ("quiet", 'q'), ("recursive", 'r'), ("dereference-recursive", 'R'), ("regexp", 'e'),
      ("invert-match", 'v'), ("silent", 'q'), ("text", 'a'), ("with-filename", 'H'),
      ("word-regexp", 'w'), ("unix-byte-offsets", 'u')]

/-- The hint that follows a complaint about the options of a search. -/
def searchUsage (s : Setting) (status : Nat) (complaint : List Saying) : Effect :=
  let usage := "Usage: ".toList ++ s.title ++ " [OPTION]... PATTERNS [FILE]...\n".toList ++
    "Try '".toList ++ s.title ++ " --help' for more information.\n".toList
  { said := complaint ++ [{ isComplaint := true, text := usage }], status }

/-- What happens to directories. -/
inductive DirectoryRule where
  | read
  | recurse
  | skip
  deriving DecidableEq

/-- What a search is asked for. -/
structure SearchRequest where
  view : SearchView
  spelling : Spelling := .basic
  directories : DirectoryRule := .read
  followsLinks : Bool := false
  binary : BinaryRule := .hidden
  /-- Whether names of files stand before lines, if that was said. -/
  titles : Option Bool := none
  isQuiet : Bool := false
  isSilent : Bool := false
  label : List Char := "(standard input)".toList
  /-- The patterns of names, each with whether it is one of files that are searched. -/
  names : List (Bool × List Char) := []
  /-- The patterns of names of directories that are left out. -/
  closed : List (List Char) := []
  patterns : List (List Char) := []
  files : List (List Char) := []

/-- What is wrong with the options of a search: a complaint, perhaps with a hint. -/
abbrev SearchRefusal := List Char × Bool

def optionRefusal? (s : Setting) (flag : Char) (value : List Char) : Option SearchRefusal :=
  match flag with
  | 'm' =>
    let digits := match value with
      | '-' :: digits => digits
      | digits => digits
    if (natural? digits).isSome then none else some ("invalid max count".toList, false)
  | 'D' =>
    if value = "read".toList || value = "skip".toList then none
    else some ("unknown devices method".toList, false)
  | '!' =>
    if String.ofList value ∈ ["binary", "text", "without-match"] then none
    else some ("unknown binary-files type".toList, false)
  | 'd' =>
    match choiceOf "directories" [(["read"], ()), (["recurse"], ()), (["skip"], ())] value with
    | .ok () => none
    | .error complaint => some (complaint, true)
  | 'f' =>
    match s.read value with
    | .ok _ => none
    | .error reason => some (value ++ ": ".toList ++ reason.reason.toList, false)
  | '~' =>
    match s.read value with
    | .ok _ => none
    | .error reason => some (value ++ ": ".toList ++ reason.reason.toList, false)
  | flag =>
    if flag ∈ ['A', 'B', 'C'] && (natural? value).isNone then
      some (value ++ ": invalid context length argument".toList, false)
    else none

/-- How patterns are written, by the options that say so. They must agree. -/
def spellingOf (o : Options) : Except (List Char) Spelling :=
  match (o.flags.filterMap fun f =>
      if f.1 ∈ ['E', 'F', 'G', 'P'] then some f.1 else none).eraseDups with
  | [] => .ok .basic
  | ['G'] => .ok .basic
  | ['E'] => .ok .extended
  | ['F'] => .ok .fixed
  | ['P'] => .ok .ordered
  | _ => .error "conflicting matchers specified".toList

/-- The patterns of a search and its files: values of options and lines of files, or else the first
operand is the pattern. -/
def searchPatterns (s : Setting) (o : Options) : Option (List (List Char) × List (List Char)) :=
  if o.has 'e' || o.has 'f' then
    some (o.flags.flatMap fun (flag, value) =>
      if flag = 'e' then value.splitOn '\n'
      else if flag = 'f' then plainLines ((s.read value).toOption.getD [])
      else [], o.operands)
  else
    match o.operands with
    | pattern :: names => some (pattern.splitOn '\n', names)
    | [] => none

def viewOf (o : Options) (sought : Sought) : SearchView :=
  let around := fun flag : Char => ((o.value? flag).or (o.value? 'C')).bind natural?
  let aim : SearchAim :=
    if o.has 'q' then .nothing
    else
      match o.last? ['l', 'L'] with
      | some flag => .names (flag = 'l')
      | none => if o.has 'c' then .count else .lines
  { query := {
      sought, mode := { anyCase := (o.last? ['i', 'y', '#']).any (· ∈ ['i', 'y']) }
      isWord := o.has 'w', isLine := o.has 'x', isNegated := o.has 'v' }
    aim, hasNumbers := o.has 'n', hasOffsets := o.has 'b', isSparse := o.has 'o'
    endsNames := o.has 'Z', isAligned := o.has 'T'
    hasColours := (o.value? '%').any fun c => String.ofList c ∈ ["always", "yes", "force"]
    before := around 'B', after := around 'A'
    divider := match o.last? [':', ','] with
      | some ',' => none
      | some _ => o.value? ':'
      | none => some "--".toList
    lineEnd := o.ending
    most := (o.value? 'm').bind natural? }

/-- What the options ask for; the view of it waits for what is sought. -/
def searchRequest (s : Setting) (o : Options) (spelling : Spelling)
    (patterns files : List (List Char)) : SearchRequest where
  view := viewOf o (.longest (.sequence []))
  spelling
  directories :=
    match o.flags.reverse.find? fun f => f.1 ∈ ['r', 'R', 'd'] with
    | some ('d', value) =>
      if "rec".toList.isPrefixOf value then .recurse
      else if ['s'].isPrefixOf value then .skip else .read
    | some _ => .recurse
    | none => .read
  followsLinks := o.last? ['r', 'R'] = some 'R'
  binary :=
    match o.flags.reverse.find? fun f => f.1 ∈ ['a', 'I', '!'] with
    | some ('a', _) => .text
    | some ('I', _) => .skipped
    | some (_, value) =>
      if value = "text".toList then .text
      else if value = "without-match".toList then .skipped else .hidden
    | none => .hidden
  titles := (o.last? ['H', 'h']).map (· = 'H')
  isQuiet := o.has 'q'
  isSilent := o.has 's'
  label := (o.value? '=').getD "(standard input)".toList
  names := o.flags.flatMap fun (flag, value) =>
    match flag with
    | '+' => [(true, value)]
    | '-' => [(false, value)]
    | '~' => (plainLines ((s.read value).toOption.getD [])).map fun line => (false, line)
    | _ => []
  closed := (o.values '^').map withoutSlashes
  patterns
  files

/-- Whether a pattern fits a name; one that was given as an argument may fit from any slash on. -/
def fitsName (isArgument : Bool) (pattern name : List Char) : Bool :=
  let parts := name.splitOn '/'
  let tails := if isArgument then
      (List.range parts.length).map fun n => ['/'].intercalate (parts.drop n)
    else [name]
  let wild := Pattern.ofMarked (pattern.map fun c => (c, false))
  tails.any wild.accepts

namespace SearchRequest

/-- Whether a file is left out: the last pattern that fits counts, and if none does, the first one
says what happens to all others. -/
def skipsFile (r : SearchRequest) (isArgument : Bool) (name : List Char) : Bool :=
  match r.names.reverse.find? fun p => fitsName isArgument p.2 name with
  | some (isIncluded, _) => !isIncluded
  | none => r.names.head?.any (·.1)

def skipsDirectory (r : SearchRequest) (isArgument : Bool) (name : List Char) : Bool :=
  r.closed.any fun pattern => fitsName isArgument pattern name

def filesBelow (r : SearchRequest) (disk : Disk) : Nat → List Char → Place → List (List Char)
  | 0, _, _ => []
  | fuel + 1, path, place =>
    (namesAt disk place).flatMap fun name =>
      let own := place ++ [diskName name]
      let full := if path = [] then name else path ++ ['/'] ++ name
      let target? : Option Place := match disk.at? own with
        | some (.link target) =>
          let (start, names) := disk.linkOrigin place ⟨target⟩
          if r.followsLinks then (disk.follow Disk.linkLimit start names).toOption else none
        | some _ => some own
        | none => none
      match target?.bind disk.at?, target? with
      | some .directory, some inner =>
        if r.skipsDirectory false name || inner.isPrefixOf place then []
        else filesBelow r disk fuel full inner
      | some (.file ..), _ => if r.skipsFile false name then [] else [full]
      | _, _ => []

/-- The files that a search goes through, with whether a directory is among those given. -/
def searchedFiles (r : SearchRequest) (s : Setting) : List (List Char) × Bool :=
  let isDeep := decide (r.directories = .recurse)
  let given := if r.files = [] then [if isDeep then [] else ['-']] else r.files
  let found := given.map fun name =>
    match s.disk.find (s.path (if name = [] && r.files = [] then ['.'] else name)) with
    | .ok (place, .directory) =>
      if name = ['-'] then ([name], false)
      else if r.directories = DirectoryRule.skip then ([], false)
      else if name ≠ [] && r.skipsDirectory true (withoutSlashes name) then ([], isDeep)
      else if isDeep then
        let path := if name = ['/'] then name else withoutSlashes name
        (r.filesBelow s.disk (s.disk.nodes.length + 1) path place, true)
      else ([name], false)
    | _ => (if name ≠ ['-'] && r.skipsFile true name then [] else [name], false)
  (found.flatMap (·.1), found.any (·.2))

def searchFile (r : SearchRequest) (s : Setting) (hasPrinted : Bool) (name : List Char) :
    SearchResult :=
  let shown := if name = ['-'] then r.label else name
  let refused := fun (complaint : List Char) (said : List Saying) =>
    ({ said := (if r.isSilent then [] else [s.complaint complaint]) ++ said, failed := true } :
      SearchResult)
  let failed := fun (reason : OsError) (said : List Saying) =>
    refused (shown ++ ": ".toList ++ reason.reason.toList) said
  let place? := if name = ['-'] then none else (s.disk.find (s.path name)).toOption
  let printsLines := r.view.aim = .lines && r.view.most.all (1 < ·)
  if printsLines && place?.any fun found => s.target = some found.1 then
    refused (shown ++ ": input file is also the output".toList) []
  else
    match s.read name with
    | .ok text =>
      let isSized := if name = ['-'] then s.inputIsFile else true
      r.view.search s r.binary hasPrinted shown text isSized
    | .error .isDirectory =>
      failed .isDirectory (r.view.search s r.binary hasPrinted shown [] true).said
    | .error reason => failed reason []

def searchAll (r : SearchRequest) (s : Setting) : List (List Char) → Bool → List SearchResult
  | [], _ => []
  | name :: rest, hasPrinted =>
    let result := r.searchFile s hasPrinted name
    let printed := result.said.any fun said => !said.isComplaint && said.text ≠ []
    result :: searchAll r s rest (hasPrinted || printed)

/-- What is left of the input after a search, which ends when enough is found. -/
def leftInput (r : SearchRequest) (s : Setting) (files : List (List Char)) : Option (List Char) :=
  match r.view.most, files with
  | some n, [['-']] =>
    let lines := searchLines r.view.query (some n) (plainLines s.input.text) 1 0 0 []
    match (lines.filter (·.isMeant)).getLast? with
    | some line =>
      let isEnough := n ≤ (lines.filter (·.isMeant)).length
      some (if s.inputIsFile && isEnough then
          s.input.text.drop (line.offset + line.text.length + 1) else [])
    | none => some []
  | _, _ => leftAfter files

/-- The status behind a search: trouble counts more than what was found, unless only that was
asked for. -/
def status (r : SearchRequest) (isFound failed : Bool) : Nat :=
  if failed && !(r.isQuiet && isFound) then 2 else if isFound then 0 else 1

def run (r : SearchRequest) (s : Setting) (warnings : List Saying) : Effect :=
  let (files, hasDirectory) := r.searchedFiles s
  let isTitled := r.titles.getD (hasDirectory || 1 < r.files.length)
  let r := { r with view := { r.view with isTitled } }
  let results := r.searchAll s files false
  { said := warnings ++ results.flatMap (·.said)
    status := r.status (results.any (·.isFound)) (results.any (·.failed))
    left := r.leftInput s files }

end SearchRequest

/-- Prints the lines that match one of the given expressions. -/
def grep : Utility := fun s arguments =>
  match Options.readFrom searchFlags none (contextArguments false arguments) with
  | .error complaint => searchUsage s 2 [s.complaint complaint]
  | .ok o =>
    match o.flags.findSome? fun (flag, value) => optionRefusal? s flag value with
    | some (complaint, true) => searchUsage s 1 [s.complaint complaint]
    | some (complaint, false) => s.failing 2 complaint
    | none =>
      match spellingOf o, searchPatterns s o with
      | .error complaint, _ => s.failing 2 complaint
      | _, none => searchUsage s 2 []
      | .ok spelling, some (patterns, files) =>
        let r := searchRequest s o spelling patterns files
        let q := r.view.query
        match soughtBy spelling q.mode.anyCase q.isWord q.isLine patterns with
        | .error fault => s.failing 2 fault.message
        | .ok (sought, idle) =>
          let warnings := (if o.has 'u' then
              [s.complaint "warning: --unix-byte-offsets (-u) is obsolete".toList] else []) ++
            idle.map fun sign =>
              s.complaint ("warning: ".toList ++ sign ++ " at start of expression".toList)
          { r with view := { r.view with query := { q with sought } } }.run s warnings

/-- Prints the lines that match an extended expression. -/
def egrep : Utility := fun s arguments =>
  grep { s with title := "grep".toList } (['-', 'E'] :: arguments)

/-- Prints the lines that hold a text. -/
def fgrep : Utility := fun s arguments =>
  grep { s with title := "grep".toList } (['-', 'F'] :: arguments)

end BoardBind.Script
