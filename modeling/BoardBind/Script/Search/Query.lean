import BoardBind.Script.Options
import BoardBind.Script.Regex.OrderedReader
import BoardBind.Script.Regex.Reader

/-! # What a search looks for and prints

An expression is looked for in the lines of a file: as the longest match, or as the one that is
found first when it is tried in order. It may have to be a whole word or a whole line, and the lines
without it may be meant.

For each file the lines that are meant are printed, with lines around them, with what is known about
each line before it, and perhaps with colours.
-/

namespace BoardBind.Script

/-! ## What a search looks for -/

/-- An expression that is looked for. -/
inductive Sought where
  | longest (r : Regex)
  /-- An expression that is tried in order, with its size. -/
  | ordered (e : Ordered) (size : Nat)

/-- What is looked for in lines. -/
structure Query where
  sought : Sought
  mode : Regex.Mode := {}
  /-- Whether only whole words are found. -/
  isWord : Bool := false
  /-- Whether only whole lines are found. -/
  isLine : Bool := false
  /-- Whether the lines without a match are meant. -/
  isNegated : Bool := false

namespace Query

/-- A match: where it starts and where it ends. -/
abbrev Span := Regex.Position × Regex.Position

def matchAt (q : Query) (p : Regex.Position) : Option Span :=
  match q.sought with
  | .ordered e size =>
    (e.matchAt size p).map fun t =>
      (Ordered.backBy (t.start - t.place.left) t.place, t.place)
  | .longest r =>
    let stop :=
      if q.isLine then
        if p.before = [] then (r.ends q.mode p).find? fun stop => stop.after = [] else none
      else if q.isWord then
        if p.before.head?.any Regex.isWordChar then none
        else
          Regex.farthest? ((r.ends q.mode p).filter fun stop =>
            stop.left < p.left && !stop.after.head?.any Regex.isWordChar)
      else r.matchAt q.mode p
    stop.map fun stop => (p, stop)

def findFrom (q : Query) : Nat → List Char → List Char → Option Span
  | left, before, after =>
    (q.matchAt { before, after, left }).or
      (match after with
      | [] => none
      | c :: rest => q.findFrom (left - 1) (c :: before) rest)

def selects (q : Query) (line : List Char) : Bool :=
  (q.findFrom line.length [] line).isSome ≠ q.isNegated

/-- The matches at or after a position that are not empty. Behind an empty one the search goes on one
character farther. -/
def spansFrom (q : Query) : Nat → Regex.Position → List Span
  | 0, _ => []
  | fuel + 1, p =>
    match q.findFrom p.left p.before p.after with
    | none => []
    | some (start, stop) =>
      if start.left ≤ stop.left then
        match start.after with
        | [] => []
        | c :: rest =>
          q.spansFrom fuel { before := c :: start.before, after := rest, left := start.left - 1 }
      else (start, stop) :: q.spansFrom fuel { stop with groups := [] }

def spans (q : Query) (line : List Char) : List Span :=
  q.spansFrom (line.length + 1) (.ofText line)

/-- An expression that is tried in order, as a whole line or word if that is wanted. -/
def ofOrdered (e : Ordered) (isWord isLine : Bool) : Sought :=
  let word := Ordered.one false false [.named ['w'] true]
  let e :=
    if isLine then .sequence [.lineStart true, e, .lineEnd true]
    else if isWord then .sequence [.behind false word, e, .ahead false word]
    else e
  .ordered e e.size

end Query

/-- How patterns are written. -/
inductive Spelling where
  | basic
  | extended
  | fixed
  | ordered
  deriving DecidableEq

/-- What is wrong with the patterns of a search. -/
inductive PatternFault where
  | regex (fault : Regex.Fault)
  | ordered (reason : String)
  | several

def PatternFault.message : PatternFault → List Char
  | .regex fault => fault.message
  | .ordered reason => reason.toList
  | .several => "the -P option only supports a single pattern".toList

/-- The expression that several patterns make, and the repetitions in them that have nothing to
repeat. -/
def soughtBy (writing : Spelling) (anyCase isWord isLine : Bool) (patterns : List (List Char)) :
    Except PatternFault (Sought × List (List Char)) :=
  let together := fun options : List Regex =>
    Sought.longest (match options with
      | [single] => single
      | options => .choice options)
  match writing, patterns with
  | .fixed, patterns => .ok (together (patterns.map Regex.ofPlain), [])
  | .ordered, [] => .ok (together [], [])
  | .ordered, [pattern] =>
    match Ordered.read anyCase pattern with
    | .ok e => .ok (Query.ofOrdered e isWord isLine, [])
    | .error reason => .error (.ordered reason)
  | .ordered, _ => .error .several
  | writing, patterns => do
    let isExtended := decide (writing = .extended)
    let read ← patterns.mapM fun pattern =>
      (Regex.read { isExtended, isForgiving := true, isWary := true, repeatsPlaces := true }
        pattern).mapError .regex
    return (together (read.map (·.regex)), if isExtended then read.flatMap (·.idle) else [])

/-! ## What a search prints -/

/-- A line of a file: its text, its number, its offset and whether it is meant. -/
structure SearchLine where
  text : List Char
  number : Nat
  offset : Nat
  isMeant : Bool

/-- The lines of a text; once enough are found, no other line is meant. -/
def searchLines (q : Query) (most : Option Nat) :
    List (List Char) → Nat → Nat → Nat → List SearchLine → List SearchLine
  | [], _, _, _, done => done.reverse
  | text :: rest, number, offset, found, done =>
    let isMeant := !most.any (· ≤ found) && q.selects text
    searchLines q most rest (number + 1) (offset + text.length + 1)
      (if isMeant then found + 1 else found) (⟨text, number, offset, isMeant⟩ :: done)

/-- What is told about each file. -/
inductive SearchAim where
  | lines
  | count
  /-- The names of the files with a line that is meant, or without any. -/
  | names (isFound : Bool)
  | nothing
  deriving DecidableEq

/-- How lines are printed. -/
structure SearchView where
  query : Query
  aim : SearchAim := .lines
  isTitled : Bool := false
  hasNumbers : Bool := false
  hasOffsets : Bool := false
  /-- Whether only what matches is printed. -/
  isSparse : Bool := false
  /-- Whether the character zero follows names. -/
  endsNames : Bool := false
  /-- Whether a tab stands before each line. -/
  isAligned : Bool := false
  hasColours : Bool := false
  /-- The numbers of lines around, if they were asked for. -/
  before : Option Nat := none
  after : Option Nat := none
  /-- What stands between groups of lines that are apart. -/
  divider : Option (List Char) := some "--".toList
  lineEnd : Char := '\n'
  /-- The greatest number of lines. -/
  most : Option Nat := none

namespace SearchView

def tinted (v : SearchView) (colour : String) (text : List Char) : List Char :=
  if v.hasColours && colour ≠ "" then
    "\x1b[".toList ++ colour.toList ++ "m\x1b[K".toList ++ text ++ "\x1b[m\x1b[K".toList
  else text

def titled (v : SearchView) (name : List Char) (sign : Char) : List Char :=
  v.tinted "35" name ++ if v.endsNames then ['\x00'] else v.tinted "36" [sign]

/-- What stands before a line, with the sign of a line that is meant or is not. Numbers are as wide
as the greatest one may be. -/
def head (v : SearchView) (name : List Char) (width number offset : Nat) (sign : Char)
    (isEmpty : Bool) : List Char :=
  let shown := fun n : Nat =>
    let digits := decimal n
    v.tinted "32" (List.replicate (width - digits.length) ' ' ++ digits) ++ v.tinted "36" [sign]
  (if v.isTitled then v.titled name sign else []) ++
  (if v.hasNumbers then shown number else []) ++
  (if v.hasOffsets then shown offset else []) ++
  (if v.isAligned && (v.isTitled || v.hasNumbers || v.hasOffsets) && !isEmpty then ['\t'] else [])

def tintedLine (v : SearchView) (text : List Char) : List Char :=
  let (shown, last) := (v.query.spans text).foldl
    (fun (shown, from?) (start, stop) =>
      let between := match from? with
        | some left => (text.drop (text.length - left)).take (left - start.left)
        | none => text.take (text.length - start.left)
      (shown ++ between ++ v.tinted "01;31" (start.upTo stop), some stop.left))
    (([], none) : List Char × Option Nat)
  shown ++ text.drop (text.length - last.getD text.length)

def line (v : SearchView) (name : List Char) (width : Nat) (line : SearchLine) : List Char :=
  let sign := if line.isMeant then ':' else '-'
  let isMatching := line.isMeant ≠ v.query.isNegated
  if v.isSparse then
    if isMatching then
      (v.query.spans line.text).flatMap fun (start, stop) =>
        let offset := line.offset + (line.text.length - start.left)
        v.head name width line.number offset (if v.query.isNegated then '-' else ':') false ++
          v.tinted "01;31" (start.upTo stop) ++ [v.lineEnd]
    else []
  else
    v.head name width line.number line.offset sign line.text.isEmpty ++
      (if v.hasColours && isMatching then v.tintedLine line.text else line.text) ++ [v.lineEnd]

/-- Whether a line is printed: it is meant, or near to a line that is. -/
def isShown (v : SearchView) (meant : List Nat) (n : Nat) : Bool :=
  meant.any fun m => m ≤ n + v.before.getD 0 && n ≤ m + v.after.getD 0

/-- The lines that are printed, with a mark between those that are apart. Something may have been
printed for other files before. -/
def lines (v : SearchView) (hasPrinted : Bool) (name : List Char) (width : Nat)
    (lines : List SearchLine) : List Char :=
  let meant := lines.filter (·.isMeant)
  if v.before.isNone && v.after.isNone then meant.flatMap (v.line name width)
  else
    let numbers := meant.map (·.number)
    let mark := match v.divider with
      | some divider => v.tinted "36" divider ++ ['\n']
      | none => []
    let step := fun (state : List (List Char) × Bool × Option Nat) (line : SearchLine) =>
      let (texts, hasPrinted, last) := state
      let isApart := hasPrinted && last.all (· + 1 < line.number)
      let text := (if isApart then mark else []) ++ v.line name width line
      (text :: texts, true, some line.number)
    ((lines.filter fun line => v.isShown numbers line.number).foldl step
      ([], hasPrinted, none)).1.reverse.flatten

end SearchView

/-- A file that was searched. -/
structure SearchResult where
  said : List Saying := []
  isFound : Bool := false
  failed : Bool := false

/-- How texts are taken that hold the character zero. -/
inductive BinaryRule where
  /-- That they match is told, but no line is printed. -/
  | hidden
  | text
  /-- Nothing is found in them. -/
  | skipped
  deriving DecidableEq

namespace SearchView

def search (v : SearchView) (s : Setting) (binary : BinaryRule) (hasPrinted : Bool)
    (name text : List Char) (isSized : Bool) : SearchResult :=
  let isBinary := text.contains '\x00' && binary ≠ .text && v.lineEnd = '\n'
  if isBinary && binary = .skipped then
    (match v.aim with
    | .names false => { said := [{ text := v.tinted "35" name ++ ['\n'] }] }
    | .count =>
      { said := [{ text := (if v.isTitled then v.titled name ':' else []) ++ "0\n".toList }] }
    | _ => {})
  else
    let text := if isBinary then text.map fun c => if c = '\x00' then '\n' else c else text
    let texts := plainPieces v.lineEnd text
    let lines := searchLines v.query v.most texts 1 0 0 []
    let count := (lines.filter (·.isMeant)).length
    let width :=
      if !(v.isAligned && (v.hasNumbers || v.hasOffsets)) then 0
      else if isSized then (decimal (text.length + if v.hasNumbers then 1 else 0)).length
      else 19
    let named := v.tinted "35" name ++ if v.endsNames then ['\x00'] else ['\n']
    let said : List Saying :=
      match v.aim with
      | .nothing => []
      | .names isFound => if (0 < count) = isFound then [{ text := named }] else []
      | .count =>
        [{ text := (if v.isTitled then v.titled name ':' else []) ++ decimal count ++ ['\n'] }]
      | .lines =>
        if isBinary then
          (if 0 < count then [s.complaint (name ++ ": binary file matches".toList)] else [])
        else [{ text := v.lines hasPrinted name width lines }]
    { said, isFound := 0 < count }

end SearchView

end BoardBind.Script
