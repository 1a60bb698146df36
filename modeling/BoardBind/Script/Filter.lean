import BoardBind.Script.Files
import BoardBind.Script.Format

/-! # Programs that read and print

The programs of the system that read files or their input and print them, or a part of them, or
what they count in them.
-/

namespace BoardBind.Script

/-- What is said about each file: its text changed, or a complaint. -/
def sayEach (s : Setting) (names : List (List Char)) (make : List Char → List Char) :
    List Saying × Bool :=
  let results := (s.readAll names).map fun (name, text) =>
    match text with
    | .ok text => (({ text := make text } : Saying), true)
    | .error reason => (s.fileComplaint name reason, false)
  (results.map (·.1), results.all (·.2))

/-- The effect of printing what is made of each readable file. A file that cannot be read counts as
a failure with the given status. -/
def printEach (s : Setting) (names : List (List Char)) (failure : Nat)
    (make : List Char → List Char) : Effect :=
  let (said, fine) := sayEach s names make
  { said, status := if fine then 0 else failure, left := leftAfter names }

/-- The effect of printing what is made of all files together. -/
def printJoined (s : Setting) (names : List (List Char)) (failure : Nat)
    (make : List Char → List Char) : Effect :=
  let (said, fine) := sayEach s names id
  let text := (said.filter fun say => !say.isComplaint).flatMap (·.text)
  { said := (said.filter (·.isComplaint)) ++ [{ text := make text }]
    status := if fine then 0 else failure
    left := leftAfter names }

def filled (c : Char) (width : Nat) (text : List Char) : List Char :=
  List.replicate (width - text.length) c ++ text

/-- A number filled up with blanks in front. -/
def padded (width n : Nat) : List Char :=
  filled ' ' width (decimal n)

/-- A character in a form that shows itself; line ends and, unless asked for, tabs stay. -/
def shownChar (tabs : Bool) (c : Char) : List Char :=
  let low := fun n : Nat =>
    if n < 32 then ['^', Char.ofNat (n + 64)] else if n = 127 then ['^', '?'] else [Char.ofNat n]
  if c = '\n' || (c = '\t' && !tabs) then [c]
  else if c.toNat < 128 then low c.toNat
  else "M-".toList ++ low (c.toNat - 128)

/-- Drops all but one of several empty lines in a row. -/
def squeezedLines (lines : List (List Char)) : List (List Char) :=
  (lines.foldl (fun kept line =>
    if line = ['\n'] && kept.head? = some ['\n'] then kept else line :: kept) []).reverse

/-- How `cat` shows lines. -/
def catView (o : Options) (text : List Char) : List Char :=
  let showsAll := o.has 'A'
  let showsEnds := showsAll || o.has 'E' || o.has 'e'
  let showsTabs := showsAll || o.has 'T' || o.has 't'
  let showsControls := showsAll || o.has 'v' || o.has 'e' || o.has 't'
  let view := fun line : List Char =>
    let body := if showsControls then line.flatMap (shownChar showsTabs)
      else if showsTabs then line.flatMap fun c => if c = '\t' then ['^', 'I'] else [c]
      else line
    if showsEnds && line.getLast? = some '\n' then body.dropLast ++ ['$', '\n'] else body
  let lines := fullLines text
  let lines := if o.has 's' then squeezedLines lines else lines
  let isMarked := fun line : List Char =>
    if o.has 'b' then line ≠ ['\n'] else o.has 'n'
  let step := fun (state : List (List Char) × Nat) (line : List Char) =>
    if isMarked line then ((padded 6 state.2 ++ '\t' :: view line) :: state.1, state.2 + 1)
    else (view line :: state.1, state.2)
  (lines.foldl step ([], 1)).1.reverse.flatten

/-- The options of `cat`. -/
def catFlags : Flags where
  plain := "AbeEnstTuv"
  words :=
    [("show-all", 'A'), ("number-nonblank", 'b'), ("show-ends", 'E'), ("number", 'n'),
      ("squeeze-blank", 's'), ("show-tabs", 'T'), ("show-nonprinting", 'v')]

/-- What `cat` says about each file, until one never ends. -/
def catEach (s : Setting) : List (List Char) → Effect → Effect
  | [], e => { e with said := e.said.reverse }
  | name :: rest, e =>
    if s.isOwnTarget name then
      let complaint := s.complaint (name ++ ": input file is output file".toList)
      catEach s rest { e with said := complaint :: e.said, status := 1 }
    else
      match s.open name with
      | .error reason =>
        catEach s rest { e with said := s.fileComplaint name reason :: e.said, status := 1 }
      | .ok stream =>
        let said : List Saying := { text := stream.text } :: e.said
        if stream.isEndless then { e with said := said.reverse, unit := stream.unit }
        else catEach s rest { e with said }

/-- Prints files one after the other. A file is never printed to its own end. -/
def cat : Utility := withOptions catFlags 1 fun s o =>
  if (o.flags.filter fun f => f.1 ≠ 'u') = [] then
    catEach s (orInput o.operands) { left := leftAfter o.operands }
  else
    let step := fun (state : List Saying × List Char × Nat) (file : List Char ×
        Except OsError (List Char)) =>
      let (said, before, shown) := state
      match file.2 with
      | .error reason => (s.fileComplaint file.1 reason :: said, before, shown)
      | .ok text =>
        let view := catView o (before ++ text)
        ({ text := view.drop shown } :: said, before ++ text, view.length)
    let (said, _) := (s.readAll o.operands).foldl step ([], [], 0)
    { said := said.reverse, status := if said.any (·.isComplaint) then 1 else 0
      left := leftAfter o.operands }

/-- Prints arguments between blanks. -/
def echoProgram : Utility := fun _ arguments => printing (echoedPlainly false true arguments)

def printfProgram : Utility := fun s arguments =>
  let arguments := if arguments.head? = some ['-', '-'] then arguments.tail else arguments
  match arguments with
  | [] => s.misused 1 "missing operand".toList
  | format :: values =>
    let p := Printing.ofFormat .program format values
    { said := p.complaints.reverse.map s.complaint ++ [{ text := p.text }]
      status := if p.status ≠ 0 then 1 else 0 }

/-- The letters that multiply a number, by the powers of the base that they stand for. -/
def unitLetters : List Char := ['K', 'M', 'G', 'T', 'P', 'E', 'Z', 'Y', 'R', 'Q']

/-- The size of the unit behind a number. A letter alone, or with more behind it, counts in steps of
1024; with a capital letter for bytes behind it, in steps of 1000. -/
def unitSize? (text : List Char) : Option Nat :=
  match text with
  | [] => some 1
  | ['b'] => some 512
  | c :: more =>
    let letter := if c = 'k' || c = 'm' then c.toUpper else c
    let base := match more with
      | [] => some 1024
      | ['B'] => some 1000
      | ['i', 'B'] => some 1024
      | _ => none
    match unitLetters.idxOf? letter, base with
    | some rank, some base => some ((List.replicate (rank + 1) base).foldl (· * ·) 1)
    | _, _ => none

def sizeNumber? (text : List Char) : Option Nat :=
  let digits := text.takeWhile Char.isDigit
  if digits = [] then none
  else (unitSize? (text.drop digits.length)).map fun unit => unit * Arithmetic.ofDigits 10 digits

/-- Reads an older writing of a number of lines or characters, a dash with digits and letters as the
first argument, in the newer one. -/
def modernHead : List (List Char) → Except (List Char) (List (List Char))
  | ('-' :: text) :: rest =>
    let digits := text.takeWhile Char.isDigit
    if digits = [] then .ok (('-' :: text) :: rest)
    else
      let letters := text.drop digits.length
      match letters.find? (· ∉ ['c', 'b', 'k', 'm', 'l', 'q', 'v', 'z']) with
      | some c => .error ("invalid trailing option -- ".toList ++ [c])
      | none =>
        let unit := letters.filter (· ∈ ['c', 'b', 'k', 'm', 'l'])
        let isChars := unit.getLast?.any (· ≠ 'l')
        let factor := unit.reverse.takeWhile (· ≠ 'c') |>.filter (· ≠ 'l') |>.take 1
        let shown := letters.filter (· ∈ ['q', 'v', 'z'])
        .ok ((if isChars then ['-', 'c'] else ['-', 'n']) :: (digits ++ factor) ::
          (shown.map fun c => ['-', c]) ++ rest)
  | arguments => .ok arguments

/-- Reads an older writing of a number of lines or characters, a sign with digits and letters before
at most one name, in the newer one. -/
def modernTail (arguments : List (List Char)) : List (List Char) :=
  let isPlain := match arguments.tail with
    | [] => true
    | [['-']] => true
    | ['-', '-'] :: more => more.length ≤ 1
    | [name] => name.head? ≠ some '-'
    | _ => false
  match arguments with
  | (sign :: text) :: rest =>
    let digits := text.takeWhile Char.isDigit
    let letters := text.drop digits.length
    let unit := letters.take 1 |>.filter (· ∈ ['b', 'c', 'l'])
    let after := letters.drop unit.length
    let isOld := isPlain && (after = [] || after = ['f']) &&
      (sign = '+' || sign = '-' && text ≠ [] && text ≠ ['c'])
    if isOld && (digits ≠ [] || unit ≠ [] || after ≠ []) then
      let count := (if digits = [] then "10".toList else digits) ++ unit.filter (· = 'b')
      let value := if sign = '+' then '+' :: count else count
      let isChars := unit.any (· ≠ 'l')
      (if isChars then ['-', 'c'] else ['-', 'n']) :: value ::
        (if after = [] then [] else [['-', 'f']]) ++ rest
    else arguments
  | arguments => arguments

/-- Whether names stand above the texts: if they are asked for, or if there is more than one. -/
def isTitled (o : Options) (names : List (List Char)) : Bool :=
  match o.last? ['q', 'v'] with
  | some flag => flag = 'v'
  | none => 1 < names.length

def fileTitle (isFirst : Bool) (name : List Char) : List Char :=
  let shown := if name = ['-'] then "standard input".toList else name
  (if isFirst then [] else ['\n']) ++ "==> ".toList ++ shown ++ " <==\n".toList

/-- Prints a part of each file, perhaps with its name above it. -/
def printParts (s : Setting) (o : Options) (make : Stream → Effect) : Effect :=
  let names := orInput o.operands
  let hasTitles := isTitled o names
  let step := fun (e : Effect × Bool) (name : List Char) =>
    if e.1.unit ≠ [] then e
    else
      match s.open name with
      | .error .isDirectory =>
        let title : List Saying :=
          if hasTitles then [{ text := fileTitle e.2 name }] else []
        let complaint := s.complaint ("error reading ".toList ++ inMarks name ++
          ": ".toList ++ OsError.isDirectory.reason.toList)
        ({ e.1 with said := e.1.said ++ title ++ [complaint], status := 1 }, false)
      | .error reason =>
        let complaint := s.complaint ("cannot open ".toList ++ inMarks name ++
          " for reading: ".toList ++ reason.reason.toList)
        ({ e.1 with said := e.1.said ++ [complaint], status := 1 }, e.2)
      | .ok stream =>
        let title : List Saying :=
          if hasTitles then [{ text := fileTitle e.2 name }] else []
        let part := make stream
        let left := if name = ['-'] then part.left else e.1.left
        ({ e.1 with
          said := e.1.said ++ title ++ part.said, unit := part.unit, left
          microseconds := e.1.microseconds + part.microseconds }, false)
  (names.foldl step ({}, true)).1

/-- The options of `head`. -/
def headFlags : Flags where
  plain := "qvz0123456789"
  valued := "nc"
  words := [("bytes", 'c'), ("lines", 'n'), ("quiet", 'q'), ("silent", 'q'), ("verbose", 'v'),
    ("zero-terminated", 'z')]

/-- The complaint about a number of lines or characters. -/
def countComplaint (o : Options) (count : List Char) : List Char :=
  let unit := if o.last? ['n', 'c'] = some 'c' then "bytes" else "lines"
  "invalid number of ".toList ++ unit.toList ++ ": ".toList ++ inMarks count

/-- The number of lines or characters that a text means, where the whole value is complained
about. -/
def countOf (o : Options) (value text : List Char) : Except (List Char) Nat :=
  match sizeNumber? text with
  | none => .error (countComplaint o value)
  | some n =>
    if 18446744073709551615 < n then
      .error (countComplaint o value ++ ": Value too large for defined data type".toList)
    else .ok n

/-- The first lines of a text, the last character first. -/
def leadingLines (ending : Char) (count : Nat) (text : List Char) (done : List Char) : List Char :=
  match count, text with
  | 0, _ => done
  | _, [] => done
  | n + 1, c :: rest => leadingLines ending (if c = ending then n else n + 1) rest (c :: done)

/-- The number of characters that are read at once to find lines. -/
def lineBlock : Nat := 8192

/-- The first lines of a stream. One without line ends goes on for ever. -/
def firstLines (s : Setting) (ending : Char) (count : Nat) (stream : Stream) : Effect :=
  let full := stream.text ++ stream.units count
  let first := (leadingLines ending count full []).reverse
  let isOpen := stream.isEndless && (first.filter (· = ending)).length < count
  if isOpen then { printing first with unit := stream.unit }
  else { printing first with left := some (s.leftBehind lineBlock first.length) }

def digitFlag? (o : Options) : Option Char :=
  (o.flags.find? fun f => f.1.isDigit).map (·.1)

/-- Prints the first part of each file: a number of lines or characters, or all but the last of
them. -/
def head : Utility := fun s arguments =>
  let body := withOptions headFlags 1 fun s o =>
    let isChars := o.last? ['n', 'c'] = some 'c'
    let count := (o.value? (if isChars then 'c' else 'n')).getD ['1', '0']
    match digitFlag? o, count with
    | some c, _ => s.misused 1 ("invalid trailing option -- ".toList ++ [c])
    | none, '-' :: digits =>
      match countOf o digits digits with
      | .error complaint => s.failing 1 complaint
      | .ok n =>
        printParts s o fun stream =>
          let text := if isChars then stream.text.take (stream.text.length - n)
            else
              let lines := fullPieces o.ending stream.text
              (lines.take (lines.length - n)).flatten
          if stream.isEndless then { printing stream.text with unit := stream.unit }
          else { printing text with left := some [] }
    | none, digits =>
      match countOf o digits (if digits.head? = some '+' then digits.tail else digits) with
      | .error complaint => s.failing 1 complaint
      | .ok n =>
        printParts s o fun stream =>
          if isChars then { printing (stream.take n) with left := some (s.leftBehind 1 n) }
          else firstLines s o.ending n stream
  match modernHead arguments with
  | .error complaint => s.misused 1 complaint
  | .ok arguments => body s arguments

def lastPart {α : Type} (isFrom : Bool) (n : Nat) (items : List α) : List α :=
  if isFrom then items.drop (n - 1) else items.drop (items.length - n)

/-- The options of `tail`. -/
def tailFlags : Flags where
  plain := "Fqvz0123456789~"
  valued := "ncs#%"
  optional := "f"
  words := [("bytes", 'c'), ("follow", 'f'), ("lines", 'n'), ("max-unchanged-stats", '%'),
    ("pid", '#'), ("quiet", 'q'), ("retry", '~'), ("silent", 'q'), ("sleep-interval", 's'),
    ("verbose", 'v'), ("zero-terminated", 'z')]

/-- The letters of `tail` behind a dash, where the one that follows a file has no value. -/
def tailArguments (arguments : List (List Char)) : List (List Char) :=
  arguments.flatMap fun argument =>
    match argument with
    | '-' :: 'f' :: c :: more => [['-', 'f'], '-' :: c :: more]
    | argument => [argument]

/-- Prints the last part of each file, and goes on for ever if a file is to be followed. -/
def tail : Utility := fun s arguments =>
  withOptions tailFlags 1 (fun s o =>
    let isChars := o.last? ['n', 'c'] = some 'c'
    let count := (o.value? (if isChars then 'c' else 'n')).getD ['1', '0']
    let (isFrom, digits) := match count with
      | '+' :: digits => (true, digits)
      | '-' :: digits => (false, digits)
      | digits => (false, digits)
    match digitFlag? o, countOf o count digits with
    | some c, _ => s.failing 1 ("option used in invalid context -- ".toList ++ [c])
    | none, .error complaint => s.failing 1 complaint
    | none, .ok n =>
      let follows := (o.has 'f' || o.has 'F') && (o.operands ≠ [] || s.inputIsFile)
      let warning := fun text : String => s.complaint ("warning: " ++ text).toList
      let warnings :=
        (if o.has '~' && !follows then
          [warning "--retry ignored; --retry is useful only when following"] else []) ++
        (if o.has '#' && !follows then
          [warning "PID ignored; --pid=PID is useful only when following"] else [])
      let effect := printParts s o fun stream =>
        if stream.isEndless then { microseconds := endlessTime }
        else
          let text := if isChars then lastPart isFrom n stream.text
            else (lastPart isFrom n (fullPieces o.ending stream.text)).flatten
          { printing text with left := some [] }
      let effect := { effect with said := warnings ++ effect.said }
      let isLost := (orInput o.operands).all fun name => !(s.open name).isOk
      if !follows then effect
      else if isLost && !o.has 'F' && !o.has '~' then
        { effect with said := effect.said ++ [s.complaint "no files remaining".toList] }
      else { effect with microseconds := endlessTime })
    s (modernTail (tailArguments arguments))

def wordCount (text : List Char) : Nat :=
  let step := fun (state : Nat × Bool) (c : Char) =>
    if Arithmetic.isBlankChar c then (state.1, false)
    else (if state.2 then state.1 else state.1 + 1, true)
  (text.foldl step (0, false)).1

def lineWidth (line : List Char) : Nat :=
  line.foldl (fun n c =>
    if c = '\t' then (n / 8 + 1) * 8 else if ' ' ≤ c && c ≤ '~' then n + 1 else n) 0

/-- The options of `wc`. -/
def wcFlags : Flags where
  plain := "clmwL"
  valued := "0~"
  words := [("bytes", 'c'), ("chars", 'm'), ("lines", 'l'), ("words", 'w'), ("files0-from", '0'),
    ("max-line-length", 'L'), ("total", '~')]

/-- When sums are printed below what is counted in files. -/
inductive WhenTotal where
  | auto
  | always
  | only
  | never
  deriving DecidableEq

/-- The names of files that another file holds, if an option says so: they stand in place of
operands, each with the character zero behind it. -/
def listedNames (s : Setting) (o : Options) (option : Char) :
    Except (List Char) (Option (List (List Char))) :=
  match o.value? option, o.operands with
  | none, _ => .ok none
  | some _, operand :: _ =>
    .error ("extra operand ".toList ++ inMarks operand ++
      "\nfile operands cannot be combined with --files0-from".toList)
  | some list, [] =>
    match s.read list with
    | .ok text => .ok (some (plainPieces '\x00' text))
    | .error reason =>
      .error ("cannot open ".toList ++ inMarks list ++ " for reading: ".toList ++
        reason.reason.toList)

/-- Counts lines, words and characters in files. The numbers stand below each other, unless the
names of the files are not known from the start. -/
def countIn (s : Setting) (o : Options) (isNarrow : Bool) (when : WhenTotal)
    (operands : List (List Char)) : Effect :=
  let all := !(['c', 'l', 'm', 'w', 'L'].any o.has)
  let counts := fun text : List Char =>
    (if all || o.has 'l' then [(text.filter (· = '\n')).length] else []) ++
    (if all || o.has 'w' then [wordCount text] else []) ++
    (if o.has 'm' then [text.length] else []) ++
    (if all || o.has 'c' then [text.length] else []) ++
    (if o.has 'L' then [(plainLines text).foldl (fun n line => max n (lineWidth line)) 0] else [])
  let names := orInput operands
  let results := s.readAll operands
  let textOf := fun (text : Except OsError (List Char)) => text.toOption.getD []
  let isPlain := fun name : List Char =>
    if name = ['-'] then s.inputIsFile else s.disk.hasFile (s.path name)
  let joined := results.flatMap fun (_, text) => textOf text
  let isAbsent := fun name : List Char => name ≠ ['-'] && !s.disk.hasEntry (s.path name)
  let least := if names.all fun name => isPlain name || isAbsent name then 1 else 7
  let isSingle := (counts []).length = 1 && names.length = 1
  let width := if isSingle || isNarrow || when = .only then 1
    else max least (decimal joined.length).length
  let row := fun (counted : List Nat) (name : List Char) =>
    [' '].intercalate (counted.map (padded width)) ++ name ++ ['\n']
  let said := results.flatMap fun (name, text) =>
    let title := if operands = [] then [] else ' ' :: name
    let shown := fun text : List Char =>
      if when = .only then [] else [({ text := row (counts text) title } : Saying)]
    match text with
    | .ok text => shown text
    | .error .isDirectory => s.fileComplaint name .isDirectory :: shown []
    | .error reason => [s.fileComplaint name reason]
  let sums := results.foldl (fun sums (_, text) =>
    let counted := counts (textOf text)
    if o.has 'L' then
      (sums.dropLast.zipWith (· + ·) counted.dropLast) ++
        [max (sums.getLastD 0) (counted.getLastD 0)]
    else sums.zipWith (· + ·) counted) ((counts []).map fun _ => 0)
  let total : List Saying := match when with
    | .never => []
    | .only => [{ text := row sums [] }]
    | .always => [{ text := row sums " total".toList }]
    | .auto => if 1 < names.length then [{ text := row sums " total".toList }] else []
  { said := said ++ total
    status := if results.all fun (_, text) => text.isOk then 0 else 1
    left := leftAfter operands }

/-- Counts lines, words and characters. -/
def wc : Utility := withOptions wcFlags 1 fun s o =>
  let when := choiceOf "total"
    [(["auto"], WhenTotal.auto), (["always"], .always), (["only"], .only), (["never"], .never)]
    ((o.value? '~').getD "auto".toList)
  match when, listedNames s o '0' with
  | .error complaint, _ => s.misused 1 complaint
  | _, .error complaint =>
    if complaint.head? = some 'e' then s.misused 1 complaint else s.failing 1 complaint
  | .ok when, .ok none => countIn s o false when o.operands
  | .ok _, .ok (some []) => {}
  | .ok when, .ok (some names) =>
    countIn s o (o.value? '0' = some ['-'] && !s.inputIsFile) when names

/-- The options of a program that has none of its own. -/
def noFlags : Flags := {}

/-- Prints lines back to front. -/
def rev : Utility := withOptions noFlags 1 fun s o =>
  printEach s o.operands 1 fun text =>
    (fullLines text).flatMap fun line =>
      if line.getLast? = some '\n' then line.dropLast.reverse ++ ['\n'] else line.reverse

def yes : Utility := fun _ arguments =>
  let line := (if arguments = [] then ['y'] else [' '].intercalate arguments) ++ ['\n']
  { unit := line }

def columnAfter (column : Nat) (c : Char) : Nat :=
  if c = '\t' then (column / 8 + 1) * 8
  else if c = '\x08' then column - 1
  else if c = '\r' then 0
  else column + 1

/-- Breaks a line into pieces of a width. What is done is handed through, the last piece first, with
the open piece, its last character first. -/
def foldLine (width : Nat) (after : Nat → Char → Nat) (atBlanks : Bool) :
    Nat → List Char → Nat → List Char → List (List Char) → List (List Char)
  | 0, _, _, piece, done => piece.reverse :: done
  | _, [], _, piece, done => piece.reverse :: done
  | fuel + 1, c :: rest, column, piece, done =>
    let next := after column c
    if next ≤ width || piece = [] then
      foldLine width after atBlanks fuel rest next (c :: piece) done
    else
      let tail := if atBlanks then piece.takeWhile fun c => c ≠ ' ' && c ≠ '\t' else []
      if atBlanks && tail.length < piece.length then
        let kept := piece.drop tail.length
        let column := tail.reverse.foldl after 0
        foldLine width after atBlanks fuel (c :: rest) column tail (kept.reverse :: done)
      else foldLine width after atBlanks fuel (c :: rest) 0 [] (piece.reverse :: done)

/-- Breaks lines that are too long. -/
def foldProgram : Utility := withOptions
    { plain := "bs", valued := "w", words := [("bytes", 'b'), ("spaces", 's'), ("width", 'w')] } 1
    fun s o =>
  match natural? ((o.value? 'w').getD "80".toList) with
  | none => s.failing 1 ("invalid number of columns: ".toList ++ inMarks ((o.value? 'w').getD []))
  | some 0 => s.failing 1 "invalid number of columns: '0': Numerical result out of range".toList
  | some width =>
    let after := if o.has 'b' then fun column (_ : Char) => column + 1 else columnAfter
    printEach s o.operands 1 fun text =>
      (fullLines text).flatMap fun line =>
        let hasEnd := line.getLast? = some '\n'
        let body := if hasEnd then line.dropLast else line
        let pieces := (foldLine width after (o.has 's') (2 * body.length + 2) body 0 [] []).reverse
        ['\n'].intercalate pieces ++ if hasEnd then ['\n'] else []

end BoardBind.Script
