import BoardBind.Script.Date
import BoardBind.Script.Files
import BoardBind.Script.Format
import BoardBind.Script.Mode

/-! # Programs that make and change files

The programs of the system that make files and directories and change their size, mode and time.
-/

namespace BoardBind.Script

/-- Something that was brought from one place to another, under the name it was given there. -/
structure Carried where
  source : Place
  target : Place
  name : List Char

/-- What has come of the steps on a disk until now. -/
structure Progress where
  disk : Disk
  said : List Saying := []
  failed : Bool := false
  /-- The answers that are left for questions. -/
  answers : List (List Char) := []
  /-- The files that arguments named. -/
  named : List Place := []
  /-- What was made of the files that arguments named. -/
  fresh : List Place := []
  /-- What later steps may meet again: directories, and files that are found at several places. -/
  known : List Carried := []

namespace Progress

def complain (p : Progress) (s : Setting) (text : List Char) : Progress :=
  { p with said := p.said ++ [s.complaint text], failed := true }

def warn (p : Progress) (s : Setting) (text : List Char) : Progress :=
  { p with said := p.said ++ [s.complaint text] }

/-- Goes on with a complaint about a file and the reason for it. -/
def refuse (p : Progress) (s : Setting) (what : String) (name : List Char) (reason : OsError) :
    Progress :=
  p.complain s (what.toList ++ ' ' :: fileMarks name ++ ": ".toList ++ reason.reason.toList)

def report (p : Progress) (isWanted : Bool) (text : List Char) : Progress :=
  if isWanted then { p with said := p.said ++ [{ text := text ++ ['\n'] }] } else p

/-- Asks a question, if questions are wanted, and says whether the answer is yes. -/
def ask (p : Progress) (s : Setting) (isWanted : Bool) (question : List Char) : Progress × Bool :=
  if !isWanted then (p, true)
  else
    let text := s.title ++ ": ".toList ++ question ++ "? ".toList
    let answer := p.answers.headD []
    ({ p with said := p.said ++ [{ isComplaint := true, text }], answers := p.answers.tail },
      answer.head? = some 'y' || answer.head? = some 'Y')

def effect (p : Progress) : Effect :=
  { said := p.said, disk := some p.disk, status := if p.failed then 1 else 0 }

end Progress

def Setting.progress (s : Setting) : Progress where
  disk := s.disk
  answers := plainLines s.input.text

/-- The moment of a text of digits: month, day, hour and minute, perhaps with a year in front of
them, and seconds behind a point. -/
def stampMoment? (zone : Zone) (now : Moment) (text : List Char) : Option Moment := do
  let digits := text.takeWhile Char.isDigit
  let seconds ← match text.drop digits.length with
    | [] => some 0
    | '.' :: rest => if rest.length = 2 then natural? rest else none
    | _ => none
  let number := fun (start size : Nat) => Arithmetic.ofDigits 10 ((digits.drop start).take size)
  let year : Int ← match digits.length with
    | 8 => some (Civil.ofSeconds (now.seconds + zone.offset)).year
    | 10 => some (fullYear (number 0 2) 2 : Int)
    | 12 => some (number 0 4 : Int)
    | _ => none
  let start := digits.length - 8
  let c : Civil := {
    year, month := number start 2, day := number (start + 2) 2
    hour := number (start + 4) 2, minute := number (start + 6) 2, second := seconds }
  if c.isValid then some ⟨c.seconds - zone.offset, 0⟩ else none

/-- The time that `touch` gives to files, or what is wrong with how it is told. -/
def touchMoment (s : Setting) (o : Options) : Except (List Char) Int := do
  let reference ← match o.value? 'r' with
    | none => .ok s.now
    | some name =>
      match s.disk.find (s.path name) with
      | .ok (place, _) => .ok (.ofNanoseconds (s.disk.modifiedAt place))
      | .error reason =>
        .error ("failed to get attributes of ".toList ++ inMarks name ++ ": ".toList ++
          reason.reason.toList)
  let told := match o.value? 'd', o.value? 't' with
    | some text, _ => (momentOf? s.zone reference text, text)
    | none, some text => (stampMoment? s.zone s.now text, text)
    | none, none => (some reference, [])
  match told with
  | (some m, _) => .ok m.total
  | (none, text) => .error ("invalid date format ".toList ++ inMarks text)

/-- Sets the time of a file, which is made if it is missing. -/
def touchStep (s : Setting) (o : Options) (moment : Option Int) (p : Progress) (name : List Char) :
    Progress :=
  let stamped := fun (p : Progress) (place : Place) =>
    match moment with
    | some moment => { p with disk := p.disk.withModified place moment }
    | none => p
  let found := if name = [] then .error .noEntry
    else if o.has 'h' then p.disk.entry (s.path name) else p.disk.find (s.path name)
  let setting := "setting times of"
  match found with
  | .ok (place, _) => stamped p place
  | .error reason =>
    if o.has 'c' || o.has 'h' then
      (if reason = .noEntry && o.has 'c' then p else p.refuse s setting name reason)
    else if name = [] then p.refuse s "cannot touch" name .noEntry
    else
      match openedPlace p.disk (s.path name) with
      | .ok place => stamped { p with disk := writeAt s.making p.disk place true [] } place
      | .error .isDirectory => p.refuse s setting name reason
      | .error reason => p.refuse s "cannot touch" name reason

/-- Makes files that are missing, and sets the time of those that are there. -/
def touch : Utility := withOptions
    { plain := "acmfh", valued := "drt!", words := [("no-create", 'c'), ("date", 'd'),
      ("reference", 'r'), ("time", '!'), ("no-dereference", 'h')] } 1 fun s o =>
  let badStamp := (o.values 't').find? fun text => (stampMoment? s.zone s.now text).isNone
  let chosen := (o.values '!').mapM (choiceOf "time"
    [(["atime", "access", "use"], true), (["mtime", "modify"], false)])
  match chosen, badStamp with
  | .error complaint, _ => s.misused 1 complaint
  | _, some text => s.failing 1 ("invalid date format ".toList ++ inMarks text)
  | .ok chosen, none =>
    if o.has 't' && (o.has 'd' || o.has 'r') then
      s.misused 1 "cannot specify times from more than one source".toList
    else
      match touchMoment s o with
      | .error complaint => s.failing 1 complaint
      | .ok moment =>
        let isOther := (o.has 'a' || chosen.any id) && !o.has 'm' && !chosen.any (!·)
        if o.operands = [] then s.misused 1 "missing file operand".toList
        else
          (o.operands.foldl (touchStep s o (if isOther then none else some moment))
            s.progress).effect

/-- A path with those above it, the highest first, as they are written. Only the whole path keeps
slashes at its end. -/
def pathSteps (name : List Char) : List (List Char) :=
  let parts := name.splitOn '/'
  let steps := ((List.range parts.length).map fun n =>
    ['/'].intercalate (parts.take (n + 1))).filter fun path =>
      path ≠ [] && path.getLast? ≠ some '/'
  steps.dropLast ++ [name]

/-- Makes a directory with the bits of a mode that are not taken away. -/
def Setting.newDirectory (s : Setting) (disk : Disk) (name : List Char) (mode : Nat) :
    Except OsError Disk := do
  let plain ← disk.makeDirectory (s.path name)
  match disk.lastStep (s.path name) with
  | .ok (parent, some last) => .ok (disk.made s.making (parent ++ [last]) .directory mode)
  | _ => .ok plain

/-- Makes a directory and those above it that are missing. Only the last one gets a mode of its
own. -/
def makeSteps (s : Setting) (isLoud : Bool) (mode : Option Nat) :
    List (List Char) → Progress → Progress
  | [], p => p
  | path :: rest, p =>
    if p.disk.hasDirectory (s.path path) then makeSteps s isLoud mode rest p
    else
      match s.newDirectory p.disk path 0o777 with
      | .ok disk =>
        let disk := match mode, rest, disk.find (s.path path) with
          | some mode, [], .ok (place, _) => disk.withMode place mode
          | _, _, _ => disk
        makeSteps s isLoud mode rest
          ({ p with disk }.report isLoud
            (s.title ++ ": created directory ".toList ++ inMarks path))
      | .error reason =>
        match reason, rest, p.disk.find (s.path path) with
        | .alreadyExists, [], .error .tooManyLevels =>
          p.refuse s "cannot stat" path .tooManyLevels
        | .alreadyExists, _ :: _, .error .tooManyLevels =>
          p.refuse s "cannot create directory" path .tooManyLevels
        | .alreadyExists, _ :: _, _ => p.refuse s "cannot create directory" path .notDirectory
        | reason, _, _ => p.refuse s "cannot create directory" path reason

def mkdir : Utility := withOptions
    { plain := "pvZ", valued := "m", words := [("parents", 'p'), ("verbose", 'v'), ("mode", 'm')] }
    1 fun s o =>
  let changes := (o.value? 'm').map modeChanges?
  if o.operands = [] then s.misused 1 "missing operand".toList
  else if changes.any Option.isNone then
    s.failing 1 ("invalid mode ".toList ++ inMarks ((o.value? 'm').getD []))
  else
    let mode := changes.join.map fun changes => applyChanges changes s.making.mask true 0o777
    (o.operands.foldl (fun (p : Progress) name =>
      if name = [] then p.refuse s "cannot create directory" name .noEntry
      else if o.has 'p' then makeSteps s (o.has 'v') mode (pathSteps name) p
      else if p.disk.hasEntry (s.path name) then
        p.refuse s "cannot create directory" name .alreadyExists
      else
        match p.disk.makeDirectory (s.path name) with
        | .ok _ => makeSteps s (o.has 'v') mode [name] p
        | .error reason => p.refuse s "cannot create directory" name reason) s.progress).effect

def insideOf (directory name : List Char) : List Char :=
  if directory.getLast? = some '/' then directory ++ name else directory ++ '/' :: name

def lastNameOf (path : List Char) : List Char :=
  ((withoutSlashes path).splitOn '/').getLastD []

/-- Prints its input and writes it to files too. -/
def tee : Utility := withOptions
    { plain := "aip", optional := "%", words := [("append", 'a'), ("ignore-interrupts", 'i'),
      ("output-error", '%')] } 1 fun s o =>
  let p := o.operands.foldl (fun (p : Progress) name =>
    match openedPlace p.disk (s.path name) with
    | .ok place =>
      { p with disk := writeAt s.making p.disk place (o.has 'a') (toBytes s.input.text) }
    | .error reason => p.complain s (name ++ ": ".toList ++ reason.reason.toList)) s.progress
  { p.effect with
    said := p.said ++ [{ text := s.input.text }], unit := s.input.unit, left := some [] }

/-- The modes of a tree: those of what is below come behind that of the directory. -/
def treePlaces (disk : Disk) : Nat → List Char → Place → List (List Char × Place)
  | 0, _, _ => []
  | fuel + 1, path, place =>
    match disk.at? place with
    | some .directory =>
      (path, place) :: (namesAt disk place).flatMap fun name =>
        treePlaces disk fuel (insideOf path name) (place ++ [diskName name])
    | some (.link _) => []
    | some (.file ..) => [(path, place)]
    | none => []

def shownMode (mode : Nat) : List Char :=
  octalText 4 mode ++ " (".toList ++ modeLetters mode ++ [')']

def changeMode (s : Setting) (o : Options) (changes : List ModeChange) (isImplied : Bool)
    (p : Progress) (name : List Char) (place : Place) : Progress :=
  let isDirectory := p.disk.at? place = some .directory
  let old := p.disk.modeAt place
  let new := applyChanges changes s.making.mask isDirectory old
  let naive := applyChanges changes 0 isDirectory old
  let p := if (p.disk.machine.fixture? place).isSome && place ≠ Place.here then p
    else { p with disk := p.disk.withMode place new }
  let p :=
    if old ≠ new then
      p.report (o.has 'v' || o.has 'c') ("mode of ".toList ++ inMarks name ++
        " changed from ".toList ++ shownMode old ++ " to ".toList ++ shownMode new)
    else
      p.report (o.has 'v') ("mode of ".toList ++ inMarks name ++ " retained as ".toList ++
        shownMode old)
  if isImplied && withoutBits new naive ≠ 0 then
    p.complain s (name ++ ": new permissions are ".toList ++ modeLetters new ++
      ", not ".toList ++ modeLetters naive)
  else p

/-- Changes the mode of what a name leads to, and of what is below it if asked for. -/
def chmodStep (s : Setting) (o : Options) (changes : List ModeChange) (isImplied : Bool)
    (p : Progress) (name : List Char) : Progress :=
  match if name = [] then .error .noEntry else p.disk.find (s.path name) with
  | .error reason =>
    let isDangling := reason = .noEntry &&
      Condition.Files.isLink ⟨p.disk, s.directory, false⟩ name
    let p := if o.has 'f' then { p with failed := true }
      else if isDangling then
        p.complain s ("cannot operate on dangling symlink ".toList ++ inMarks name)
      else p.refuse s "cannot access" name reason
    p.report (o.has 'v') (inMarks name ++ " could not be accessed".toList)
  | .ok (place, _) =>
    let places := if o.has 'R' then treePlaces p.disk p.disk.nodes.length.succ name place
      else [(name, place)]
    places.foldl (fun p (name, place) => changeMode s o changes isImplied p name place) p

def referenceMode (s : Setting) (name : List Char) : Except (List Char) (List ModeChange) :=
  match s.disk.find (s.path name) with
  | .ok (place, _) =>
    .ok [{ sign := .set, rights := .fixed (s.disk.modeAt place), affected := some modeBits
           mentioned := modeBits }]
  | .error reason =>
    .error ("failed to get attributes of ".toList ++ inMarks name ++ ": ".toList ++
      reason.reason.toList)

/-- Changes the modes of files. A mode may start with a dash. -/
def chmod : Utility := fun s arguments =>
  let isMode := fun text : List Char =>
    text.head? = some '-' && 1 < text.length && (modeChanges? text).isSome
  let modes := arguments.filter isMode
  withOptions { plain := "Rvcf%", valued := "!", words := [("recursive", 'R'), ("verbose", 'v'),
      ("changes", 'c'), ("quiet", 'f'), ("silent", 'f'), ("reference", '!'),
      ("preserve-root", '%'), ("no-preserve-root", '%')] } 1 (fun s o =>
    let words := (if modes = [] then [] else [[','].intercalate modes]) ++ o.operands
    match o.value? '!', words with
    | some reference, names =>
      if modes ≠ [] then s.misused 1 "cannot combine mode and --reference options".toList
      else if names = [] then s.misused 1 "missing operand".toList
      else
        match referenceMode s reference with
        | .error complaint => s.failing 1 complaint
        | .ok changes => (names.foldl (chmodStep s o changes false) s.progress).effect
    | none, [] => s.misused 1 "missing operand".toList
    | none, [mode] =>
      s.misused 1 ("missing operand".toList ++
        if modes = [] then " after ".toList ++ inMarks mode else [])
    | none, mode :: names =>
      match modeChanges? mode with
      | none => s.misused 1 ("invalid mode: ".toList ++ inMarks mode)
      | some changes =>
        (names.foldl (chmodStep s o changes (modes ≠ [])) s.progress).effect)
    s (arguments.filter fun text => !isMode text)

/-- The number of bytes that a size with a unit behind it means. -/
def sizeWithUnit? (text : List Char) : Option Nat :=
  let digits := text.takeWhile Char.isDigit
  let units := ['K', 'M', 'G', 'T', 'P', 'E', 'Z', 'Y', 'R', 'Q']
  let power := fun (base : Nat) (c : Char) =>
    let c := if c ∈ ['g', 'k', 'm', 't'] then c.toUpper else c
    (units.idxOf? c).map fun rank => (List.replicate (rank + 1) base).foldl (· * ·) 1
  (natural? digits).bind fun n =>
    match text.drop digits.length with
    | [] => some n
    | [c] => (power 1024 c).map (n * ·)
    | [c, 'B'] => (power 1000 c).map (n * ·)
    | [c, 'i', 'B'] => (power 1024 c).map (n * ·)
    | _ => none

/-- How a size that is told is meant. -/
inductive SizeMeaning where
  | exact
  /-- So much more or less. -/
  | relative
  | atMost
  | atLeast
  | roundedDown
  | roundedUp
  deriving DecidableEq

/-- How the size of files is changed. -/
structure SizeChange where
  meaning : SizeMeaning := .exact
  size : Option Int := none

def greatestSize : Nat := 9223372036854775807

/-- Adds what an option tells, or complains; a hint follows if it is marked so. -/
def SizeChange.tell (change : SizeChange) (text : List Char) :
    Except (Bool × List Char) SizeChange :=
  let text := Arithmetic.skipBlanks text
  let sign? : Option SizeMeaning := match text.head? with
    | some '<' => some .atMost
    | some '>' => some .atLeast
    | some '/' => some .roundedDown
    | some '%' => some .roundedUp
    | _ => none
  let meaning := sign?.getD change.meaning
  let body := Arithmetic.skipBlanks (if sign?.isSome then text.tail else text)
  let isSigned := body.head? = some '+' || body.head? = some '-'
  if isSigned && meaning ≠ .exact then
    .error (true, "multiple relative modifiers specified".toList)
  else
    let meaning := if isSigned then .relative else meaning
    match sizeWithUnit? (if isSigned then body.tail else body) with
    | none => .error (false, "Invalid number: ".toList ++ inMarks body)
    | some n =>
      if greatestSize < n then
        .error (false, "Invalid number: ".toList ++ inMarks body ++
          ": Value too large for defined data type".toList)
      else if n = 0 && (meaning = .roundedDown || meaning = .roundedUp) then
        .error (false, "division by zero".toList)
      else .ok { meaning, size := some (if body.head? = some '-' then -(n : Int) else n) }

/-- The size after a change, in units of a size. A file may be measured by another one. -/
def SizeChange.apply (change : SizeChange) (unit old : Nat) : Nat :=
  let told := change.size.getD old * unit
  let n := told.toNat
  match change.meaning with
  | .exact => n
  | .relative => ((old : Int) + told).toNat
  | .atMost => min old n
  | .atLeast => max old n
  | .roundedDown => old / n * n
  | .roundedUp => (old + n - 1) / n * n

/-- Makes a file longer or shorter. -/
def truncateStep (s : Setting) (o : Options) (change : SizeChange) (measure : Option Nat)
    (p : Progress) (name : List Char) : Progress :=
  let refused := fun reason : OsError =>
    p.complain s ("cannot open ".toList ++ fileMarks name ++ " for writing: ".toList ++
      reason.reason.toList)
  if name = [] then (if o.has 'c' then p else refused .noEntry)
  else if o.has 'c' && !p.disk.hasEntry (s.path name) then p
  else
    match openedPlace p.disk (s.path name) with
    | .error reason => refused reason
    | .ok place =>
      let old := match p.disk.at? place with
        | some (.file bytes _) => bytes
        | _ => []
      let change := if change.size.isNone then
          { change with size := measure.map fun n => (n : Int) } else change
      let size := change.apply (if o.has 'o' then 4096 else 1) (measure.getD old.length)
      let bytes := old.take size ++ List.replicate (size - old.length) 0
      { p with disk := writeAt s.making p.disk place false bytes }

/-- Makes files longer or shorter. -/
def truncate : Utility := withOptions
    { plain := "co", valued := "sr", words := [("size", 's'), ("no-create", 'c'),
      ("reference", 'r'), ("io-blocks", 'o')] } 1 fun s o =>
  match (o.values 's').foldlM (fun (change : SizeChange) text => change.tell text) {} with
  | .error (true, complaint) => s.misused 1 complaint
  | .error (false, complaint) => s.failing 1 complaint
  | .ok change =>
    if !o.has 's' && !o.has 'r' then
      s.misused 1 "you must specify either '--size' or '--reference'".toList
    else if o.has 's' && o.has 'r' && change.meaning = .exact then
      s.misused 1 "you must specify a relative '--size' with '--reference'".toList
    else if o.has 'o' && !o.has 's' then
      s.misused 1 "'--io-blocks' was specified but '--size' was not".toList
    else if o.operands = [] then s.misused 1 "missing file operand".toList
    else
      match (o.value? 'r').map fun name => (name, s.disk.find (s.path name)) with
      | some (name, .error reason) =>
        s.failing 1 ("cannot stat ".toList ++ fileMarks name ++ ": ".toList ++
          reason.reason.toList)
      | some (_, .ok (_, .file bytes _)) =>
        (o.operands.foldl (truncateStep s o change (some bytes.length)) s.progress).effect
      | _ => (o.operands.foldl (truncateStep s o change none) s.progress).effect

/-- Makes a new file or directory of a name that is not taken. -/
def mktemp : Utility := withOptions
    { plain := "dqtu", valued := "p!", optional := "%", words := [("directory", 'd'),
      ("dry-run", 'u'), ("quiet", 'q'), ("tmpdir", '%'), ("suffix", '!')] } 1 fun s o =>
  let temporary := (s.environment.lookup "TMPDIR".toList).getD "/tmp".toList
  let shown := o.operands.headD "tmp.XXXXXXXXXX".toList
  let ending := ((o.value? '!').getD (shown.reverse.takeWhile (· ≠ 'X')).reverse)
  let body := if o.has '!' then shown else shown.take (shown.length - ending.length)
  let marks := (body.reverse.takeWhile (· = 'X')).length
  let directory : Option (List Char) :=
    if o.has 't' then some temporary
    else if o.has 'p' then o.value? 'p'
    else if o.has '%' then some ((o.value? '%').filter (· ≠ []) |>.getD temporary)
    else if o.operands = [] then some temporary else none
  if 1 < o.operands.length then s.misused 1 "too many templates".toList
  else if marks < 3 then s.failing 1 ("too few X's in template ".toList ++ inMarks shown)
  else if ending.contains '/' then
    s.failing 1 ("invalid suffix ".toList ++ inMarks ending ++
      ", contains directory separator".toList)
  else
    let template := directory.elim body fun d => insideOf d body
    let start := template.take (template.length - marks)
    let candidates := (List.range (s.disk.nodes.length + 1)).map fun n =>
      start ++ List.replicate (marks - (decimal n).length) 'a' ++ decimal n ++ ending
    match candidates.find? fun name => !s.disk.hasEntry (s.path name) with
    | none => s.failing 1 "failed to create file".toList
    | some name =>
      let said := [{ text := name ++ ['\n'] }]
      if o.has 'u' then { said }
      else
        let made := if o.has 'd' then s.newDirectory s.disk name 0o700
          else (openedPlace s.disk (s.path name)).map fun place =>
            s.disk.made s.making place (.file [] false) 0o600
        match made with
        | .ok disk => { said, disk := some disk }
        | .error reason =>
          let kind := if o.has 'd' then "directory" else "file"
          s.failing 1 (("failed to create " ++ kind ++ " via template ").toList ++
            inMarks (template ++ ending) ++ ": ".toList ++ reason.reason.toList)

end BoardBind.Script
