import BoardBind.Script.FindTest
import BoardBind.Script.Process

/-! # Looking for files

The program `find` walks through directories and decides an expression at each file: questions
about it, and things to do with it.
-/

namespace BoardBind.Script

/-- How a program of a name is started with arguments. -/
abbrev Starter := List Char → List (List Char) → State → Except OsError (World × Ending)

def replaced (mark value : List Char) : Nat → List Char → List Char
  | 0, text => text
  | _, [] => []
  | fuel + 1, c :: rest =>
    if mark ≠ [] && mark.isPrefixOf (c :: rest) then
      value ++ replaced mark value fuel ((c :: rest).drop mark.length)
    else c :: replaced mark value fuel rest

/-- A walk through directories: the state of the shell, the paths that are gathered for each program
at the end, whether something failed, and whether the walk is over. -/
structure Walk where
  state : State
  gathered : List (List (List Char) × List Char) := []
  failed : Bool := false
  isOver : Bool := false
  /-- Whether the directory at hand is not to be entered. -/
  isPruned : Bool := false

/-- A file or directory that a walk reaches. -/
structure Found where
  path : List Char
  /-- Where the file itself is. -/
  own : Place
  /-- Where it leads to, if links are followed. -/
  place : Place
  node : Node
  depth : Nat := 0
  /-- The operand that the walk started at. -/
  operand : List Char := []
  /-- What a link leads to, if it leads to something. -/
  behind : Option Node := none

/-- The characters of a pattern for names; a backslash takes away the meaning of the next. -/
def markedPattern : List Char → List Marked
  | '\\' :: c :: rest => (c, true) :: markedPattern rest
  | c :: rest => (c, false) :: markedPattern rest
  | [] => []

def globMatches (pattern : List Char) (anyCase : Bool) (text : List Char) : Bool :=
  let cased := fun t : List Char => if anyCase then t.map Char.toLower else t
  (Pattern.ofMarked (markedPattern (cased pattern))).accepts (cased text)

def nodeLetter (machine : Machine) (place : Place) : Node → Char
  | .directory => 'd'
  | .link _ => 'l'
  | .file .. => if machine.isDevice place then 'c' else 'f'

namespace Found

def name (f : Found) : List Char :=
  let last := lastNameOf f.path
  if last = [] then f.path.take 1 else last

def bytes (f : Found) : Nat :=
  match f.node with
  | .directory => 4096
  | .file bytes _ => bytes.length
  | .link target => target.utf8ByteSize

def behindLetter (machine : Machine) (f : Found) : Char :=
  match f.node with
  | .link _ => f.behind.elim 'N' (nodeLetter machine f.place)
  | node => nodeLetter machine f.place node

def target (f : Found) : List Char :=
  match f.node with
  | .link target => ofString target
  | _ => []

def timeText (zone : Zone) (m : Moment) (letter : Char) : List Char :=
  let second := formatMoment zone m "%S.%N0".toList
  match letter with
  | '@' => formatMoment zone m "%s.%N0".toList
  | '+' => formatMoment zone m "%Y-%m-%d+%H:%M:".toList ++ second
  | 'T' => formatMoment zone m "%H:%M:".toList ++ second
  | 'X' => formatMoment zone m "%H:%M:".toList ++ second
  | 'S' => second
  | 'c' =>
    formatMoment zone m "%a %b %e %H:%M:".toList ++ second ++ formatMoment zone m " %Y".toList
  | c => formatMoment zone m ['%', c]

/-- The path below the operand that a walk started at. -/
def below (f : Found) : List Char :=
  (f.path.drop f.operand.length).dropWhile (· = '/')

def directive? (f : Found) (disk : Disk) (letter : Char) : Option (List Char) :=
  match letter with
  | 'p' => some f.path
  | 'f' => some (if f.path.getLast? = some '/' && f.depth = 0 then f.path else f.name)
  | 'h' =>
    let directory := f.path.take (f.path.length - (lastNameOf f.path).length)
    some (if !f.path.contains '/' then ['.']
      else if f.path.getLast? = some '/' then withoutSlashes f.path
      else withoutSlashes directory)
  | 'P' => some f.below
  | 'H' => some f.operand
  | 's' => some (decimal f.bytes)
  | 'd' => some (decimal f.depth)
  | 'y' => some [nodeLetter disk.machine f.place f.node]
  | 'Y' => some [f.behindLetter disk.machine]
  | 'l' => some f.target
  | 'm' => some (octalText 1 (disk.modeAt f.place))
  | 'M' => some (kindLetter disk.machine f.place f.node :: modeLetters (disk.modeAt f.place))
  | 'n' =>
    some (decimal (match f.node with
      | .directory => 2 + (disk.nodes.filter fun entry =>
          entry.2 = .directory && entry.1.dropLast = f.place && entry.1 ≠ f.place).length
      | _ => (disk.twins f.place).length))
  | 'u' => some "root".toList
  | 'g' => some "root".toList
  | 'U' => some ['0']
  | 'G' => some ['0']
  | 'i' => some (decimal (1000 + disk.nodes.findIdx fun entry => entry.1 = f.own))
  | 'b' => some (decimal ((f.bytes + 4095) / 4096 * 8))
  | 'k' => some (decimal ((f.bytes + 4095) / 4096 * 4))
  | '%' => some ['%']
  | _ => none

/-- A file as a format says. The flag is whether the format ends all at once. -/
def formatted (f : Found) (zone : Zone) (disk : Disk) : Nat → List Char → List Char
  | 0, _ => []
  | _, [] => []
  | _ + 1, '\\' :: 'c' :: _ => []
  | fuel + 1, '\\' :: c :: rest =>
    let digits := ((c :: rest).take 3).takeWhile isOctal
    if digits ≠ [] then
      Char.ofNat (Arithmetic.ofDigits 8 digits % 256) ::
        f.formatted zone disk fuel ((c :: rest).drop digits.length)
    else
      match escapeLetter? c with
      | some plain => plain :: f.formatted zone disk fuel rest
      | none => '\\' :: c :: f.formatted zone disk fuel rest
  | fuel + 1, '%' :: rest =>
    let flags := rest.takeWhile (· ∈ ['-', '+', ' ', '#', '0'])
    let width := (rest.drop flags.length).takeWhile Char.isDigit
    let layout : Layout := {
      flags, width := Arithmetic.ofDigits 10 width }
    let m : Moment := .ofNanoseconds (disk.modifiedAt f.place)
    match rest.drop (flags.length + width.length) with
    | [] => ['%']
    | 'T' :: k :: rest => layout.pad (timeText zone m k) ++ f.formatted zone disk fuel rest
    | 'A' :: k :: rest => layout.pad (timeText zone m k) ++ f.formatted zone disk fuel rest
    | 'C' :: k :: rest => layout.pad (timeText zone m k) ++ f.formatted zone disk fuel rest
    | letter :: rest =>
      let text := if letter ∈ ['t', 'a', 'c'] then some (timeText zone m 'c')
        else f.directive? disk letter
      match text with
      | some text => layout.pad text ++ f.formatted zone disk fuel rest
      | none => '%' :: letter :: f.formatted zone disk fuel rest
  | fuel + 1, c :: rest => c :: f.formatted zone disk fuel rest

end Found

/-- Runs a program for a walk; the directory that it is run in may be another one. -/
def Walk.runWords (w : Walk) (start : Starter) (words : List (List Char)) (directory : Path) :
    Walk × Bool :=
  match words with
  | [] => (w, false)
  | program :: arguments =>
    let inner := { w.state.connect 0 (some .nothing) with
      shell := { (w.state.connect 0 (some .nothing)).shell with directory } }
    match start program arguments inner with
    | .ok (world, ending) => ({ w with state := { w.state with world } }, ending.shown = 0)
    | .error reason =>
      let complaint := (settingOf w.state "find".toList).complaint
        (inMarks program ++ ": ".toList ++ reason.reason.toList)
      ({ w with state := w.state.emit 2 complaint.text }, false)

def Walk.append (w : Walk) (file text : List Char) : Walk :=
  if file = "/dev/stdout".toList then { w with state := w.state.print text }
  else if file = "/dev/stderr".toList then { w with state := w.state.emit 2 text }
  else
    match openedPlace w.state.world.disk (w.state.path file) with
    | .ok place =>
      let disk := writeAt w.state.making w.state.world.disk place true (toBytes text)
      { w with state := { w.state with world := w.state.world.withDisk disk } }
    | .error _ => w

def FindTest.printed (settings : FindSettings) (f : Found) (disk : Disk) : FindTest → List Char
  | .print ending => f.path ++ [ending]
  | .format text => f.formatted settings.zone disk text.length.succ text
  | _ => []

def FindTest.holds (start : Starter) (settings : FindSettings) (f : Found) :
    FindTest → Walk → Walk × Bool
  | .name pattern anyCase, w => (w, globMatches pattern anyCase f.name)
  | .path pattern anyCase, w => (w, globMatches pattern anyCase f.path)
  | .regex expression anyCase, w =>
    (w, match expression.matchAt { anyCase } (.ofText f.path) with
      | some p => p.after = []
      | none => false)
  | .linkText pattern anyCase, w =>
    (w, match f.node with
      | .link target => globMatches pattern anyCase (ofString target)
      | _ => false)
  | .kind letters, w => (w, letters.contains (nodeLetter w.state.world.disk.machine f.place f.node))
  | .behindKind letters, w =>
    let letter := f.behindLetter w.state.world.disk.machine
    (w, letters.contains (if letter = 'N' then 'l' else letter))
  | .empty, w =>
    (w, match f.node with
      | .directory => !isOccupied w.state.world.disk f.place
      | .file bytes _ => bytes = []
      | .link _ => false)
  | .size m unit, w => (w, m.fits ((f.bytes + unit - 1) / unit : Nat))
  | .age m unit, w =>
    let age := settings.now.seconds - (w.state.world.disk.modifiedAt f.place).fdiv 1000000000
    (w, m.fits (age.fdiv unit))
  | .newerThan moment, w => (w, moment < w.state.world.disk.modifiedAt f.place)
  | .mode how bits, w =>
    let mode := w.state.world.disk.modeAt f.place
    (w, if how = '-' then mode &&& bits = bits
      else if how = '/' then bits = 0 || mode &&& bits ≠ 0
      else mode = bits)
  | .links m, w =>
    let text := (f.directive? w.state.world.disk 'n').getD []
    (w, m.fits (Arithmetic.ofDigits 10 text : Nat))
  | .sameAs place, w => (w, w.state.world.disk.isSame place f.place)
  | .executable, w =>
    (w, match f.node, f.behind with
      | .directory, _ => true
      | .file _ runs, _ => runs
      | .link _, some (.file _ runs) => runs
      | .link _, behind => behind.isSome)
  | .always truth, w => (w, truth)
  | .print ending, w => ({ w with state := w.state.print (f.path ++ [ending]) }, true)
  | .format text, w =>
    let shown := f.formatted settings.zone w.state.world.disk text.length.succ text
    ({ w with state := w.state.print shown }, true)
  | .toFile file test, w => (w.append file (test.printed settings f w.state.world.disk), true)
  | .run words isInside, w =>
    let shown := if isInside then "./".toList ++ f.name else f.path
    let directory := if !isInside then w.state.shell.directory
      else
        let above := f.path.take (f.path.length - (lastNameOf f.path).length)
        w.state.path (if above = [] then ['.'] else above)
    w.runWords start (words.map (replaced "\x7b\x7d".toList shown f.path.length.succ.succ))
      directory
  | .askRun words, w =>
    let question := "< ".toList ++ words.headD [] ++ " ... ".toList ++ f.path ++ " > ? ".toList
    let line := (w.state.unread 0).takeWhile (· ≠ '\n')
    let state := (w.state.emit 2 question).withUnread 0 ((w.state.unread 0).drop (line.length + 1))
    let w := { w with state }
    if line.head? = some 'y' || line.head? = some 'Y' then
      w.runWords start (words.map (replaced "\x7b\x7d".toList f.path f.path.length.succ.succ))
        w.state.shell.directory
    else (w, false)
  | .gather words, w => ({ w with gathered := w.gathered ++ [(words, f.path)] }, true)
  | .delete, w =>
    if (w.state.world.disk.machine.fixture? f.own).isSome then (w, true)
    else if isOccupied w.state.world.disk f.own then
      let complaint := (settingOf w.state "find".toList).complaint
        ("cannot delete ".toList ++ inMarks f.path ++ ": Directory not empty".toList)
      ({ w with state := w.state.emit 2 complaint.text, failed := true }, false)
    else
      let world := w.state.world.withDisk (w.state.world.disk.remove f.own)
      ({ w with state := { w.state with world } }, true)
  | .prune, w => ({ w with isPruned := true }, true)
  | .quit, w => ({ w with isOver := true }, true)
  | .negation test, w =>
    let (w, truth) := test.holds start settings f w
    (w, !truth)
  | .both first second, w =>
    let (w, truth) := first.holds start settings f w
    if truth && !w.isOver then second.holds start settings f w else (w, false)
  | .either first second, w =>
    let (w, truth) := first.holds start settings f w
    if truth || w.isOver then (w, true) else second.holds start settings f w
  | .sequence first second, w =>
    let (w, _) := first.holds start settings f w
    if w.isOver then (w, true) else second.holds start settings f w

def foundAt? (disk : Disk) (follows : Bool) (path operand : List Char) (depth : Nat)
    (own : Place) : Option Found :=
  match disk.at? own with
  | none => none
  | some (.link target) =>
    let (start, names) := disk.linkOrigin own.dropLast ⟨target⟩
    let place? := (disk.follow Disk.linkLimit start names).toOption
    let behind := place?.bind disk.at?
    match follows, place?, behind with
    | true, some place, some node => some { path, own, place, node, depth, operand, behind }
    | _, _, _ => some { path, own, place := own, node := .link target, depth, operand, behind }
  | some node => some { path, own, place := own, node, depth, operand }

/-- Walks through a file or directory and what is in it. -/
def walkTree (start : Starter) (test : FindTest) (settings : FindSettings) :
    Nat → Found → Walk → Walk
  | 0, _, w => w
  | fuel + 1, f, w =>
    let visit := fun w : Walk =>
      if w.isOver || f.depth < settings.leastDepth then w else (test.holds start settings f w).1
    let enter := fun w : Walk =>
      if w.isOver || w.isPruned || settings.greatestDepth.any (· ≤ f.depth) then w
      else if f.node = .directory then
        (namesAt w.state.world.disk f.place).foldl (fun w name =>
          let own := f.place ++ [diskName name]
          match foundAt? w.state.world.disk (settings.links = .all) (insideOf f.path name)
            f.operand (f.depth + 1) own with
          | none => w
          | some inner => walkTree start test settings fuel inner { w with isPruned := false }) w
      else w
    if settings.isDepthFirst then visit (enter w) else enter (visit { w with isPruned := false })

/-- Runs the programs that a walk has gathered paths for. -/
def runGathered (start : Starter) (w : Walk) : Walk :=
  (w.gathered.map (·.1)).eraseDups.foldl (fun w words =>
    let paths := (w.gathered.filter fun g => g.1 = words).map (·.2)
    match w.runWords start (words ++ paths) w.state.shell.directory with
    | (w, true) => w
    | (w, false) => { w with failed := true }) w

/-- Runs `find`: prints the paths of files, or does something with them. -/
def runFind (start : Starter) (arguments : List (List Char)) (s : State) : World × Ending :=
  let setting := settingOf s "find".toList
  let (links, arguments) := linkRule .none arguments
  let paths := arguments.takeWhile fun word => !startsExpression word
  let words := arguments.drop paths.length
  let disk := s.world.disk
  let reference := fun file : List Char =>
    (if links = .none then disk.entry (s.path file) else disk.find (s.path file)).map
      fun (place, _) => (place, disk.modifiedAt place)
  let settings : FindSettings := { links, zone := setting.zone, now := setting.now, reference }
  let reading : FindReading :=
    if words = [] then .ok (.always true, settings, [])
    else findSequence settings (4 * words.length + 4) words
  match reading with
  | .error complaint =>
    ((s.emit 2 (setting.complaint complaint).text).world, .status 1)
  | .ok (_, _, _ :: _) =>
    ((s.emit 2 (setting.complaint "invalid expression".toList).text).world, .status 1)
  | .ok (test, settings, []) =>
    let test := if test.acts then test else .both test (.print '\n')
    let disk := settings.files.foldl (fun disk file =>
      match openedPlace disk (s.path file) with
      | .ok place => writeAt s.making disk place false []
      | .error _ => disk) s.world.disk
    let s := { s with world := s.world.withDisk disk }
    let walk := (if paths = [] then [['.']] else paths).foldl (fun (w : Walk) path =>
      if w.isOver then w
      else
        let disk := w.state.world.disk
        match disk.entry (w.state.path path) with
        | .ok (own, _) =>
          match foundAt? disk (settings.links ≠ .none) path path 0 own with
          | some found => walkTree start test settings (disk.nodes.length + 2) found w
          | none => w
        | .error reason =>
          let complaint := setting.complaint
            (inMarks path ++ ": ".toList ++ reason.reason.toList)
          { w with state := w.state.emit 2 complaint.text, failed := true }) { state := s }
    let walk := runGathered start walk
    (walk.state.world, .status (if walk.failed then 1 else 0))

end BoardBind.Script
