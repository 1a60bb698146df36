import BoardBind.Script.Diff.Report
import BoardBind.Script.Listing
import BoardBind.Script.Regex.Reader

/-! # A program that compares files line by line

Two files are compared, or all files of two directories. Lines may be taken for the same although
they differ in their blanks or in the case of their letters.
-/

namespace BoardBind.Script

namespace Diff

/-- The options of `diff`. -/
def flags : Flags where
  plain := "abBcdeEfilnNpPqrstTuvwyZ0123456789=_/"
  valued := "CDFILUWxX"
  optional := "%"
  words := [("text", 'a'), ("ignore-space-change", 'b'), ("ignore-blank-lines", 'B'),
    ("context", 'c'), ("minimal", 'd'), ("ed", 'e'), ("ignore-tab-expansion", 'E'),
    ("show-function-line", 'F'), ("ignore-case", 'i'), ("ignore-matching-lines", 'I'),
    ("label", 'L'), ("rcs", 'n'), ("new-file", 'N'), ("show-c-function", 'p'), ("brief", 'q'),
    ("recursive", 'r'), ("report-identical-files", 's'), ("expand-tabs", 't'),
    ("initial-tab", 'T'), ("unified", 'u'), ("ignore-all-space", 'w'), ("width", 'W'),
    ("exclude", 'x'), ("exclude-from", 'X'), ("side-by-side", 'y'),
    ("ignore-trailing-space", 'Z'), ("normal", '='), ("left-column", '_'),
    ("suppress-common-lines", '/'), ("color", '%'), ("unidirectional-new-file", 'P')]

def styleOf? (o : Options) : Char → Option Style
  | '=' => some .plain
  | 'u' => some (.unified 3)
  | 'U' => some (.unified 0)
  | 'c' => some (.context 3)
  | 'C' => some (.context 0)
  | 'e' => some .commands
  | 'f' => some .forward
  | 'n' => some .numbered
  | 'y' => some .columns
  | 'p' => if o.has 'u' || o.has 'U' then none else some (.context 3)
  | 'F' => if o.has 'u' || o.has 'U' then none else some (.context 3)
  | _ => none

def aroundOf? (o : Options) : Except (List Char) Nat :=
  let usual := if ['u', 'c', 'p', 'F'].any o.has then 3 else 0
  (o.values 'U' ++ o.values 'C').foldlM (fun most text =>
    match natural? text with
    | some n => .ok (max most n)
    | none => .error ("invalid context length ".toList ++ inMarks text)) usual

def chosenStyle (o : Options) : Except (List Char) Style := do
  let around ← aroundOf? o
  let styles := ((o.flags.filterMap fun f => styleOf? o f.1).map fun
    | .unified _ => Style.unified around
    | .context _ => .context around
    | other => other).eraseDups
  match styles with
  | [] => .ok .plain
  | [style] => .ok style
  | _ => .error "conflicting output style options".toList

/-- A text with one blank for each run of blanks, and none at its end. -/
def singleBlanks : List Char → List Char
  | [] => []
  | c :: rest =>
    let later := singleBlanks rest
    if Arithmetic.isBlankChar c then
      match later with
      | [] => []
      | ' ' :: _ => later
      | _ => ' ' :: later
    else c :: later

def untabbed : Nat → List Char → List Char
  | _, [] => []
  | column, '\t' :: rest =>
    List.replicate (8 - column % 8) ' ' ++ untabbed (column / 8 * 8 + 8) rest
  | column, c :: rest => c :: untabbed (column + 1) rest

/-- A line as far as it counts, and whether it has an end. -/
def lineKey (o : Options) (line : Line) : List Char × Bool :=
  let text := if o.has 'i' then line.text.map Char.toLower else line.text
  let trimmed := fun text : List Char => (text.reverse.dropWhile Arithmetic.isBlankChar).reverse
  let text := if o.has 'w' then text.filter fun c => !Arithmetic.isBlankChar c
    else if o.has 'b' then singleBlanks text
    else
      let text := if o.has 'Z' then trimmed text else text
      if o.has 'E' then untabbed 0 text else text
  (text, line.isEnded || o.has 'w' || o.has 'b' || o.has 'Z')

/-- The numbers of lines: equal lines have equal numbers. -/
def numbersOf (known : List (List Char × Bool)) (keys : List (List Char × Bool)) : List Nat :=
  keys.map fun key => known.idxOf key + 1

def isIdleLine (o : Options) (idle : List Regex) (line : Line) : Bool :=
  let kept := if o.has 'w' || o.has 'b' then line.text.dropWhile Arithmetic.isBlankChar
    else if o.has 'Z' && line.text.all Arithmetic.isBlankChar then []
    else line.text
  (o.has 'B' && kept = []) || idle.any fun r => r.isIn {} line.text

def reportOf (o : Options) (style : Style) (idle : List Regex) (isTitle : Option (List Char → Bool))
    (first second : List Char) : Report :=
  let a := linesOf first
  let b := linesOf second
  let keysA := a.toList.map (lineKey o)
  let keysB := b.toList.map (lineKey o)
  let known := (keysA ++ keysB).eraseDups
  let horizon := match style with
    | .unified n => n
    | .context n => n
    | _ => 0
  let found := changes (o.has 'd') horizon (numbersOf known keysA) (numbersOf known keysB)
  let noted := found.map fun c =>
    let lines := ((a.toList.drop c.first).take c.removed) ++
      ((b.toList.drop c.second).take c.added)
    ({ toChange := c
       isIdle := (o.has 'B' || !idle.isEmpty) && lines.all (isIdleLine o idle) } : Noted)
  { first := a, second := b, changes := noted, isTitle
    width := ((o.value? 'W').bind natural?).getD 130
    onlyLeft := o.has '_', onlyChanges := o.has '/' }

/-- What is compared: a file, a directory, or nothing. -/
inductive Item where
  | file (place : Option Place) (text : List Char)
  | directory (place : Place)
  | missing

/-- What is compared with what, and how. -/
structure Job where
  setting : Setting
  options : Options
  style : Style
  idle : List Regex := []
  isTitle : Option (List Char → Bool) := none
  /-- The options as they were written. -/
  written : List Char := []

/-- What has been said, and whether files differ. -/
structure Outcome where
  said : List Saying := []
  status : Nat := 0

/-- Adds something to what has been said. -/
def Outcome.saying (r : Outcome) (text : List Char) (status : Nat) : Outcome :=
  { said := r.said ++ [{ text }], status := max r.status status }

def Job.item (j : Job) (name : List Char) : Except OsError Item :=
  let s := j.setting
  if name = ['-'] then (s.read name).map (.file none)
  else
    match s.disk.find (s.path name) with
    | .ok (place, .directory) => .ok (.directory place)
    | .ok (place, .file ..) => (s.read name).map (.file (some place))
    | .ok (_, .link _) => .error .noEntry
    | .error reason => .error reason

/-- The line that names a file above its changes. -/
def Job.title (j : Job) (mark : String) (number : Nat) (name : List Char) (item : Item) :
    List Char :=
  let format := match j.style with
    | .context _ => "%a %b %e %H:%M:%S %Y"
    | _ => "%Y-%m-%d %H:%M:%S.%N %z"
  let moment := match item with
    | .file (some place) _ => Moment.ofNanoseconds (j.setting.disk.modifiedAt place)
    | .file none _ => j.setting.now
    | _ => ⟨0, 0⟩
  mark.toList ++
    (match (j.options.values 'L')[number]? with
      | some label => label
      | none => name ++ '\t' :: formatMoment j.setting.zone moment format.toList) ++ ['\n']

def Job.header (j : Job) (first second : List Char) (a b : Item) : List Char :=
  match j.style with
  | .unified _ => j.title "--- " 0 first a ++ j.title "+++ " 1 second b
  | .context _ => j.title "*** " 0 first a ++ j.title "--- " 1 second b
  | _ => []

def Job.files (j : Job) (isInner : Bool) (first second : List Char) (a b : Item)
    (r : Outcome) : Outcome :=
  let text := fun
    | Item.file _ text => text
    | _ => []
  let o := j.options
  let isScript := j.style = .commands || j.style = .forward
  let open? := fun text : List Char => text.getLast?.any (· ≠ '\n')
  let closed := fun text : List Char => if isScript && open? text then text ++ ['\n'] else text
  let warned := fun r : Outcome =>
    [(first, text a), (second, text b)].foldl (fun r (name, text) =>
      if !isScript || !open? text then r
      else
        let complaint := name ++ ": No newline at end of file\n".toList
        { said := r.said ++ [j.setting.complaint complaint], status := 2 }) r
  let (x, y) := (closed (text a), closed (text b))
  let differ := fun kind : String =>
    kind.toList ++ first ++ " and ".toList ++ second ++ " differ\n".toList
  let same := fun r : Outcome =>
    if o.has 's' then
      r.saying ("Files ".toList ++ first ++ " and ".toList ++ second ++ " are identical\n".toList) 0
    else r
  let isBinary := (x.contains '\x00' || y.contains '\x00') && !o.has 'a'
  if text a = text b && (j.style ≠ .columns || o.has '/') then same r
  else if isBinary && !o.has 'q' then
    if x = y then same r else r.saying (differ "Binary files ") 1
  else
    let report := reportOf o j.style j.idle j.isTitle x y
    let isSame := report.changes.all (·.isIdle)
    let shown := report.text j.style
    let above := if isInner && (!isSame || j.style = .columns) then
        "diff".toList ++ j.written ++ ' ' :: first ++ ' ' :: second ++ ['\n']
      else []
    if isSame then
      same (warned (if j.style = .columns && !o.has 'q' then r.saying (above ++ shown) 0 else r))
    else if o.has 'q' then r.saying (differ "Files ") 1
    else warned (r.saying (above ++ j.header first second a b ++ shown) 1)

def Item.kind : Item → String
  | .directory _ => "directory"
  | .file _ text => if text = [] then "regular empty file" else "regular file"
  | .missing => "file"

def Job.names (j : Job) : Item → List (List Char)
  | .directory place =>
    let fits := fun (name pattern : List Char) =>
      (Pattern.ofMarked (pattern.map fun c => (c, false))).accepts name
    let listed := (j.options.values 'X').flatMap fun name =>
      ((j.setting.read name).toOption.map plainLines).getD []
    (namesAt j.setting.disk place).filter fun name =>
      !((j.options.values 'x' ++ listed).any (fits name))
  | _ => []

/-- Compares what is found under two names. -/
def Job.compare (j : Job) : Nat → Bool → List Char → List Char → Item → Item → Outcome → Outcome
  | 0, _, _, _, _, _, r => r
  | fuel + 1, isInner, first, second, a, b, r =>
    let o := j.options
    let deeper := fun r : Outcome =>
      let inFirst := j.names a
      let inSecond := j.names b
      let names := (inFirst ++ inSecond.filter fun name => !inFirst.contains name).mergeSort
        fun x y => compareTexts x y ≠ .gt
      names.foldl (fun r name =>
        let found := fun (names : List (List Char)) (path : List Char) =>
          if names.contains name then j.item path else .ok .missing
        let (x, y) := (insideOf first name, insideOf second name)
        let isNew := o.has 'N' || (o.has 'P' && !inFirst.contains name)
        match found inFirst x, found inSecond y with
        | .ok .missing, .ok other =>
          if isNew then j.compare fuel true x y .missing other r
          else r.saying ("Only in ".toList ++ second ++ ": ".toList ++ name ++ ['\n']) 1
        | .ok other, .ok .missing =>
          if isNew then j.compare fuel true x y other .missing r
          else r.saying ("Only in ".toList ++ first ++ ": ".toList ++ name ++ ['\n']) 1
        | .ok x', .ok y' => j.compare fuel true x y x' y' r
        | .error reason, _ =>
          { said := r.said ++ [j.setting.fileComplaint x reason], status := 2 }
        | _, .error reason =>
          { said := r.said ++ [j.setting.fileComplaint y reason], status := 2 }) r
    match a, b with
    | .directory _, .directory _ =>
      if isInner && !o.has 'r' then
        r.saying ("Common subdirectories: ".toList ++ first ++ " and ".toList ++ second ++ ['\n']) 0
      else deeper r
    | .directory _, .missing => if o.has 'r' then deeper r else
      r.saying ("Only in ".toList ++ first ++ ['\n']) 1
    | .missing, .directory _ => if o.has 'r' then deeper r else
      r.saying ("Only in ".toList ++ second ++ ['\n']) 1
    | .directory _, .file .. =>
      r.saying ("File ".toList ++ first ++ " is a ".toList ++ a.kind.toList ++
        " while file ".toList ++ second ++ " is a ".toList ++ b.kind.toList ++ ['\n']) 1
    | .file .., .directory _ =>
      r.saying ("File ".toList ++ first ++ " is a ".toList ++ a.kind.toList ++
        " while file ".toList ++ second ++ " is a ".toList ++ b.kind.toList ++ ['\n']) 1
    | _, _ => j.files isInner first second a b r

def misused (s : Setting) (complaint : List Char) : Effect :=
  let hint := "Try '".toList ++ s.title ++ " --help' for more information.".toList
  { said := [s.complaint complaint, s.complaint hint], status := 2 }

/-- The name of a file that is compared with a directory: the one in the directory. -/
def pairedNames (j : Job) (first second : List Char) : List Char × List Char :=
  let last := fun name : List Char =>
    ofString (Path.fileName (pathOf name))
  match j.item first, j.item second with
  | .ok (.directory _), .ok (.file ..) => (insideOf first (last second), second)
  | .ok (.file ..), .ok (.directory _) => (first, insideOf second (last first))
  | _, _ => (first, second)

def isFunctionLine (text : List Char) : Bool :=
  text.head?.any fun c => c.isAlpha || c = '_' || c = '$'

/-- Compares files and directories line by line. -/
def program : Utility := fun s arguments =>
  match Options.readFrom flags none arguments with
  | .error complaint => misused s complaint
  | .ok o =>
    match chosenStyle o, o.operands with
    | .error complaint, _ => misused s complaint
    | .ok _, [] =>
      misused s ("missing operand after ".toList ++ inMarks (arguments.getLastD s.title))
    | .ok _, [_] =>
      misused s ("missing operand after ".toList ++ inMarks (arguments.getLastD s.title))
    | .ok _, _ :: _ :: extra :: _ => misused s ("extra operand ".toList ++ inMarks extra)
    | .ok style, [first, second] =>
      let regexes := fun flag : Char =>
        (o.values flag).filterMap fun text => (Regex.ofText? { isExtended := false } text).map (·.1)
      let titles := regexes 'F'
      let words := arguments.filter fun word => word ≠ first && word ≠ second && word ≠ ['-', '-']
      let j : Job := {
        setting := s, options := o, style, idle := regexes 'I'
        isTitle := if !titles.isEmpty then some fun line => titles.any fun r => r.isIn {} line
          else if o.has 'p' then some isFunctionLine
          else none
        written := words.flatMap fun word => ' ' :: listShell false word }
      let (first, second) := pairedNames j first second
      let found := fun (name : List Char) (isNew : Bool) =>
        match j.item name with
        | .error .noEntry => if isNew then Except.ok Item.missing else .error OsError.noEntry
        | other => other
      let isMissing := fun name : List Char =>
        match j.item name with
        | .error .noEntry => true
        | _ => false
      let bothMissing := isMissing first && isMissing second
      let left := if first = ['-'] || second = ['-'] then some [] else none
      let a := found first ((o.has 'N' || o.has 'P') && !bothMissing)
      let b := found second (o.has 'N' && !bothMissing)
      match a, b with
      | .ok a, .ok b =>
        let r := j.compare (s.disk.nodes.length + 2) false first second a b {}
        { said := r.said, status := r.status, left }
      | a, b =>
        let complaint := fun (name : List Char) (item : Except OsError Item) =>
          match item with
          | .error reason => [s.fileComplaint name reason]
          | .ok _ => []
        { said := complaint first a ++ complaint second b, status := 2, left }

end Diff

end BoardBind.Script
