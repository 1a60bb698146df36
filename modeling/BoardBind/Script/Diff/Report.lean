import BoardBind.Script.Diff.Change
import BoardBind.Script.Options

/-! # How differences are shown

The changes between two files are shown one by one, with lines around them, in two columns, or as
commands that turn one file into the other.
-/

namespace BoardBind.Script.Diff

/-- A line of a file; the last one may lack its end. -/
structure Line where
  text : List Char
  isEnded : Bool := true
  deriving DecidableEq

def linesOf (text : List Char) : Array Line :=
  ((fullLines text).map fun line =>
    if line.getLast? = some '\n' then { text := line.dropLast } else ⟨line, false⟩).toArray

/-- How changes are shown. -/
inductive Style where
  | plain
  | unified (around : Nat)
  | context (around : Nat)
  | commands
  /-- Commands from the start to the end of a file. -/
  | forward
  /-- Commands with numbers of lines. -/
  | numbered
  | columns
  deriving DecidableEq

/-- A change that may be passed over. -/
structure Noted extends Change where
  isIdle : Bool := false

/-- What is to be shown: two files and their changes. -/
structure Report where
  first : Array Line
  second : Array Line
  changes : List Noted
  /-- Whether a line is the title of what follows. -/
  isTitle : Option (List Char → Bool) := none
  /-- The width of two columns. -/
  width : Nat := 130
  onlyLeft : Bool := false
  onlyChanges : Bool := false

def marked (mark : String) (line : Line) : List Char :=
  mark.toList ++ line.text ++
    (if line.isEnded then ['\n'] else "\n\\ No newline at end of file\n".toList)

def markedLines (mark : String) (lines : Array Line) (start count : Nat) : List Char :=
  ((lines.toList.drop start).take count).flatMap (marked mark)

/-- The numbers of some lines; of none, the number of the line before. -/
def rangeText (sign : Char) (start count : Nat) : List Char :=
  if 1 < count then decimal (start + 1) ++ sign :: decimal (start + count)
  else decimal (start + count)

def Change.letter (c : Change) : Char :=
  if c.added = 0 then 'd' else if c.removed = 0 then 'a' else 'c'

def plainChange (r : Report) (c : Change) : List Char :=
  rangeText ',' c.first c.removed ++ c.letter :: rangeText ',' c.second c.added ++ '\n' ::
    markedLines "< " r.first c.first c.removed ++
    (if c.letter = 'c' then "---\n".toList else []) ++
    markedLines "> " r.second c.second c.added

/-- Lines that are put in by a command. A line with a dot alone would end them, so it is written
with another dot that is taken away again. -/
def insertedLines : Bool → List Line → List Char
  | isOpen, [] => if isOpen then ".\n".toList else []
  | isOpen, line :: rest =>
    let again := if isOpen then [] else "a\n".toList
    if line.text = ['.'] && line.isEnded then
      again ++ "..\n.\ns/.//\n".toList ++ insertedLines false rest
    else again ++ marked "" line ++ insertedLines true rest

def commandChange (r : Report) (c : Change) : List Char :=
  rangeText ',' c.first c.removed ++ [c.letter, '\n'] ++
    (if c.added = 0 then []
      else insertedLines true ((r.second.toList.drop c.second).take c.added))

/-- A change as a command in a script that goes forward. -/
def forwardChange (r : Report) (c : Change) : List Char :=
  c.letter :: rangeText ' ' c.first c.removed ++ '\n' ::
    (if c.added = 0 then [] else markedLines "" r.second c.second c.added ++ ".\n".toList)

def bareLines (lines : Array Line) (start count : Nat) : List Char :=
  ((lines.toList.drop start).take count).flatMap fun line =>
    line.text ++ if line.isEnded then ['\n'] else []

def numberedChange (r : Report) (c : Change) : List Char :=
  (if c.removed = 0 then []
    else 'd' :: decimal (c.first + 1) ++ ' ' :: decimal c.removed ++ ['\n']) ++
  (if c.added = 0 then []
    else 'a' :: decimal (c.first + c.removed) ++ ' ' :: decimal c.added ++ '\n' ::
      bareLines r.second c.second c.added)

/-- Puts changes together that are near to each other. -/
def grouped (around : Nat) : List Noted → List (List Noted)
  | [] => []
  | [c] => [[c]]
  | c :: next :: rest =>
    let limit := if c.isIdle || next.isIdle then around else 2 * around + 1
    match grouped around (next :: rest) with
    | group :: groups =>
      if next.first - (c.first + c.removed) < limit then (c :: group) :: groups
      else [c] :: group :: groups
    | [] => [[c]]

/-- A stretch of both files with the changes in it. -/
structure Hunk where
  first : Nat
  firstEnd : Nat
  second : Nat
  secondEnd : Nat
  changes : List Change

def hunkOf (r : Report) (around : Nat) (group : List Noted) : Option Hunk :=
  match group.head?, group.getLast? with
  | some a, some b =>
    some {
      first := a.first - min around a.first, second := a.second - min around a.first
      firstEnd := min r.first.size (b.first + b.removed + around)
      secondEnd := min r.second.size (b.second + b.added + around)
      changes := group.map (·.toChange) }
  | _, _ => none

/-- The title above a stretch: the last line before it that is one. -/
def titleOf (r : Report) (start : Nat) : List Char :=
  match r.isTitle with
  | none => []
  | some isTitle =>
    match ((r.first.toList.take start).reverse.find? fun line => isTitle line.text) with
    | none => []
    | some line =>
      let shown := ((line.text.dropWhile Arithmetic.isBlankChar).take 40).reverse
      ' ' :: (shown.dropWhile Arithmetic.isBlankChar).reverse

/-- The numbers of the lines of a stretch: where it starts, and how many there are unless it is
one. -/
def hunkRange (start stop : Nat) : List Char :=
  if stop = start then decimal start ++ ",0".toList
  else if stop = start + 1 then decimal stop
  else decimal (start + 1) ++ ',' :: decimal (stop - start)

/-- The lines of a stretch with signs before those that are changed, from a line of the first file
on. -/
def hunkLines (r : Report) (h : Hunk) : Nat → List Change → List Char
  | place, [] => markedLines " " r.first place (h.firstEnd - place)
  | place, c :: rest =>
    markedLines " " r.first place (c.first - place) ++
      markedLines "-" r.first c.first c.removed ++ markedLines "+" r.second c.second c.added ++
      hunkLines r h (c.first + c.removed) rest

/-- A stretch with signs before the lines that are changed. -/
def unifiedHunk (r : Report) (h : Hunk) : List Char :=
  "@@ -".toList ++ hunkRange h.first h.firstEnd ++ " +".toList ++
    hunkRange h.second h.secondEnd ++ " @@".toList ++ titleOf r h.first ++ '\n' ::
    hunkLines r h h.first h.changes

/-- The lines of one file in a stretch, from a line on; changes are told by where they start, how
long they are and their mark. -/
def contextLines (lines : Array Line) (stop : Nat) : Nat → List (Nat × Nat × String) → List Char
  | place, [] => markedLines "  " lines place (stop - place)
  | place, (start, count, mark) :: rest =>
    markedLines "  " lines place (start - place) ++ markedLines mark lines start count ++
      contextLines lines stop (start + count) rest

/-- A stretch of both files, one after the other. -/
def contextHunk (r : Report) (h : Hunk) : List Char :=
  let range := fun start stop : Nat =>
    if stop ≤ start + 1 then decimal stop else decimal (start + 1) ++ ',' :: decimal stop
  let mark := fun (c : Change) (alone : String) =>
    if c.removed ≠ 0 && c.added ≠ 0 then "! " else alone
  let old := h.changes.map fun c => (c.first, c.removed, mark c "- ")
  let new := h.changes.map fun c => (c.second, c.added, mark c "+ ")
  "***************".toList ++ titleOf r h.first ++ "\n*** ".toList ++ range h.first h.firstEnd ++
    " ****\n".toList ++
    (if h.changes.all fun c => c.removed = 0 then []
      else contextLines r.first h.firstEnd h.first old) ++
    "--- ".toList ++ range h.second h.secondEnd ++ " ----\n".toList ++
    (if h.changes.all fun c => c.added = 0 then []
      else contextLines r.second h.secondEnd h.second new)

/-- Blanks from a column to another one, with tabs as far as they reach. -/
def blanksTo : Nat → Nat → Nat → List Char
  | 0, _, _ => []
  | fuel + 1, column, goal =>
    let stop := column / 8 * 8 + 8
    if goal ≤ column then []
    else if stop ≤ goal then '\t' :: blanksTo fuel stop goal
    else List.replicate (goal - column) ' '

/-- A line as far as it fits into a width, and the column that is reached. The column that the whole
line would have reached is handed in. -/
def halfLine (width : Nat) : Nat → Nat → List Char → List Char × Nat
  | _, reached, [] => ([], reached)
  | column, reached, '\t' :: rest =>
    let stop := column / 8 * 8 + 8
    if column = reached && stop < width then
      let (shown, last) := halfLine width stop stop rest
      ('\t' :: shown, last)
    else halfLine width stop reached rest
  | column, reached, c :: rest =>
    if column < width then
      let (shown, last) := halfLine width (column + 1) (column + 1) rest
      (c :: shown, last)
    else halfLine width (column + 1) reached rest

/-- Two lines side by side with a sign between them. -/
def columnLine (total : Nat) (left : Option Line) (sign : Char) (right : Option Line) :
    List Char :=
  let unaligned := total / 2 + 5 + (if total % 2 = 1 then 1 else 0)
  let offset := unaligned / 8 * 8
  let half := min (offset - 3) (total - offset)
  let second := if half = 0 then total else offset
  let (shown, column) := left.elim ([], 0) fun line => halfLine half 0 0 line.text
  let isEnded := left.any (·.isEnded)
  let isSecondEnded := right.any (·.isEnded)
  let sign := if sign = '|' && isEnded ≠ isSecondEnded then (if isEnded then '/' else '\\')
    else sign
  let middle := (half + second - 1) / 2
  let (gap, column) := if sign = ' ' then ([], column)
    else (blanksTo (middle + 1) column middle ++ [sign], middle + 1)
  let behind := match right with
    | some line =>
      if line.text = [] && line.isEnded then []
      else blanksTo (second + 1) column second ++ (halfLine half 0 0 line.text).1
    | none => []
  shown ++ gap ++ behind ++ (if isEnded || isSecondEnded then ['\n'] else [])

/-- Both files side by side, from a line of each on. -/
def columnLines (r : Report) : Nat → Nat → List Change → List Char
  | n, m, changes =>
    let row := fun (left : Option Nat) (sign : Char) (right : Option Nat) =>
      columnLine r.width (left.bind fun n => r.first[n]?) sign (right.bind fun m => r.second[m]?)
    let common := fun stop : Nat =>
      if r.onlyChanges then []
      else (List.range (stop - n)).flatMap fun k =>
        if r.onlyLeft then row (some (n + k)) '(' none
        else row (some (n + k)) ' ' (some (m + k))
    match changes with
    | [] => common r.first.size
    | c :: rest =>
      let both := min c.removed c.added
      common c.first ++
        ((List.range both).flatMap fun k => row (some (c.first + k)) '|' (some (c.second + k))) ++
        ((List.range (c.added - both)).flatMap fun k =>
          row none '>' (some (c.second + both + k))) ++
        ((List.range (c.removed - both)).flatMap fun k =>
          row (some (c.first + both + k)) '<' none) ++
        columnLines r (c.first + c.removed) (c.second + c.added) rest

def Report.text (r : Report) (style : Style) : List Char :=
  let meant := (r.changes.filter fun c => !c.isIdle).map (·.toChange)
  let hunks := fun (around : Nat) =>
    ((grouped around r.changes).filter fun group => group.any fun c => !c.isIdle).filterMap
      (hunkOf r around)
  match style with
  | .plain => meant.flatMap (plainChange r)
  | .commands => meant.reverse.flatMap (commandChange r)
  | .forward => meant.flatMap (forwardChange r)
  | .numbered => meant.flatMap (numberedChange r)
  | .columns => columnLines r 0 0 meant
  | .unified around => (hunks around).flatMap (unifiedHunk r)
  | .context around => (hunks around).flatMap (contextHunk r)

end BoardBind.Script.Diff
