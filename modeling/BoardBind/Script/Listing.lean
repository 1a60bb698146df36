import BoardBind.Script.Install
import BoardBind.Script.Listing.Style
import BoardBind.Script.Move
import BoardBind.Script.Order
import BoardBind.Script.Pattern

/-! # Listings of files

How `ls` shows files and directories: by their names, in lines or columns, or with what is known
about them besides.
-/

namespace BoardBind.Script

/-- What `ls` shows about an operand or a name in a directory. -/
structure Listed where
  name : List Char
  place : Place
  node : Node
  /-- What a link leads to, if it leads to something. -/
  behind : Option Node := none

namespace Listed

def isDirectory (l : Listed) : Bool :=
  l.node = .directory

def size (l : Listed) : Nat :=
  match l.node with
  | .file bytes _ => bytes.length
  | .directory => 4096
  | .link target => target.utf8ByteSize

/-- The number of blocks of 1024 bytes that a file takes. -/
def blocks (l : Listed) : Nat :=
  match l.node with
  | .file bytes _ => (bytes.length + 4095) / 4096 * 4
  | .directory => 4
  | .link _ => 0

/-- The number of places where a file is found, or of those that lead to a directory. -/
def links (disk : Disk) (l : Listed) : Nat :=
  match l.node with
  | .directory =>
    2 + (disk.nodes.filter fun entry =>
      entry.2 = .directory && entry.1.dropLast = l.place && entry.1 ≠ l.place).length
  | _ => (disk.twins l.place).length

def at? (disk : Disk) (name : List Char) (place : Place) : Option Listed :=
  (disk.at? place).map fun node =>
    let behind := match node with
      | .link target =>
        let (start, names) := disk.linkOrigin place.dropLast ⟨target⟩
        (disk.follow Disk.linkLimit start names).toOption.bind disk.at?
      | _ => none
    { name, place, node, behind }

end Listed

/-- The sign that shows the kind of a file, as far as signs are wanted. -/
def kindSign (signs : KindSigns) (node : Node) : List Char :=
  match node, signs with
  | _, .never => []
  | .directory, _ => ['/']
  | .link _, .slash => []
  | .link _, _ => ['@']
  | .file _ executable, signs => if executable && signs = .all then ['*'] else []

/-- A text with escapes for what cannot be printed, and with backslashes before some signs. -/
def escapedText (signs : List Char) (name : List Char) : List Char :=
  name.flatMap fun c =>
    if c < ' ' || '\x7f' ≤ c then charEscape c
    else if c = '\\' || c ∈ signs then ['\\', c] else [c]

def listQuoted (name : List Char) : List Char :=
  '"' :: escapedText ['"'] name ++ ['"']

/-- A name as a shell reads it, in quotes where they are needed. What cannot be printed stays. -/
def listShell (always : Bool) (name : List Char) : List Char :=
  let isPlain := name.all fun c => ' ' ≤ c && c < '\x7f' || '\x7f' < c
  let needs := name = [] || name.zipIdx.any fun (c, n) =>
    isShellSign name.length n c && (c < '\x7f')
  if !always && !needs then name
  else if name.contains '\'' && isPlain && name.all isPlainInQuotes then '"' :: name ++ ['"']
  else '\'' :: (name.flatMap fun c => if c = '\'' then "'\\''".toList else [c]) ++ ['\'']

def listName (t : ListStyle) (name : List Char) : List Char :=
  let shown := match t.names with
    | .literal => name
    | .shell always => listShell always name
    | .shellEscape always => if always || needsMarks name then fileMarks name else name
    | .text always =>
      if always || (escapedText ['"'] name).length ≠ name.length then listQuoted name else name
    | .escape => escapedText [' '] name
    | .marks => '\'' :: escapedText ['\''] name ++ ['\'']
  if t.masksChars then shown.map fun c => if c < ' ' || '\x7f' ≤ c then '?' else c else shown

/-- A number of bytes with the letter of a unit, rounded upwards. -/
def humanSize (base n : Nat) : List Char :=
  let units := (if base = 1024 then "KMGTPEZY" else "kMGTPEZY").toList
  let step := fun (state : Nat × Nat) (_ : Nat) =>
    if state.1 < base * state.2 then state else (state.1, state.2 * base)
  let unit := ((List.range units.length).foldl step (n, 1)).2
  if unit = 1 then decimal n
  else
    let letter := units.getD ((List.range units.length).countP fun k =>
      (List.replicate (k + 1) base).foldl (· * ·) 1 < unit) 'K'
    let tenths := (n * 10 + unit - 1) / unit
    if tenths < 100 then decimal (tenths / 10) ++ '.' :: decimal (tenths % 10) ++ [letter]
    else decimal ((n + unit - 1) / unit) ++ [letter]

def SizeStyle.shown (style : SizeStyle) (n : Nat) : List Char :=
  match style with
  | .plain => decimal n
  | .human base => humanSize base n
  | .units size suffix => decimal ((n + size - 1) / size) ++ suffix

def blockText (t : ListStyle) (blocks : Nat) : List Char :=
  (t.blocks.getD (.units 1024 [])).shown (blocks * 1024)

/-- The time of a file as a long listing shows it: another way for the last months. -/
def listTime (s : Setting) (t : ListStyle) (m : Moment) : List Char :=
  let isRecent := m.seconds ≤ s.now.seconds && s.now.seconds - m.seconds < 15778476
  match t.times with
  | .formats recent old => formatMoment s.zone m (if isRecent then recent else old)

/-- Texts filled up in front to the width of the widest. -/
def alignedRight (texts : List (List Char)) : List (List Char) :=
  let width := texts.foldl (fun n text => max n text.length) 0
  texts.map fun text => List.replicate (width - text.length) ' ' ++ text

/-- Names with commas between them, in lines of less than a width; the column that is reached is
handed in. -/
def commaLines (width : Nat) : Nat → List (List Char) → List Char
  | _, [] => []
  | column, name :: rest =>
    if column = 0 then name ++ commaLines width name.length rest
    else if column + name.length + 2 < width then
      ", ".toList ++ name ++ commaLines width (column + name.length + 2) rest
    else ",\n".toList ++ name ++ commaLines width name.length rest

/-- The widths of columns that hold names, two blanks included, or one row of them. -/
def columnWidths (isByRows : Bool) (columns : Nat) (names : List (List Char)) : List Nat :=
  let rows := (names.length + columns - 1) / columns
  (List.range columns).map fun column =>
    ((names.zipIdx.filter fun (_, n) =>
      if isByRows then n % columns = column else n / rows = column).map fun (name, n) =>
        let isLast := if isByRows then n % columns = columns - 1 else n / rows = columns - 1
        name.length + (if isLast then 0 else 2)).foldl max 0

/-- The greatest number of columns that fit into a width. -/
def fittingColumns (isByRows : Bool) (width : Nat) (names : List (List Char)) : Nat :=
  let most := min names.length (max 1 (width / 3))
  let fits := fun columns : Nat =>
    (columnWidths isByRows columns names).foldl (· + ·) 0 < width
  ((List.range most).reverse.find? fun n => fits (n + 1)).elim 1 (· + 1)

/-- Blanks from a column to another one; tabs are used as far as they reach. -/
def indentation (tab : Nat) : Nat → Nat → Nat → List Char
  | 0, _, _ => []
  | fuel + 1, column, goal =>
    if goal ≤ column then []
    else if tab ≠ 0 && (column + 1) / tab < goal / tab then
      '\t' :: indentation tab fuel (column / tab * tab + tab) goal
    else ' ' :: indentation tab fuel (column + 1) goal

/-- A row of names, each with the width of its column; the column that is reached is handed in. -/
def columnRow (tab : Nat) : Nat → List (List Char × Nat) → List Char
  | _, [] => []
  | _, [(name, _)] => name
  | column, (name, width) :: rest =>
    let reached := column + name.length
    name ++ indentation tab (width + 1) reached (column + width) ++
      columnRow tab (column + width) rest

def columnLines (isByRows : Bool) (tab width : Nat) (names : List (List Char)) : List Char :=
  if names = [] then []
  else
    let columns := fittingColumns isByRows width names
    let widths := columnWidths isByRows columns names
    let rows := (names.length + columns - 1) / columns
    joinLines ((List.range rows).map fun row =>
      columnRow tab 0 ((List.range columns).filterMap fun column =>
        let index := if isByRows then row * columns + column else column * rows + row
        (names[index]?).map fun name => (name, widths.getD column 0)))

def longLines (s : Setting) (t : ListStyle) (listed : List Listed) : List (List Char) :=
  let column := fun f : Listed → List Char => alignedRight (listed.map f)
  let links := column fun l => decimal (l.links s.disk)
  let sizes := column fun l =>
    if s.disk.machine.isDevice l.place then "1, 3".toList else t.sizes.shown l.size
  let times := column fun l =>
    listTime s t (.ofNanoseconds (s.disk.modifiedAt l.place))
  let owner := if t.isNumeric then "0 " else "root "
  let owners := (if t.hasOwner then owner else "") ++ (if t.hasGroup then owner else "") ++
    (if t.hasAuthor then owner else "") ++ (if t.hasContext then "? " else "")
  let parts := (links.zip (sizes.zip times)).zip listed
  parts.map fun ((links, size, time), l) =>
    let target := match l.node with
      | .link target => " -> ".toList ++ listName t (ofString target) ++
          l.behind.elim [] (kindSign t.signs)
      | node => kindSign t.signs node
    kindLetter s.disk.machine l.place l.node :: modeLetters (s.disk.modeAt l.place) ++ ' ' :: links ++
      ' ' :: owners.toList ++ size ++ ' ' :: time ++ ' ' :: listName t l.name ++ target

/-- The width of the lines that names are put into; without one, lines are as long as they get. -/
def listWidth (s : Setting) (t : ListStyle) : Option Nat :=
  let width := match t.width, s.environment.lookup "COLUMNS".toList with
    | some n, _ => n
    | none, some text => ((natural? text).filter (0 < ·)).getD 80
    | none, none => 80
  if width = 0 then none else some width

def listing (s : Setting) (t : ListStyle) (listed : List Listed) : List Char :=
  let format := t.layout
  let plain := if format = .long then longLines s t listed
    else listed.map fun l =>
      (if t.hasContext then "? ".toList else []) ++ listName t l.name ++ kindSign t.signs l.node
  let sizes := alignedRight (listed.map fun l => blockText t l.blocks)
  let numbers := alignedRight (listed.map fun l =>
    decimal (1000 + s.disk.nodes.findIdx fun entry => entry.1 = l.place))
  let shown := if t.hasBlocks then sizes.zipWith (fun a b => a ++ ' ' :: b) plain else plain
  let shown := if t.hasInodes then numbers.zipWith (fun a b => a ++ ' ' :: b) shown else shown
  let (width, tab) := match listWidth s t with
    | some width => (width, t.tab.getD 8)
    | none => (1000000, 0)
  if shown = [] then []
  else
    match format with
    | .commas => commaLines width 0 shown ++ [t.ending]
    | .columns => columnLines false tab width shown
    | .rows => columnLines true tab width shown
    | _ => shown.flatMap fun line => line ++ [t.ending]

/-- The line with the number of all blocks, above files in a directory. -/
def totalLine (t : ListStyle) (listed : List Listed) : List Char :=
  if t.layout = .long || t.hasBlocks then
    "total ".toList ++ blockText t (listed.foldl (fun n l => n + l.blocks) 0) ++ [t.ending]
  else []

def nameEnding (name : List Char) : List Char :=
  let ending := (name.reverse.takeWhile (· ≠ '.')).reverse
  if ending.length = name.length then [] else '.' :: ending

def listOrder (s : Setting) (t : ListStyle) (a b : Listed) : Ordering :=
  let byName := compareTexts a.name b.name
  let time := fun l : Listed => s.disk.modifiedAt l.place
  let order := match t.order with
    | .size => (compare b.size a.size).then byName
    | .time => (compare (time b) (time a)).then byName
    | .version => (compareVersions a.name b.name).then byName
    | .extension => (compareTexts (nameEnding a.name) (nameEnding b.name)).then byName
    | .width =>
      (compare (listName t a.name).length (listName t b.name).length).then byName
    | .name => byName
    | .nothing => byName
  let order := if t.isReversed && t.order ≠ .nothing then order.swap else order
  if t.putsDirectoriesFirst then
    let rank := fun l : Listed =>
      if l.isDirectory || l.behind = some .directory then 0 else 1
    (compare (rank a) (rank b)).then order
  else order

def listSorted (s : Setting) (t : ListStyle) (listed : List Listed) : List Listed :=
  listed.mergeSort fun a b => listOrder s t a b ≠ .gt

/-- Whether a name is left out, as a pattern or its first character says. -/
def isUnlisted (t : ListStyle) (name : List Char) : Bool :=
  let fits := fun pattern : List Char =>
    (name.head? ≠ some '.' || pattern.head? = some '.') &&
      (Pattern.ofMarked (pattern.map fun c => (c, false))).accepts name
  t.hidden = .dotted && (name.head? = some '.' || t.unshown.any fits) || t.ignored.any fits

def listedAt (s : Setting) (t : ListStyle) (place : Place) : List Listed :=
  let dots := if t.hidden = .none then
      [⟨['.'], place, .directory, none⟩, ⟨['.', '.'], place.up, .directory, none⟩]
    else []
  let found := (namesAt s.disk place).filterMap fun name =>
    if isUnlisted t name then none else Listed.at? s.disk name (place ++ [diskName name])
  let followed := if t.following ≠ .always then found
    else found.map fun l => { l with node := l.behind.getD l.node }
  listSorted s t (dots ++ followed)

/-- The listings of a directory and, if asked for, of those below it, with their names above. -/
def listTree (s : Setting) (t : ListStyle) (isTitled : Bool) :
    Nat → List Char → Place → List (List Char)
  | 0, _, _ => []
  | fuel + 1, path, place =>
    let listed := listedAt s t place
    let own := (if isTitled then listName t path ++ ":\n".toList else []) ++
      totalLine t listed ++ listing s t listed
    let deeper := if !t.isDeep then []
      else
        let inner := listed.filter fun l =>
          l.isDirectory && l.name ≠ ['.'] && l.name ≠ ['.', '.']
        inner.flatMap fun l => listTree s t isTitled fuel (insideOf path l.name) l.place
    own :: deeper

/-- Finds an operand. Which links are followed is asked for. -/
def listOperand (s : Setting) (t : ListStyle) (name : List Char) : Except OsError Listed :=
  let followed := (s.disk.find (s.path name)).map fun (place, node) =>
    ({ name, place, node } : Listed)
  let plain := do
    let (place, node) ← s.disk.entry (s.path name)
    return ((Listed.at? s.disk name place).getD { name, place, node })
  if name = [] then .error .noEntry
  else
    match t.following, plain, followed with
    | .never, plain, _ => plain
    | .always, _, .ok target => .ok target
    | .operands, _, .ok target => .ok target
    | .operands, plain, .error .noEntry => plain
    | .directories, .ok l, .ok target => .ok (if target.isDirectory then target else l)
    | .directories, plain, _ => plain
    | _, _, followed => followed

def listFiles (start : ListStyle) : Utility := withOptions ListStyle.flags 2 fun s o =>
  match ListStyle.ofOptions start o with
  | .error (complaint, true, status) => s.misused status complaint
  | .error (complaint, false, status) => s.failing status complaint
  | .ok t =>
    let names := if o.operands = [] then [['.']] else o.operands
    let found := names.map fun name => (name, listOperand s t name)
    let refused := found.filterMap fun (name, l) =>
      match l with
      | .error reason =>
        some (s.complaint ("cannot access ".toList ++ fileMarks name ++ ": ".toList ++
          reason.reason.toList))
      | .ok _ => none
    let listed := listSorted s t (found.filterMap fun (_, l) => l.toOption)
    let isFile := fun l : Listed => t.isImmediate || !l.isDirectory
    let files := listed.filter isFile
    let isTitled := 1 < names.length || t.isDeep
    let lists := (listed.filter fun l => !isFile l).flatMap fun l =>
      listTree s t isTitled (s.disk.nodes.length + 1) l.name l.place
    let parts := (if files.isEmpty then [] else [listing s t files]) ++ lists
    { said := refused ++ [{ text := ['\n'].intercalate parts }]
      status := if refused.isEmpty then 0 else 2 }

/-- Prints the names of files and of what is in directories. -/
def ls : Utility := listFiles {}

/-- Prints the names of files in columns. -/
def dir : Utility := listFiles { format := some .columns, names := .escape }

/-- Prints the names of files with what is known about them. -/
def vdir : Utility := listFiles { format := some .long, names := .escape }

end BoardBind.Script
