import BoardBind.Script.Listing

/-! # What is known about files, and where links lead

`stat` prints what is known about a file, in a format that may be chosen. Other programs print what
a link holds, and the path from the root to what a path means.
-/

namespace BoardBind.Script

/-- What must be there for a path to be resolved. -/
inductive Presence where
  | everything
  /-- Everything but what the last name stands for. -/
  | parents
  | nothing
  deriving DecidableEq

/-- Follows names from a place, one by one, and replaces links by what they hold. Behind the first
name that leads nowhere, names are only counted. -/
def resolveNames (disk : Disk) (presence : Presence) (followsLinks : Bool) :
    Nat → Nat → Place → List String → Except OsError Place
  | 0, _, _, _ => .error .tooManyLevels
  | _ + 1, _, here, [] => .ok here
  | fuel + 1, links, here, name :: rest =>
    let isLenient := presence = .nothing
    let goOn := fun place : Place => resolveNames disk presence followsLinks fuel links place rest
    if name = "" || name = "." then goOn here
    else if name = ".." then goOn here.up
    else
      let place := here ++ [name]
      match disk.lookUp here name with
      | .error reason => if isLenient then goOn place else .error reason
      | .ok none =>
        let isEnough := rest.all (· = "") || (!followsLinks && !rest.contains "..")
        if isLenient || (presence = .parents && isEnough) then goOn place else .error .noEntry
      | .ok (some .directory) => goOn place
      | .ok (some (.file ..)) =>
        if rest = [] || isLenient then goOn place else .error .notDirectory
      | .ok (some (.link target)) =>
        if !followsLinks then
          match disk.follow Disk.linkLimit here [name] with
          | .ok end? =>
            if rest ≠ [] && disk.at? end? ≠ some .directory && !isLenient then
              .error .notDirectory
            else goOn place
          | .error _ =>
            if rest.all (· = "") || isLenient then goOn place else .error .noEntry
        else
          match links with
          | 0 => if isLenient then goOn place else .error .tooManyLevels
          | links + 1 =>
            let start := if (Path.mk target).isAbsolute then Place.root else here
            resolveNames disk presence followsLinks fuel links start
              ((Path.mk target).segments ++ rest)

/-- Resolves a path: the names that lead from the root to what it means. -/
def resolve (disk : Disk) (presence : Presence) (followsLinks : Bool) (directory : Path)
    (name : List Char) : Except OsError (List String) :=
  let written := pathOf name
  match Disk.pathFault? written with
  | some reason => .error reason
  | none => do
    let start ← if written.isAbsolute then .ok Place.root
      else (disk.find (directory.join ⟨"."⟩)).map (·.1)
    let fuel := (Disk.linkLimit + 1) * (Disk.pathLimit + 2)
    let segments := written.segments
    let working := disk.machine.working
    let place ← resolveNames disk presence followsLinks fuel Disk.linkLimit
      (if written.isAbsolute && working.isPrefixOf written.parts then Place.here else start)
      (if written.isAbsolute && working.isPrefixOf written.parts then
        written.parts.drop working.length ++
          (if segments.getLast? = some "" then [""] else [])
      else segments)
    return rootNames disk.machine place

def rootPath (names : List String) : List Char :=
  '/' :: ofString ("/".intercalate names)

/-- The options of `readlink`. -/
def readlinkFlags : Flags where
  plain := "femnqszv"
  words := [("canonicalize", 'f'), ("canonicalize-existing", 'e'), ("canonicalize-missing", 'm'),
    ("no-newline", 'n'), ("quiet", 'q'), ("silent", 's'), ("verbose", 'v'), ("zero", 'z')]

/-- Prints what links hold, or the paths from the root that paths mean. -/
def readlink : Utility := withOptions readlinkFlags 1 fun s o =>
  if o.operands = [] then s.misused 1 "missing operand".toList
  else
    let isAlone := o.operands.length = 1
    let ending := if o.has 'n' && isAlone then [] else if o.has 'z' then ['\x00'] else ['\n']
    let found := fun name : List Char =>
      let presence := (o.last? ['f', 'e', 'm']).map fun
        | 'e' => Presence.everything
        | 'm' => .nothing
        | _ => .parents
      match presence with
      | some presence => (resolve s.disk presence true s.directory name).map rootPath
      | none =>
        match s.disk.entry (s.path name) with
        | .ok (_, .link target) => .ok (ofString target)
        | .ok _ => .error .invalid
        | .error reason => .error reason
    let results := o.operands.map fun name =>
      (name, if name = [] then .error .noEntry else found name)
    let warned := if o.has 'n' && !isAlone then
        [s.complaint "ignoring --no-newline with multiple arguments".toList]
      else []
    let isLoud := o.last? ['q', 's', 'v'] = some 'v'
    let said := results.flatMap fun (name, result) =>
      match result with
      | .ok text => [{ text := text ++ ending }]
      | .error reason =>
        if isLoud then [s.complaint (fileShown name ++ ": ".toList ++ reason.reason.toList)] else []
    { said := warned ++ said, status := if results.all fun r => r.2.isOk then 0 else 1 }

/-- The options of `realpath`. -/
def realpathFlags : Flags where
  plain := "emLPqsz"
  valued := "><"
  words := [("canonicalize-existing", 'e'), ("canonicalize-missing", 'm'), ("logical", 'L'),
    ("physical", 'P'), ("quiet", 'q'), ("relative-to", '>'), ("relative-base", '<'),
    ("strip", 's'), ("no-symlinks", 's'), ("zero", 'z')]

/-- Prints the paths from the root, or from some directory, that paths mean. -/
def realpath : Utility := withOptions realpathFlags 1 fun s o =>
  if o.operands = [] then s.misused 1 "missing operand".toList
  else
    let presence : Presence := match o.last? ['e', 'm'] with
      | some 'e' => .everything
      | some _ => .nothing
      | none => .parents
    let follows := o.last? ['s', 'P', 'L'] ≠ some 's'
    let found := fun name : List Char =>
      if name = [] then .error .noEntry
      else if o.last? ['s', 'P', 'L'] = some 'L' then do
        let plain ← resolve s.disk presence false s.directory name
        resolve s.disk presence true s.directory (rootPath plain)
      else resolve s.disk presence follows s.directory name
    let bases := ['>', '<'].map fun flag => (o.value? flag).map fun name => (name, found name)
    let broken := bases.findSome? fun
      | some (name, .error reason) => some (name, reason)
      | _ => none
    match broken with
    | some (name, reason) =>
      s.failing 1 (fileShown name ++ ": ".toList ++ reason.reason.toList)
    | none =>
      let names := bases.map fun base => base.bind fun (_, found) => found.toOption
      let goal := names.getD 0 none
      let base := names.getD 1 none
      let isBelow := fun path : List String => base.all fun base => base.isPrefixOf path
      let from? := match goal, base with
        | some goal, some base => if base.isPrefixOf goal then some goal else none
        | some goal, none => some goal
        | none, base => base
      let shown := fun path : List String =>
        match from? with
        | some start => if isBelow path then relativePath start path else rootPath path
        | none => rootPath path
      let results := o.operands.map fun name => (name, found name)
      let said := results.flatMap fun (name, result) =>
        match result with
        | .ok path => [{ text := shown path ++ [if o.has 'z' then '\x00' else '\n'] }]
        | .error reason =>
          if o.has 'q' then []
          else [s.complaint (fileShown name ++ ": ".toList ++ reason.reason.toList)]
      { said, status := if results.all fun r => r.2.isOk then 0 else 1 }

def kindName (machine : Machine) (l : Listed) : String :=
  match l.node with
  | .directory => "directory"
  | .link _ => "symbolic link"
  | .file bytes _ =>
    if machine.isDevice l.place then "character special file"
    else if bytes = [] then "regular empty file"
    else "regular file"

/-- The number that stands for a kind of file and its mode. -/
def kindMode (disk : Disk) (l : Listed) : Nat :=
  let kind := match l.node with
    | .directory => 0o040000
    | .link _ => 0o120000
    | .file .. => if disk.machine.isDevice l.place then 0o020000 else 0o100000
  kind ||| disk.modeAt l.place

/-- How a piece of information is filled up: its flags, a least width and a precision. -/
structure StatField where
  flags : List Char := []
  width : Nat := 0
  precision : Option (Option Nat) := none

namespace StatField

def fill (f : StatField) (isNumber : Bool) (text : List Char) : List Char :=
  let missing := f.width - text.length
  if f.flags.contains '-' then text ++ List.replicate missing ' '
  else if f.flags.contains '0' && isNumber then List.replicate missing '0' ++ text
  else List.replicate missing ' ' ++ text

def text (f : StatField) (text : List Char) : List Char :=
  f.fill false (match f.precision with
    | some digits => text.take (digits.getD 0)
    | none => text)

/-- A number in a base, with a mark of the base if that is asked for. -/
def number (f : StatField) (base n : Nat) : List Char :=
  let digits := Nat.toDigits base n
  let least := (f.precision.getD (some 0)).getD 0
  let digits := List.replicate (least - digits.length) '0' ++ digits
  let marked := if !f.flags.contains '#' || n = 0 then digits
    else if base = 8 then '0' :: digits
    else if base = 16 then '0' :: 'x' :: digits
    else digits
  f.fill true marked

/-- A moment in seconds, with as many places behind the point as the precision asks for. -/
def seconds (f : StatField) (m : Moment) : List Char :=
  let whole := (toString m.seconds).toList
  let places := match f.precision with
    | none => 0
    | some none => 9
    | some (some n) => n
  let digits := filledNumber 9 '0' m.nanoseconds
  let fraction := if places = 0 then []
    else '.' :: (digits ++ List.replicate (places - 9) '0').take places
  f.fill true (whole ++ fraction)

end StatField

def nullDevice : Place := ["/", "dev", "null"]

def statPiece (s : Setting) (f : StatField) (l : Listed) (letter : Char) : List Char :=
  let disk := s.disk
  let mode := disk.modeAt l.place
  let moment := Moment.ofNanoseconds (disk.modifiedAt l.place)
  let time := formatMoment s.zone moment "%Y-%m-%d %H:%M:%S.%N %z".toList
  let isNull := l.place = nullDevice
  match letter with
  | 'n' => f.text l.name
  | 'N' =>
    f.text (match l.node with
      | .link target => inMarks l.name ++ " -> ".toList ++ inMarks (ofString target)
      | _ => inMarks l.name)
  | 's' => f.number 10 (if disk.machine.isDevice l.place then 0 else l.size)
  | 'a' => f.number 8 mode
  | 'A' => f.text (kindLetter disk.machine l.place l.node :: modeLetters mode)
  | 'F' => f.text (kindName disk.machine l).toList
  | 'U' => f.text "root".toList
  | 'G' => f.text "root".toList
  | 'u' => f.number 10 0
  | 'g' => f.number 10 0
  | 'h' => f.number 10 (l.links disk)
  | 'b' => f.number 10 (if disk.machine.isDevice l.place then 0 else l.blocks * 2)
  | 'B' => f.number 10 512
  | 'o' => f.number 10 4096
  | 'f' => f.number 16 (kindMode disk l)
  | 't' => f.number 16 (if isNull then 1 else 0)
  | 'T' => f.number 16 (if isNull then 3 else 0)
  | 'r' => f.number 10 (if isNull then 259 else 0)
  | 'R' => f.number 16 (if isNull then 259 else 0)
  | 'm' => f.text (if l.place.take 2 = ["/", "dev"] then "/dev".toList else ['/'])
  | 'd' => f.number 10 65024
  | 'D' => f.number 16 65024
  | 'i' => f.number 10 (1000 + disk.nodes.findIdx fun entry => entry.1 = l.place)
  | 'x' => f.text time
  | 'y' => f.text time
  | 'z' => f.text time
  | 'w' => f.text time
  | 'X' => f.seconds moment
  | 'Y' => f.seconds moment
  | 'Z' => f.seconds moment
  | 'W' => f.seconds moment
  | _ => ['?']

def statEscape? : Char → Option Char
  | 'a' => some '\x07'
  | 'b' => some '\x08'
  | 'e' => some '\x1b'
  | 'f' => some '\x0c'
  | 'n' => some '\n'
  | 'r' => some '\r'
  | 't' => some '\t'
  | 'v' => some '\x0b'
  | '"' => some '"'
  | '\\' => some '\\'
  | _ => none

/-- What a format says about a file, or the part of it that is wrong. -/
def statText (s : Setting) (escapes : Bool) (l : Listed) :
    Nat → List Char → Except (List Char) (List Char)
  | 0, _ => .ok []
  | _ + 1, [] => .ok []
  | fuel + 1, '%' :: rest =>
    let flags := rest.takeWhile fun c => c ∈ ['-', '+', ' ', '#', '0', '\'']
    let sized := rest.drop flags.length
    let digits := sized.takeWhile Char.isDigit
    let after := sized.drop digits.length
    let places := (after.drop 1).takeWhile Char.isDigit
    let isPrecise := after.head? = some '.'
    let last := if isPrecise then after.drop (places.length + 1) else after
    let used := rest.take (rest.length - last.length)
    let field : StatField := {
      flags, width := Arithmetic.ofDigits 10 digits
      precision := if isPrecise then
          some (if places = [] then none else some (Arithmetic.ofDigits 10 places))
        else none }
    match last with
    | [] =>
      if used = [] then .ok ['%'] else .error ('%' :: used)
    | '%' :: more =>
      if used = [] then (statText s escapes l fuel more).map ('%' :: ·)
      else .error ('%' :: used ++ ['%'])
    | c :: d :: more =>
      if (c = 'H' || c = 'L') && (d = 'd' || d = 'r') then
        let isNull := l.place = nullDevice
        let value := if d = 'd' then (if c = 'H' then 254 else 0)
          else if !isNull then 0
          else if c = 'H' then 1
          else 3
        (statText s escapes l fuel more).map (field.number 10 value ++ ·)
      else (statText s escapes l fuel (d :: more)).map (statPiece s field l c ++ ·)
    | [c] => .ok (statPiece s field l c)
  | fuel + 1, '\\' :: rest =>
    if !escapes then (statText s escapes l fuel rest).map ('\\' :: ·)
    else
      let octal := (rest.take 3).takeWhile isModeDigit
      if octal ≠ [] then
        (statText s escapes l fuel (rest.drop octal.length)).map
          (Char.ofNat (Arithmetic.ofDigits 8 octal % 256) :: ·)
      else
        match rest with
        | [] => .ok ['\\']
        | 'x' :: more =>
          let hex := (more.take 2).takeWhile isHexDigit
          if hex = [] then (statText s escapes l fuel more).map ('x' :: ·)
          else
            (statText s escapes l fuel (more.drop hex.length)).map
              (Char.ofNat (Arithmetic.ofDigits 16 hex) :: ·)
        | c :: more => (statText s escapes l fuel more).map ((statEscape? c).getD c :: ·)
  | fuel + 1, c :: rest => (statText s escapes l fuel rest).map (c :: ·)

/-- The format of `stat` without options. -/
def statFormat (machine : Machine) (l : Listed) : String :=
  let kind := if machine.isDevice l.place then "Device type: %Hr,%Lr" else ""
  let links := if machine.isDevice l.place then "%-5h " ++ kind else "%h"
  (match l.node with
    | .link target => "  File: %n -> " ++ target.replace "%" "%%"
    | _ => "  File: %n") ++
  "\n  Size: %-10s\tBlocks: %-10b IO Block: %-6o %F\n" ++
  "Device: %Hd,%Ld\tInode: %-10i  Links: " ++ links ++ "\n" ++
  "Access: (%04a/%10.10A)  Uid: (%5u/%8U)   Gid: (%5g/%8G)\n" ++
  "Access: %x\nModify: %y\nChange: %z\n Birth: %w"

/-- The format of `stat` in one line. -/
def terseFormat : String :=
  "%n %s %b %f %u %g %D %i %h %t %T %X %Y %Z %W %o"

/-- The options of `stat`. -/
def statFlags : Flags where
  plain := "Lft"
  valued := "c<"
  optional := "~"
  words := [("dereference", 'L'), ("file-system", 'f'), ("format", 'c'), ("printf", '<'),
    ("terse", 't'), ("cached", '~')]

/-- Prints what is known about files. -/
def stat : Utility := withOptions statFlags 1 fun s o =>
  if o.operands = [] then s.misused 1 "missing operand".toList
  else
    let chosen := (o.flags.filter fun f => f.1 = 'c' || f.1 = '<').getLast?
    let found := fun name : List Char =>
      if name = ['-'] then .ok ({ name, place := nullDevice, node := .file [] false } : Listed)
      else if o.has 'L' then
        (s.disk.find (s.path name)).map fun (place, node) => ({ name, place, node } : Listed)
      else
        (s.disk.entry (s.path name)).map fun (place, node) => ({ name, place, node } : Listed)
    let results := o.operands.map fun name =>
      match found name with
      | .error reason =>
        (false, s.complaint ("cannot statx ".toList ++ inMarks name ++ ": ".toList ++
          reason.reason.toList))
      | .ok l =>
        let (escapes, format) : Bool × List Char := match chosen with
          | some (flag, format) => (flag = '<', format)
          | none => (false, (if o.has 't' then terseFormat else statFormat s.disk.machine l).toList)
        match statText s escapes l (format.length + 1) format with
        | .ok text => (true, { text := if escapes then text else text ++ ['\n'] })
        | .error part => (false, s.complaint (inMarks part ++ ": invalid directive".toList))
    { said := results.map (·.2), status := if results.all (·.1) then 0 else 1 }

end BoardBind.Script
