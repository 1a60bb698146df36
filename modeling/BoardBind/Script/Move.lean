import BoardBind.Script.Copy

/-! # Moving files and giving them other names

What is at a path gets another path in one step. What is there already is replaced if the two are
of one kind, and if it is not a directory that holds something.

A file gets another name, or a link that leads to it. A link may be written so that it leads from
its own directory to the file.
-/

namespace BoardBind.Script

/-! ## Moving files -/

/-- Gives what is at a path another path, as the system does it. What is there stays unless it may
be replaced. -/
def renamed (disk : Disk) (source goal : Path) (replaces : Bool) : Except OsError Disk := do
  let (parent, name) ← disk.lastStep source
  let (above, last) ← disk.lastStep goal
  match name, last with
  | none, _ => .error .busy
  | _, none => .error (if replaces then .busy else .alreadyExists)
  | some name, some last =>
    let place := parent ++ [name]
    let target := above ++ [last]
    let node ← disk.lookUp parent name
    let there ← disk.lookUp above last
    match node with
    | none => .error .noEntry
    | some node =>
      let isDirectory := node = .directory
      let wantsDirectory := Disk.wantsDirectory source || Disk.wantsDirectory goal
      if there.isSome && !replaces then .error .alreadyExists
      else if !isDirectory && wantsDirectory then .error .notDirectory
      else if place ≠ target && place.isPrefixOf target then .error .invalid
      else if place ≠ target && target.isPrefixOf place then .error .notEmpty
      else if disk.isSame place target then .ok disk
      else
        match there with
        | none => .ok (moveTree disk place target)
        | some .directory =>
          if !isDirectory then .error .isDirectory
          else if isOccupied disk target then .error .notEmpty
          else .ok (moveTree disk place target)
        | some _ =>
          if isDirectory then .error .notDirectory
          else if (disk.machine.fixture? target).isSome then .ok disk
          else .ok (moveTree disk place target)

/-- Moves a file or a directory to a goal. The system may have been asked with another writing of
the source. -/
def moveStep (t : Transfer) (s : Setting) (goal : List Char) (p : Progress)
    (asked source : List Char) : Progress :=
  let goalPath := s.path (if goal = [] then ['.'] else goal)
  let attempt := fun (p : Progress) (name : List Char) (replaces : Bool) =>
    if name = [] then .error .noEntry else renamed p.disk (s.path name) goalPath replaces
  let done := fun (p : Progress) (disk : Disk) (kept : List Char) =>
    let fresh := (entryPlace p.disk (s.path (withoutSlashes goal))).toOption.toList
    { p with disk, fresh := fresh ++ p.fresh }.report t.isLoud
      ("renamed ".toList ++ fileMarks source ++ " -> ".toList ++ fileMarks goal ++ backupNote kept)
  let refused := fun (p : Progress) (reason : OsError) =>
    match reason with
    | .invalid =>
      p.complain s ("cannot move ".toList ++ fileMarks source ++
        " to a subdirectory of itself, ".toList ++ fileMarks goal)
    | .alreadyExists => p.refuse s "cannot overwrite" goal reason
    | .isDirectory => p.refuse s "cannot overwrite" goal reason
    | .notEmpty => p.refuse s "cannot overwrite" goal reason
    | _ =>
      p.complain s ("cannot move ".toList ++ fileMarks source ++ " to ".toList ++
        fileMarks goal ++ ": ".toList ++ reason.reason.toList)
  let last := fun (before p : Progress) (first : OsError) (kept : List Char) =>
    let result := if first = .alreadyExists then attempt p source true else .error first
    match result with
    | .ok disk => done p disk kept
    | .error reason => refused { p with disk := before.disk } reason
  match attempt p asked false with
  | .ok disk => done p disk []
  | .error first =>
    let found := if source = [] then .error .noEntry else p.disk.entry (s.path source)
    match found, p.disk.entry goalPath with
    | .error reason, _ => p.refuse s "cannot stat" source reason
    | .ok _, .error .noEntry => last p p first []
    | .ok _, .error reason => p.refuse s "cannot stat" goal reason
    | .ok (place, node), .ok (target, old) =>
      let isLeft := first = .alreadyExists && (t.replacing = .refuses || t.replacing = .skips)
      let likeness := if isLeft then .different
        else t.likeness s p.disk source goal (place, node) (target, old)
      match likeness with
      | .same => p.refuseSame s source goal
      | likeness =>
        match t.meet s (place, node) target goal p, likeness with
        | (p, .kept), _ => p
        | (p, .replaced), .settled => p
        | (p, .replaced), _ =>
          match t.conflict? p true source goal node old target with
          | some complaint => p.complain s complaint
          | none =>
            match t.backUp s p source goal place old with
            | .error complaint => p.complain s complaint
            | .ok none => last p p first []
            | .ok (some (kept, name)) => last p kept first name

/-- The options of `mv`. -/
def moveFlags : Flags where
  plain := "bfinTuvZ"
  valued := "tS"
  optional := "<>"
  words := [("backup", '<'), ("context", 'Z'), ("debug", '!'), ("force", 'f'),
    ("interactive", 'i'), ("no-clobber", 'n'), ("no-copy", '+'), ("no-target-directory", 'T'),
    ("strip-trailing-slashes", ','), ("suffix", 'S'), ("target-directory", 't'), ("update", '>'),
    ("verbose", 'v')]

/-- Takes an option of `mv` into account. -/
def moveOption (t : Transfer) (flag : Char) (value : List Char) : Except (List Char) Transfer :=
  match flag with
  | 'f' => .ok { t with replacing := .always }
  | 'i' => .ok { t with replacing := .asks }
  | 'n' => .ok { t with replacing := .refuses }
  | 'u' => .ok { t with onlyOlder := true }
  | '>' => updateOption value t
  | 'v' => .ok { t with isLoud := true }
  | '!' => .ok { t with isLoud := true, remark := some {} }
  | _ => .ok t

/-- What the options of `mv` ask for. -/
def moveTransfer (s : Setting) (o : Options) : Except (List Char) Transfer := do
  let t ← o.flags.foldlM (fun t (flag, value) => moveOption t flag value)
    ({ isMove := true, isDeep := true, following := .never } : Transfer)
  if t.replacing = .refuses && (o.has 'b' || o.has '<' || o.has 'S') then
    .error "options --backup and --no-clobber are mutually exclusive".toList
  let backups ← backupsOf s o
  return { t with backups, onlyOlder := t.onlyOlder && t.replacing ≠ .refuses }

def mv : Utility := withOptions moveFlags 1 fun s o =>
  match moveTransfer s o with
  | .error complaint => s.misused 1 complaint
  | .ok t =>
    let plain := fun name : List Char => if o.has ',' then withoutSlashes name else name
    match goalOf "target directory" s o with
    | .error effect => effect
    | .ok (sources, .directory directory) =>
      (sources.foldl (fun p source =>
        let source := plain source
        moveStep t s (insideOf directory (lastNameOf source)) p source source) s.progress).effect
    | .ok (sources, .name goal) =>
      (sources.foldl (fun p source => moveStep t s goal p source (plain source))
        s.progress).effect

/-! ## Giving files other names -/

def rootNames (machine : Machine) (place : Place) : List String :=
  ((machine.fullText place).splitOn "/").filter (· ≠ "")

/-- The path that leads from a directory to a place, upwards as far as needed. -/
def relativePath (directory target : List String) : List Char :=
  let common := ((directory.zip target).takeWhile fun (a, b) => a = b).length
  let names := (directory.drop common).map (fun _ => "..") ++ target.drop common
  if names = [] then ['.'] else ofString ("/".intercalate names)

/-- The names that lead from the root to what a path means, with links followed as far as there is
something. -/
def resolvedNames (disk : Disk) (path : Path) : List String :=
  match disk.find path, disk.lastStep path with
  | .ok (place, _), _ => rootNames disk.machine place
  | .error _, .ok (parent, some name) => rootNames disk.machine (parent ++ [name])
  | .error _, _ => path.parts

/-- How files get other names. -/
structure Linking where
  /-- Whether links are made. -/
  isSoft : Bool := false
  /-- Whether a link is written so that it leads from its own directory. -/
  isRelative : Bool := false
  /-- Whether a link gets another name through what it leads to. -/
  follows : Bool := false
  /-- Whether directories may get other names, as far as the system allows it. -/
  takesDirectories : Bool := false
  replaces : Bool := false
  asks : Bool := false
  backups : Option Backups := none
  isLoud : Bool := false

/-- Where another name is put, or a reason why it cannot be. -/
def Linking.place (l : Linking) (s : Setting) (p : Progress) (source : Except OsError (Place × Node))
    (name : List Char) : Except OsError Place :=
  match l.isSoft, source with
  | false, .ok (_, .directory) =>
    (if name = [] then .error .noEntry else freshPlace p.disk (s.path name)).bind fun _ =>
      .error .denied
  | _, _ => if name = [] then .error .noEntry else freshPlace p.disk (s.path name)

def Linking.step (l : Linking) (s : Setting) (name : List Char) (p : Progress)
    (target : List Char) : Progress :=
  let source := if target = [] then .error .noEntry
    else if l.follows then p.disk.find (s.path target)
    else p.disk.entry (s.path target)
  match l.isSoft, source, l.takesDirectories with
  | false, .error reason, _ => p.refuse s "failed to access" target reason
  | false, .ok (_, .directory), false =>
    p.complain s (fileShown target ++ ": hard link not allowed for directory".toList)
  | _, _, _ =>
    let written := match l.isSoft && l.isRelative, p.disk.lastStep (s.path name) with
      | true, .ok (parent, _) =>
        relativePath (rootNames p.disk.machine parent) (resolvedNames p.disk (s.path target))
      | _, _ => target
    let put := fun (p : Progress) (place : Place) (kept : List Char) =>
      let disk := match l.isSoft, source with
        | false, .ok (file, _) => hardLink p.disk file place
        | _, _ => softLink s.making p.disk place written
      let before := if kept = [] then [] else fileMarks kept ++ " ~ ".toList
      { p with disk, fresh := place :: p.fresh }.report l.isLoud
        (before ++ fileMarks name ++ (if l.isSoft then " -> " else " => ").toList ++
          fileMarks written)
    let refused := fun (p : Progress) (reason : OsError) =>
      let tail := if reason = .alreadyExists || l.isSoft && written ≠ [] then []
        else (if l.isSoft then " -> " else " => ").toList ++ fileMarks written
      let text := if reason = .denied then "Operation not permitted" else reason.reason
      p.complain s (("failed to create " ++ (if l.isSoft then "symbolic" else "hard") ++
        " link ").toList ++ fileMarks name ++ tail ++ ": ".toList ++ text.toList)
    let make := fun (p : Progress) (kept : List Char) =>
      if l.isSoft && written = [] then refused p .noEntry
      else
        match l.place s p source name with
        | .ok place => put p place kept
        | .error .alreadyExists =>
          match l.replaces || l.asks || kept ≠ [],
              entryPlace p.disk (s.path (withoutSlashes name)) with
          | true, .ok place => put p place kept
          | _, _ => refused p .alreadyExists
        | .error reason => refused p reason
    let isFree := !(l.replaces || l.asks || l.backups.isSome)
    match if name = [] then .error .noEntry else p.disk.entry (s.path name) with
    | .error .noEntry => make p []
    | .error reason =>
      if isFree then make p [] else p.refuse s "failed to access" name reason
    | .ok (place, node) =>
      let isSame := match source with
        | .ok (file, _) => p.disk.isSame file place
        | .error _ => false
      let isFresh := p.fresh.contains place && (l.backups.all fun b => b.style ≠ .numbered)
      let checksSame := !l.isSoft && (l.backups.isSome || !l.isSoft)
      if isFree then make p []
      else if checksSame && isSame &&
          (l.backups.isNone || sameName s p.disk target name) then p.refuseSame s target name
      else if isFresh then
        p.complain s ("will not overwrite just-created ".toList ++ fileMarks name ++
          " with ".toList ++ fileMarks target)
      else if node = .directory then
        p.complain s (fileShown name ++ ": cannot overwrite directory".toList)
      else
        match p.ask s l.asks ("replace ".toList ++ fileMarks name) with
        | (p, false) => { p with failed := true }
        | (p, true) =>
          match l.backups with
          | none => make p []
          | some b =>
            let (p, kept) := b.keep s p name
            make p kept

/-- The options of `ln`. -/
def linkFlags : Flags where
  plain := "bdfFiLnPrsTv"
  valued := "tS"
  optional := "<"
  words := [("backup", '<'), ("directory", 'F'), ("no-dereference", 'n'),
    ("no-target-directory", 'T'), ("force", 'f'), ("interactive", 'i'), ("suffix", 'S'),
    ("target-directory", 't'), ("logical", 'L'), ("physical", 'P'), ("relative", 'r'),
    ("symbolic", 's'), ("verbose", 'v')]

/-- The names that `ln` makes: each file with its new name. -/
def linkGoals (s : Setting) (o : Options) : Except Effect (List (List Char × List Char)) := do
  let isDirectory := fun name : List Char =>
    name ≠ [] && s.disk.hasDirectory (s.path name) &&
      !(o.has 'n' && Condition.Files.isLink ⟨s.disk, s.directory, false⟩ name)
  let reasonOf := fun name : List Char =>
    match s.found s.disk name with
    | .ok _ => OsError.notDirectory
    | .error reason => reason
  let inside := fun (directory : List Char) (sources : List (List Char)) =>
    sources.map fun source => (source, insideOf directory (lastNameOf source))
  if 1 < (o.values 't').length then
    .error (s.failing 1 "multiple target directories specified".toList)
  match o.operands with
  | [] => .error (s.misused 1 "missing file operand".toList)
  | first :: rest =>
    if o.has 'T' then
      if o.has 't' then
        .error (s.failing 1
          "cannot combine --target-directory and --no-target-directory".toList)
      match rest with
      | [] =>
        .error (s.misused 1 ("missing destination file operand after ".toList ++ fileMarks first))
      | [name] => return [(first, name)]
      | _ :: extra :: _ => .error (s.misused 1 ("extra operand ".toList ++ fileMarks extra))
    match o.value? 't', rest with
    | some directory, _ =>
      if isDirectory directory then return inside directory (first :: rest)
      else .error (s.progress.refuse s "failed to access" directory (reasonOf directory)).effect
    | none, [] => return inside ['.'] [first]
    | none, rest =>
      let last := rest.getLastD []
      if isDirectory last then return inside last (first :: rest.dropLast)
      else if rest.length = 1 then return [(first, last)]
      else .error (s.progress.refuse s "target" last (reasonOf last)).effect

/-- Gives files other names, or makes links to them. -/
def ln : Utility := withOptions linkFlags 1 fun s o =>
  if o.has 'r' && !o.has 's' then
    match linkGoals s o with
    | .error effect =>
      if o.operands = [] then effect
      else s.failing 1 "cannot do --relative without --symbolic".toList
    | .ok _ => s.failing 1 "cannot do --relative without --symbolic".toList
  else
    match backupsOf s o, linkGoals s o with
    | .error complaint, _ => s.misused 1 complaint
    | _, .error effect => effect
    | .ok backups, .ok goals =>
      let last := o.last? ['f', 'i']
      let l : Linking := {
        isSoft := o.has 's', isRelative := o.has 'r'
        follows := o.last? ['L', 'P'] = some 'L'
        takesDirectories := o.has 'd' || o.has 'F'
        replaces := last = some 'f', asks := last = some 'i'
        backups, isLoud := o.has 'v' }
      (goals.foldl (fun p (source, name) => l.step s name p source) s.progress).effect

/-- Gives a file another name. -/
def linkProgram : Utility := withOptions {} 1 fun s o =>
  match o.operands with
  | [] => s.misused 1 "missing operand".toList
  | [one] => s.misused 1 ("missing operand after ".toList ++ fileMarks one)
  | [source, name] =>
    let refused := fun reason : String =>
      s.failing 1 ("cannot create link ".toList ++ fileMarks name ++ " to ".toList ++
        fileMarks source ++ ": ".toList ++ reason.toList)
    let found := if source = [] then .error .noEntry else s.disk.entry (s.path source)
    match found, if name = [] then .error .noEntry else freshPlace s.disk (s.path name) with
    | .error reason, _ => refused reason.reason
    | .ok _, .error reason => refused reason.reason
    | .ok (_, .directory), .ok _ => refused "Operation not permitted"
    | .ok (place, _), .ok target => { disk := some (hardLink s.disk place target) }
  | _ :: _ :: extra :: _ => s.misused 1 ("extra operand ".toList ++ fileMarks extra)

end BoardBind.Script
