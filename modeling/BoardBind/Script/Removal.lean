import BoardBind.Script.FileTool

/-! # Programs that take files away

Files and directories are taken away, with all that is in them if asked for. A directory is left
behind what it holds. Each step may be asked about first.
-/

namespace BoardBind.Script

/-- How files are taken away. -/
structure Removal where
  /-- Whether directories are taken away with all that is in them. -/
  isDeep : Bool := false
  /-- Whether empty directories are taken away. -/
  takesEmpty : Bool := false
  /-- Whether each step is asked about. -/
  asksAlways : Bool := false
  /-- Whether it is asked once, if much is to be taken away. -/
  asksOnce : Bool := false
  ignoresMissing : Bool := false
  isLoud : Bool := false
  /-- Whether the root may be taken away. -/
  takesRoot : Bool := false

/-- Whether a path ends with a step that stays or leads upwards. -/
def endsInDots (name : List Char) : Bool :=
  match ((withoutSlashes name).splitOn '/').getLast? with
  | some last => last = ['.'] || last = ['.', '.']
  | none => false

def askedKind (disk : Disk) (place : Place) : String :=
  match disk.at? place with
  | some .directory => "directory "
  | some (.link _) => "symbolic link "
  | some (.file [] _) => "regular empty file "
  | _ => "regular file "

/-- What a name leads to without following a link at its end. An empty name leads nowhere. -/
def Setting.entry (s : Setting) (disk : Disk) (name : List Char) : Except OsError (Place × Node) :=
  if name = [] then .error .noEntry else disk.entry (s.path name)

/-- Whether a name with slashes at its end is that of a link without them. -/
def Setting.isSlashedLink (s : Setting) (disk : Disk) (name : List Char) : Bool :=
  name.getLast? = some '/' &&
    Condition.Files.isLink ⟨disk, s.directory, false⟩ (withoutSlashes name)

/-- Takes an entry away that is empty by now. What is kept behind it is told: whether the
directories above it must stay too. -/
def Removal.excise (r : Removal) (s : Setting) (p : Progress) (name : List Char) (place : Place) :
    Progress × Bool :=
  let refused := fun reason : OsError => (p.refuse s "cannot remove" name reason, true)
  if s.isSlashedLink p.disk name then
    (if r.ignoresMissing then (p, false) else refused .notDirectory)
  else if (p.disk.machine.fixture? place).isSome then
    refused (if p.disk.at? place = some .directory then .busy else .denied)
  else if isOccupied p.disk place then refused .notEmpty
  else
    let kind := if p.disk.at? place = some .directory then "removed directory " else "removed "
    ({ p with disk := p.disk.remove place }.report r.isLoud (kind.toList ++ inMarks name), false)

/-- Takes away what is at a place, and tells whether the directories above it must stay. -/
def Removal.takeAway (r : Removal) (s : Setting) (isTop : Bool) :
    Nat → List Char → Place → Progress → Progress × Bool
  | 0, _, _, p => (p, false)
  | fuel + 1, name, place, p =>
    let removing := fun p : Progress =>
      p.ask s r.asksAlways ("remove ".toList ++ (askedKind p.disk place).toList ++ inMarks name)
    let closing := fun p : Progress =>
      match removing p with
      | (p, true) => r.excise s p name place
      | (p, false) => (p, false)
    if p.disk.at? place ≠ some .directory then closing p
    else
      let isEmpty := !isOccupied p.disk place && (p.disk.machine.fixture? place).isNone
      if !r.isDeep && !(r.takesEmpty && isEmpty) then
        (p.refuse s "cannot remove" name (if r.takesEmpty then .notEmpty else .isDirectory), true)
      else if isTop && endsInDots name then
        (p.complain s ("refusing to remove '.' or '..' directory: skipping ".toList ++
          inMarks name), true)
      else if isTop && place = Place.root && !r.takesRoot then
        ((p.complain s ("it is dangerous to operate recursively on ".toList ++ inMarks name)).complain
          s "use --no-preserve-root to override this failsafe".toList, true)
      else if isEmpty then
        match removing p with
        | (p, true) => r.excise s p name place
        | (p, false) => (p, true)
      else
        match p.ask s r.asksAlways ("descend into directory ".toList ++ inMarks name) with
        | (p, false) => (p, true)
        | (p, true) =>
          let step := fun (state : Progress × Bool) (child : List Char) =>
            let (p, keeps) := r.takeAway s false fuel (insideOf name child)
              (place ++ [diskName child]) state.1
            (p, state.2 || keeps)
          match (namesAt p.disk place).foldl step (p, false) with
          | (p, true) => (p, true)
          | (p, false) => closing p

def Removal.step (r : Removal) (s : Setting) (p : Progress) (name : List Char) : Progress :=
  match s.entry p.disk name with
  | .ok (place, _) => (r.takeAway s true (p.disk.nodes.length + 2) name place p).1
  | .error reason =>
    if r.ignoresMissing && (reason = .noEntry || reason = .notDirectory) then p
    else p.refuse s "cannot remove" name reason

def askingChoices : List (List String × String) :=
  [(["never", "no", "none"], "never"), (["once"], "once"), (["always", "yes"], "always")]

/-- Adds an option to how files are taken away. -/
def Removal.tell (r : Removal) (flag : Char) (value : List Char) : Except (List Char) Removal :=
  let always := { r with asksAlways := true, asksOnce := false, ignoresMissing := false }
  let once := { r with asksAlways := false, asksOnce := true, ignoresMissing := false }
  match flag with
  | 'f' => .ok { r with asksAlways := false, asksOnce := false, ignoresMissing := true }
  | 'i' => .ok always
  | 'I' => .ok once
  | '%' =>
    if value = [] then .ok always
    else
      (choiceOf "interactive" askingChoices value).map fun choice =>
        match choice with
        | "never" => { r with asksAlways := false, asksOnce := false }
        | "once" => once
        | _ => always
  | 'r' => .ok { r with isDeep := true }
  | 'R' => .ok { r with isDeep := true }
  | 'd' => .ok { r with takesEmpty := true }
  | 'v' => .ok { r with isLoud := true }
  | '^' => .ok { r with takesRoot := true }
  | _ => .ok r

/-- Takes files away, and directories if asked to. -/
def rm : Utility := withOptions
    { plain := "dfiIrRv!^", optional := "%+"
      words := [("dir", 'd'), ("force", 'f'), ("recursive", 'r'), ("verbose", 'v'),
        ("interactive", '%'), ("one-file-system", '!'), ("preserve-root", '+'),
        ("no-preserve-root", '^')] } 1 fun s o =>
  match o.flags.foldlM (fun (r : Removal) (flag, value) => r.tell flag value) {} with
  | .error complaint => s.misused 1 complaint
  | .ok r =>
    if o.operands = [] then
      (if r.ignoresMissing then {} else s.misused 1 "missing operand".toList)
    else
      let count := o.operands.length
      let question := "remove ".toList ++ decimal count ++
        (if count = 1 then " argument" else " arguments").toList ++
        (if r.isDeep then " recursively" else "").toList
      match s.progress.ask s (r.asksOnce && (r.isDeep || 3 < count)) question with
      | (p, false) => p.effect
      | (p, true) => (o.operands.foldl (r.step s) p).effect

/-- Why an empty directory cannot be taken away, if it cannot. -/
def emptyRefusal? (s : Setting) (disk : Disk) (name : List Char) : Except OsError Place := do
  match ← s.entry disk name with
  | (place, .directory) =>
    let last := ((withoutSlashes name).splitOn '/').getLastD []
    if last = ['.'] then .error .invalid
    else if last = ['.', '.'] || isOccupied disk place then .error .notEmpty
    else if place = Place.here then .error .notEmpty
    else if (disk.machine.fixture? place).isSome then .error .busy
    else .ok place
  | _ => .error .notDirectory

/-- The directories above one, the lowest first. -/
def upwardPaths (name : List Char) : List (List Char) :=
  ((pathSteps (withoutSlashes name)).dropLast.filter (· ≠ [])).reverse

/-- Takes a chain of empty directories away, until one cannot be. -/
def removeEmpty (s : Setting) (o : Options) (what : String) :
    List (List Char) → Progress → Progress
  | [], p => p
  | name :: rest, p =>
    let p := p.report (o.has 'v') (s.title ++ ": removing directory, ".toList ++ inMarks name)
    match emptyRefusal? s p.disk name with
    | .ok place =>
      if s.isSlashedLink p.disk name then
        p.complain s ("failed to remove ".toList ++ inMarks name ++
          ": Symbolic link not followed".toList)
      else
        removeEmpty s o "failed to remove directory" rest { p with disk := p.disk.remove place }
    | .error reason =>
      if s.isSlashedLink p.disk name && reason ≠ .notDirectory then
        p.complain s ("failed to remove ".toList ++ inMarks name ++
          ": Symbolic link not followed".toList)
      else if o.has '!' && reason = .notEmpty then p
      else p.refuse s (if reason = .notDirectory then "failed to remove" else what) name reason

/-- Takes empty directories away. -/
def rmdir : Utility := withOptions
    { plain := "pv!", words := [("parents", 'p'), ("verbose", 'v'),
      ("ignore-fail-on-non-empty", '!')] } 1 fun s o =>
  if o.operands = [] then s.misused 1 "missing operand".toList
  else
    (o.operands.foldl (fun p name =>
      let above := if o.has 'p' then upwardPaths name else []
      removeEmpty s o "failed to remove" (name :: above) p) s.progress).effect

/-- Takes a single file away. -/
def unlink : Utility := withOptions {} 1 fun s o =>
  match o.operands with
  | [] => s.misused 1 "missing operand".toList
  | [name] =>
    let refused := fun reason : OsError => (s.progress.refuse s "cannot unlink" name reason).effect
    match s.entry s.disk name with
    | .ok (_, .directory) =>
      refused (if s.isSlashedLink s.disk name then .notDirectory else .isDirectory)
    | .ok (place, _) =>
      if (s.disk.machine.fixture? place).isSome then refused .denied
      else { disk := some (s.disk.remove place) }
    | .error reason => refused reason
  | _ :: extra :: _ => s.misused 1 ("extra operand ".toList ++ inMarks extra)

end BoardBind.Script
