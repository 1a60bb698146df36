import BoardBind.Script.Transfer

/-! # Copying files

Files and directories are copied to other places, with all that is in them if asked for. Instead of
copies, links or further names can be made. What was copied before is remembered, so that a
directory is not copied into itself, and a file that is found at several places may stay one file.
-/

namespace BoardBind.Script

/-- What an argument asks for: a source, its goal, and how many directories were made before. -/
structure Errand where
  source : List Char
  goal : List Char
  made : Nat := 0

/-- How many directories have been made for arguments. -/
def Progress.directoriesMade (p : Progress) : Nat :=
  p.known.countP fun c => c.source = c.target

namespace Transfer

def follows (t : Transfer) (isNamed : Bool) : Bool :=
  match t.following with
  | .always => true
  | .named => isNamed
  | .never => false

/-- Gives a copy the properties of its source that are kept. -/
def settle (t : Transfer) (source target : Place) (p : Progress) : Progress :=
  let disk := p.disk
  let disk := if t.keepsMode then disk.withMode target (disk.modeAt source) else disk
  let disk := if t.keepsTime then disk.withModified target (disk.modifiedAt source) else disk
  match t.mode with
  | some mode => { p with disk := disk.withMode target mode }
  | none => { p with disk }

def tell (t : Transfer) (bytes : List UInt8) (p : Progress) : Progress :=
  match t.remark with
  | none => p
  | some r =>
    let offload := if bytes = [] && r.offload = "yes" then "unknown" else r.offload
    p.report (!t.leavesContents) ("copy offload: " ++ offload ++ ", reflink: " ++ r.reflink ++
      ", sparse detection: " ++ r.sparse).toList

def putLink (t : Transfer) (s : Setting) (source goal : List Char) (p : Progress) :
    Except Progress Progress :=
  let refused := fun reason : OsError =>
    .error (p.complain s ("cannot create symbolic link ".toList ++ fileMarks goal ++
      " to ".toList ++ fileMarks source ++ ": ".toList ++ reason.reason.toList))
  let isHere := match p.disk.lastStep (s.path goal), p.disk.find (s.path ['.']) with
    | .ok (parent, _), .ok (here, _) => parent = here
    | _, _ => false
  if source.head? ≠ some '/' && !isHere then
    .error (p.complain s (fileShown goal ++
      ": can make relative symbolic links only in current directory".toList))
  else
    match freshPlace p.disk (s.path goal), entryPlace p.disk (s.path goal) with
    | .ok target, _ => .ok { p with disk := softLink s.making p.disk target source }
    | .error .alreadyExists, .ok target =>
      if t.forces then .ok { p with disk := softLink s.making p.disk target source }
      else refused .alreadyExists
    | .error reason, _ => refused reason

/-- Gives the file at a place another name, over what is there if asked for. -/
def putName (s : Setting) (replaces : Bool) (place : Place) (source goal : List Char)
    (p : Progress) : Except Progress Progress :=
  let refused := fun reason : OsError =>
    .error (p.complain s ("cannot create hard link ".toList ++ fileMarks goal ++ " to ".toList ++
      fileMarks source ++ ": ".toList ++ reason.reason.toList))
  match freshPlace p.disk (s.path goal), entryPlace p.disk (s.path goal) with
  | .ok target, _ => .ok { p with disk := hardLink p.disk place target }
  | .error .alreadyExists, .ok target =>
    if replaces then .ok { p with disk := hardLink p.disk place target }
    else refused .alreadyExists
  | .error reason, _ => refused reason

/-- Puts the contents of a file at a goal: into the file that is there, or into a new one. -/
def putContents (t : Transfer) (s : Setting) (there : Option Place) (place : Place)
    (bytes : List UInt8) (source goal : List Char) (p : Progress) : Except Progress Progress :=
  let notShared := fun p : Progress =>
    .error (p.complain s ("failed to clone ".toList ++ fileMarks goal ++ " from ".toList ++
      fileMarks source ++ ": Operation not supported".toList))
  match there with
  | some target =>
    if (p.disk.machine.fixture? target).isSome || t.leavesContents then .ok (t.settle place target p)
    else if t.onlyShares then
      notShared { p with disk := p.disk.overwritten s.making target [] }
    else
      .ok (t.settle place target
        (t.tell bytes { p with disk := p.disk.overwritten s.making target bytes }))
  | none =>
    let isDangling := Condition.Files.isLink ⟨p.disk, s.directory, false⟩ goal
    match if goal = [] then .error .noEntry else openedPlace p.disk (s.path goal) with
    | .error reason =>
      let reason := if reason = .isDirectory then .notDirectory else reason
      .error (p.refuse s "cannot create regular file" goal reason)
    | .ok target =>
      if isDangling then
        .error (p.complain s ("not writing through dangling symlink ".toList ++ fileMarks goal))
      else if t.onlyShares then notShared p
      else
        let mode := if t.usesPlainMode then 0o666 else p.disk.modeAt place &&& 0o777
        let bytes := if t.leavesContents then [] else bytes
        .ok (t.settle place target
          (t.tell bytes { p with disk := p.disk.made s.making target (.file bytes false) mode }))

/-- Puts a link with the text of another one at a goal. -/
def putText (t : Transfer) (s : Setting) (place : Place) (text : String) (goal : List Char)
    (p : Progress) : Except Progress Progress :=
  let put := fun target : Place =>
    let p := { p with disk := softLink s.making p.disk target (ofString text) }
    if t.keepsTime then
      { p with disk := p.disk.withModified target (p.disk.modifiedAt place) }
    else p
  match freshPlace p.disk (s.path goal), entryPlace p.disk (s.path goal) with
  | .ok target, _ => .ok (put target)
  | .error .alreadyExists, .ok target =>
    if t.forces then .ok (put target)
    else .error (p.refuse s "cannot create symbolic link" goal .alreadyExists)
  | .error reason, _ => .error (p.refuse s "cannot create symbolic link" goal reason)

/-- The earlier copy of a file that is found at several places, if they are to stay one file. -/
def earlier? (t : Transfer) (p : Progress) (isNamed : Bool) (place : Place) : Option Carried :=
  let mayRecur := 1 < (p.disk.twins place).length || t.follows isNamed && t.following ≠ .never
  if t.keepsLinks && !t.namesAgain && mayRecur then
    p.known.find? fun c => p.disk.isSame c.source place
  else none

/-- Puts what is at a place at a goal that is free by now, or that holds a file. What is no
directory is told about first. -/
def putFile (t : Transfer) (s : Setting) (isNamed : Bool) (there : Option Place)
    (place : Place) (node : Node) (source goal : List Char) (p : Progress) :
    Except Progress Progress :=
  match t.earlier? p isNamed place, entryPlace p.disk (s.path goal) with
  | some c, .ok target =>
    let isThere := (freshPlace p.disk (s.path goal)).isOk
    let p := p.report (t.isLoud && !isThere) ("removed ".toList ++ fileMarks goal)
    .ok { p with disk := hardLink p.disk c.target target }
  | _, target =>
    let p := match target with
      | .ok target =>
        if t.keepsLinks then { p with known := p.known ++ [⟨place, target, goal⟩] } else p
      | .error _ => p
    let result :=
      if t.pointsBack then t.putLink s source goal p
      else if t.namesAgain then
        putName s (t.forces || t.replacing = .asks) place source goal p
      else
        match node with
        | .file bytes _ => t.putContents s there place bytes source goal p
        | .link text => t.putText s place text goal p
        | .directory => .ok p
    result.map fun p =>
      match target with
      | .ok target => if isNamed then { p with fresh := target :: p.fresh } else p
      | .error _ => p

/-- Copies a file that is no directory to a goal. What is there is kept, taken away or written
into. -/
def copyFile (t : Transfer) (s : Setting) (isNamed : Bool) (there : Option (Place × Node))
    (place : Place) (node : Node) (source goal : List Char) (p : Progress) : Progress :=
  let told := fun (p : Progress) (kept : List Char) =>
    p.report t.isLoud (fileMarks source ++ " -> ".toList ++ fileMarks goal ++ backupNote kept)
  let put := fun (there : Option Place) (p : Progress) =>
    match t.putFile s isNamed there place node source goal p with
    | .ok p => p
    | .error p => p
  match there with
  | none => put none (told p [])
  | some (target, old) =>
    match t.backUp s p source goal place old with
    | .error complaint => p.complain s complaint
    | .ok (some (kept, name)) =>
      match t.putFile s isNamed none place node source goal (told kept name) with
      | .ok p => p
      | .error failed =>
        { failed with disk := p.disk }.report t.isLoud
          (fileMarks name ++ " -> ".toList ++ fileMarks goal ++ " (unbackup)".toList)
    | .ok none =>
      let isPlain := match node with
        | .file .. => true
        | _ => false
      let isTaken := t.removesFirst || !t.leavesContents &&
        ((t.keepsLinks && 1 < (p.disk.twins target).length) || (t.following = .never && !isPlain))
      match isTaken, entryPlace p.disk (s.path goal) with
      | true, .ok entry =>
        put none (told ({ p with disk := p.disk.remove entry }.report t.isLoud
          ("removed ".toList ++ fileMarks goal)) [])
      | _, _ => put (some target) (told p [])

/-- What an earlier copy of a directory means for the next one. -/
inductive Again where
  /-- It is copied for the first time, or once more. -/
  | goesOn
  | stops (p : Progress)

/-- Decides whether a directory is copied that may have been copied before. -/
def again (t : Transfer) (s : Setting) (e : Errand) (isNamed : Bool) (place : Place)
    (source goal : List Char) (p : Progress) : Again :=
  match p.known.find? fun c => c.source = place with
  | none => .goesOn
  | some c =>
    let isAt := fun name : List Char =>
      (entryPlace p.disk (s.path (withoutSlashes name))).toOption.any (· = c.target)
    if isAt source || c.source = c.target then
      .stops (p.complain s ("cannot copy a directory, ".toList ++ fileMarks e.source ++
        ", into itself, ".toList ++ fileMarks e.goal))
    else if isAt goal then
      .stops (p.warn s ("warning: source directory ".toList ++ fileMarks e.source ++
        " specified more than once".toList))
    else if t.follows isNamed then .goesOn
    else
      .stops (p.complain s ("will not create hard link ".toList ++ fileMarks e.goal ++
        " to directory ".toList ++ fileMarks c.name))

/-- Makes the directory at a goal that takes what is in another one. -/
def makeGoal (t : Transfer) (s : Setting) (e : Errand) (place : Place) (source goal : List Char)
    (p : Progress) : Except Progress (Progress × Place) :=
  match entryPlace p.disk (s.path goal) with
  | .error reason => .error (p.refuse s "cannot create directory" goal reason)
  | .ok target =>
    let mode := if t.usesPlainMode then 0o777 else p.disk.modeAt place &&& 0o777
    let known := if p.directoriesMade = e.made then [⟨target, target, goal⟩] else []
    let p := { p with
      disk := p.disk.made s.making target .directory mode
      known := p.known ++ known }
    .ok (p.report t.isLoud (fileMarks source ++ " -> ".toList ++ fileMarks goal), target)

/-- Copies a file or a directory to a goal. The directories above it on the way from the argument
are handed on. -/
def copyStep (t : Transfer) (s : Setting) (e : Errand) :
    Nat → List Place → List Char → Progress → List Char → Progress
  | 0, _, _, p, _ => p
  | fuel + 1, above, goal, p, source =>
    let isNamed := source = e.source
    let found := if source = [] then .error .noEntry
      else if t.follows isNamed then p.disk.find (s.path source)
      else p.disk.entry (s.path source)
    match found with
    | .error reason => p.refuse s "cannot stat" source reason
    | .ok (place, node) =>
      let entry := (entryPlace p.disk (s.path source)).toOption.getD place
      let isRepeated := isNamed && node ≠ .directory && t.backups.isNone && t.mode.isNone &&
        p.named.contains entry
      if node = .directory && !t.isDeep then
        p.complain s ((if t.mode.isSome then "" else "-r not specified; ").toList ++
          "omitting directory ".toList ++ fileMarks source)
      else if isRepeated then
        p.warn s ("warning: source file ".toList ++ fileMarks source ++
          " specified more than once".toList)
      else
        let p := if isNamed then { p with named := entry :: p.named } else p
        let isPlain := match node with
          | .file .. => true
          | _ => false
        let there := if goal = [] then .error .noEntry
          else if !isPlain || t.pointsBack || t.namesAgain || t.backups.isSome || t.removesFirst then
            p.disk.entry (s.path goal)
          else p.disk.find (s.path goal)
        let go := fun (p : Progress) (there : Option (Place × Node)) =>
          if node ≠ .directory then t.copyFile s isNamed there place node source goal p
          else
            match t.again s e isNamed place source goal p with
            | .stops p => p
            | .goesOn =>
              if above.contains place then
                p.complain s ("cannot copy cyclic symbolic link ".toList ++ fileMarks source)
              else
                let target := match there, entryPlace p.disk (s.path goal) with
                  | some (target, _), _ => target
                  | none, .ok target => target
                  | none, .error _ => place
                let p := if isNamed && !(p.known.any fun c => c.source = place) then
                    { p with known := p.known ++ [⟨place, target, goal⟩] }
                  else p
                let made : Except Progress (Progress × Place) := match there with
                  | some (target, _) => .ok (p, target)
                  | none => t.makeGoal s e place source goal p
                match made with
                | .error p => p
                | .ok (p, target) =>
                  let after := (namesAt p.disk place).foldl (fun p name =>
                    copyStep t s e fuel (place :: above) (insideOf goal name) p
                      (insideOf source name)) p
                  let after := t.settle place target after
                  if isNamed then { after with fresh := target :: after.fresh } else after
        match there with
        | .error .noEntry => go p none
        | .error reason => p.refuse s "cannot stat" goal reason
        | .ok (target, old) =>
          match t.likeness s p.disk source goal (place, node) (target, old) with
          | .same => p.refuseSame s source goal
          | likeness =>
            match t.meet s (place, node) target goal p, likeness with
            | (p, .kept), _ => p
            | (p, .replaced), .settled => p
            | (p, .replaced), _ =>
              match t.conflict? p isNamed source goal node old
                  ((entryPlace p.disk (s.path goal)).toOption.getD target) with
              | some complaint => p.complain s complaint
              | none => go p (some (target, old))

def copyTo (t : Transfer) (s : Setting) (goal : List Char) (p : Progress) (source : List Char) :
    Progress :=
  copyStep t s { source, goal, made := p.directoriesMade } (2 * p.disk.nodes.length + 2) [] goal p
    source

/-- Makes the directories in a goal that lead to a source, each like that of the source. -/
def makeWay (t : Transfer) (s : Setting) (goal : List Char) :
    List (List Char) → Progress → Except Progress Progress
  | [], p => .ok p
  | step :: rest, p =>
    let name := insideOf goal step
    match p.disk.find (s.path name), p.disk.find (s.path step) with
    | .ok (_, .directory), _ => makeWay t s goal rest p
    | .ok _, _ =>
      .error (p.complain s (fileMarks name ++ " exists but is not a directory".toList))
    | .error _, .error reason => .error (p.refuse s "failed to get attributes of" step reason)
    | .error _, .ok (place, .directory) =>
      match entryPlace p.disk (s.path name) with
      | .error reason => .error (p.refuse s "cannot make directory" name reason)
      | .ok target =>
        let p := { p with disk := p.disk.made s.making target .directory (p.disk.modeAt place) }
        makeWay t s goal rest
          (t.settle place target (p.report t.isLoud (step ++ " -> ".toList ++ name)))
    | .error _, .ok _ =>
      .error (p.refuse s "failed to get attributes of" step .notDirectory)

def copyInto (t : Transfer) (s : Setting) (directory : List Char) (p : Progress)
    (source : List Char) : Progress :=
  if t.keepsWay then
    let plain := withoutSlashes source
    match makeWay t s directory (pathSteps plain).dropLast p with
    | .error p => p
    | .ok p => t.copyTo s (insideOf directory plain) p source
  else
    let base := lastNameOf source
    t.copyTo s (insideOf directory (if base = ['.', '.'] then ['.'] else base)) p source

end Transfer

/-- The options of `cp`. -/
def copyFlags : Flags where
  plain := "abdfHiLlnPpRrsTuvxZ"
  valued := "tS~@"
  optional := "<>=#;"
  words := [("archive", 'a'), ("attributes-only", '%'), ("backup", '<'), ("copy-contents", '&'),
    ("debug", '!'), ("dereference", 'L'), ("force", 'f'), ("interactive", 'i'), ("link", 'l'),
    ("no-clobber", 'n'), ("no-dereference", 'P'), ("no-preserve", '~'),
    ("no-target-directory", 'T'), ("one-file-system", 'x'), ("parents", '^'), ("preserve", '='),
    ("recursive", 'r'), ("remove-destination", '-'), ("sparse", '@'), ("reflink", '#'),
    ("strip-trailing-slashes", ','), ("suffix", 'S'), ("symbolic-link", 's'),
    ("target-directory", 't'), ("update", '>'), ("verbose", 'v'), ("context", ';')]

/-- What can be kept of a file. -/
inductive Kept where
  | mode
  | time
  | links
  | other
  | all
  deriving DecidableEq

def keptChoices : List (List String × Kept) :=
  [(["mode"], .mode), (["timestamps"], .time), (["ownership"], .other), (["links"], .links),
    (["context"], .other), (["xattr"], .other), (["all"], .all)]

/-- Says of what a list names that it is kept, or that it is not. -/
def keepListed (option : String) (isKept : Bool) (list : List Char) (t : Transfer) :
    Except (List Char) Transfer := do
  let kept ← (list.splitOn ',').mapM (choiceOf option keptChoices)
  let hasAny := fun kind : Kept => kept.any fun k => k = kind || k = .all
  return { t with
    keepsMode := if hasAny .mode then isKept else t.keepsMode
    usesPlainMode := if hasAny .mode then !isKept else t.usesPlainMode
    keepsTime := if hasAny .time then isKept else t.keepsTime
    keepsLinks := if hasAny .links then isKept else t.keepsLinks }

/-- Takes an option for what is replaced into account. -/
def updateOption (value : List Char) (t : Transfer) : Except (List Char) Transfer := do
  if value = [] then return { t with onlyOlder := true }
  if t.replacing = .refuses then return t
  let (onlyOlder, replacing) ← choiceOf "update" updateChoices value
  return { t with onlyOlder, replacing }

/-- Takes an option of `cp` into account. -/
def copyOption (t : Transfer) (flag : Char) (value : List Char) : Except (List Char) Transfer :=
  let remarked := fun change : CopyRemark → CopyRemark =>
    { t with remark := t.remark.map change }
  match flag with
  | 'a' => .ok { t with
      isDeep := true, following := .never, keepsMode := true, keepsTime := true
      keepsLinks := true }
  | 'd' => .ok { t with following := .never, keepsLinks := true }
  | 'f' => .ok { t with forces := true }
  | 'H' => .ok { t with following := .named }
  | 'L' => .ok { t with following := .always }
  | 'P' => .ok { t with following := .never }
  | 'i' => .ok { t with replacing := .asks }
  | 'n' => .ok { t with replacing := .skips }
  | 'l' => .ok { t with namesAgain := true }
  | 's' => .ok { t with pointsBack := true }
  | 'p' => .ok { t with keepsMode := true, keepsTime := true, usesPlainMode := false }
  | 'r' => .ok { t with isDeep := true }
  | 'R' => .ok { t with isDeep := true }
  | 'u' => .ok { t with onlyOlder := true }
  | '>' => updateOption value t
  | 'v' => .ok { t with isLoud := true }
  | '!' => .ok { t with isLoud := true }
  | '%' => .ok { t with leavesContents := true }
  | '^' => .ok { t with keepsWay := true }
  | '-' => .ok { t with removesFirst := true }
  | '=' =>
    if value = [] then .ok { t with keepsMode := true, keepsTime := true, usesPlainMode := false }
    else keepListed "preserve" true value t
  | '~' => keepListed "no-preserve" false value t
  | '@' =>
    (choiceOf "sparse" [(["never"], "never"), (["auto"], "auto"), (["always"], "always")] value).map
      fun choice => remarked fun r =>
        if choice = "never" then { r with offload := "avoided", reflink := "no" }
        else if choice = "always" then { r with offload := "avoided", sparse := "zeros" }
        else r
  | '#' =>
    if value = [] then .ok { t with onlyShares := true }
    else
      (choiceOf "reflink" [(["auto"], "auto"), (["always"], "always"), (["never"], "never")]
        value).map fun choice =>
          if choice = "always" then { t with onlyShares := true }
          else if choice = "never" then
            { remarked fun r => { r with offload := "avoided", reflink := "no" } with
              onlyShares := false }
          else { t with onlyShares := false }
  | _ => .ok t

/-- What the options of `cp` ask for. -/
def copyTransfer (s : Setting) (o : Options) : Except (List Char) Transfer := do
  let remark := if o.has '!' then some {} else none
  let start : Transfer := { following := .named, remark }
  let t ← o.flags.foldlM (fun t (flag, value) => copyOption t flag value) start
  if t.pointsBack && t.namesAgain then
    .error "cannot make both hard and symbolic links".toList
  if t.onlyShares && (o.value? '@').any (· ≠ "auto".toList) then
    .error "--reflink can be used only with --sparse=auto".toList
  let backups ← backupsOf s o
  let isChosen := o.flags.any fun f => "adHLP".toList.contains f.1
  let following := if isChosen then t.following
    else if t.isDeep && !t.namesAgain then .never
    else .always
  return { t with backups, following }

def cp : Utility := withOptions copyFlags 1 fun s o =>
  let warnings := (if o.has 'n' then
      [s.complaint ("warning: behavior of -n is non-portable and may change in future; " ++
        "use --update=none instead").toList]
    else []) ++
    (if (o.values ';').any (· ≠ []) then
      [s.complaint "warning: ignoring --context; it requires an SELinux-enabled kernel".toList]
    else [])
  let effect := match copyTransfer s o with
    | .error complaint => s.misused 1 complaint
    | .ok t =>
      match goalOf "target directory" s o with
      | .error effect => effect
      | .ok (sources, .directory directory) =>
        let sources := if o.has ',' then sources.map withoutSlashes else sources
        (sources.foldl (t.copyInto s directory) s.progress).effect
      | .ok (sources, .name goal) =>
        if t.keepsWay then
          s.misused 1 "with --parents, the destination must be a directory".toList
        else
          let isSelf := t.forces && sources.head? = some goal && s.disk.hasFile (s.path goal)
          match t.backups, isSelf with
          | some b, true =>
            (sources.foldl ({ t with backups := none }.copyTo s (b.name s s.disk goal))
              s.progress).effect
          | _, _ => (sources.foldl (t.copyTo s goal) s.progress).effect
  { effect with said := warnings ++ effect.said }

end BoardBind.Script
