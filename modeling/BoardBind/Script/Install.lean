import BoardBind.Script.Copy

/-! # Copying files with a given mode

Files are copied over what is there and get a mode; the directories on the way can be made first.
-/

namespace BoardBind.Script

/-- Makes the directories of a path that are missing, with a message for each. The last one gets a
mode. -/
def installSteps (s : Setting) (isLoud : Bool) (mode : Nat) :
    List (List Char) → Progress → Except Progress Progress
  | [], p => .ok p
  | path :: rest, p =>
    if p.disk.hasDirectory (s.path path) then
      let disk := match rest, p.disk.find (s.path path) with
        | [], .ok (place, _) => p.disk.withMode place mode
        | _, _ => p.disk
      installSteps s isLoud mode rest { p with disk }
    else
      match s.newDirectory p.disk path 0o777 with
      | .ok disk =>
        let disk := match rest, disk.find (s.path path) with
          | [], .ok (place, _) => disk.withMode place mode
          | _, _ => disk
        installSteps s isLoud mode rest
          ({ p with disk }.report isLoud
            (s.title ++ ": creating directory ".toList ++ fileMarks path))
      | .error reason =>
        let reason := if reason = .alreadyExists && rest ≠ [] then .notDirectory else reason
        .error (p.refuse s "cannot create directory" path reason)

/-- The options of `install`. -/
def installFlags : Flags where
  plain := "bcCdDpsTvZ"
  valued := "mogtS|"
  optional := "<;"
  words := [("backup", '<'), ("compare", 'C'), ("context", ';'), ("debug", '!'),
    ("directory", 'd'), ("group", 'g'), ("mode", 'm'), ("no-target-directory", 'T'),
    ("owner", 'o'), ("preserve-timestamps", 'p'), ("preserve-context", '&'), ("strip", 's'),
    ("strip-program", '|'), ("suffix", 'S'), ("target-directory", 't'), ("verbose", 'v')]

/-- Whether the file at a goal is already what would be put there. -/
def isInstalled (s : Setting) (disk : Disk) (mode : Nat) (source goal : List Char) : Bool :=
  match disk.entry (s.path source), disk.entry (s.path goal) with
  | .ok (_, .file bytes _), .ok (target, .file old _) =>
    bytes = old && disk.modeAt target = mode && mode &&& 0o7000 = 0
  | _, _ => false

/-- What the options of `install` ask for. -/
def installTransfer (s : Setting) (o : Options) (mode : Nat) : Except (List Char) Transfer := do
  let backups ← backupsOf s o
  return {
    backups, removesFirst := true, mode := some mode, keepsTime := o.has 'p'
    isLoud := o.has 'v' || o.has '!', remark := if o.has '!' then some {} else none }

/-- Copies a file to a goal unless it is there already. -/
def installTo (t : Transfer) (s : Setting) (compares : Bool) (goal : List Char) (p : Progress)
    (source : List Char) : Progress :=
  if compares && isInstalled s p.disk (t.mode.getD 0) source goal then p
  else t.copyTo s goal p source

/-- Copies files and sets their modes, or makes directories. -/
def install : Utility := withOptions installFlags 1 fun s o =>
  let isLoud := o.has 'v' || o.has '!'
  let known := fun name : List Char => name = "root".toList || (natural? name).isSome
  let names := o.operands
  if o.has 'd' && o.has 't' then
    s.failing 1 "target directory not allowed when installing a directory".toList
  else if 1 < (o.values 't').length then
    s.failing 1 "multiple target directories specified".toList
  else if names = [] then s.misused 1 "missing file operand".toList
  else if o.has 'C' && o.has 'p' then
    s.misused 1 "options --compare (-C) and --preserve-timestamps are mutually exclusive".toList
  else
    match modeChanges? ((o.value? 'm').getD "755".toList) with
    | none => s.failing 1 ("invalid mode ".toList ++ fileMarks ((o.value? 'm').getD []))
    | some changes =>
      let mode := applyChanges changes 0 false 0
      match installTransfer s o mode, (o.value? 'o').filter (!known ·),
          (o.value? 'g').filter (!known ·) with
      | .error complaint, _, _ => s.misused 1 complaint
      | _, some name, _ => s.failing 1 ("invalid user ".toList ++ fileMarks name)
      | _, none, some name => s.failing 1 ("invalid group ".toList ++ fileMarks name)
      | .ok t, none, none =>
        let ways := fun (path : List Char) (p : Progress) =>
          installSteps s isLoud 0o755 (pathSteps path) p
        if o.has 'd' then
          (names.foldl (fun p name =>
            if name = [] then p.refuse s "cannot create directory" name .noEntry
            else
              match installSteps s isLoud mode (pathSteps name) p with
              | .ok p => p
              | .error p => p) s.progress).effect
        else
          match if o.has 'D' && o.has 't' then ways ((o.value? 't').getD []) s.progress
              else .ok s.progress with
          | .error p => p.effect
          | .ok start =>
            match goalOf "failed to access" { s with disk := start.disk } o with
            | .error effect => effect
            | .ok (sources, .directory directory) =>
              (sources.foldl (fun p source =>
                installTo t s (o.has 'C') (insideOf directory (lastNameOf source)) p source)
                start).effect
            | .ok (sources, .name goal) =>
              let start := if o.has 'D' then
                  installSteps s isLoud 0o755 (pathSteps goal).dropLast start
                else .ok start
              match start with
              | .error p => p.effect
              | .ok start =>
                (sources.foldl (installTo t s (o.has 'C') goal) start).effect

end BoardBind.Script
