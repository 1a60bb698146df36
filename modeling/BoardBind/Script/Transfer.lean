import BoardBind.Script.FileTool

/-! # How files are brought to other places

A program that replaces files may keep the old ones under other names: with an ending behind the
name, or with a number that grows each time.

Programs that copy and move files share their options, the way they find the goal of each file, and
the rules for what is there already: two names may mean the same file, and what is there may be
newer, or be asked about.
-/

namespace BoardBind.Script

/-! ## Keeping what is replaced -/

/-- How the name is chosen that something is kept under. -/
inductive BackupStyle where
  /-- With an ending. -/
  | simple
  /-- With a number. -/
  | numbered
  /-- With a number if something is kept with one already. -/
  | existing
  deriving DecidableEq

/-- How what is replaced is kept. -/
structure Backups where
  style : BackupStyle
  ending : List Char

def backupChoices : List (List String × Option BackupStyle) :=
  [(["none", "off"], none), (["simple", "never"], some .simple), (["existing", "nil"],
    some .existing), (["numbered", "t"], some .numbered)]

/-- How options and the environment say that what is replaced is kept. The option with a style is a
word of its own. -/
def backupsOf (s : Setting) (o : Options) : Except (List Char) (Option Backups) :=
  let given := (o.value? 'S').or (s.environment.lookup "SIMPLE_BACKUP_SUFFIX".toList)
  let ending := (given.filter fun text => text ≠ [] && !text.contains '/').getD ['~']
  if !(o.has 'b' || o.has '<' || o.has 'S') then .ok none
  else
    let style := match (o.values '<').filter (· ≠ []),
        s.environment.lookup "VERSION_CONTROL".toList with
      | [], some (c :: more) => choiceFor "$VERSION_CONTROL" backupChoices (c :: more)
      | [], _ => .ok (some .existing)
      | values, _ => choiceFor "backup type" backupChoices (values.getLastD [])
    style.map fun style => style.map fun style => { style, ending }

def keptNumbers (disk : Disk) (directory : Place) (name : List Char) : List Nat :=
  (namesAt disk directory).filterMap fun entry =>
    let start := name ++ ".~".toList
    let rest := entry.drop start.length
    if start.isPrefixOf entry && rest.getLast? = some '~' && rest.head? ≠ some '0' then
      natural? rest.dropLast
    else none

def Backups.name (b : Backups) (s : Setting) (disk : Disk) (name : List Char) : List Char :=
  let plain := withoutSlashes name
  let numbers := match disk.lastStep (s.path plain) with
    | .ok (parent, some last) => keptNumbers disk parent (ofString last)
    | _ => []
  if b.style = .numbered || (b.style = .existing && numbers ≠ []) then
    plain ++ ".~".toList ++ decimal (numbers.foldl max 0 + 1) ++ ['~']
  else plain ++ b.ending

/-- Keeps what is at a path under another name, which is handed back. -/
def Backups.keep (b : Backups) (s : Setting) (p : Progress) (name : List Char) :
    Progress × List Char :=
  let kept := b.name s p.disk name
  match entryPlace p.disk (s.path (withoutSlashes name)), entryPlace p.disk (s.path kept) with
  | .ok place, .ok target => ({ p with disk := moveTree p.disk place target }, kept)
  | _, _ => (p, kept)

/-- Whether something at a path is what would be replaced by keeping what is at another path. -/
def Backups.endangers (b : Backups) (s : Setting) (disk : Disk) (source : Place)
    (goal : List Char) : Bool :=
  let kept := withoutSlashes goal ++ b.ending
  b.style ≠ .numbered && source.getLast?.map ofString = (kept.splitOn '/').getLast? &&
    match disk.find (s.path kept) with
    | .ok (place, _) => disk.isSame place source
    | .error _ => false

/-- What is told about the name that something is kept under. -/
def backupNote (kept : List Char) : List Char :=
  if kept = [] then [] else " (backup: ".toList ++ fileMarks kept ++ [')']

/-! ## How files are brought to other places -/

/-- Which links are followed to what they lead to. -/
inductive Following where
  | never
  /-- Those that arguments name. -/
  | named
  | always
  deriving DecidableEq

/-- What is done if something is at the goal already. -/
inductive ReplaceRule where
  | always
  /-- A question decides. -/
  | asks
  /-- It stays, which is a failure. -/
  | refuses
  /-- It stays. -/
  | skips
  deriving DecidableEq

/-- What is told about how the contents of a file are copied. -/
structure CopyRemark where
  offload : String := "yes"
  reflink : String := "unsupported"
  sparse : String := "no"

/-- How files are brought to other places. -/
structure Transfer where
  isMove : Bool := false
  /-- Whether directories are copied with all that is in them. -/
  isDeep : Bool := false
  following : Following := .always
  backups : Option Backups := none
  replacing : ReplaceRule := .always
  /-- Whether only what is older is replaced. -/
  onlyOlder : Bool := false
  /-- Whether what is replaced is taken away first. -/
  removesFirst : Bool := false
  /-- Whether what is in the way is taken away. -/
  forces : Bool := false
  /-- Whether files get another name instead of being copied. -/
  namesAgain : Bool := false
  /-- Whether links are made instead of copies. -/
  pointsBack : Bool := false
  keepsMode : Bool := false
  keepsTime : Bool := false
  /-- Whether files that are found at several places stay so. -/
  keepsLinks : Bool := false
  /-- Whether new files get the mode that files usually get. -/
  usesPlainMode : Bool := false
  /-- Whether the contents of files are left out. -/
  leavesContents : Bool := false
  /-- Whether files may only share their contents with their copies. -/
  onlyShares : Bool := false
  isLoud : Bool := false
  /-- What is told about how a file that is not empty is copied. -/
  remark : Option CopyRemark := none
  /-- The mode that files get in the end, if they do not get that of their source. -/
  mode : Option Nat := none
  /-- Whether the directories on the way to a source are made at the goal. -/
  keepsWay : Bool := false

/-- Complains that two names mean the same file. -/
def Progress.refuseSame (p : Progress) (s : Setting) (source goal : List Char) : Progress :=
  p.complain s (fileMarks source ++ " and ".toList ++ fileMarks goal ++
    " are the same file".toList)

/-- What a name leads to. An empty name leads nowhere. -/
def Setting.found (s : Setting) (disk : Disk) (name : List Char) : Except OsError (Place × Node) :=
  if name = [] then .error .noEntry else disk.find (s.path name)

/-- What two names have to do with each other. -/
inductive Likeness where
  | different
  | same
  /-- They are the same, and nothing is left to be done. -/
  | settled

/-- Whether two names are those of one entry of a directory. -/
def sameName (s : Setting) (disk : Disk) (a b : List Char) : Bool :=
  match disk.lastStep (s.path a), disk.lastStep (s.path b) with
  | .ok (parent, some name), .ok (other, some last) => parent = other && name = last
  | _, _ => false

def isLinkNode : Node → Bool
  | .link _ => true
  | _ => false

namespace Transfer

/-- What two names have to do with each other of which it is known what their entries hold. -/
def entryLikeness (t : Transfer) (s : Setting) (disk : Disk) (source goal : List Char)
    (here there : Place × Node) : Likeness :=
  let same := disk.isSame here.1 there.1
  let isNamedSo := sameName s disk source goal
  let replaces := t.isMove || t.removesFirst
  let hasTwins := 1 < (disk.twins there.1).length
  let last := fun _ : Unit =>
    if t.pointsBack && isLinkNode there.2 then Likeness.different
    else if t.following ≠ .never then .same
    else
      match disk.find (s.path source), disk.find (s.path goal) with
      | .ok (a, _), .ok (b, _) =>
        if !disk.isSame a b then .different
        else if !t.namesAgain then .same
        else if isLinkNode there.2 then .different
        else .settled
      | _, _ => .different
  if t.backups.isSome then
    if same then (if isNamedSo then .same else .different)
    else if !t.isMove && t.following ≠ .never && isLinkNode here.2 && !isLinkNode there.2 then .same
    else .different
  else if replaces && isLinkNode there.2 then .different
  else if replaces && same && hasTwins && !isNamedSo then
    if t.isMove then .same else .different
  else if !isLinkNode here.2 && !isLinkNode there.2 && !same then .different
  else if !isLinkNode here.2 && !isLinkNode there.2 && t.namesAgain then .settled
  else if t.isMove && isLinkNode here.2 && hasTwins then
    match disk.find (s.path source) with
    | .ok (place, _) => if place = there.1 then .same else .different
    | .error _ => last ()
  else last ()

/-- What two names have to do with each other that lead to something. -/
def likeness (t : Transfer) (s : Setting) (disk : Disk) (source goal : List Char)
    (here there : Place × Node) : Likeness :=
  let same := disk.isSame here.1 there.1
  if same && t.namesAgain then .settled
  else if t.following = .never then
    if isLinkNode here.2 && isLinkNode there.2 then
      if sameName s disk source goal then .same
      else if t.backups.isSome || !same then .different
      else if t.isMove then .same
      else .settled
    else t.entryLikeness s disk source goal here there
  else if !same then .different
  else
    match disk.entry (s.path source), disk.entry (s.path goal) with
    | .ok a, .ok b =>
      if isLinkNode a.2 && isLinkNode b.2 && t.removesFirst then .different
      else t.entryLikeness s disk source goal a b
    | _, _ => .different

/-- What comes of bringing something to where something is. -/
inductive Meeting where
  /-- What is there is replaced. -/
  | replaced
  /-- It stays. -/
  | kept

/-- Decides whether something that is there is replaced: only what is older, nothing at all, or
what the answer to a question says. -/
def meet (t : Transfer) (s : Setting) (source : Place × Node) (target : Place) (goal : List Char)
    (p : Progress) : Progress × Meeting :=
  let isDirectory := source.2 = .directory
  let skipped := p.report t.remark.isSome ("skipped ".toList ++ fileMarks goal)
  if t.onlyOlder && !isDirectory &&
      p.disk.modifiedAt source.1 ≤ p.disk.modifiedAt target then (skipped, .kept)
  else if isDirectory && !t.isMove then (p, .replaced)
  else
    match t.replacing with
    | .always => (p, .replaced)
    | .skips => (skipped, .kept)
    | .refuses => (p.complain s ("not replacing ".toList ++ fileMarks goal), .kept)
    | .asks =>
      match p.ask s true ("overwrite ".toList ++ fileMarks goal) with
      | (p, true) => (p, .replaced)
      | (p, false) => ({ p with failed := true }, .kept)

/-- What forbids that something replaces what is at a goal. -/
def conflict? (t : Transfer) (p : Progress) (isNamed : Bool) (source goal : List Char)
    (node there : Node) (target : Place) : Option (List Char) :=
  let mayDiffer := t.isMove && t.backups.isSome
  let isFresh := isNamed && (t.backups.all fun b => b.style ≠ .numbered) &&
    p.fresh.contains target
  if there ≠ .directory && node = .directory && !mayDiffer then
    some ("cannot overwrite non-directory ".toList ++ fileMarks goal ++
      " with directory ".toList ++ fileMarks source)
  else if there ≠ .directory && isFresh then
    some ("will not overwrite just-created ".toList ++ fileMarks goal ++ " with ".toList ++
      fileMarks source)
  else if there = .directory && node ≠ .directory && !mayDiffer then
    some ("cannot overwrite directory ".toList ++ fileMarks goal ++ " with non-directory".toList)
  else none

/-- Keeps what is at a goal under another name, if that is asked for. -/
def backUp (t : Transfer) (s : Setting) (p : Progress) (source goal : List Char)
    (place : Place) (there : Node) : Except (List Char) (Option (Progress × List Char)) :=
  let base := lastNameOf source
  match t.backups with
  | none => .ok none
  | some b =>
    if base = ['.'] || base = ['.', '.'] || (there = .directory && !t.isMove) then .ok none
    else if b.endangers s p.disk place goal then
      .error ("backing up ".toList ++ fileMarks goal ++ " might destroy source;  ".toList ++
        fileMarks source ++ (if t.isMove then " not moved" else " not copied").toList)
    else .ok (some (b.keep s p goal))

end Transfer

/-- The goal of files: a directory that takes them, or the new name of the only one. -/
inductive Goal where
  | directory (name : List Char)
  | name (name : List Char)

/-- The files that operands name and their goal. What is wrong with a directory that an option names
is told in given words. -/
def goalOf (words : String) (s : Setting) (o : Options) : Except Effect (List (List Char) × Goal) := do
  let names := o.operands
  let reasonFor := fun name : List Char =>
    match s.found s.disk name with
    | .ok (_, .directory) => none
    | .ok _ => some OsError.notDirectory
    | .error reason => some reason
  if 1 < (o.values 't').length then
    .error (s.failing 1 "multiple target directories specified".toList)
  if names.length < (if o.has 't' then 1 else 2) then
    match names with
    | [] => .error (s.misused 1 "missing file operand".toList)
    | one :: _ =>
      .error (s.misused 1 ("missing destination file operand after ".toList ++ fileMarks one))
  if o.has 'T' then
    if o.has 't' then
      .error (s.failing 1
        "cannot combine --target-directory (-t) and --no-target-directory (-T)".toList)
    match names.drop 2 with
    | extra :: _ => .error (s.misused 1 ("extra operand ".toList ++ fileMarks extra))
    | [] => return (names.take 1, .name (names.getLastD []))
  match o.value? 't' with
  | some directory =>
    match reasonFor directory with
    | none => return (names, .directory directory)
    | some reason =>
      .error (s.progress.refuse s words directory reason).effect
  | none =>
    let last := names.getLastD []
    match reasonFor last, names.length with
    | none, _ => return (names.dropLast, .directory last)
    | some _, 2 => return (names.dropLast, .name last)
    | some reason, _ => .error (s.progress.refuse s "target" last reason).effect

def updateChoices : List (List String × (Bool × ReplaceRule)) :=
  [(["all"], (false, .always)), (["none"], (false, .skips)), (["older"], (true, .always))]

end BoardBind.Script
