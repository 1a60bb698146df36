import BoardBind.Script.Edit.Run

/-! # Editing files by a script

The program of the system that edits the lines of files as a script of commands says, and prints
them or puts them back into the files.
-/

namespace BoardBind.Script

namespace Edit

def flags : Flags where
  plain := "nErsuz"
  valued := "efl"
  optional := "i"
  words :=
    [("quiet", 'n'), ("silent", 'n'), ("expression", 'e'), ("file", 'f'),
      ("regexp-extended", 'E'), ("in-place", 'i'), ("separate", 's'), ("unbuffered", 'u'),
      ("null-data", 'z'), ("zero-terminated", 'z'), ("line-length", 'l'), ("posix", 's')]

/-- The script that the options or the first operand make, and the names of the files. -/
def scriptOf (s : Setting) (o : Options) :
    Except OsError (Option (List Char) × List (List Char)) :=
  if o.has 'e' || o.has 'f' then do
    let pieces ← o.flags.mapM fun (flag, value) =>
      if flag = 'e' then Except.ok [value]
      else if flag = 'f' then
        (s.read value).map fun text =>
          [if text.getLast? = some '\n' then text.dropLast else text]
      else .ok []
    return (some (['\n'].intercalate pieces.flatten), o.operands)
  else
    match o.operands with
    | script :: names => .ok (some script, names)
    | [] => .ok (none, [])

def linesOf (lineEnd : Char) (file text : List Char) : List Line :=
  match (text.splitOn lineEnd).reverse with
  | [] => []
  | final :: lines =>
    (lines.reverse.map fun line => ⟨line, true, file⟩) ++
      (if final = [] then [] else [⟨final, false, file⟩])

/-- How much of an input that never ends is looked at. -/
def endlessSize : Nat := 65536

/-- A file with its text, or why it cannot be read. An input that never ends is cut. -/
def texts (s : Setting) (names : List (List Char)) :
    List (List Char × Except OsError (List Char)) :=
  (orInput names).map fun name =>
    (name, (s.open name).map fun stream => (stream.written endlessSize).text)

/-- Whether a file is read that never ends. -/
def isEndless (s : Setting) (names : List (List Char)) : Bool :=
  (orInput names).any fun name =>
    match s.open name with
    | .ok stream => stream.isEndless
    | .error _ => false

/-- The disk with all files emptied that commands write to. -/
def prepared (s : Setting) (commands : List Command) : Disk :=
  (commands.filterMap fun c => c.action.target?).foldl (fun disk name =>
    match openedPlace disk (s.path name) with
    | .ok place => writeAt s.making disk place false []
    | .error _ => disk) s.disk

/-- A complaint about a file that cannot be read. -/
def unread (s : Setting) (name : List Char) (reason : OsError) : Saying :=
  let text := if reason = .isDirectory then "read error on " else "can't read "
  s.complaint (text.toList ++ name ++ ": ".toList ++ reason.reason.toList)

/-- Edits the lines of all files as one text, or those of each file on their own. -/
def editAll (script : Program) (isApart : Bool) (start : Session)
    (files : List (List Char × List Char)) : Session :=
  if isApart then
    files.foldl (fun e (name, text) =>
      if e.status.isSome || e.isStuck then e
      else
        edit script { start with
          setting := e.setting, printed := e.printed, lacksEnd := e.lacksEnd
          unread := linesOf script.lineEnd name text }) start
  else
    edit script { start with
      unread := files.flatMap fun (name, text) => linesOf script.lineEnd name text }

/-- Edits files in their places. A copy of each is kept under its name with an ending, if there is
one. -/
def editInPlace (script : Program) (ending : List Char) (start : Session)
    (files : List (List Char × List Char)) : Session :=
  files.foldl (fun e (name, text) =>
    if e.status.isSome || e.isStuck then e
    else
      let after := edit script { start with
        setting := e.setting, unread := linesOf script.lineEnd name text }
      let unreadText := after.unread.flatMap fun line =>
        line.text ++ if line.hasEnd then [script.lineEnd] else []
      let result := after.printed.reverse.flatten ++ unreadText
      let mode := match after.setting.disk.find (after.setting.path name) with
        | .ok (place, _) => after.setting.disk.modeAt place
        | .error _ => 0o644
      let put := fun (disk : Disk) (name text : List Char) =>
        match entryPlace disk (after.setting.path name) with
        | .ok place => disk.made { after.setting.making with mask := 0 } place
            (.file (toBytes text) false) mode
        | .error _ => disk
      let disk := if ending = [] then after.setting.disk
        else
          let copy := if ending.contains '*' then
              ending.flatMap fun c => if c = '*' then name else [c]
            else name ++ ending
          put after.setting.disk copy text
      { after with setting := { after.setting with disk := put disk name result }, printed := [] })
    start

end Edit

/-- The number of characters that the line editor reads at once. -/
def editBlock : Nat := 4096

/-- What is left of the input after an edit that has quit before its end. -/
def Edit.leftOf (s : Setting) (names : List (List Char)) (after : Edit.Session) :
    Option (List Char) :=
  if orInput names = [['-']] && after.status.isSome then
    let unread := after.unread.foldl (fun n line => n + line.text.length + 1) 0
    some (s.leftBehind editBlock ((s.input.written Edit.endlessSize).text.length - unread))
  else leftAfter names

/-- Edits lines as a script says. -/
def sed : Utility := fun s arguments =>
  match Options.readFrom Edit.flags none arguments with
  | .error complaint => { said := [s.complaint complaint], status := 1 }
  | .ok o =>
    match Edit.scriptOf s o with
    | .error reason =>
      s.failing 1 ("couldn't open file ".toList ++ (o.value? 'f').getD [] ++ ": ".toList ++
        reason.reason.toList)
    | .ok (none, _) => { status := 1 }
    | .ok (some text, names) =>
      let writing : Regex.Writing := { isExtended := o.has 'E' || o.has 'r' }
      match Edit.commandsOf { writing } text with
      | .error .malformed => s.failing 1 "-e expression #1, char 0: unknown command".toList
      | .error (.missingLabel name) =>
        s.failing 4 ("can't find label for jump to \x60".toList ++ name ++ ['\''])
      | .ok commands =>
        let isMarked := text = ['#', 'n'] || "#n\n".toList.isPrefixOf text
        let script : Edit.Program := {
          commands := commands.toArray, isQuiet := o.has 'n' || isMarked
          width := ((o.value? 'l').bind natural?).getD 70
          lineEnd := if o.has 'z' then '\x00' else '\n' }
        let texts := Edit.texts s names
        let refused := texts.filterMap fun (name, text) =>
          match text with
          | .error reason => some (name, reason)
          | .ok _ => none
        let files := texts.filterMap fun (name, text) => text.toOption.map fun t => (name, t)
        let start : Edit.Session := {
          setting := { s with disk := Edit.prepared s commands }, unread := [], ranges := #[] }
        let after := match o.value? 'i' with
          | some ending => Edit.editInPlace script ending start files
          | none => Edit.editAll script (o.has 's') start files
        let isDirectory := refused.any fun (_, reason) => reason = .isDirectory
        let goesOn := Edit.isEndless s names && after.status.isNone
        { said := refused.map (fun (name, reason) => Edit.unread s name reason) ++
            [{ text := after.printed.reverse.flatten }]
          unit := if goesOn then after.printed.headD [] else []
          status := after.status.getD (if isDirectory then 4 else if refused = [] then 0 else 2)
          disk := some after.setting.disk
          left := Edit.leftOf s names after
          microseconds :=
            if after.isStuck || (goesOn && after.printed = []) then endlessTime else 0 }

end BoardBind.Script
