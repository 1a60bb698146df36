import BoardBind.Script.Filter

/-! # What a system tells about itself

The programs of the system that tell what the system and its users are called, and that make an
order by chance. Where chance decides, things stay as they are.
-/

namespace BoardBind.Script

/-- A user of the system. -/
structure User where
  name : String
  number : Nat
  group : String
  groupNumber : Nat

namespace User

def root : User := ⟨"root", 0, "root", 0⟩

def all : List User :=
  [root, ⟨"daemon", 1, "daemon", 1⟩, ⟨"bin", 2, "bin", 2⟩, ⟨"sys", 3, "sys", 3⟩,
    ⟨"sync", 4, "nogroup", 65534⟩, ⟨"games", 5, "games", 60⟩, ⟨"man", 6, "man", 12⟩,
    ⟨"lp", 7, "lp", 7⟩, ⟨"mail", 8, "mail", 8⟩, ⟨"news", 9, "news", 9⟩, ⟨"uucp", 10, "uucp", 10⟩,
    ⟨"proxy", 13, "proxy", 13⟩, ⟨"www-data", 33, "www-data", 33⟩, ⟨"backup", 34, "backup", 34⟩,
    ⟨"list", 38, "list", 38⟩, ⟨"irc", 39, "irc", 39⟩, ⟨"nobody", 65534, "nogroup", 65534⟩]

def find? (text : List Char) : Option User :=
  match all.find? fun u => u.name.toList = text with
  | some u => some u
  | none => (natural? text).bind fun n => all.find? fun u => u.number = n

def shown (number : Nat) (name : String) : List Char :=
  decimal number ++ '(' :: name.toList ++ [')']

def line (u : User) : List Char :=
  "uid=".toList ++ shown u.number u.name ++ " gid=".toList ++ shown u.groupNumber u.group ++
    " groups=".toList ++ shown u.groupNumber u.group

end User

/-- The options of `id`. -/
def identityFlags : Flags where
  plain := "augGnrzZ"
  words := [("user", 'u'), ("group", 'g'), ("groups", 'G'), ("name", 'n'), ("real", 'r'),
    ("zero", 'z'), ("context", 'Z')]

/-- Prints the number or the name of users. -/
def identity : Utility := withOptions identityFlags 1 fun s o =>
  let chosen := ['u', 'g', 'G'].filter o.has
  if o.has 'Z' then
    s.failing 1 "--context (-Z) works only on an SELinux-enabled kernel".toList
  else if 1 < chosen.length then
    s.failing 1 "cannot print \"only\" of more than one choice".toList
  else if chosen = [] && (o.has 'n' || o.has 'r') then
    s.failing 1 "cannot print only names or real IDs in default format".toList
  else if chosen = [] && o.has 'z' then
    s.failing 1 "option --zero not permitted in default format".toList
  else
    let names := if o.operands = [] then ["root".toList] else o.operands
    let ending := if !o.has 'z' then ['\n']
      else if chosen = ['G'] && 1 < names.length then ['\x00', '\x00'] else ['\x00']
    let said := names.map fun name =>
      match User.find? name with
      | none => s.complaint (inMarks name ++ ": no such user".toList)
      | some u =>
        let text := match chosen, o.has 'n' with
          | [], _ => u.line
          | ['u'], true => u.name.toList
          | ['u'], false => decimal u.number
          | _, true => u.group.toList
          | _, false => decimal u.groupNumber
        { text := text ++ ending }
    { said, status := if said.any (·.isComplaint) then 1 else 0 }

/-- The effect of a program without operands, which complains about any. -/
def withoutOperands (f : Flags) (failure : Nat) (body : Setting → Options → Effect) : Utility :=
  withOptions f failure fun s o =>
    match o.operands with
    | [] => body s o
    | extra :: _ => s.misused failure ("extra operand ".toList ++ inMarks extra)

def whoami : Utility := withoutOperands {} 1 fun _ _ => printing "root\n".toList

def groups : Utility := withOptions {} 1 fun s o =>
  if o.operands = [] then printing "root\n".toList
  else
    let said := o.operands.map fun name =>
      match User.all.find? fun u => u.name.toList = name with
      | some u => { text := name ++ " : ".toList ++ u.group.toList ++ ['\n'] }
      | none => s.complaint (inMarks name ++ ": no such user".toList)
    { said, status := if said.any (·.isComplaint) then 1 else 0 }

def logname : Utility := withoutOperands {} 1 fun s _ => s.failing 1 "no login name".toList

/-- Tells the terminal that is read from, which is none. -/
def tty : Utility := withoutOperands
    { plain := "s", words := [("silent", 's'), ("quiet", 's')] } 2 fun _ o =>
  { printing (if o.has 's' then [] else "not a tty\n".toList) with status := 1 }

def arch : Utility := withoutOperands {} 1 fun _ _ => printing "x86_64\n".toList

def nproc : Utility := withoutOperands
    { plain := "a", valued := "!", words := [("all", 'a'), ("ignore", '!')] } 1 fun s o =>
  match (o.value? '!').map natural? with
  | some none => s.failing 1 ("invalid number: ".toList ++ inMarks ((o.value? '!').getD []))
  | ignored => printing (decimal (max 1 (4 - ignored.join.getD 0)) ++ ['\n'])

/-- Writes all that is held back to the disk, which is done already. -/
def sync : Utility := withOptions
    { plain := "df", words := [("data", 'd'), ("file-system", 'f')] } 1 fun s o =>
  let said := o.operands.filterMap fun name =>
    match s.disk.find (s.path name) with
    | .ok _ => none
    | .error reason =>
      some (s.complaint ("error opening ".toList ++ inMarks name ++ ": ".toList ++
        reason.reason.toList))
  { said, status := if said.isEmpty then 0 else 1 }

def systemNames : List (Char × String) :=
  [('s', "Linux"), ('n', "localhost"), ('r', "6.1.0"), ('v', "#1 SMP PREEMPT_DYNAMIC"),
    ('m', "x86_64"), ('p', "unknown"), ('i', "unknown"), ('o', "GNU/Linux")]

def uname : Utility := withoutOperands
    { plain := "asnrvmpio"
      words := [("all", 'a'), ("kernel-name", 's'), ("sysname", 's'), ("nodename", 'n'),
        ("kernel-release", 'r'), ("release", 'r'), ("kernel-version", 'v'), ("machine", 'm'),
        ("processor", 'p'), ("hardware-platform", 'i'), ("operating-system", 'o')] } 1 fun _ o =>
  let wanted := systemNames.filter fun (flag, text) =>
    o.has flag || o.has 'a' && text ≠ "unknown"
  let shown := if wanted.isEmpty then ["Linux"] else wanted.map (·.2)
  printing ((" ".intercalate shown).toList ++ ['\n'])

def pwd : Utility := withOptions
    { plain := "LP", words := [("logical", 'L'), ("physical", 'P')] } 1 fun s o =>
  let warning := if o.operands = [] then []
    else [s.complaint "ignoring non-option arguments".toList]
  let told := s.environment.lookup "PWD".toList
  let isSame := fun path : List Char =>
    path.head? = some '/' &&
      (s.disk.find (pathOf path)).toOption.map (·.1) =
        (s.disk.find (s.directory.join ⟨"."⟩)).toOption.map (·.1)
  let path := match told, o.last? ['L', 'P'] with
    | some path, some 'L' => if isSame path then path else directoryPath s.disk s.directory
    | _, _ => directoryPath s.disk s.directory
  { said := warning ++ [{ text := path ++ ['\n'] }] }

def rangeOf? (text : List Char) : Option (List (List Char)) :=
  let first := text.takeWhile (· ≠ '-')
  match natural? first, natural? (text.drop (first.length + 1)) with
  | some low, some high =>
    if low ≤ high + 1 then some ((List.range (high + 1 - low)).map fun k => decimal (low + k))
    else none
  | _, _ => none

/-- The options of `shuf`. -/
def shuffleFlags : Flags where
  plain := "erz"
  valued := "ino!"
  words := [("echo", 'e'), ("repeat", 'r'), ("zero-terminated", 'z'), ("input-range", 'i'),
    ("head-count", 'n'), ("output", 'o'), ("random-source", '!')]

/-- The lines that are put in an order by chance, or what is wrong; a hint follows if it is marked
so. -/
def shuffled (s : Setting) (o : Options) : Except (Bool × List Char) (List (List Char)) :=
  let extra := fun names : List (List Char) =>
    (true, "extra operand ".toList ++ inMarks (names.headD []))
  if o.has 'e' && o.has 'i' then .error (true, "cannot combine -e and -i options".toList)
  else if 1 < (o.values 'i').length then .error (false, "multiple -i options specified".toList)
  else
    match o.value? 'i', o.operands with
    | some range, names =>
      match rangeOf? range with
      | none => .error (false, "invalid input range: ".toList ++ inMarks range)
      | some list => if names = [] then .ok list else .error (extra names)
    | none, names =>
      if o.has 'e' then .ok names
      else if 1 < names.length then .error (extra names.tail)
      else
        match s.read (names.headD ['-']) with
        | .ok text => .ok (plainPieces o.ending text)
        | .error .isDirectory => .error (false, "read error: Is a directory".toList)
        | .error reason => .error (false, names.headD [] ++ ": ".toList ++ reason.reason.toList)

/-- Puts lines in an order by chance. -/
def shuf : Utility := withOptions shuffleFlags 1 fun s o =>
  let counts := (o.values 'n').map fun text => (text, natural? text)
  match counts.find? fun c => c.2.isNone, shuffled s o with
  | some (text, _), _ => s.failing 1 ("invalid line count: ".toList ++ inMarks text)
  | none, .error (true, complaint) => s.misused 1 complaint
  | none, .error (false, complaint) => s.failing 1 complaint
  | none, .ok lines =>
    let count := (counts.filterMap (·.2)).min?
    let left := if o.has 'e' || o.has 'i' then none else leftAfter o.operands
    if o.has 'r' then
      match lines, count with
      | [], some 0 => { left }
      | [], _ => { s.failing 1 "no lines to repeat".toList with left }
      | line :: _, some n => { printing ((List.replicate n (line ++ [o.ending])).flatten) with left }
      | line :: _, none => { unit := line ++ [o.ending], left }
    else
      let text := joinPieces o.ending (lines.take (count.getD lines.length))
      match o.value? 'o' with
      | none => { printing text with left }
      | some name =>
        match openedPlace s.disk (s.path name) with
        | .ok place =>
          { disk := some (writeAt s.making s.disk place false (toBytes text)), left }
        | .error reason => s.failing 1 (name ++ ": ".toList ++ reason.reason.toList)

end BoardBind.Script
