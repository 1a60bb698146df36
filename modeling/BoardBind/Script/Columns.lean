import BoardBind.Script.Filter
import BoardBind.Script.Regex.Reader

/-! # Programs on parts of lines

The programs of the system that take lines apart, put them together side by side, and replace their
characters.
-/

namespace BoardBind.Script

/-- A range of positions, counted from one; without an end it goes on for ever. -/
structure PositionRange where
  first : Nat
  last : Option Nat

/-- Why a list of positions cannot be read. -/
inductive PositionError where
  /-- A position is zero or missing. -/
  | zero
  /-- A range has neither a start nor an end. -/
  | endless
  | decreasing
  /-- A range has more than two ends. -/
  | tooManyEnds
  /-- No number stands at the start of the text. -/
  | notNumber (text : List Char)

/-- The text of an error in positions, which are those of fields or of characters. -/
def PositionError.message (isFields : Bool) : PositionError → List Char
  | .zero =>
    ((if isFields then "fields" else "byte/character positions") ++ " are numbered from 1").toList
  | .endless => "invalid range with no endpoint: -".toList
  | .decreasing => "invalid decreasing range".toList
  | .tooManyEnds =>
    ("invalid " ++ (if isFields then "field" else "byte or character") ++ " range").toList
  | .notNumber text =>
    ("invalid " ++ (if isFields then "field value " else "byte/character position ")).toList ++
      inMarks text

/-- Reads a position or a range; what follows it in its list is handed in for complaints. -/
def positionRange? (following text : List Char) : Except PositionError PositionRange :=
  let bad := text.dropWhile fun c => c.isDigit || c = '-'
  if 1 < (text.take (text.length - bad.length)).count '-' then .error .tooManyEnds
  else if bad ≠ [] then .error (.notNumber (bad ++ following))
  else
    match text.splitOn '-' with
    | [[], []] => .error .endless
    | [low, high] =>
      let first := if low = [] then 1 else Arithmetic.ofDigits 10 low
      let last := Arithmetic.ofDigits 10 high
      if first = 0 then .error .zero
      else if high = [] then .ok ⟨first, none⟩
      else if last < first then .error .decreasing
      else .ok ⟨first, some last⟩
    | _ =>
      let n := Arithmetic.ofDigits 10 text
      if n = 0 then .error .zero else .ok ⟨n, some n⟩

/-- Reads a list of positions and ranges, which is already cut into pieces. -/
def positionRanges? : List (List Char) → List Char → Except PositionError (List PositionRange)
  | [], _ => .ok []
  | piece :: more, list => do
    let range ← positionRange? (list.drop piece.length) piece
    .ok (range :: (← positionRanges? more (list.drop (piece.length + 1))))

/-- Ranges in order, where those that overlap have become one. -/
def mergedRanges (ranges : List PositionRange) : List PositionRange :=
  let sorted := ranges.mergeSort fun a b => a.first ≤ b.first
  (sorted.foldl (fun (done : List PositionRange) r =>
    match done with
    | last :: rest =>
      match last.last, r.last with
      | none, _ => done
      | some e, other =>
        if r.first ≤ e then
          { last with last := other.map (max e ·) } :: rest
        else r :: done
    | [] => [r]) []).reverse

/-- The ranges of positions that are in none of several ranges, which are in order. The first
position that is left is given. -/
def rangeGaps : Nat → List PositionRange → List PositionRange
  | next, [] => [⟨next, none⟩]
  | next, r :: rest =>
    let gap := if next < r.first then [⟨next, some (r.first - 1)⟩] else []
    match r.last with
    | none => gap
    | some e => gap ++ rangeGaps (e + 1) rest

/-- The items of a list in each of several ranges, as far as there are some. -/
def selectedRuns {α : Type} (ranges : List PositionRange) (items : List α) : List (List α) :=
  (ranges.map fun r =>
    let from' := items.drop (r.first - 1)
    match r.last with
    | some e => from'.take (e + 1 - r.first)
    | none => from').filter fun run => !run.isEmpty

/-- The options of `cut`. -/
def cutFlags : Flags where
  plain := "snz~"
  valued := "bcdf>"
  words := [("bytes", 'b'), ("characters", 'c'), ("delimiter", 'd'), ("fields", 'f'),
    ("only-delimited", 's'), ("complement", '~'), ("output-delimiter", '>'),
    ("zero-terminated", 'z')]

/-- What `cut` prints of a line, if it prints it at all. -/
def cutLine (o : Options) (ranges : List PositionRange) (line : List Char) : Option (List Char) :=
  let between := o.value? '>'
  if o.has 'f' then
    let sign := ((o.value? 'd').getD ['\t']).headD '\x00'
    if line.contains sign then
      let runs := selectedRuns ranges (line.splitOn sign)
      some ((between.getD [sign]).intercalate runs.flatten)
    else if o.has 's' then none
    else some line
  else some ((between.getD []).intercalate (selectedRuns ranges line))

def cut : Utility := withOptions cutFlags 1 fun s o =>
  let lists := (o.flags.filter fun f => f.1 ∈ ['b', 'c', 'f']).map (·.2)
  let isFields := o.has 'f'
  match lists with
  | [] => s.misused 1 "you must specify a list of bytes, characters, or fields".toList
  | [list] =>
    if 1 < ((o.value? 'd').getD []).length then
      s.misused 1 "the delimiter must be a single character".toList
    else if o.has 'd' && !isFields then
      s.misused 1 "an input delimiter may be specified only when operating on fields".toList
    else if o.has 's' && !isFields then
      s.misused 1
        "suppressing non-delimited lines makes sense\n\tonly when operating on fields".toList
    else
      let pieces := list.splitOnP fun c => c = ',' || c = ' ' || c = '\t'
      match positionRanges? pieces list with
      | .error reason => s.misused 1 (reason.message isFields)
      | .ok ranges =>
        let merged := mergedRanges ranges
        let wanted := if o.has '~' then rangeGaps 1 merged else merged
        printEach s o.operands 1 fun text =>
          joinPieces o.ending ((plainPieces o.ending text).filterMap (cutLine o wanted))
  | _ => s.misused 1 "only one list may be specified".toList

/-- The separators of `paste`, with their escapes replaced. -/
def pasteSigns : List Char → List (List Char)
  | '\\' :: c :: rest =>
    (match c with
      | 'n' => ['\n']
      | 't' => ['\t']
      | '0' => []
      | '\\' => ['\\']
      | c => [c]) :: pasteSigns rest
  | c :: rest => [c] :: pasteSigns rest
  | [] => []

/-- Texts with separators between them, which are used in turn. -/
def joinInTurn (signs : List (List Char)) : List (List Char) → Nat → List Char
  | [], _ => []
  | [text], _ => text
  | text :: rest, n =>
    text ++ (signs[n % max 1 signs.length]?).getD [] ++ joinInTurn signs rest (n + 1)

/-- The lines of files side by side, as long as one of them has lines left. -/
def pasteRows : Nat → List (List (List Char)) → List (List (List Char))
  | 0, _ => []
  | fuel + 1, files =>
    if files.all List.isEmpty then []
    else (files.map fun lines => lines.headD []) :: pasteRows fuel (files.map List.tail)

/-- The lines of files, where those that are read from the input share its lines in turn. -/
def pasteColumns (s : Setting) (ending : Char) (names : List (List Char)) :
    List (Except (List Char × OsError) (List (List Char))) :=
  let shares := (names.filter (· = ['-'])).length
  let input := plainPieces ending s.input.text
  let rounds := (input.length + shares - 1) / max 1 shares
  let share := fun k : Nat =>
    (List.range rounds).map fun r => (input[r * shares + k]?).getD []
  (names.foldl (fun (state : List (Except (List Char × OsError) (List (List Char))) × Nat) name =>
    if name = ['-'] then (.ok (share state.2) :: state.1, state.2 + 1)
    else
      (match s.read name with
        | .ok text => .ok (plainPieces ending text)
        | .error reason => .error (name, reason), state.2) |> fun (column, n) =>
          (column :: state.1, n)) ([], 0)).1.reverse

/-- The options of `paste`. -/
def pasteFlags : Flags where
  plain := "sz"
  valued := "d"
  words := [("delimiters", 'd'), ("serial", 's'), ("zero-terminated", 'z')]

/-- Prints the lines of files side by side. -/
def paste : Utility := withOptions pasteFlags 1 fun s o =>
  let names := orInput o.operands
  let list := (o.value? 'd').getD ['\t']
  let signs := pasteSigns list
  let columns := pasteColumns s o.ending names
  let refused := columns.filterMap fun
    | .error (name, reason) => some (s.fileComplaint name reason)
    | .ok _ => none
  let files := columns.filterMap Except.toOption
  if (list.reverse.takeWhile (· = '\\')).length % 2 = 1 then
    s.failing 1 ("delimiter list ends with an unescaped backslash: ".toList ++ list)
  else if o.has 's' then
    let rows := if (names.filter (· = ['-'])).length = 1 || !names.contains ['-'] then files
      else [plainPieces o.ending s.input.text]
    let text := joinPieces o.ending (rows.map fun lines => joinInTurn signs lines 0)
    { said := refused ++ [{ text }]
      status := if refused.isEmpty then 0 else 1, left := leftAfter names }
  else if !refused.isEmpty then { said := refused.take 1, status := 1 }
  else
    let longest := files.foldl (fun n lines => max n lines.length) 0
    let rows := (pasteRows longest files).map fun row => joinInTurn signs row 0
    { printing (joinPieces o.ending rows) with left := leftAfter names }

/-- A member of a set of characters that are replaced. -/
inductive SetPart where
  | chars (cs : List Char)
  | named (name : List Char)
  /-- A character that fills the set up, or is repeated. -/
  | fill (c : Char) (count : Nat)

/-- A character of a set, perhaps escaped, and what follows it. -/
def setCharacter : List Char → Option (Char × List Char)
  | [] => none
  | '\\' :: rest =>
    match rest with
    | [] => some ('\\', [])
    | c :: after =>
      let (plain, rest') := readEscape .shell rest
      if c = 'e' || plain = '\\' && rest' = rest then some (c, after) else some (plain, rest')
  | c :: rest => some (c, rest)

/-- Reads the parts of a set: escapes, classes, ranges and repetitions. -/
def setParts : Nat → List Char → Except (List Char) (List SetPart)
  | 0, _ => .ok []
  | _, [] => .ok []
  | fuel + 1, text =>
    let single : Except (List Char) (List SetPart) :=
      match setCharacter text with
      | none => .ok []
      | some (low, '-' :: rest) =>
        match setCharacter rest with
        | none => (setParts fuel ['-']).map fun more => .chars [low] :: more
        | some (high, after) =>
          if high < low then
            .error ("range-endpoints of '".toList ++ [low, '-', high] ++
              "' are in reverse collating sequence order".toList)
          else
            (setParts fuel after).map fun more =>
              .chars (((List.range (high.toNat + 1)).drop low.toNat).map Char.ofNat) :: more
      | some (c, rest) => (setParts fuel rest).map fun more => .chars [c] :: more
    match text with
    | '[' :: ':' :: rest =>
      let name := rest.takeWhile (· ≠ ':')
      match rest.drop name.length with
      | ':' :: ']' :: after =>
        if String.ofList name ∈ Regex.classNames then
          (setParts fuel after).map fun more => .named name :: more
        else .error ("invalid character class ".toList ++ inMarks name)
      | _ => single
    | '[' :: '=' :: c :: '=' :: ']' :: rest =>
      (setParts fuel rest).map fun more => .chars [c] :: more
    | '[' :: rest =>
      match setCharacter rest with
      | some (c, '*' :: after) =>
        let digits := after.takeWhile Char.isDigit
        match after.drop digits.length with
        | ']' :: after =>
          let base := if digits.head? = some '0' then 8 else 10
          (setParts fuel after).map fun more =>
            .fill c (Arithmetic.ofDigits base digits) :: more
        | _ => single
      | _ => single
    | _ => single

def SetPart.members (missing : Nat) : SetPart → List Char
  | .chars cs => cs
  | .named name => ((List.range 256).map Char.ofNat).filter (inClass name)
  | .fill c count => List.replicate (if count = 0 then missing else count) c

def setMembers (size : Nat) (parts : List SetPart) : List Char :=
  let plain := parts.flatMap (SetPart.members 0)
  parts.flatMap (SetPart.members (size - plain.length))

/-- The characters of two sets that belong together. Where both sets have a class of capital or
small letters, its characters belong together. -/
def setPairs (first second : List SetPart) : List (Char × Char) :=
  let a := setMembers 0 first
  let b := setMembers a.length second
  let b := if b.length < a.length then
      b ++ List.replicate (a.length - b.length) (b.getLastD ' ')
    else b
  a.zip b

def squeezed (inSet : Char → Bool) (text : List Char) : List Char :=
  (text.foldl (fun (done : List Char) c =>
    if inSet c && done.head? = some c then done else c :: done) []).reverse

def setTable (members : List Char) : Array Bool :=
  members.foldl (fun table c => table.setIfInBounds c.toNat true) (Array.replicate 256 false)

/-- The options of `tr`. -/
def trFlags : Flags where
  plain := "cCdst"
  words := [("complement", 'c'), ("delete", 'd'), ("squeeze-repeats", 's'),
    ("truncate-set1", 't')]
  isOrdered := true

/-- What `tr` does to a text. -/
structure Replacing where
  /-- The character that each one is replaced by; none is dropped. -/
  table : Array (Option Char)
  squeezes : Array Bool

def Replacing.apply (r : Replacing) (text : List Char) : List Char :=
  squeezed (fun c => r.squeezes.getD c.toNat false)
    (text.filterMap fun c => r.table.getD c.toNat (some c))

/-- Reads what `tr` is to do. -/
def replacing? (o : Options) : Except (List Char) Replacing := do
  let isComplement := o.has 'c' || o.has 'C'
  let sets ← o.operands.mapM fun set => setParts (set.length + 1) set
  let same := (Array.range 256).map fun n => some (Char.ofNat n)
  let inFirst : List SetPart → Array Bool := fun set =>
    (setTable (setMembers 0 set)).map fun isMember => isMember ≠ isComplement
  let none := Array.replicate 256 false
  match sets, o.has 'd', o.has 's' with
  | [], _, _ => .error "missing operand".toList
  | [a], true, false =>
    let first := inFirst a
    return ⟨same.mapIdx fun n c => if first.getD n false then .none else c, none⟩
  | [a], false, true => return ⟨same, inFirst a⟩
  | [_], true, true =>
    .error ("missing operand after ".toList ++ inMarks (o.operands.headD []) ++
      "\nTwo strings must be given when both deleting and squeezing repeats.".toList)
  | [_], false, false =>
    .error ("missing operand after ".toList ++ inMarks (o.operands.headD []) ++
      "\nTwo strings must be given when translating.".toList)
  | [a, b], true, true =>
    let first := inFirst a
    return ⟨same.mapIdx fun n c => if first.getD n false then .none else c,
      setTable (setMembers 0 b)⟩
  | [_, _], true, false =>
    .error ("extra operand ".toList ++ inMarks (o.operands.getLastD []) ++
      "\nOnly one string may be given when deleting without squeezing repeats.".toList)
  | [a, b], false, squeezes =>
    let a' := if isComplement then
        [SetPart.chars (((List.range 256).map Char.ofNat).filter fun c =>
          (inFirst a).getD c.toNat false)]
      else a
    let a' := if o.has 't' then [SetPart.chars ((setMembers 0 a').take (setMembers 0 b).length)]
      else a'
    if (setMembers (setMembers 0 a').length b).isEmpty && !(setMembers 0 a').isEmpty then
      .error "when not truncating set1, string2 must be non-empty".toList
    else
      let table := (setPairs a' b).foldl
        (fun table (c, d) => table.setIfInBounds c.toNat (some d)) same
      return ⟨table, if squeezes then setTable (setMembers (setMembers 0 a').length b) else none⟩
  | _, _, _ => .error ("extra operand ".toList ++ inMarks ((o.operands.drop 2).headD []))

/-- Replaces, drops or squeezes characters. -/
def tr : Utility := withOptions trFlags 1 fun s o =>
  match replacing? o with
  | .error complaint =>
    if complaint.head? = some 'r' || complaint.head? = some 'w' || complaint.head? = some 'i' then
      s.failing 1 complaint
    else s.misused 1 complaint
  | .ok r =>
    { printing (r.apply s.input.text) with
      unit := r.apply s.input.unit
      left := some []
      microseconds :=
        if s.input.isEndless && (r.apply s.input.unit).isEmpty then endlessTime else 0 }

end BoardBind.Script
