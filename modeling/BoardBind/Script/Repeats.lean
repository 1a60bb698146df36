import BoardBind.Script.Order

/-! # Lines that are repeated

Lines that stand in a row and are equal are printed once, or counted. Two files whose lines are in
order are compared by the lines that they share.
-/

namespace BoardBind.Script

/-- Lines with the number of times that each stands in a row. -/
def runsOf (same : List Char → List Char → Bool) (lines : List (List Char)) :
    List (List (List Char)) :=
  ((lines.foldl (fun runs line =>
    match runs with
    | (last :: run) :: rest =>
      if same last line then (line :: last :: run) :: rest else [line] :: runs
    | _ => [line] :: runs) []).map List.reverse).reverse

/-- The options of `uniq`. -/
def uniqFlags : Flags where
  plain := "cdiuz"
  valued := "fsw"
  optional := "DG"
  words := [("count", 'c'), ("repeated", 'd'), ("all-repeated", 'D'), ("group", 'G'),
    ("ignore-case", 'i'), ("unique", 'u'), ("skip-fields", 'f'), ("skip-chars", 's'),
    ("check-chars", 'w'), ("zero-terminated", 'z')]

/-- Where empty lines divide groups of lines. -/
inductive GroupGap where
  | none
  | before
  | between
  | behind
  | around
  deriving DecidableEq

/-- What `uniq` is asked for. -/
structure UniqRule where
  fields : Nat := 0
  chars : Nat := 0
  checked : Option Nat := none
  ignoresCase : Bool := false
  ending : Char := '\n'
  counts : Bool := false
  /-- Whether lines that stand alone, and those that do not, are shown. -/
  showsSingle : Bool := true
  showsRepeated : Bool := true
  /-- Whether all lines of a group are shown, and what divides groups then. -/
  whole : Option GroupGap := none

namespace UniqRule

def part (rule : UniqRule) (line : List Char) : List Char :=
  let part := (behindFields none rule.fields line).drop rule.chars
  let part := match rule.checked with
    | some n => part.take n
    | none => part
  if rule.ignoresCase then part.map Char.toLower else part

def shown (rule : UniqRule) (text : List Char) : List Char :=
  let runs := runsOf (fun a b => rule.part a = rule.part b) (plainPieces rule.ending text)
  let isWanted := fun run : List (List Char) =>
    if run.length = 1 then rule.showsSingle else rule.showsRepeated
  let wanted := runs.filter isWanted
  let gap := [rule.ending]
  let texts := wanted.map fun run =>
    match rule.whole with
    | some _ => joinPieces rule.ending run
    | none =>
      let count := if rule.counts then padded 7 run.length ++ [' '] else []
      count ++ run.headD [] ++ [rule.ending]
  match rule.whole with
  | some .before => texts.flatMap (gap ++ ·)
  | some .between => gap.intercalate texts
  | some .behind => texts.flatMap (· ++ gap)
  | some .around => if texts = [] then [] else gap ++ texts.flatMap (· ++ gap)
  | _ => texts.flatten

end UniqRule

/-- Reads a number that an option of `uniq` has. -/
def uniqNumber (o : Options) (flag : Char) (what : String) : Except (List Char) (Option Nat) :=
  match o.value? flag with
  | none => .ok none
  | some text =>
    match natural? text with
    | some n => .ok (some n)
    | none => .error (text ++ ": invalid number of ".toList ++ what.toList)

/-- The kind of gap that an option names; without a name it is the usual one. -/
def gapOf (option : String) (choices : List (List String × GroupGap)) (usual : GroupGap)
    (value : List Char) : Except (List Char) GroupGap :=
  if value = [] then .ok usual else choiceOf option choices value

/-- Reads what `uniq` is asked for. A complaint may be about how the program is used. -/
def uniqRule (o : Options) : Except (List Char × Bool) UniqRule := do
  let number := fun flag what => (uniqNumber o flag what).mapError (·, false)
  let fields ← number 'f' "fields to skip"
  let chars ← number 's' "bytes to skip"
  let checked ← number 'w' "bytes to compare"
  let repeated ← (o.value? 'D').mapM fun value =>
    (gapOf "all-repeated" [(["none"], .none), (["prepend"], .before), (["separate"], .between)]
      .none value).mapError (·, true)
  let group ← (o.value? 'G').mapM fun value =>
    (gapOf "group" [(["prepend"], .before), (["append"], .behind), (["separate"], .between),
      (["both"], .around)] .between value).mapError (·, true)
  if group.isSome && ['c', 'd', 'D', 'u'].any o.has then
    throw ("--group is mutually exclusive with -c/-d/-D/-u".toList, true)
  if repeated.isSome && o.has 'c' then
    throw ("printing all duplicated lines and repeat counts is meaningless".toList, true)
  return {
    fields := fields.getD 0, chars := chars.getD 0, checked
    ignoresCase := o.has 'i', ending := o.ending, counts := o.has 'c'
    showsSingle := !(o.has 'd' || repeated.isSome), showsRepeated := !o.has 'u'
    whole := repeated.or group }

/-- The arguments of `uniq` with its letters apart from each other, so that none takes what is
attached to it as a value that has none. -/
def uniqArguments (arguments : List (List Char)) : List (List Char) :=
  arguments.flatMap fun argument =>
    match argument with
    | '-' :: c :: more =>
      let plain := (c :: more).takeWhile (· ∈ ['c', 'd', 'D', 'i', 'u', 'z'])
      let rest := (c :: more).drop plain.length
      if plain = [] then [argument]
      else (plain.map fun c => ['-', c]) ++ if rest = [] then [] else ['-' :: rest]
    | argument => [argument]

/-- Prints one of several equal lines in a row. -/
def uniq : Utility := fun s arguments =>
  withOptions uniqFlags 1 (fun s o =>
    match uniqRule o, o.operands with
    | .error (complaint, isUse), _ =>
      if isUse then s.misused 1 complaint else s.failing 1 complaint
    | _, _ :: _ :: extra :: _ => s.misused 1 ("extra operand ".toList ++ inMarks extra)
    | .ok rule, operands =>
      let name := operands.headD ['-']
      match s.read name with
      | .error .isDirectory =>
        s.failing 1 ("error reading ".toList ++ inMarks name ++ ": Is a directory".toList)
      | .error reason => s.failing 1 (name ++ ": ".toList ++ reason.reason.toList)
      | .ok text =>
        let shown := rule.shown text
        let left := leftAfter (operands.take 1)
        match operands.drop 1 with
        | [] => { printing shown with left }
        | target :: _ =>
          if target = ['-'] then { printing shown with left }
          else
            match openedPlace s.disk (s.path target) with
            | .ok place =>
              { disk := some (writeAt s.making s.disk place false (toBytes shown)), left }
            | .error reason => s.failing 1 (target ++ ": ".toList ++ reason.reason.toList))
    s (uniqArguments arguments)

inductive OrderCheck where
  /-- As soon as a line has no partner. -/
  | usual
  | always
  | never
  deriving DecidableEq

/-- Two files that are compared line by line. -/
structure Comparing where
  /-- What has been said, the last first. -/
  said : List Saying := []
  hasUnpaired : Bool := false
  /-- The files about which there has been a complaint. -/
  blamed : List Nat := []
  counts : List Nat := [0, 0, 0]
  /-- Whether a complaint has ended everything. -/
  isOver : Bool := false

namespace Comparing

def showLine (c : Comparing) (view : Nat → List Char → List Saying) (column : Nat)
    (line : List Char) : Comparing :=
  { c with
    said := view column line ++ c.said
    hasUnpaired := c.hasUnpaired || column ≠ 3
    counts := c.counts.mapIdx fun n count => if n + 1 = column then count + 1 else count }

/-- Complains about two lines of a file that are not in order. -/
def check (c : Comparing) (s : Setting) (when : OrderCheck) (file : Nat) (a b : List Char) :
    Comparing :=
  let isChecked := when = .always || (when = .usual && c.hasUnpaired)
  if isChecked && !c.blamed.contains file && compareTexts a b = .gt && !c.isOver then
    let complaint := s.complaint
      ("file ".toList ++ decimal file ++ " is not in sorted order".toList)
    { c with said := complaint :: c.said, blamed := file :: c.blamed, isOver := when = .always }
  else c

/-- Goes on to the next line of a file. At the end of the file, the last two lines are checked
again. -/
def next (c : Comparing) (s : Setting) (when : OrderCheck) (file : Nat)
    (before : Option (List Char)) (line : List Char) (rest : List (List Char)) : Comparing :=
  match rest, before with
  | following :: _, _ => c.check s when file line following
  | [], some before => c.check s when file before line
  | [], none => c

/-- Compares the lines of two files that are left. The lines before them are known. -/
def run (s : Setting) (when : OrderCheck) (view : Nat → List Char → List Saying) :
    Nat → Option (List Char) → Option (List Char) → List (List Char) → List (List Char) →
    Comparing → Comparing
  | 0, _, _, _, _, c => c
  | fuel + 1, before, before', first, second, c =>
    if c.isOver then c
    else
      match first, second with
      | [], [] => c
      | x :: rest, [] =>
        let c := (c.showLine view 1 x).next s when 1 before x rest
        run s when view fuel (some x) before' rest [] c
      | [], y :: rest =>
        let c := (c.showLine view 2 y).next s when 2 before' y rest
        run s when view fuel before (some y) [] rest c
      | x :: restX, y :: restY =>
        match compareTexts x y with
        | .lt =>
          let c := (c.showLine view 1 x).next s when 1 before x restX
          run s when view fuel (some x) before' restX (y :: restY) c
        | .gt =>
          let c := (c.showLine view 2 y).next s when 2 before' y restY
          run s when view fuel before (some y) (x :: restX) restY c
        | .eq =>
          let c := ((c.showLine view 3 y).next s when 1 before x restX).next s when 2 before' y restY
          run s when view fuel (some x) (some y) restX restY c

end Comparing

/-- The options of `comm`. -/
def commFlags : Flags where
  plain := "123z+-t"
  valued := ">"
  words := [("check-order", '+'), ("nocheck-order", '-'), ("output-delimiter", '>'),
    ("total", 't'), ("zero-terminated", 'z')]

/-- What is said when two files are compared whose lines should be in order. -/
def commEffect (s : Setting) (o : Options) (a b : List Char) : Effect :=
  let when : OrderCheck := match o.last? ['+', '-'] with
    | some '+' => .always
    | some _ => .never
    | none => .usual
  let gap := match o.value? '>' with
    | some [] => ['\x00']
    | some text => text
    | none => ['\t']
  let before := fun column : Nat =>
    ((['1', '2'].take (column - 1)).filter fun flag => !o.has flag).flatMap fun _ => gap
  let view := fun (column : Nat) (line : List Char) =>
    if o.has (Char.ofNat ('0'.toNat + column)) then []
    else [({ text := before column ++ line ++ [o.ending] } : Saying)]
  let a := plainPieces o.ending a
  let b := plainPieces o.ending b
  let c := Comparing.run s when view (a.length + b.length + 1) none none a b {}
  let total : List Saying :=
    if o.has 't' && !c.isOver then
      [{ text := gap.intercalate (c.counts.map decimal) ++ gap ++ "total".toList ++ [o.ending] }]
    else []
  let verdict := if c.blamed = [] || c.isOver then []
    else [s.complaint "input is not in sorted order".toList]
  { said := c.said.reverse ++ total ++ verdict
    status := if c.blamed = [] then 0 else 1
    left := leftAfter o.operands }

/-- Compares two files whose lines are in order. -/
def comm : Utility := withOptions commFlags 1 fun s o =>
  match o.operands with
  | [first, second] =>
    match s.read first, s.read second with
    | .error reason, _ => s.failing 1 (first ++ ": ".toList ++ reason.reason.toList)
    | _, .error reason => s.failing 1 (second ++ ": ".toList ++ reason.reason.toList)
    | .ok a, .ok b => commEffect s o a b
  | [] => s.misused 1 "missing operand".toList
  | [one] => s.misused 1 ("missing operand after ".toList ++ inMarks one)
  | _ => s.misused 1 ("extra operand ".toList ++ inMarks ((o.operands.drop 2).headD []))

end BoardBind.Script
