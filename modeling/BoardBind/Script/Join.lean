import BoardBind.Script.Order

/-! # A program that joins the lines of two files

The lines of two files that have a field in common are put together. Both files are sorted by that
field; lines without a partner can be printed as well.
-/

namespace BoardBind.Script

/-- A field of a line in the output: the common one, or one of a file. -/
inductive JoinField where
  | common
  | of (isSecond : Bool) (index : Nat)

/-- How lines are joined. -/
structure JoinRule where
  /-- The common field of both files, counted from zero. -/
  first : Nat := 0
  second : Nat := 0
  /-- What stands between fields: blanks, a character, or nothing at all. -/
  sign : Option (Option Char) := none
  /-- What is printed for a field without text. -/
  filler : List Char := []
  fields : Option (List JoinField) := none
  ignoresCase : Bool := false
  showsPairs : Bool := true
  showsFirst : Bool := false
  showsSecond : Bool := false
  /-- Whether lines are always checked for their order, or never. -/
  checks : Option Bool := none
  ending : Char := '\n'

structure JoinLine where
  text : List Char
  fields : List (List Char)
  number : Nat

namespace JoinRule

def fieldsOf (rule : JoinRule) (line : List Char) : List (List Char) :=
  match rule.sign with
  | none =>
    let isBlank := fun c : Char => c = ' ' || c = '\t' || c = '\n'
    let inner := line.dropWhile isBlank
    let parts := (inner.splitOnP isBlank).filter (· ≠ [])
    if inner.getLast?.any isBlank then parts ++ [[]] else parts
  | some none => [line]
  | some (some c) => if line = [] then [] else line.splitOn c

def linesOf (rule : JoinRule) (text : List Char) : List JoinLine :=
  let lines := match (text.splitOn rule.ending).reverse with
    | [] :: lines => lines.reverse
    | lines => lines.reverse
  lines.zipIdx.map fun (line, n) => ⟨line, rule.fieldsOf line, n + 1⟩

def key (rule : JoinRule) (isSecond : Bool) (line : JoinLine) : List Char :=
  let text := line.fields.getD (if isSecond then rule.second else rule.first) []
  if rule.ignoresCase then text.map Char.toLower else text

def outputSign (rule : JoinRule) : Char :=
  match rule.sign with
  | some (some c) => c
  | some none => '\n'
  | none => ' '

def shown (rule : JoinRule) (line : Option JoinLine) (index : Nat) : List Char :=
  let text := (line.bind fun l => l.fields[index]?).getD []
  if text = [] then rule.filler else text

/-- Two lines put together; one of them may be missing. -/
def joined (rule : JoinRule) (a b : Option JoinLine) : List Char :=
  let common := if a.isSome then rule.shown a rule.first else rule.shown b rule.second
  let others := fun (line : Option JoinLine) (key : Nat) =>
    match line with
    | none => []
    | some l => (((List.range l.fields.length).filter (· ≠ key)).map (rule.shown line ·))
  let texts := match rule.fields with
    | none => common :: others a rule.first ++ others b rule.second
    | some fields => fields.map fun
      | .common => common
      | .of false n => rule.shown a n
      | .of true n => rule.shown b n
  [rule.outputSign].intercalate texts ++ [rule.ending]

end JoinRule

/-- Two files while they are joined. -/
structure JoinState where
  first : List JoinLine
  second : List JoinLine
  said : List Saying := []
  /-- Whether a line without a partner was found. -/
  hasLonely : Bool := false
  warned : Bool × Bool := (false, false)
  hasFailed : Bool := false

namespace JoinState

def print (st : JoinState) (rule : JoinRule) (a b : Option JoinLine) : JoinState :=
  { st with said := st.said ++ [{ text := rule.joined a b }] }

/-- Goes on to the next line of a file and checks that it does not belong before the last one. -/
def next (st : JoinState) (s : Setting) (rule : JoinRule) (names : List Char × List Char)
    (isSecond : Bool) : JoinState :=
  let lines := if isSecond then st.second else st.first
  let moved := if isSecond then { st with second := lines.tail }
    else { st with first := lines.tail }
  let isWarned := if isSecond then st.warned.2 else st.warned.1
  let isChecked := rule.checks.getD st.hasLonely
  match lines with
  | old :: new :: _ =>
    if isChecked && !isWarned &&
        compareTexts (rule.key isSecond old) (rule.key isSecond new) = .gt then
      let name := if isSecond then names.2 else names.1
      let complaint := s.complaint (name ++ ':' :: decimal new.number ++
        ": is not sorted: ".toList ++ new.text)
      { moved with
        said := moved.said ++ [complaint]
        warned := if isSecond then (st.warned.1, true) else (true, st.warned.2)
        hasFailed := st.hasFailed || rule.checks = some true }
    else moved
  | _ => moved

/-- Goes on as long as lines have a common field: those lines, and what comes after them. -/
def group (s : Setting) (rule : JoinRule) (names : List Char × List Char) (isSecond : Bool)
    (key : List Char) : Nat → JoinState → List JoinLine × JoinState
  | 0, st => ([], st)
  | fuel + 1, st =>
    match if isSecond then st.second else st.first with
    | line :: _ =>
      if rule.key isSecond line = key then
        let (lines, st) := group s rule names isSecond key fuel (st.next s rule names isSecond)
        (line :: lines, st)
      else ([], st)
    | [] => ([], st)

/-- Goes on to the end of a file whose lines have no partners. -/
def rest (s : Setting) (rule : JoinRule) (names : List Char × List Char) (isSecond : Bool) :
    Nat → JoinState → JoinState
  | 0, st => st
  | fuel + 1, st =>
    if st.hasFailed then st
    else
      match if isSecond then st.second else st.first with
      | [] => st
      | line :: _ =>
        let shows := if isSecond then rule.showsSecond else rule.showsFirst
        let st := if !shows then st
          else if isSecond then st.print rule none (some line)
          else st.print rule (some line) none
        rest s rule names isSecond fuel (st.next s rule names isSecond)

def run (s : Setting) (rule : JoinRule) (names : List Char × List Char) :
    Nat → JoinState → JoinState
  | 0, st => st
  | fuel + 1, st =>
    if st.hasFailed then st
    else
      match st.first, st.second with
      | a :: _, b :: _ =>
        match compareTexts (rule.key false a) (rule.key true b) with
        | .lt =>
          let st := if rule.showsFirst then st.print rule (some a) none else st
          run s rule names fuel { st.next s rule names false with hasLonely := true }
        | .gt =>
          let st := if rule.showsSecond then st.print rule none (some b) else st
          run s rule names fuel { st.next s rule names true with hasLonely := true }
        | .eq =>
          let key := rule.key false a
          let (as, st) := group s rule names false key (fuel + 1) st
          let (bs, st) := group s rule names true key (fuel + 1) st
          if st.hasFailed then st
          else
            let pairs := as.flatMap fun a => bs.map fun b => (a, b)
            let st := if !rule.showsPairs then st
              else pairs.foldl (fun st (a, b) => st.print rule (some a) (some b)) st
            run s rule names fuel st
      | [], [] => st
      | lines, [] => rest s rule names false lines.length st
      | [], lines => rest s rule names true lines.length st

end JoinState

def joinNumber? (text : List Char) : Except (List Char) Nat :=
  match natural? text with
  | some (n + 1) => .ok n
  | _ => .error ("invalid field number: ".toList ++ inMarks text)

def joinField? (text : List Char) : Except (List Char) JoinField :=
  match text with
  | ['0'] => .ok .common
  | '0' :: _ => .error ("invalid field specifier: ".toList ++ inMarks text)
  | c :: '.' :: number =>
    if c = '1' || c = '2' then (joinNumber? number).map (.of (c = '2'))
    else .error ("invalid file number in field spec: ".toList ++ inMarks text)
  | c :: _ =>
    if c = '1' || c = '2' then .error ("invalid field specifier: ".toList ++ inMarks text)
    else .error ("invalid file number in field spec: ".toList ++ inMarks text)
  | [] => .error ("invalid file number in field spec: ".toList ++ inMarks text)

def joinFields? (text : List Char) : Except (List Char) (List JoinField) :=
  ((text.splitOnP fun c => c = ' ' || c = '\t' || c = ',').filter (· ≠ [])).mapM joinField?

def joinFile? (text : List Char) : Except (List Char) Nat :=
  match natural? text with
  | some 1 => .ok 1
  | some 2 => .ok 2
  | _ => .error ("invalid field number: ".toList ++ inMarks text)

/-- The options of `join`. -/
def joinFlags : Flags where
  plain := "iz!?^"
  valued := "12aejotv"
  words := [("ignore-case", 'i'), ("zero-terminated", 'z'), ("check-order", '!'),
    ("nocheck-order", '?'), ("header", '^')]

def joinSign? : List Char → Except (List Char) (Option Char)
  | [] => .ok none
  | ['\\', '0'] => .ok (some '\x00')
  | [c] => .ok (some c)
  | text =>
    .error ("multi-character tab ".toList ++
      inMarks (text.flatMap fun c => if c = '\\' then [c, c] else [c]))

def joinRule? (o : Options) (lists : List (List Char)) : Except (List Char) JoinRule := do
  let number := fun flag : Char =>
    match (o.value? flag).or (o.value? 'j') with
    | some text => joinNumber? text
    | none => .ok 0
  let first ← number '1'
  let second ← number '2'
  let sign ← match o.value? 't' with
    | some text => (joinSign? text).map some
    | none => .ok none
  let alone ← (o.values 'a').mapM joinFile?
  let only ← (o.values 'v').mapM joinFile?
  let isAuto := o.value? 'o' = some "auto".toList
  let fields ← (o.values 'o' ++ lists).mapM fun text =>
    if text = "auto".toList then .ok [] else joinFields? text
  return {
    first, second, sign, filler := (o.value? 'e').getD []
    fields := if fields = [] || isAuto then none else some fields.flatten
    ignoresCase := o.has 'i', showsPairs := only = []
    showsFirst := (alone ++ only).contains 1, showsSecond := (alone ++ only).contains 2
    checks := (o.last? ['!', '?']).map (· = '!')
    ending := if o.has 'z' then '\x00' else '\n' }

/-- The fields of the output if they are those of the first lines. -/
def JoinRule.autoFields (rule : JoinRule) (a b : List JoinLine) : List JoinField :=
  let others := fun (lines : List JoinLine) (key : Nat) =>
    let count := (lines.head?.map (·.fields.length)).getD 0
    (List.range count).filter (· ≠ key)
  .common :: (others a rule.first).map (.of false) ++ (others b rule.second).map (.of true)

/-- Joins the lines of two files that have a field in common. -/
def join : Utility := withOptions joinFlags 1 fun s o =>
  let extra := if o.has 'o' then o.operands.length - 2 else 0
  let operands := o.operands.drop extra
  match joinRule? o (o.operands.take extra), operands with
  | .error complaint, _ => s.failing 1 complaint
  | .ok _, [] => s.misused 1 "missing operand".toList
  | .ok _, [one] => s.misused 1 ("missing operand after ".toList ++ inMarks one)
  | .ok _, _ :: _ :: more :: _ => s.misused 1 ("extra operand ".toList ++ inMarks more)
  | .ok rule, [x, y] =>
    if x = ['-'] && y = ['-'] then s.failing 1 "both files cannot be standard input".toList
    else
      match s.read x, s.read y with
      | .error .isDirectory, _ => s.failing 1 "read error: Is a directory".toList
      | .ok _, .error .isDirectory => s.failing 1 "read error: Is a directory".toList
      | .error reason, _ => s.failing 1 (x ++ ": ".toList ++ reason.reason.toList)
      | .ok _, .error reason => s.failing 1 (y ++ ": ".toList ++ reason.reason.toList)
      | .ok a, .ok b =>
        let first := rule.linesOf a
        let second := rule.linesOf b
        let rule := if o.value? 'o' = some "auto".toList then
            { rule with fields := some (rule.autoFields first second) }
          else rule
        let start : JoinState := { first, second }
        let headed := if !o.has '^' || (first.isEmpty && second.isEmpty) then start
          else
            { start.print rule first.head? second.head? with
              first := first.tail, second := second.tail }
        let after := headed.run s rule (x, y) (first.length + second.length + 1)
        let isDisordered := (after.warned.1 || after.warned.2) && !after.hasFailed
        let verdict := if isDisordered then
            [s.complaint "input is not in sorted order".toList]
          else []
        { said := after.said ++ verdict
          status := if isDisordered || after.hasFailed then 1 else 0
          left := if x = ['-'] || y = ['-'] then some [] else none }

end BoardBind.Script
