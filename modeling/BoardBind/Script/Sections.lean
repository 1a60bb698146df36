import BoardBind.Script.FileTool
import BoardBind.Script.Filter
import BoardBind.Script.Regex.Reader

/-! # Files cut into sections

A text is cut where a line has a number or matches an expression. Each section becomes a file of
its own, or is left out.
-/

namespace BoardBind.Script

/-- Where a section ends. -/
inductive SectionEnd where
  /-- Before the line of a number, or of its multiples. -/
  | line (number : Nat)
  /-- Some lines behind a line that matches. -/
  | fitting (r : Regex) (offset : Int) (isDropped : Bool)

/-- Where sections end, and how often. -/
structure SectionMark where
  ending : SectionEnd
  /-- How it is written. -/
  shown : List Char
  /-- How often it is used again; there is no number if that is as often as it fits. -/
  again : Option Nat := some 0

/-- What has come of cutting a text. -/
structure Sections where
  /-- The lines that are left. -/
  rest : List (List Char)
  /-- The number of the first of them. -/
  first : Nat := 1
  /-- The number of the last line that was looked at. -/
  current : Nat := 0
  /-- The lines of the section that is being written, the last one first. -/
  writing? : Option (List (List Char)) := none
  /-- The sections that are finished, the last one first. -/
  done : List (List Char) := []
  /-- Whether the lines that match are left out. -/
  dropsMatched : Bool := false

namespace Sections

def start (t : Sections) : Sections := { t with writing? := some [] }

/-- Ends the section that is being written, if there is one. -/
def close (t : Sections) : Sections :=
  match t.writing? with
  | some lines => { t with done := lines.reverse.flatten :: t.done, writing? := none }
  | none => t

def take? (t : Sections) : Option (List Char × Sections) :=
  match t.rest with
  | line :: rest =>
    some (line, { t with rest, first := t.first + 1, current := max t.current t.first })
  | [] => none

def dropLine (t : Sections) : Sections :=
  match t.take? with
  | some (_, t) => t
  | none => t

def write (t : Sections) (line : List Char) : Sections :=
  { t with writing? := t.writing?.map (line :: ·) }

def writeRest (t : Sections) : Sections :=
  t.rest.foldl write { t with rest := [], first := t.first + t.rest.length }

/-- Writes a number of lines; the state is handed back too if there are not as many. -/
def writeLines : Nat → Sections → Sections × Bool
  | 0, t => (t, true)
  | n + 1, t =>
    match t.take? with
    | some (line, t) => writeLines n (t.write line)
    | none => (t, false)

/-- Looks for the next line that matches. Lines before it are written at once, unless they may
belong to the next section. -/
def seek (r : Regex) (keeps : Bool) : Nat → Sections → Sections × Bool
  | 0, t => (t, false)
  | fuel + 1, t =>
    let t := { t with current := t.current + 1 }
    let line? := if t.current < t.first then none else t.rest[t.current - t.first]?
    match line? with
    | none => (t, false)
    | some line =>
      let text := if line.getLast? = some '\n' then line.dropLast else line
      if r.isIn {} text then (t, true)
      else if keeps then seek r keeps fuel t
      else
        match t.take? with
        | some (line, t) => seek r keeps fuel (t.write line)
        | none => (t, false)

end Sections

/-- How cutting goes on after a section. -/
inductive SectionResult where
  | goesOn
  /-- All is done. -/
  | finished
  | failed (complaint : List Char)

def SectionMark.complaint (m : SectionMark) (what : String) (round : Nat) : List Char :=
  inMarks m.shown ++ what.toList ++
    if round = 0 then [] else " on repetition ".toList ++ decimal round

/-- Cuts a section off at a mark that is used for the given time. -/
def SectionMark.cut (m : SectionMark) (round : Nat) (t : Sections) : Sections × SectionResult :=
  let outOfRange := SectionResult.failed (m.complaint ": line number out of range" round)
  match m.ending with
  | .line number =>
    let t := t.start
    if t.rest.isEmpty && t.dropsMatched then (t, outOfRange)
    else
      match t.writeLines (number * (round + 1) - t.first) with
      | (t, false) => (t, outOfRange)
      | (t, true) =>
        let t := t.close
        if t.dropsMatched then (t.dropLine, .goesOn)
        else if t.rest.isEmpty then (t, outOfRange)
        else (t, .goesOn)
  | .fitting r offset isDropped =>
    let t := if isDropped then t else t.start
    match t.seek r (offset < 0) (t.rest.length + 1) with
    | (t, false) =>
      let t := if isDropped then t else t.writeRest.close
      (t, if m.again.isNone then .finished
        else .failed (m.complaint ": match not found" round))
    | (t, true) =>
      let last := (t.current : Int) + offset
      let wrong := SectionResult.failed (inMarks m.shown ++ ": line number out of range".toList)
      if last < t.first then (t, wrong)
      else
        match t.writeLines (last.toNat - t.first) with
        | (t, false) => (t, wrong)
        | (t, true) =>
          let t := t.close
          let t := if 0 < offset then { t with current := last.toNat } else t
          (if t.dropsMatched then t.dropLine else t, .goesOn)

/-- Cuts sections off at a mark as often as it is used. -/
def SectionMark.cutAll (m : SectionMark) : Nat → Nat → Sections → Sections × SectionResult
  | 0, _, t => (t, .goesOn)
  | fuel + 1, round, t =>
    if m.again.any (· < round) then (t, .goesOn)
    else
      match m.cut round t with
      | (t, .goesOn) => m.cutAll fuel (round + 1) t
      | result => result

def cutSections : List SectionMark → Sections → Sections × Option (List Char)
  | [], t => (t.start.writeRest.close, none)
  | m :: rest, t =>
    match m.cutAll ((m.again.getD (t.rest.length + 1)) + 1) 0 t with
    | (t, .goesOn) => cutSections rest t
    | (t, .finished) => (t, none)
    | (t, .failed complaint) => (t.close, some complaint)

/-- How often a mark is used again, as it is written in braces. -/
def sectionRepeats (text : List Char) : Except (List Char) (Option Nat) :=
  if text.getLast? ≠ some '\x7d' then
    .error (inMarks text ++ ": '\x7d' is required in repeat count".toList)
  else
    match text.tail.dropLast with
    | ['*'] => .ok none
    | digits =>
      match natural? digits with
      | some n => .ok (some n)
      | none => .error (inMarks text.dropLast ++
          "\x7d: integer required between '\x7b' and '\x7d'".toList)

def sectionEnd (text : List Char) : Except (List Char) SectionEnd :=
  match text with
  | [] => .error (inMarks text ++ ": invalid pattern".toList)
  | c :: more =>
    if c ≠ '/' && c ≠ '%' then
      match natural? text with
      | some 0 => .error (text ++ ": line number must be greater than zero".toList)
      | some n => .ok (.line n)
      | none => .error (inMarks text ++ ": invalid pattern".toList)
    else
      let after := (more.reverse.takeWhile (· ≠ c)).reverse
      if !more.contains c then
        .error (text ++ ": closing delimiter '".toList ++ c :: "' missing".toList)
      else
        let body := more.take (more.length - after.length - 1)
        let offset? : Option Int := match after with
          | [] => some 0
          | '+' :: digits => (natural? digits).map fun n => n
          | '-' :: digits => (natural? digits).map fun n => -n
          | digits => (natural? digits).map fun n => n
        match offset?, Regex.ofText? { isExtended := false } body with
        | none, _ => .error (inMarks text ++ ": integer expected after delimiter".toList)
        | _, none => .error (inMarks text ++
            ": invalid regular expression: Invalid regular expression".toList)
        | some offset, some (r, _) => .ok (.fitting r offset (c = '%'))

/-- Reads marks. The number of the last line that was named is handed through; warnings come
with the marks. -/
def sectionMarks : Nat → List (List Char) → Except (List Char) (List SectionMark × List (List Char))
  | _, [] => .ok ([], [])
  | last, text :: rest => do
    let ending ← sectionEnd text
    let (last, warnings) ← match ending with
      | .line n =>
        if n < last then
          throw ("line number ".toList ++ inMarks text ++
            " is smaller than preceding line number, ".toList ++ decimal last)
        else if n = last then
          pure (n, ["warning: line number ".toList ++ inMarks text ++
            " is the same as preceding line number".toList])
        else pure (n, [])
      | _ => pure (last, [])
    match rest with
    | ('\x7b' :: more) :: others =>
      let again ← sectionRepeats ('\x7b' :: more)
      let (marks, others) ← sectionMarks last others
      return ({ ending, shown := text, again } :: marks, warnings ++ others)
    | rest =>
      let (marks, others) ← sectionMarks last rest
      return ({ ending, shown := text } :: marks, warnings ++ others)

/-- The way to write the number of a section, or what is wrong with it. -/
def sectionNumber (o : Options) : Except (List Char) (Nat → List Char) :=
  match o.value? 'b' with
  | none =>
    match (o.value? 'n').map natural? with
    | some none => .error ("invalid number: ".toList ++ inMarks ((o.value? 'n').getD []))
    | width => .ok fun n => filled '0' ((width.join).getD 2) (decimal n)
  | some format =>
    let plain := (format.splitOn '%')
    let kinds := plain.tail.map fun part =>
      (part.dropWhile fun c => c.isDigit || c ∈ ['-', '+', ' ', '#', '0', '.', '\'']).head?
    match kinds with
    | [] => .error "missing % conversion specification in suffix".toList
    | [some c] =>
      if c ∈ ['d', 'i', 'u', 'o', 'x', 'X'] then
        .ok fun n => (Printing.ofFormat .program format [decimal n]).text
      else .error ("invalid conversion specifier in suffix: ".toList ++ [c])
    | [none] => .error "missing conversion specifier in suffix".toList
    | _ => .error "too many % conversion specifications in suffix".toList

def writeSections (s : Setting) (name : Nat → List Char) :
    Nat → List (List Char) → Progress → Progress
  | _, [], p => p
  | n, text :: rest, p =>
    match openedPlace p.disk (s.path (name n)) with
    | .error reason => p.complain s (name n ++ ": ".toList ++ reason.reason.toList)
    | .ok place =>
      writeSections s name (n + 1) rest
        { p with disk := writeAt s.making p.disk place false (toBytes text) }

/-- The options of `csplit`. -/
def csplitFlags : Flags where
  plain := "ksqz!"
  valued := "bfn"
  words := [("suffix-format", 'b'), ("prefix", 'f'), ("keep-files", 'k'), ("digits", 'n'),
    ("quiet", 's'), ("silent", 's'), ("elide-empty-files", 'z'), ("suppress-matched", '!')]

def csplit : Utility := withOptions csplitFlags 1 fun s o =>
  match sectionNumber o, o.operands with
  | .error complaint, _ => s.failing 1 complaint
  | _, [] => s.misused 1 "missing operand".toList
  | _, [name] => s.misused 1 ("missing operand after ".toList ++ inMarks name)
  | .ok number, name :: marks =>
    match s.read name, sectionMarks 0 marks with
    | .error .isDirectory, _ => s.failing 1 "read error: Is a directory".toList
    | .error reason, _ =>
      s.failing 1 ("cannot open ".toList ++ inMarks name ++ " for reading: ".toList ++
        reason.reason.toList)
    | _, .error complaint => s.failing 1 complaint
    | .ok text, .ok (marks, warnings) =>
      let (t, complaint) := cutSections marks
        { rest := fullLines text, dropsMatched := o.has '!' }
      let sections := t.done.reverse.filter fun text => !o.has 'z' || text ≠ []
      let sizes := if o.has 's' || o.has 'q' then []
        else joinLines (sections.map fun text => decimal text.length)
      let start := (o.value? 'f').getD ['x', 'x']
      let written := if complaint.isSome && !o.has 'k' then s.progress
        else writeSections s (fun n => start ++ number n) 0 sections s.progress
      { written.effect with
        said := (warnings ++ complaint.toList).map s.complaint ++ written.said ++
          if written.failed then [] else [{ text := sizes }]
        status := if complaint.isSome || written.failed then 1 else 0
        left := leftAfter [name] }

end BoardBind.Script
