import BoardBind.Script.Filter
import BoardBind.Script.Regex.Reader

/-! # Numbers in front of lines

A text has pages, and a page has a header, a body and a footer, which start behind lines that mark
them. Each part has its own rule for which of its lines are numbered.
-/

namespace BoardBind.Script

/-- The options of `nl`. -/
def nlFlags : Flags where
  plain := "p"
  valued := "bdfhilnsvw"
  words := [("header-numbering", 'h'), ("body-numbering", 'b'), ("footer-numbering", 'f'),
    ("starting-line-number", 'v'), ("line-increment", 'i'), ("no-renumber", 'p'),
    ("join-blank-lines", 'l'), ("number-separator", 's'), ("number-width", 'w'),
    ("number-format", 'n'), ("section-delimiter", 'd')]

inductive NumberedLines where
  | all
  | filled
  | none
  | fitting (r : Regex)

def numberedLines? (style : List Char) : Option NumberedLines :=
  match style with
  | 'a' :: _ => some .all
  | 't' :: _ => some .filled
  | 'n' :: _ => some .none
  | 'p' :: pattern =>
    (Regex.ofText? { isExtended := false } pattern).map fun (r, _) => .fitting r
  | _ => Option.none

structure Numbering where
  header : NumberedLines := .none
  body : NumberedLines := .filled
  footer : NumberedLines := .none
  /-- What marks the parts of pages: once for a footer, twice for a body, and three times for a
  header. -/
  mark : List Char := ['\\', ':']
  first : Int := 1
  increment : Int := 1
  /-- How many empty lines in a row are one. -/
  joined : Nat := 1
  restarts : Bool := true
  separator : List Char := ['\t']
  width : Nat := 6
  layout : Layout := {}

structure NumberingState where
  style : NumberedLines
  number : Int
  empties : Nat := 0
  /-- What has been printed, the last line first. -/
  done : List (List Char) := []

namespace Numbering

/-- The part of a page that starts behind a line. -/
def section? (rule : Numbering) (line : List Char) : Option NumberedLines :=
  if rule.mark.length < 2 then Option.none
  else if line = rule.mark ++ rule.mark ++ rule.mark then some rule.header
  else if line = rule.mark ++ rule.mark then some rule.body
  else if line = rule.mark then some rule.footer
  else Option.none

def step (rule : Numbering) (state : NumberingState) (line : List Char) : NumberingState :=
  let plain := { state with
    done := (List.replicate (rule.width + rule.separator.length) ' ' ++ line) :: state.done }
  let numbered := { state with
    done := (rule.layout.signed state.number ++ rule.separator ++ line) :: state.done
    number := state.number + rule.increment }
  match rule.section? line with
  | some style =>
    { state with
      style, number := if rule.restarts then rule.first else state.number
      done := [] :: state.done }
  | Option.none =>
    match state.style with
    | .all =>
      if line ≠ [] || rule.joined ≤ state.empties + 1 then { numbered with empties := 0 }
      else { plain with empties := state.empties + 1 }
    | .filled => if line ≠ [] then numbered else plain
    | .none => plain
    | .fitting r => if r.isIn {} line then numbered else plain

def apply (rule : Numbering) (lines : List (List Char)) : List (List Char) :=
  (lines.foldl rule.step { style := rule.body, number := rule.first }).done.reverse

end Numbering

/-- Reads a whole number that an option of `nl` has. -/
def nlNumber (o : Options) (flag : Char) (what : String) (usual : Int) :
    Except (List Char) Int :=
  match o.value? flag with
  | Option.none => .ok usual
  | some text =>
    match Condition.decimal? text with
    | some n => .ok n
    | Option.none => .error ("invalid ".toList ++ what.toList ++ ": ".toList ++ inMarks text)

def nlSize (o : Options) (flag : Char) (what : String) (usual : Nat) : Except (List Char) Nat := do
  let n ← nlNumber o flag what usual
  if n < 1 then
    throw ("invalid ".toList ++ what.toList ++ ": ".toList ++ inMarks ((o.value? flag).getD []) ++
      ": Numerical result out of range".toList)
  return n.toNat

def numberingOf (o : Options) (header body footer : NumberedLines) (layout : Layout) :
    Except (List Char) Numbering := do
  let first ← nlNumber o 'v' "starting line number" 1
  let increment ← nlNumber o 'i' "line number increment" 1
  let joined ← nlSize o 'l' "line number of blank lines" 1
  let width ← nlSize o 'w' "line number field width" 6
  let mark := match o.value? 'd' with
    | some [c] => [c, ':']
    | some text => text
    | Option.none => ['\\', ':']
  return {
    header, body, footer, mark, first, increment, joined, width, restarts := !o.has 'p'
    separator := (o.value? 's').getD ['\t'], layout := { layout with width } }

def nl : Utility := withOptions nlFlags 1 fun s o =>
  let style := fun (flag : Char) (usual : NumberedLines) (what : String) =>
    match o.value? flag with
    | Option.none => Except.ok usual
    | some text =>
      (numberedLines? text).elim
        (.error ("invalid ".toList ++ what.toList ++ " numbering style: ".toList ++ inMarks text))
        .ok
  let layout : Except (List Char) Layout := match o.value? 'n' with
    | Option.none => .ok {}
    | some ['l', 'n'] => .ok { flags := ['-'] }
    | some ['r', 'n'] => .ok {}
    | some ['r', 'z'] => .ok { flags := ['0'] }
    | some text => .error ("invalid line numbering format: ".toList ++ inMarks text)
  let used := do
    let header ← style 'h' .none "header"
    let body ← style 'b' .filled "body"
    let footer ← style 'f' .none "footer"
    let layout ← layout
    return (header, body, footer, layout)
  match used with
  | .error complaint => s.misused 1 complaint
  | .ok (header, body, footer, layout) =>
    match numberingOf o header body footer layout with
    | .error complaint => s.failing 1 complaint
    | .ok rule =>
      let results := s.readAll o.operands
      let refused := results.filterMap fun (name, text) =>
        match text with
        | .error reason => some (s.fileComplaint name reason)
        | .ok _ => Option.none
      let lines := results.flatMap fun (_, text) => plainLines (text.toOption.getD [])
      { said := refused ++ [{ text := joinLines (rule.apply lines) }]
        status := if refused.isEmpty then 0 else 1
        left := leftAfter o.operands }

end BoardBind.Script
