import BoardBind.Template.Builtin
import BoardBind.Template.Marker
import BoardBind.Wrapper

/-! # Filling a template

A template is copied line by line. A marker line is replaced by the block it asks for, except that
the lines around a preserved region stay. The regions of a template are numbered in order; a region
for which something was preserved gets that text in place of its own lines.
-/

namespace BoardBind

open Text

/-- What is known between two lines of a template. -/
structure Rendering where
  /-- The lines written so far. -/
  output : List String := []
  /-- The number of regions begun so far. -/
  region : Nat := 0
  /-- Whether the template's own lines are left out. -/
  suppressed : Bool := false
  deriving DecidableEq

namespace Rendering

/-- Copies one line of a template, or what takes its place. -/
def step (w : Wrapper) (preserved : List String) (r : Rendering) (line : List Char) : Rendering :=
  let text := String.ofList line
  match Marker.ofLine? w.language.comment line with
  | some .regionBegin =>
    match preserved[r.region]? with
    | some kept =>
      if kept = "" then { r with output := r.output ++ [text], region := r.region + 1 }
      else
        { output := r.output ++ text :: linesOf kept, region := r.region + 1, suppressed := true }
    | none => { r with output := r.output ++ [text], region := r.region + 1 }
  | some .regionEnd => { r with output := r.output ++ [text], suppressed := false }
  | some marker => if r.suppressed then r else { r with output := r.output ++ w.block marker }
  | none => if r.suppressed then r else { r with output := r.output ++ [text] }

end Rendering

/-- The lines of a filled template. -/
def renderLines (template : String) (w : Wrapper) (preserved : List String) : List String :=
  ((lines template.toList).foldl (Rendering.step w preserved) {}).output

def render (template : String) (w : Wrapper) (preserved : List String) : String :=
  unlines (renderLines template w preserved)

end BoardBind
