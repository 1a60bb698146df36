import BoardBind.Proofs.Template.Layout
import BoardBind.Template.Render

/-! # Filling a template region by region

Filling a template keeps its markers and replaces the lines between them. A region takes the text
preserved for it, after which the lines of the template are left out until a region ends. What is
written has the markers of the template as its only markers, so reading it gives the same layout.
-/

namespace BoardBind

open Text

variable {w : Wrapper} {template : String} {line : List Char} {kept : List String}

/-- What takes the place of a line of a template where no line is left out. -/
def Wrapper.expand (w : Wrapper) (line : List Char) : List (List Char) :=
  match Marker.ofLine? w.language.comment line with
  | some marker => if marker.mark?.isSome then [line] else (w.block marker).map String.toList
  | none => [line]

/-- The layout of a template. -/
def templateLayout (template : String) (w : Wrapper) : Layout :=
  .ofLines (templateMark? w.language.comment) (lines template.toList)

theorem marked_templateLayout :
    (templateLayout template w).Marked (templateMark? w.language.comment) :=
  Layout.marked_ofLines

theorem mem_lines_template_iff : line ∈ lines template.toList ↔
    line ∈ (templateLayout template w).lead ∨
      ∃ s ∈ (templateLayout template w).segments, line = s.marker ∨ line ∈ s.body := by
  rw [← Layout.mem_lines_iff, templateLayout, Layout.lines_ofLines]

/-- Fills the segments of a template, given the texts preserved for the regions to come and
whether the lines of the template are left out. -/
def Segment.fillAll (w : Wrapper) : List String → Bool → List Segment → List Segment
  | _, _, [] => []
  | kept, suppressed, s :: rest =>
    if s.opens then
      let text := kept.headD ""
      let leftOut := suppressed || text ≠ ""
      { s with body := Text.lines text.toList ++ if leftOut then [] else s.body.flatMap w.expand } ::
        fillAll w kept.tail leftOut rest
    else { s with body := s.body.flatMap w.expand } :: fillAll w kept false rest

/-- Fills a template that is cut into segments. -/
def Layout.fill (w : Wrapper) (kept : List String) (l : Layout) : Layout :=
  ⟨l.lead.flatMap w.expand, Segment.fillAll w kept false l.segments⟩

namespace Rendering

theorem step_eq (w : Wrapper) (preserved : List String) (r : Rendering) (line : List Char) :
    r.step w preserved line = match templateMark? w.language.comment line with
      | some true =>
        { output := r.output ++ String.ofList line :: linesOf (preserved[r.region]?.getD "")
          region := r.region + 1
          suppressed := r.suppressed || preserved[r.region]?.getD "" ≠ "" }
      | some false => { r with output := r.output ++ [String.ofList line], suppressed := false }
      | none =>
        if r.suppressed then r
        else { r with output := r.output ++ (w.expand line).map String.ofList } := by
  unfold step templateMark? Wrapper.expand
  cases Marker.ofLine? w.language.comment line with
  | none => simp
  | some marker =>
    cases marker
    case regionBegin =>
      cases preserved[r.region]? with
      | none => simp [Marker.mark?, linesOf, lines_nil]
      | some text => by_cases empty : text = "" <;> simp [Marker.mark?, empty, linesOf, lines_nil]
    all_goals simp [Marker.mark?]

/-- Filling the lines of a template fills its segments. -/
theorem output_foldl_step (preserved : List String) (ls : List (List Char)) (r : Rendering) :
    let l := Layout.ofLines (templateMark? w.language.comment) ls
    (ls.foldl (step w preserved) r).output = r.output ++
      (((if r.suppressed then [] else l.lead.flatMap w.expand) ++
        (Segment.fillAll w (preserved.drop r.region) r.suppressed l.segments).flatMap
          Segment.lines).map String.ofList) := by
  induction ls generalizing r with
  | nil => simp [Layout.ofLines_nil, Segment.fillAll]
  | cons line rest ih =>
    simp only [List.foldl_cons, ih, step_eq]
    cases marks : templateMark? w.language.comment line with
    | none =>
      rw [Layout.ofLines_cons_plain marks]
      cases left : r.suppressed <;> simp [left]
    | some opens =>
      rw [Layout.ofLines_cons_marker marks]
      cases opens
      · simp [Segment.fillAll, Segment.lines]
      · simp [Segment.fillAll, Segment.lines, linesOf, List.tail_drop]

end Rendering

theorem renderLines_eq (template : String) (w : Wrapper) (kept : List String) :
    renderLines template w kept =
      ((templateLayout template w).fill w kept).lines.map String.ofList := by
  rw [renderLines, Rendering.output_foldl_step, List.nil_append, List.drop_zero]
  rfl

end BoardBind
