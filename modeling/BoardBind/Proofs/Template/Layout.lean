import BoardBind.Proofs.Template.Marker

/-! # Where the regions of a text are

The lines that mark regions cut a text into segments. A segment that starts with an opening line
is a region. A layout keeps the segments apart, so that one can say which lines of a text are
inside of its regions and which are not, and replace the former without touching the latter.
-/

namespace BoardBind

open Text

/-- A line that marks a region, with the lines up to the next such line. -/
structure Segment where
  /-- Whether the line opens a region rather than closing one. -/
  opens : Bool
  marker : List Char
  body : List (List Char)
  deriving DecidableEq

/-- The lines before the first marker, and the segments behind. -/
structure Layout where
  lead : List (List Char)
  segments : List Segment
  deriving DecidableEq

namespace Segment

/-- All lines of a segment. -/
def lines (s : Segment) : List (List Char) :=
  s.marker :: s.body

/-- The lines of a segment that are not inside of a region. -/
def outside (s : Segment) : List (List Char) :=
  s.marker :: if s.opens then [] else s.body

end Segment

namespace Layout

variable {mark : List Char → Option Bool} {ls plain : List (List Char)} {l : Layout}

/-- Cuts lines at those that mark regions. -/
def ofLines (mark : List Char → Option Bool) : List (List Char) → Layout
  | [] => ⟨[], []⟩
  | line :: rest =>
    let behind := ofLines mark rest
    match mark line with
    | some opens => ⟨[], ⟨opens, line, behind.lead⟩ :: behind.segments⟩
    | none => ⟨line :: behind.lead, behind.segments⟩

/-- All lines of a layout. -/
def lines (l : Layout) : List (List Char) :=
  l.lead ++ l.segments.flatMap Segment.lines

/-- The lines of every region, in order. -/
def inside (l : Layout) : List (List (List Char)) :=
  (l.segments.filter (·.opens)).map (·.body)

/-- The lines that are not inside of a region, the markers included. -/
def outside (l : Layout) : List (List Char) :=
  l.lead ++ l.segments.flatMap Segment.outside

/-- The markers of a layout, and no other lines, mark regions, each the way its segment says. -/
structure Marked (mark : List Char → Option Bool) (l : Layout) : Prop where
  lead : ∀ line ∈ l.lead, mark line = none
  marker : ∀ s ∈ l.segments, mark s.marker = some s.opens
  body : ∀ s ∈ l.segments, ∀ line ∈ s.body, mark line = none

theorem ofLines_nil : ofLines mark [] = ⟨[], []⟩ := rfl

theorem ofLines_cons_marker {line : List Char} {opens : Bool} (marks : mark line = some opens) :
    ofLines mark (line :: ls) =
      ⟨[], ⟨opens, line, (ofLines mark ls).lead⟩ :: (ofLines mark ls).segments⟩ := by
  rw [ofLines, marks]

theorem ofLines_cons_plain {line : List Char} (marks : mark line = none) :
    ofLines mark (line :: ls) =
      ⟨line :: (ofLines mark ls).lead, (ofLines mark ls).segments⟩ := by
  rw [ofLines, marks]

theorem ofLines_append (unmarked : ∀ line ∈ plain, mark line = none) :
    ofLines mark (plain ++ ls) =
      ⟨plain ++ (ofLines mark ls).lead, (ofLines mark ls).segments⟩ := by
  induction plain with
  | nil => rfl
  | cons line plain ih =>
    rw [List.forall_mem_cons] at unmarked
    rw [List.cons_append, ofLines_cons_plain unmarked.1, ih unmarked.2, List.cons_append]

/-- Cutting loses no line. -/
@[simp] theorem lines_ofLines : (ofLines mark ls).lines = ls := by
  induction ls with
  | nil => rfl
  | cons line rest ih =>
    cases marks : mark line with
    | some opens => rw [ofLines_cons_marker marks]; exact congrArg (line :: ·) ih
    | none => rw [ofLines_cons_plain marks]; exact congrArg (line :: ·) ih

theorem marked_ofLines : (ofLines mark ls).Marked mark := by
  induction ls with
  | nil => constructor <;> simp [ofLines_nil]
  | cons line rest ih =>
    cases marks : mark line with
    | some opens =>
      rw [ofLines_cons_marker marks]
      exact ⟨by simp, List.forall_mem_cons.mpr ⟨marks, ih.marker⟩,
        List.forall_mem_cons.mpr ⟨ih.lead, ih.body⟩⟩
    | none =>
      rw [ofLines_cons_plain marks]
      exact ⟨List.forall_mem_cons.mpr ⟨marks, ih.lead⟩, ih.marker, ih.body⟩

/-- A layout is found again from its lines. -/
theorem ofLines_lines (marked : l.Marked mark) : ofLines mark l.lines = l := by
  obtain ⟨lead, segments⟩ := l
  have behind : ofLines mark (segments.flatMap Segment.lines) = ⟨[], segments⟩ := by
    have marker := marked.marker
    have body := marked.body
    clear marked
    induction segments with
    | nil => rfl
    | cons s rest ih =>
      simp only [List.forall_mem_cons] at marker body
      rw [List.flatMap_cons, Segment.lines, List.cons_append, ofLines_cons_marker marker.1,
        ofLines_append body.1, ih marker.2 body.2, List.append_nil]
  rw [lines, ofLines_append marked.lead, behind, List.append_nil]

theorem mem_lines_iff {line : List Char} : line ∈ l.lines ↔
    line ∈ l.lead ∨ ∃ s ∈ l.segments, line = s.marker ∨ line ∈ s.body := by
  simp [lines, Segment.lines]

theorem of_mem_inside {body : List (List Char)}
    (member : body ∈ (ofLines mark ls).inside) :
    ∀ line ∈ body, line ∈ ls ∧ mark line = none := by
  obtain ⟨s, present, rfl⟩ := List.mem_map.mp member
  have inSegments : s ∈ (ofLines mark ls).segments := List.mem_of_mem_filter present
  intro line inBody
  refine ⟨?_, marked_ofLines.body s inSegments line inBody⟩
  rw [← @lines_ofLines mark ls, mem_lines_iff]
  exact .inr ⟨s, inSegments, .inr inBody⟩

theorem length_inside : l.inside.length = (l.segments.map (·.opens)).count true := by
  rw [inside, List.length_map, ← List.countP_eq_length_filter, List.count, List.countP_map]
  exact List.countP_congr fun s _ => by simp

end Layout

/-- How the lines of a region are kept. -/
def copied (body : List (List Char)) : List String :=
  body.map fun line => String.ofList (toAscii line)

namespace RegionReader

theorem step_eq (r : RegionReader) (line : List Char) :
    r.step line = match regionMark? line with
      | some opens => ⟨r.regions, if opens then some [] else none⟩
      | none => ⟨r.closed, r.current.map (· ++ copied [line])⟩ := by
  unfold step regionMark?
  split
  · rfl
  · split <;> rfl

/-- Reading lines closes the open region with those before the first marker. -/
theorem regions_foldl_step (ls : List (List Char)) (r : RegionReader) :
    (ls.foldl step r).regions =
      r.closed ++ (r.current.map (· ++ copied (Layout.ofLines regionMark? ls).lead)).toList ++
        (Layout.ofLines regionMark? ls).inside.map copied := by
  induction ls generalizing r with
  | nil => simp [regions, copied, Layout.inside, Layout.ofLines_nil]
  | cons line rest ih =>
    rw [List.foldl_cons, ih, step_eq]
    cases marks : regionMark? line with
    | some opens =>
      rw [Layout.ofLines_cons_marker marks]
      cases opens <;> simp [regions, copied, Layout.inside]
    | none =>
      rw [Layout.ofLines_cons_plain marks]
      cases r.current <;> simp [copied, Layout.inside]

end RegionReader

/-- The regions of a text are the segments that start with an opening line. -/
theorem regionLines_eq (text : List Char) :
    regionLines text = (Layout.ofLines regionMark? (lines text)).inside.map copied :=
  RegionReader.regions_foldl_step (lines text) {}

end BoardBind
