import BoardBind.Proofs.Template.Filling

/-! # Reading a filled template

Where a template, the lines that fill it and the texts preserved for it hold nothing that the
reader takes for a marker or changes, the reader finds in the filled template the layout it was
written with.
-/

namespace BoardBind

open Text

variable {w : Wrapper} {template : String} {text line : List Char} {kept : List String} {l : Layout}

/-- A line that is the same after it was written and read. -/
structure Settled (line : List Char) : Prop where
  ascii : IsAscii line
  newlineFree : '\n' ∉ line
  returnFree : line.getLast? ≠ some '\r'

/-- A line that can stand in a region: it is read back, and not as a marker. -/
structure Ordinary (line : List Char) : Prop extends Settled line where
  unmarked : regionMark? line = none

/-- A template and a wrapper that are written and read without a change: the template and the blocks
of the wrapper are ASCII without carriage returns, no line of a block holds a newline or is a region
marker, and the region markers of the template are the same for both readers. -/
structure Fillable (template : String) (w : Wrapper) : Prop where
  templateAscii : IsAscii template.toList
  templateReturns : '\r' ∉ template.toList
  blockAscii : ∀ marker, ∀ text ∈ w.block marker, IsAscii text.toList
  blockReturns : ∀ marker, ∀ text ∈ w.block marker, '\r' ∉ text.toList
  blockNewlines : ∀ marker, ∀ text ∈ w.block marker, '\n' ∉ text.toList
  blockMarkers : ∀ marker, ∀ text ∈ w.block marker,
    ¬ (isRegionMarker "vvv" text.toList ∨ isRegionMarker "^^^" text.toList)
  marksAlike : MarksAlike w.language.comment template

theorem getLast?_ne_of_notMem {c : Char} (absent : c ∉ line) : line.getLast? ≠ some c :=
  fun last => absent (List.mem_of_getLast? last)

/-- Lines that settled are read back exactly. -/
theorem lines_unlines_of_settled {ls : List (List Char)} (settled : ∀ line ∈ ls, Settled line) :
    lines (unlines (ls.map String.ofList)).toList = ls := by
  have whole : ∀ text ∈ ls.map String.ofList, IsWhole text := by
    refine List.forall_mem_map.mpr fun line present => ?_
    rw [IsWhole, String.toList_ofList]
    exact ⟨(settled line present).newlineFree, (settled line present).returnFree⟩
  have same : String.toList ∘ String.ofList = id := funext fun _ => String.toList_ofList
  rw [lines_unlines_of_whole whole, List.map_map, same, List.map_id]

theorem copied_of_ascii {body : List (List Char)} (ascii : ∀ line ∈ body, IsAscii line) :
    copied body = body.map String.ofList :=
  List.map_congr_left fun line member => by rw [toAscii_eq_self (ascii line member)]

theorem chomp_toAscii (text : List Char) : chomp (toAscii text) = toAscii (chomp text) := by
  by_cases returned : text.getLast? = some '\r'
  · obtain ⟨init, rfl⟩ := List.getLast?_eq_some_iff.mp returned
    rw [chomp_concat_return, toAscii, List.map_append]
    exact chomp_concat_return
  · rw [chomp_eq_self returned, chomp_eq_self (getLast?_toAscii_ne returned)]

theorem lines_unlines_copied {body : List (List Char)} (plain : ∀ line ∈ body, '\n' ∉ line) :
    lines (unlines (copied body)).toList = body.map fun line => chomp (toAscii line) := by
  have plainCopies : ∀ text ∈ copied body, '\n' ∉ text.toList := by
    intro text member
    obtain ⟨line, present, rfl⟩ := List.mem_map.mp member
    rw [String.toList_ofList]
    exact newline_notMem_toAscii (plain line present)
  rw [lines_unlines plainCopies, copied, List.map_map]
  exact List.map_congr_left fun line _ => by rw [Function.comp_apply, String.toList_ofList]

/-- A written layout is found again, if its markers mark regions and nothing else does. -/
theorem ofLines_unlines (settled : ∀ line ∈ l.lines, Settled line) (marked : l.Marked regionMark?) :
    Layout.ofLines regionMark? (lines (unlines (l.lines.map String.ofList)).toList) = l := by
  rw [lines_unlines_of_settled settled, Layout.ofLines_lines marked]

theorem regions_unlines (settled : ∀ line ∈ l.lines, Settled line) (marked : l.Marked regionMark?) :
    regions (unlines (l.lines.map String.ofList)).toList =
      l.inside.map fun body => unlines (body.map String.ofList) := by
  rw [regions, regionLines_eq, ofLines_unlines settled marked, List.map_map]
  refine List.map_congr_left fun body member => ?_
  obtain ⟨s, present, rfl⟩ := List.mem_map.mp member
  have inLayout : s ∈ l.segments := List.mem_of_mem_filter present
  refine congrArg unlines (copied_of_ascii fun line inBody => ?_)
  exact (settled line (Layout.mem_lines_iff.mpr (.inr ⟨s, inLayout, .inr inBody⟩))).ascii

namespace Fillable

theorem settled (fillable : Fillable template w) (member : line ∈ lines template.toList) :
    Settled line where
  ascii := fun c present => fillable.templateAscii c ((infix_of_mem_lines member).subset present)
  newlineFree := newline_notMem_of_mem_lines member
  returnFree := getLast?_ne_of_notMem fun present =>
    fillable.templateReturns ((infix_of_mem_lines member).subset present)

theorem ordinary_block (fillable : Fillable template w) {marker : Marker} {text : String}
    (member : text ∈ w.block marker) : Ordinary text.toList where
  ascii := fillable.blockAscii marker text member
  newlineFree := fillable.blockNewlines marker text member
  returnFree := getLast?_ne_of_notMem (fillable.blockReturns marker text member)
  unmarked := regionMark?_eq_none_iff.mpr (fillable.blockMarkers marker text member)

/-- A line of a template that marks no region is replaced by lines that mark none. -/
theorem ordinary_expand (fillable : Fillable template w) (member : line ∈ lines template.toList)
    (plain : templateMark? w.language.comment line = none) :
    ∀ new ∈ w.expand line, Ordinary new := by
  intro new present
  have itself : Ordinary line :=
    ⟨fillable.settled member, (fillable.marksAlike.regionMark?_eq member).trans plain⟩
  rw [templateMark?] at plain
  unfold Wrapper.expand at present
  cases found : Marker.ofLine? w.language.comment line with
  | none =>
    rw [found] at present
    exact List.mem_singleton.mp present ▸ itself
  | some marker =>
    rw [found, Option.bind_some] at plain
    simp only [found, plain, Option.isSome_none, Bool.false_eq_true, if_false] at present
    obtain ⟨text, inBlock, rfl⟩ := List.mem_map.mp present
    exact fillable.ordinary_block inBlock

/-- The lines of a template that mark no region are replaced by such lines. -/
theorem ordinary_flatMap_expand (fillable : Fillable template w) {ls : List (List Char)}
    (members : ∀ line ∈ ls, line ∈ lines template.toList)
    (plain : ∀ line ∈ ls, templateMark? w.language.comment line = none) :
    ∀ new ∈ ls.flatMap w.expand, Ordinary new := by
  intro new present
  obtain ⟨line, inside, replaced⟩ := List.mem_flatMap.mp present
  exact fillable.ordinary_expand (members line inside) (plain line inside) new replaced

end Fillable

/-- A wrapper of a unit with one port. -/
def adderWrapper : Wrapper :=
  { language := .verilog, unit := "adder", ports := [.declare .verilog "x" .input none],
    bits := [], defaults := [] }

theorem adderWrapper_block (marker : Marker) : ∀ text ∈ adderWrapper.block marker,
    (IsAscii text.toList ∧ '\r' ∉ text.toList ∧ '\n' ∉ text.toList) ∧
      ¬ (isRegionMarker "vvv" text.toList ∨ isRegionMarker "^^^" text.toList) := by
  rcases marker with _ | (_ | _) | (_ | _) | _ | _ | _ | _ | _ <;> decide +kernel

-- The kernel decodes a string literal slowly, so the template is given by its characters.
theorem fillable_adderWrapper {characters : List Char} (ascii : IsAscii characters)
    (returns : '\r' ∉ characters)
    (alike : ∀ line ∈ lines characters, (isRegionMarker "vvv" line ∨ isRegionMarker "^^^" line) ↔
      (Marker.ofLine? adderWrapper.language.comment line = some .regionBegin ∨
        Marker.ofLine? adderWrapper.language.comment line = some .regionEnd)) :
    Fillable (String.ofList characters) adderWrapper where
  templateAscii := by rwa [String.toList_ofList]
  templateReturns := by rwa [String.toList_ofList]
  blockAscii marker text member := (adderWrapper_block marker text member).1.1
  blockReturns marker text member := (adderWrapper_block marker text member).1.2.1
  blockNewlines marker text member := (adderWrapper_block marker text member).1.2.2
  blockMarkers marker text member := (adderWrapper_block marker text member).2
  marksAlike := by rwa [MarksAlike, String.toList_ofList]

/-- Every line of the texts preserved for a template can stand in a region. -/
def Preservable (kept : List String) : Prop :=
  ∀ text ∈ kept, ∀ line ∈ lines text.toList, Ordinary line

/-- A region of a text is written from plain lines of it, and read as these lines. -/
theorem exists_body_of_mem_regions {preserved : String} (member : preserved ∈ regions text) :
    ∃ body, (∀ line ∈ body, line ∈ lines text ∧ regionMark? line = none) ∧
      preserved = unlines (copied body) ∧
      lines preserved.toList = body.map fun line => chomp (toAscii line) := by
  rw [regions, regionLines_eq, List.map_map] at member
  obtain ⟨body, inside, rfl⟩ := List.mem_map.mp member
  have origin := Layout.of_mem_inside inside
  exact ⟨body, origin, rfl, lines_unlines_copied fun line inBody =>
    newline_notMem_of_mem_lines (origin line inBody).1⟩

/-- The regions of a text without adjacent carriage returns can be preserved. -/
theorem preservable_regions (single : ¬ ['\r', '\r'] <:+: text) : Preservable (regions text) := by
  intro preserved member line present
  obtain ⟨body, origin, -, read⟩ := exists_body_of_mem_regions member
  rw [read] at present
  obtain ⟨original, inBody, rfl⟩ := List.mem_map.mp present
  obtain ⟨inText, plain⟩ := origin original inBody
  have unmarked := regionMark?_chomp_toAscii plain
  rw [chomp_toAscii] at unmarked ⊢
  refine ⟨⟨isAscii_toAscii _, newline_notMem_toAscii fun newline => ?_,
    getLast?_toAscii_ne (getLast?_chomp_ne single inText)⟩, unmarked⟩
  exact newline_notMem_of_mem_lines inText (chomp_prefix_self.subset newline)

/-- Filling replaces the body of each segment by preserved lines and by those that its own are
replaced by, and nothing else of it. -/
theorem Segment.forall_fillAll {holds : List Char → Prop}
    (preserved : ∀ text ∈ kept, ∀ line ∈ Text.lines text.toList, holds line) (suppressed : Bool)
    {segments : List Segment}
    (bodies : ∀ s ∈ segments, ∀ new ∈ s.body.flatMap w.expand, holds new) :
    ∀ s ∈ fillAll w kept suppressed segments, (∀ line ∈ s.body, holds line) ∧
      ∃ original ∈ segments, s.opens = original.opens ∧ s.marker = original.marker := by
  induction segments generalizing kept suppressed with
  | nil => simp [fillAll]
  | cons s rest ih =>
    rw [List.forall_mem_cons] at bodies
    have later {kept : List String}
        (preserved : ∀ text ∈ kept, ∀ line ∈ Text.lines text.toList, holds line) (suppressed : Bool) :
        ∀ s' ∈ fillAll w kept suppressed rest, (∀ line ∈ s'.body, holds line) ∧
          ∃ original ∈ s :: rest, s'.opens = original.opens ∧ s'.marker = original.marker := by
      intro s' member
      obtain ⟨holding, original, present, same⟩ := ih preserved suppressed bodies.2 s' member
      exact ⟨holding, original, List.mem_cons_of_mem _ present, same⟩
    unfold fillAll
    split
    · refine List.forall_mem_cons.mpr ⟨⟨?_, s, List.mem_cons_self, rfl, rfl⟩,
        later (fun text member => preserved text (List.mem_of_mem_tail member)) _⟩
      intro line present
      rcases List.mem_append.mp present with kept_ | own
      · cases kept with
        | nil => exact absurd kept_ List.not_mem_nil
        | cons text rest => exact preserved text List.mem_cons_self line kept_
      · split at own
        · exact absurd own List.not_mem_nil
        · exact bodies.1 line own
    · exact List.forall_mem_cons.mpr
        ⟨⟨bodies.1, s, List.mem_cons_self, rfl, rfl⟩, later preserved _⟩

namespace Fillable

/-- Every line of a filled template is read back, and the markers are the only ones. -/
theorem settled_and_marked (fillable : Fillable template w) (preservable : Preservable kept) :
    (∀ line ∈ ((templateLayout template w).fill w kept).lines, Settled line) ∧
      ((templateLayout template w).fill w kept).Marked regionMark? := by
  have marked := @marked_templateLayout w template
  have lead : ∀ line ∈ ((templateLayout template w).fill w kept).lead, Ordinary line :=
    fillable.ordinary_flatMap_expand (fun line present => mem_lines_template_iff.mpr (.inl present)) marked.lead
  have bodies : ∀ s ∈ (templateLayout template w).segments,
      ∀ new ∈ s.body.flatMap w.expand, Ordinary new := fun s present =>
    fillable.ordinary_flatMap_expand
      (fun line inBody => mem_lines_template_iff.mpr (.inr ⟨s, present, .inr inBody⟩)) (marked.body s present)
  have filled := Segment.forall_fillAll preservable false bodies
  have markers : ∀ s ∈ ((templateLayout template w).fill w kept).segments,
      Settled s.marker ∧ regionMark? s.marker = some s.opens := by
    intro s present
    obtain ⟨-, original, inTemplate, opens, marker⟩ := filled s present
    have inLines : original.marker ∈ lines template.toList :=
      mem_lines_template_iff.mpr (.inr ⟨original, inTemplate, .inl rfl⟩)
    rw [marker, opens, fillable.marksAlike.regionMark?_eq inLines]
    exact ⟨fillable.settled inLines, marked.marker original inTemplate⟩
  refine ⟨?_, fun line present => (lead line present).unmarked, fun s present => (markers s present).2,
    fun s present line inBody => ((filled s present).1 line inBody).unmarked⟩
  intro line present
  rcases Layout.mem_lines_iff.mp present with before | ⟨s, inSegments, rfl | inBody⟩
  · exact (lead line before).toSettled
  · exact (markers s inSegments).1
  · exact ((filled s inSegments).1 line inBody).toSettled

theorem layout_render (fillable : Fillable template w) (preservable : Preservable kept) :
    Layout.ofLines regionMark? (lines (render template w kept).toList) =
      (templateLayout template w).fill w kept := by
  obtain ⟨settled, marked⟩ := fillable.settled_and_marked preservable
  rw [render, renderLines_eq, ofLines_unlines settled marked]

theorem regions_render (fillable : Fillable template w) (preservable : Preservable kept) :
    regions (render template w kept).toList =
      ((templateLayout template w).fill w kept).inside.map fun body =>
        unlines (body.map String.ofList) := by
  obtain ⟨settled, marked⟩ := fillable.settled_and_marked preservable
  rw [render, renderLines_eq, regions_unlines settled marked]

theorem isAscii_render (fillable : Fillable template w) (preservable : Preservable kept) :
    IsAscii (render template w kept).toList := by
  obtain ⟨settled, -⟩ := fillable.settled_and_marked preservable
  intro c present
  rw [render, renderLines_eq, toList_unlines, List.mem_flatMap] at present
  obtain ⟨text, written, present⟩ := present
  obtain ⟨line, inLayout, rfl⟩ := List.mem_map.mp written
  rw [String.toList_ofList, List.mem_append, List.mem_singleton] at present
  rcases present with inLine | rfl
  · exact (settled line inLayout).ascii c inLine
  · decide

end Fillable

end BoardBind
