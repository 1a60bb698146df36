import BoardBind.Proofs.Except
import BoardBind.Proofs.Template.Regeneration
import BoardBind.Proofs.Template.RoundTrip
import BoardBind.Proofs.Text.Lines

/-! # What is kept of the previous file

A template takes the regions of a file by their number, as many as it has of its own. Each of these that
has lines is a region of the file written, with exactly its lines; the regions behind them leave no
trace. So lines that are inserted into the regions of a generated file are kept, if no marker is among
them: a marker would move the lines behind it to the next region, and those of the last one out of the
file.
-/

namespace BoardBind

open Text

variable {w : Wrapper} {template : String} {file written : List UInt8} {kept : List String}
  {line text : List Char} {lang : Language} {regionCount : Nat} {opens : Bool}

/-- The lines of every region of a file, as they stand in it. -/
def regionContents (file : List UInt8) : List (List (List Char)) :=
  (Layout.ofLines regionMark? (closedLines (ofBytes file))).inside

/-- The lines of a region as they are written again: a carriage return at the end of one is taken for a
part of its line end. -/
def writtenAgain (body : List String) : List (List Char) :=
  body.map fun line => chomp line.toList

/-! ## Regions of lines that are put together -/

namespace Layout

variable {mark : List Char → Option Bool} {first last : List Char} {body rest front back : List (List Char)}

/-- What stands before other lines adds to the first region of these at most. -/
theorem inside_suffix_append (front back : List (List Char)) :
    (ofLines mark back).inside <:+ (ofLines mark (front ++ back)).inside := by
  induction front with
  | nil => exact List.suffix_rfl
  | cons line front ih =>
    rw [List.cons_append]
    cases marks : mark line with
    | none => rw [ofLines_cons_plain marks]; exact ih
    | some opens =>
      rw [ofLines_cons_marker marks]
      cases opens
      · exact ih
      · exact ih.trans (List.suffix_cons _ _)

/-- A region ends at the next marker. -/
theorem inside_region (opening : mark first = some true) (plain : ∀ line ∈ body, mark line = none)
    (closing : mark last = some opens) : (ofLines mark (first :: (body ++ last :: rest))).inside =
      body :: (ofLines mark (last :: rest)).inside := by
  rw [ofLines_cons_marker opening, ofLines_append plain, ofLines_cons_marker closing, List.append_nil]
  rfl

/-- Lines that are replaced by others without a change of the markers. -/
theorem inside_map {change : List Char → List Char} (same : ∀ line, mark (change line) = mark line)
    (ls : List (List Char)) : (ofLines mark (ls.map change)).lead = (ofLines mark ls).lead.map change ∧
      (ofLines mark (ls.map change)).inside = (ofLines mark ls).inside.map (List.map change) := by
  induction ls with
  | nil => exact ⟨rfl, rfl⟩
  | cons line ls ih =>
    rw [List.map_cons]
    cases marks : mark line with
    | none =>
      rw [ofLines_cons_plain marks, ofLines_cons_plain ((same line).trans marks)]
      exact ⟨congrArg (change line :: ·) ih.1, ih.2⟩
    | some opens =>
      rw [ofLines_cons_marker marks, ofLines_cons_marker ((same line).trans marks)]
      refine ⟨rfl, ?_⟩
      cases opens
      · exact ih.2
      · exact congrArg₂ List.cons ih.1 ih.2

theorem filterMap_mark_of_plain {read : List Char → List (List Char)} {ls : List (List Char)}
    (plain : ∀ line ∈ ls, ∀ new ∈ read line, mark new = none) : (ls.flatMap read).filterMap mark = [] := by
  refine List.filterMap_eq_nil_iff.mpr fun new present => ?_
  obtain ⟨line, member, inRead⟩ := List.mem_flatMap.mp present
  exact plain line member new inRead

/-- The markers among the lines that are read where those of a layout were written. -/
theorem filterMap_mark_lines {read : List Char → List (List Char)} {l : Layout}
    (lead : ∀ line ∈ l.lead, ∀ new ∈ read line, mark new = none)
    (markers : ∀ s ∈ l.segments, ∃ new, read s.marker = [new] ∧ mark new = some s.opens)
    (bodies : ∀ s ∈ l.segments, ∀ line ∈ s.body, ∀ new ∈ read line, mark new = none) :
    (l.lines.flatMap read).filterMap mark = l.segments.map (·.opens) := by
  obtain ⟨front, segments⟩ := l
  rw [lines, List.flatMap_append, List.filterMap_append, filterMap_mark_of_plain lead, List.nil_append]
  clear lead
  induction segments with
  | nil => rfl
  | cons s rest ih =>
    rw [List.forall_mem_cons] at markers bodies
    obtain ⟨new, single, marks⟩ := markers.1
    rw [List.flatMap_cons, Segment.lines, List.flatMap_append, List.filterMap_append, List.flatMap_cons,
      single, List.filterMap_append, filterMap_mark_of_plain bodies.1, ih markers.2 bodies.2,
      List.filterMap_cons_some marks]
    rfl

end Layout

/-! ## Lines of a written file -/

/-- A carriage return at the end of a line does not matter for whether it is a marker. -/
theorem isRegionMarker_chomp {keyword : String} (nonempty : keyword.toList ≠ [])
    (plain : '\r' ∉ keyword.toList) : isRegionMarker keyword (chomp line) ↔ isRegionMarker keyword line := by
  refine ⟨isRegionMarker_of_start chomp_prefix_self, fun marker => ?_⟩
  by_cases returned : line.getLast? = some '\r'
  · obtain ⟨init, rfl⟩ := List.getLast?_eq_some_iff.mp returned
    rw [chomp_concat_return]
    rw [isRegionMarker_iff] at marker ⊢
    obtain ⟨indent, blank, start, member, inside⟩ := marker
    refine ⟨indent, blank, start, member, (List.prefix_concat_iff.mp inside).resolve_left fun whole => ?_⟩
    have last := congrArg List.getLast? whole
    rw [List.getLast?_concat, List.getLast?_append_of_ne_nil _ (List.append_ne_nil_of_right_ne_nil _ nonempty),
      List.getLast?_append_of_ne_nil _ nonempty] at last
    exact plain (List.mem_of_getLast? last)
  · rwa [chomp_eq_self returned]

theorem regionMark?_chomp : regionMark? (chomp line) = regionMark? line := by
  have closing := @isRegionMarker_chomp line "^^^" (by decide) (by decide)
  have opening := @isRegionMarker_chomp line "vvv" (by decide) (by decide)
  simp only [regionMark?, closing, opening]

/-- A marker of a template is read as a single line, and as the same marker. -/
theorem rereadLines_marker (member : line ∈ lines template.toList)
    (marks : templateMark? lang.comment line = some opens) :
    ∃ read, rereadLines line = [read] ∧ regionMark? read = some opens := by
  refine ⟨_, rereadLines_of_notMem (newline_notMem_of_mem_lines member), ?_⟩
  obtain ⟨marker, found, region⟩ := Option.bind_eq_some_iff.mp marks
  cases marker <;> simp only [Marker.mark?, reduceCtorEq, Option.some_inj] at region
  all_goals
    subst region
    obtain ⟨rest, rfl⟩ := Marker.ofLine?_region found (by simp)
    cases lang <;> rw [transcribed_append, transcribed_of_ascii (by decide)] <;> rfl

/-- A preserved line is read as itself, and not as a marker. -/
theorem rereadLines_of_mem_regions {preserved : String} (member : preserved ∈ regions text)
    (present : line ∈ lines preserved.toList) : rereadLines line = [line] ∧ regionMark? line = none := by
  obtain ⟨body, origin, -, read⟩ := exists_body_of_mem_regions member
  have copy := present
  rw [read] at copy
  obtain ⟨original, inBody, rfl⟩ := List.mem_map.mp copy
  refine ⟨rereadLines_of_ascii ?_ (newline_notMem_of_mem_lines present),
    regionMark?_chomp_toAscii (origin original inBody).2⟩
  rw [chomp_toAscii]
  exact isAscii_toAscii _

theorem closedLines_regenerate (template : String) (w : Wrapper) (file : List UInt8) :
    closedLines (ofBytes (regenerate template w file)) =
      ((templateLayout template w).fill w (regions (ofBytes file))).lines.flatMap rereadLines := by
  rw [regenerate, render, renderLines_eq, closedLines_unlines, List.flatMap_map]
  simp only [String.toList_ofList]

theorem lines_regenerate (template : String) (w : Wrapper) (file : List UInt8) :
    lines (ofBytes (regenerate template w file)) =
      (closedLines (ofBytes (regenerate template w file))).map chomp := by
  rw [regenerate, render, lines_unlines_eq]

/-- The regions that are found in a written file are those that stand in it. -/
theorem regionLines_regenerate (template : String) (w : Wrapper) (file : List UInt8) :
    regionLines (ofBytes (regenerate template w file)) =
      (regionContents (regenerate template w file)).map fun body => copied (body.map chomp) := by
  rw [regionLines_eq, lines_regenerate, (Layout.inside_map (fun _ => regionMark?_chomp) _).2,
    List.map_map]
  rfl

/-! ## Regions that are carried over -/

namespace Segment

variable {segments : List Segment}

/-- Each of the texts preserved for a template whose regions are closed one by one becomes a region of
what is written, unless it is empty. -/
theorem sublist_inside_fillAll
    (bracketed : segments.map (·.opens) = (List.replicate regionCount [true, false]).flatten)
    (markers : ∀ s ∈ segments, ∃ read, rereadLines s.marker = [read] ∧ regionMark? read = some s.opens)
    (plain : ∀ text ∈ kept, ∀ line ∈ Text.lines text.toList,
      rereadLines line = [line] ∧ regionMark? line = none) :
    (((kept.take regionCount).filter (· ≠ "")).map fun text => Text.lines text.toList).Sublist
      (Layout.ofLines regionMark?
        (((fillAll w kept false segments).flatMap lines).flatMap rereadLines)).inside := by
  induction regionCount generalizing segments kept with
  | zero => exact List.nil_sublist _
  | succ count ih =>
    rw [List.replicate_succ, List.flatten_cons, List.cons_append, List.singleton_append] at bracketed
    obtain ⟨first, others, rfl, opening, bracketed⟩ := List.map_eq_cons_iff.mp bracketed
    obtain ⟨second, rest, rfl, closing, bracketed⟩ := List.map_eq_cons_iff.mp bracketed
    simp only [List.forall_mem_cons] at markers
    obtain ⟨⟨start, startRead, starts⟩, ⟨stop, stopRead, stops⟩, markers⟩ := markers
    rw [opening] at starts
    rw [closing] at stops
    cases kept with
    | nil => exact List.nil_sublist _
    | cons text kept =>
      rw [List.forall_mem_cons] at plain
      have later := ih bracketed markers plain.2
      by_cases empty : text = ""
      · -- The region keeps the lines of the template, which may be anything.
        have dropped : ((text :: kept).take (count + 1)).filter (· ≠ "") =
            (kept.take count).filter (· ≠ "") := by simp [empty]
        have written : ((fillAll w (text :: kept) false (first :: second :: rest)).flatMap
            lines).flatMap rereadLines = (start :: ((first.body.flatMap w.expand).flatMap rereadLines ++
              stop :: (second.body.flatMap w.expand).flatMap rereadLines)) ++
                ((fillAll w kept false rest).flatMap lines).flatMap rereadLines := by
          simp [fillAll, opening, closing, empty, lines, startRead, stopRead, Text.lines_nil]
        rw [dropped, written]
        exact later.trans (Layout.inside_suffix_append _ _).sublist
      · have taken : ((text :: kept).take (count + 1)).filter (· ≠ "") =
            text :: (kept.take count).filter (· ≠ "") := by simp [empty]
        have itself : (Text.lines text.toList).flatMap rereadLines = Text.lines text.toList := by
          refine (List.flatMap_congr fun line member => (plain.1 line member).1).trans ?_
          exact List.flatMap_singleton' _
        have written : ((fillAll w (text :: kept) false (first :: second :: rest)).flatMap
            lines).flatMap rereadLines = start :: (Text.lines text.toList ++
              stop :: ((second.body.flatMap w.expand).flatMap rereadLines ++
                ((fillAll w kept false rest).flatMap lines).flatMap rereadLines)) := by
          simp [fillAll, opening, closing, empty, lines, startRead, stopRead, itself]
        rw [taken, written, List.map_cons,
          Layout.inside_region starts (fun line member => (plain.1 line member).2) stops,
          Layout.ofLines_cons_marker stops]
        exact (later.trans (Layout.inside_suffix_append _ _).sublist).cons_cons _

/-- Segments are filled with as many texts as there are regions among them. -/
theorem fillAll_take (suppressed : Bool) (segments : List Segment) :
    fillAll w (kept.take ((segments.map (·.opens)).count true)) suppressed segments =
      fillAll w kept suppressed segments := by
  induction segments generalizing kept suppressed with
  | nil => rfl
  | cons s rest ih =>
    cases opens : s.opens with
    | false => simp only [List.map_cons, opens, List.count_cons, fillAll]; simp [ih]
    | true =>
      cases kept with
      | nil => simp
      | cons text kept => simp only [List.map_cons, opens, List.count_cons, fillAll]; simp [ih]

end Segment

/-- The regions of a file are put into its template as far as the template has any. -/
theorem sublist_regionContents (bracketed : WellBracketed w.language.comment template regionCount)
    (file : List UInt8) :
    ((((regionLines (ofBytes file)).take regionCount).filter (· ≠ [])).map writtenAgain).Sublist
      (regionContents (regenerate template w file)) := by
  have marked := @marked_templateLayout w template
  have markers : ∀ s ∈ (templateLayout template w).segments,
      ∃ read, rereadLines s.marker = [read] ∧ regionMark? read = some s.opens := by
    intro s present
    exact rereadLines_marker (mem_lines_template_iff.mpr (.inr ⟨s, present, .inl rfl⟩))
      (marked.marker s present)
  have plain : ∀ preserved ∈ regions (ofBytes file), ∀ line ∈ lines preserved.toList,
      rereadLines line = [line] ∧ regionMark? line = none := fun _ member _ =>
    rereadLines_of_mem_regions member
  have carried := Segment.sublist_inside_fillAll (w := w) bracketed.map_opens markers plain
  have filled : regionContents (regenerate template w file) =
      (Layout.ofLines regionMark? (((templateLayout template w).lead.flatMap w.expand).flatMap rereadLines ++
        ((Segment.fillAll w (regions (ofBytes file)) false
          (templateLayout template w).segments).flatMap Segment.lines).flatMap rereadLines)).inside := by
    rw [regionContents, closedLines_regenerate, Layout.lines, List.flatMap_append]
    rfl
  have texts : (((regionLines (ofBytes file)).take regionCount).filter (· ≠ [])).map writtenAgain =
      (((regions (ofBytes file)).take regionCount).filter (· ≠ "")).map fun text => lines text.toList := by
    rw [regions, ← List.map_take, List.filter_map, List.map_map]
    have same : ∀ body : List String, (decide (unlines body ≠ "")) = decide (body ≠ []) := fun body => by
      simp only [ne_eq, unlines_eq_empty_iff]
    simp only [Function.comp_def, same]
    refine List.map_congr_left fun body member => ?_
    have present := List.mem_of_mem_take (List.mem_of_mem_filter member)
    rw [regionLines_eq] at present
    obtain ⟨original, inside, rfl⟩ := List.mem_map.mp present
    rw [lines_unlines_copied fun line inBody =>
      newline_notMem_of_mem_lines (Layout.of_mem_inside inside line inBody).1]
    simp [writtenAgain, copied]
  rw [texts, filled]
  exact carried.trans (Layout.inside_suffix_append _ _).sublist

/-- Regions behind those of the template leave no trace. -/
theorem render_take (bracketed : WellBracketed w.language.comment template regionCount)
    (kept : List String) : render template w (kept.take regionCount) = render template w kept := by
  have same := @Segment.fillAll_take w kept false (templateLayout template w).segments
  rw [bracketed.map_opens, count_true_bracketed] at same
  rw [render, render, renderLines_eq, renderLines_eq, Layout.fill, Layout.fill, same]

/-! ## Files that were edited -/

/-- Of the lines that are written for a template, those that mark its regions are the only ones that a
reader takes for region markers. -/
def MarkedOnly (template : String) (w : Wrapper) : Prop :=
  ∀ line ∈ lines template.toList, templateMark? w.language.comment line = none →
    ∀ new ∈ w.expand line, ∀ read ∈ rereadLines new, regionMark? read = none

instance : Decidable (MarkedOnly template w) :=
  inferInstanceAs (Decidable (∀ line ∈ lines template.toList, _ → ∀ new ∈ w.expand line, _))

/-- A file that is written for such a template has as many regions as the template. -/
theorem length_regionLines_regenerate
    (bracketed : WellBracketed w.language.comment template regionCount)
    (markedOnly : MarkedOnly template w) (file : List UInt8) :
    (regionLines (ofBytes (regenerate template w file))).length = regionCount := by
  have marked := @marked_templateLayout w template
  have replaced {ls : List (List Char)} (members : ∀ line ∈ ls, line ∈ lines template.toList)
      (plain : ∀ line ∈ ls, templateMark? w.language.comment line = none) :
      ∀ new ∈ ls.flatMap w.expand, ∀ read ∈ rereadLines new, regionMark? read = none := by
    intro new present
    obtain ⟨line, inside, expanded⟩ := List.mem_flatMap.mp present
    exact markedOnly line (members line inside) (plain line inside) new expanded
  have preserved : ∀ text ∈ regions (ofBytes file), ∀ line ∈ lines text.toList,
      ∀ read ∈ rereadLines line, regionMark? read = none := by
    intro text inFile line present read reread
    obtain ⟨itself, plain⟩ := rereadLines_of_mem_regions inFile present
    rw [itself, List.mem_singleton] at reread
    exact reread ▸ plain
  have lead := replaced (fun line present => mem_lines_template_iff.mpr (.inl present)) marked.lead
  have filled := Segment.forall_fillAll preserved false fun s present =>
    replaced (fun line inBody => mem_lines_template_iff.mpr (.inr ⟨s, present, .inr inBody⟩))
      (marked.body s present)
  have kept : ∀ s ∈ ((templateLayout template w).fill w (regions (ofBytes file))).segments,
      ∃ read, rereadLines s.marker = [read] ∧ regionMark? read = some s.opens := by
    intro s present
    obtain ⟨-, original, inTemplate, opens, marker⟩ := filled s present
    rw [opens, marker]
    exact rereadLines_marker (mem_lines_template_iff.mpr (.inr ⟨original, inTemplate, .inl rfl⟩))
      (marked.marker original inTemplate)
  have markers := Layout.filterMap_mark_lines lead kept fun s present => (filled s present).1
  rw [regionLines_regenerate, List.length_map, regionContents, Layout.length_inside,
    Layout.map_opens_ofLines, closedLines_regenerate, markers, Layout.fill, Segment.map_opens_fillAll,
    bracketed.map_opens, count_true_bracketed]

/-- A segment that stays the same, except that a region may have new lines. -/
structure Segment.Grows (before after : Segment) : Prop where
  opens : after.opens = before.opens
  marker : after.marker = before.marker
  inside : before.opens → before.body.Sublist after.body
  outside : ¬ before.opens → after.body = before.body

instance (before after : Segment) : Decidable (before.Grows after) :=
  decidable_of_iff (after.opens = before.opens ∧ after.marker = before.marker ∧
      (before.opens → before.body.Sublist after.body) ∧ (¬ before.opens → after.body = before.body))
    ⟨fun ⟨opens, marker, inside, outside⟩ => ⟨opens, marker, inside, outside⟩,
      fun ⟨opens, marker, inside, outside⟩ => ⟨opens, marker, inside, outside⟩⟩

/-- A file that became another one as lines, none of them a region marker, were inserted into its
regions. -/
structure InsertedInside (before after : List UInt8) : Prop where
  lead : (Layout.ofLines regionMark? (lines (ofBytes after))).lead =
    (Layout.ofLines regionMark? (lines (ofBytes before))).lead
  segments : List.Forall₂ Segment.Grows
    (Layout.ofLines regionMark? (lines (ofBytes before))).segments
    (Layout.ofLines regionMark? (lines (ofBytes after))).segments

/-- The regions stay the same in number. -/
theorem InsertedInside.length_regionLines {before after : List UInt8}
    (inserted : InsertedInside before after) :
    (regionLines (ofBytes after)).length = (regionLines (ofBytes before)).length := by
  have opens {first second : List Segment} (grows : List.Forall₂ Segment.Grows first second) :
      second.map (·.opens) = first.map (·.opens) := by
    induction grows with
    | nil => rfl
    | cons head _ ih => rw [List.map_cons, List.map_cons, head.opens, ih]
  rw [regionLines_eq, regionLines_eq, List.length_map, List.length_map, Layout.length_inside,
    Layout.length_inside, opens inserted.segments]

/-! ## Generating over a file -/

/-- What is kept of a previous file in the one written over it, for a template with the given number of
regions. -/
structure KeepsRegions (template : String) (w : Wrapper) (regionCount : Nat)
    (file written : List UInt8) : Prop where
  /-- The regions of the previous file are preserved line by line, with a question mark for each byte
  outside ASCII. -/
  found : regionLines (ofBytes file) =
    (Layout.ofLines regionMark? (lines (ofBytes file))).inside.map copied
  /-- Of the first regions, as many as the template has, each that has lines is a region of the new file. -/
  carried : ((((regionLines (ofBytes file)).take regionCount).filter (· ≠ [])).map writtenAgain).Sublist
    (regionContents written)
  /-- Reading the new file gives the regions that stand in it. -/
  reread : regionLines (ofBytes written) =
    (regionContents written).map fun body => copied (body.map chomp)
  /-- The other regions leave no trace. -/
  beyond : written =
    (render template w ((regions (ofBytes file)).take regionCount)).toUTF8.toList
  /-- If the previous file was generated, and only had lines inserted into its regions, then all of its
  regions are carried over. -/
  edited : ∀ (before : Wrapper) (previous : List UInt8), before.language = w.language →
    MarkedOnly template before → InsertedInside (regenerate template before previous) file →
      (((regionLines (ofBytes file)).filter (· ≠ [])).map writtenAgain).Sublist (regionContents written)

/-- Generating over a file keeps of its regions as many as the template has. -/
theorem keepsRegions_of_generate {disk after : Disk} {dest : Path} {table : AssignmentTable}
    (bracketed : WellBracketed w.language.comment template regionCount)
    (read : disk.read dest = .ok file) (success : generate disk template dest w table = .ok after) :
    ∃ written, disk.replace dest written = .ok after ∧
      KeepsRegions template w regionCount file written := by
  have free : table.conflicts = [] := by
    cases found : table.conflicts with
    | nil => rfl
    | cons entry rest =>
      rw [generate, found] at success
      cases success
  rw [generate_eq_replace free read] at success
  have carried := sublist_regionContents bracketed file
  refine ⟨regenerate template w file, except_mapError_eq_ok_iff.mp success, ?_⟩
  refine ⟨regionLines_eq _, carried, regionLines_regenerate template w file, ?beyond, ?edited⟩
  case beyond => rw [render_take bracketed, regenerate]
  case edited =>
    intro before previous language markedOnly inserted
    have count := inserted.length_regionLines.trans
      (length_regionLines_regenerate (language ▸ bracketed) markedOnly previous)
    rwa [List.take_of_length_le count.le] at carried

/-- A template with one region. -/
def slotTemplate : String := "// vvv\nwire a;\n// ^^^\n"

/-- Where its file is. -/
def slotPath : Path := ⟨"slot.sv"⟩

/-- A disk with one file. -/
def slotDisk (file : List UInt8) : Disk where
  nodes := [(["slot.sv"], .file file false)]

/-- The disk with what is written over the file. -/
def slotAfter (file : List UInt8) : Disk :=
  (slotDisk file).put ["slot.sv"] (.file (regenerate slotTemplate adderWrapper file) false)

theorem generate_slot (reached : (slotDisk file).destination slotPath = .ok ["slot.sv"])
    (inert : (slotDisk file).isExecutableAt ["slot.sv"] = false)
    (read : (slotDisk file).read slotPath = .ok file) :
    generate (slotDisk file) slotTemplate slotPath adderWrapper [] = .ok (slotAfter file) := by
  rw [generate_eq_replace rfl read]
  refine except_mapError_eq_ok_iff.mpr (except_map_eq_ok_iff.mpr ⟨_, reached, ?_⟩)
  rw [inert, slotAfter]

/-- The file that is written for the template at first, with a line inserted into its region. -/
def grownFile : List UInt8 :=
  "// vvv\nwire a;\nwire b;\n// ^^^\n".toList.map Char.toUInt8

theorem keepsRegions_grownFile :
    (WellBracketed adderWrapper.language.comment slotTemplate 1 ∧
      (slotDisk grownFile).read slotPath = .ok grownFile ∧
      generate (slotDisk grownFile) slotTemplate slotPath adderWrapper [] =
        .ok (slotAfter grownFile)) ∧
    (MarkedOnly slotTemplate adderWrapper ∧
      InsertedInside (regenerate slotTemplate adderWrapper []) grownFile) ∧
    ∃ written, (slotDisk grownFile).replace slotPath written = .ok (slotAfter grownFile) ∧
      KeepsRegions slotTemplate adderWrapper 1 grownFile written := by
  have bracketed : WellBracketed adderWrapper.language.comment slotTemplate 1 := by decide +kernel
  have read : (slotDisk grownFile).read slotPath = .ok grownFile := by decide +kernel
  have success := generate_slot (by decide +kernel) (by decide +kernel) read
  have inserted : InsertedInside (regenerate slotTemplate adderWrapper []) grownFile := by
    constructor <;> rw [lines_regenerate, closedLines_regenerate] <;> decide +kernel
  exact ⟨⟨bracketed, read, success⟩, ⟨by decide +kernel, inserted⟩,
    keepsRegions_of_generate bracketed read success⟩

/-- A file with a marker in front of the inserted line, and so with one region more than its template. -/
def splitFile : List UInt8 :=
  "// vvv\nwire a;\n// vvv\nwire b;\n// ^^^\n".toList.map Char.toUInt8

/-- The lines of its last region are lost. -/
theorem not_carried_splitFile :
    WellBracketed adderWrapper.language.comment slotTemplate 1 ∧
    generate (slotDisk splitFile) slotTemplate slotPath adderWrapper [] = .ok (slotAfter splitFile) ∧
    ["wire b;"] ∈ regionLines (ofBytes splitFile) ∧
    ∀ body ∈ regionContents (regenerate slotTemplate adderWrapper splitFile),
      "wire b;".toList ∉ body := by
  have read : (slotDisk splitFile).read slotPath = .ok splitFile := by decide +kernel
  refine ⟨by decide +kernel, generate_slot (by decide +kernel) (by decide +kernel) read,
    by decide +kernel, ?_⟩
  rw [regionContents, closedLines_regenerate]
  decide +kernel

end BoardBind
