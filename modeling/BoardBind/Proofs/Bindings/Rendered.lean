import BoardBind.Proofs.Bindings.Line
import BoardBind.Proofs.Template.Builtin
import BoardBind.Proofs.Template.Filling

/-! # The bindings of a filled template

A text that is written line by line binds what its parts bind. The template of a wrapper has two
regions without lines of their own, so the bindings of a filled one are those of the lines before the
first region, of the text preserved for it, of the lines between the regions, and of the text
preserved for the second, in this order.
-/

namespace BoardBind

open Text

variable {w : Wrapper} {lang : Language} {kept : List String} {ls first second : List String}
  {text rest piece : List Char}

namespace Text

/-- Lines that are written one after the other are read one after the other. -/
theorem lines_unlines_append (first second : List String) :
    lines (unlines (first ++ second)).toList =
      lines (unlines first).toList ++ lines (unlines second).toList := by
  simp only [toList_unlines, List.flatMap_append]
  induction first with
  | nil => rfl
  | cons line first ih =>
    have closed : ∀ behind, lines (line.toList ++ ['\n'] ++ behind) =
        lines (line.toList ++ ['\n']) ++ lines behind := by
      intro behind
      rw [List.append_assoc, List.singleton_append, lines_append_closed]
    rw [List.flatMap_cons, List.append_assoc, closed, ih, closed, List.append_assoc]

end Text

/-- The bindings on lines that are written one after the other. -/
def writtenBindings (lang : Language) (ls : List String) : List Binding :=
  readBindings lang (unlines ls).toList

@[simp] theorem writtenBindings_append : writtenBindings lang (first ++ second) =
    writtenBindings lang first ++ writtenBindings lang second := by
  simp only [writtenBindings, readBindings, lines_unlines_append, List.filterMap_append]

/-- What single lines bind when they are written. -/
theorem writtenBindings_of_plain (plain : ∀ line ∈ ls, '\n' ∉ line.toList) :
    writtenBindings lang ls = ls.filterMap fun line => lang.binding? line.toList := by
  rw [writtenBindings, readBindings, lines_unlines plain, List.filterMap_map]
  exact List.filterMap_congr fun line _ => Language.binding?_chomp

/-- Lines without an equals sign bind nothing. -/
theorem writtenBindings_of_unsigned (plain : ∀ line ∈ ls, '\n' ∉ line.toList ∧ '=' ∉ line.toList) :
    writtenBindings lang ls = [] := by
  rw [writtenBindings_of_plain fun line member => (plain line member).1, List.filterMap_eq_nil_iff]
  exact fun line member => Language.binding?_of_notMem (plain line member).2

/-- A text that is written again line by line binds the same. -/
theorem writtenBindings_linesOf (text : String) :
    writtenBindings lang (linesOf text) = readBindings lang text.toList := by
  have plain : ∀ line ∈ linesOf text, '\n' ∉ line.toList := by
    intro line member
    obtain ⟨piece, present, rfl⟩ := List.mem_map.mp member
    rw [String.toList_ofList]
    exact newline_notMem_of_mem_lines present
  rw [writtenBindings_of_plain plain, linesOf, List.filterMap_map]
  exact List.filterMap_congr fun line _ => by rw [Function.comp_apply, String.toList_ofList]

/-- What a wrapper writes before the first region. -/
def Wrapper.heading (w : Wrapper) : List String :=
  ((topLayout w.language).lead.flatMap w.expand).map String.ofList

/-- What a wrapper writes between its two regions. -/
def Wrapper.body (w : Wrapper) : List String :=
  ((bodyLines w.language).flatMap w.expand).map String.ofList

theorem expand_of_none (unmarked : Marker.ofLine? w.language.comment piece = none) :
    w.expand piece = [piece] := by
  simp only [Wrapper.expand, unmarked]

theorem expand_of_block {marker : Marker} (found : Marker.ofLine? w.language.comment piece = some marker)
    (block : marker.mark? = none) : w.expand piece = (w.block marker).map String.toList := by
  simp only [Wrapper.expand, found, block, Option.isSome_none, Bool.false_eq_true, if_false]

theorem body_of_vhdl (vhdl : w.language = .vhdl) : w.body = "begin" :: Vhdl.instanceBlock w := by
  have first : w.expand "begin".toList = ["begin".toList] :=
    expand_of_none (by rw [vhdl]; decide)
  have second : w.expand "-- USER_INSTANCE".toList = (Vhdl.instanceBlock w).map String.toList := by
    have marked : Marker.ofLine? w.language.comment "-- USER_INSTANCE".toList =
        some (.unitInstance false) := by
      rw [vhdl]
      decide
    rw [expand_of_block marked rfl]
    simp only [Wrapper.block, vhdl, Vhdl.block]
  simp only [Wrapper.body, vhdl, bodyLines, List.flatMap_cons, first, second, List.flatMap_nil]
  simp [Function.comp_def]

theorem body_of_verilog (verilog : w.language = .verilog) :
    w.body = Verilog.instanceBlock w "usr" true ++ Verilog.assignmentBlock w := by
  have only : w.expand "// USER_INSTANCE_PREFIX".toList =
      (Verilog.instanceBlock w "usr" true ++ Verilog.assignmentBlock w).map String.toList := by
    have marked : Marker.ofLine? w.language.comment "// USER_INSTANCE_PREFIX".toList =
        some (.unitInstance true) := by
      rw [verilog]
      decide
    rw [expand_of_block marked rfl]
    simp only [Wrapper.block, verilog, Verilog.block, if_true]
  simp only [Wrapper.body, verilog, bodyLines, List.flatMap_cons, only, List.flatMap_nil]
  simp [Function.comp_def]

theorem flatMap_expand_closingLines :
    (closingLines w.language).flatMap w.expand = closingLines w.language := by
  have unmarked (lang : Language) :
      ∀ line ∈ closingLines lang, Marker.ofLine? lang.comment line = none := by
    cases lang <;> decide
  have single : ∀ line ∈ closingLines w.language, w.expand line = [line] := fun line member =>
    expand_of_none (unmarked w.language line member)
  rw [List.flatMap_congr single, List.flatMap_singleton']

/-- The lines of a filled template of a wrapper. -/
theorem renderLines_top (w : Wrapper) (kept : List String) :
    renderLines (Builtin.top.text w.language) w kept =
      w.heading ++ [String.ofList (regionLine w.language "vvv" "declarations")] ++
        linesOf (kept[0]?.getD "") ++
      [String.ofList (regionLine w.language "^^^" "declarations")] ++ w.body ++
      [String.ofList (regionLine w.language "vvv" "statements")] ++ linesOf (kept[1]?.getD "") ++
      [String.ofList (regionLine w.language "^^^" "statements")] ++
        (closingLines w.language).map String.ofList := by
  have layout : templateLayout (Builtin.top.text w.language) w = ⟨(topLayout w.language).lead, _⟩ :=
    (congrArg (Layout.ofLines _) (Builtin.top.lines_text w.language)).trans
      (congrArg (Layout.mk _) (topLayout_segments w.language))
  rw [renderLines_eq, layout]
  simp [Layout.fill, Segment.fillAll, Layout.lines, Segment.lines, flatMap_expand_closingLines,
    Wrapper.heading, Wrapper.body, linesOf, List.head?_eq_getElem?]

theorem writtenBindings_regionLine : ∀ keyword ∈ ["vvv", "^^^"],
    ∀ name ∈ ["declarations", "statements"],
      writtenBindings lang [String.ofList (regionLine lang keyword name)] = [] := by
  have plain : ∀ keyword ∈ ["vvv", "^^^"], ∀ name ∈ ["declarations", "statements"],
      '\n' ∉ regionLine lang keyword name ∧ '=' ∉ regionLine lang keyword name := by
    cases lang <;> decide +kernel
  intro keyword first name second
  refine writtenBindings_of_unsigned fun line member => ?_
  rw [List.mem_singleton.mp member, String.toList_ofList]
  exact plain keyword first name second

theorem writtenBindings_closingLines :
    writtenBindings lang ((closingLines lang).map String.ofList) = [] := by
  have plain : ∀ line ∈ closingLines lang, '\n' ∉ line ∧ '=' ∉ line := by
    cases lang <;> decide
  refine writtenBindings_of_unsigned fun text member => ?_
  obtain ⟨line, present, rfl⟩ := List.mem_map.mp member
  rw [String.toList_ofList]
  exact plain line present

/-- The bindings of a filled template of a wrapper. -/
theorem readBindings_render_top (w : Wrapper) (kept : List String) :
    readBindings w.language (render (Builtin.top.text w.language) w kept).toList =
      writtenBindings w.language w.heading ++ readBindings w.language (kept[0]?.getD "").toList ++
        writtenBindings w.language w.body ++ readBindings w.language (kept[1]?.getD "").toList := by
  have marks {keyword name : String} (first : keyword ∈ ["vvv", "^^^"])
      (second : name ∈ ["declarations", "statements"]) :
      writtenBindings w.language [String.ofList (regionLine w.language keyword name)] = [] :=
    writtenBindings_regionLine keyword first name second
  change writtenBindings w.language (renderLines _ w kept) = _
  rw [renderLines_top]
  simp only [writtenBindings_append, writtenBindings_linesOf, writtenBindings_closingLines]
  rw [marks, marks, marks, marks] <;> simp

end BoardBind
