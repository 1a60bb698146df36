import BoardBind.Proofs.Template.Layout
import BoardBind.Proofs.Text.Encoding
import BoardBind.Template.Builtin

/-! # The built-in templates

The lines of a built-in template are ASCII without line ends, and its region markers are found alike
by both readers. That of a wrapper has one region for declarations and one for statements, both of
them without lines of their own, and binds nothing itself.
-/

namespace BoardBind

open Text

/-- What every line of a built-in template meets. -/
structure PlainLine (comment : String) (line : List Char) : Prop where
  ascii : IsAscii line
  newlineFree : '\n' ∉ line
  returnFree : '\r' ∉ line
  alike : (isRegionMarker "vvv" line ∨ isRegionMarker "^^^" line) ↔
    (Marker.ofLine? comment line = some .regionBegin ∨ Marker.ofLine? comment line = some .regionEnd)

instance (comment : String) (line : List Char) : Decidable (PlainLine comment line) :=
  decidable_of_iff (IsAscii line ∧ '\n' ∉ line ∧ '\r' ∉ line ∧
    ((isRegionMarker "vvv" line ∨ isRegionMarker "^^^" line) ↔
      (Marker.ofLine? comment line = some .regionBegin ∨
        Marker.ofLine? comment line = some .regionEnd)))
    ⟨fun ⟨ascii, newlineFree, returnFree, alike⟩ => ⟨ascii, newlineFree, returnFree, alike⟩,
      fun ⟨ascii, newlineFree, returnFree, alike⟩ => ⟨ascii, newlineFree, returnFree, alike⟩⟩

namespace Builtin

variable {kind : Builtin} {lang : Language}

/-- The lines of a built-in template as texts. -/
def charLines (kind : Builtin) (lang : Language) : List (List Char) :=
  (kind.templateLines lang).map String.toList

-- The kernel decodes a string literal slowly, so its characters are put in its place first.
theorem plain_charLines (kind : Builtin) (lang : Language) :
    ∀ line ∈ kind.charLines lang, PlainLine lang.comment line := by
  cases kind <;> cases lang <;> simp only [charLines, templateLines, List.map_cons, List.map_nil] <;>
    (repeat rw [String.toList_ofList]) <;> decide +kernel

theorem lines_text (kind : Builtin) (lang : Language) :
    lines (kind.text lang).toList = kind.charLines lang := by
  have plain : ∀ line ∈ kind.templateLines lang, PlainLine lang.comment line.toList :=
    fun line member => kind.plain_charLines lang line.toList (List.mem_map_of_mem member)
  have whole : ∀ line ∈ kind.templateLines lang, IsWhole line := fun line member =>
    ⟨(plain line member).newlineFree,
      fun last => (plain line member).returnFree (List.mem_of_getLast? last)⟩
  rw [text, lines_unlines_of_whole whole, charLines]

theorem of_mem_text {c : Char} (member : c ∈ (kind.text lang).toList) :
    c = '\n' ∨ ∃ line ∈ kind.charLines lang, c ∈ line := by
  rw [text, toList_unlines] at member
  obtain ⟨line, present, inLine⟩ := List.mem_flatMap.mp member
  rcases List.mem_append.mp inLine with inside | ending
  · exact .inr ⟨line.toList, List.mem_map_of_mem present, inside⟩
  · exact .inl (List.mem_singleton.mp ending)

theorem isAscii_text (kind : Builtin) (lang : Language) : IsAscii (kind.text lang).toList := by
  intro c member
  rcases of_mem_text member with rfl | ⟨line, present, inside⟩
  · decide
  · exact (kind.plain_charLines lang line present).ascii c inside

theorem return_notMem_text (kind : Builtin) (lang : Language) : '\r' ∉ (kind.text lang).toList := by
  intro member
  rcases of_mem_text member with ending | ⟨line, present, inside⟩
  · exact absurd ending (by decide)
  · exact (kind.plain_charLines lang line present).returnFree inside

theorem marksAlike_text (kind : Builtin) (lang : Language) :
    MarksAlike lang.comment (kind.text lang) := by
  intro line member
  rw [lines_text] at member
  exact (kind.plain_charLines lang line member).alike

end Builtin

/-- The layout of the wrapper's template. -/
def topLayout (lang : Language) : Layout :=
  .ofLines (templateMark? lang.comment) (Builtin.top.charLines lang)

/-- The lines of the wrapper's template between its two regions. -/
def bodyLines : Language → List (List Char)
  | .vhdl => ["begin".toList, "-- USER_INSTANCE".toList]
  | .verilog => ["// USER_INSTANCE_PREFIX".toList]

/-- The lines of the wrapper's template behind its regions. -/
def closingLines : Language → List (List Char)
  | .vhdl => ["end rtl;".toList]
  | .verilog => ["endmodule".toList]

/-- A line that marks a region of the wrapper's template. -/
def regionLine (lang : Language) (keyword name : String) : List Char :=
  (lang.comment ++ " " ++ keyword ++ " user " ++ name ++ " " ++ keyword).toList

/-- The wrapper's template has a region for declarations and one for statements. -/
theorem topLayout_segments (lang : Language) : (topLayout lang).segments =
    [⟨true, regionLine lang "vvv" "declarations", []⟩,
     ⟨false, regionLine lang "^^^" "declarations", bodyLines lang⟩,
     ⟨true, regionLine lang "vvv" "statements", []⟩,
     ⟨false, regionLine lang "^^^" "statements", closingLines lang⟩] := by
  cases lang <;> simp only [topLayout, Builtin.charLines, Builtin.templateLines, List.map_cons,
      List.map_nil, regionLine, bodyLines, closingLines, Language.comment, String.toList_append] <;>
    (repeat rw [String.toList_ofList]) <;> decide +kernel

/-- The lines before the regions bind nothing and ask for declarations only. -/
theorem topLayout_lead (lang : Language) : ∀ line ∈ (topLayout lang).lead,
    ('\n' ∉ line ∧ '=' ∉ line) ∧
      ∀ marker ∈ Marker.ofLine? lang.comment line, marker ∈ [.component, .signal true, .board] := by
  cases lang <;> simp only [topLayout, Builtin.charLines, Builtin.templateLines, List.map_cons,
      List.map_nil] <;>
    (repeat rw [String.toList_ofList]) <;> decide +kernel

end BoardBind
