import BoardBind.Language
import BoardBind.Proofs.Text.Encoding
import BoardBind.Proofs.Text.Lines
import BoardBind.Proofs.Text.Match
import BoardBind.Template.Marker
import Mathlib.Data.List.TakeWhile

/-! # Lines that open and close regions

A template and an existing file are read for region markers in two ways: in a template they start
the line and follow the comment token of its language, in a file they may be indented and follow
either token. What a template has for a marker is one for a file, and no line of a file becomes a
marker by being copied.
-/

namespace BoardBind

open Text

variable {text expected line short : List Char} {keyword comment template : String} {lang : Language}

/-- What a region marker of a file consists of. -/
theorem isRegionMarker_iff : isRegionMarker keyword line ↔
    ∃ indent, (∀ c ∈ indent, isBlank c) ∧ ∃ start ∈ ["-- ", "// "],
      indent ++ (start.toList ++ keyword.toList) <+: line := by
  have starts : isRegionMarker keyword line ↔
      ∃ start ∈ ["-- ", "// "], start.toList ++ keyword.toList <+: trimStart line := by
    simp [isRegionMarker, isSome_literal_iff]
  rw [starts]
  constructor
  · rintro ⟨start, member, rest, same⟩
    refine ⟨line.takeWhile isBlank, fun c => List.mem_takeWhile_imp, start, member, rest, ?_⟩
    rw [List.append_assoc, same]
    exact List.takeWhile_append_dropWhile
  · rintro ⟨indent, blank, start, member, rest, rfl⟩
    refine ⟨start, member, rest, ?_⟩
    rw [trimStart, List.append_assoc indent, List.dropWhile_append_of_pos blank]
    simp only [List.mem_cons, List.not_mem_nil, or_false] at member
    rcases member with rfl | rfl <;> rfl

/-- A line that goes on behind a marker is that marker. -/
theorem isRegionMarker_of_start (starts : short <+: line) (marker : isRegionMarker keyword short) :
    isRegionMarker keyword line := by
  rw [isRegionMarker_iff] at marker ⊢
  obtain ⟨indent, blank, start, member, inside⟩ := marker
  exact ⟨indent, blank, start, member, inside.trans starts⟩

/-- Replacing characters outside ASCII makes no marker. -/
theorem isRegionMarker_of_toAscii (kept : '?' ∉ keyword.toList)
    (marker : isRegionMarker keyword (toAscii line)) : isRegionMarker keyword line := by
  rw [isRegionMarker_iff] at marker ⊢
  obtain ⟨indent, blank, start, member, inside⟩ := marker
  refine ⟨indent, blank, start, member, prefix_of_prefix_toAscii ?_ inside⟩
  rw [List.mem_append, List.mem_append, not_or, not_or]
  have plain : ∀ start ∈ ["-- ", "// "], '?' ∉ start.toList := by decide
  exact ⟨fun indented => absurd (blank _ indented) (by decide), plain start member, kept⟩

/-- Whether a line of a file opens a region or closes one. -/
def regionMark? (line : List Char) : Option Bool :=
  if isRegionMarker "^^^" line then some false
  else if isRegionMarker "vvv" line then some true else none

theorem regionMark?_eq_none_iff : regionMark? line = none ↔
    ¬ (isRegionMarker "vvv" line ∨ isRegionMarker "^^^" line) := by
  unfold regionMark?
  split <;> simp_all

/-- A line that is no marker is still none when it is copied. -/
theorem regionMark?_chomp_toAscii (plain : regionMark? line = none) :
    regionMark? (chomp (toAscii line)) = none := by
  rw [regionMark?_eq_none_iff] at plain ⊢
  refine fun marker => plain (marker.imp ?_ ?_) <;>
    exact fun copied => isRegionMarker_of_toAscii (by decide)
      (isRegionMarker_of_start chomp_prefix_self copied)

/-- Whether a marker of a template opens a region or closes one. -/
def Marker.mark? : Marker → Option Bool
  | .regionBegin => some true
  | .regionEnd => some false
  | _ => none

/-- Whether a line of a template opens a region or closes one. -/
def templateMark? (comment : String) (line : List Char) : Option Bool :=
  (Marker.ofLine? comment line).bind Marker.mark?

/-- The lines of a template that mark regions are the same when it is read as a file. -/
def MarksAlike (comment template : String) : Prop :=
  ∀ line ∈ lines template.toList,
    (isRegionMarker "vvv" line ∨ isRegionMarker "^^^" line) ↔
      (Marker.ofLine? comment line = some .regionBegin ∨
        Marker.ofLine? comment line = some .regionEnd)

instance : Decidable (MarksAlike comment template) :=
  inferInstanceAs (Decidable (∀ line ∈ lines template.toList, _ ↔ _))

/-- The keyword of a marker that concerns regions. -/
theorem Marker.ofLine?_region {marker : Marker} (found : ofLine? comment line = some marker)
    (region : marker = .regionBegin ∨ marker = .regionEnd) :
    ∃ rest, line = comment.toList ++ ' ' ::
      (if marker = .regionBegin then "vvv" else "^^^").toList ++ rest := by
  obtain ⟨text, started, named⟩ := Option.bind_eq_some_iff.mp found
  obtain ⟨⟨keyword, asked⟩, entry, rfl⟩ := Option.map_eq_some_iff.mp named
  have member := List.mem_of_find?_eq_some entry
  have starts := List.find?_some (p := fun (entry : String × Marker) =>
    (literal entry.1.toList text).isSome) entry
  obtain ⟨rest, rfl⟩ := isSome_literal_iff.mp starts
  have same : keyword = if asked = .regionBegin then "vvv" else "^^^" := by
    rcases region with rfl | rfl <;> simpa [keywords] using member
  exact ⟨rest, by simp [literal_eq_some_iff.mp started, same]⟩

theorem regionMark?_of_template {marker : Marker} {opens : Bool}
    (found : Marker.ofLine? lang.comment line = some marker) (marks : marker.mark? = some opens) :
    regionMark? line = some opens := by
  cases marker <;> simp only [Marker.mark?, reduceCtorEq, Option.some_inj] at marks
  all_goals
    subst marks
    obtain ⟨rest, rfl⟩ := Marker.ofLine?_region found (by simp)
    cases lang <;> rfl

/-- Where the two readings agree on which lines mark regions, they agree on how. -/
theorem MarksAlike.regionMark?_eq (alike : MarksAlike lang.comment template)
    (member : line ∈ lines template.toList) :
    regionMark? line = templateMark? lang.comment line := by
  rw [templateMark?]
  cases found : Marker.ofLine? lang.comment line with
  | none =>
    refine regionMark?_eq_none_iff.mpr fun marked => ?_
    rcases (alike line member).mp marked with same | same <;>
      exact absurd (found.symm.trans same) nofun
  | some marker =>
    rw [Option.bind_some]
    cases marks : marker.mark? with
    | some opens => exact regionMark?_of_template found marks
    | none =>
      refine regionMark?_eq_none_iff.mpr fun marked => ?_
      rcases (alike line member).mp marked with same | same
      all_goals
        obtain rfl := Option.some.inj (found.symm.trans same)
        exact absurd marks (by decide)

end BoardBind
