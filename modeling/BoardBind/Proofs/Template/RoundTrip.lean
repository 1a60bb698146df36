import BoardBind.Proofs.Template.ReadBack

/-! # The regions of a file over its next generation

If the regions of a template are closed one by one, then each of them is filled from the region of
the same number in the previous file, or keeps its own lines. Reading the new file gives these
regions again, and the lines around them depend on the template and the wrapper only.
-/

namespace BoardBind

open Text

variable {w : Wrapper} {template : String} {text : List Char} {kept : List String}
  {file : List UInt8} {segments : List Segment} {regionCount : Nat}

/-- The lines of a template that mark regions open and close the given number of them in turn. -/
def WellBracketed (comment template : String) (regionCount : Nat) : Prop :=
  (lines template.toList).filterMap (templateMark? comment) =
    (List.replicate regionCount [true, false]).flatten

instance {comment template : String} : Decidable (WellBracketed comment template regionCount) :=
  inferInstanceAs (Decidable (_ = _))

/-- The text of every region of a template for which nothing was preserved. -/
def defaultRegions (template : String) (w : Wrapper) : List String :=
  (templateLayout template w).inside.map fun body =>
    unlines ((body.flatMap w.expand).map String.ofList)

/-- The lines of a text that are not inside of a region. -/
def outsideLines (text : List Char) : List (List Char) :=
  (Layout.ofLines regionMark? (lines text)).outside

/-- What becomes of the regions of a file when its template is filled with them. -/
structure CarriesOver (template : String) (w : Wrapper) (regionCount : Nat)
    (file : List UInt8) : Prop where
  /-- The regions are preserved line by line, with a question mark for each byte outside ASCII. -/
  transcribed : regions (ofBytes file) =
    (Layout.ofLines regionMark? (lines (ofBytes file))).inside.map fun body =>
      unlines (body.map fun line => String.ofList (toAscii line))
  /-- The new file has as many regions as the template. -/
  count : (regions (render template w (regions (ofBytes file))).toList).length = regionCount
  /-- A region with text is the region of the same number in the new file. -/
  kept : ∀ i < regionCount, ∀ text, (regions (ofBytes file))[i]? = some text → text ≠ "" →
    (regions (render template w (regions (ofBytes file))).toList)[i]? = some text
  /-- Where there is no such region, the new file has what the template has there. -/
  restored : ∀ i < regionCount, (∀ text, (regions (ofBytes file))[i]? = some text → text = "") →
    (regions (render template w (regions (ofBytes file))).toList)[i]? =
      (defaultRegions template w)[i]?
  /-- The lines around the regions are those of the template. -/
  surrounded : outsideLines (render template w (regions (ofBytes file))).toList =
    (templateLayout template w).outside.flatMap w.expand

theorem Layout.map_opens_ofLines {mark : List Char → Option Bool} (ls : List (List Char)) :
    (ofLines mark ls).segments.map (·.opens) = ls.filterMap mark := by
  induction ls with
  | nil => rfl
  | cons line rest ih =>
    cases marks : mark line with
    | some opens => rw [ofLines_cons_marker marks, List.filterMap_cons_some marks, ← ih]; rfl
    | none => rw [ofLines_cons_plain marks, List.filterMap_cons_none marks, ← ih]

theorem expand_marker {line : List Char} {opens : Bool}
    (marks : templateMark? w.language.comment line = some opens) : w.expand line = [line] := by
  obtain ⟨marker, found, region⟩ := Option.bind_eq_some_iff.mp marks
  simp [Wrapper.expand, found, region]

/-- A template for which nothing was preserved is filled line by line. -/
theorem renderLines_nil (template : String) (w : Wrapper) :
    renderLines template w [] = ((lines template.toList).flatMap w.expand).map String.ofList := by
  have run (ls : List (List Char)) (r : Rendering) (shown : r.suppressed = false) :
      (ls.foldl (Rendering.step w []) r).output =
        r.output ++ (ls.flatMap w.expand).map String.ofList := by
    induction ls generalizing r with
    | nil => rw [List.foldl_nil, List.flatMap_nil, List.map_nil, List.append_nil]
    | cons line rest ih =>
      rw [List.foldl_cons, Rendering.step_eq]
      cases marks : templateMark? w.language.comment line with
      | none => rw [shown, if_neg Bool.false_ne_true, ih _ rfl]; simp
      | some opens =>
        have itself := expand_marker marks
        cases opens
        · rw [ih _ rfl]; simp [itself]
        · rw [ih _ (by simp [shown])]; simp [itself, linesOf, lines_nil]
  exact (run (lines template.toList) {} rfl).trans (List.nil_append _)

namespace Segment

theorem map_opens_fillAll (suppressed : Bool) (segments : List Segment) :
    (fillAll w kept suppressed segments).map (·.opens) = segments.map (·.opens) := by
  induction segments generalizing kept suppressed with
  | nil => rfl
  | cons s rest ih =>
    unfold fillAll
    split <;> rw [List.map_cons, List.map_cons, ih]

/-- Filling replaces the lines outside of regions without regard to what was preserved. -/
theorem outside_fillAll (suppressed : Bool)
    (markers : ∀ s ∈ segments, w.expand s.marker = [s.marker]) :
    (fillAll w kept suppressed segments).flatMap outside =
      (segments.flatMap outside).flatMap w.expand := by
  induction segments generalizing kept suppressed with
  | nil => rfl
  | cons s rest ih =>
    rw [List.forall_mem_cons] at markers
    unfold fillAll
    cases opens : s.opens <;>
      simp [opens, outside, markers.1, ih _ markers.2]

/-- If regions are closed one by one, then lines of the template are left out in none of them but
those with a preserved text. -/
theorem inside_fillAll (lead : List (List Char))
    (bracketed : segments.map (·.opens) = (List.replicate regionCount [true, false]).flatten)
    {i : Nat} (bound : i < regionCount) :
    (Layout.mk lead (fillAll w kept false segments)).inside[i]? =
      (Layout.mk lead segments).inside[i]?.map fun body =>
        if kept[i]?.getD "" = "" then body.flatMap w.expand
        else Text.lines (kept[i]?.getD "").toList := by
  induction regionCount generalizing segments kept i with
  | zero => exact absurd bound (Nat.not_lt_zero i)
  | succ count ih =>
    rw [List.replicate_succ, List.flatten_cons, List.cons_append, List.singleton_append] at bracketed
    obtain ⟨first, others, rfl, opening, bracketed⟩ := List.map_eq_cons_iff.mp bracketed
    obtain ⟨second, rest, rfl, closing, bracketed⟩ := List.map_eq_cons_iff.mp bracketed
    have split (s : Segment) (rest : List Segment) : (Layout.mk lead (s :: rest)).inside =
        (if s.opens then [s.body] else []) ++ (Layout.mk lead rest).inside := by
      cases opens : s.opens <;> simp [Layout.inside, opens]
    simp only [fillAll, opening, closing, split, if_true, Bool.false_eq_true, if_false,
      List.nil_append, List.singleton_append]
    cases i with
    | zero =>
      by_cases empty : kept.headD "" = "" <;>
        simp_all [List.headD_eq_head?_getD, List.head?_eq_getElem?, lines_nil]
    | succ i =>
      rw [List.getElem?_cons_succ, List.getElem?_cons_succ,
        ih bracketed (Nat.lt_of_succ_lt_succ bound), List.getElem?_tail]

end Segment

theorem outside_fill {l : Layout} (marked : l.Marked (templateMark? w.language.comment)) :
    (l.fill w kept).outside = l.outside.flatMap w.expand := by
  have markers : ∀ s ∈ l.segments, w.expand s.marker = [s.marker] := fun s present =>
    expand_marker (marked.marker s present)
  rw [Layout.outside, Layout.fill, Segment.outside_fillAll false markers, Layout.outside,
    List.flatMap_append]

theorem count_true_bracketed (regionCount : Nat) :
    (List.replicate regionCount [true, false]).flatten.count true = regionCount := by
  induction regionCount with
  | zero => rfl
  | succ count ih =>
    rw [List.replicate_succ, List.flatten_cons, List.count_append, ih]
    exact Nat.add_comm 1 count

theorem WellBracketed.map_opens
    (bracketed : WellBracketed w.language.comment template regionCount) :
    (templateLayout template w).segments.map (·.opens) =
      (List.replicate regionCount [true, false]).flatten :=
  (Layout.map_opens_ofLines (lines template.toList)).trans bracketed

theorem WellBracketed.length_inside
    (bracketed : WellBracketed w.language.comment template regionCount) :
    (templateLayout template w).inside.length = regionCount := by
  rw [Layout.length_inside, bracketed.map_opens, count_true_bracketed]

/-- A preserved text is the same after it was put into a file, if carriage returns stand before
newlines only. -/
theorem unlines_linesOf_of_mem_regions
    (paired : ∀ i, text[i]? = some '\r' → text[i + 1]? = some '\n')
    {preserved : String} (member : preserved ∈ regions text) :
    unlines ((lines preserved.toList).map String.ofList) = preserved := by
  obtain ⟨body, origin, written, read⟩ := exists_body_of_mem_regions member
  have same : ∀ line ∈ body, chomp (toAscii line) = toAscii line := fun line inBody =>
    chomp_eq_self (getLast?_toAscii_ne (getLast?_ne_of_mem_lines paired (origin line inBody).1))
  rw [read, List.map_congr_left same, List.map_map, written]
  rfl

theorem not_infix_of_paired (paired : ∀ i, text[i]? = some '\r' → text[i + 1]? = some '\n') :
    ¬ ['\r', '\r'] <:+: text := by
  rintro ⟨before, after, rfl⟩
  have next := paired before.length
  simp at next

/-- Where carriage returns stand before newlines in a file, they do so in its text. -/
theorem paired_ofBytes
    (paired : ∀ i, file[i]? = some (13 : UInt8) → file[i + 1]? = some (10 : UInt8)) (i : Nat)
    (returned : (ofBytes file)[i]? = some '\r') : (ofBytes file)[i + 1]? = some '\n' := by
  rw [ofBytes, List.getElem?_map] at returned ⊢
  obtain ⟨b, found, same⟩ := Option.map_eq_some_iff.mp returned
  obtain rfl : b = 13 := ofNat_toNat_injective same
  rw [paired i found]
  rfl

/-- What a region of a filled template holds: the text preserved for it, or its own lines. -/
theorem Fillable.getElem?_regions_render (fillable : Fillable template w)
    (bracketed : WellBracketed w.language.comment template regionCount)
    (preservable : Preservable kept) {i : Nat} (bound : i < regionCount) :
    (regions (render template w kept).toList)[i]? =
      (templateLayout template w).inside[i]?.map fun body => unlines
        ((if kept[i]?.getD "" = "" then body.flatMap w.expand
          else lines (kept[i]?.getD "").toList).map String.ofList) := by
  rw [fillable.regions_render preservable, List.getElem?_map, Layout.fill,
    Segment.inside_fillAll _ bracketed.map_opens bound, Option.map_map]
  rfl

/-- The round trip of the regions of a file through its template. -/
theorem carriesOver_of_wellBracketed (fillable : Fillable template w)
    (bracketed : WellBracketed w.language.comment template regionCount)
    (paired : ∀ i, file[i]? = some (13 : UInt8) → file[i + 1]? = some (10 : UInt8)) :
    CarriesOver template w regionCount file := by
  have pairedText := paired_ofBytes paired
  have preservable := preservable_regions (not_infix_of_paired pairedText)
  refine ⟨?transcribed, ?count, ?kept, ?restored, ?surrounded⟩
  case transcribed =>
    rw [regions, regionLines_eq, List.map_map]
    rfl
  case count =>
    rw [fillable.regions_render preservable, List.length_map, Layout.length_inside, Layout.fill,
      Segment.map_opens_fillAll, bracketed.map_opens, count_true_bracketed]
  case kept =>
    intro i bound preserved found nonempty
    have inTemplate : i < (templateLayout template w).inside.length :=
      bracketed.length_inside ▸ bound
    rw [fillable.getElem?_regions_render bracketed preservable bound,
      List.getElem?_eq_getElem inTemplate, found, Option.getD_some, Option.map_some,
      if_neg nonempty, unlines_linesOf_of_mem_regions pairedText (List.mem_of_getElem? found)]
  case restored =>
    intro i bound missing
    have empty : (regions (ofBytes file))[i]?.getD "" = "" := by
      cases found : (regions (ofBytes file))[i]? with
      | none => rfl
      | some preserved => exact missing preserved found
    rw [fillable.getElem?_regions_render bracketed preservable bound, empty, defaultRegions,
      List.getElem?_map]
    simp only [if_true]
  case surrounded =>
    rw [outsideLines, fillable.layout_render preservable, outside_fill marked_templateLayout]

/-- A template with two regions, one of them around a block. -/
def benchTemplate : String :=
  "// vvv head\nlocalparam n = 1;\n// ^^^\nmodule bench;\n// vvv body\n// USER_UUT\n// ^^^\nendmodule\n"

/-- A file that has a text for the first of them only. -/
def editedFile : List UInt8 :=
  "module old;\r\n  -- vvv\r\n// caf\u00e9\r\n-- ^^^\r\nendmodule".toList.map Char.toUInt8

private theorem paired_editedFile (i : Nat) (returned : editedFile[i]? = some (13 : UInt8)) :
    editedFile[i + 1]? = some (10 : UInt8) := by
  have inFile : ∀ i < editedFile.length,
      editedFile[i]? = some (13 : UInt8) → editedFile[i + 1]? = some (10 : UInt8) := by
    decide +kernel
  exact inFile i (List.getElem?_eq_some_iff.mp returned).1 returned

theorem carriesOver_editedFile :
    (Fillable benchTemplate adderWrapper ∧
        WellBracketed adderWrapper.language.comment benchTemplate 2 ∧
        ∀ i, editedFile[i]? = some (13 : UInt8) → editedFile[i + 1]? = some (10 : UInt8)) ∧
      CarriesOver benchTemplate adderWrapper 2 editedFile := by
  have fillable : Fillable benchTemplate adderWrapper :=
    fillable_adderWrapper (by decide +kernel) (by decide +kernel) (by decide +kernel)
  have bracketed : WellBracketed adderWrapper.language.comment benchTemplate 2 := by
    rw [WellBracketed, benchTemplate, String.toList_ofList]
    decide +kernel
  exact ⟨⟨fillable, bracketed, paired_editedFile⟩,
    carriesOver_of_wellBracketed fillable bracketed paired_editedFile⟩

end BoardBind
