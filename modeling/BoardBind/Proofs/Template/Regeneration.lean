import BoardBind.Generate
import BoardBind.Proofs.Template.ReadBack

/-! # Generating a file again

What a generated file preserves for its next generation is what it was generated from, or the
lines that the template has in that place. Filling the template with either gives the same file.
-/

namespace BoardBind

open Text

variable {w : Wrapper} {template : String} {kept : List String} {file : List UInt8}

/-- What was written for a region is written again in its place: lines of the template are left
out again, because a text that was put in their place is not empty. -/
private theorem refill {first second : Bool} (carried : first → second) {own : List (List Char)}
    {text : String} {body : List (List Char)}
    (written : lines text.toList ++ (if first || text ≠ "" then [] else own) = body)
    (settled : ∀ line ∈ body, Settled line) :
    lines (unlines (body.map String.ofList)).toList ++
        (if second || unlines (body.map String.ofList) ≠ "" then [] else own) = body ∧
      ((first || text ≠ "") → (second || unlines (body.map String.ofList) ≠ "")) := by
  have empty : unlines (body.map String.ofList) = "" ↔ body = [] := by
    rw [unlines_eq_empty_iff, List.map_eq_nil_iff]
  have unpreserved : text = "" ↔ lines text.toList = [] := by
    rw [lines_eq_nil_iff, String.toList_eq_nil_iff]
  have keeps : (first || text ≠ "") → (second || unlines (body.map String.ofList) ≠ "") := by
    intro left
    rw [Bool.or_eq_true, decide_eq_true_eq] at left ⊢
    rcases left with before | preserved
    · exact .inl (carried before)
    · refine .inr fun vanished => preserved (unpreserved.mpr ?_)
      exact (List.append_eq_nil_iff.mp (written.trans (empty.mp vanished))).1
  refine ⟨?_, keeps⟩
  rw [lines_unlines_of_settled settled]
  by_cases left : (first || text ≠ "") = true
  · rw [if_pos (keeps left), List.append_nil]
  · rw [if_neg left] at written
    split
    · exact List.append_nil body
    · next open_ =>
      rw [Bool.or_eq_true, decide_eq_true_eq, not_or, not_not, empty] at open_
      rw [open_.2] at written ⊢
      exact (List.append_eq_nil_iff.mp written).2

/-- Filling segments once more, from the regions of what was written, changes nothing. -/
theorem Segment.fillAll_again {first second : Bool} (carried : first → second)
    (lead : List (List Char)) (segments : List Segment)
    (settled : ∀ s ∈ fillAll w kept first segments, ∀ line ∈ s.body, Settled line) :
    fillAll w ((Layout.mk lead (fillAll w kept first segments)).inside.map fun body =>
      unlines (body.map String.ofList)) second segments = fillAll w kept first segments := by
  induction segments generalizing kept first second with
  | nil => rfl
  | cons s rest ih =>
    cases opens : s.opens with
    | false =>
      simp only [fillAll, opens, Bool.false_eq_true, if_false, List.forall_mem_cons] at settled ⊢
      exact congrArg _ (ih id settled.2)
    | true =>
      simp only [fillAll, opens, if_true, List.forall_mem_cons] at settled ⊢
      obtain ⟨same, keeps⟩ := refill carried rfl settled.1
      exact congrArg₂ List.cons (congrArg (Segment.mk true s.marker) same) (ih keeps settled.2)

namespace Fillable

/-- A template that is filled with the regions of what it was filled to stays the same. -/
theorem render_again (fillable : Fillable template w) (preservable : Preservable kept) :
    render template w (regions (render template w kept).toList) = render template w kept := by
  obtain ⟨settled, -⟩ := fillable.settled_and_marked preservable
  have bodies : ∀ s ∈ ((templateLayout template w).fill w kept).segments, ∀ line ∈ s.body,
      Settled line := fun s present line inBody =>
    settled line (Layout.mem_lines_iff.mpr (.inr ⟨s, present, .inr inBody⟩))
  have same : (templateLayout template w).fill w (regions (render template w kept).toList) =
      (templateLayout template w).fill w kept := by
    rw [fillable.regions_render preservable, Layout.fill, Layout.fill,
      Segment.fillAll_again id _ _ bodies]
  rw [render, renderLines_eq, same, ← renderLines_eq, ← render]

end Fillable

/-- The bytes that are generated over a file with the given bytes. -/
def regenerate (template : String) (w : Wrapper) (file : List UInt8) : List UInt8 :=
  (render template w (regions (ofBytes file))).toUTF8.toList

/-- What generating over an existing file writes. -/
theorem generate_eq_replace {disk : Disk} {dest : Path} {table : AssignmentTable}
    (free : table.conflicts = []) (read : disk.read dest = .ok file) :
    generate disk template dest w table =
      (disk.replace dest (regenerate template w file)).mapError (.unwritable dest) := by
  have present : disk.hasEntry dest := by
    unfold Disk.hasEntry
    unfold Disk.read at read
    split at read
    all_goals simp_all [Except.isOk, Except.toBool]
  have preserved : preservedRegions disk dest = .ok (regions (ofBytes file)) := by
    rw [preservedRegions, if_pos present, read]
  simp only [generate, free, preserved, bind, Except.bind, writeText, regenerate]

/-- Generating a file twice gives the bytes of generating it once. -/
theorem regenerate_regenerate (fillable : Fillable template w) (single : ¬ [13, 13] <:+: file) :
    regenerate template w (regenerate template w file) = regenerate template w file := by
  have separate : ¬ ['\r', '\r'] <:+: ofBytes file := by
    intro doubled
    obtain ⟨bytes, inFile, same⟩ := List.infix_map_iff.mp doubled
    have returns : ['\r', '\r'] = [13, 13].map fun b : UInt8 => Char.ofNat b.toNat := by decide
    rw [returns, (List.map_injective_iff.mpr ofNat_toNat_injective).eq_iff] at same
    exact single (same ▸ inFile)
  have preservable := preservable_regions separate
  rw [regenerate, regenerate, ofBytes_toUTF8 (fillable.isAscii_render preservable),
    fillable.render_again preservable]

/-- A template that closes neither of its regions, so that lines left out in the first of them are
left out in the second as well. -/
def openTemplate : String := "// vvv head\nlocalparam n = 1;\n// vvv body\n// USER_UUT\n"

/-- A file with more regions than that, a marker inside of a region and a byte outside ASCII. -/
def crowdedFile : List UInt8 :=
  "  -- vvv\n// caf\u00e9\r\n// vvv\n-- ^^^\n// vvv\nwire a;".toList.map Char.toUInt8

theorem regenerate_crowdedFile :
    (Fillable openTemplate adderWrapper ∧ ¬ [13, 13] <:+: crowdedFile) ∧
      regenerate openTemplate adderWrapper (regenerate openTemplate adderWrapper crowdedFile) =
        regenerate openTemplate adderWrapper crowdedFile := by
  have fillable : Fillable openTemplate adderWrapper :=
    fillable_adderWrapper (by decide +kernel) (by decide +kernel) (by decide +kernel)
  have single : ¬ [13, 13] <:+: crowdedFile := by decide +kernel
  exact ⟨⟨fillable, single⟩, regenerate_regenerate fillable single⟩

end BoardBind
