import BoardBind.Host.Disk
import Mathlib

/-! # The directory of a path

A path that ends in a name goes through the names of its directory and then on to that name, and both
start at the same place.
-/

namespace BoardBind

variable {path : Path} {first name : String} {names inner : List String}

namespace Path

theorem notMem_splitOn (separator : Char) (text : List Char) :
    ∀ piece ∈ text.splitOn separator, separator ∉ piece := by
  induction text with
  | nil => simp
  | cons c text ih =>
    rw [List.splitOn_cons_eq_if_modifyHead]
    split
    · exact List.forall_mem_cons.mpr ⟨List.not_mem_nil, ih⟩
    · next other =>
      cases pieces : text.splitOn separator with
      | nil => exact absurd pieces (List.splitOn_ne_nil _ _)
      | cons piece rest =>
        rw [pieces, List.forall_mem_cons] at ih
        refine List.forall_mem_cons.mpr ⟨?_, ih.2⟩
        intro member
        rcases List.mem_cons.mp member with rfl | inPiece
        · exact other (beq_self_eq_true _)
        · exact ih.1 inPiece

theorem slash_notMem_segments (path : Path) : ∀ name ∈ path.segments, '/' ∉ name.toList := by
  intro name member
  obtain ⟨piece, present, rfl⟩ := List.mem_map.mp member
  rw [String.toList_ofList]
  exact notMem_splitOn '/' path.text.toList piece present

/-- A path is its segments with slashes between them. -/
theorem text_eq_intercalate (path : Path) : path.text = "/".intercalate path.segments := by
  have pieces : path.segments.map String.toList = path.text.toList.splitOn '/' := by
    simp [segments, Function.comp_def]
  have same : ("/".intercalate path.segments).toList = path.text.toList := by
    rw [String.toList_intercalate, pieces]
    exact List.intercalate_splitOn '/'
  exact (String.toList_inj.mp same).symm

theorem segments_intercalate (nonempty : names ≠ []) (plain : ∀ name ∈ names, '/' ∉ name.toList) :
    segments ⟨"/".intercalate names⟩ = names := by
  have pieces : ("/".intercalate names).toList.splitOn '/' = names.map String.toList := by
    rw [String.toList_intercalate]
    refine List.splitOn_intercalate '/' (fun piece member => ?_) (by simpa using nonempty)
    obtain ⟨name, present, rfl⟩ := List.mem_map.mp member
    exact plain name present
  rw [segments, pieces, List.map_map]
  simp [Function.comp_def]

/-- A path is absolute if nothing stands before its first slash. -/
theorem isAbsolute_eq (cut : path.segments = first :: inner) :
    path.isAbsolute = (first = "" && inner ≠ []) := by
  have plain : '/' ∉ first.toList := path.slash_notMem_segments first (cut ▸ List.mem_cons_self)
  have front : first.toList.head? ≠ some '/' := fun head => plain (List.mem_of_head? head)
  have written := path.text_eq_intercalate
  rw [cut] at written
  cases inner with
  | nil => simp [isAbsolute, written, front]
  | cons next rest =>
    by_cases empty : first = ""
    · simp [isAbsolute, written, empty]
    · obtain ⟨c, others, letters⟩ := List.exists_cons_of_ne_nil
        (fun none_ => empty (String.toList_eq_nil_iff.mp none_) : first.toList ≠ [])
      simp_all [isAbsolute]

theorem parts_eq_filter (path : Path) : path.parts = path.segments.filter fun name => !isIdle name := by
  refine List.filter_congr fun name _ => ?_
  simp [isIdle]

/-- The segments of a path above the one it ends in, without those at their end that stay in place. -/
theorem parent?_eq (cut : path.segments = first :: inner ++ [name]) (named : isIdle name = false) :
    path.parent? = some ⟨if inner.rdropWhile isIdle = [] then if first = "" then "/" else first
      else "/".intercalate (first :: inner.rdropWhile isIdle)⟩ := by
  have behind : ((inner ++ [name]).reverse.dropWhile isIdle) = name :: inner.reverse := by
    rw [List.reverse_append, List.reverse_singleton, List.singleton_append,
      List.dropWhile_cons_of_neg (by simp [named])]
  rw [parent?, cut]
  simp only [List.cons_append, behind]
  have above : (inner.reverse.dropWhile isIdle).reverse = inner.rdropWhile isIdle := rfl
  rw [above]
  cases inner.rdropWhile isIdle <;> simp

/-- Segments at the end that stay in place are no parts. -/
theorem filter_rdropWhile (names : List String) :
    (names.rdropWhile isIdle).filter (fun name => !isIdle name) =
      names.filter fun name => !isIdle name := by
  have idle : (names.rtakeWhile isIdle).filter (fun name => !isIdle name) = [] := by
    rw [List.filter_eq_nil_iff]
    intro name member
    simp [List.mem_rtakeWhile_imp member]
  conv_rhs => rw [← List.rdropWhile_append_rtakeWhile (p := isIdle) (l := names)]
  rw [List.filter_append, idle, List.append_nil]

theorem isAbsolute_of_plain (plain : '/' ∉ name.toList) : isAbsolute ⟨name⟩ = false := by
  have head : name.toList.head? ≠ some '/' := fun head => plain (List.mem_of_head? head)
  simp [isAbsolute, head]

section Join

variable {directory : Path} (nonempty : directory.text ≠ "") (plain : '/' ∉ name.toList)

include nonempty plain

/-- A name in a directory stands behind a slash, with which the directory may end already. -/
theorem segments_join : ∃ above, (directory.join ⟨name⟩).segments = above ++ [name] ∧
    (directory.segments = above ∨ directory.segments = above ++ [""]) := by
  have single : name.toList.splitOn '/' = [name.toList] :=
    List.splitOnP_eq_singleton fun c member => beq_eq_false_iff_ne.mpr fun same =>
      plain (same ▸ member)
  have cut (front back : List Char) :
      (front ++ '/' :: back).splitOn '/' = front.splitOn '/' ++ back.splitOn '/' :=
    List.splitOnP_append_cons front back rfl
  by_cases slashed : directory.text.toList.getLast? = some '/'
  · obtain ⟨front, written⟩ := List.getLast?_eq_some_iff.mp slashed
    have joined : (directory.join ⟨name⟩).text.toList = front ++ '/' :: name.toList := by
      simp [join, isAbsolute_of_plain plain, nonempty, written]
    refine ⟨(front.splitOn '/').map String.ofList, ?_, .inr ?_⟩
    · rw [segments, joined, cut, single, List.map_append, List.map_singleton, String.ofList_toList]
    · rw [segments, written, cut, List.map_append]
      rfl
  · have joined : (directory.join ⟨name⟩).text.toList = directory.text.toList ++ '/' :: name.toList := by
      simp [join, isAbsolute_of_plain plain, nonempty, slashed]
    refine ⟨directory.segments, ?_, .inl rfl⟩
    rw [segments, joined, cut, single, List.map_append, List.map_singleton, String.ofList_toList,
      segments]

theorem parts_join (named : isIdle name = false) :
    (directory.join ⟨name⟩).parts = directory.parts ++ [name] := by
  obtain ⟨above, joined, own⟩ := segments_join nonempty plain
  have parts : directory.parts = above.filter fun name => !isIdle name := by
    rw [parts_eq_filter]
    rcases own with own | own <;> simp [own, isIdle]
  rw [parts, parts_eq_filter, joined, List.filter_append, List.filter_cons_of_pos (by simp [named]),
    List.filter_nil]

theorem isAbsolute_join : (directory.join ⟨name⟩).isAbsolute = directory.isAbsolute := by
  obtain ⟨c, others, letters⟩ := List.exists_cons_of_ne_nil
    (fun none_ => nonempty (String.toList_eq_nil_iff.mp none_) : directory.text.toList ≠ [])
  rw [join, isAbsolute_of_plain plain, Bool.false_or, if_neg (by simpa using nonempty)]
  split <;> simp [isAbsolute, letters]

end Join

end Path

namespace Disk

/-- The directory of a path of two segments or more. -/
theorem directoryOf_eq (cut : path.segments = first :: inner ++ [name])
    (named : Path.isIdle name = false) :
    (directoryOf path).parts = (first :: inner).filter (fun name => !Path.isIdle name) ∧
      (directoryOf path).isAbsolute = decide (first = "") := by
  have plain : ∀ other ∈ first :: inner, '/' ∉ other.toList := fun other member =>
    path.slash_notMem_segments other (cut ▸ List.mem_append_left _ member)
  have above := Path.parent?_eq cut named
  have kept : (first :: inner).filter (fun name => !Path.isIdle name) =
      (first :: inner.rdropWhile Path.isIdle).filter fun name => !Path.isIdle name := by
    rw [List.filter_cons, List.filter_cons, Path.filter_rdropWhile]
  rw [kept]
  by_cases single : inner.rdropWhile Path.isIdle = []
  · rw [single] at above ⊢
    by_cases root : first = ""
    · have written : directoryOf path = ⟨"/"⟩ := by simp [directoryOf, above, root]
      rw [written, root]
      decide +kernel
    · have written : directoryOf path = ⟨first⟩ := by simp [directoryOf, above, root]
      have cut : Path.segments ⟨first⟩ = [first] := by
        have segments := Path.segments_intercalate (List.cons_ne_nil first [])
          (List.forall_mem_singleton.mpr (plain first List.mem_cons_self))
        rwa [String.intercalate_singleton] at segments
      rw [written, Path.parts_eq_filter, cut, Path.isAbsolute_eq cut]
      simp [root]
  · have nonempty : "/".intercalate (first :: inner.rdropWhile Path.isIdle) ≠ "" := by
      rw [String.intercalate_cons_of_ne_nil single]
      simp
    have written : directoryOf path = ⟨"/".intercalate (first :: inner.rdropWhile Path.isIdle)⟩ := by
      simp [directoryOf, above, single, nonempty]
    have cut := Path.segments_intercalate (List.cons_ne_nil first (inner.rdropWhile Path.isIdle))
      fun other member => plain other
        (List.cons_subset_cons first (List.rdropWhile_prefix _ inner).subset member)
    rw [written, Path.parts_eq_filter, cut, Path.isAbsolute_eq cut]
    simp [single]

/-- The directory of a path that ends in a name. -/
theorem directoryOf_of_named (last : path.segments.getLast? = some name)
    (named : Path.isIdle name = false) :
    path.parts = (directoryOf path).parts ++ [name] ∧
      path.isAbsolute = (directoryOf path).isAbsolute := by
  obtain ⟨init, cut⟩ := List.getLast?_eq_some_iff.mp last
  have parts : path.parts = init.filter (fun name => !Path.isIdle name) ++ [name] := by
    rw [Path.parts_eq_filter, cut, List.filter_append, List.filter_cons_of_pos (by simp [named]),
      List.filter_nil]
  cases init with
  | nil =>
    have written : directoryOf path = ⟨"."⟩ := by
      have empty : name ≠ "" := by rintro rfl; simp [Path.isIdle] at named
      simp [directoryOf, Path.parent?, cut, empty]
    have here : Path.parts ⟨"."⟩ = [] ∧ Path.isAbsolute ⟨"."⟩ = false := by decide +kernel
    rw [parts, written, Path.isAbsolute_eq cut, here.1, here.2]
    simp
  | cons first inner =>
    obtain ⟨above, absolute⟩ := directoryOf_eq cut named
    rw [parts, above, absolute, Path.isAbsolute_eq cut]
    simp

end Disk

end BoardBind
