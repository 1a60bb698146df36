import BoardBind.Text.Substitute
import Mathlib.Data.List.Basic
import Mathlib.Data.List.TakeWhile

/-! # What matchers accept

A literal and a run say how the text is put together that they accept, and accept every text that is
put together that way. A search succeeds where its matcher does, at the front or further behind. What
they accept does not depend on a character at the end of the text that none of them asks for. A mark
that starts with a character the rest of the text does not have is replaced where it stands.
-/

namespace BoardBind.Text

variable {α : Type} {inClass : Char → Bool} {matcher : List Char → Option α}
  {text expected found rest skipped : List Char} {c : Char} {result : α}

theorem literal_eq_some_iff : literal expected text = some rest ↔ text = expected ++ rest := by
  induction expected generalizing text with
  | nil => rw [literal, Option.some_inj, List.nil_append]
  | cons e expected ih =>
    cases text with
    | nil => simp [literal]
    | cons c text =>
      rw [literal, List.cons_append, List.cons.injEq]
      split
      · next same => rw [ih, and_iff_right same.symm]
      · next different => simp [Ne.symm different]

theorem isSome_literal_iff : (literal expected text).isSome ↔ expected <+: text := by
  rw [Option.isSome_iff_exists]
  exact exists_congr fun rest => literal_eq_some_iff.trans eq_comm

@[simp] theorem literal_append : literal expected (expected ++ rest) = some rest :=
  literal_eq_some_iff.mpr rfl

/-- A run is not empty, and it ends only where its class ends. -/
theorem run_eq_some_iff : run inClass text = some (found, rest) ↔
    text = found ++ rest ∧ found ≠ [] ∧ (∀ c ∈ found, inClass c) ∧
      ∀ c ∈ rest.head?, inClass c = false := by
  constructor
  · intro success
    have parts := List.takeWhile_append_dropWhile (p := inClass) (l := text)
    have inside : ∀ c ∈ text.takeWhile inClass, inClass c := fun c => List.mem_takeWhile_imp
    have stops := List.head?_dropWhile_not inClass text
    unfold run at success
    split at success
    · cases success
    · next c taken front =>
      rw [front] at parts inside
      obtain ⟨rfl, rfl⟩ := Prod.mk.inj (Option.some.inj success)
      refine ⟨parts.symm, List.cons_ne_nil _ _, inside, fun d first => ?_⟩
      rw [Option.mem_def.mp first] at stops
      exact stops
  · rintro ⟨rfl, nonempty, inside, stops⟩
    have front : (found ++ rest).takeWhile inClass = found := by
      rw [List.takeWhile_append_of_pos inside]
      cases rest with
      | nil => exact List.append_nil found
      | cons c rest => simp [stops c rfl]
    have behind : (found ++ rest).dropWhile inClass = rest := by
      rw [List.dropWhile_append_of_pos inside]
      cases rest with
      | nil => rfl
      | cons c rest => simp [stops c rfl]
    obtain ⟨d, taken, rfl⟩ := List.exists_cons_of_ne_nil nonempty
    rw [run, front, behind]

/-- A run of a class that the first character is not in fails. -/
theorem run_cons_of_neg (outside : inClass c = false) : run inClass (c :: rest) = none := by
  simp [run, outside]

theorem search_of_matcher (success : matcher text = some result) :
    search matcher text = some result := by
  cases text with
  | nil => exact success
  | cons c text => rw [search, success, Option.some_or]

/-- A search passes over characters with which no match starts. -/
theorem search_append (fails : ∀ c ∈ skipped, ∀ behind, matcher (c :: behind) = none) :
    search matcher (skipped ++ rest) = search matcher rest := by
  induction skipped with
  | nil => rfl
  | cons c skipped ih =>
    rw [List.forall_mem_cons] at fails
    rw [List.cons_append, search, fails.1, Option.none_or, ih fails.2]

/-- A search gives the result of the first position where its matcher succeeds. -/
theorem search_eq_some_iff :
    search matcher text = some result ↔ ∃ start, matcher (text.drop start) = some result ∧
      ∀ earlier < start, matcher (text.drop earlier) = none := by
  induction text with
  | nil =>
    simp only [search, List.drop_nil]
    constructor
    · exact fun found => ⟨0, found, fun _ impossible => absurd impossible (Nat.not_lt_zero _)⟩
    · exact fun ⟨_, found, _⟩ => found
  | cons c text ih =>
    rw [search, Option.or_eq_some_iff, ih]
    constructor
    · rintro (here | ⟨failed, start, found, first⟩)
      · exact ⟨0, here, fun _ impossible => absurd impossible (Nat.not_lt_zero _)⟩
      · refine ⟨start + 1, found, fun earlier before => ?_⟩
        cases earlier with
        | zero => exact failed
        | succ earlier => exact first earlier (Nat.lt_of_succ_lt_succ before)
    · rintro ⟨start, found, first⟩
      cases start with
      | zero => exact .inl found
      | succ start =>
        exact .inr ⟨first 0 (Nat.succ_pos start), start, found,
          fun earlier before => first (earlier + 1) (Nat.succ_lt_succ before)⟩

theorem search_map {β : Type} (matcher : List Char → Option α) (f : α → β) (text : List Char) :
    search (fun text => (matcher text).map f) text = (search matcher text).map f := by
  induction text with
  | nil => rfl
  | cons c text ih => rw [search, search, ih, Option.map_or]

/-- What a search finds, its matcher accepts somewhere in the text. -/
theorem exists_of_search (success : search matcher text = some result) :
    ∃ front behind, text = front ++ behind ∧ matcher behind = some result := by
  obtain ⟨start, found, -⟩ := search_eq_some_iff.mp success
  exact ⟨text.take start, text.drop start, (List.take_append_drop start text).symm, found⟩

/-- A literal without a character does not look at that character behind the text. -/
theorem literal_concat (absent : c ∉ expected) :
    literal expected (text ++ [c]) = (literal expected text).map (· ++ [c]) := by
  induction expected generalizing text with
  | nil => rfl
  | cons e expected ih =>
    rw [List.mem_cons, not_or] at absent
    cases text with
    | nil => simp [literal, Ne.symm absent.1]
    | cons d text =>
      rw [List.cons_append, literal, literal]
      split
      · exact ih absent.2
      · rfl

/-- A run does not look at a character behind the text that is not in its class. -/
theorem run_concat (outside : inClass c = false) :
    run inClass (text ++ [c]) = (run inClass text).map fun taken => (taken.1, taken.2 ++ [c]) := by
  have front : (text ++ [c]).takeWhile inClass = text.takeWhile inClass := by
    induction text with
    | nil => simp [outside]
    | cons d text ih => cases inside : inClass d <;> simp [inside, ih]
  have behind : (text ++ [c]).dropWhile inClass = text.dropWhile inClass ++ [c] := by
    induction text with
    | nil => simp [outside]
    | cons d text ih => cases inside : inClass d <;> simp_all
  rw [run, run, front, behind]
  cases text.takeWhile inClass <;> rfl

/-- A search finds the same in front of a character that its matcher does not look at. -/
theorem search_concat (same : ∀ text, matcher (text ++ [c]) = matcher text) :
    search matcher (text ++ [c]) = search matcher text := by
  induction text with
  | nil =>
    have alone : matcher [c] = matcher [] := same []
    change (matcher [c]).or (matcher []) = matcher []
    rw [alone, Option.or_self]
  | cons d text ih =>
    rw [List.cons_append, search, search, ih]
    exact congrArg (Option.or · _) (same (d :: text))

/-! ## Replacing a mark -/

section substitute

variable {mark : Char} {marks value behind : List Char}

theorem substituteChars_append (absent : mark ∉ text) :
    substituteChars mark marks value (text ++ behind) =
      text ++ substituteChars mark marks value behind := by
  induction text with
  | nil => rfl
  | cons c text ih =>
    obtain ⟨other, later⟩ := not_or.mp (List.mem_cons.not.mp absent)
    rw [List.cons_append, substituteChars]
    split
    · next rest found =>
      obtain ⟨same, -⟩ := List.cons.inj (literal_eq_some_iff.mp found)
      exact absurd same.symm other
    · rw [ih later, List.cons_append]

theorem substituteChars_of_notMem (absent : mark ∉ text) :
    substituteChars mark marks value text = text := by
  have whole : substituteChars mark marks value (text ++ []) = _ := substituteChars_append absent
  rwa [substituteChars, List.append_nil] at whole

theorem substituteChars_mark : substituteChars mark marks value (mark :: (marks ++ behind)) =
    value ++ substituteChars mark marks value behind := by
  rw [substituteChars]
  split
  · next rest found =>
    have same : mark :: marks ++ rest = mark :: marks ++ behind := (literal_eq_some_iff.mp found).symm
    obtain rfl := List.append_cancel_left same
    rfl
  · next missing =>
    have found : literal (mark :: marks) (mark :: marks ++ behind) = some behind := literal_append
    rw [List.cons_append, missing] at found
    cases found

end substitute

end BoardBind.Text
