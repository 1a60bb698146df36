import BoardBind.Proofs.Vhdl.Word
import BoardBind.Vhdl.Line

/-! # Constructs that a line introduces

The headers of entities, architectures and components are searched for by a keyword that may stand at
the end of any word, with a name and another keyword behind it. So a word of a line can be passed over
unless it ends in such a keyword and the two words behind it fit, and a line without three words in a
row introduces nothing.
-/

namespace BoardBind.Vhdl

open Text

variable {α : Type} {keyword closing : String} {behind : List Char → Option α}
  {text rest name entity other passed : List Char} {c : Char}

/-- A keyword and blanks in front of what is read behind them. -/
def keyed (keyword : String) (behind : List Char → Option α) (text : List Char) : Option α := do
  let text ← caseless keyword.toList text
  let text ← blanks text
  behind text

/-- A word, blanks and a keyword: the word and the rest. -/
def wordThen (closing : String) (text : List Char) : Option (List Char × List Char) := do
  let (name, text) ← word text
  let text ← blanks text
  let text ← caseless closing.toList text
  return (name, text)

/-- The names in `NAME of ENTITY is`. -/
def namesOf (text : List Char) : Option (List Char × List Char) := do
  let (name, text) ← wordThen "of" text
  let text ← blanks text
  let (entity, text) ← word text
  let text ← blanks text
  let _ ← caseless "is".toList text
  return (name, entity)

theorem entityName?_eq (line : List Char) :
    entityName? line = (search (keyed "entity" (wordThen "is")) line).map Prod.fst := rfl

theorem componentName?_eq (line : List Char) :
    componentName? line = (search (keyed "component" (wordThen "is")) line).map Prod.fst := rfl

theorem architectureNames?_eq (line : List Char) :
    architectureNames? line = search (keyed "architecture" namesOf) line := by
  refine congrArg (search · line) (funext fun text => ?_)
  simp only [wordBetween, keyed, namesOf, wordThen, bind, pure, Option.bind_assoc, Option.bind_some]
  rfl

section keyed

variable (spelled : IsWord keyword.toList)

include spelled

/-- In front of text without blanks a keyword fits only as the whole of it. -/
theorem keyed_append (solid : ∀ c ∈ name, isBlank c = false) (apart : Apart rest) :
    keyed keyword behind (name ++ rest) =
      if letters keyword.toList = letters name then (blanks rest).bind behind else none := by
  split
  · next alike =>
    have taken : caseless keyword.toList (name ++ rest) = some rest :=
      caseless_eq_some_iff.mpr ⟨name, rfl, alike.symm⟩
    simp only [keyed, taken, bind, Option.bind_some]
  · next different =>
    simp only [keyed, bind, Option.bind_eq_none_iff]
    intro left taken
    obtain ⟨front, after, rfl, rfl, alike⟩ :=
      (caseless_word_eq_some_iff spelled.inside apart).mp taken
    cases after with
    | nil => exact absurd (by simpa using alike.symm) different
    | cons c after =>
      have blank : isBlank c = false := solid c (by simp)
      simp [blanks, blank]

/-- A search passes over text without blanks that the keyword does not end, or behind which nothing
fits. -/
theorem search_keyed_append (solid : ∀ c ∈ name, isBlank c = false) (apart : Apart rest) :
    search (keyed keyword behind) (name ++ rest) =
      (if EndsIn keyword name then (blanks rest).bind behind else none).or
        (search (keyed keyword behind) rest) := by
  induction name with
  | nil =>
    have longer : ¬ EndsIn keyword [] := by simpa [EndsIn, letters] using spelled.nonempty
    rw [if_neg longer, Option.none_or, List.nil_append]
  | cons c name ih =>
    rw [List.cons_append, search, ← List.cons_append, keyed_append spelled solid apart,
      ih fun d member => solid d (List.mem_cons_of_mem c member), ← Option.or_assoc]
    congr 1
    have cut : EndsIn keyword (c :: name) ↔
        letters keyword.toList = letters (c :: name) ∨ EndsIn keyword name := List.suffix_cons_iff
    by_cases whole : letters keyword.toList = letters (c :: name)
    · have shorter : ¬ EndsIn keyword name := by
        intro ends
        have longer := ends.length_le
        rw [whole] at longer
        simp [letters] at longer
      rw [if_pos whole, if_neg shorter, if_pos (cut.mpr (.inl whole)), Option.or_none]
    · by_cases ends : EndsIn keyword name
      · rw [if_neg whole, if_pos ends, if_pos (cut.mpr (.inr ends)), Option.none_or]
      · rw [if_neg whole, if_neg ends, if_neg fun longer => (cut.mp longer).elim whole ends,
          Option.none_or]

/-- A search passes over a character that belongs to no word. -/
theorem search_keyed_cons (outside : isWordChar c = false) :
    search (keyed keyword behind) (c :: rest) = search (keyed keyword behind) rest := by
  have nothing : keyed keyword behind ([] ++ c :: rest) = _ :=
    keyed_append spelled (fun _ member => absurd member List.not_mem_nil) (apart_cons.mpr outside)
  have unmatched : letters keyword.toList ≠ letters [] := by simpa [letters] using spelled.nonempty
  rw [List.nil_append, if_neg unmatched] at nothing
  rw [search, nothing, Option.none_or]

end keyed

/-- The keywords of the headers. -/
def headers : List String := ["entity", "component", "architecture"]

theorem isWord_header : ∀ keyword ∈ headers, IsWord keyword.toList := by
  decide

/-- A piece of text in which no keyword of a header starts, whatever stands behind the piece. -/
def Quiet (passed : List Char) : Prop :=
  ∀ start ∈ passed.tails, start ≠ [] → ∀ keyword ∈ headers,
    ¬ letters keyword.toList <+: letters start ∧ ¬ letters start <+: letters keyword.toList

instance : Decidable (Quiet passed) :=
  List.decidableBAll (fun start : List Char => start ≠ [] → ∀ keyword ∈ headers,
    ¬ letters keyword.toList <+: letters start ∧ ¬ letters start <+: letters keyword.toList) _

theorem search_keyed_piece (quiet : Quiet passed) (header : keyword ∈ headers) :
    search (keyed keyword behind) (passed ++ rest) = search (keyed keyword behind) rest := by
  induction passed with
  | nil => rfl
  | cons c passed ih =>
    have here := quiet (c :: passed) (by simp) (List.cons_ne_nil c passed) keyword header
    have unmatched : caseless keyword.toList (c :: passed ++ rest) = none := by
      rw [Option.eq_none_iff_forall_ne_some]
      intro left taken
      obtain ⟨front, whole, alike⟩ := caseless_eq_some_iff.mp taken
      rcases List.append_eq_append_iff.mp whole with ⟨between, same, -⟩ | ⟨between, same, -⟩
      · rw [← alike, same, letters, letters, List.map_append] at here
        exact here.2 (List.prefix_append _ _)
      · rw [← alike, same, letters, letters, List.map_append] at here
        exact here.1 (List.prefix_append _ _)
    have later : Quiet passed := fun start member =>
      quiet start (by rw [List.tails_cons]; exact List.mem_cons_of_mem _ member)
    rw [List.cons_append, search, ← List.cons_append, ih later]
    simp only [keyed, unmatched, bind, Option.bind_none, Option.none_or]

/-- A text whose first words are not followed by a word and one of the keywords behind it. -/
def Unfollowed (text : List Char) : Prop :=
  ∀ closing ∈ ["is", "of"], (blanks text).bind (wordThen closing) = none

instance : Decidable (Unfollowed text) :=
  inferInstanceAs (Decidable (∀ closing ∈ ["is", "of"], (blanks text).bind (wordThen closing) = none))

/-- A word that ends in no keyword of a header. -/
def Ordinary (name : List Char) : Prop :=
  ∀ keyword ∈ headers, ¬ EndsIn keyword name

instance : Decidable (Ordinary name) :=
  inferInstanceAs (Decidable (∀ keyword ∈ headers, ¬ EndsIn keyword name))

/-- A text that introduces no construct. -/
structure OpensNothing (text : List Char) : Prop where
  entity : entityName? text = none
  component : componentName? text = none
  architecture : architectureNames? text = none

instance : Decidable (OpensNothing text) :=
  decidable_of_iff (entityName? text = none ∧ componentName? text = none ∧
      architectureNames? text = none)
    ⟨fun ⟨entity, component, architecture⟩ => ⟨entity, component, architecture⟩,
      fun ⟨entity, component, architecture⟩ => ⟨entity, component, architecture⟩⟩

theorem entityName?_append (solid : ∀ c ∈ name, isBlank c = false) (apart : Apart rest) :
    entityName? (name ++ rest) =
      (if EndsIn "entity" name then ((blanks rest).bind (wordThen "is")).map Prod.fst else none).or
        (entityName? rest) := by
  rw [entityName?_eq, search_keyed_append (isWord_header _ (by decide)) solid apart, Option.map_or,
    apply_ite (Option.map Prod.fst), Option.map_none, entityName?_eq]

theorem componentName?_append (solid : ∀ c ∈ name, isBlank c = false) (apart : Apart rest) :
    componentName? (name ++ rest) =
      (if EndsIn "component" name then ((blanks rest).bind (wordThen "is")).map Prod.fst
        else none).or (componentName? rest) := by
  rw [componentName?_eq, search_keyed_append (isWord_header _ (by decide)) solid apart, Option.map_or,
    apply_ite (Option.map Prod.fst), Option.map_none, componentName?_eq]

theorem architectureNames?_append (solid : ∀ c ∈ name, isBlank c = false) (apart : Apart rest) :
    architectureNames? (name ++ rest) =
      (if EndsIn "architecture" name then (blanks rest).bind namesOf else none).or
        (architectureNames? rest) := by
  rw [architectureNames?_eq, search_keyed_append (isWord_header _ (by decide)) solid apart,
    architectureNames?_eq]

section cons

variable (outside : isWordChar c = false)

include outside

theorem entityName?_cons : entityName? (c :: rest) = entityName? rest := by
  rw [entityName?_eq, search_keyed_cons (isWord_header _ (by decide)) outside, ← entityName?_eq]

theorem componentName?_cons : componentName? (c :: rest) = componentName? rest := by
  rw [componentName?_eq, search_keyed_cons (isWord_header _ (by decide)) outside,
    ← componentName?_eq]

theorem architectureNames?_cons : architectureNames? (c :: rest) = architectureNames? rest := by
  rw [architectureNames?_eq, search_keyed_cons (isWord_header _ (by decide)) outside,
    ← architectureNames?_eq]

end cons

theorem unfollowed_of_apart (apart : Apart (trimStart text)) : Unfollowed text := by
  intro closing _
  rw [Option.bind_eq_none_iff]
  intro after blank
  obtain rfl := eq_trimStart_of_blanks blank
  simp only [wordThen, word_of_apart apart, bind, Option.bind_none]

/-- A word at the end of a statement is not followed by another one. -/
theorem unfollowed_word (named : IsWord name) (apart : Apart rest)
    (solid : ∀ c ∈ rest.head?, isBlank c = false) : Unfollowed (' ' :: (name ++ rest)) := by
  intro closing _
  rw [blanks_blank, trimStart_word named, Option.bind_some, wordThen, word_append named apart]
  simp only [bind, Option.bind_some, blanks_of_head solid, Option.bind_none]

theorem namesOf_of_unfollowed (unfollowed : Unfollowed text) : (blanks text).bind namesOf = none := by
  have ends := unfollowed "of" (by decide)
  rw [Option.bind_eq_none_iff] at ends ⊢
  intro after blank
  simp only [namesOf, ends after blank, bind, Option.bind_none]

namespace OpensNothing

/-- Text without blanks can be passed over if it ends in no keyword or is not followed by what belongs
to one. -/
theorem append (solid : ∀ c ∈ name, isBlank c = false) (apart : Apart rest)
    (passable : Ordinary name ∨ Unfollowed rest) (later : OpensNothing rest) :
    OpensNothing (name ++ rest) := by
  rcases passable with ordinary | unfollowed
  · constructor
    · rw [entityName?_append solid apart, if_neg (ordinary _ (by decide)), Option.none_or,
        later.entity]
    · rw [componentName?_append solid apart, if_neg (ordinary _ (by decide)), Option.none_or,
        later.component]
    · rw [architectureNames?_append solid apart, if_neg (ordinary _ (by decide)), Option.none_or,
        later.architecture]
  · constructor
    · rw [entityName?_append solid apart, unfollowed "is" (by decide), Option.map_none, ite_self,
        Option.none_or, later.entity]
    · rw [componentName?_append solid apart, unfollowed "is" (by decide), Option.map_none, ite_self,
        Option.none_or, later.component]
    · rw [architectureNames?_append solid apart, namesOf_of_unfollowed unfollowed, ite_self,
        Option.none_or, later.architecture]

/-- A word can be passed over that no other word follows. -/
theorem alone (named : IsWord name) (apart : Apart (trimStart rest)) (later : OpensNothing rest) :
    OpensNothing (name ++ rest) :=
  later.append (isBlank_of_isWord named) (apart_of_trimStart apart) (.inr (unfollowed_of_apart apart))

/-- A word without a keyword at its end can be passed over. -/
theorem ordinary (named : IsWord name) (ordinary : Ordinary name) (apart : Apart rest)
    (later : OpensNothing rest) : OpensNothing (name ++ rest) :=
  later.append (isBlank_of_isWord named) apart (.inl ordinary)

/-- A character that belongs to no word can be passed over. -/
theorem cons (later : OpensNothing rest) (outside : isWordChar c = false) :
    OpensNothing (c :: rest) where
  entity := (entityName?_cons outside).trans later.entity
  component := (componentName?_cons outside).trans later.component
  architecture := (architectureNames?_cons outside).trans later.architecture

theorem indent (width : Nat) (later : OpensNothing rest) :
    OpensNothing (List.replicate width ' ' ++ rest) := by
  induction width with
  | zero => exact later
  | succ width ih => exact ih.cons (by decide)

/-- A piece of text can be passed over that has no keyword, neither as a whole nor its beginning at
the end of the piece. -/
theorem piece (quiet : Quiet passed) (later : OpensNothing rest) : OpensNothing (passed ++ rest) where
  entity := by
    rw [entityName?_eq, search_keyed_piece quiet (by decide), ← entityName?_eq, later.entity]
  component := by
    rw [componentName?_eq, search_keyed_piece quiet (by decide), ← componentName?_eq,
      later.component]
  architecture := by
    rw [architectureNames?_eq, search_keyed_piece quiet (by decide), ← architectureNames?_eq,
      later.architecture]

end OpensNothing

end BoardBind.Vhdl
