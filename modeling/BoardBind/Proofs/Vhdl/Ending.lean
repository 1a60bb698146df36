import BoardBind.Proofs.Vhdl.Construct
import BoardBind.Vhdl.Scanner

/-! # Endings of units

A unit is closed by a line that starts with the word `end`, behind which its keyword and its name may
stand. What is looked for is matched word by word, so a line whose first word is another one or is
followed by something else than words and a semicolon closes nothing.
-/

namespace BoardBind.Vhdl

open Text

variable {line text rest name : List Char} {keyword unit : String} {c : Char}

theorem toList_folded (name : List Char) : (Scan.folded name).toList = name.map Char.toLower := by
  rw [Scan.folded, Language.fold, String.toLower, String.toList_map, String.toList_ofList]

theorem letters_folded (name : List Char) : letters (Scan.folded name).toList = letters name := by
  rw [toList_folded, letters, letters, List.map_map]
  exact List.map_congr_left fun c _ => caseKey_toLower c

theorem isWord_folded (named : IsWord name) : IsWord (Scan.folded name).toList := by
  have alike := letters_folded name
  refine ⟨fun empty => named.nonempty ?_, fun c member => ?_⟩
  · rw [empty] at alike
    exact List.map_eq_nil_iff.mp alike.symm
  · have found : caseKey c ∈ letters name := alike ▸ List.mem_map_of_mem member
    obtain ⟨d, inName, same⟩ := List.mem_map.mp found
    exact isWordChar_congr same ▸ named.inside d inName

/-- What is looked for behind the word `end`: the given words and a semicolon. -/
def endsBehind (words : List (List Char)) (text : List Char) : Option (List Char) := do
  let text ← words.foldlM (fun text expected => do caseless expected (← blanks text)) text
  literal [';'] (trimStart text)

theorem endsWith_eq (words : List (List Char)) (line : List Char) : endsWith words line =
    ((caseless ['e', 'n', 'd'] (trimStart line)).bind (endsBehind words)).isSome := rfl

theorem endsBehind_nil (text : List Char) : endsBehind [] text = literal [';'] (trimStart text) := rfl

theorem endsBehind_cons (expected : List Char) (words : List (List Char)) (text : List Char) :
    endsBehind (expected :: words) text =
      ((blanks text).bind (caseless expected)).bind (endsBehind words) := by
  simp only [endsBehind, List.foldlM_cons, bind, Option.bind_assoc]
  rfl

theorem endsBehind_nil_of_head (open_ : ∀ c ∈ (trimStart text).head?, c ≠ ';') :
    endsBehind [] text = none := by
  rw [endsBehind_nil, Option.eq_none_iff_forall_ne_some]
  intro rest taken
  exact open_ ';' (by rw [literal_eq_some_iff.mp taken]; rfl) rfl

/-- Nothing that is looked for starts inside of a word. -/
theorem endsBehind_of_isWordChar (inWord : isWordChar c) (words : List (List Char)) :
    endsBehind words (c :: rest) = none := by
  have solid : ∀ d ∈ (c :: rest).head?, isBlank d = false := by
    simpa using isBlank_of_isWordChar inWord
  cases words with
  | nil =>
    refine endsBehind_nil_of_head fun d first => ?_
    rw [trimStart_of_head solid] at first
    obtain rfl : c = d := Option.some.inj first
    rintro rfl
    exact absurd inWord (by decide)
  | cons expected words => rw [endsBehind_cons, blanks_of_head solid, Option.bind_none, Option.bind_none]

section words

variable {expected : List Char} {words : List (List Char)} (spelled : ∀ e ∈ expected, isWordChar e)

include spelled

theorem caseless_bind_endsBehind (inside : ∀ c ∈ name, isWordChar c) (apart : Apart rest) :
    (caseless expected (name ++ rest)).bind (endsBehind words) =
      if letters name = letters expected then endsBehind words rest else none := by
  split
  · next alike => rw [caseless_eq_some_iff.mpr ⟨name, rfl, alike⟩, Option.bind_some]
  · next different =>
    rw [Option.bind_eq_none_iff]
    intro after taken
    obtain ⟨front, behind, rfl, rfl, alike⟩ :=
      (caseless_word_eq_some_iff spelled apart).mp taken
    cases behind with
    | nil => exact absurd (by simpa using alike) different
    | cons c behind => exact endsBehind_of_isWordChar (inside c (by simp)) words

/-- A word that is looked for is the next word. -/
theorem endsBehind_cons_word (named : IsWord name) (apart : Apart rest) :
    endsBehind (expected :: words) (' ' :: (name ++ rest)) =
      if letters name = letters expected then endsBehind words rest else none := by
  rw [endsBehind_cons, blanks_blank, trimStart_word named, Option.bind_some,
    caseless_bind_endsBehind spelled named.inside apart]

end words

theorem endsBehind_nil_word (named : IsWord name) : endsBehind [] (' ' :: (name ++ rest)) = none := by
  obtain ⟨c, others, rfl⟩ := List.exists_cons_of_ne_nil named.nonempty
  have word : isWordChar c := named.inside c List.mem_cons_self
  have same : endsBehind [] (c :: (others ++ rest)) = none := endsBehind_of_isWordChar word []
  rwa [endsBehind_nil] at same ⊢

/-- A line ends something if its first word is `end` and the rest is looked for. -/
theorem endsWith_append {indent : List Char} (blank : ∀ c ∈ indent, isBlank c) (named : IsWord name)
    (apart : Apart rest) (words : List (List Char)) : endsWith words (indent ++ (name ++ rest)) =
      (if letters name = ['e', 'n', 'd'] then endsBehind words rest else none).isSome := by
  have ends : IsWord ['e', 'n', 'd'] := by decide
  rw [endsWith_eq, trimStart_append blank, trimStart_word named,
    caseless_bind_endsBehind ends.inside named.inside apart]
  rfl

theorem endsBehind_cons_of_apart {expected : List Char} (spelled : IsWord expected)
    (apart : Apart (trimStart text)) (words : List (List Char)) :
    endsBehind (expected :: words) text = none := by
  rw [endsBehind_cons, Option.bind_eq_none_iff]
  intro rest taken
  obtain ⟨after, blank, taken⟩ := Option.bind_eq_some_iff.mp taken
  obtain rfl := eq_trimStart_of_blanks blank
  rw [caseless_of_apart spelled apart] at taken
  cases taken

theorem closes_eq (keyword unit : String) (line : List Char) : closes keyword unit line =
    (endsWith [] line || endsWith [keyword.toList] line || endsWith [unit.toList] line ||
      endsWith [keyword.toList, unit.toList] line) := by
  simp [closes, Bool.or_assoc]

/-- A line that does not start with `end` closes nothing. -/
theorem closes_of_unended (unended : caseless ['e', 'n', 'd'] (trimStart line) = none) :
    closes keyword unit line = false := by
  simp [closes_eq, endsWith_eq, unended]

section closes

variable {indent : List Char} (blank : ∀ c ∈ indent, isBlank c) (named : IsWord name)
  (spelled : IsWord keyword.toList) (other : IsWord unit.toList)

include blank named spelled other

/-- The word `end` with one word behind it closes the units of that keyword or name. -/
theorem closes_end_iff : closes keyword unit (indent ++ ("end ".toList ++ name ++ [';'])) ↔
    letters name = letters keyword.toList ∨ letters name = letters unit.toList := by
  have cut : "end ".toList ++ name ++ [';'] = "end".toList ++ ' ' :: (name ++ [';']) := by simp
  have ends (words : List (List Char)) : endsWith words (indent ++ ("end ".toList ++ name ++ [';'])) =
      (endsBehind words (' ' :: (name ++ [';']))).isSome := by
    rw [cut, endsWith_append blank (by decide) (apart_cons.mpr (by decide))]
    rfl
  have semicolon : Apart [';'] := apart_cons.mpr (by decide)
  have closed : endsBehind [] [';'] = some [] := rfl
  have unclosed (expected : List Char) : endsBehind [expected] [';'] = none := rfl
  simp only [closes_eq, ends, endsBehind_nil_word named, closed, unclosed,
    endsBehind_cons_word spelled.inside named semicolon,
    endsBehind_cons_word other.inside named semicolon]
  by_cases first : letters name = letters keyword.toList <;>
    by_cases second : letters name = letters unit.toList <;> simp [first, second]

/-- A line that ends a unit by its keyword and name closes it. -/
theorem closes_of_keyed (alike : letters name = letters unit.toList) :
    closes keyword unit (indent ++ ("end ".toList ++ keyword.toList ++ ' ' :: name ++ [';'])) := by
  have cut : "end ".toList ++ keyword.toList ++ ' ' :: name ++ [';'] =
      "end".toList ++ ' ' :: (keyword.toList ++ ' ' :: (name ++ [';'])) := by simp
  have ends : endsWith [keyword.toList, unit.toList]
      (indent ++ ("end ".toList ++ keyword.toList ++ ' ' :: name ++ [';'])) := by
    have apart {text : List Char} : Apart (' ' :: text) := apart_cons.mpr (by decide)
    rw [cut, endsWith_append blank (by decide) apart, endsBehind_cons_word spelled.inside spelled apart,
      endsBehind_cons_word other.inside named (apart_cons.mpr (by decide)), if_pos rfl, if_pos alike]
    rfl
  rw [closes_eq, ends, Bool.or_true]

/-- A line closes nothing if its first word is followed by something else than a word or a
semicolon. -/
theorem closes_of_word (apart : Apart rest) (alone : Apart (trimStart rest))
    (open_ : ∀ c ∈ (trimStart rest).head?, c ≠ ';') :
    closes keyword unit (indent ++ (name ++ rest)) = false := by
  simp only [closes_eq, endsWith_append blank named apart, endsBehind_nil_of_head open_,
    endsBehind_cons_of_apart spelled alone, endsBehind_cons_of_apart other alone, ite_self,
    Option.isSome_none, Bool.or_self]

end closes

/-! ## Endings introduce nothing -/

/-- A line that ends a unit by its name introduces no construct. -/
theorem opensNothing_end (named : IsWord name) : OpensNothing ("end ".toList ++ name ++ [';']) := by
  have cut : "end ".toList ++ name ++ [';'] = "end".toList ++ ' ' :: (name ++ [';']) := by simp
  have last : OpensNothing (name ++ [';']) :=
    .alone named (apart_cons.mpr (by decide)) (by decide)
  rw [cut]
  exact (last.cons (by decide)).ordinary (by decide) (by decide) (apart_cons.mpr (by decide))

/-- A line that ends a unit by its keyword and name introduces no construct. -/
theorem opensNothing_keyedEnd (header : keyword ∈ headers) (named : IsWord name) :
    OpensNothing ("end ".toList ++ keyword.toList ++ ' ' :: name ++ [';']) := by
  have cut : "end ".toList ++ keyword.toList ++ ' ' :: name ++ [';'] =
      "end".toList ++ ' ' :: (keyword.toList ++ ' ' :: (name ++ [';'])) := by simp
  have last : OpensNothing (name ++ [';']) :=
    .alone named (apart_cons.mpr (by decide)) (by decide)
  have unfollowed : Unfollowed (' ' :: (name ++ [';'])) :=
    unfollowed_word named (apart_cons.mpr (by decide)) fun c first => by
      obtain rfl : ';' = c := Option.some.inj first
      decide
  have keyed : OpensNothing (keyword.toList ++ ' ' :: (name ++ [';'])) :=
    (last.cons (by decide)).append (isBlank_of_isWord (isWord_header keyword header))
      (apart_cons.mpr (by decide)) (.inr unfollowed)
  rw [cut]
  exact (keyed.cons (by decide)).ordinary (by decide) (by decide) (apart_cons.mpr (by decide))

end BoardBind.Vhdl
