import BoardBind.Proofs.Vhdl.Word

/-! # Basic identifiers

A basic identifier is a letter and then letters, digits and underscores, with no underscore at the end or
next to another one. A name is valid if it is one and is not reserved, but since the letters of a name are
told without regard to case, the long s and the Kelvin sign pass for letters too. No reserved word has
one of them. So the valid names are the basic identifiers that are not reserved, and beside them exactly
the names that would be basic identifiers if those two were letters and that have one of them.
-/

namespace BoardBind.Vhdl

open Text

variable {isLetter wider : Char → Bool} {chars : List Char} {c : Char} {name word : String}

/-- An identifier over some letters: not empty, made up of letters, digits and underscores, with a letter
first, without two adjacent underscores and without one at the end. -/
structure IsIdentifier (isLetter : Char → Bool) (chars : List Char) : Prop where
  nonempty : chars ≠ []
  inside : ∀ c ∈ chars, isLetter c ∨ c.isDigit ∨ c = '_'
  first : ∀ c ∈ chars.head?, isLetter c
  single : ¬ ['_', '_'] <:+: chars
  last : chars.getLast? ≠ some '_'

/-- A basic identifier, whose letters are those of ASCII. -/
abbrev IsBasicIdentifier (chars : List Char) : Prop := IsIdentifier Char.isAlpha chars

/-- The characters outside of ASCII that are variants of a letter. -/
def variants : List Char := ['\u017f', '\u212a']

/-- The letters of ASCII and their variants. -/
def isVariedLetter (c : Char) : Bool := c.isAlpha || variants.contains c

theorem mem_variants_iff : c ∈ variants ↔ c = '\u017f' ∨ c = '\u212a' := by
  simp [variants]

theorem isLower_caseKey (c : Char) : (caseKey c).isLower = isVariedLetter c := by
  by_cases variant : c ∈ variants
  · rcases mem_variants_iff.mp variant with rfl | rfl <;> decide
  · have plain := mem_variants_iff.not.mp variant
    rw [not_or] at plain
    rw [caseKey, if_neg plain.1, if_neg plain.2, Char.isLower_toLower_eq_isAlpha]
    simp [isVariedLetter, variant]

theorem hasDoubleUnderscore_iff : Language.hasDoubleUnderscore chars ↔ ['_', '_'] <:+: chars := by
  fun_induction Language.hasDoubleUnderscore chars with
  | case1 rest => exact iff_of_true rfl (List.prefix_append ['_', '_'] rest).isInfix
  | case2 c rest other ih =>
    rw [ih, List.infix_cons_iff, or_iff_right]
    rintro ⟨behind, whole⟩
    obtain ⟨rfl, rfl⟩ := List.cons.inj whole
    exact other behind rfl rfl
  | case3 => simp

/-- The shape of a name is that of an identifier in which variants are letters as well. -/
theorem isVhdlIdentifier_iff : Language.isVhdlIdentifier chars ↔ IsIdentifier isVariedLetter chars := by
  cases chars with
  | nil => exact iff_of_false (by simp [Language.isVhdlIdentifier]) fun identifier => identifier.nonempty rfl
  | cons c rest =>
    have inWord (c : Char) : isWordChar c ↔ isVariedLetter c ∨ c.isDigit ∨ c = '_' := by
      simp [isWordChar, isLower_caseKey, or_assoc]
    simp only [Language.isVhdlIdentifier, Bool.and_eq_true, isLower_caseKey, List.all_eq_true, inWord,
      Bool.not_eq_true', ← Bool.not_eq_true, hasDoubleUnderscore_iff, decide_eq_true_eq]
    constructor
    · rintro ⟨⟨⟨first, inside⟩, single⟩, last⟩
      exact ⟨List.cons_ne_nil c rest, List.forall_mem_cons.mpr ⟨.inl first, inside⟩, by simpa using first,
        single, last⟩
    · intro identifier
      exact ⟨⟨⟨identifier.first c rfl, (List.forall_mem_cons.mp identifier.inside).2⟩,
        identifier.single⟩, identifier.last⟩

theorem isValidName_eq_true_iff : Language.vhdl.isValidName name ↔
    IsIdentifier isVariedLetter name.toList ∧ name.toLower ∉ Language.vhdlReserved := by
  rw [Language.isValidName, Bool.and_eq_true, isVhdlIdentifier_iff, Language.isReserved]
  simp

theorem IsIdentifier.mono (identifier : IsIdentifier isLetter chars)
    (also : ∀ c ∈ chars, isLetter c → wider c) : IsIdentifier wider chars where
  nonempty := identifier.nonempty
  inside c member := (identifier.inside c member).imp_left (also c member)
  first c isFirst := also c (List.mem_of_head? isFirst) (identifier.first c isFirst)
  single := identifier.single
  last := identifier.last

/-- An identifier over the letters and their variants is a basic one if it has no variants. -/
theorem isBasicIdentifier_iff : IsBasicIdentifier chars ↔
    IsIdentifier isVariedLetter chars ∧ ∀ c ∈ chars, c ∉ variants := by
  constructor
  · intro basic
    refine ⟨basic.mono fun c _ letter => by simp [isVariedLetter, letter], fun c member variant => ?_⟩
    have inside := basic.inside c member
    rcases mem_variants_iff.mp variant with rfl | rfl <;> exact absurd inside (by decide)
  · rintro ⟨identifier, plain⟩
    refine identifier.mono fun c member letter => ?_
    simpa [isVariedLetter, plain c member] using letter

/-- The reserved words are written in lower case letters of ASCII. -/
theorem allIn_isLower_of_mem_vhdlReserved (reserved : word ∈ Language.vhdlReserved) : AllIn Char.isLower word := by
  have every : ∀ word ∈ Language.vhdlReserved, AllIn Char.isLower word := by decide +kernel
  exact every word reserved

/-- A name with a variant is no reserved word, in any letter case. -/
theorem toLower_notMem_vhdlReserved (member : c ∈ name.toList) (variant : c ∈ variants) :
    name.toLower ∉ Language.vhdlReserved := by
  intro reserved
  obtain ⟨same, outside⟩ : c.toLower = c ∧ c.isLower = false := by
    rcases mem_variants_iff.mp variant with rfl | rfl <;> decide
  refine notMem_of_forall (allIn_isLower_of_mem_vhdlReserved reserved) outside ?_
  rw [String.toLower, String.toList_map]
  exact List.mem_map.mpr ⟨c, member, same⟩

/-- The valid names are the identifiers over letters and variants that are not reserved. So a name is
judged rightly, as a basic identifier that is not reserved or as none, exactly unless it has a variant
and is an identifier with it. The reserved words are in ascending order, so a search by halves finds
each of them. -/
theorem isValidName_iff (name : String) :
    ((Language.vhdl.isValidName name ↔
        IsBasicIdentifier name.toList ∧ name.toLower ∉ Language.vhdlReserved) ↔
      ¬ (IsIdentifier isVariedLetter name.toList ∧ ∃ c ∈ name.toList, c ∈ variants)) ∧
    (Language.vhdl.isValidName name ↔
      IsIdentifier isVariedLetter name.toList ∧ name.toLower ∉ Language.vhdlReserved) ∧
    Language.vhdlReserved.length = 97 ∧ Language.vhdlReserved.Pairwise (· < ·) := by
  have ascending : Language.vhdlReserved.IsChain (· < ·) := by decide +kernel
  refine ⟨?_, isValidName_eq_true_iff, by decide, List.isChain_iff_pairwise.mp ascending⟩
  rw [isValidName_eq_true_iff, isBasicIdentifier_iff]
  by_cases varied : ∃ c ∈ name.toList, c ∈ variants
  · obtain ⟨c, member, variant⟩ := varied
    have unreserved := toLower_notMem_vhdlReserved member variant
    have notPlain : ¬ ∀ c ∈ name.toList, c ∉ variants := fun plain => plain c member variant
    have present : ∃ c ∈ name.toList, c ∈ variants := ⟨c, member, variant⟩
    simp only [unreserved, notPlain, present, not_false_eq_true, and_true, and_false, iff_false]
  · have plain : ∀ c ∈ name.toList, c ∉ variants := by simpa using varied
    refine iff_of_true ?_ fun ⟨_, present⟩ => varied present
    rw [and_iff_left plain]

/-- A name that starts with a long s is valid but no basic identifier. -/
theorem not_isBasicIdentifier_longS : ¬ ∀ name, Language.vhdl.isValidName name ↔
    IsBasicIdentifier name.toList ∧ name.toLower ∉ Language.vhdlReserved := by
  intro claimed
  have valid : Language.vhdl.isValidName "\u017ftart" := by rw [isValidName_eq]; decide
  have outside := ((claimed _).mp valid).1.first '\u017f' (by decide)
  exact absurd outside (by decide)

end BoardBind.Vhdl
