import BoardBind.Language.Identifier
import BoardBind.Proofs.Bindings.Line
import BoardBind.Proofs.Text.Encoding

/-! # Words and names on a line

A word ends where its characters end, and no blank is a word character. Whether a character belongs
to a word depends on its letter only and not on its case, so a keyword that a text starts with in any
case takes whole words of it or stops inside of one.

A valid name is a word and none of the reserved words. Keywords are looked for without regard to case,
where the long s and the Kelvin sign count as letters, but names are folded without them. So a name may
be spelled like a keyword with one of these letters, and is different from every other keyword.
-/

namespace BoardBind.Text

variable {text expected rest front name other : List Char} {c e : Char}

/-- A word: some characters of a word and nothing else. -/
abbrev IsWord (text : List Char) : Prop := Takeable isWordChar text

-- There are finitely many characters, and the search for an instance would try them all.
instance : Decidable (IsWord text) :=
  have : Decidable (∀ c ∈ text, isWordChar c) := List.decidableBAll (fun c : Char => isWordChar c) text
  decidable_of_iff (text ≠ [] ∧ ∀ c ∈ text, isWordChar c)
    ⟨fun ⟨nonempty, inside⟩ => ⟨nonempty, inside⟩, fun ⟨nonempty, inside⟩ => ⟨nonempty, inside⟩⟩

/-- A text in front of which a word ends. -/
def Apart (text : List Char) : Prop := ∀ c ∈ text.head?, isWordChar c = false

theorem apart_nil : Apart [] := fun _ first => absurd first (by simp)

theorem apart_cons : Apart (c :: rest) ↔ isWordChar c = false := by simp [Apart]

instance : (text : List Char) → Decidable (Apart text)
  | [] => isTrue apart_nil
  | _ :: _ => decidable_of_iff _ apart_cons.symm

theorem word_append (named : IsWord name) (apart : Apart rest) :
    word (name ++ rest) = some (name, rest) :=
  named.run_eq apart

theorem toLower_eq_self (large : ¬ c.toNat < 128) : c.toLower = c :=
  dif_neg fun upper => large
    (Nat.lt_of_le_of_lt (UInt32.le_iff_toNat_le.mp upper.2) (by decide))

/-- Only letters of ASCII and the variants of two of them have another representative. -/
theorem ascii_or_caseKey_eq (c : Char) :
    c.toNat < 128 ∨ c ∈ ['\u017f', '\u212a'] ∨ caseKey c = c := by
  by_cases small : c.toNat < 128
  · exact .inl small
  · by_cases variant : c ∈ ['\u017f', '\u212a']
    · exact .inr (.inl variant)
    · simp only [List.mem_cons, List.not_mem_nil, or_false, not_or] at variant
      refine .inr (.inr ?_)
      rw [caseKey, if_neg variant.1, if_neg variant.2, toLower_eq_self small]

theorem caseKey_toLower (c : Char) : caseKey c.toLower = caseKey c := by
  by_cases small : c.toNat < 128
  · exact forall_of_toNat_lt (fun c => caseKey c.toLower = caseKey c) (by decide +kernel) small
  · rw [toLower_eq_self small]

/-- Whether a character belongs to a word can be told from its representative. -/
theorem isWordChar_eq (c : Char) :
    isWordChar c = ((caseKey c).isLower || (caseKey c).isDigit || caseKey c = '_') := by
  rcases ascii_or_caseKey_eq c with small | variant | same
  · exact forall_of_toNat_lt (fun c => isWordChar c =
      ((caseKey c).isLower || (caseKey c).isDigit || caseKey c = '_')) (by decide +kernel) small
  · simp only [List.mem_cons, List.not_mem_nil, or_false] at variant
    rcases variant with rfl | rfl <;> decide
  · rw [isWordChar, same]

theorem isWordChar_congr (same : caseKey c = caseKey e) : isWordChar c = isWordChar e := by
  rw [isWordChar_eq, isWordChar_eq e, same]

theorem ascii_or_variant_of_isWordChar (inWord : isWordChar c) :
    c.toNat < 128 ∨ c ∈ ['\u017f', '\u212a'] := by
  rcases ascii_or_caseKey_eq c with small | variant | same
  · exact .inl small
  · exact .inr variant
  · refine .inl ?_
    simp only [isWordChar, same, Char.isLower, Char.isDigit, Bool.or_eq_true, Bool.and_eq_true,
      decide_eq_true_eq, UInt32.le_iff_toNat_le, ge_iff_le] at inWord
    rcases inWord with (lower | digit) | rfl
    · exact Nat.lt_of_le_of_lt lower.2 (by decide)
    · exact Nat.lt_of_le_of_lt digit.2 (by decide)
    · decide

theorem isBlank_of_isWordChar (inWord : isWordChar c) : isBlank c = false := by
  rcases ascii_or_variant_of_isWordChar inWord with small | variant
  · revert inWord
    exact forall_of_toNat_lt (fun c => isWordChar c → isBlank c = false) (by decide +kernel) small
  · simp only [List.mem_cons, List.not_mem_nil, or_false] at variant
    rcases variant with rfl | rfl <;> decide

theorem isBlank_of_isWord (named : IsWord name) : ∀ c ∈ name, isBlank c = false :=
  fun c member => isBlank_of_isWordChar (named.inside c member)

theorem isWordChar_of_isDigit (digit : c.isDigit) : isWordChar c := by
  simp [isWordChar, digit]

@[simp] theorem trimStart_blank : trimStart (' ' :: text) = trimStart text := rfl

theorem trimStart_of_head (solid : ∀ c ∈ text.head?, isBlank c = false) : trimStart text = text := by
  cases text with
  | nil => rfl
  | cons c rest => rw [trimStart, List.dropWhile_cons_of_neg (by simp [solid c rfl])]

theorem trimStart_word (named : IsWord name) : trimStart (name ++ rest) = name ++ rest := by
  obtain ⟨c, others, rfl⟩ := List.exists_cons_of_ne_nil named.nonempty
  refine trimStart_of_head fun d first => ?_
  obtain rfl : c = d := Option.some.inj first
  exact isBlank_of_isWordChar (named.inside c List.mem_cons_self)

@[simp] theorem blanks_blank : blanks (' ' :: text) = some (trimStart text) := rfl

theorem trimStart_append (blank : ∀ c ∈ front, isBlank c) : trimStart (front ++ text) = trimStart text :=
  List.dropWhile_append_of_pos blank

theorem blanks_of_head (solid : ∀ c ∈ text.head?, isBlank c = false) : blanks text = none := by
  cases text with
  | nil => rfl
  | cons c rest => simp [blanks, solid c rfl]

theorem eq_trimStart_of_blanks (blank : blanks text = some rest) : rest = trimStart text := by
  cases text with
  | nil => cases blank
  | cons c text =>
    rw [blanks] at blank
    split at blank
    · next first =>
      rw [trimStart, List.dropWhile_cons_of_pos first]
      exact (Option.some.inj blank).symm
    · cases blank

theorem apart_of_trimStart (apart : Apart (trimStart text)) : Apart text := by
  cases text with
  | nil => exact apart_nil
  | cons c rest =>
    rw [apart_cons]
    cases blank : isBlank c with
    | true =>
      rw [← Bool.not_eq_true]
      intro inWord
      rw [isBlank_of_isWordChar inWord] at blank
      cases blank
    | false =>
      rw [trimStart, List.dropWhile_cons_of_neg (by simp [blank])] at apart
      exact apart_cons.mp apart

theorem word_of_apart (apart : Apart text) : word text = none := by
  cases text with
  | nil => rfl
  | cons c rest => exact run_cons_of_neg (apart_cons.mp apart)

/-- The letters of a text without regard to their case. -/
def letters (text : List Char) : List Char := text.map caseKey

/-- What a keyword takes has the letters of the keyword. -/
theorem caseless_eq_some_iff : caseless expected text = some rest ↔
    ∃ front, text = front ++ rest ∧ letters front = letters expected := by
  induction expected generalizing text with
  | nil => simp [caseless, letters]
  | cons e expected ih =>
    cases text with
    | nil => simp [caseless, letters]
    | cons c text =>
      rw [caseless]
      split
      · next same =>
        rw [ih]
        constructor
        · rintro ⟨front, rfl, alike⟩
          exact ⟨c :: front, rfl, by rw [letters, letters, List.map_cons, List.map_cons, same]; exact congrArg _ alike⟩
        · rintro ⟨front, whole, alike⟩
          cases front with
          | nil => cases alike
          | cons d front =>
            obtain ⟨rfl, rfl⟩ := List.cons.inj whole
            exact ⟨front, rfl, (List.cons.inj alike).2⟩
      · next different =>
        refine iff_of_false (fun success => by cases success) ?_
        rintro ⟨front, whole, alike⟩
        cases front with
        | nil => cases alike
        | cons d front =>
          obtain ⟨rfl, rfl⟩ := List.cons.inj whole
          exact different (List.cons.inj alike).1.symm

@[simp] theorem caseless_append : caseless expected (expected ++ rest) = some rest :=
  caseless_eq_some_iff.mpr ⟨expected, rfl, rfl⟩

/-- What has the letters of word characters is made up of such. -/
theorem isWordChar_of_letters (keyword : ∀ e ∈ expected, isWordChar e)
    (alike : letters front = letters expected) : ∀ c ∈ front, isWordChar c := by
  intro c member
  have found : caseKey c ∈ letters expected := alike ▸ List.mem_map_of_mem member
  obtain ⟨e, inKeyword, same⟩ := List.mem_map.mp found
  rw [← isWordChar_congr same]
  exact keyword e inKeyword

/-- A keyword of word characters stops where no word goes on. -/
theorem caseless_word_eq_some_iff (keyword : ∀ e ∈ expected, isWordChar e) (apart : Apart rest) :
    caseless expected (name ++ rest) = some other ↔
      ∃ front behind, name = front ++ behind ∧ other = behind ++ rest ∧
        letters front = letters expected := by
  rw [caseless_eq_some_iff]
  constructor
  · rintro ⟨front, whole, alike⟩
    have inFront : ∀ c ∈ front, isWordChar c := isWordChar_of_letters keyword alike
    rcases List.append_eq_append_iff.mp whole with ⟨between, rfl, behind⟩ | ⟨between, rfl, rfl⟩
    · cases between with
      | nil => exact ⟨name, [], by simp, by simpa using behind.symm, by simpa using alike⟩
      | cons c between =>
        have first : isWordChar c = false := apart c (by simp [behind])
        have inside : isWordChar c := inFront c (by simp)
        rw [first] at inside
        exact absurd inside (by decide)
    · exact ⟨front, between, rfl, rfl, alike⟩
  · rintro ⟨front, behind, rfl, rfl, alike⟩
    exact ⟨front, List.append_assoc .., alike⟩

theorem caseless_of_apart (spelled : IsWord expected) (apart : Apart text) :
    caseless expected text = none := by
  rw [Option.eq_none_iff_forall_ne_some]
  intro other taken
  rw [← List.nil_append text] at taken
  obtain ⟨front, behind, empty, -, alike⟩ :=
    (caseless_word_eq_some_iff spelled.inside apart).mp taken
  obtain ⟨rfl, -⟩ := List.append_eq_nil_iff.mp empty.symm
  exact spelled.nonempty (List.map_eq_nil_iff.mp alike.symm)

/-- A keyword at the front of a word. -/
def StartsWith (keyword : String) (name : List Char) : Prop :=
  letters keyword.toList <+: letters name

/-- A keyword at the end of a word. -/
def EndsIn (keyword : String) (name : List Char) : Prop :=
  letters keyword.toList <:+ letters name

instance {keyword : String} : Decidable (StartsWith keyword name) :=
  inferInstanceAs (Decidable (_ <+: _))

instance {keyword : String} : Decidable (EndsIn keyword name) :=
  inferInstanceAs (Decidable (_ <:+ _))

theorem isSome_caseless_word_iff {keyword : String} (chars : ∀ e ∈ keyword.toList, isWordChar e)
    (apart : Apart rest) : (caseless keyword.toList (name ++ rest)).isSome ↔ StartsWith keyword name := by
  simp only [Option.isSome_iff_exists, caseless_word_eq_some_iff chars apart]
  constructor
  · rintro ⟨-, front, behind, rfl, rfl, alike⟩
    rw [StartsWith, ← alike, letters, letters, List.map_append]
    exact List.prefix_append _ _
  · rintro ⟨behind, whole⟩
    obtain ⟨front, after, rfl, alike, -⟩ := List.map_eq_append_iff.mp whole.symm
    exact ⟨_, front, after, rfl, rfl, alike⟩

end BoardBind.Text

namespace BoardBind.Vhdl

open Text

/-! ## Names and reserved words -/

variable {name keyword : String}

/-- Whether a name is valid can be told from its characters. -/
theorem isValidName_eq (name : String) : Language.vhdl.isValidName name =
    (Language.isVhdlIdentifier name.toList &&
      !Language.vhdlReserved.contains (String.ofList (name.toList.map Char.toLower))) := by
  have lower : name.toLower = String.ofList (name.toList.map Char.toLower) :=
    String.toList_inj.mp (by rw [String.toLower, String.toList_map, String.toList_ofList])
  rw [Language.isValidName, Language.isReserved, lower]

theorem isWord_of_isValidName (valid : Language.vhdl.isValidName name) : IsWord name.toList := by
  have identifier : Language.isVhdlIdentifier name.toList := (Bool.and_eq_true_iff.mp valid).1
  cases chars : name.toList with
  | nil => rw [chars] at identifier; cases identifier
  | cons c rest =>
    rw [chars] at identifier
    simp only [Language.isVhdlIdentifier, Bool.and_eq_true, List.all_eq_true] at identifier
    obtain ⟨⟨⟨first, others⟩, -⟩, -⟩ := identifier
    refine ⟨List.cons_ne_nil c rest, List.forall_mem_cons.mpr ⟨?_, others⟩⟩
    simp only [isWordChar, first, Bool.true_or]

theorem isWord_of_isName (named : Language.vhdl.IsName name) : IsWord name.toList := by
  refine ⟨fun empty => named.nonempty (String.toList_eq_nil_iff.mp empty), fun c member => ?_⟩
  have bounds := named.chars c member
  have small : c.toNat < 128 := by
    have printable := isDeclarationChar_iff.mp (named.declarative c member)
    omega
  revert bounds
  exact forall_of_toNat_lt (fun c => Language.vhdl.isNameChar c → isWordChar c) (by decide +kernel) small

theorem fold_ne_of_isValidName (valid : Language.vhdl.isValidName name)
    (reserved : keyword ∈ Language.vhdlReserved) : Language.vhdl.fold name ≠ keyword := by
  rintro rfl
  have unreserved := (Bool.and_eq_true_iff.mp valid).2
  rw [Language.isReserved, Bool.not_eq_true', List.contains_eq_mem, decide_eq_false_iff_not] at unreserved
  exact unreserved reserved

/-- A letter that has no variant outside of ASCII determines the folded character. -/
theorem toLower_eq_of_caseKey {c e : Char} (same : caseKey c = e) (plain : e ∉ ['s', 'k']) :
    c.toLower = e := by
  rw [caseKey] at same
  split at same
  · exact absurd (same ▸ by decide) plain
  · split at same
    · exact absurd (same ▸ by decide) plain
    · exact same

/-- A text in lower case without a letter that has variants. -/
def Plain (text : List Char) : Prop :=
  ∀ e ∈ text, caseKey e = e ∧ e ∉ ['s', 'k']

instance (text : List Char) : Decidable (Plain text) :=
  List.decidableBAll (fun e : Char => caseKey e = e ∧ e ∉ ['s', 'k']) text

theorem toLower_eq_of_letters (plain : Plain keyword.toList)
    (alike : letters name.toList = letters keyword.toList) : name.toLower = keyword := by
  rw [← String.toList_inj, String.toLower, String.toList_map]
  generalize name.toList = text at alike
  generalize keyword.toList = expected at alike plain
  induction expected generalizing text with
  | nil => rw [List.map_eq_nil_iff.mp alike, List.map_nil]
  | cons e expected ih =>
    rw [Plain, List.forall_mem_cons] at plain
    cases text with
    | nil => cases alike
    | cons c text =>
      obtain ⟨first, later⟩ := List.cons.inj alike
      rw [List.map_cons, toLower_eq_of_caseKey (first.trans plain.1.1) plain.1.2, ih text later plain.2]

/-- A valid name is not spelled like a keyword whose letters have no variants. -/
theorem letters_ne_of_isValidName (valid : Language.vhdl.isValidName name)
    (reserved : keyword ∈ Language.vhdlReserved) (plain : Plain keyword.toList) :
    letters name.toList ≠ letters keyword.toList := fun alike =>
  fold_ne_of_isValidName valid reserved (toLower_eq_of_letters plain alike)

end BoardBind.Vhdl
