import BoardBind.Proofs.Text.Match
import BoardBind.Proofs.Vhdl.Word
import BoardBind.Vhdl.Line

/-! # The grammar of port declarations

What the line reader takes for a declaration of ports and for the bounds of a vector, told by the way
the text is put together from names, keywords, marks and blanks. The reader accepts exactly what is put
together that way, and of several declarations on a line it reads the one that starts first.
-/

namespace BoardBind.Vhdl

open Text

variable {text rest name tail gap further : List Char} {names : List (List Char)} {mark : Char}
  {inClass : Char → Bool} {direction : Direction}

/-! ## Blanks between tokens -/

/-- Blanks and nothing else. -/
def Blank (text : List Char) : Prop := ∀ c ∈ text, isBlank c

theorem trimStart_gap (blank : Blank gap) (solid : ∀ c ∈ text.head?, isBlank c = false) :
    trimStart (gap ++ text) = text := by
  rw [trimStart_append blank, trimStart_of_head solid]

theorem exists_gap (text : List Char) : ∃ gap, Blank gap ∧ text = gap ++ trimStart text :=
  ⟨text.takeWhile isBlank, fun _ => List.mem_takeWhile_imp, List.takeWhile_append_dropWhile.symm⟩

theorem head_trimStart (text : List Char) : ∀ c ∈ (trimStart text).head?, isBlank c = false := by
  intro c first
  have stops := List.head?_dropWhile_not isBlank text
  rw [← trimStart, Option.mem_def.mp first] at stops
  exact stops

/-- At least one blank is taken, and all of them. -/
theorem blanks_eq_some_iff : blanks text = some rest ↔
    (∃ gap, gap ≠ [] ∧ Blank gap ∧ text = gap ++ rest) ∧ ∀ c ∈ rest.head?, isBlank c = false := by
  constructor
  · intro taken
    cases text with
    | nil => cases taken
    | cons c text =>
      rw [blanks] at taken
      split at taken
      · next first =>
        obtain ⟨gap, blank, whole⟩ := exists_gap text
        obtain rfl := Option.some.inj taken
        exact ⟨⟨c :: gap, List.cons_ne_nil _ _, List.forall_mem_cons.mpr ⟨first, blank⟩,
          congrArg (c :: ·) whole⟩, head_trimStart text⟩
      · cases taken
  · rintro ⟨⟨gap, nonempty, blank, rfl⟩, solid⟩
    obtain ⟨c, others, rfl⟩ := List.exists_cons_of_ne_nil nonempty
    obtain ⟨first, blank⟩ := List.forall_mem_cons.mp blank
    rw [List.cons_append, blanks, if_pos first, trimStart_gap blank solid]

theorem head_cons (outside : inClass mark = false) : ∀ c ∈ (mark :: rest).head?, inClass c = false := by
  intro c first
  obtain rfl : mark = c := Option.some.inj first
  exact outside

theorem head_of_takeable (solid : ∀ c, inClass c → isBlank c = false) (taken : Takeable inClass name) :
    ∀ c ∈ (name ++ rest).head?, isBlank c = false := by
  obtain ⟨c, others, rfl⟩ := List.exists_cons_of_ne_nil taken.nonempty
  intro d first
  obtain rfl : c = d := Option.some.inj first
  exact solid c (taken.inside c List.mem_cons_self)

/-- A mark behind blanks. -/
theorem literal_trimStart_eq_some_iff (solid : isBlank mark = false) :
    literal [mark] (trimStart text) = some rest ↔ ∃ gap, Blank gap ∧ text = gap ++ mark :: rest := by
  constructor
  · intro taken
    obtain ⟨gap, blank, whole⟩ := exists_gap text
    rw [literal_eq_some_iff.mp taken] at whole
    exact ⟨gap, blank, whole⟩
  · rintro ⟨gap, blank, rfl⟩
    rw [trimStart_gap blank (head_cons solid)]
    exact literal_eq_some_iff.mpr rfl

/-- A run of a class without blanks, behind blanks. -/
theorem run_trimStart_eq_some_iff (solid : ∀ c, inClass c → isBlank c = false) :
    run inClass (trimStart text) = some (name, rest) ↔ ∃ gap, Blank gap ∧ text = gap ++ (name ++ rest) ∧
      Takeable inClass name ∧ ∀ c ∈ rest.head?, inClass c = false := by
  constructor
  · intro taken
    obtain ⟨whole, nonempty, inside, stops⟩ := run_eq_some_iff.mp taken
    obtain ⟨gap, blank, parts⟩ := exists_gap text
    exact ⟨gap, blank, whole ▸ parts, ⟨nonempty, inside⟩, stops⟩
  · rintro ⟨gap, blank, rfl, taken, stops⟩
    rw [trimStart_gap blank (head_of_takeable solid taken)]
    exact taken.run_eq stops

theorem isBlank_of_isDigit {c : Char} (digit : c.isDigit) : isBlank c = false :=
  isBlank_of_isWordChar (isWordChar_of_isDigit digit)

/-- What has the letters of a word is a word. -/
theorem isWord_of_letters {word expected : List Char} (keyword : IsWord expected)
    (alike : letters word = letters expected) : IsWord word where
  nonempty := by
    rintro rfl
    exact keyword.nonempty (List.map_eq_nil_iff.mp alike.symm)
  inside := isWordChar_of_letters keyword.inside alike

/-- A run ends in front of blanks. -/
theorem head_of_blank (solid : ∀ c, inClass c → isBlank c = false) (nonempty : gap ≠ [])
    (blank : Blank gap) : ∀ c ∈ (gap ++ rest).head?, inClass c = false := by
  obtain ⟨d, others, rfl⟩ := List.exists_cons_of_ne_nil nonempty
  intro c first
  obtain rfl : d = c := Option.some.inj first
  have blankFirst := blank d List.mem_cons_self
  by_contra inside
  rw [solid d (by simpa using inside)] at blankFirst
  cases blankFirst

/-- A run ends in front of a mark, with or without blanks between them. -/
theorem head_gap_mark (solid : ∀ c, inClass c → isBlank c = false) (blank : Blank gap)
    (outside : inClass mark = false) : ∀ c ∈ (gap ++ mark :: rest).head?, inClass c = false := by
  cases gap with
  | nil => exact head_cons outside
  | cons d gap => exact head_of_blank solid (List.cons_ne_nil d gap) blank

/-! ## The names of a declaration -/

/-- Names behind the first one of a list, each behind a comma that may have blanks on both sides. -/
inductive FurtherNames : List Char → List (List Char) → Prop
  | nil : FurtherNames [] []
  | cons {gap inner name text names} (before : Blank gap) (behind : Blank inner) (named : IsWord name)
      (further : FurtherNames text names) :
      FurtherNames (gap ++ ',' :: (inner ++ (name ++ text))) (name :: names)

theorem FurtherNames.apart (listed : FurtherNames further names) (apart : Apart tail) :
    Apart (further ++ tail) := by
  cases listed with
  | nil => exact apart
  | cons before behind named further =>
    rw [List.append_assoc, List.cons_append]
    exact head_gap_mark (fun _ => isBlank_of_isWordChar) before (by decide)

theorem FurtherNames.length_le (listed : FurtherNames further names) : names.length ≤ further.length := by
  induction listed with
  | nil => exact Nat.le_refl 0
  | cons before behind named further ih =>
    simp only [List.length_append, List.length_cons] at ih ⊢
    omega

/-- One more name of a list. -/
theorem nextName_eq_some_iff : (literal [','] (trimStart text)).bind (fun text => word (trimStart text)) =
    some (name, rest) ↔ ∃ gap inner, Blank gap ∧ Blank inner ∧ IsWord name ∧ Apart rest ∧
      text = gap ++ ',' :: (inner ++ (name ++ rest)) := by
  have comma : isBlank ',' = false := by decide
  simp only [Option.bind_eq_some_iff, literal_trimStart_eq_some_iff comma, word,
    run_trimStart_eq_some_iff fun _ => isBlank_of_isWordChar]
  constructor
  · rintro ⟨_, ⟨gap, blank, rfl⟩, inner, innerBlank, rfl, named, apart⟩
    exact ⟨gap, inner, blank, innerBlank, named, apart, rfl⟩
  · rintro ⟨gap, inner, blank, innerBlank, named, apart, rfl⟩
    exact ⟨_, ⟨gap, blank, rfl⟩, inner, innerBlank, rfl, named, apart⟩

theorem exists_furtherNames (fuel : Nat) (text : List Char) :
    ∃ further, text = further ++ (moreNames fuel text).2 ∧ FurtherNames further (moreNames fuel text).1 := by
  induction fuel generalizing text with
  | zero => exact ⟨[], rfl, .nil⟩
  | succ fuel ih =>
    rw [moreNames]
    simp only
    split
    · exact ⟨[], rfl, .nil⟩
    · next name rest next =>
      obtain ⟨gap, inner, blank, innerBlank, named, -, rfl⟩ := nextName_eq_some_iff.mp next
      obtain ⟨further, whole, listed⟩ := ih rest
      refine ⟨gap ++ ',' :: (inner ++ (name ++ further)), ?_, .cons blank innerBlank named listed⟩
      simp only [List.append_assoc, List.cons_append, ← whole]

/-- All names of a list are taken if there are steps enough for them, and no more if no comma follows. -/
theorem moreNames_of_furtherNames (listed : FurtherNames further names) (apart : Apart tail)
    (last : literal [','] (trimStart tail) = none) {fuel : Nat} (enough : names.length ≤ fuel) :
    moreNames fuel (further ++ tail) = (names, tail) := by
  induction listed generalizing fuel with
  | nil =>
    cases fuel with
    | zero => rfl
    | succ fuel => simp only [List.nil_append, moreNames, last, bind, Option.bind_none]
  | @cons gap inner name text names before behind named further ih =>
    cases fuel with
    | zero => simp at enough
    | succ fuel =>
      have next := nextName_eq_some_iff.mpr
        ⟨gap, inner, before, behind, named, further.apart apart, rfl⟩
      simp only [List.append_assoc, List.cons_append, moreNames, bind, next,
        ih (Nat.le_of_succ_le_succ enough)]

theorem exists_of_nameList {listed : List (List Char)} (found : nameList text = some (listed, rest)) :
    ∃ first further names, listed = first :: names ∧ IsWord first ∧ FurtherNames further names ∧
      text = first ++ (further ++ rest) := by
  obtain ⟨⟨first, behind⟩, taken, found⟩ := Option.bind_eq_some_iff.mp found
  obtain ⟨rfl, rfl⟩ := Prod.mk.inj (Option.some.inj found)
  obtain ⟨named, rfl⟩ := takeable_of_run taken
  obtain ⟨further, whole, names⟩ := exists_furtherNames behind.length behind
  exact ⟨first, further, _, rfl, named, names, congrArg (first ++ ·) whole⟩

theorem nameList_of_furtherNames (named : IsWord name) (listed : FurtherNames further names)
    (apart : Apart tail) (last : literal [','] (trimStart tail) = none) :
    nameList (name ++ (further ++ tail)) = some (name :: names, tail) := by
  have enough : names.length ≤ (further ++ tail).length := listed.length_le.trans (by simp)
  simp only [nameList, word_append named (listed.apart apart), bind, Option.bind_some, pure,
    moreNames_of_furtherNames listed apart last enough]

/-! ## Declarations -/

/-- The modes differ in their first letter, so a text starts with one of them at most. -/
theorem caseless_in_of_letters {word : List Char} (out : letters word = letters ['o', 'u', 't']) :
    caseless ['i', 'n'] (word ++ rest) = none := by
  cases word with
  | nil => cases out
  | cons c word =>
    have first : caseKey c = 'o' := (List.cons.inj out).1
    rw [List.cons_append, caseless, first]
    exact if_neg (by decide)

theorem isWord_display (direction : Direction) : IsWord direction.display.toList := by
  cases direction <;> decide

/-- The mode of a port, in any letter case. -/
theorem mode_eq_some_iff : mode text = some (direction, rest) ↔
    ∃ word, letters word = letters direction.display.toList ∧ text = word ++ rest := by
  have input : letters Direction.input.display.toList = letters ['i', 'n'] := by decide
  have output : letters Direction.output.display.toList = letters ['o', 'u', 't'] := by decide
  constructor
  · intro found
    rw [mode] at found
    split at found
    · next behind taken =>
      obtain ⟨rfl, rfl⟩ := Prod.mk.inj (Option.some.inj found)
      obtain ⟨word, rfl, alike⟩ := caseless_eq_some_iff.mp taken
      exact ⟨word, alike.trans input.symm, rfl⟩
    · obtain ⟨behind, taken, same⟩ := Option.map_eq_some_iff.mp found
      obtain ⟨rfl, rfl⟩ := Prod.mk.inj same
      obtain ⟨word, rfl, alike⟩ := caseless_eq_some_iff.mp taken
      exact ⟨word, alike.trans output.symm, rfl⟩
  · rintro ⟨word, alike, rfl⟩
    cases direction with
    | input => rw [mode, caseless_eq_some_iff.mpr ⟨word, rfl, alike.trans input⟩]
    | output =>
      rw [mode, caseless_in_of_letters (alike.trans output),
        caseless_eq_some_iff.mpr ⟨word, rfl, alike.trans output⟩, Option.map_some]

/-- What is written in a declaration of ports: their names, their mode, and the text behind the scalar
type. -/
structure Written where
  names : List (List Char)
  direction : Direction
  behind : List Char

/-- A text starts with a declaration `NAMES : MODE std_logic`. -/
inductive Declares : List Char → Written → Prop
  | intro {first further names colonGap modeGap mode typeGap type direction behind}
      (named : IsWord first) (listed : FurtherNames further names) (beforeColon : Blank colonGap)
      (beforeMode : Blank modeGap) (directed : letters mode = letters direction.display.toList)
      (separate : typeGap ≠ []) (beforeType : Blank typeGap)
      (typed : letters type = letters "std_logic".toList) :
      Declares (first ++ (further ++ (colonGap ++ ':' :: (modeGap ++ (mode ++ (typeGap ++ (type ++
        behind))))))) ⟨first :: names, direction, behind⟩

/-- A declaration starts with a name. -/
theorem Declares.solid {c : Char} {written : Written} (declares : Declares (c :: text) written) :
    isBlank c = false := by
  generalize whole : c :: text = line at declares
  obtain ⟨named⟩ := declares
  exact head_of_takeable (fun _ => isBlank_of_isWordChar) named c (by rw [← whole]; rfl)

/-- A text starts with the bounds of a vector: `_vector ( UPPER downto LOWER )`. -/
inductive WrittenBounds : List Char → List Char → List Char → Prop
  | intro {vector bracketGap upperGap upper downtoGap downto lowerGap lower closingGap rest}
      (typed : letters vector = letters "_vector".toList) (beforeBracket : Blank bracketGap)
      (beforeUpper : Blank upperGap) (upperDigits : Takeable Char.isDigit upper)
      (separateUpper : downtoGap ≠ []) (beforeDownto : Blank downtoGap)
      (descending : letters downto = letters "downto".toList)
      (separateLower : lowerGap ≠ []) (beforeLower : Blank lowerGap)
      (lowerDigits : Takeable Char.isDigit lower) (beforeClosing : Blank closingGap) :
      WrittenBounds (vector ++ (bracketGap ++ '(' :: (upperGap ++ (upper ++ (downtoGap ++ (downto ++
        (lowerGap ++ (lower ++ (closingGap ++ ')' :: rest))))))))) upper lower

/-- The bounds of a vector are read if both are words. -/
theorem vectorRange?_eq_some_iff {range : BitRange} : vectorRange? text = some range ↔
    ∃ upper lower u l, WrittenBounds text upper lower ∧ word64? upper = some u ∧ word64? lower = some l ∧
      range = BitRange.ofBounds u l := by
  simp only [vectorRange?, bind, pure, Option.bind_eq_some_iff, Prod.exists, Option.some_inj]
  constructor
  · rintro ⟨_, vector, _, bracket, upper, _, upperRun, _, upperEnd, _, downto, _, lowerStart, lower, _,
      lowerRun, _, closing, u, upperWord, l, lowerWord, rfl⟩
    obtain ⟨vector, rfl, typed⟩ := caseless_eq_some_iff.mp vector
    obtain ⟨bracketGap, beforeBracket, rfl⟩ := (literal_trimStart_eq_some_iff (by decide)).mp bracket
    obtain ⟨upperGap, beforeUpper, rfl, upperDigits, -⟩ :=
      (run_trimStart_eq_some_iff fun _ => isBlank_of_isDigit).mp upperRun
    obtain ⟨⟨downtoGap, separateUpper, beforeDownto, rfl⟩, -⟩ := blanks_eq_some_iff.mp upperEnd
    obtain ⟨downto, rfl, descending⟩ := caseless_eq_some_iff.mp downto
    obtain ⟨⟨lowerGap, separateLower, beforeLower, rfl⟩, -⟩ := blanks_eq_some_iff.mp lowerStart
    obtain ⟨lowerDigits, rfl⟩ := takeable_of_run lowerRun
    obtain ⟨closingGap, beforeClosing, rfl⟩ := (literal_trimStart_eq_some_iff (by decide)).mp closing
    exact ⟨upper, lower, u, l, .intro typed beforeBracket beforeUpper upperDigits separateUpper
      beforeDownto descending separateLower beforeLower lowerDigits beforeClosing, upperWord, lowerWord,
      rfl⟩
  · rintro ⟨upper, lower, u, l, written, upperWord, lowerWord, rfl⟩
    obtain ⟨typed, beforeBracket, beforeUpper, upperDigits, separateUpper, beforeDownto, descending,
      separateLower, beforeLower, lowerDigits, beforeClosing⟩ := written
    have keyword : IsWord "downto".toList := by decide
    refine ⟨_, caseless_eq_some_iff.mpr ⟨_, rfl, typed⟩,
      _, (literal_trimStart_eq_some_iff (by decide)).mpr ⟨_, beforeBracket, rfl⟩,
      upper, _, (run_trimStart_eq_some_iff fun _ => isBlank_of_isDigit).mpr
        ⟨_, beforeUpper, rfl, upperDigits, ?_⟩,
      _, blanks_eq_some_iff.mpr ⟨⟨_, separateUpper, beforeDownto, rfl⟩, ?_⟩,
      _, caseless_eq_some_iff.mpr ⟨_, rfl, descending⟩,
      _, blanks_eq_some_iff.mpr ⟨⟨_, separateLower, beforeLower, rfl⟩, ?_⟩,
      lower, _, lowerDigits.run_eq ?_,
      _, (literal_trimStart_eq_some_iff (by decide)).mpr ⟨_, beforeClosing, rfl⟩,
      u, upperWord, l, lowerWord, rfl⟩
    · exact head_of_blank (fun _ => isBlank_of_isDigit) separateUpper beforeDownto
    · exact head_of_takeable (fun _ => isBlank_of_isWordChar) (isWord_of_letters keyword descending)
    · exact head_of_takeable (fun _ => isBlank_of_isDigit) lowerDigits
    · exact head_gap_mark (fun _ => isBlank_of_isDigit) beforeClosing (by decide)

/-- Reads a declaration of ports at the front of a text. -/
def written? (text : List Char) : Option Written := do
  let (names, text) ← nameList text
  let text ← literal [':'] (trimStart text)
  let (direction, text) ← mode (trimStart text)
  let behind ← caseless "std_logic".toList (← blanks text)
  return { names, direction, behind }

/-- The reader of a declaration takes what is one, and only this. -/
theorem written?_eq_some_iff {written : Written} : written? text = some written ↔ Declares text written := by
  have typeWord : IsWord "std_logic".toList := by decide
  simp only [written?, bind, pure, Option.bind_eq_some_iff, Prod.exists, Option.some_inj]
  constructor
  · rintro ⟨listed, _, namesRead, afterColon, colon, direction, _, moded, _, modeEnd, behind, typeRead, rfl⟩
    obtain ⟨first, further, names, rfl, named, listed, rfl⟩ := exists_of_nameList namesRead
    obtain ⟨colonGap, beforeColon, rfl⟩ := (literal_trimStart_eq_some_iff (by decide)).mp colon
    obtain ⟨mode, directed, moded⟩ := mode_eq_some_iff.mp moded
    obtain ⟨modeGap, beforeMode, rfl⟩ : ∃ gap, Blank gap ∧ afterColon = gap ++ (mode ++ _) :=
      moded ▸ exists_gap afterColon
    obtain ⟨⟨typeGap, separate, beforeType, rfl⟩, -⟩ := blanks_eq_some_iff.mp modeEnd
    obtain ⟨type, rfl, typed⟩ := caseless_eq_some_iff.mp typeRead
    exact .intro named listed beforeColon beforeMode directed separate beforeType typed
  · rintro ⟨named, listed, beforeColon, beforeMode, directed, separate, beforeType, typed⟩
    -- The list of names goes on as long as commas follow, and here a colon does.
    have noComma (gap text : List Char) (blank : Blank gap) :
        literal [','] (trimStart (gap ++ ':' :: text)) = none := by
      have colon : isBlank ':' = false := by decide
      rw [trimStart_gap blank (head_cons colon)]
      rfl
    refine ⟨_, _, nameList_of_furtherNames named listed ?_ (noComma _ _ beforeColon),
      _, (literal_trimStart_eq_some_iff (by decide)).mpr ⟨_, beforeColon, rfl⟩,
      _, _, mode_eq_some_iff.mpr ⟨_, directed, ?_⟩,
      _, blanks_eq_some_iff.mpr ⟨⟨_, separate, beforeType, rfl⟩, ?_⟩,
      _, caseless_eq_some_iff.mpr ⟨_, rfl, typed⟩, rfl⟩
    · exact head_gap_mark (fun _ => isBlank_of_isWordChar) beforeColon (by decide)
    · refine trimStart_gap beforeMode (head_of_takeable (fun _ => isBlank_of_isWordChar) ?_)
      exact isWord_of_letters (isWord_display _) directed
    · exact head_of_takeable (fun _ => isBlank_of_isWordChar) (isWord_of_letters typeWord typed)

/-- The declaration of a line: of those that start anywhere on it, the one that starts first. -/
def FirstDeclared (line : List Char) (written : Written) : Prop :=
  ∃ start, Declares (line.drop start) written ∧
    ∀ earlier < start, ∀ other, ¬ Declares (line.drop earlier) other

theorem firstDeclared_iff {line : List Char} {written : Written} :
    FirstDeclared line written ↔ search written? line = some written := by
  rw [search_eq_some_iff, FirstDeclared]
  simp only [written?_eq_some_iff, Option.eq_none_iff_forall_ne_some, ne_eq]

/-- A line has at most one first declaration. -/
theorem FirstDeclared.unique {line : List Char} {one other : Written} (first : FirstDeclared line one)
    (second : FirstDeclared line other) : one = other :=
  Option.some.inj ((firstDeclared_iff.mp first).symm.trans (firstDeclared_iff.mp second))

theorem portLine?_eq_map (line : List Char) : portLine? line = (search written? line).map fun written =>
    ⟨written.names, written.direction, vectorRange? written.behind⟩ := by
  rw [← search_map]
  refine congrArg (search · line) (funext fun text => ?_)
  simp only [written?, bind, pure, Option.map_bind, Function.comp_def, Option.map_some]

/-- A line declares the ports of its first declaration, with a range if bounds follow that are words. -/
theorem portLine?_eq_some_iff {line : List Char} {decl : PortLine} : portLine? line = some decl ↔
    ∃ written, FirstDeclared line written ∧
      ⟨written.names, written.direction, vectorRange? written.behind⟩ = decl := by
  simp only [portLine?_eq_map, Option.map_eq_some_iff, firstDeclared_iff]

end BoardBind.Vhdl
