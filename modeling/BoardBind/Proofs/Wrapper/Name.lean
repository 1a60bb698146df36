import BoardBind.Bindings
import BoardBind.Language.Identifier
import BoardBind.Text.Match
import Mathlib

/-! # Names of ports and signals

A name consists of the characters of an identifier, and the name of a bit selects one from a vector.
The reader of bindings takes such a name as a whole, and none of its characters can be taken for the
operators, literals and comment tokens around it. The name of a bit determines its vector and its
number, whatever the vector is called, and the number is read back if it fits a word.
-/

namespace BoardBind

/-- Every character of a string is in a class. -/
def AllIn (inClass : Char → Bool) (s : String) : Prop :=
  ∀ c ∈ s.toList, inClass c

variable {inClass other : Char → Bool} {s t : String} {lang : Language} {c : Char}

instance : Decidable (AllIn inClass s) :=
  List.decidableBAll (fun c : Char => inClass c) s.toList

@[simp] theorem allIn_append : AllIn inClass (s ++ t) ↔ AllIn inClass s ∧ AllIn inClass t := by
  simp only [AllIn, String.toList_append, List.forall_mem_append]

theorem AllIn.mono (all : AllIn inClass s) (wider : ∀ c, inClass c → other c) : AllIn other s :=
  fun c member => wider c (all c member)

theorem notMem_of_forall {text : List Char} (all : ∀ c ∈ text, inClass c)
    (outside : inClass c = false) : c ∉ text := by
  intro member
  have inside := all c member
  rw [outside] at inside
  exact absurd inside (by decide)

theorem toLower_of_isDigit (digit : c.isDigit) : c.toLower = c := by
  refine Char.toLower_eq_of_not_isUpper fun upper => ?_
  simp only [Char.isDigit, Char.isUpper, Bool.and_eq_true, decide_eq_true_eq, ge_iff_le,
    UInt32.le_iff_toNat_le] at digit upper
  have bounds := Nat.le_trans upper.1 digit.2
  exact absurd bounds (by decide)

theorem allIn_isDigit_toString (n : Nat) : AllIn Char.isDigit (toString n) := by
  intro c member
  have digits : (toString n).toList = Nat.toDigits 10 n := Nat.toList_repr
  rw [digits] at member
  exact Nat.isDigit_of_mem_toDigits (b := 10) (by decide) (by decide) member

/-- The characters of code that is printable and starts no comment. -/
def isCodeChar (c : Char) : Bool :=
  32 ≤ c.toNat && c.toNat < 127 && c ≠ '-' && c ≠ '/'

/-- The characters of code that binds nothing. -/
def isDeclarationChar (c : Char) : Bool :=
  isCodeChar c && c ≠ '='

namespace Language

/-- The characters of a name. -/
def isNameChar : Language → Char → Bool
  | .vhdl => fun c => c.isAlphanum || c = '_'
  | .verilog => isVerilogChar

/-- The characters of a name or a selected bit. -/
def isBindingChar : Language → Char → Bool
  | .vhdl => Vhdl.isBindingChar
  | .verilog => Verilog.isBindingChar

/-- A name of a unit, a port or a signal. -/
structure IsName (lang : Language) (s : String) : Prop where
  nonempty : s ≠ ""
  chars : AllIn lang.isNameChar s

/-- The name of a single bit: of a port or signal, or of one bit of a vector. -/
inductive IsBitName (lang : Language) : String → Prop where
  | whole {s : String} (name : lang.IsName s) : IsBitName lang s
  | selected {base : String} (name : lang.IsName base) (i : Nat) :
      IsBitName lang (lang.index base i)

theorem isBindingChar_of_isNameChar (named : lang.isNameChar c) : lang.isBindingChar c := by
  cases lang with
  | vhdl => simp_all [isNameChar, isBindingChar, Vhdl.isBindingChar]
  | verilog =>
    simp only [isNameChar, isVerilogChar, isBindingChar, Verilog.isBindingChar,
      Bool.or_eq_true] at named ⊢
    tauto

theorem isBindingChar_of_isDigit (digit : c.isDigit) : lang.isBindingChar c := by
  cases lang <;> simp [isBindingChar, Vhdl.isBindingChar, Verilog.isBindingChar, Char.isAlphanum,
    digit]

end Language

theorem isDeclarationChar_iff : isDeclarationChar c ↔
    32 ≤ c.toNat ∧ c.toNat < 127 ∧ c ∉ ['-', '/', '='] := by
  simp [isDeclarationChar, isCodeChar, and_assoc]

theorem isDeclarationChar_of_isAlphanum (alphanumeric : c.isAlphanum) : isDeclarationChar c := by
  have bounds := alphanumeric
  simp only [Char.isAlphanum, Char.isAlpha, Char.isUpper, Char.isLower, Char.isDigit,
    Bool.or_eq_true, Bool.and_eq_true, decide_eq_true_eq, UInt32.le_iff_toNat_le, ge_iff_le] at bounds
  change (65 ≤ c.toNat ∧ c.toNat ≤ 90 ∨ 97 ≤ c.toNat ∧ c.toNat ≤ 122) ∨
    48 ≤ c.toNat ∧ c.toNat ≤ 57 at bounds
  rw [isDeclarationChar_iff]
  refine ⟨by omega, by omega, ?_⟩
  intro special
  simp only [List.mem_cons, List.not_mem_nil, or_false] at special
  rcases special with rfl | rfl | rfl <;> exact absurd alphanumeric (by decide)

theorem isDeclarationChar_of_isBindingChar (bound : lang.isBindingChar c) : isDeclarationChar c := by
  cases lang with
  | vhdl =>
    simp only [Language.isBindingChar, Vhdl.isBindingChar, Bool.or_eq_true, decide_eq_true_eq] at bound
    rcases bound with ((alphanumeric | rfl) | rfl) | rfl
    · exact isDeclarationChar_of_isAlphanum alphanumeric
    all_goals decide
  | verilog =>
    simp only [Language.isBindingChar, Verilog.isBindingChar, Bool.or_eq_true,
      decide_eq_true_eq] at bound
    rcases bound with (((alphanumeric | rfl) | rfl) | rfl) | rfl
    · exact isDeclarationChar_of_isAlphanum alphanumeric
    all_goals decide

namespace Language

theorem IsName.declarative (name : lang.IsName s) : AllIn isDeclarationChar s :=
  name.chars.mono fun _ named =>
    isDeclarationChar_of_isBindingChar (isBindingChar_of_isNameChar named)

namespace IsBitName

theorem chars (name : lang.IsBitName s) : AllIn lang.isBindingChar s := by
  cases name with
  | whole name => exact name.chars.mono fun _ => isBindingChar_of_isNameChar
  | @selected base name i =>
    have inBase : AllIn lang.isBindingChar base :=
      name.chars.mono fun _ => isBindingChar_of_isNameChar
    have inNumber : AllIn lang.isBindingChar (toString i) :=
      (allIn_isDigit_toString i).mono fun _ => isBindingChar_of_isDigit
    cases lang <;> simp only [index, allIn_append] <;>
      exact ⟨⟨⟨inBase, by decide⟩, inNumber⟩, by decide⟩

theorem nonempty (name : lang.IsBitName s) : s ≠ "" := by
  cases name with
  | whole name => exact name.nonempty
  | selected name i => cases lang <;> simp [index]

theorem declarative (name : lang.IsBitName s) : AllIn isDeclarationChar s :=
  name.chars.mono fun _ => isDeclarationChar_of_isBindingChar

end IsBitName

end Language

/-! ## The numbers of bits -/

section index

variable {base other : String} {i j : Nat}

/-- There is one way only to cut a text at the last occurrence of a character. -/
theorem append_cons_inj_of_last {α : Type} {mark : α} {first second front behind : List α}
    (lastFirst : mark ∉ first) (lastSecond : mark ∉ second)
    (same : front ++ mark :: first = behind ++ mark :: second) : front = behind ∧ first = second := by
  rcases List.append_eq_append_iff.mp same with ⟨between, rfl, rest⟩ | ⟨between, rfl, rest⟩
  · cases between with
    | nil => exact ⟨(List.append_nil front).symm, (List.cons.inj rest).2⟩
    | cons c between =>
      rw [(List.cons.inj rest).2] at lastFirst
      exact absurd (List.mem_append_right between List.mem_cons_self) lastFirst
  · cases between with
    | nil => exact ⟨List.append_nil behind, (List.cons.inj rest).2.symm⟩
    | cons c between =>
      rw [(List.cons.inj rest).2] at lastSecond
      exact absurd (List.mem_append_right between List.mem_cons_self) lastSecond

/-- A name with a number in brackets behind it determines both. -/
theorem bracketed_inj (opening closing : Char) (plain : opening.isDigit = false)
    (different : opening ≠ closing)
    (same : base.toList ++ opening :: ((toString i).toList ++ [closing]) =
      other.toList ++ opening :: ((toString j).toList ++ [closing])) : base = other ∧ i = j := by
  have last (n : Nat) : opening ∉ (toString n).toList ++ [closing] := by
    rw [List.mem_append, List.mem_singleton, not_or]
    exact ⟨notMem_of_forall (allIn_isDigit_toString n) plain, different⟩
  obtain ⟨sameBase, numbers⟩ := append_cons_inj_of_last (last i) (last j) same
  exact ⟨String.toList_inj.mp sameBase,
    Nat.repr_injective (String.toList_inj.mp (List.append_cancel_right numbers))⟩

namespace Language

/-- The name of a bit determines its vector and its number. -/
theorem index_inj : lang.index base i = lang.index other j ↔ base = other ∧ i = j := by
  refine ⟨fun same => ?_, fun ⟨sameBase, sameNumber⟩ => by rw [sameBase, sameNumber]⟩
  have chars := congrArg String.toList same
  cases lang with
  | vhdl =>
    simp only [index, String.toList_append, List.append_assoc] at chars
    exact bracketed_inj '(' ')' (by decide) (by decide) chars
  | verilog =>
    simp only [index, String.toList_append, List.append_assoc] at chars
    exact bracketed_inj '[' ']' (by decide) (by decide) chars

theorem fold_index (lang : Language) (base : String) (i : Nat) :
    lang.fold (lang.index base i) = lang.index (lang.fold base) i := by
  cases lang with
  | verilog => rfl
  | vhdl =>
    have digits : (toString i).toList.map Char.toLower = (toString i).toList :=
      (List.map_congr_left fun c member =>
        toLower_of_isDigit (allIn_isDigit_toString i c member)).trans (List.map_id _)
    rw [← String.toList_inj]
    simp only [fold, index, String.toLower, String.toList_map, String.toList_append, List.map_append,
      digits]
    rfl

end Language

end index

end BoardBind

/-! ## Reading numbers that were written -/

namespace BoardBind.Text

theorem digits_ne_nil (n : Nat) : (toString n).toList ≠ [] := by
  rw [Nat.toString_eq_ofList_toDigits, String.toList_ofList]
  exact Nat.toDigits_ne_nil

theorem digitsValue_toString (n : Nat) : digitsValue (toString n).toList 0 = n := by
  rw [Nat.toString_eq_ofList_toDigits, String.toList_ofList]
  exact Nat.ofDigitChars_toDigits (by decide) (by decide)

theorem word64?_toString (n : Nat) :
    word64? (toString n).toList = if n < UInt64.size then some (UInt64.ofNat n) else none := by
  have digits : (toString n).toList.all Char.isDigit := List.all_eq_true.mpr (allIn_isDigit_toString n)
  simp only [word64?, digitsValue_toString, digits_ne_nil, digits, ne_eq, not_false_eq_true, true_and]

theorem word64?_toString_word (n : UInt64) : word64? (toString n).toList = some n := by
  have written : toString n = toString n.toNat := rfl
  rw [written, word64?_toString, if_pos n.toNat_lt_size, UInt64.ofNat_toNat]

end BoardBind.Text
