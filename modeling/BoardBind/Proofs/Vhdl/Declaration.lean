import BoardBind.Proofs.Vhdl.Grammar
import BoardBind.Proofs.Vhdl.Scan
import BoardBind.Proofs.Wrapper.Name
import BoardBind.Wrapper

/-! # Declarations of ports and instances on a line

A written declaration of ports is read back with its names, mode and range, and a direct instance with
the name of its unit. A line without a colon says neither, and a declaration of ports introduces no
construct, instantiates no unit and ends none.
-/

namespace BoardBind.Vhdl

open Text

variable {line text rest name label : List Char} {names : List (List Char)} {keyword unit : String}
  {direction : Direction} {bounds : Option (UInt64 × UInt64)} {ending : String}

/-! ## Written declarations -/

/-- The written bounds of a vector behind the name of its type. -/
def boundsText : Option (UInt64 × UInt64) → String
  | none => ""
  | some (upper, lower) => "_vector(" ++ toString upper ++ " downto " ++ toString lower ++ ")"

/-- The mode and type behind the names of a declaration. -/
def modeText (direction : Direction) (bounds : Option (UInt64 × UInt64)) : String :=
  " : " ++ direction.display ++ " std_logic" ++ boundsText bounds

/-- What stands behind a declaration of ports. -/
def endings : List String := ["", ";", ");", " );"]

/-- The bounds of a range. -/
def boundsOf (port : Port) : Option (UInt64 × UInt64) :=
  port.range.map fun range => (range.upper, range.lower)

theorem typeText_eq (port : Port) : typeText port = "std_logic" ++ boundsText (boundsOf port) := by
  rw [typeText, boundsOf]
  cases port.range with
  | none => rfl
  | some range =>
    simp only [Option.map_some, boundsText, Port.rangeText, ← String.append_assoc]
    rfl

theorem portText_eq (port : Port) :
    portText port = port.spelling ++ modeText port.direction (boundsOf port) := by
  rw [portText, typeText_eq, modeText]
  simp only [String.append_assoc]
  rfl

theorem takeable_digits (n : Nat) : Takeable Char.isDigit (toString n).toList :=
  ⟨digits_ne_nil n, allIn_isDigit_toString n⟩

theorem isWord_digits (n : Nat) : IsWord (toString n).toList :=
  ⟨digits_ne_nil n, fun c member => isWordChar_of_isDigit (allIn_isDigit_toString n c member)⟩

theorem writtenBounds_boundsText (upper lower : UInt64) (rest : List Char) :
    WrittenBounds ((boundsText (some (upper, lower))).toList ++ rest) (toString upper).toList
      (toString lower).toList := by
  have together : Blank [] := List.forall_mem_nil _
  have apart : Blank [' '] := List.forall_mem_singleton.mpr rfl
  have nonempty : [' '] ≠ [] := List.cons_ne_nil _ _
  have written : (boundsText (some (upper, lower))).toList ++ rest =
      "_vector".toList ++ ([] ++ '(' :: ([] ++ ((toString upper).toList ++ ([' '] ++ ("downto".toList ++
        ([' '] ++ ((toString lower).toList ++ ([] ++ ')' :: rest))))))))  := by
    simp [boundsText]
  rw [written]
  exact .intro rfl together together (takeable_digits upper.toNat) nonempty apart rfl nonempty apart
    (takeable_digits lower.toNat) together

theorem vectorRange?_append (bounds : Option (UInt64 × UInt64)) (known : ending ∈ endings) :
    vectorRange? ((boundsText bounds).toList ++ ending.toList) =
      bounds.map fun b => BitRange.ofBounds b.1 b.2 := by
  cases bounds with
  | none =>
    revert known ending
    decide
  | some bounds =>
    exact vectorRange?_eq_some_iff.mpr ⟨_, _, bounds.1, bounds.2, writtenBounds_boundsText ..,
      word64?_toString_word _, word64?_toString_word _, rfl⟩

/-- Names behind the first one of a list, each behind a comma. -/
def furtherNames (names : List (List Char)) : List Char :=
  names.flatMap fun name => ',' :: ' ' :: name

theorem furtherNames_furtherNames (named : ∀ name ∈ names, IsWord name) :
    FurtherNames (furtherNames names) names := by
  induction names with
  | nil => exact .nil
  | cons name names ih =>
    rw [List.forall_mem_cons] at named
    exact .cons (List.forall_mem_nil _) (List.forall_mem_singleton.mpr rfl) named.1 (ih named.2)

/-- A written declaration of ports, its names as characters. -/
def declarationChars (indent : Nat) (name : List Char) (names : List (List Char))
    (direction : Direction) (bounds : Option (UInt64 × UInt64)) (ending : String) : List Char :=
  List.replicate indent ' ' ++ (name ++ (furtherNames names ++
    ((modeText direction bounds).toList ++ ending.toList)))

theorem modeText_append (direction : Direction) (bounds : Option (UInt64 × UInt64)) (rest : List Char) :
    (modeText direction bounds).toList ++ rest = ' ' :: ':' :: ' ' :: (direction.display.toList ++
      ' ' :: ("std_logic".toList ++ ((boundsText bounds).toList ++ rest))) := by
  simp [modeText]

/-- The indentation of a declaration is passed over, as no declaration starts with a blank. -/
theorem firstDeclared_declarationChars (indent : Nat) (first : IsWord name)
    (named : ∀ name ∈ names, IsWord name) :
    FirstDeclared (declarationChars indent name names direction bounds ending)
      ⟨name :: names, direction, (boundsText bounds).toList ++ ending.toList⟩ := by
  have one : Blank [' '] := List.forall_mem_singleton.mpr rfl
  refine ⟨indent, ?_, fun earlier before other declares => ?_⟩
  · rw [declarationChars, modeText_append, List.drop_left' List.length_replicate]
    exact .intro first (furtherNames_furtherNames named) one one rfl (List.cons_ne_nil _ _) one rfl
  · obtain ⟨more, rfl⟩ := Nat.exists_eq_add_of_lt before
    rw [declarationChars, Nat.add_assoc, List.replicate_add, List.append_assoc,
      List.drop_left' List.length_replicate] at declares
    exact absurd declares.solid (by decide)

theorem portLine?_declarationChars (indent : Nat) (first : IsWord name)
    (named : ∀ name ∈ names, IsWord name) (known : ending ∈ endings) :
    portLine? (declarationChars indent name names direction bounds ending) =
      some ⟨name :: names, direction, bounds.map fun b => BitRange.ofBounds b.1 b.2⟩ :=
  portLine?_eq_some_iff.mpr ⟨_, firstDeclared_declarationChars indent first named,
    by rw [vectorRange?_append bounds known]⟩

/-- What stands behind the first name of a declaration of ports. -/
theorem apart_trimStart_declaration : Apart (trimStart (furtherNames names ++
    ((modeText direction bounds).toList ++ ending.toList))) ∧ ∀ c ∈ (trimStart (furtherNames names ++
      ((modeText direction bounds).toList ++ ending.toList))).head?, c ≠ ';' := by
  rw [modeText_append]
  cases names with
  | nil => exact ⟨apart_cons.mpr (by decide), fun c first => by
      obtain rfl : ':' = c := Option.some.inj first
      decide⟩
  | cons name names => exact ⟨apart_cons.mpr (by decide), fun c first => by
      obtain rfl : ',' = c := Option.some.inj first
      decide⟩

theorem apart_declaration : Apart (furtherNames names ++
    ((modeText direction bounds).toList ++ ending.toList)) :=
  apart_of_trimStart apart_trimStart_declaration.1

/-- A declaration of ports ends no unit. -/
theorem closes_declarationChars (indent : Nat) (first : IsWord name)
    (spelled : IsWord keyword.toList) (other : IsWord unit.toList) :
    closes keyword unit (declarationChars indent name names direction bounds ending) = false :=
  closes_of_word (fun _ member => List.eq_of_mem_replicate member ▸ rfl) first spelled other
    apart_declaration apart_trimStart_declaration.1 apart_trimStart_declaration.2

/-- A declaration of ports instantiates no unit. -/
theorem instanceName?_declarationChars (indent : Nat) (first : IsWord name) :
    instanceName? (declarationChars indent name names direction bounds ending) = none := by
  have start : trimStart (declarationChars indent name names direction bounds ending) =
      name ++ (furtherNames names ++ ((modeText direction bounds).toList ++ ending.toList)) := by
    rw [declarationChars, trimStart_append fun _ member => List.eq_of_mem_replicate member ▸ rfl,
      trimStart_word first]
  rw [instanceName?, start, word_append first apart_declaration, modeText_append]
  cases names with
  | nil => cases direction <;> rfl
  | cons name names => rfl

theorem ordinary_digits (n : Nat) : Ordinary (toString n).toList := by
  have letter : ∀ keyword ∈ headers, 't' ∈ letters keyword.toList := by decide
  intro keyword header ends
  obtain ⟨c, member, same⟩ := List.mem_map.mp (ends.subset (letter keyword header))
  have digit : c.isDigit := allIn_isDigit_toString n c member
  rcases ascii_or_variant_of_isWordChar (isWordChar_of_isDigit digit) with small | variant
  · exact forall_of_toNat_lt (fun c => c.isDigit → caseKey c ≠ 't') (by decide +kernel) small digit same
  · simp only [List.mem_cons, List.not_mem_nil, or_false] at variant
    rcases variant with rfl | rfl <;> exact absurd digit (by decide)

theorem opensNothing_ending : ∀ ending ∈ endings, OpensNothing ending.toList ∧ Apart ending.toList := by
  decide

theorem opensNothing_type (known : ending ∈ endings) :
    OpensNothing ("std_logic".toList ++ ((boundsText bounds).toList ++ ending.toList)) := by
  obtain ⟨ended, apart⟩ := opensNothing_ending ending known
  cases bounds with
  | none =>
    have scalar : IsWord "std_logic".toList := by decide
    exact ended.ordinary scalar (by decide) apart
  | some bounds =>
    have written : "std_logic".toList ++ ((boundsText (some bounds)).toList ++ ending.toList) =
        "std_logic_vector(".toList ++ ((toString bounds.1).toList ++ (" downto ".toList ++
          ((toString bounds.2).toList ++ (')' :: ending.toList)))) := by
      simp [boundsText]
    have closing : OpensNothing (')' :: ending.toList) := ended.cons (by decide)
    have lower := closing.ordinary (isWord_digits bounds.2.toNat) (ordinary_digits _)
      (apart_cons.mpr (by decide))
    have downto : OpensNothing (" downto ".toList ++ ((toString bounds.2).toList ++ (')' ::
        ending.toList))) := lower.piece (by decide)
    have upper := downto.ordinary (isWord_digits bounds.1.toNat) (ordinary_digits _)
      (apart_cons.mpr (by decide))
    rw [written]
    exact upper.piece (by decide)

/-- A declaration of ports introduces no construct. -/
theorem opensNothing_declarationChars (indent : Nat) (first : IsWord name)
    (named : ∀ name ∈ names, IsWord name) (known : ending ∈ endings) :
    OpensNothing (declarationChars indent name names direction bounds ending) := by
  have moded : OpensNothing ((modeText direction bounds).toList ++ ending.toList) := by
    rw [modeText_append]
    cases direction
    · have quiet : Quiet " : in ".toList := by decide
      exact (opensNothing_type known).piece quiet
    · have quiet : Quiet " : out ".toList := by decide
      exact (opensNothing_type known).piece quiet
  have further (names : List (List Char)) (named : ∀ name ∈ names, IsWord name) :
      OpensNothing (furtherNames names ++ ((modeText direction bounds).toList ++ ending.toList)) := by
    induction names with
    | nil => exact moded
    | cons name names ih =>
      rw [List.forall_mem_cons] at named
      simp only [furtherNames, List.flatMap_cons, List.cons_append, List.append_assoc] at ih ⊢
      refine .cons (.cons ?_ (by decide)) (by decide)
      exact (ih named.2).alone named.1 apart_trimStart_declaration.1
  exact ((further names named).alone first apart_trimStart_declaration.1).indent indent

/-! ## Declarations under the scanner -/

theorem isCode_toString (n : Nat) : IsCode (toString n).toList :=
  isCode_of_isWord (isWord_digits n)

theorem isCode_boundsText (bounds : Option (UInt64 × UInt64)) : IsCode (boundsText bounds).toList := by
  cases bounds with
  | none => exact List.forall_mem_nil _
  | some bounds =>
    have digits (n : UInt64) : IsCode (toString n).toList := isCode_toString n.toNat
    simp only [boundsText, String.toList_append, isCode_append, digits, and_true]
    decide

theorem isCode_modeText (direction : Direction) (bounds : Option (UInt64 × UInt64)) :
    IsCode (modeText direction bounds).toList := by
  simp only [modeText, String.toList_append, isCode_append, isCode_boundsText, and_true]
  cases direction <;> decide

theorem isCode_declarationChars (indent : Nat) (first : IsWord name)
    (named : ∀ name ∈ names, IsWord name) (known : ending ∈ endings) :
    IsCode (declarationChars indent name names direction bounds ending) := by
  have last : ∀ ending ∈ endings, IsCode ending.toList := by decide
  have further : IsCode (furtherNames names) := by
    intro c member
    obtain ⟨name, listed, inName⟩ := List.mem_flatMap.mp member
    have separated : IsCode (',' :: ' ' :: name) := by
      simp only [isCode_cons, isCode_of_isWord (named name listed), and_true]
      decide
    exact separated c inName
  simp only [declarationChars, isCode_append, isCode_indent, isCode_of_isWord first, further,
    isCode_modeText, last ending known, and_self]

section scanned

variable (indent : Nat) (first : IsWord name) (named : ∀ name ∈ names, IsWord name)
  (known : ending ∈ endings)

include first named known

theorem inside_declarationChars (spelled : IsWord keyword.toList) (other : IsWord unit.toList) :
    Inside keyword unit (declarationChars indent name names direction bounds ending) :=
  inside_of_line (isCode_declarationChars indent first named known)
    (opensNothing_declarationChars indent first named known)
    (closes_declarationChars indent first spelled other)

theorem portsOn_declarationChars : portsOn (declarationChars indent name names direction bounds ending) =
    (name :: names).map fun name => .declare .vhdl (String.ofList name) direction
      (bounds.map fun b => BitRange.ofBounds b.1 b.2) := by
  rw [portsOn, code_of_line (isCode_declarationChars indent first named known),
    portLine?_declarationChars indent first named known]
  rfl

theorem silent_declarationChars (other : IsWord unit.toList) :
    Silent unit (declarationChars indent name names direction bounds ending) := by
  have spelled : IsWord "architecture".toList := by decide
  exact silent_of_line (isCode_declarationChars indent first named known)
    (opensNothing_declarationChars indent first named known)
    (closes_declarationChars indent first spelled other) (instanceName?_declarationChars indent first)

end scanned

/-! ### Ports -/

theorem declare_bounds_of_range (port : Port) : Port.declare .vhdl port.spelling port.direction
    ((boundsOf port).map fun b => BitRange.ofBounds b.1 b.2) =
      .declare .vhdl port.spelling port.direction port.range := by
  rw [boundsOf]
  cases port.range with
  | none => rfl
  | some range =>
    have same : BitRange.ofBounds range.upper range.lower = range := dif_pos range.lower_le_upper
    rw [Option.map_some, Option.map_some, same]

section ports

variable {port : Port} {indent : String} (width : Nat) (blank : indent.toList = List.replicate width ' ')
  (named : IsWord port.spelling.toList) (known : ending ∈ endings)

include blank

omit known named in
theorem toList_portText : (indent ++ portText port ++ ending).toList = declarationChars width
    port.spelling.toList [] port.direction (boundsOf port) ending := by
  simp only [portText_eq, String.toList_append, blank, declarationChars, furtherNames,
    List.flatMap_nil, List.nil_append, List.append_assoc]

include named known

theorem inside_portText (spelled : IsWord keyword.toList) (other : IsWord unit.toList) :
    Inside keyword unit (indent ++ portText port ++ ending).toList := by
  rw [toList_portText width blank]
  exact inside_declarationChars width named (List.forall_mem_nil _) known spelled other

/-- A written port is read back, its range kept if it spans more than one bit. -/
theorem portsOn_portText : portsOn (indent ++ portText port ++ ending).toList =
    [.declare .vhdl port.spelling port.direction port.range] := by
  rw [toList_portText width blank, portsOn_declarationChars width named (List.forall_mem_nil _) known,
    List.map_singleton, String.ofList_toList, declare_bounds_of_range]

theorem silent_portText (other : IsWord unit.toList) :
    Silent unit (indent ++ portText port ++ ending).toList := by
  rw [toList_portText width blank]
  exact silent_declarationChars width named (List.forall_mem_nil _) known other

end ports

end BoardBind.Vhdl
