import BoardBind.Proofs.Vhdl.Declaration
import BoardBind.Proofs.Vhdl.Scan

/-! # Statements of an architecture

The names in a statement are each followed by an operator, a bracket or a separator, so a statement
introduces no construct. A direct instance is told by the words `entity` and `work` behind its label; a
statement that starts with anything else than a label and these words instantiates nothing.
-/

namespace BoardBind.Vhdl

open Text

variable {line text rest name label actual : List Char} {keyword unit : String} {c : Char}

/-! ## Objects and actuals -/

/-- Text that may stand behind a name in a statement: no word follows the name there. -/
structure Trailing (text : List Char) : Prop where
  nothing : OpensNothing text
  apart : Apart (trimStart text)

instance : Decidable (Trailing text) :=
  decidable_of_iff (OpensNothing text ∧ Apart (trimStart text))
    ⟨fun ⟨nothing, apart⟩ => ⟨nothing, apart⟩, fun ⟨nothing, apart⟩ => ⟨nothing, apart⟩⟩

/-- Behind an operator, a bracket or a separator anything may stand that introduces no construct. -/
theorem Trailing.cons (later : OpensNothing rest) (sign : isWordChar c = false ∧ isBlank c = false) :
    Trailing (c :: rest) where
  nothing := later.cons sign.1
  apart := by
    rw [trimStart_of_head (by simpa using sign.2)]
    exact apart_cons.mpr sign.1

/-- What is selected of an object. -/
inductive Part where
  | whole
  | bit (i : Nat)
  | slice (upper lower : Nat)
  deriving DecidableEq

/-- What is written behind the name of an object to select a part of it. -/
def Part.written : Part → String
  | .whole => ""
  | .bit i => "(" ++ toString i ++ ")"
  | .slice upper lower => "(" ++ toString upper ++ " downto " ++ toString lower ++ ")"

/-- A selected part is trailing text in front of trailing text. -/
theorem Part.trailing (part : Part) (trailing : Trailing rest) :
    Trailing (part.written.toList ++ rest) := by
  have digits (n : Nat) {rest : List Char} (apart : Apart rest) (later : OpensNothing rest) :
      OpensNothing ((toString n).toList ++ rest) :=
    later.ordinary (isWord_digits n) (ordinary_digits n) apart
  have closed : OpensNothing (')' :: rest) := trailing.nothing.cons (by decide)
  have bracket : Apart (')' :: rest) := apart_cons.mpr (by decide)
  cases part with
  | whole => exact trailing
  | bit i =>
    have written : (Part.bit i).written.toList ++ rest =
        '(' :: ((toString i).toList ++ ')' :: rest) := by
      simp [Part.written]
    rw [written]
    exact .cons (digits i bracket closed) (by decide)
  | slice upper lower =>
    have written : (Part.slice upper lower).written.toList ++ rest = '(' :: ((toString upper).toList ++
        (" downto ".toList ++ ((toString lower).toList ++ ')' :: rest))) := by
      simp [Part.written]
    have downto : OpensNothing (" downto ".toList ++ ((toString lower).toList ++ ')' :: rest)) :=
      (digits lower bracket closed).piece (by decide)
    rw [written]
    exact .cons (digits upper (apart_cons.mpr (by decide)) downto) (by decide)

/-- A name, with or without a part that is selected of it. -/
inductive IsObject : List Char → Prop where
  | selected {name : List Char} (named : IsWord name) (part : Part) : IsObject (name ++ part.written.toList)

theorem IsObject.whole (named : IsWord name) : IsObject name := by
  have object := IsObject.selected named .whole
  rwa [Part.written, String.toList_empty, List.append_nil] at object

theorem IsObject.index {base : String} (named : IsWord base.toList) (i : Nat) :
    IsObject (Language.vhdl.index base i).toList := by
  have object := IsObject.selected named (.bit i)
  have written : (Language.vhdl.index base i).toList = base.toList ++ (Part.bit i).written.toList := by
    rw [Language.index, Part.written, ← String.toList_append]
    simp only [String.append_assoc]
  rwa [written]

/-- What a formal port is associated with: an object, a level or nothing. -/
inductive IsActual : List Char → Prop where
  | object {text : List Char} (object : IsObject text) : IsActual text
  | level (level : Logic) : IsActual (Language.vhdl.constant level).toList
  | unconnected : IsActual "open".toList

theorem IsObject.opensNothing (object : IsObject text) (trailing : Trailing rest) :
    OpensNothing (text ++ rest) := by
  obtain ⟨named, part⟩ := object
  have behind := part.trailing trailing
  rw [List.append_assoc]
  exact behind.nothing.alone named behind.apart

theorem IsActual.opensNothing (actual : IsActual text) (trailing : Trailing rest) :
    OpensNothing (text ++ rest) := by
  cases actual with
  | object object => exact object.opensNothing trailing
  | level level =>
    have quiet : ∀ level : Logic, Quiet (Language.vhdl.constant level).toList := by
      rintro (_ | _) <;> decide
    exact trailing.nothing.piece (quiet level)
  | unconnected =>
    have spelled : IsWord "open".toList := by decide
    exact trailing.nothing.ordinary spelled (by decide) (apart_of_trimStart trailing.apart)

/-- An association introduces no construct. -/
theorem opensNothing_association (formal : IsObject text) (associated : IsActual actual)
    (trailing : Trailing rest) : OpensNothing (text ++ (" => ".toList ++ (actual ++ rest))) := by
  have later := associated.opensNothing trailing
  have quiet : Quiet " => ".toList := by decide
  exact formal.opensNothing ⟨later.piece quiet, apart_cons.mpr (by decide)⟩

/-! ## Statements that start with an object -/

/-- Text behind the object at the start of a statement that is no label. -/
def Operates (text : List Char) : Prop :=
  ∀ c ∈ (trimStart text).head?, isWordChar c = false ∧ c ∉ [':', ';']

theorem operates_selected (part : Part) (operates : Operates rest) :
    Operates (part.written.toList ++ rest) := by
  cases part with
  | whole => exact operates
  | bit i =>
    intro c first
    obtain rfl : '(' = c := by simpa [Part.written, trimStart, isBlank] using first
    decide
  | slice upper lower =>
    intro c first
    obtain rfl : '(' = c := by simpa [Part.written, trimStart, isBlank] using first
    decide

section object

variable (object : IsObject text) (operates : Operates rest)

include object operates

/-- A statement that starts with an object instantiates no unit. -/
theorem instanceName?_object (indent : Nat) :
    instanceName? (List.replicate indent ' ' ++ (text ++ rest)) = none := by
  obtain ⟨named, part⟩ := object
  have behind := operates_selected part operates
  have unlabelled (rest : List Char) (operates : Operates rest) : literal [':'] (trimStart rest) = none := by
    rw [Option.eq_none_iff_forall_ne_some]
    intro after taken
    exact absurd (operates ':' (by rw [literal_eq_some_iff.mp taken]; rfl)).2 (by decide)
  rw [instanceName?, trimStart_append fun _ member => List.eq_of_mem_replicate member ▸ rfl,
    List.append_assoc, trimStart_word named,
    word_append named (apart_of_trimStart fun c first => (behind c first).1)]
  simp only [bind, Option.bind_some, unlabelled _ behind, Option.bind_none]

/-- A statement that starts with an object ends no unit. -/
theorem closes_object (indent : Nat) (spelled : IsWord keyword.toList) (other : IsWord unit.toList) :
    closes keyword unit (List.replicate indent ' ' ++ (text ++ rest)) = false := by
  obtain ⟨named, part⟩ := object
  have behind := operates_selected part operates
  have alone : Apart (trimStart (part.written.toList ++ rest)) := fun c first => (behind c first).1
  rw [List.append_assoc]
  refine closes_of_word (fun _ member => List.eq_of_mem_replicate member ▸ rfl) named spelled other
    (apart_of_trimStart alone) alone fun c first => ?_
  rintro rfl
  exact absurd (behind ';' first).2 (by decide)

end object

/-! ## Instances -/

/-- What stands behind the label of an instance. -/
theorem instanceName?_labelled (labelled : IsWord label) (indent : Nat) (text : List Char) :
    instanceName? (List.replicate indent ' ' ++ (label ++ (" : ".toList ++ text))) =
      (caseless "entity".toList (trimStart text)).bind fun text => (blanks text).bind fun text =>
        (word text).map fun (first, text) =>
          ((literal ['.'] text).bind fun text => (word text).map Prod.fst).getD first := by
  have read : word (label ++ (" : ".toList ++ text)) = some (label, " : ".toList ++ text) :=
    word_append labelled (apart_cons.mpr (by decide))
  have colon : literal [':'] (trimStart (" : ".toList ++ text)) = some (' ' :: text) := rfl
  rw [instanceName?, trimStart_append fun _ member => List.eq_of_mem_replicate member ▸ rfl,
    trimStart_word labelled, read]
  simp only [bind, pure, Option.bind_some, colon, trimStart_blank, Option.map_eq_bind]
  rfl

section instances

variable (labelled : IsWord label) (named : IsWord name) (apart : Apart rest)

include labelled named apart

/-- A direct instance is read with the name of its unit. -/
theorem instanceName?_direct (indent : Nat) :
    instanceName? (List.replicate indent ' ' ++
      (label ++ (" : ".toList ++ ("entity work.".toList ++ (name ++ rest))))) = some name := by
  have library : IsWord "work".toList := by decide
  have cut : "entity work.".toList ++ (name ++ rest) =
      "entity".toList ++ ' ' :: ("work".toList ++ '.' :: (name ++ rest)) := by simp
  have start : trimStart ("entity".toList ++ ' ' :: ("work".toList ++ '.' :: (name ++ rest))) = _ :=
    trimStart_word (by decide)
  have dot (text : List Char) : literal ['.'] ('.' :: text) = some text := rfl
  have work : word ("work".toList ++ '.' :: (name ++ rest)) = some ("work".toList, '.' :: (name ++ rest)) :=
    word_append library (apart_cons.mpr (by decide))
  rw [instanceName?_labelled labelled, cut, start, caseless_append]
  simp only [Option.bind_some, blanks_blank, trimStart_word library, work, Option.map_some, dot,
    word_append named apart, Option.getD_some]

/-- An instance of a component is read as no direct instance, if the name of the component is not the
keyword for one. -/
theorem instanceName?_ofComponent (indent : Nat) (different : letters name ≠ letters "entity".toList) :
    instanceName? (List.replicate indent ' ' ++ (label ++ (" : ".toList ++ (name ++ rest)))) = none := by
  have spelled : IsWord "entity".toList := by decide
  rw [instanceName?_labelled labelled, trimStart_word named, Option.bind_eq_none_iff]
  intro after taken
  obtain ⟨front, behind, rfl, rfl, alike⟩ :=
    (caseless_word_eq_some_iff spelled.inside apart).mp taken
  cases behind with
  | nil => exact absurd (by simpa using alike) different
  | cons c behind =>
    have blank : isBlank c = false := isBlank_of_isWordChar (named.inside c (by simp))
    rw [List.cons_append, blanks_of_head (by simpa using blank), Option.bind_none]

end instances

/-- A labelled statement ends no unit. -/
theorem closes_labelled (labelled : IsWord label) (spelled : IsWord keyword.toList)
    (other : IsWord unit.toList) (indent : Nat) :
    closes keyword unit (List.replicate indent ' ' ++ (label ++ (" : ".toList ++ text))) = false :=
  closes_of_word (fun _ member => List.eq_of_mem_replicate member ▸ rfl) labelled spelled other
    (apart_cons.mpr (by decide)) (apart_cons.mpr (by decide)) fun c first => by
      obtain rfl : ':' = c := Option.some.inj first
      decide

/-- A labelled statement introduces no construct if what stands behind the label does not. -/
theorem opensNothing_labelled (labelled : IsWord label) (later : OpensNothing text) (indent : Nat) :
    OpensNothing (List.replicate indent ' ' ++ (label ++ (" : ".toList ++ text))) := by
  have colon : OpensNothing (" : ".toList ++ text) := later.piece (by decide)
  have behind : Apart (trimStart (" : ".toList ++ text)) := apart_cons.mpr (by decide)
  exact (colon.alone labelled behind).indent indent

/-- The unit of a direct instance introduces no construct. -/
theorem opensNothing_direct (named : IsWord name) (apart : Apart rest) (unfollowed : Unfollowed rest)
    (later : OpensNothing rest) : OpensNothing ("entity work.".toList ++ (name ++ rest)) := by
  have keyword : IsWord "entity".toList := by decide
  have library : IsWord "work".toList := by decide
  have cut : "entity work.".toList ++ (name ++ rest) =
      "entity".toList ++ ' ' :: ("work".toList ++ '.' :: (name ++ rest)) := by simp
  have unit : OpensNothing (name ++ rest) := later.append (isBlank_of_isWord named) apart (.inr unfollowed)
  have selected : OpensNothing ("work".toList ++ '.' :: (name ++ rest)) :=
    .alone library (apart_cons.mpr (by decide)) (unit.cons (by decide))
  have behind : Unfollowed (' ' :: ("work".toList ++ '.' :: (name ++ rest))) :=
    unfollowed_word library (apart_cons.mpr (by decide)) fun c first => by
      obtain rfl : '.' = c := Option.some.inj first
      decide
  rw [cut]
  exact (selected.cons (by decide)).append (isBlank_of_isWord keyword) (apart_cons.mpr (by decide))
    (.inr behind)

/-! ## Statements under the scanner -/

theorem isCode_object (object : IsObject text) : IsCode text := by
  obtain ⟨named, part⟩ := object
  have selected : IsCode part.written.toList := by
    cases part with
    | whole => exact List.forall_mem_nil _
    | bit i =>
      simp only [Part.written, String.toList_append, isCode_append, isCode_toString, and_true]
      decide
    | slice upper lower =>
      simp only [Part.written, String.toList_append, isCode_append, isCode_toString, and_true]
      decide
  exact isCode_append.mpr ⟨isCode_of_isWord named, selected⟩

theorem isCode_actual (associated : IsActual text) : IsCode text := by
  cases associated with
  | object object => exact isCode_object object
  | level level => cases level <;> decide
  | unconnected => decide

section object

variable (object : IsObject text) (operates : Operates rest) (trailing : Trailing rest)
  (chars : IsCode rest) (indent : Nat)

include object operates trailing chars

/-- A statement that starts with an object is silent in its architecture. -/
theorem silent_object (other : IsWord unit.toList) :
    Silent unit (List.replicate indent ' ' ++ (text ++ rest)) := by
  have spelled : IsWord "architecture".toList := by decide
  refine silent_of_line ?_ ((object.opensNothing trailing).indent indent)
    (closes_object object operates indent spelled other) (instanceName?_object object operates indent)
  simp only [isCode_append, isCode_indent, isCode_object object, chars, and_self]

end object

theorem isCode_labelled (labelled : IsWord label) (chars : IsCode text) (indent : Nat) :
    IsCode (List.replicate indent ' ' ++ (label ++ (" : ".toList ++ text))) := by
  simp only [isCode_append, isCode_indent, isCode_of_isWord labelled, chars, and_true, true_and]
  decide

section labelled

variable (labelled : IsWord label) (named : IsWord name) (apart : Apart rest)
  (unfollowed : Unfollowed rest) (later : OpensNothing rest) (chars : IsCode rest) (indent : Nat)

include labelled named apart unfollowed later chars

/-- A direct instance stands inside of its architecture. -/
theorem inside_direct (other : IsWord unit.toList) :
    Inside "architecture" unit (List.replicate indent ' ' ++
      (label ++ (" : ".toList ++ ("entity work.".toList ++ (name ++ rest))))) := by
  have spelled : IsWord "architecture".toList := by decide
  refine inside_of_line (isCode_labelled labelled ?_ indent) (opensNothing_labelled labelled
    (opensNothing_direct named apart unfollowed later) indent)
    (closes_labelled labelled spelled other indent)
  simp only [isCode_append, isCode_of_isWord named, chars, and_true]
  decide

/-- A direct instance adds an instance of its unit. -/
theorem instancesOn_direct (unit : String) : instancesOn unit (List.replicate indent ' ' ++
    (label ++ (" : ".toList ++ ("entity work.".toList ++ (name ++ rest))))) =
      [⟨Scan.folded name, unit⟩] := by
  have selected : IsCode ("entity work.".toList ++ (name ++ rest)) := by
    simp only [isCode_append, isCode_of_isWord named, chars, and_true]
    decide
  have nothing := opensNothing_labelled labelled (opensNothing_direct named apart unfollowed later) indent
  rw [instancesOn, code_of_line (isCode_labelled labelled selected indent), Scan.child?, nothing.component,
    instanceName?_direct labelled named apart]
  rfl

/-- An instance of a component is silent: the component was added where it was declared. -/
theorem silent_ofComponent (different : letters name ≠ letters "entity".toList)
    (other : IsWord unit.toList) :
    Silent unit (List.replicate indent ' ' ++ (label ++ (" : ".toList ++ (name ++ rest)))) := by
  have spelled : IsWord "architecture".toList := by decide
  have nothing : OpensNothing (name ++ rest) :=
    later.append (isBlank_of_isWord named) apart (.inr unfollowed)
  have code : IsCode (name ++ rest) := isCode_append.mpr ⟨isCode_of_isWord named, chars⟩
  exact silent_of_line (isCode_labelled labelled code indent)
    (opensNothing_labelled labelled nothing indent) (closes_labelled labelled spelled other indent)
    (instanceName?_ofComponent labelled named apart indent different)

end labelled

end BoardBind.Vhdl
