import BoardBind.Proofs.Text.Lines
import BoardBind.Proofs.Text.Match
import BoardBind.Proofs.Wrapper.Name

/-! # Bindings on a line

A binding is read from a line only if the line has an equals sign, with a port on one side of it and
a signal on the other. A line that is written in one of these forms is read back, and neither a
carriage return behind it nor what stands before its first name changes what is read.
-/

namespace BoardBind

open Text

variable {line port signal rest : List Char} {lang : Language} {b : Binding}

/-- A name that a run over the characters of a class takes. -/
structure Takeable (inClass : Char → Bool) (text : List Char) : Prop where
  nonempty : text ≠ []
  inside : ∀ c ∈ text, inClass c

theorem Takeable.run_eq {inClass : Char → Bool} {text : List Char} (takeable : Takeable inClass text)
    (stops : ∀ c ∈ rest.head?, inClass c = false) : run inClass (text ++ rest) = some (text, rest) :=
  run_eq_some_iff.mpr ⟨rfl, takeable.nonempty, takeable.inside, stops⟩

theorem takeable_of_run {inClass : Char → Bool} {text taken : List Char}
    (success : run inClass text = some (taken, rest)) : Takeable inClass taken ∧ text = taken ++ rest :=
  have ⟨same, nonempty, inside, _⟩ := run_eq_some_iff.mp success
  ⟨⟨nonempty, inside⟩, same⟩

theorem Language.IsBitName.takeable {s : String} (name : lang.IsBitName s) :
    Takeable lang.isBindingChar s.toList :=
  ⟨fun empty => name.nonempty (String.toList_eq_nil_iff.mp empty), name.chars⟩

namespace Vhdl

theorem exists_of_association? (read : association? line = some b) :
    ∃ front rest, Takeable isBindingChar b.port.toList ∧ Takeable isBindingChar b.signal.toList ∧
      line = (front ++ b.port.toList ++ [' ']) ++ '=' :: ('>' :: ' ' :: b.signal.toList ++ rest) := by
  obtain ⟨front, behind, rfl, accepted⟩ := exists_of_search read
  obtain ⟨⟨port, afterPort⟩, portTaken, accepted⟩ := Option.bind_eq_some_iff.mp accepted
  obtain ⟨afterArrow, arrow, accepted⟩ := Option.bind_eq_some_iff.mp accepted
  obtain ⟨⟨signal, rest⟩, signalTaken, accepted⟩ := Option.bind_eq_some_iff.mp accepted
  obtain rfl := Option.some.inj accepted
  obtain ⟨portTakeable, rfl⟩ := takeable_of_run portTaken
  obtain rfl := literal_eq_some_iff.mp arrow
  obtain ⟨signalTakeable, rfl⟩ := takeable_of_run signalTaken
  refine ⟨front, rest, ?_, ?_, ?_⟩
  · rwa [String.toList_ofList]
  · rwa [String.toList_ofList]
  · simp

theorem association?_append (skipped : List Char) (skippable : ∀ c ∈ skipped, isBindingChar c = false)
    (portName : Takeable isBindingChar port) (signalName : Takeable isBindingChar signal)
    (stops : ∀ c ∈ rest.head?, isBindingChar c = false) :
    association? (skipped ++ port ++ ([' ', '=', '>', ' '] ++ signal ++ rest)) =
      some ⟨String.ofList port, String.ofList signal⟩ := by
  have portTaken : run isBindingChar (port ++ ([' ', '=', '>', ' '] ++ (signal ++ rest))) = _ :=
    portName.run_eq fun c first => by
      obtain rfl : ' ' = c := Option.some.inj first
      decide
  rw [List.append_assoc, List.append_assoc, association?, search_append]
  · apply search_of_matcher
    simp only [portTaken, literal_append, signalName.run_eq stops, bind, Option.bind_some, pure]
  · intro c member behind
    simp only [run_cons_of_neg (skippable c member), bind, Option.bind_none]

/-- An association with a character literal binds nothing. -/
theorem association?_literal (front back : List Char) (beforeSign : '=' ∉ front)
    (behindSign : '=' ∉ back) :
    association? (front ++ '=' :: ('>' :: ' ' :: '\'' :: back)) = none := by
  rw [Option.eq_none_iff_forall_ne_some]
  intro b read
  obtain ⟨otherFront, rest, -, signalName, same⟩ := exists_of_association? read
  rw [List.append_cons_inj_of_notMem beforeSign (by simpa using behindSign)] at same
  obtain ⟨-, -, same⟩ := same
  obtain ⟨first, others, signal⟩ := List.exists_cons_of_ne_nil signalName.nonempty
  simp only [signal, List.cons_append, List.cons.injEq, true_and] at same
  have inside := signalName.inside first (signal ▸ List.mem_cons_self)
  rw [← same.1] at inside
  exact absurd inside (by decide)

/-- A concurrent assignment is no association. -/
theorem association?_assignment (front back : List Char) (beforeSign : '=' ∉ front)
    (behindSign : '=' ∉ back) :
    association? (front ++ ['<'] ++ '=' :: back) = none := by
  rw [Option.eq_none_iff_forall_ne_some]
  intro b read
  obtain ⟨otherFront, rest, -, -, same⟩ := exists_of_association? read
  rw [List.append_cons_inj_of_notMem (by simpa using beforeSign) behindSign] at same
  obtain ⟨same, -⟩ := same
  have last := congrArg List.getLast? same
  simp only [List.getLast?_concat, Option.some.injEq] at last
  exact absurd last (by decide)

theorem association?_concat_return : association? (line ++ ['\r']) = association? line := by
  refine search_concat fun text => ?_
  have arrow (text : List Char) : literal [' ', '=', '>', ' '] (text ++ ['\r']) = _ :=
    literal_concat (by decide)
  have name (text : List Char) : run isBindingChar (text ++ ['\r']) = _ := run_concat (by decide)
  simp only [name, bind, Option.bind_map, Function.comp_def, arrow]

end Vhdl

namespace Verilog

/-- What an assignment to an input of the wrapped unit consists of. -/
theorem exists_of_inputBinding? (read : inputBinding? line = some b) :
    ∃ front rest, Takeable isBindingChar b.port.toList ∧ Takeable isBindingChar b.signal.toList ∧
      line = (front ++ "assign".toList ++ ' ' :: ("_usr_".toList ++ b.port.toList) ++ [' ']) ++
        '=' :: (' ' :: b.signal.toList ++ ';' :: rest) := by
  obtain ⟨front, behind, rfl, accepted⟩ := exists_of_search read
  obtain ⟨afterMark, mark, accepted⟩ := Option.bind_eq_some_iff.mp accepted
  obtain ⟨⟨port, afterPort⟩, portTaken, accepted⟩ := Option.bind_eq_some_iff.mp accepted
  obtain ⟨afterSign, sign, accepted⟩ := Option.bind_eq_some_iff.mp accepted
  obtain ⟨⟨signal, afterSignal⟩, signalTaken, accepted⟩ := Option.bind_eq_some_iff.mp accepted
  obtain ⟨rest, semicolon, accepted⟩ := Option.bind_eq_some_iff.mp accepted
  obtain rfl := Option.some.inj accepted
  obtain rfl := literal_eq_some_iff.mp mark
  obtain ⟨portTakeable, rfl⟩ := takeable_of_run portTaken
  obtain rfl := literal_eq_some_iff.mp sign
  obtain ⟨signalTakeable, rfl⟩ := takeable_of_run signalTaken
  obtain rfl := literal_eq_some_iff.mp semicolon
  refine ⟨front, rest, ?_, ?_, ?_⟩
  · rwa [String.toList_ofList]
  · rwa [String.toList_ofList]
  · simp [internalMark]

/-- What an assignment from an output of the wrapped unit consists of. -/
theorem exists_of_outputBinding? (read : outputBinding? line = some b) :
    ∃ front rest, Takeable isBindingChar b.port.toList ∧ Takeable isBindingChar b.signal.toList ∧
      line = (front ++ "assign".toList ++ ' ' :: b.signal.toList ++ [' ']) ++
        '=' :: (" _usr_".toList ++ b.port.toList ++ ';' :: rest) := by
  obtain ⟨front, behind, rfl, accepted⟩ := exists_of_search read
  obtain ⟨afterWord, word, accepted⟩ := Option.bind_eq_some_iff.mp accepted
  obtain ⟨⟨signal, afterSignal⟩, signalTaken, accepted⟩ := Option.bind_eq_some_iff.mp accepted
  obtain ⟨afterMark, mark, accepted⟩ := Option.bind_eq_some_iff.mp accepted
  obtain ⟨⟨port, afterPort⟩, portTaken, accepted⟩ := Option.bind_eq_some_iff.mp accepted
  obtain ⟨rest, semicolon, accepted⟩ := Option.bind_eq_some_iff.mp accepted
  obtain rfl := Option.some.inj accepted
  obtain rfl := literal_eq_some_iff.mp word
  obtain ⟨signalTakeable, rfl⟩ := takeable_of_run signalTaken
  obtain rfl := literal_eq_some_iff.mp mark
  obtain ⟨portTakeable, rfl⟩ := takeable_of_run portTaken
  obtain rfl := literal_eq_some_iff.mp semicolon
  refine ⟨front, rest, ?_, ?_, ?_⟩
  · rwa [String.toList_ofList]
  · rwa [String.toList_ofList]
  · simp [internalMark]

theorem inputBinding?_append (skipped rest : List Char) (skippable : 'a' ∉ skipped)
    (portName : Takeable isBindingChar port) (signalName : Takeable isBindingChar signal) :
    inputBinding? (skipped ++ "assign _usr_".toList ++ port ++
      ([' ', '=', ' '] ++ signal ++ ';' :: rest)) =
        some ⟨String.ofList port, String.ofList signal⟩ := by
  have portTaken : run isBindingChar (port ++ ([' ', '=', ' '] ++ (signal ++ ';' :: rest))) = _ :=
    portName.run_eq fun c first => by
      obtain rfl : ' ' = c := Option.some.inj first
      decide
  have signalTaken : run isBindingChar (signal ++ ([';'] ++ rest)) = _ :=
    signalName.run_eq fun c first => by
      obtain rfl : ';' = c := Option.some.inj first
      decide
  have mark : "assign _usr_".toList = "assign ".toList ++ internalMark.toList := rfl
  rw [List.append_assoc, List.append_assoc, List.append_assoc, inputBinding?, search_append]
  · apply search_of_matcher
    simp only [mark, literal_append, portTaken, bind, Option.bind_some]
    rw [← List.singleton_append, signalTaken]
    simp only [literal_append, Option.bind_some, pure]
  · intro c member behind
    have different : 'a' ≠ c := fun same => skippable (same ▸ member)
    have unread : literal ("assign ".toList ++ internalMark.toList) (c :: behind) = none :=
      if_neg different
    simp only [unread, bind, Option.bind_none]

theorem outputBinding?_append (skipped rest : List Char) (skippable : 'a' ∉ skipped)
    (portName : Takeable isBindingChar port) (signalName : Takeable isBindingChar signal) :
    outputBinding? (skipped ++ "assign ".toList ++ signal ++
      (" = _usr_".toList ++ port ++ ';' :: rest)) =
        some ⟨String.ofList port, String.ofList signal⟩ := by
  have signalTaken : run isBindingChar (signal ++ (" = _usr_".toList ++ (port ++ ';' :: rest))) = _ :=
    signalName.run_eq fun c first => by
      obtain rfl : ' ' = c := Option.some.inj first
      decide
  have portTaken : run isBindingChar (port ++ ([';'] ++ rest)) = _ :=
    portName.run_eq fun c first => by
      obtain rfl : ';' = c := Option.some.inj first
      decide
  have mark : [' ', '=', ' '] ++ internalMark.toList = " = _usr_".toList := rfl
  rw [List.append_assoc, List.append_assoc, List.append_assoc, outputBinding?, search_append]
  · apply search_of_matcher
    simp only [literal_append, signalTaken, mark, bind, Option.bind_some]
    rw [← List.singleton_append, portTaken]
    simp only [literal_append, Option.bind_some, pure]
  · intro c member behind
    have different : 'a' ≠ c := fun same => skippable (same ▸ member)
    have unread : literal "assign ".toList (c :: behind) = none := if_neg different
    simp only [unread, bind, Option.bind_none]

/-- Two texts that go on behind their last blank in the same way are the same before it. -/
theorem append_blank_inj {a b x y : List Char} (first : ' ' ∉ x) (second : ' ' ∉ y)
    (same : a ++ ' ' :: x = b ++ ' ' :: y) : a = b ∧ x = y := by
  rcases List.append_eq_append_iff.mp same with ⟨between, rfl, behind⟩ | ⟨between, rfl, behind⟩
  · cases between with
    | nil => exact ⟨(List.append_nil a).symm, (List.cons.inj behind).2⟩
    | cons c between =>
      obtain ⟨rfl, rfl⟩ := List.cons.inj behind
      exact absurd (List.mem_append_right _ List.mem_cons_self) first
  · cases between with
    | nil => exact ⟨List.append_nil b, (List.cons.inj behind).2.symm⟩
    | cons c between =>
      obtain ⟨rfl, rfl⟩ := List.cons.inj behind
      exact absurd (List.mem_append_right _ List.mem_cons_self) second

/-- An assignment to a signal that is no internal one is not read as one to an internal one. -/
theorem inputBinding?_unmarked (front back : List Char) (beforeSign : '=' ∉ front)
    (inSignal : ∀ c ∈ signal, isBindingChar c) (behindSign : '=' ∉ back)
    (unmarked : ¬ "_usr_".toList <+: signal) :
    inputBinding? (front ++ ' ' :: signal ++ [' '] ++ '=' :: back) = none := by
  rw [Option.eq_none_iff_forall_ne_some]
  intro b read
  obtain ⟨otherFront, rest, portName, -, same⟩ := exists_of_inputBinding? read
  have plain : '=' ∉ signal := notMem_of_forall inSignal (by decide)
  rw [List.append_cons_inj_of_notMem (by simp [beforeSign, plain]) behindSign] at same
  obtain ⟨same, -⟩ := same
  have port : ' ' ∉ "_usr_".toList ++ b.port.toList := by
    rw [List.mem_append, not_or]
    exact ⟨by decide, notMem_of_forall portName.inside (by decide)⟩
  obtain ⟨-, rfl⟩ := append_blank_inj (notMem_of_forall inSignal (by decide)) port
    (List.append_cancel_right same)
  exact unmarked (List.prefix_append _ _)

/-- An assignment of a constant binds nothing. -/
theorem binding?_constant (front back : List Char) (beforeSign : '=' ∉ front)
    (behindSign : '=' ∉ back) :
    binding? (front ++ '=' :: (' ' :: '1' :: '\'' :: back)) = none := by
  have absent : '=' ∉ ' ' :: '1' :: '\'' :: back := by simpa using behindSign
  rw [binding?, Option.or_eq_none_iff]
  refine ⟨Option.eq_none_iff_forall_ne_some.mpr fun b read => ?_,
    Option.eq_none_iff_forall_ne_some.mpr fun b read => ?_⟩
  · obtain ⟨otherFront, rest, -, signalName, same⟩ := exists_of_inputBinding? read
    rw [List.append_cons_inj_of_notMem beforeSign absent] at same
    obtain ⟨first, others, signal⟩ := List.exists_cons_of_ne_nil signalName.nonempty
    have inside := signalName.inside
    cases others with
    | nil => simp [signal] at same
    | cons second others =>
      simp only [signal, List.cons_append, List.cons.injEq] at same
      have quote := inside second (by simp [signal])
      rw [← same.2.2.2.2.1] at quote
      exact absurd quote (by decide)
  · obtain ⟨otherFront, rest, -, -, same⟩ := exists_of_outputBinding? read
    rw [List.append_cons_inj_of_notMem beforeSign absent] at same
    simp at same

theorem inputBinding?_concat_return : inputBinding? (line ++ ['\r']) = inputBinding? line := by
  refine search_concat fun text => ?_
  have mark (text : List Char) :
      literal ("assign ".toList ++ internalMark.toList) (text ++ ['\r']) = _ :=
    literal_concat (by decide)
  have sign (text : List Char) : literal [' ', '=', ' '] (text ++ ['\r']) = _ :=
    literal_concat (by decide)
  have semicolon (text : List Char) : literal [';'] (text ++ ['\r']) = _ :=
    literal_concat (by decide)
  have name (text : List Char) : run isBindingChar (text ++ ['\r']) = _ := run_concat (by decide)
  simp only [mark, bind, Option.bind_map, Function.comp_def, name, sign, semicolon]

theorem outputBinding?_concat_return : outputBinding? (line ++ ['\r']) = outputBinding? line := by
  refine search_concat fun text => ?_
  have word (text : List Char) : literal "assign ".toList (text ++ ['\r']) = _ :=
    literal_concat (by decide)
  have mark (text : List Char) :
      literal ([' ', '=', ' '] ++ internalMark.toList) (text ++ ['\r']) = _ :=
    literal_concat (by decide)
  have semicolon (text : List Char) : literal [';'] (text ++ ['\r']) = _ :=
    literal_concat (by decide)
  have name (text : List Char) : run isBindingChar (text ++ ['\r']) = _ := run_concat (by decide)
  simp only [word, bind, Option.bind_map, Function.comp_def, name, mark, semicolon]

end Verilog

namespace Language

/-- A line without an equals sign binds nothing. -/
theorem binding?_of_notMem (unsigned : '=' ∉ line) : lang.binding? line = none := by
  have absent {front back : List Char} (same : line = front ++ '=' :: back) : False :=
    unsigned (same ▸ List.mem_append_right _ List.mem_cons_self)
  rw [Option.eq_none_iff_forall_ne_some]
  intro b read
  cases lang with
  | vhdl =>
    obtain ⟨front, rest, -, -, same⟩ := Vhdl.exists_of_association? (Option.eq_some_of_filter_eq_some read)
    exact absent same
  | verilog =>
    rcases Option.or_eq_some_iff.mp read with input | ⟨-, output⟩
    · obtain ⟨front, rest, -, -, same⟩ := Verilog.exists_of_inputBinding? input
      exact absent same
    · obtain ⟨front, rest, -, -, same⟩ := Verilog.exists_of_outputBinding? output
      exact absent same

theorem binding?_concat_return : lang.binding? (line ++ ['\r']) = lang.binding? line := by
  cases lang with
  | vhdl => simp only [binding?, Vhdl.binding?, Vhdl.association?_concat_return]
  | verilog =>
    simp only [binding?, Verilog.binding?, Verilog.inputBinding?_concat_return,
      Verilog.outputBinding?_concat_return]

/-- Closing a line does not change what it binds. -/
theorem binding?_chomp : lang.binding? (chomp line) = lang.binding? line := by
  by_cases returned : line.getLast? = some '\r'
  · obtain ⟨init, rfl⟩ := List.getLast?_eq_some_iff.mp returned
    rw [chomp_concat_return, binding?_concat_return]
  · rw [chomp_eq_self returned]

end Language

end BoardBind
