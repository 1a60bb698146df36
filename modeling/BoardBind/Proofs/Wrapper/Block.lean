import BoardBind.Proofs.Template.Builtin
import BoardBind.Proofs.Template.ReadBack
import BoardBind.Proofs.Wrapper.Name

/-! # The characters of the blocks

The lines of a wrapper whose names are names of its language are printable code without a comment, so
that none of them can be taken for a region marker. Those that declare something or connect the ports
of the wrapped unit have no equals sign either.
-/

namespace BoardBind

open Text

variable {w : Wrapper} {inClass : Char → Bool} {text separator final : String} {ls : List String}
  {lang : Language}

/-- A wrapper all of whose names are names of its language. -/
structure Wrapper.Named (w : Wrapper) : Prop where
  unit : AllIn w.language.isNameChar w.unit
  ports : ∀ port ∈ w.ports, AllIn w.language.isNameChar port.spelling
  board : ∀ port ∈ w.board, AllIn w.language.isNameChar port.spelling
  bits : ∀ bit ∈ w.bits, w.language.IsBitName bit.name
  signals : ∀ bit ∈ w.bits, bit.isBound → w.language.IsBitName bit.signal
  defaults : ∀ entry ∈ w.defaults, w.language.IsBitName entry.1

theorem of_mem_separated (member : text ∈ separated separator final ls) :
    ∃ line ∈ ls, ∃ ending ∈ [separator, final], text = line ++ ending := by
  induction ls using separated.induct with
  | case1 => cases member
  | case2 line =>
    obtain rfl := List.mem_singleton.mp member
    exact ⟨line, List.mem_cons_self, final, by simp, rfl⟩
  | case3 line next rest ih =>
    rcases List.mem_cons.mp member with rfl | later
    · exact ⟨line, List.mem_cons_self, separator, by simp, rfl⟩
    · obtain ⟨other, inRest, ending⟩ := ih later
      exact ⟨other, List.mem_cons_of_mem _ inRest, ending⟩

/-- What holds of every written item, whichever way it ends, holds of all separated lines. -/
theorem forall_mem_separated {β : Type} {items : List β} {write : β → String} {holds : String → Prop}
    (each : ∀ item ∈ items, ∀ ending ∈ [separator, final], holds (write item ++ ending)) :
    ∀ line ∈ separated separator final (items.map write), holds line := by
  intro line member
  obtain ⟨written, listed, ending, chosen, rfl⟩ := of_mem_separated member
  obtain ⟨item, present, rfl⟩ := List.mem_map.mp listed
  exact each item present ending chosen

/-- What separated lines tell is what each of them tells, whichever way it ends. -/
theorem flatMap_separated {α β : Type} {items : List β} {write : β → String}
    {read : String → List α} {value : β → List α}
    (reads : ∀ item ∈ items, ∀ ending ∈ [separator, final],
      read (write item ++ ending) = value item) :
    (separated separator final (items.map write)).flatMap read = items.flatMap value := by
  induction items with
  | nil => rfl
  | cons item rest ih =>
    rw [List.forall_mem_cons] at reads
    cases rest with
    | nil =>
      rw [List.map_singleton, separated, List.flatMap_singleton, List.flatMap_singleton,
        reads.1 final (by simp)]
    | cons next rest =>
      have later := ih reads.2
      rw [List.map_cons] at later
      have first : read (write item ++ separator) = value item := reads.1 separator (by simp)
      rw [List.map_cons, List.map_cons, separated, List.flatMap_cons, List.flatMap_cons, first, later]

theorem allIn_separated (all : ∀ line ∈ ls, AllIn inClass line) (endings : AllIn inClass separator ∧ AllIn inClass final) :
    ∀ text ∈ separated separator final ls, AllIn inClass text := by
  intro text member
  obtain ⟨line, present, ending, chosen, rfl⟩ := of_mem_separated member
  refine allIn_append.mpr ⟨all line present, ?_⟩
  simp only [List.mem_cons, List.not_mem_nil, or_false] at chosen
  rcases chosen with rfl | rfl
  · exact endings.1
  · exact endings.2

theorem allIn_rangeText (range : BitRange) : AllIn isDeclarationChar (Port.rangeText lang range) := by
  have digits (n : UInt64) : AllIn isDeclarationChar (toString n) :=
    (allIn_isDigit_toString n.toNat).mono fun _ digit =>
      isDeclarationChar_of_isAlphanum (by simp [Char.isAlphanum, digit])
  cases lang <;> simp only [Port.rangeText, allIn_append, digits, and_true] <;> decide

theorem declarative_of_named (named : AllIn lang.isNameChar text) : AllIn isDeclarationChar text :=
  named.mono fun _ inName =>
    isDeclarationChar_of_isBindingChar (Language.isBindingChar_of_isNameChar inName)

theorem AllIn.code (declarative : AllIn isDeclarationChar text) : AllIn isCodeChar text :=
  declarative.mono fun _ inside => (Bool.and_eq_true_iff.mp inside).1

theorem AllIn.isAscii (code : AllIn isCodeChar text) : IsAscii text.toList := by
  intro c member
  have printable := code c member
  simp only [isCodeChar, Bool.and_eq_true, decide_eq_true_eq] at printable
  omega

namespace Wrapper.Named

variable {port : Port} {bit : PortBit} {entry : String × Logic}

theorem unit_chars (named : w.Named) : AllIn isDeclarationChar w.unit :=
  declarative_of_named named.unit

theorem port_chars (named : w.Named) (member : port ∈ w.ports) :
    AllIn isDeclarationChar port.spelling :=
  declarative_of_named (named.ports port member)

theorem board_chars (named : w.Named) (member : port ∈ w.board) :
    AllIn isDeclarationChar port.spelling :=
  declarative_of_named (named.board port member)

theorem bit_chars (named : w.Named) (member : bit ∈ w.bits) : AllIn isDeclarationChar bit.name :=
  (named.bits bit member).declarative

theorem signal_chars (named : w.Named) (member : bit ∈ w.bits) : AllIn isDeclarationChar bit.signal := by
  by_cases bound : bit.isBound
  · exact (named.signals bit member bound).declarative
  · have empty : bit.signal = "" := by simpa [PortBit.isBound] using bound
    rw [empty]
    decide

theorem default_chars (named : w.Named) (member : entry ∈ w.defaults) :
    AllIn isDeclarationChar entry.1 :=
  (named.defaults entry member).declarative

end Wrapper.Named

namespace Vhdl

theorem allIn_typeText (port : Port) : AllIn isDeclarationChar (typeText port) := by
  unfold typeText
  cases port.range with
  | none => decide
  | some range => exact allIn_append.mpr ⟨by decide, allIn_rangeText range⟩

theorem allIn_portText {port : Port} (named : AllIn isDeclarationChar port.spelling) :
    AllIn isDeclarationChar (portText port) := by
  have direction : AllIn isDeclarationChar port.direction.display := by
    cases port.direction <;> decide
  simp only [portText, allIn_append, named, direction, allIn_typeText, true_and, and_true]
  decide

theorem allIn_boardBlock (named : w.Named) : ∀ text ∈ boardBlock w, AllIn isDeclarationChar text := by
  unfold boardBlock
  split
  · exact fun text member => absurd member List.not_mem_nil
  · refine List.forall_mem_cons.mpr ⟨by decide, allIn_separated ?_ (by decide)⟩
    intro text member
    obtain ⟨port, present, rfl⟩ := List.mem_map.mp member
    exact allIn_append.mpr ⟨by decide, allIn_portText (named.board_chars present)⟩

theorem allIn_componentBlock (named : w.Named) :
    ∀ text ∈ componentBlock w, AllIn isDeclarationChar text := by
  have clause : ∀ text ∈ (if w.ports.isEmpty then [] else "        port (" ::
      separated ";" ");" (w.ports.map fun port => "            " ++ portText port)),
      AllIn isDeclarationChar text := by
    split
    · exact fun text member => absurd member List.not_mem_nil
    · refine List.forall_mem_cons.mpr ⟨by decide, allIn_separated ?_ (by decide)⟩
      intro text member
      obtain ⟨port, present, rfl⟩ := List.mem_map.mp member
      exact allIn_append.mpr ⟨by decide, allIn_portText (named.port_chars present)⟩
  intro text member
  rcases List.mem_append.mp member with before | last
  · rcases List.mem_append.mp before with first | inClause
    · obtain rfl := List.mem_singleton.mp first
      simp only [allIn_append, named.unit_chars, and_true]
      decide
    · exact clause text inClause
  · obtain rfl := List.mem_singleton.mp last
    decide

theorem allIn_signalBlock (named : w.Named) :
    ∀ text ∈ signalBlock w, AllIn isDeclarationChar text := by
  intro text member
  obtain ⟨port, present, rfl⟩ := List.mem_map.mp member
  simp only [allIn_append, named.port_chars present, allIn_typeText, and_true]
  decide

theorem allIn_instanceBlock (named : w.Named) : ∀ text ∈ instanceBlock w, AllIn isCodeChar text := by
  intro text member
  rcases List.mem_append.mp member with before | driven
  · rcases List.mem_append.mp before with first | associated
    · obtain rfl := List.mem_singleton.mp first
      simp only [allIn_append, named.unit_chars.code, and_true]
      decide
    · refine allIn_separated (fun line present => ?_) (by decide) text associated
      obtain ⟨bit, inBits, rfl⟩ := List.mem_map.mp present
      have fromSource : AllIn isCodeChar (source bit) := by
        unfold source
        split
        · exact (named.signal_chars inBits).code
        · cases bit.direction <;> decide
      simp only [associationText, allIn_append, (named.bit_chars inBits).code, fromSource, and_true]
      decide
  · obtain ⟨entry, present, rfl⟩ := List.mem_map.mp driven
    have level : AllIn isCodeChar (Language.vhdl.constant entry.2) := by cases entry.2 <;> decide
    simp only [defaultText, allIn_append, (named.default_chars present).code, level, and_true]
    decide

theorem allIn_testBlock (named : w.Named) : ∀ text ∈ testBlock w, AllIn isCodeChar text := by
  refine List.forall_mem_cons.mpr ⟨?_, allIn_separated ?_ (by decide)⟩
  · simp only [allIn_append, named.unit_chars.code, and_true]
    decide
  · intro text member
    obtain ⟨bit, present, rfl⟩ := List.mem_map.mp member
    simp only [allIn_append, (named.bit_chars present).code, and_true]
    decide

end Vhdl

namespace Verilog

theorem allIn_signalText {port : Port} (marked : Bool) (named : AllIn isDeclarationChar port.spelling) :
    AllIn isDeclarationChar (signalText marked port) := by
  have start : AllIn isDeclarationChar (mark marked) := by cases marked <;> decide
  unfold signalText
  cases port.range with
  | none =>
    simp only [allIn_append, start, named, and_true]
    decide
  | some range =>
    simp only [allIn_append, allIn_rangeText, start, named, and_true, true_and]
    decide

theorem allIn_boardBlock (named : w.Named) : ∀ text ∈ boardBlock w, AllIn isDeclarationChar text := by
  refine allIn_separated ?_ (by decide)
  intro text member
  obtain ⟨port, present, rfl⟩ := List.mem_map.mp member
  have declared := allIn_signalText false (named.board_chars present)
  unfold portText
  cases port.direction <;> simp only [allIn_append, declared, and_true] <;> decide

theorem allIn_signalBlock (marked : Bool) (named : w.Named) :
    ∀ text ∈ signalBlock w marked, AllIn isDeclarationChar text := by
  intro text member
  obtain ⟨port, present, rfl⟩ := List.mem_map.mp member
  simp only [allIn_append, allIn_signalText marked (named.port_chars present), and_true]
  decide

theorem allIn_instanceBlock {label : String} (marked : Bool) (named : w.Named)
    (labelled : AllIn isDeclarationChar label) :
    ∀ text ∈ instanceBlock w label marked, AllIn isDeclarationChar text := by
  refine List.forall_mem_cons.mpr ⟨?_, ?_⟩
  · simp only [allIn_append, named.unit_chars, labelled, and_true]
    decide
  · split
    · decide
    · refine allIn_separated (fun line present => ?_) (by decide)
      obtain ⟨port, inPorts, rfl⟩ := List.mem_map.mp present
      have start : AllIn isDeclarationChar (mark marked) := by cases marked <;> decide
      unfold connectionText
      simp only [allIn_append, start, named.port_chars inPorts, and_true]
      decide

theorem allIn_assignmentBlock (named : w.Named) :
    ∀ text ∈ assignmentBlock w, AllIn isCodeChar text := by
  intro text member
  rcases List.mem_append.mp member with assigned | driven
  · obtain ⟨bit, present, written⟩ := List.mem_filterMap.mp assigned
    have name := (named.bit_chars present).code
    have signal := (named.signal_chars present).code
    have tied : AllIn isCodeChar (if bit.isBound then bit.signal else Language.verilog.constant .low) := by
      split
      · exact signal
      · decide
    unfold assignmentText? at written
    split at written
    · obtain rfl := Option.some.inj written
      simp only [allIn_append, name, tied, and_true]
      decide
    · split at written
      · obtain rfl := Option.some.inj written
        simp only [allIn_append, name, signal, and_true]
        decide
      · cases written
  · obtain ⟨entry, present, rfl⟩ := List.mem_map.mp driven
    have level : AllIn isCodeChar (Language.verilog.constant entry.2) := by cases entry.2 <;> decide
    unfold defaultText
    simp only [allIn_append, (named.default_chars present).code, level, and_true]
    decide

end Verilog

/-- Every line of a block is printable code without a comment. -/
theorem Wrapper.Named.allIn_block (named : w.Named) (marker : Marker) :
    ∀ text ∈ w.block marker, AllIn isCodeChar text := by
  intro text member
  cases written : w.language <;> simp only [Wrapper.block, written] at member
  · cases marker with
    | component => exact (Vhdl.allIn_componentBlock named text member).code
    | signal marked => exact (Vhdl.allIn_signalBlock named text member).code
    | unitInstance marked => exact Vhdl.allIn_instanceBlock named text member
    | unitUnderTest => exact Vhdl.allIn_testBlock named text member
    | board => exact (Vhdl.allIn_boardBlock named text member).code
    | port | regionBegin | regionEnd => cases member
  · cases marker with
    | signal marked => exact (Verilog.allIn_signalBlock marked named text member).code
    | unitInstance marked =>
      rcases List.mem_append.mp member with connected | assigned
      · exact (Verilog.allIn_instanceBlock marked named (by decide) text connected).code
      · cases marked with
        | true => exact Verilog.allIn_assignmentBlock named text assigned
        | false => cases assigned
    | unitUnderTest => exact (Verilog.allIn_instanceBlock false named (by decide) text member).code
    | board => exact (Verilog.allIn_boardBlock named text member).code
    | component | port | regionBegin | regionEnd => cases member

theorem not_isRegionMarker_of_code {keyword : String} (code : AllIn isCodeChar text) :
    ¬ isRegionMarker keyword text.toList := by
  intro marker
  obtain ⟨indent, -, start, chosen, inside⟩ := isRegionMarker_iff.mp marker
  have commented : ∃ c ∈ ['-', '/'], c ∈ start.toList := by
    simp only [List.mem_cons, List.not_mem_nil, or_false] at chosen
    rcases chosen with rfl | rfl
    · exact ⟨'-', by decide, by decide⟩
    · exact ⟨'/', by decide, by decide⟩
  obtain ⟨c, token, member⟩ := commented
  have present : c ∈ text.toList :=
    inside.subset (List.mem_append_right _ (List.mem_append_left _ member))
  have accepted := code c present
  simp only [List.mem_cons, List.not_mem_nil, or_false] at token
  rcases token with rfl | rfl <;> exact absurd accepted (by decide)

/-- A wrapper of names can be written into a built-in template and read again. -/
theorem Wrapper.Named.fillable (named : w.Named) (kind : Builtin) :
    Fillable (kind.text w.language) w where
  templateAscii := kind.isAscii_text w.language
  templateReturns := kind.return_notMem_text w.language
  blockAscii marker text member := (named.allIn_block marker text member).isAscii
  blockReturns marker text member :=
    notMem_of_forall (named.allIn_block marker text member) (by decide)
  blockNewlines marker text member :=
    notMem_of_forall (named.allIn_block marker text member) (by decide)
  blockMarkers marker text member := by
    have code := named.allIn_block marker text member
    rintro (opening | closing)
    · exact not_isRegionMarker_of_code code opening
    · exact not_isRegionMarker_of_code code closing
  marksAlike := kind.marksAlike_text w.language

end BoardBind
