import BoardBind.Proofs.Bindings.Rendered

/-! # The statements of an instance block

An instance block consists of the instance of the wrapped unit, whose ports are connected to signals, and
of assignments. What they drive and what they connect to an input is read from both sides of each. In
Verilog the ports are connected to internal signals, so an input is traced through the one it is connected
to.
-/

namespace BoardBind

open Text

namespace Vhdl

/-- Whether an association with this text leaves its port open. -/
def isOpen (actual : String) : Bool :=
  sameIgnoringCase actual "open"

/-- The bits of the wrapped unit, each with what it is associated with. -/
def associations (w : Wrapper) : List (PortBit × String) :=
  w.bits.map fun bit => (bit, source bit)

/-- The concurrent assignments of levels to targets. -/
def levels (w : Wrapper) : List (String × String) :=
  w.defaults.map fun entry => (entry.1, Language.vhdl.constant entry.2)

/-- The lines of the instance block. -/
def statements (w : Wrapper) : List String :=
  ["    usr : " ++ w.unit ++ " port map ("] ++
    separated "," " );" ((associations w).map fun a => "        " ++ a.1.name ++ " => " ++ a.2) ++
    (levels w).map fun assigned => "    " ++ assigned.1 ++ " <= " ++ assigned.2 ++ ";"

theorem instanceBlock_eq (w : Wrapper) : instanceBlock w = statements w := by
  simp only [statements, associations, levels, List.map_map, instanceBlock]
  rfl

/-- The names of the signals that the block drives: an output drives what it is associated with. -/
def driven (w : Wrapper) : List String :=
  ((associations w).filter fun a => a.1.direction = .output && !isOpen a.2).map Prod.snd ++
    (levels w).map Prod.fst

/-- What the block connects to the input of a name. -/
def sources (w : Wrapper) (name : String) : List String :=
  ((associations w).filter fun a =>
    a.1.direction = .input && a.1.name = name && !isOpen a.2).map Prod.snd

end Vhdl

namespace Verilog

/-- The internal signal of a port. -/
def internal (port : Port) : Port :=
  { port with spelling := internalMark ++ port.spelling }

/-- The ports of the instance, each with the signal that it is connected to. -/
def connections (w : Wrapper) : List (Port × Port) :=
  w.ports.map fun port => (port, internal port)

/-- The declarations of the connected signals. -/
def declarations (w : Wrapper) : List String :=
  (connections w).map fun c => "    " ++ signalText false c.2 ++ ";"

/-- The lines of the instance. -/
def connectionLines (w : Wrapper) : List String :=
  ("    " ++ w.unit ++ " usr (") ::
    if (connections w).isEmpty then ["    );"]
    else separated "," ");" ((connections w).map fun c =>
      "        ." ++ c.1.spelling ++ "(" ++ c.2.spelling ++ ")")

/-- The two sides of the assignment between a bit and the board. -/
def assign? (bit : PortBit) : Option (String × String) :=
  match bit.direction with
  | .input =>
    some (internalMark ++ bit.name, if bit.isBound then bit.signal else Language.verilog.constant .low)
  | .output => if bit.isBound then some (bit.signal, internalMark ++ bit.name) else none

/-- The continuous assignments, each with its two sides. -/
def assigns (w : Wrapper) : List (String × String) :=
  w.bits.filterMap assign? ++
    w.defaults.map fun entry => (entry.1, Language.verilog.constant entry.2)

/-- The lines of the instance block. -/
def statements (w : Wrapper) : List String :=
  connectionLines w ++
    (assigns w).map fun assigned => "    assign " ++ assigned.1 ++ " = " ++ assigned.2 ++ ";"

theorem signalBlock_eq (w : Wrapper) : signalBlock w true = declarations w := by
  have text (port : Port) : signalText true port = signalText false (internal port) := by
    simp only [signalText, internal, mark, if_true, String.append_assoc]
    rfl
  simp only [signalBlock, declarations, connections, List.map_map, Function.comp_def, text]

theorem instanceBlock_eq (w : Wrapper) : instanceBlock w "usr" true = connectionLines w := by
  have text (port : Port) : connectionText true port =
      "        ." ++ port.spelling ++ "(" ++ (internal port).spelling ++ ")" := by
    change "        ." ++ port.spelling ++ "(" ++ internalMark ++ port.spelling ++ ")" = _
    exact congrArg (· ++ ")") String.append_assoc
  have label : "    " ++ w.unit ++ " " ++ "usr" ++ " (" = "    " ++ w.unit ++ " usr (" := by
    simp only [String.append_assoc]
    exact congrArg ("    " ++ w.unit ++ ·) rfl
  rw [instanceBlock, connectionLines, connections, List.map_map, List.isEmpty_map, label]
  simp only [Function.comp_def, ← text]

theorem assignmentBlock_eq (w : Wrapper) : assignmentBlock w =
    (assigns w).map fun assigned => "    assign " ++ assigned.1 ++ " = " ++ assigned.2 ++ ";" := by
  have texts : ∀ bit ∈ w.bits, assignmentText? bit = (assign? bit).map fun assigned =>
      "    assign " ++ assigned.1 ++ " = " ++ assigned.2 ++ ";" := by
    intro bit _
    cases direction : bit.direction with
    | input => simp [assignmentText?, assign?, direction, String.append_assoc]
    | output =>
      by_cases bound : bit.isBound <;>
        simp [assignmentText?, assign?, direction, bound, String.append_assoc]
  rw [assigns, List.map_append, List.map_filterMap, List.map_map, assignmentBlock,
    List.filterMap_congr texts]
  rfl

/-- What a signal is called: by its own name, and a vector also by the names of its bits. -/
def names (signal : Port) : List String :=
  if signal.isVector then signal.spelling :: (signal.bits .verilog).map (·.name)
  else [signal.spelling]

/-- The single bits of the instance's ports, each with the bit of the signal that it is connected to. -/
def wires (w : Wrapper) : List (PortBit × PortBit) :=
  (connections w).flatMap fun c => (c.1.bits .verilog).zip (c.2.bits .verilog)

/-- The names of the signals that the block drives: an output of the instance drives the signal that it
is connected to, and an assignment drives its left side. -/
def driven (w : Wrapper) : List String :=
  (((connections w).filter fun c => c.1.direction = .output).flatMap fun c => names c.2) ++
    (assigns w).map Prod.fst

/-- What is assigned to a signal. -/
def assigned (w : Wrapper) (signal : String) : List String :=
  ((assigns w).filter fun assigned => assigned.1 = signal).map Prod.snd

/-- What the block connects to the input of a name: what is assigned to the bit that the input is
connected to. -/
def sources (w : Wrapper) (name : String) : List String :=
  ((wires w).filter fun wire => wire.1.direction = .input && wire.1.name = name).flatMap fun wire =>
    assigned w wire.2.name

/-- The bits of an internal signal have the names of the port's bits behind the mark. -/
theorem bits_internal (port : Port) : (internal port).bits .verilog =
    (port.bits .verilog).map fun bit => { bit with name := internalMark ++ bit.name } := by
  have indexed (i : Nat) : Language.verilog.index (internalMark ++ port.spelling) i =
      internalMark ++ Language.verilog.index port.spelling i := by
    simp only [Language.index, String.append_assoc]
  unfold Port.bits internal
  cases port.range with
  | none => rfl
  | some range => simp only [List.map_map, Function.comp_def, indexed]

/-- Every bit of a port is connected to the bit of its name behind the mark. -/
theorem wires_eq (w : Wrapper) : wires w =
    (w.ports.flatMap (Port.bits .verilog)).map fun bit =>
      (bit, { bit with name := internalMark ++ bit.name }) := by
  rw [wires, connections, List.flatMap_map, List.map_flatMap]
  refine List.flatMap_congr fun port _ => ?_
  rw [bits_internal, List.map_prod_left_eq_zip]

end Verilog

namespace Wrapper

/-- The declarations of the signals that the instance block takes for granted. -/
def declarations (w : Wrapper) : List String :=
  match w.language with
  | .vhdl => []
  | .verilog => Verilog.declarations w

/-- The lines of the instance block. -/
def statements (w : Wrapper) : List String :=
  match w.language with
  | .vhdl => Vhdl.statements w
  | .verilog => Verilog.statements w

/-- The names of the signals that the instance block drives. -/
def driven (w : Wrapper) : List String :=
  match w.language with
  | .vhdl => Vhdl.driven w
  | .verilog => Verilog.driven w

/-- What the instance block connects to the input of a name. -/
def sources (w : Wrapper) (name : String) : List String :=
  match w.language with
  | .vhdl => Vhdl.sources w name
  | .verilog => Verilog.sources w name

/-- The instance block stands in the filled template of a wrapper. -/
theorem statements_isInfix (w : Wrapper) (kept : List String) :
    w.statements <:+: renderLines (Builtin.top.text w.language) w kept := by
  have inBody : w.statements <:+ w.body := by
    cases language : w.language with
    | vhdl =>
      rw [body_of_vhdl language, Vhdl.instanceBlock_eq]
      simp only [statements, language]
      exact List.suffix_cons _ _
    | verilog =>
      rw [body_of_verilog language, Verilog.instanceBlock_eq, Verilog.assignmentBlock_eq]
      simp only [statements, language]
      exact List.suffix_rfl
  rw [renderLines_top]
  refine inBody.isInfix.trans ?_
  iterate 4 refine List.IsInfix.trans ?_ (List.prefix_append _ _).isInfix
  exact (List.suffix_append _ _).isInfix

/-- The signals that the instance is connected to are declared before the first region. -/
theorem declarations_isInfix (w : Wrapper) (kept : List String) :
    w.declarations <:+: renderLines (Builtin.top.text w.language) w kept := by
  have inHeading : w.declarations <:+: w.heading := by
    cases language : w.language with
    | vhdl =>
      simp only [declarations, language]
      exact List.nil_infix
    | verilog =>
      have asked : "// USER_SIGNAL_PREFIX".toList ∈ (topLayout w.language).lead := by
        simp only [language, topLayout, Builtin.charLines, Builtin.templateLines, List.map_cons,
          List.map_nil]
        repeat rw [String.toList_ofList]
        decide +kernel
      have marked : Marker.ofLine? w.language.comment "// USER_SIGNAL_PREFIX".toList =
          some (.signal true) := by
        rw [language]
        decide
      have block : w.declarations = (w.expand "// USER_SIGNAL_PREFIX".toList).map String.ofList := by
        rw [expand_of_block marked rfl]
        simp only [declarations, language, Wrapper.block, Verilog.block, Verilog.signalBlock_eq]
        simp [Function.comp_def]
      obtain ⟨before, after, lead⟩ := List.append_of_mem asked
      rw [block, heading, lead, List.flatMap_append, List.flatMap_cons, List.map_append, List.map_append]
      exact ⟨_, _, List.append_assoc ..⟩
  rw [renderLines_top]
  refine inHeading.trans ?_
  iterate 8 refine List.IsInfix.trans ?_ (List.prefix_append _ _).isInfix
  exact List.infix_rfl

end Wrapper

end BoardBind
