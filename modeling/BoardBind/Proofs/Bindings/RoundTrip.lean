import BoardBind.Proofs.Bindings.Rendered
import BoardBind.Proofs.Wrapper.Block

/-! # Reading back the bindings of a wrapper

The lines of a wrapper that bind a port bit to a signal of the board are read as that binding, and no
other line is read as one. A binding to a signal that VHDL takes for an open port is not read back.
-/

namespace BoardBind

open Text

variable {w : Wrapper} {kept : List String} {bit : PortBit} {ending : String}

/-- Whether a binding to a signal is read back as a binding. -/
def Language.reads : Language → String → Bool
  | .vhdl, signal => !sameIgnoringCase signal "open"
  | .verilog, _ => true

/-- The binding of a bit, if it has one that is read back. -/
def PortBit.binding? (lang : Language) (bit : PortBit) : Option Binding :=
  if bit.isBound && lang.reads bit.signal then some ⟨bit.name, bit.signal⟩ else none

/-- The bindings that are read back from a wrapper. -/
def Wrapper.recorded (w : Wrapper) : List Binding :=
  w.bits.filterMap (PortBit.binding? w.language)

/-- No bit is bound to a signal whose name looks like that of an internal one. -/
def Wrapper.Unmarked (w : Wrapper) : Prop :=
  w.language = .verilog → ∀ bit ∈ w.bits, ¬ "_usr_".toList <+: bit.signal.toList

/-- What is read from separated lines is read from each of them, whichever way it ends. -/
theorem filterMap_separated {α β : Type} {separator final : String} {items : List β}
    {write : β → String} {read : String → Option α} {value : β → Option α}
    (reads : ∀ item ∈ items, ∀ ending ∈ [separator, final],
      read (write item ++ ending) = value item) :
    (separated separator final (items.map write)).filterMap read = items.filterMap value := by
  rw [List.filterMap_eq_flatMap_toList, List.filterMap_eq_flatMap_toList]
  exact flatMap_separated fun item member ending chosen =>
    congrArg Option.toList (reads item member ending chosen)

/-- Lines for the idle levels are not read, if none of them is. -/
theorem Wrapper.Named.filterMap_defaults {α : Type} (named : w.Named) {write : String × Logic → String}
    {read : String → Option α}
    (unread : ∀ entry, AllIn isDeclarationChar entry.1 → read (write entry) = none) :
    (w.defaults.map write).filterMap read = [] := by
  rw [List.filterMap_eq_nil_iff]
  intro text member
  obtain ⟨entry, present, rfl⟩ := List.mem_map.mp member
  exact unread entry (named.default_chars present)

namespace Vhdl

section associations

variable {name signal : String} (closes : ending ∈ [",", " );"])

include closes

/-- An association with a signal, whichever way its line ends. -/
theorem association?_signal (portName : Takeable isBindingChar name.toList)
    (signalName : Takeable isBindingChar signal.toList) :
    association? ("        " ++ name ++ " => " ++ signal ++ ending).toList = some ⟨name, signal⟩ := by
  have stops : ∀ c ∈ ending.toList.head?, isBindingChar c = false := by
    simp only [List.mem_cons, List.not_mem_nil, or_false] at closes
    intro c first
    rcases closes with rfl | rfl
    · obtain rfl : ',' = c := Option.some.inj first
      decide
    · obtain rfl : ' ' = c := Option.some.inj first
      decide
  have blank : ∀ c ∈ "        ".toList, isBindingChar c = false := by simp [isBindingChar]
  have read := association?_append "        ".toList blank portName signalName stops
  simpa using read

/-- An association with the low level is not read as one. -/
theorem association?_low (unsigned : '=' ∉ name.toList) :
    association? ("        " ++ name ++ " => '0'" ++ ending).toList = none := by
  have endingUnsigned : '=' ∉ ending.toList := by
    simp only [List.mem_cons, List.not_mem_nil, or_false] at closes
    rcases closes with rfl | rfl <;> decide
  have read := association?_literal ("        ".toList ++ name.toList ++ [' '])
    ("0'".toList ++ ending.toList) (by simp [unsigned]) (by simp [endingUnsigned])
  have same : ("        " ++ name ++ " => '0'" ++ ending).toList = "        ".toList ++ name.toList ++
      [' '] ++ '=' :: '>' :: ' ' :: '\'' :: ("0'".toList ++ ending.toList) := by
    simp
  rw [same, read]

end associations

/-- An association is read as the binding of its bit. -/
theorem binding?_associationText (named : w.Named) (vhdl : w.language = .vhdl) (member : bit ∈ w.bits)
    (closes : ending ∈ [",", " );"]) :
    binding? (associationText bit ++ ending).toList = bit.binding? .vhdl := by
  have name : Takeable isBindingChar bit.name.toList := by
    have takeable := (named.bits bit member).takeable
    rwa [vhdl] at takeable
  by_cases bound : bit.isBound
  · have signal : Takeable isBindingChar bit.signal.toList := by
      have takeable := (named.signals bit member bound).takeable
      rwa [vhdl] at takeable
    have written : associationText bit = "        " ++ bit.name ++ " => " ++ bit.signal := by
      rw [associationText, source, if_pos bound]
    rw [binding?, written, association?_signal closes name signal, Option.filter_some, PortBit.binding?,
      bound, Bool.true_and]
    rfl
  · have unbound : bit.binding? .vhdl = none := by simp [PortBit.binding?, bound]
    rw [unbound]
    cases direction : bit.direction with
    | input =>
      have written : associationText bit = "        " ++ bit.name ++ " => '0'" := by
        rw [associationText, source, if_neg bound, direction, String.append_assoc]
        rfl
      have unsigned : '=' ∉ bit.name.toList := notMem_of_forall name.inside (by decide)
      rw [binding?, written, association?_low closes unsigned, Option.filter_none]
    | output =>
      have written : associationText bit = "        " ++ bit.name ++ " => " ++ "open" := by
        rw [associationText, source, if_neg bound, direction]
      have unconnected : Takeable isBindingChar "open".toList :=
        ⟨by decide, List.all_eq_true.mp (by decide)⟩
      rw [binding?, written, association?_signal closes name unconnected, Option.filter_some]
      exact if_neg (by simp [sameIgnoringCase])

/-- An idle level is not read as a binding. -/
theorem binding?_defaultText {entry : String × Logic} (declarative : AllIn isDeclarationChar entry.1) :
    binding? (defaultText entry).toList = none := by
  have unsigned : '=' ∉ entry.1.toList := notMem_of_forall declarative (by decide)
  have level : '=' ∉ (Language.vhdl.constant entry.2).toList := by cases entry.2 <;> decide
  have read := association?_assignment ("    ".toList ++ entry.1.toList ++ [' '])
    (' ' :: (Language.vhdl.constant entry.2).toList ++ [';'])
    (by simp [unsigned]) (by simp [level])
  have same : (defaultText entry).toList = "    ".toList ++ entry.1.toList ++ [' '] ++ ['<'] ++
      '=' :: (' ' :: (Language.vhdl.constant entry.2).toList ++ [';']) := by
    simp [defaultText]
  rw [binding?, same, read, Option.filter_none]

/-- The instance of the wrapped unit is read as the bindings of its bits. -/
theorem writtenBindings_instanceBlock (named : w.Named) (vhdl : w.language = .vhdl) :
    writtenBindings .vhdl (instanceBlock w) = w.recorded := by
  have plain : ∀ text ∈ instanceBlock w, '\n' ∉ text.toList := fun text member =>
    notMem_of_forall (allIn_instanceBlock named text member) (by decide)
  have unsigned : '=' ∉ w.unit.toList := notMem_of_forall named.unit_chars (by decide)
  have header : ["    usr : " ++ w.unit ++ " port map ("].filterMap
      (fun line => binding? line.toList) = [] := by
    rw [List.filterMap_eq_nil_iff]
    intro text first
    obtain rfl := List.mem_singleton.mp first
    change Language.vhdl.binding? _ = none
    exact Language.binding?_of_notMem (by simp [unsigned])
  have associations : (separated "," " );" (w.bits.map associationText)).filterMap
      (fun line => binding? line.toList) = w.bits.filterMap (PortBit.binding? .vhdl) :=
    filterMap_separated fun bit member ending closes =>
      binding?_associationText named vhdl member closes
  have levels : (w.defaults.map defaultText).filterMap (fun line => binding? line.toList) = [] :=
    named.filterMap_defaults fun _ => binding?_defaultText
  rw [writtenBindings_of_plain plain]
  change List.filterMap (fun line => binding? line.toList) (instanceBlock w) = _
  rw [instanceBlock, List.filterMap_append, List.filterMap_append, header, associations, levels,
    List.nil_append, List.append_nil, Wrapper.recorded, vhdl]

end Vhdl

namespace Verilog

section assignments

variable {name signal : String}

/-- An assigned level is not read as a binding. -/
theorem binding?_level {target : String} (unsigned : '=' ∉ target.toList) (level : Logic) :
    binding? ("    assign " ++ target ++ " = " ++ Language.verilog.constant level ++ ";").toList =
      none := by
  have read := binding?_constant ("    assign ".toList ++ target.toList ++ [' '])
    ('b' :: level.digit.toList ++ [';']) (by simp [unsigned]) (by cases level <;> decide)
  have same : ("    assign " ++ target ++ " = " ++ Language.verilog.constant level ++ ";").toList =
      "    assign ".toList ++ target.toList ++ [' '] ++
        '=' :: ' ' :: '1' :: '\'' :: ('b' :: level.digit.toList ++ [';']) := by
    cases level <;> simp [Language.constant, Logic.digit]
  rw [same, read]

/-- The assignment of a signal to an internal one binds it. -/
theorem binding?_inward (portName : Takeable isBindingChar name.toList)
    (signalName : Takeable isBindingChar signal.toList) :
    binding? ("    assign " ++ internalMark ++ name ++ " = " ++ signal ++ ";").toList =
      some ⟨name, signal⟩ := by
  have read := inputBinding?_append "    ".toList [] (by decide) portName signalName
  have same : ("    assign " ++ internalMark ++ name ++ " = " ++ signal ++ ";").toList =
      "    ".toList ++ "assign _usr_".toList ++ name.toList ++
        ([' ', '=', ' '] ++ signal.toList ++ [';']) := by
    simp [internalMark]
  rw [binding?, same, read, Option.some_or, String.ofList_toList, String.ofList_toList]

/-- The assignment of an internal signal to another one binds this one. -/
theorem binding?_outward (portName : Takeable isBindingChar name.toList)
    (signalName : Takeable isBindingChar signal.toList)
    (unmarked : ¬ "_usr_".toList <+: signal.toList) :
    binding? ("    assign " ++ signal ++ " = " ++ internalMark ++ name ++ ";").toList =
      some ⟨name, signal⟩ := by
  have unsigned : '=' ∉ name.toList := notMem_of_forall portName.inside (by decide)
  have read := outputBinding?_append "    ".toList [] (by decide) portName signalName
  have passed := inputBinding?_unmarked "    assign".toList
    (" _usr_".toList ++ name.toList ++ [';']) (by decide) signalName.inside
    (by simp [unsigned]) unmarked
  have same : ("    assign " ++ signal ++ " = " ++ internalMark ++ name ++ ";").toList =
      "    ".toList ++ "assign ".toList ++ signal.toList ++
        (" = _usr_".toList ++ name.toList ++ [';']) := by
    simp [internalMark]
  have split : "    ".toList ++ "assign ".toList ++ signal.toList ++
        (" = _usr_".toList ++ name.toList ++ [';']) =
      "    assign".toList ++ ' ' :: signal.toList ++ [' '] ++
        '=' :: (" _usr_".toList ++ name.toList ++ [';']) := by
    simp
  rw [binding?, same, read, split, passed, Option.none_or, String.ofList_toList, String.ofList_toList]

end assignments

/-- An assignment is read as the binding of its bit. -/
theorem binding?_assignmentText (named : w.Named) (verilog : w.language = .verilog)
    (member : bit ∈ w.bits) (unmarked : ¬ "_usr_".toList <+: bit.signal.toList) :
    ((assignmentText? bit).bind fun line => binding? line.toList) = bit.binding? .verilog := by
  have name : Takeable isBindingChar bit.name.toList := by
    have takeable := (named.bits bit member).takeable
    rwa [verilog] at takeable
  have bindingOf : bit.binding? .verilog = if bit.isBound then some ⟨bit.name, bit.signal⟩ else none := by
    simp only [PortBit.binding?, Language.reads, Bool.and_true]
  rw [bindingOf]
  by_cases bound : bit.isBound
  · have signal : Takeable isBindingChar bit.signal.toList := by
      have takeable := (named.signals bit member bound).takeable
      rwa [verilog] at takeable
    cases direction : bit.direction with
    | input =>
      simp only [assignmentText?, direction, if_pos bound, Option.bind_some]
      exact binding?_inward name signal
    | output =>
      simp only [assignmentText?, direction, if_pos bound, Option.bind_some]
      exact binding?_outward name signal unmarked
  · cases direction : bit.direction with
    | input =>
      have unsigned : '=' ∉ (internalMark ++ bit.name).toList := by
        have inName : '=' ∉ bit.name.toList := notMem_of_forall name.inside (by decide)
        simp [internalMark, inName]
      have tied := binding?_level unsigned .low
      rw [← String.append_assoc] at tied
      simp only [assignmentText?, direction, if_neg bound, Option.bind_some]
      exact tied
    | output =>
      simp only [assignmentText?, direction, if_neg bound]
      rfl

/-- An idle level is not read as a binding. -/
theorem binding?_defaultText {entry : String × Logic} (declarative : AllIn isDeclarationChar entry.1) :
    binding? (defaultText entry).toList = none :=
  binding?_level (notMem_of_forall declarative (by decide)) entry.2

/-- The assignments of a wrapper are read as the bindings of its bits. -/
theorem writtenBindings_assignmentBlock (named : w.Named) (verilog : w.language = .verilog)
    (unmarked : w.Unmarked) : writtenBindings .verilog (assignmentBlock w) = w.recorded := by
  have plain : ∀ text ∈ assignmentBlock w, '\n' ∉ text.toList := fun text member =>
    notMem_of_forall (allIn_assignmentBlock named text member) (by decide)
  have assignments : (w.bits.filterMap assignmentText?).filterMap (fun line => binding? line.toList) =
      w.bits.filterMap (PortBit.binding? .verilog) := by
    rw [List.filterMap_filterMap]
    exact List.filterMap_congr fun bit member =>
      binding?_assignmentText named verilog member (unmarked verilog bit member)
  have levels : (w.defaults.map defaultText).filterMap (fun line => binding? line.toList) = [] :=
    named.filterMap_defaults fun _ => binding?_defaultText
  rw [writtenBindings_of_plain plain]
  change List.filterMap (fun line => binding? line.toList) (assignmentBlock w) = _
  rw [assignmentBlock, List.filterMap_append, assignments, levels, List.append_nil,
    Wrapper.recorded, verilog]

end Verilog

/-- Lines that declare something bind nothing. -/
theorem writtenBindings_of_declarative {ls : List String} {lang : Language}
    (declarative : ∀ text ∈ ls, AllIn isDeclarationChar text) : writtenBindings lang ls = [] :=
  writtenBindings_of_unsigned fun text member =>
    ⟨notMem_of_forall (declarative text member) (by decide),
      notMem_of_forall (declarative text member) (by decide)⟩

namespace Wrapper.Named

theorem writtenBindings_body (named : w.Named) (unmarked : w.Unmarked) :
    writtenBindings w.language w.body = w.recorded := by
  cases written : w.language with
  | vhdl =>
    rw [body_of_vhdl written, ← List.singleton_append, writtenBindings_append,
      Vhdl.writtenBindings_instanceBlock named written, writtenBindings_of_declarative (by decide),
      List.nil_append]
  | verilog =>
    rw [body_of_verilog written, writtenBindings_append,
      Verilog.writtenBindings_assignmentBlock named written unmarked,
      writtenBindings_of_declarative (Verilog.allIn_instanceBlock true named (by decide)),
      List.nil_append]

/-- The blocks before the regions declare something. -/
theorem allIn_declarations (named : w.Named) {marker : Marker}
    (declares : marker ∈ [.component, .signal true, .board]) :
    ∀ text ∈ w.block marker, AllIn isDeclarationChar text := by
  simp only [List.mem_cons, List.not_mem_nil, or_false] at declares
  intro text member
  cases written : w.language <;> simp only [Wrapper.block, written] at member
  · rcases declares with rfl | rfl | rfl
    · exact Vhdl.allIn_componentBlock named text member
    · exact Vhdl.allIn_signalBlock named text member
    · exact Vhdl.allIn_boardBlock named text member
  · rcases declares with rfl | rfl | rfl
    · cases member
    · exact Verilog.allIn_signalBlock true named text member
    · exact Verilog.allIn_boardBlock named text member

theorem writtenBindings_heading (named : w.Named) : writtenBindings w.language w.heading = [] := by
  refine writtenBindings_of_unsigned fun text member => ?_
  obtain ⟨piece, inHeading, rfl⟩ := List.mem_map.mp member
  obtain ⟨line, inLead, replaced⟩ := List.mem_flatMap.mp inHeading
  obtain ⟨plain, declares⟩ := topLayout_lead w.language line inLead
  rw [String.toList_ofList]
  cases found : Marker.ofLine? w.language.comment line with
  | none =>
    rw [expand_of_none found] at replaced
    exact List.mem_singleton.mp replaced ▸ plain
  | some marker =>
    have kind := declares marker found
    have block : marker.mark? = none := by
      simp only [List.mem_cons, List.not_mem_nil, or_false] at kind
      rcases kind with rfl | rfl | rfl <;> rfl
    rw [expand_of_block found block] at replaced
    obtain ⟨text, inBlock, rfl⟩ := List.mem_map.mp replaced
    have declarative := named.allIn_declarations kind text inBlock
    exact ⟨notMem_of_forall declarative (by decide), notMem_of_forall declarative (by decide)⟩

/-- What is read from a filled template of a wrapper. -/
theorem readBindings_render (named : w.Named) (unmarked : w.Unmarked) (kept : List String) :
    readBindings w.language (render (Builtin.top.text w.language) w kept).toList =
      readBindings w.language (kept[0]?.getD "").toList ++ w.recorded ++
        readBindings w.language (kept[1]?.getD "").toList := by
  rw [readBindings_render_top, named.writtenBindings_heading, named.writtenBindings_body unmarked,
    List.nil_append]

end Wrapper.Named

/-- A signal whose bindings are told from the other lines of a wrapper: in VHDL it is not the word for
an open port, and in Verilog it does not look like an internal signal. -/
def Language.Tells : Language → String → Prop
  | .vhdl, signal => ¬ sameIgnoringCase signal "open"
  | .verilog, signal => ¬ Verilog.internalMark.toList <+: signal.toList

/-- The preserved texts have no line that is read as a binding. -/
def Silent (lang : Language) (kept : List String) : Prop :=
  ∀ text ∈ kept, ∀ line ∈ lines text.toList, lang.binding? line = none

instance (lang : Language) (kept : List String) : Decidable (Silent lang kept) :=
  inferInstanceAs (Decidable (∀ text ∈ kept, ∀ line ∈ lines text.toList, _ = none))

theorem Silent.readBindings_getD {lang : Language} (silent : Silent lang kept) (i : Nat) :
    readBindings lang (kept[i]?.getD "").toList = [] := by
  cases found : kept[i]? with
  | none => rfl
  | some text => exact List.filterMap_eq_nil_iff.mpr (silent text (List.mem_of_getElem? found))

/-- Reading a wrapper gives back the bindings that it was written from, in the order of the bits, and
nothing else. -/
theorem readBindings_eq_bound (named : w.Named)
    (told : ∀ bit ∈ w.bits, bit.isBound → w.language.Tells bit.signal)
    (silent : Silent w.language kept) :
    readBindings w.language (render (Builtin.top.text w.language) w kept).toList =
      (w.bits.filter PortBit.isBound).map fun bit => ⟨bit.name, bit.signal⟩ := by
  have unmarked : w.Unmarked := by
    intro verilog bit member marked
    by_cases bound : bit.isBound
    · have apart := told bit member bound
      rw [verilog] at apart
      exact apart marked
    · have empty : bit.signal = "" := by simpa [PortBit.isBound] using bound
      rw [empty] at marked
      exact absurd marked (by decide)
  have recorded : ∀ bit ∈ w.bits, bit.binding? w.language =
      if bit.isBound then some ⟨bit.name, bit.signal⟩ else none := by
    intro bit member
    by_cases bound : bit.isBound
    · have reads : w.language.reads bit.signal := by
        have apart := told bit member bound
        cases written : w.language with
        | vhdl =>
          rw [written] at apart
          simpa [Language.reads, Language.Tells] using apart
        | verilog => rfl
      rw [PortBit.binding?, bound, reads]
      rfl
    · simp [PortBit.binding?, bound]
  rw [named.readBindings_render unmarked, silent.readBindings_getD, silent.readBindings_getD,
    List.nil_append, List.append_nil, Wrapper.recorded, List.filterMap_congr recorded]
  rw [← List.filterMap_eq_map, List.filterMap_filter]
  rfl

/-- A wrapper with a binding in either direction, an unbound bit in either direction and a signal at
its idle level. -/
def counterWrapper (lang : Language) : Wrapper where
  language := lang
  unit := "Counter"
  ports := [.declare lang "clk" .input none, .declare lang "en" .input none,
    .ofWidth lang "q" .output 2]
  bits := [⟨"clk", .input, "CLK"⟩, ⟨"en", .input, ""⟩,
    ⟨lang.index "q" 1, .output, lang.index "LD" 3⟩, ⟨lang.index "q" 0, .output, ""⟩]
  defaults := [("DP", .high), (lang.index "LD" 0, .low)]
  board := [.declare lang "CLK" .input none, .ofWidth lang "LD" .output 4]

theorem named_counterWrapper (lang : Language) : (counterWrapper lang).Named := by
  have name (s : String) (inList : s ∈ ["Counter", "clk", "en", "q", "CLK", "LD", "DP"]) :
      lang.IsName s := by
    have all : ∀ s ∈ ["Counter", "clk", "en", "q", "CLK", "LD", "DP"],
        s ≠ "" ∧ AllIn lang.isNameChar s := by
      cases lang <;> decide
    exact ⟨(all s inList).1, (all s inList).2⟩
  have unbound (s : String) (direction : Direction) : ¬ (PortBit.mk s direction "").isBound := by
    simp [PortBit.isBound]
  constructor
  case unit => exact (name "Counter" (by decide)).chars
  case ports =>
    simp only [counterWrapper, List.forall_mem_cons]
    exact ⟨(name "clk" (by decide)).chars, (name "en" (by decide)).chars,
      (name "q" (by decide)).chars, by simp⟩
  case board =>
    simp only [counterWrapper, List.forall_mem_cons]
    exact ⟨(name "CLK" (by decide)).chars, (name "LD" (by decide)).chars, by simp⟩
  case bits =>
    simp only [counterWrapper, List.forall_mem_cons]
    exact ⟨.whole (name "clk" (by decide)), .whole (name "en" (by decide)),
      .selected (name "q" (by decide)) 1, .selected (name "q" (by decide)) 0, by simp⟩
  case signals =>
    simp only [counterWrapper, List.forall_mem_cons]
    exact ⟨fun _ => .whole (name "CLK" (by decide)), fun bound => absurd bound (unbound _ _),
      fun _ => .selected (name "LD" (by decide)) 3, fun bound => absurd bound (unbound _ _), by simp⟩
  case defaults =>
    simp only [counterWrapper, List.forall_mem_cons]
    exact ⟨.whole (name "DP" (by decide)), .selected (name "LD" (by decide)) 0, by simp⟩

theorem tells_counterWrapper (lang : Language) : ∀ bit ∈ (counterWrapper lang).bits, bit.isBound →
    (counterWrapper lang).language.Tells bit.signal := by
  have bound : ∀ bit ∈ (counterWrapper lang).bits, bit.isBound →
      bit.signal ∈ ["CLK", lang.index "LD" 3] := by
    cases lang <;> decide
  have tells : ∀ signal ∈ ["CLK", lang.index "LD" 3], lang.Tells signal := by
    cases lang <;> simp only [Language.Tells] <;> decide +kernel
  exact fun bit member isBound => tells bit.signal (bound bit member isBound)

/-- Texts of an owner, one of which has a carriage return at the end of its line. -/
def ownedTexts : List String := ["    signal n : integer;\n", "    assert n = 0;\r\n"]

theorem readBindings_counterWrapper :
    (∀ lang, (counterWrapper lang).Named ∧
      (∀ bit ∈ (counterWrapper lang).bits, bit.isBound →
        (counterWrapper lang).language.Tells bit.signal) ∧ Silent lang ownedTexts) ∧
      readBindings .vhdl (render (Builtin.top.text .vhdl) (counterWrapper .vhdl) ownedTexts).toList =
        [⟨"clk", "CLK"⟩, ⟨"q(1)", "LD(3)"⟩] ∧
      readBindings .verilog
          (render (Builtin.top.text .verilog) (counterWrapper .verilog) ownedTexts).toList =
        [⟨"clk", "CLK"⟩, ⟨"q[1]", "LD[3]"⟩] := by
  have silent (lang : Language) : Silent lang ownedTexts := by cases lang <;> decide +kernel
  refine ⟨fun lang => ⟨named_counterWrapper lang, tells_counterWrapper lang, silent lang⟩, ?_, ?_⟩
  · exact (readBindings_eq_bound (named_counterWrapper .vhdl) (tells_counterWrapper .vhdl)
      (silent .vhdl)).trans (by decide)
  · exact (readBindings_eq_bound (named_counterWrapper .verilog) (tells_counterWrapper .verilog)
      (silent .verilog)).trans (by decide)

end BoardBind
