import BoardBind.Proofs.Port.Bits
import BoardBind.Proofs.Template.RoundTrip
import BoardBind.Proofs.Vhdl.Header
import BoardBind.Proofs.Vhdl.Statement
import BoardBind.Proofs.Wrapper.Block
import BoardBind.Selection

/-! # Scanning generated wrappers

A wrapper that was generated from a built-in template is a source itself. The scanner finds the entity of
the template in it, with the signals of the board as its ports, and one instance: the wrapped unit, which
is declared as a component. Neither the ports of that component nor the signals, associations and idle
levels of the wrapper are taken for anything else.
-/

namespace BoardBind

open Text

/-- A wrapper of a unit with valid names, the bits of whose ports are bound to targets of a board. -/
structure Wrapper.OnBoard (w : Wrapper) (board : Board) : Prop where
  language : w.language = .vhdl
  unit : Language.vhdl.isValidName w.unit
  ports : ∀ port ∈ w.ports, Language.vhdl.isValidName port.spelling
  bits : w.bits.map PortBit.unbind = Selection.freshBits .vhdl w.ports
  signals : ∀ bit ∈ w.bits, bit.isBound → bit.signal ∈ (board.targets .vhdl).map (·.name)
  defaults : ∀ entry ∈ w.defaults, entry.1 ∈ (board.targets .vhdl).map (·.name)
  offered : w.board = board.ports .vhdl
  names : ∀ signal ∈ board.signals, Language.vhdl.IsName signal.name

namespace Vhdl

open Declarations

variable {w : Wrapper} {board : Board} {file unit arch keyword : String} {ls : List String}

/-! ## The lines of a wrapper -/

/-- What takes the place of a template line, given what the line asks for. -/
def place (w : Wrapper) (line : String) : Option Marker → List String
  | some marker => if marker.mark?.isSome then [line] else block w marker
  | none => [line]

/-- What the lines of a template ask for. -/
def asked (ls : List String) : List (Option Marker) :=
  ls.map fun line => Marker.ofLine? "--" line.toList

theorem renderLines_text (vhdl : w.language = .vhdl) (kind : Builtin) :
    renderLines (kind.text .vhdl) w [] =
      ((kind.templateLines .vhdl).zipWith (place w) (asked (kind.templateLines .vhdl))).flatten := by
  have blocks : w.block = block w := by rw [Wrapper.block, vhdl]
  have filled (line : String) : (w.expand line.toList).map String.ofList =
      place w line (Marker.ofLine? "--" line.toList) := by
    rw [Wrapper.expand, vhdl, blocks]
    simp only [Language.comment]
    cases Marker.ofLine? "--" line.toList with
    | none => simp [place]
    | some marker => cases marks : marker.mark?.isSome <;> simp [place, marks]
  rw [renderLines_nil, Builtin.lines_text, Builtin.charLines, List.flatMap_map, List.map_flatMap,
    asked, List.zipWith_map_right, List.zipWith_self]
  simp only [filled, List.flatMap_def]

/-- The lines that start a generated file. -/
def introduction : List String :=
  ["-- Generated by hdltop. Only the regions between the \"vvv\" and \"^^^\" markers",
   "-- are kept when this file is generated again.",
   "",
   "library ieee;",
   "use ieee.std_logic_1164.all;",
   ""]

/-- The lines of the wrapped unit's declaration behind its header. -/
def componentTail (w : Wrapper) : List String :=
  (if w.ports.isEmpty then []
   else "        port (" ::
     separated ";" ");" (w.ports.map fun port => "            " ++ portText port)) ++
  ["    end component;"]

theorem componentBlock_eq (w : Wrapper) :
    componentBlock w = ("    component " ++ w.unit ++ " is") :: componentTail w := by
  rw [componentBlock, componentTail, List.append_assoc, List.singleton_append]

/-- The lines inside the architecture of the wrapper behind the header of the component. -/
def wrapperTail (w : Wrapper) : List String :=
  componentTail w ++ ["-- vvv user declarations vvv", "-- ^^^ user declarations ^^^", "begin"] ++
    instanceBlock w ++ ["-- vvv user statements vvv", "-- ^^^ user statements ^^^"]

-- The kernel decodes a string literal slowly, so its characters are put in its place first.
theorem asked_top : asked (Builtin.top.templateLines .vhdl) =
    [none, none, none, none, none, none, none, some .board, none, none, none, some .component,
      some .regionBegin, some .regionEnd, none, some (.unitInstance false), some .regionBegin,
      some .regionEnd, none] := by
  simp only [asked, Builtin.templateLines, List.map_cons, List.map_nil]
  repeat rw [String.toList_ofList]
  decide +kernel

theorem renderLines_top (vhdl : w.language = .vhdl) : renderLines (Builtin.top.text .vhdl) w [] =
    introduction ++ (["entity " ++ "dr_top" ++ " is"] ++ boardBlock w ++ ["end " ++ "dr_top" ++ ";"]) ++
      [""] ++ (["architecture " ++ "rtl" ++ " of " ++ "dr_top" ++ " is"] ++
        ("    component " ++ w.unit ++ " is") :: wrapperTail w ++ ["end " ++ "rtl" ++ ";"]) := by
  rw [renderLines_text vhdl, asked_top]
  simp [Builtin.templateLines, place, Marker.mark?, block, componentBlock_eq, introduction, wrapperTail]

/-- The lines inside the architecture of the testbench behind the header of the component. -/
def testbenchTail (w : Wrapper) : List String :=
  componentTail w ++ signalBlock w ++
    ["    constant PERIOD : time := 10 ns;", "-- vvv user declarations vvv",
      "-- ^^^ user declarations ^^^", "begin"] ++ testBlock w ++
    ["-- vvv stimulus vvv", "    process", "    begin", "        wait for PERIOD * 10;",
      "        wait;", "    end process;", "-- ^^^ stimulus ^^^"]

theorem asked_testbench : asked (Builtin.testbench.templateLines .vhdl) =
    [none, none, none, none, none, none, none, none, none, none, some .component,
      some (.signal false), none, some .regionBegin, some .regionEnd, none, some .unitUnderTest,
      some .regionBegin, none, none, none, none, none, some .regionEnd, none] := by
  simp only [asked, Builtin.templateLines, List.map_cons, List.map_nil]
  repeat rw [String.toList_ofList]
  decide +kernel

theorem renderLines_testbench (vhdl : w.language = .vhdl) :
    renderLines (Builtin.testbench.text .vhdl) w [] =
      introduction ++ (["entity " ++ "dr_testbench" ++ " is"] ++ [] ++
        ["end " ++ "dr_testbench" ++ ";"]) ++ [""] ++
        (["architecture " ++ "sim" ++ " of " ++ "dr_testbench" ++ " is"] ++
          ("    component " ++ w.unit ++ " is") :: testbenchTail w ++ ["end " ++ "sim" ++ ";"]) := by
  rw [renderLines_text vhdl, asked_testbench]
  simp [Builtin.templateLines, place, Marker.mark?, block, componentBlock_eq, introduction, testbenchTail]

/-! ## The blocks under the scanner -/

section blocks

variable (onBoard : w.OnBoard board)

include onBoard

/-- A target of the board is an object, whatever its signal is called. -/
theorem isObject_target {name : String} (member : name ∈ (board.targets .vhdl).map (·.name)) :
    IsObject name.toList := by
  obtain ⟨target, present, rfl⟩ := List.mem_map.mp member
  obtain ⟨signal, offered, present⟩ := List.mem_flatMap.mp present
  have named := isWord_of_isName (onBoard.names signal offered)
  rw [BoardSignal.targets] at present
  split at present
  · obtain rfl := List.mem_singleton.mp present
    exact .whole named
  · obtain ⟨i, -, rfl⟩ := List.mem_map.mp present
    exact .index named i

/-- A bit of a port is an object. -/
theorem isObject_bit {bit : PortBit} (member : bit ∈ w.bits) : IsObject bit.name.toList := by
  have fresh : bit.unbind ∈ Selection.freshBits .vhdl w.ports := onBoard.bits ▸ List.mem_map_of_mem member
  obtain ⟨port, present, inPort⟩ := List.mem_flatMap.mp fresh
  have named := isWord_of_isValidName (onBoard.ports port present)
  rw [Port.bits] at inPort
  split at inPort
  · obtain ⟨i, -, same⟩ := List.mem_map.mp inPort
    have name : bit.name = Language.vhdl.index port.spelling i := (congrArg PortBit.name same).symm
    exact name ▸ .index named i
  · have name : bit.name = port.spelling :=
      congrArg PortBit.name (List.mem_singleton.mp inPort)
    exact name ▸ .whole named

theorem isActual_source {bit : PortBit} (member : bit ∈ w.bits) : IsActual (source bit).toList := by
  rw [source]
  split
  · next bound => exact .object (isObject_target onBoard (onBoard.signals bit member bound))
  · cases bit.direction with
    | input => exact .level .low
    | output => exact .unconnected

end blocks

/-- What stands behind an association in a port map. -/
def closings : List String := [",", " );"]

/-- An association is silent in its architecture. -/
theorem silent_association {formal actual ending : String} (object : IsObject formal.toList)
    (associated : IsActual actual.toList) (known : ending ∈ closings) (other : IsWord arch.toList) :
    Silent arch ("        " ++ formal ++ " => " ++ actual ++ ending).toList := by
  have ends : ∀ ending ∈ closings, Trailing ending.toList ∧ IsCode ending.toList := by decide
  obtain ⟨trailing, chars⟩ := ends ending known
  have written : ("        " ++ formal ++ " => " ++ actual ++ ending).toList = List.replicate 8 ' ' ++
      (formal.toList ++ (" => ".toList ++ (actual.toList ++ ending.toList))) := by
    simp
  have operates : Operates (" => ".toList ++ (actual.toList ++ ending.toList)) := by
    intro c first
    obtain rfl : '=' = c := Option.some.inj first
    decide
  have quiet : Quiet " => ".toList := by decide
  have behind : Trailing (" => ".toList ++ (actual.toList ++ ending.toList)) :=
    ⟨(associated.opensNothing trailing).piece quiet, apart_cons.mpr (by decide)⟩
  have code : IsCode (" => ".toList ++ (actual.toList ++ ending.toList)) := by
    simp only [isCode_append, isCode_actual associated, chars, and_true]
    decide
  rw [written]
  exact silent_object object operates behind code 8 other

/-- What stands behind a target that is driven to a level. -/
def levelText (level : Logic) : List Char :=
  (" <= " ++ Language.vhdl.constant level ++ ";").toList

theorem levelText_scanned (level : Logic) :
    Operates (levelText level) ∧ Trailing (levelText level) ∧ IsCode (levelText level) := by
  have operates : Operates (levelText level) := by
    intro c first
    obtain rfl : '<' = c := by cases level <;> exact Option.some.inj first
    decide
  refine ⟨operates, ?_⟩
  cases level <;> decide

/-- The drive of a target to a level is silent in its architecture. -/
theorem silent_default {default : String × Logic} (object : IsObject default.1.toList)
    (other : IsWord arch.toList) : Silent arch (defaultText default).toList := by
  obtain ⟨operates, trailing, chars⟩ := levelText_scanned default.2
  have written : (defaultText default).toList =
      List.replicate 4 ' ' ++ (default.1.toList ++ levelText default.2) := by
    unfold defaultText levelText
    simp
  rw [written]
  exact silent_object object operates trailing chars 4 other

/-- The declaration of a signal is silent in its architecture. -/
theorem silent_signal {port : Port} (named : IsWord port.spelling.toList) :
    Silent arch ("    signal " ++ port.spelling ++ " : " ++ typeText port ++ ";").toList := by
  have keyword : IsWord "signal".toList := by decide
  have written : ("    signal " ++ port.spelling ++ " : " ++ typeText port ++ ";").toList =
      List.replicate 4 ' ' ++ ("signal".toList ++ ' ' :: (port.spelling.toList ++ (" : ".toList ++
        ("std_logic".toList ++ ((boundsText (boundsOf port)).toList ++ ";".toList))))) := by
    rw [typeText_eq]
    simp
  have typed : OpensNothing (" : ".toList ++ ("std_logic".toList ++
      ((boundsText (boundsOf port)).toList ++ ";".toList))) :=
    (opensNothing_type (by decide)).piece (by decide)
  have behind : Apart (trimStart (" : ".toList ++ ("std_logic".toList ++
      ((boundsText (boundsOf port)).toList ++ ";".toList)))) := apart_cons.mpr (by decide)
  have declared : OpensNothing (' ' :: (port.spelling.toList ++ (" : ".toList ++
      ("std_logic".toList ++ ((boundsText (boundsOf port)).toList ++ ";".toList))))) :=
    (typed.alone named behind).cons (by decide)
  have apart {text : List Char} : Apart (' ' :: text) := apart_cons.mpr (by decide)
  rw [written]
  refine silent_of_line ?_ ((declared.ordinary keyword (by decide) apart).indent 4)
    (closes_of_unended rfl) ?_
  · simp only [isCode_append, isCode_cons, isCode_indent, isCode_of_isWord keyword,
      isCode_of_isWord named, isCode_boundsText, true_and]
    decide
  · have unlabelled {text : List Char} : literal [':'] (port.spelling.toList ++ text) = none := by
      obtain ⟨c, others, same⟩ := List.exists_cons_of_ne_nil named.nonempty
      have inWord := named.inside c (same ▸ List.mem_cons_self)
      rw [same, List.cons_append]
      exact if_neg fun colon => absurd (colon ▸ inWord) (by decide)
    rw [instanceName?, trimStart_append fun _ member => List.eq_of_mem_replicate member ▸ rfl,
      trimStart_word keyword, word_append keyword apart]
    simp only [bind, Option.bind_some, trimStart_blank, trimStart_word named, unlabelled,
      Option.bind_none]

/-- The first line of an instance of a component is silent in its architecture. -/
theorem silent_instance {label name : String} (labelled : IsWord label.toList)
    (valid : Language.vhdl.isValidName name) (other : IsWord arch.toList) :
    Silent arch ("    " ++ label ++ " : " ++ name ++ " port map (").toList := by
  have different : letters name.toList ≠ letters "entity".toList :=
    letters_ne_of_isValidName valid (by decide) (by decide)
  have written : ("    " ++ label ++ " : " ++ name ++ " port map (").toList = List.replicate 4 ' ' ++
      (label.toList ++ (" : ".toList ++ (name.toList ++ " port map (".toList))) := by
    simp
  rw [written]
  exact silent_ofComponent labelled (isWord_of_isValidName valid) (by decide) (by decide) (by decide)
    (by decide) 4 different other

/-! ## The blocks under the scanner -/

section blocks

variable (onBoard : w.OnBoard board) (other : IsWord arch.toList)

include onBoard

theorem isWord_board {port : Port} (member : port ∈ w.board) : IsWord port.spelling.toList := by
  rw [onBoard.offered] at member
  obtain ⟨signal, offered, rfl⟩ := List.mem_map.mp member
  exact isWord_of_isName (onBoard.names signal offered)

/-- The port clause of the wrapper declares the signals of the board. -/
theorem portsOn_boardBlock :
    (boardBlock w).flatMap (fun line => portsOn line.toList) = board.ports .vhdl := by
  have clause : (separated ";" " );" (w.board.map fun port => "        " ++ portText port)).flatMap
      (fun line => portsOn line.toList) = w.board.flatMap fun port => [port] := by
    refine flatMap_separated fun port member ending chosen => ?_
    have known : ∀ ending ∈ [";", " );"], ending ∈ endings := by decide
    have blank : "        ".toList = List.replicate 8 ' ' := by decide
    rw [portsOn_portText 8 blank (isWord_board onBoard member) (known ending chosen)]
    rw [onBoard.offered] at member
    obtain ⟨signal, -, rfl⟩ := List.mem_map.mp member
    exact congrArg (fun port => [port])
      (Port.declare_ofWidth .vhdl signal.name signal.direction signal.width)
  have opening : portsOn "    port (".toList = [] := (by decide : Idle "    port (".toList).portsOn
  rw [← onBoard.offered]
  unfold boardBlock
  split
  · next none => rw [List.isEmpty_iff.mp none]; rfl
  · rw [List.flatMap_cons, opening, clause, List.nil_append, ← List.map_eq_flatMap, List.map_id']

theorem inside_boardBlock (other : IsWord unit.toList) :
    ∀ line ∈ boardBlock w, Inside "entity" unit line.toList := by
  have spelled : IsWord "entity".toList := by decide
  have known : ∀ ending ∈ [";", " );"], ending ∈ endings := by decide
  have blank : "        ".toList = List.replicate 8 ' ' := by decide
  unfold boardBlock
  split
  · exact List.forall_mem_nil _
  · have opened : Idle "    port (".toList := by decide
    exact List.forall_mem_cons.mpr ⟨opened.inside, forall_mem_separated fun port member ending chosen =>
      inside_portText 8 blank (isWord_board onBoard member) (known ending chosen) spelled other⟩

include other

theorem silent_componentTail (different : letters "component".toList ≠ letters arch.toList) :
    ∀ line ∈ componentTail w, Silent arch line.toList := by
  have known : ∀ ending ∈ [";", ");"], ending ∈ endings := by decide
  have blank : "            ".toList = List.replicate 12 ' ' := by decide
  unfold componentTail
  refine List.forall_mem_append.mpr ⟨?_, List.forall_mem_singleton.mpr ?_⟩
  · split
    · exact List.forall_mem_nil _
    · have opened : Idle "        port (".toList := by decide
      exact List.forall_mem_cons.mpr ⟨opened.silent, forall_mem_separated fun port member ending chosen =>
        silent_portText 12 blank (isWord_of_isValidName (onBoard.ports port member))
          (known ending chosen) other⟩
  · exact silent_componentEnd other different

omit other in
theorem silent_signalBlock : ∀ line ∈ signalBlock w, Silent arch line.toList := by
  refine List.forall_mem_map.mpr fun port member => ?_
  exact silent_signal (isWord_of_isValidName (onBoard.ports port member))

/-- What is written for the bits of a port map is silent. -/
theorem silent_associations {actual : PortBit → String}
    (associated : ∀ bit ∈ w.bits, IsActual (actual bit).toList) :
    ∀ line ∈ separated "," " );" (w.bits.map fun bit => "        " ++ bit.name ++ " => " ++ actual bit),
      Silent arch line.toList :=
  forall_mem_separated fun bit present _ chosen =>
    silent_association (isObject_bit onBoard present) (associated bit present) chosen other

theorem silent_instanceBlock : ∀ line ∈ instanceBlock w, Silent arch line.toList := by
  have label : IsWord "usr".toList := by decide
  have opening : "    usr : " = "    " ++ "usr" ++ " : " := by decide
  have associations := silent_associations onBoard other fun bit member =>
    isActual_source onBoard member
  intro line member
  simp only [instanceBlock, List.mem_append, List.mem_singleton] at member
  obtain (rfl | association) | default := member
  · rw [opening]
    exact silent_instance label onBoard.unit other
  · exact associations line association
  · obtain ⟨entry, present, rfl⟩ := List.mem_map.mp default
    exact silent_default (isObject_target onBoard (onBoard.defaults entry present)) other

theorem silent_testBlock : ∀ line ∈ testBlock w, Silent arch line.toList := by
  have label : IsWord "uut".toList := by decide
  have opening : "    uut : " = "    " ++ "uut" ++ " : " := by decide
  have associations := silent_associations onBoard other fun bit member =>
    .object (isObject_bit onBoard member)
  intro line member
  rcases List.mem_cons.mp member with rfl | association
  · rw [opening]
    exact silent_instance label onBoard.unit other
  · exact associations line association

end blocks

/-! ## The generated files -/

/-- Lines that declare the wrapped unit and are silent otherwise add an instance of that unit. -/
theorem component_scanned (valid : Language.vhdl.isValidName w.unit)
    (silent : ∀ line ∈ ls, Silent arch line.toList) :
    (∀ line ∈ ("    component " ++ w.unit ++ " is") :: ls, Inside "architecture" arch line.toList) ∧
      (("    component " ++ w.unit ++ " is") :: ls).flatMap (fun line => instancesOn unit line.toList) =
        [⟨Language.vhdl.fold w.unit, unit⟩] := by
  have named := isWord_of_isValidName valid
  rw [List.forall_mem_cons, List.flatMap_cons, flatMap_instancesOn_of_silent silent, List.append_nil,
    toList_componentHeader, instancesOn_componentHeader named, folded_toList]
  exact ⟨⟨inside_componentHeader named, fun line member => (silent line member).toInside⟩, rfl⟩

-- Here and below the characters of the lines are put in the place of their literals, which the kernel
-- decodes slowly.
theorem opensNoUnit_introduction : ∀ line ∈ introduction, OpensNoUnit line.toList := by
  simp only [introduction, List.forall_mem_cons]
  repeat rw [String.toList_ofList]
  decide +kernel

/-- A name that is in lower case already. -/
theorem fold_eq_self {name : String} (lower : name.toList.map Char.toLower = name.toList) :
    Language.vhdl.fold name = name :=
  String.toList_inj.mp (by rw [← folded_toList, toList_folded, lower])

theorem fold_generated : ∀ name ∈ ["dr_top", "dr_testbench", "rtl", "sim"],
    Language.vhdl.fold name = name := by
  have lower : ∀ name ∈ ["dr_top", "dr_testbench", "rtl", "sim"],
      name.toList.map Char.toLower = name.toList := by decide
  exact fun name member => fold_eq_self (lower name member)

theorem silent_wrapperTail (onBoard : w.OnBoard board) :
    ∀ line ∈ wrapperTail w, Silent "rtl" line.toList := by
  have other : IsWord "rtl".toList := by decide
  have declarations : ∀ line ∈ ["-- vvv user declarations vvv", "-- ^^^ user declarations ^^^", "begin"],
      Silent "rtl" line.toList := by
    simp only [List.forall_mem_cons]
    repeat rw [String.toList_ofList]
    decide +kernel
  have statements : ∀ line ∈ ["-- vvv user statements vvv", "-- ^^^ user statements ^^^"],
      Silent "rtl" line.toList := by
    simp only [List.forall_mem_cons]
    repeat rw [String.toList_ofList]
    decide +kernel
  simp only [wrapperTail, List.forall_mem_append]
  exact ⟨⟨⟨silent_componentTail onBoard other (by decide), declarations⟩,
    silent_instanceBlock onBoard other⟩, statements⟩

theorem silent_testbenchTail (onBoard : w.OnBoard board) :
    ∀ line ∈ testbenchTail w, Silent "sim" line.toList := by
  have other : IsWord "sim".toList := by decide
  have declarations : ∀ line ∈ ["    constant PERIOD : time := 10 ns;", "-- vvv user declarations vvv",
      "-- ^^^ user declarations ^^^", "begin"], Silent "sim" line.toList := by
    simp only [List.forall_mem_cons]
    repeat rw [String.toList_ofList]
    decide +kernel
  have stimulus : ∀ line ∈ ["-- vvv stimulus vvv", "    process", "    begin",
      "        wait for PERIOD * 10;", "        wait;", "    end process;", "-- ^^^ stimulus ^^^"],
      Silent "sim" line.toList := by
    simp only [List.forall_mem_cons]
    repeat rw [String.toList_ofList]
    decide +kernel
  simp only [testbenchTail, List.forall_mem_append]
  exact ⟨⟨⟨⟨silent_componentTail onBoard other (by decide), silent_signalBlock onBoard⟩, declarations⟩,
    silent_testBlock onBoard other⟩, stimulus⟩

/-- The wrapper has the signals of the board as ports, and instantiates the wrapped unit. -/
theorem scan_top (onBoard : w.OnBoard board) (file : String) :
    scan (render (Builtin.top.text .vhdl) w []) file =
      { units := [⟨"dr_top", "dr_top", file⟩]
        ports := (board.ports .vhdl).map fun port => ("dr_top", port)
        instances := [⟨Language.vhdl.fold w.unit, "dr_top"⟩] } := by
  have other : IsWord "dr_top".toList := by decide
  have unit : Language.vhdl.fold "dr_top" = "dr_top" := fold_generated _ (by decide)
  have body : Language.vhdl.fold "rtl" = "rtl" := fold_generated _ (by decide)
  have clause := inside_boardBlock onBoard other
  obtain ⟨inside, edges⟩ := component_scanned onBoard.unit (silent_wrapperTail onBoard)
  rw [← unit] at clause
  rw [← body] at inside
  have whole : Reads file _ {} _ := .unitFile opensNoUnit_introduction other (by decide) (by decide)
    clause inside
  rw [render, renderLines_top onBoard.language, whole.scan_eq, portsOn_boardBlock onBoard, edges]
  simp only [collected, DesignUnit.declare, unit]
  rfl

/-- The testbench has no ports, and instantiates the wrapped unit. -/
theorem scan_testbench (onBoard : w.OnBoard board) (file : String) :
    scan (render (Builtin.testbench.text .vhdl) w []) file =
      { units := [⟨"dr_testbench", "dr_testbench", file⟩]
        ports := []
        instances := [⟨Language.vhdl.fold w.unit, "dr_testbench"⟩] } := by
  have unit : Language.vhdl.fold "dr_testbench" = "dr_testbench" := fold_generated _ (by decide)
  have body : Language.vhdl.fold "sim" = "sim" := fold_generated _ (by decide)
  obtain ⟨inside, edges⟩ := component_scanned onBoard.unit (silent_testbenchTail onBoard)
  rw [← body] at inside
  have whole : Reads file _ {} _ := .unitFile opensNoUnit_introduction
    (by decide : IsWord "dr_testbench".toList) (by decide) (by decide) (List.forall_mem_nil _) inside
  rw [render, renderLines_testbench onBoard.language, whole.scan_eq, edges]
  simp only [collected, DesignUnit.declare, unit]
  rfl

/-- The scanner reads back what the generator writes: in a wrapper the entity with the signals of the
board as its ports, in a testbench an entity without ports, and in both one instance of the wrapped
unit. -/
theorem scan_generated (onBoard : w.OnBoard board) (file : String) :
    scan (render (Builtin.top.text .vhdl) w []) file =
      { units := [⟨"dr_top", "dr_top", file⟩]
        ports := (board.ports .vhdl).map fun port => ("dr_top", port)
        instances := [⟨Language.vhdl.fold w.unit, "dr_top"⟩] } ∧
    scan (render (Builtin.testbench.text .vhdl) w []) file =
      { units := [⟨"dr_testbench", "dr_testbench", file⟩]
        ports := []
        instances := [⟨Language.vhdl.fold w.unit, "dr_testbench"⟩] } :=
  ⟨scan_top onBoard file, scan_testbench onBoard file⟩

/-- A board with a row of lamps and an input that is called like a keyword. -/
def rowBoard : Board where
  name := "row"
  signals :=
    [{ name := "LD", direction := .output, declaredWidth := some 4, idle := some .low },
     { name := "end", direction := .input }]

/-- A wrapper whose unit, ports and signals have names with keywords. -/
def rowWrapper : Wrapper where
  language := .vhdl
  unit := "is_entity"
  ports := [.ofWidth .vhdl "in_port" .input 1, .ofWidth .vhdl "Led" .output 2]
  bits :=
    [{ name := "in_port", direction := .input, signal := "end" },
     { name := "Led(1)", direction := .output, signal := "LD(3)" },
     { name := "Led(0)", direction := .output }]
  defaults := [("LD(0)", .low), ("LD(1)", .low), ("LD(2)", .low)]
  board := rowBoard.ports .vhdl

theorem onBoard_rowWrapper : rowWrapper.OnBoard rowBoard where
  language := rfl
  unit := by rw [isValidName_eq]; decide
  ports := by
    simp only [isValidName_eq]
    decide
  bits := by decide
  signals := by decide
  defaults := by decide
  offered := rfl
  names := by
    intro signal member
    simp only [rowBoard, List.mem_cons, List.not_mem_nil, or_false] at member
    rcases member with rfl | rfl <;> exact ⟨by decide, by decide⟩

/-- Neither the names with keywords nor the input called `end` mislead the scanner. -/
theorem scan_rowWrapper : rowWrapper.OnBoard rowBoard ∧
    scan (render (Builtin.top.text .vhdl) rowWrapper []) "dr_top.vhdl" =
      { units := [⟨"dr_top", "dr_top", "dr_top.vhdl"⟩]
        ports := (rowBoard.ports .vhdl).map fun port => ("dr_top", port)
        instances := [⟨Language.vhdl.fold "is_entity", "dr_top"⟩] } ∧
    scan (render (Builtin.testbench.text .vhdl) rowWrapper []) "dr_top.vhdl" =
      { units := [⟨"dr_testbench", "dr_testbench", "dr_top.vhdl"⟩]
        ports := []
        instances := [⟨Language.vhdl.fold "is_entity", "dr_testbench"⟩] } :=
  ⟨onBoard_rowWrapper, scan_generated onBoard_rowWrapper "dr_top.vhdl"⟩

end Vhdl

end BoardBind
