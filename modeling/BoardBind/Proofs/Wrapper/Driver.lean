import BoardBind.Command.Gen
import BoardBind.Proofs.Board.Table
import BoardBind.Proofs.Selection.Run
import BoardBind.Proofs.Wrapper.Statement

/-! # What drives the signals of a board

If the bits of a unit are bound to targets in their own direction and no two of them share one, then no
output of the board has two drivers, none with an idle level is without, and every input of the wrapped
unit has one source. Names that the language or the wrapper gives another meaning to are left out: the
word for an open port in VHDL, and the names of the internal signals in Verilog.
-/

namespace BoardBind

open Text

variable {w : Wrapper} {board : Board} {s : Selection} {t : Target} {bit : PortBit}

/-- A valid board with distinct targets, and a selection whose bits have distinct names and are bound to
targets in their own direction. -/
structure Selection.Fits (s : Selection) (board : Board) : Prop where
  valid : board.fault? = none
  distinct : board.Distinct s.design.language
  names : (s.bits.map (·.name)).Nodup
  accepted : Accepted s.design.language board s.bits

/-- No bit is bound to a signal that VHDL takes for an open port, and no target has the name of an
internal signal of a Verilog wrapper. -/
structure Selection.Unreserved (s : Selection) (board : Board) : Prop where
  vhdl : s.design.language = .vhdl → ∀ bit ∈ s.bits, bit.isBound → ¬ Vhdl.isOpen bit.signal
  verilog : s.design.language = .verilog → ∀ t ∈ board.targets .verilog,
    (∀ bit ∈ s.bits, t.name ≠ Verilog.internalMark ++ bit.name) ∧
      ∀ port ∈ s.ports, t.name ∉ Verilog.names (Verilog.internal port)

/-- The bits are those of the ports that a Verilog instance connects. -/
def Selection.Wired (s : Selection) : Prop :=
  s.design.language = .verilog →
    s.bits.map PortBit.shape = (freshBits .verilog s.ports).map PortBit.shape

/-- What every run keeps makes a selection wired. -/
theorem Selection.Consistent.wired {d : Design} (consistent : s.Consistent d) : s.Wired := by
  intro language
  rw [consistent.bits, ← language, consistent.design]
  rfl

namespace Selection.Fits

variable {lang : Language}

theorem eq_of_name_eq (fits : s.Fits board) {first second : PortBit} (inFirst : first ∈ s.bits)
    (inSecond : second ∈ s.bits) (same : first.name = second.name) : first = second :=
  List.inj_on_of_nodup_map fits.names inFirst inSecond same

theorem target_eq (fits : s.Fits board) {first second : Target}
    (inFirst : first ∈ board.targets s.design.language)
    (inSecond : second ∈ board.targets s.design.language) (same : first.name = second.name) :
    first = second :=
  List.inj_on_of_nodup_map fits.distinct inFirst inSecond same

/-- A bit that is bound to a target has its direction. -/
theorem direction_eq (fits : s.Fits board) (target : t ∈ board.targets s.design.language)
    (member : bit ∈ s.bits) (bound : bit.isBound) (same : bit.signal = t.name) :
    bit.direction = t.direction := by
  obtain ⟨other, inBoard, name, direction⟩ := fits.accepted.exists_target member bound
  rw [← direction, fits.target_eq inBoard target (name.trans same)]

theorem length_boundTo_le_one (fits : s.Fits board) (apart : ¬ Shared s.bits) (signal : String) :
    (boundTo s.bits signal).length ≤ 1 := by
  by_contra more
  obtain ⟨first, inFirst, second, inSecond, different, bound, atFirst, atSecond⟩ :=
    (two_le_length_boundTo_iff fits.names).mp (Nat.lt_of_not_le more)
  exact apart ⟨first, inFirst, second, inSecond, different, bound, atFirst.trans atSecond.symm⟩

/-- How many outputs drive a target: those that are bound to it, if it is an output. -/
theorem countP_outputs (fits : s.Fits board) (target : t ∈ board.targets s.design.language) :
    s.bits.countP (fun bit => bit.direction = .output && bit.isBound && bit.signal = t.name) =
      if t.direction = .output then (boundTo s.bits t.name).length else 0 := by
  split
  · next output =>
    rw [boundTo, ← List.countP_eq_length_filter]
    refine List.countP_congr fun bit member => ?_
    simp only [Bool.and_eq_true, decide_eq_true_eq]
    constructor
    · rintro ⟨⟨-, bound⟩, same⟩
      exact ⟨bound, same⟩
    · rintro ⟨bound, same⟩
      exact ⟨⟨(fits.direction_eq target member bound same).trans output, bound⟩, same⟩
  · next input =>
    rw [List.countP_eq_zero]
    intro bit member drives
    simp only [Bool.and_eq_true, decide_eq_true_eq] at drives
    obtain ⟨⟨output, bound⟩, same⟩ := drives
    exact input ((fits.direction_eq target member bound same).symm.trans output)

/-- A target is among the defaults once if it has an idle level and no bit is bound to it. -/
theorem count_defaults (fits : s.Fits board) (target : t ∈ board.targets s.design.language) :
    ((s.table board).unusedDefaults.map Prod.fst).count t.name =
      if boundTo s.bits t.name = [] ∧ t.idle.isSome then 1 else 0 := by
  have names : (s.table board).unusedDefaults.map Prod.fst =
      ((board.targets s.design.language).filter fun t =>
        boundTo s.bits t.name = [] && t.idle.isSome).map (·.name) := by
    rw [Selection.table, unusedDefaults_eq fits.distinct, List.map_filterMap,
      ← List.filterMap_eq_map, List.filterMap_filter]
    refine List.filterMap_congr fun t _ => ?_
    by_cases unbound : boundTo s.bits t.name = [] <;> cases t.idle <;> simp [unbound]
  have nodup : (((board.targets s.design.language).filter fun t =>
      boundTo s.bits t.name = [] && t.idle.isSome).map (·.name)).Nodup :=
    fits.distinct.sublist (List.filter_sublist.map _)
  rw [names]
  split
  · next idles =>
    refine List.count_eq_one_of_mem nodup (List.mem_map_of_mem (List.mem_filter.mpr ⟨target, ?_⟩))
    simpa using idles
  · next held =>
    refine List.count_eq_zero_of_not_mem fun listed => held ?_
    obtain ⟨other, member, same⟩ := List.mem_map.mp listed
    rw [List.mem_filter] at member
    rw [← fits.target_eq member.1 target same]
    simpa using member.2

theorem filter_name (fits : s.Fits board) (member : bit ∈ s.bits) :
    (s.bits.filter fun other => other.name = bit.name) = [bit] := by
  have nodup : s.bits.Nodup := fits.names.of_map
  have only : (s.bits.filter fun other => other.name = bit.name) =
      s.bits.filter fun other => other = bit := by
    refine List.filter_congr fun other inBits => ?_
    exact decide_eq_decide.mpr ⟨fits.eq_of_name_eq inBits member, congrArg PortBit.name⟩
  rw [only, List.filter_eq, List.count_eq_one_of_mem nodup member]
  rfl

end Selection.Fits

open Command.Gen (wrapper)

theorem isOpen_open : Vhdl.isOpen "open" = true :=
  decide_eq_true rfl

theorem isOpen_low : Vhdl.isOpen (Language.vhdl.constant .low) = false := by decide +kernel

section Driven

variable (unreserved : s.Unreserved board) (target : t ∈ board.targets s.design.language)

include unreserved

theorem Vhdl.count_driven (language : s.design.language = .vhdl) :
    (Vhdl.driven (wrapper board s)).count t.name =
      s.bits.countP (fun bit => bit.direction = .output && bit.isBound && bit.signal = t.name) +
        ((s.table board).unusedDefaults.map Prod.fst).count t.name := by
  have levels : (Vhdl.levels (wrapper board s)).map Prod.fst =
      (s.table board).unusedDefaults.map Prod.fst := by
    rw [Vhdl.levels, List.map_map]
    rfl
  rw [Vhdl.driven, List.count_append, levels, List.count, List.countP_map, List.countP_filter,
    Vhdl.associations, List.countP_map]
  refine congrArg (· + _) (List.countP_congr fun bit member => ?_)
  simp only [Function.comp_apply, Bool.and_eq_true, beq_iff_eq, decide_eq_true_eq,
    Bool.not_eq_true']
  constructor
  · rintro ⟨same, output, driving⟩
    by_cases bound : bit.isBound
    · rw [Vhdl.source, if_pos bound] at same
      exact ⟨⟨output, bound⟩, same⟩
    · rw [Vhdl.source, if_neg bound, output, isOpen_open] at driving
      cases driving
  · rintro ⟨⟨output, bound⟩, same⟩
    have driving := unreserved.vhdl language bit member bound
    rw [Vhdl.source, if_pos bound]
    exact ⟨same, output, Bool.eq_false_iff.mpr driving⟩

include target

theorem Verilog.count_driven (language : s.design.language = .verilog) :
    (Verilog.driven (wrapper board s)).count t.name =
      s.bits.countP (fun bit => bit.direction = .output && bit.isBound && bit.signal = t.name) +
        ((s.table board).unusedDefaults.map Prod.fst).count t.name := by
  rw [language] at target
  obtain ⟨noBit, noPort⟩ := unreserved.verilog language t target
  have instance_ : (((Verilog.connections (wrapper board s)).filter fun c =>
      c.1.direction = .output).flatMap fun c => Verilog.names c.2).count t.name = 0 := by
    refine List.count_eq_zero_of_not_mem fun listed => ?_
    obtain ⟨c, connected, named⟩ := List.mem_flatMap.mp listed
    obtain ⟨port, member, rfl⟩ := List.mem_map.mp (List.mem_of_mem_filter connected)
    exact noPort port member named
  have levels : ((wrapper board s).defaults.map fun entry =>
      (entry.1, Language.verilog.constant entry.2)).map Prod.fst =
        (s.table board).unusedDefaults.map Prod.fst := by
    rw [List.map_map]
    rfl
  rw [Verilog.driven, List.count_append, instance_, Nat.zero_add, Verilog.assigns, List.map_append,
    List.count_append, levels, List.map_filterMap, List.count, List.countP_filterMap]
  refine congrArg (· + _) (List.countP_congr fun bit member => ?_)
  cases direction : bit.direction with
  | input =>
    have apart : (Verilog.internalMark ++ bit.name == t.name) = false :=
      beq_eq_false_iff_ne.mpr (Ne.symm (noBit bit member))
    simp [Verilog.assign?, direction, apart]
  | output => by_cases bound : bit.isBound <;> simp [Verilog.assign?, direction, bound]

/-- Every output drives what it is bound to, and every default its target. -/
theorem count_driven : (wrapper board s).driven.count t.name =
    s.bits.countP (fun bit => bit.direction = .output && bit.isBound && bit.signal = t.name) +
      ((s.table board).unusedDefaults.map Prod.fst).count t.name := by
  unfold Wrapper.driven
  split
  · next language => exact Vhdl.count_driven unreserved language
  · next language => exact Verilog.count_driven unreserved target language

end Driven

section Sources

variable (fits : s.Fits board) (unreserved : s.Unreserved board) (member : bit ∈ s.bits)
  (input : bit.direction = .input)

include fits unreserved member input

theorem Vhdl.sources_eq (language : s.design.language = .vhdl) :
    Vhdl.sources (wrapper board s) bit.name =
      [if bit.isBound then bit.signal else Language.vhdl.constant .low] := by
  have closed : Vhdl.isOpen (Vhdl.source bit) = false := by
    by_cases bound : bit.isBound
    · rw [Vhdl.source, if_pos bound]
      exact Bool.eq_false_iff.mpr (unreserved.vhdl language bit member bound)
    · rw [Vhdl.source, if_neg bound, input]
      exact isOpen_low
  have reordered : (s.bits.filter fun other => other.direction = .input &&
      other.name = bit.name && !Vhdl.isOpen (Vhdl.source other)) =
      (s.bits.filter fun other => other.name = bit.name).filter fun other =>
        other.direction = .input && !Vhdl.isOpen (Vhdl.source other) := by
    rw [List.filter_filter]
    exact List.filter_congr fun other _ => by
      cases decide (other.name = bit.name) <;> simp
  have chosen : (s.bits.filter fun other => other.direction = .input && other.name = bit.name &&
      !Vhdl.isOpen (Vhdl.source other)) = [bit] := by
    rw [reordered, fits.filter_name member]
    simp [input, closed]
  rw [Vhdl.sources, Vhdl.associations, List.filter_map, List.map_map]
  change (List.filter (fun other => other.direction = .input && other.name = bit.name &&
    !Vhdl.isOpen (Vhdl.source other)) s.bits).map Vhdl.source = _
  rw [chosen, List.map_singleton, Vhdl.source, input]

/-- No other bit is assigned to the internal signal of an input. -/
theorem Verilog.filter_assign? (language : s.design.language = .verilog) {other : PortBit}
    (inBits : other ∈ s.bits) :
    (Verilog.assign? other).filter (fun assigned => assigned.1 = Verilog.internalMark ++ bit.name) =
      if other.name = bit.name then Verilog.assign? other else none := by
  cases direction : other.direction with
  | input =>
    have marked : Verilog.internalMark ++ other.name = Verilog.internalMark ++ bit.name ↔
        other.name = bit.name := by
      simp [← String.toList_inj]
    by_cases same : other.name = bit.name <;>
      simp [Verilog.assign?, direction, Option.filter, marked, same]
  | output =>
    have different : other.name ≠ bit.name := by
      intro same
      rw [fits.eq_of_name_eq inBits member same, input] at direction
      cases direction
    by_cases bound : other.isBound
    · obtain ⟨t, target, name, -⟩ := fits.accepted.exists_target inBits bound
      rw [language] at target
      have apart : other.signal ≠ Verilog.internalMark ++ bit.name :=
        name ▸ (unreserved.verilog language t target).1 bit member
      simp [Verilog.assign?, direction, bound, Option.filter, apart, different]
    · simp [Verilog.assign?, direction, bound, different]

/-- What is assigned to the internal signal of an input. -/
theorem Verilog.assigned_eq (language : s.design.language = .verilog) :
    Verilog.assigned (wrapper board s) (Verilog.internalMark ++ bit.name) =
      [if bit.isBound then bit.signal else Language.verilog.constant .low] := by
  have fromDefaults : (((wrapper board s).defaults.map fun entry =>
      (entry.1, Language.verilog.constant entry.2)).filter fun assigned =>
        assigned.1 = Verilog.internalMark ++ bit.name) = [] := by
    rw [List.filter_eq_nil_iff]
    intro assigned listed
    obtain ⟨entry, unused, rfl⟩ := List.mem_map.mp listed
    obtain ⟨t, target, name⟩ := mem_targets_of_default unused
    rw [language] at target
    simpa [← name] using (unreserved.verilog language t target).1 bit member
  have restricted : s.bits.filterMap
      (fun other => if other.name = bit.name then Verilog.assign? other else none) =
        (s.bits.filter fun other => other.name = bit.name).filterMap Verilog.assign? := by
    rw [List.filterMap_filter]
    simp only [decide_eq_true_eq]
  have assigned : s.bits.filterMap (fun other => (Verilog.assign? other).filter fun assigned =>
      assigned.1 = Verilog.internalMark ++ bit.name) = (Verilog.assign? bit).toList := by
    rw [List.filterMap_congr fun other inBits =>
        Verilog.filter_assign? fits unreserved member input language inBits,
      restricted, fits.filter_name member]
    cases found : Verilog.assign? bit <;> simp [found]
  rw [Verilog.assigned, Verilog.assigns, List.filter_append, fromDefaults, List.append_nil,
    List.filter_filterMap]
  change (s.bits.filterMap fun other => (Verilog.assign? other).filter fun assigned =>
    assigned.1 = Verilog.internalMark ++ bit.name).map Prod.snd = _
  rw [assigned]
  simp only [Verilog.assign?, input]
  rfl

/-- The instance connects an input to the internal signal of its name only. -/
theorem Verilog.sources_eq (wired : s.Wired) (language : s.design.language = .verilog) :
    Verilog.sources (wrapper board s) bit.name =
      [if bit.isBound then bit.signal else Language.verilog.constant .low] := by
  -- The wires of an input are told by the shapes of the instance's bits, which are those of the bits.
  have byShape (bits : List PortBit) : (bits.filter fun other =>
      other.direction = .input && other.name = bit.name).map PortBit.shape =
        (bits.map PortBit.shape).filter fun shape => shape.2 = .input && shape.1 = bit.name := by
    rw [List.filter_map]
    rfl
  have chosen : (s.bits.filter fun other => other.direction = .input && other.name = bit.name) =
      [bit] := by
    have reordered : (s.bits.filter fun other => other.direction = .input && other.name = bit.name) =
        (s.bits.filter fun other => other.name = bit.name).filter fun other =>
          other.direction = .input := List.filter_filter.symm
    rw [reordered, fits.filter_name member]
    simp [input]
  have shapes := byShape (Selection.freshBits .verilog s.ports)
  rw [← wired language, ← byShape, chosen] at shapes
  obtain ⟨fresh, only, shape⟩ := List.map_eq_singleton_iff.mp shapes
  have name : fresh.name = bit.name := congrArg Prod.fst shape
  rw [Verilog.sources, Verilog.wires_eq, List.filter_map, List.flatMap_map]
  change (List.filter (fun other => other.direction = .input && other.name = bit.name)
    (Selection.freshBits .verilog s.ports)).flatMap _ = _
  rw [only, List.flatMap_singleton, name]
  exact Verilog.assigned_eq fits unreserved member input language

/-- Every input is connected to what it is bound to, or to the low level. -/
theorem sources_eq (wired : s.Wired) : (wrapper board s).sources bit.name =
    [if bit.isBound then bit.signal else s.design.language.constant .low] := by
  unfold Wrapper.sources
  split
  · next language =>
    have isVhdl : s.design.language = .vhdl := language
    rw [isVhdl]
    exact Vhdl.sources_eq fits unreserved member input isVhdl
  · next language =>
    have isVerilog : s.design.language = .verilog := language
    rw [isVerilog]
    exact Verilog.sources_eq fits unreserved member input wired isVerilog

end Sources

/-- Generating is refused because of a conflict exactly if the table has one. -/
theorem generate_conflict_iff {disk : Disk} {template : String} {dest : Path}
    {table : AssignmentTable} :
    (∃ target ports, generate disk template dest w table = .error (.conflict target ports)) ↔
      table.conflicts ≠ [] := by
  unfold generate
  cases conflicts : table.conflicts with
  | cons entry rest => simp
  | nil =>
    simp only [ne_eq, not_true_eq_false, iff_false, not_exists]
    intro target ports refused
    cases kept : preservedRegions disk dest with
    | error fault =>
      simp only [kept, bind, Except.bind, Except.error.injEq] at refused
      rw [refused] at kept
      unfold preservedRegions at kept
      split at kept
      · split at kept <;> cases kept
      · cases kept
    | ok preserved =>
      simp only [kept, bind, Except.bind, writeText] at refused
      cases replaced : disk.replace dest (render template w preserved).toUTF8.toList <;>
        rw [replaced] at refused <;> cases refused

/-- What holds of the wrapper of a selection on its board. -/
structure SingleDriver (board : Board) (s : Selection) : Prop where
  /-- It is refused because of a conflict exactly if two bits share a target. -/
  refused : ∀ disk template dest,
    (∃ target ports, generate disk template dest (wrapper board s) (s.table board) =
      .error (.conflict target ports)) ↔ Shared s.bits
  /-- The statements of its instance block and the signals they take for granted are written to the
  file. -/
  written : ∀ kept,
    (wrapper board s).statements <:+:
      renderLines (Builtin.top.text s.design.language) (wrapper board s) kept ∧
    (wrapper board s).declarations <:+:
      renderLines (Builtin.top.text s.design.language) (wrapper board s) kept
  /-- No output of the board is driven twice, and one with an idle level is driven. -/
  outputs : ¬ Shared s.bits → ∀ t ∈ board.targets s.design.language, t.direction = .output →
    (wrapper board s).driven.count t.name ≤ 1 ∧
      (t.idle.isSome → (wrapper board s).driven.count t.name = 1)
  /-- No input of the board is driven. -/
  inputs : ¬ Shared s.bits → ∀ t ∈ board.targets s.design.language, t.direction = .input →
    (wrapper board s).driven.count t.name = 0
  /-- In Verilog, its target or the low level is assigned to the internal signal of every input, and
  nothing else. -/
  assigned : s.design.language = .verilog → ¬ Shared s.bits → ∀ bit ∈ s.bits, bit.direction = .input →
    Verilog.assigned (wrapper board s) (Verilog.internalMark ++ bit.name) =
      [if bit.isBound then bit.signal else Language.verilog.constant .low]
  /-- Every input of the unit is connected to its target or to the low level, and to nothing else. -/
  connected : s.Wired → ¬ Shared s.bits → ∀ bit ∈ s.bits, bit.direction = .input →
    (wrapper board s).sources bit.name =
      [if bit.isBound then bit.signal else s.design.language.constant .low]

theorem singleDriver (fits : s.Fits board) (unreserved : s.Unreserved board) :
    SingleDriver board s where
  refused _ _ _ :=
    generate_conflict_iff.trans (conflicts_ne_nil_iff fits.distinct fits.names fits.accepted)
  written kept :=
    ⟨(wrapper board s).statements_isInfix kept, (wrapper board s).declarations_isInfix kept⟩
  outputs apart t target output := by
    have shared := fits.length_boundTo_le_one apart t.name
    rw [count_driven unreserved target, fits.countP_outputs target, fits.count_defaults target,
      if_pos output]
    by_cases unbound : boundTo s.bits t.name = []
    · rw [unbound, List.length_nil]
      cases t.idle <;> simp
    · have one : (boundTo s.bits t.name).length = 1 := by
        have some_ := List.length_pos_iff.mpr unbound
        omega
      simp [unbound, one]
  inputs _ t target input := by
    have level : t.idle.isSome = false := by
      rw [Bool.eq_false_iff]
      intro idle
      have output := direction_of_idle fits.valid target idle
      rw [input] at output
      cases output
    rw [count_driven unreserved target, fits.countP_outputs target, fits.count_defaults target,
      input, level]
    simp
  assigned language _ bit member input := Verilog.assigned_eq fits unreserved member input language
  connected wired _ bit member input := sources_eq fits unreserved member input wired

instance (bits : List PortBit) : Decidable (Shared bits) :=
  inferInstanceAs (Decidable (∃ first ∈ bits, ∃ second ∈ bits, _))

instance (lang : Language) (board : Board) (bits : List PortBit) :
    Decidable (Accepted lang board bits) :=
  inferInstanceAs (Decidable (∀ bit ∈ bits, _))

/-- A selection of a unit with some ports, whose bits are bound to signals in their order. -/
def selectionOf (lang : Language) (ports : List Port) (signals : List String) : Selection where
  design :=
    { language := lang
      graph := Graph.empty.addNode ⟨.declare lang "unit" "unit.src", ports⟩
      items := [⟨0, "unit", "unit.src"⟩]
      suggested := "unit" }
  top := "unit"
  ports := ports
  bits := List.zipWith PortBit.bind (Selection.freshBits lang ports) signals
  items := [{ level := 0, name := "unit", file := "unit.src", isTop := true }]

/-- A board with a button and two lamps. -/
def lampBoard : Board where
  name := "lamps"
  signals :=
    [{ name := "BTN", direction := .input },
     { name := "LD", direction := .output, declaredWidth := some 2, idle := some .low }]

/-- A unit whose button is bound, whose vector of inputs is not, and whose output is bound to a lamp. -/
def lampSelection (lang : Language) : Selection :=
  selectionOf lang
    [.declare lang "btn" .input none, .ofWidth lang "en" .input 2, .declare lang "led" .output none]
    ["BTN", "", "", lang.index "LD" 1]

theorem singleDriver_lampBoard :
    (∀ lang, (lampSelection lang).Fits lampBoard ∧ (lampSelection lang).Unreserved lampBoard ∧
      (lampSelection lang).Wired ∧ ¬ Shared (lampSelection lang).bits) ∧
      SingleDriver lampBoard (lampSelection .vhdl) ∧
      SingleDriver lampBoard (lampSelection .verilog) := by
  have fits (lang : Language) : (lampSelection lang).Fits lampBoard := by
    constructor <;> cases lang <;> decide +kernel
  have unreserved (lang : Language) : (lampSelection lang).Unreserved lampBoard := by
    constructor
    · rintro (rfl : lang = .vhdl)
      decide +kernel
    · rintro (rfl : lang = .verilog)
      decide +kernel
  have wired (lang : Language) : (lampSelection lang).Wired := by
    unfold Selection.Wired
    cases lang <;> decide +kernel
  have apart (lang : Language) : ¬ Shared (lampSelection lang).bits := by
    cases lang <;> decide +kernel
  exact ⟨fun lang => ⟨fits lang, unreserved lang, wired lang, apart lang⟩,
    singleDriver (fits .vhdl) (unreserved .vhdl), singleDriver (fits .verilog) (unreserved .verilog)⟩

/-- A board whose only output has a name and an idle level. -/
def outputBoard (name : String) : Board where
  name := "board"
  signals := [{ name, direction := .output, idle := some .low }]

/-- A selection of a unit with one port, bound to a signal. -/
def selectionOfPort (lang : Language) (name : String) (direction : Direction) (signal : String) :
    Selection :=
  selectionOf lang [.declare lang name direction none] [signal]

/-- An output with the name of an internal signal has two drivers, and one with the word for an open port
has none. -/
theorem count_driven_reserved :
    ((selectionOfPort .verilog "x" .input "").Fits (outputBoard "_usr_x") ∧
        ¬ Shared (selectionOfPort .verilog "x" .input "").bits ∧
        (wrapper (outputBoard "_usr_x") (selectionOfPort .verilog "x" .input "")).driven.count
          "_usr_x" = 2) ∧
      (selectionOfPort .vhdl "q" .output "open").Fits (outputBoard "open") ∧
        ¬ Shared (selectionOfPort .vhdl "q" .output "open").bits ∧
        (wrapper (outputBoard "open") (selectionOfPort .vhdl "q" .output "open")).driven.count
          "open" = 0 := by
  refine ⟨⟨?_, by decide +kernel, by decide +kernel⟩, ?_, by decide +kernel, by decide +kernel⟩
  · constructor <;> decide +kernel
  · constructor <;> decide +kernel

end BoardBind
