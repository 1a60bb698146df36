import BoardBind.Command.Gen
import BoardBind.Proofs.Board.Table
import BoardBind.Proofs.Command.Resolve

/-! # The names in a generated wrapper

The names in a wrapper come from the ports of the selected unit, from the unit itself and from the
board. If those of the ports and of the board are names of the language, then all of them are.
-/

namespace BoardBind

variable {lang : Language} {board : Board} {bits : List PortBit} {ports : List Port} {bit : PortBit}
  {t : Target} {s : Selection} {d : Design}

/-- The signals of a board have names of a language, none of which looks like that of an internal signal
of a Verilog wrapper. -/
structure Board.Named (lang : Language) (board : Board) : Prop where
  names : ∀ signal ∈ board.signals, lang.IsName signal.name
  unmarked : lang = .verilog → ∀ signal ∈ board.signals, ¬ "_usr_".toList <+: signal.name.toList

namespace Board.Named

theorem isBitName (named : board.Named lang) (member : t ∈ board.targets lang) :
    lang.IsBitName t.name := by
  obtain ⟨signal, inBoard, -, same | ⟨i, same⟩⟩ := Board.exists_of_mem_targets member
  · exact same ▸ .whole (named.names signal inBoard)
  · exact same ▸ .selected (named.names signal inBoard) i

theorem unmarked_target (named : board.Named .verilog) (member : t ∈ board.targets .verilog) :
    ¬ "_usr_".toList <+: t.name.toList := by
  intro marked
  obtain ⟨signal, inBoard, -, same | ⟨i, same⟩⟩ := Board.exists_of_mem_targets member
  · exact named.unmarked rfl signal inBoard (same ▸ marked)
  · have bracket : t.name.toList = signal.name.toList ++ '[' :: ((toString i).toList ++ [']']) := by
      simp [same, Language.index]
    rw [bracket] at marked
    rcases List.prefix_or_prefix_of_prefix marked (List.prefix_append _ _) with inName | ⟨rest, inMark⟩
    · exact named.unmarked rfl signal inBoard inName
    · rw [← inMark, List.prefix_append_right_inj] at marked
      cases rest with
      | nil =>
        rw [List.append_nil] at inMark
        exact named.unmarked rfl signal inBoard (inMark ▸ List.prefix_rfl)
      | cons c rest =>
        obtain ⟨rfl, -⟩ := List.cons_prefix_cons.mp marked
        have absent : '[' ∉ "_usr_".toList := by decide
        exact absent (inMark ▸ List.mem_append_right _ List.mem_cons_self)

end Board.Named

/-- The bits of named ports have the names of bits. -/
theorem isBitName_of_mem_freshBits (named : ∀ port ∈ ports, lang.IsName port.spelling)
    (member : bit ∈ Selection.freshBits lang ports) : lang.IsBitName bit.name := by
  obtain ⟨port, inPorts, member⟩ := List.mem_flatMap.mp member
  rw [Port.bits] at member
  split at member
  · obtain ⟨i, -, rfl⟩ := List.mem_map.mp member
    exact .selected (named port inPorts) i
  · rw [List.mem_singleton.mp member]
    exact .whole (named port inPorts)

namespace Command

/-- A unit of a named design with named ports, whose bits are bound to targets of a named board. -/
structure WellNamed (lang : Language) (board : Board) (s : Selection) : Prop where
  design : s.design.Named lang
  top : ∃ r ∈ s.design.graph.labels, r.unit.name = s.top
  ports : ∀ port ∈ s.ports, lang.IsName port.spelling
  bits : ∀ bit ∈ s.bits, ∃ free ∈ Selection.freshBits lang s.ports, free.name = bit.name
  signals : board.Named lang
  accepted : Accepted lang board s.bits

namespace WellNamed

/-- All names of a wrapper are names of its language. -/
theorem named_wrapper (well : WellNamed lang board s) : (Gen.wrapper board s).Named := by
  have isLang : (Gen.wrapper board s).language = lang := well.design.language
  constructor <;> rw [isLang]
  case unit =>
    have spelled : ∀ r ∈ s.design.graph.labels,
        r.unit.name = lang.fold r.unit.spelling ∧ AllIn lang.isNameChar r.unit.spelling :=
      fun r member => well.design.units r.unit (List.mem_map_of_mem member)
    simp only [Gen.wrapper, Selection.unit?]
    cases found : s.design.unit? s.top with
    | none =>
      obtain ⟨r, member, top⟩ := well.top
      rw [← top, (spelled r member).1]
      exact Language.allIn_fold (spelled r member).2
    | some r => exact (spelled r (List.mem_of_find?_eq_some found)).2
  case ports => exact fun port member => (well.ports port member).chars
  case board =>
    intro port member
    obtain ⟨signal, inBoard, rfl⟩ := List.mem_map.mp member
    exact (well.signals.names signal inBoard).chars
  case bits =>
    intro bit member
    obtain ⟨free, inFresh, name⟩ := well.bits bit member
    exact name ▸ isBitName_of_mem_freshBits well.ports inFresh
  case signals =>
    intro bit member bound
    obtain ⟨t, inBoard, name, -⟩ := well.accepted.exists_target member bound
    exact name ▸ well.signals.isBitName inBoard
  case defaults =>
    intro entry member
    obtain ⟨t, inBoard, name⟩ := mem_targets_of_default member
    rw [well.design.language] at inBoard
    exact name ▸ well.signals.isBitName inBoard

/-- No bit is bound to a signal that looks like an internal one. -/
theorem unmarked_wrapper (well : WellNamed lang board s) : (Gen.wrapper board s).Unmarked := by
  intro verilog bit member
  obtain rfl : lang = .verilog := well.design.language.symm.trans verilog
  by_cases bound : bit.isBound
  · obtain ⟨t, inBoard, name, -⟩ := well.accepted.exists_target member bound
    exact name ▸ well.signals.unmarked_target inBoard
  · have empty : bit.signal = "" := by simpa [PortBit.isBound] using bound
    rw [empty]
    decide

end WellNamed

/-- A bound unit is well named if its ports and the board are. -/
theorem wellNamed_of_bound {settings : Settings} {fresh : Selection} {previous configured : List Binding}
    (named : d.Named lang) (selected : Selected settings d fresh) (signals : board.Named lang)
    (bound : (bindAll fresh board previous configured).2 = s)
    (ports : ∀ port ∈ s.ports, lang.IsName port.spelling) : WellNamed lang board s := by
  obtain rfl := selected.design
  obtain rfl := named.language
  rw [bindAll_snd selected.unbound] at bound
  subst bound
  have offered : Offered fresh board (boundSignal? fresh board previous configured) :=
    offered_boundSignal? fun t member => (signals.isBitName member).nonempty
  have origin : ∀ bit ∈ (fresh.rebindAll (boundSignal? fresh board previous configured)).bits,
      ∃ (i : Nat) (free : PortBit), fresh.bits[i]? = some free ∧
        free.rebound (boundSignal? fresh board previous configured i) = bit := by
    intro bit member
    obtain ⟨i, found⟩ := List.mem_iff_getElem?.mp member
    rw [Selection.rebindAll, List.getElem?_mapIdx] at found
    obtain ⟨free, atFresh, same⟩ := Option.map_eq_some_iff.mp found
    exact ⟨i, free, atFresh, same⟩
  refine ⟨named, ?_, ports, fun bit member => ?_, signals, fun bit member isBound => ?_⟩
  · rcases selected.top with chosen | first
    · exact chosen
    · have registered := named.exists_top
      rwa [← first] at registered
  · obtain ⟨i, free, found, rfl⟩ := origin bit member
    refine ⟨free, ?_, ?_⟩
    · have inFresh := List.mem_of_getElem? found
      rwa [selected.bits] at inFresh
    · cases boundSignal? fresh board previous configured i <;> rfl
  · obtain ⟨i, free, found, rfl⟩ := origin bit member
    cases given : boundSignal? fresh board previous configured i with
    | none =>
      have empty := selected.unbound free (List.mem_of_getElem? found)
      simp [given, PortBit.isBound, empty] at isBound
    | some signal => exact (offered i free found signal given).2

end Command

end BoardBind
