import BoardBind.Board
import BoardBind.Proofs.Port.Bits
import BoardBind.Proofs.Wrapper.Name

/-! # The targets of a board

The wrapper declares every signal of a board as a port, and the bits of that port are the targets of the
signal, from the last one down. So the wrapper has a bit for every target and no other bits.

The check of a board compares the names of its signals as they are written. Its targets have different
names in the language of a design exactly if no two single bits and no two vectors have the same name in
this language, and no single bit is named like a bit of a vector.
-/

namespace BoardBind

variable {lang : Language} {board : Board} {s first second : BoardSignal} {name spelling : String}
  {direction : Direction} {width : UInt64}

/-! ## Declared bits -/

/-- What a target is, whatever its idle level. -/
def Target.shape (t : Target) : String × Direction :=
  (t.name, t.direction)

theorem one_lt_of_ne {width : UInt64} (nonempty : width ≠ 0) (several : width ≠ 1) : 1 < width := by
  rw [UInt64.lt_iff_toNat_lt]
  rw [ne_eq, ← UInt64.toNat_inj] at nonempty several
  simp at nonempty several ⊢
  omega

/-- The bits of a port that is declared by its width are numbered from zero, the last one first. -/
theorem Port.bits_ofWidth (lang : Language) (spelling : String) (direction : Direction)
    (several : 1 < width) : (ofWidth lang spelling direction width).bits lang =
      ((List.range width.toNat).map fun i => { name := lang.index spelling i, direction }).reverse := by
  have last : (width - 1).toNat + 1 = width.toNat := by
    have bound := UInt64.lt_iff_toNat_lt.mp several
    rw [UInt64.toNat_sub_of_le _ _ (UInt64.le_of_lt several)]
    simp at bound ⊢
    omega
  rw [ofWidth_eq, if_pos several]
  simp only [bits, BitRange.indices, UInt64.toNat_zero, Nat.sub_zero, last, List.map_reverse,
    List.range_eq_range']

namespace BoardSignal

/-- The port that declares a signal has the targets of the signal as its bits, in reverse. -/
theorem map_shape_bits (lang : Language) (nonempty : s.width ≠ 0) :
    ((Port.ofWidth lang s.name s.direction s.width).bits lang).map PortBit.shape =
      ((s.targets lang).map Target.shape).reverse := by
  unfold targets
  split_ifs with single
  · rw [single, Port.ofWidth_eq]
    rfl
  · rw [Port.bits_ofWidth lang s.name s.direction (one_lt_of_ne nonempty single), List.map_reverse,
      List.map_map, List.map_map]
    rfl

end BoardSignal

namespace Board

/-- The bits of the port that is declared for each signal are the targets of the signal in reverse. So
the targets of a board are the bits of the declared ports. -/
theorem declares_targets (lang : Language) (nonempty : ∀ s ∈ board.signals, s.width ≠ 0) :
    List.Forall₂ (fun s port => (port.bits lang).map PortBit.shape =
        ((s.targets lang).map Target.shape).reverse) board.signals (board.ports lang) ∧
      ∀ name direction, (∃ t ∈ board.targets lang, t.name = name ∧ t.direction = direction) ↔
        ∃ port ∈ board.ports lang, ∃ bit ∈ port.bits lang,
          bit.name = name ∧ bit.direction = direction := by
  constructor
  · rw [ports, List.forall₂_map_right_iff, List.forall₂_same]
    exact fun s member => BoardSignal.map_shape_bits lang (nonempty s member)
  · intro name direction
    have inPort (s : BoardSignal) (member : s ∈ board.signals) :
        (name, direction) ∈ (s.targets lang).map Target.shape ↔ (name, direction) ∈
          ((Port.ofWidth lang s.name s.direction s.width).bits lang).map PortBit.shape := by
      rw [BoardSignal.map_shape_bits lang (nonempty s member), List.mem_reverse]
    simp only [List.mem_map, Target.shape, PortBit.shape, Prod.mk.injEq] at inPort
    simp only [targets, ports, List.mem_flatMap, List.mem_map]
    constructor
    · rintro ⟨t, ⟨s, member, inSignal⟩, named⟩
      exact ⟨_, ⟨s, member, rfl⟩, (inPort s member).mp ⟨t, inSignal, named⟩⟩
    · rintro ⟨_, ⟨s, member, rfl⟩, declared⟩
      obtain ⟨t, inSignal, named⟩ := (inPort s member).mpr declared
      exact ⟨t, ⟨s, member, inSignal⟩, named⟩

/-- A board with a single bit, a vector of a single bit and a vector of as many bits as there can be. -/
def widest : Board where
  name := "widest"
  signals :=
    [{ name := "CLK", direction := .input },
     { name := "RUN", direction := .output, declaredWidth := some 1, idle := some .low },
     { name := "MEM", direction := .input, declaredWidth := some 18446744073709551615 }]

/-- The last bit of the widest vector is declared. -/
theorem declares_widest : (∀ s ∈ widest.signals, s.width ≠ 0) ∧
    List.Forall₂ (fun s port => (port.bits .vhdl).map PortBit.shape =
      ((s.targets .vhdl).map Target.shape).reverse) widest.signals (widest.ports .vhdl) ∧
    ∃ port ∈ widest.ports .vhdl, ∃ bit ∈ port.bits .vhdl,
      bit.name = Language.vhdl.index "MEM" 18446744073709551614 ∧ bit.direction = .input := by
  have nonempty : ∀ s ∈ widest.signals, s.width ≠ 0 := by decide
  have declared := declares_targets .vhdl nonempty
  have last : ⟨Language.vhdl.index "MEM" 18446744073709551614, .input, none⟩ ∈ widest.targets .vhdl := by
    refine List.mem_flatMap.mpr ⟨⟨"MEM", .input, some 18446744073709551615, none⟩, by decide, ?_⟩
    exact List.mem_map.mpr ⟨18446744073709551614, List.mem_range.mpr (by decide), rfl⟩
  exact ⟨nonempty, declared.1, (declared.2 _ _).mp ⟨_, last, rfl, rfl⟩⟩

end Board

/-! ## Names -/

namespace BoardSignal

/-- The names of the targets of a signal, folded. -/
def foldedNames (lang : Language) (s : BoardSignal) : List String :=
  (s.targets lang).map fun t => lang.fold t.name

/-- A single bit is named like one bit of a vector. -/
def NamesBit (lang : Language) (single vector : BoardSignal) : Prop :=
  single.width = 1 ∧ vector.width ≠ 1 ∧
    ∃ i < vector.width.toNat, lang.fold single.name = lang.fold (lang.index vector.name i)

/-- Two single bits or two vectors have the same name, or one signal is named like a bit of the other. -/
def Clash (lang : Language) (first second : BoardSignal) : Prop :=
  ((first.width = 1 ↔ second.width = 1) ∧ lang.fold first.name = lang.fold second.name) ∨
    NamesBit lang first second ∨ NamesBit lang second first

instance : Decidable (NamesBit lang first second) :=
  inferInstanceAs (Decidable (_ ∧ _ ∧ ∃ i, i < _ ∧ _))

instance : Decidable (Clash lang first second) :=
  inferInstanceAs (Decidable ((_ ∧ _) ∨ _ ∨ _))

theorem mem_foldedNames_iff : name ∈ s.foldedNames lang ↔
    (s.width = 1 ∧ name = lang.fold s.name) ∨
      s.width ≠ 1 ∧ ∃ i < s.width.toNat, name = lang.fold (lang.index s.name i) := by
  unfold foldedNames targets
  split_ifs with single
  · simp [single]
  · simp [single, eq_comm]

theorem nodup_foldedNames (lang : Language) (s : BoardSignal) : (s.foldedNames lang).Nodup := by
  unfold foldedNames targets
  split_ifs
  · exact List.nodup_singleton _
  · rw [List.map_map]
    refine List.nodup_range.map fun i j same => ?_
    simp only [Function.comp_apply, Language.fold_index] at same
    exact (Language.index_inj.mp same).2

/-- Two signals that are not empty clash exactly if they share the name of a target. -/
theorem clash_iff (nonempty : first.width ≠ 0) (nonemptyToo : second.width ≠ 0) :
    Clash lang first second ↔ ∃ name ∈ first.foldedNames lang, name ∈ second.foldedNames lang := by
  constructor
  · rintro (⟨kind, same⟩ | ⟨single, vector, i, inside, same⟩ | ⟨single, vector, i, inside, same⟩)
    · by_cases single : first.width = 1
      · exact ⟨_, mem_foldedNames_iff.mpr (.inl ⟨single, rfl⟩),
          mem_foldedNames_iff.mpr (.inl ⟨kind.mp single, same⟩)⟩
      · -- Every vector has a bit of number zero.
        have positive {s : BoardSignal} (nonempty : s.width ≠ 0) : 0 < s.width.toNat :=
          Nat.pos_of_ne_zero fun zero => nonempty (UInt64.toNat_inj.mp zero)
        refine ⟨_, mem_foldedNames_iff.mpr (.inr ⟨single, 0, positive nonempty, rfl⟩),
          mem_foldedNames_iff.mpr (.inr ⟨single ∘ kind.mpr, 0, positive nonemptyToo, ?_⟩)⟩
        rw [Language.fold_index, Language.fold_index, same]
    · exact ⟨_, mem_foldedNames_iff.mpr (.inl ⟨single, rfl⟩),
        mem_foldedNames_iff.mpr (.inr ⟨vector, i, inside, same⟩)⟩
    · exact ⟨_, mem_foldedNames_iff.mpr (.inr ⟨vector, i, inside, same⟩),
        mem_foldedNames_iff.mpr (.inl ⟨single, rfl⟩)⟩
  · rintro ⟨name, inFirst, inSecond⟩
    rw [mem_foldedNames_iff] at inFirst inSecond
    rcases inFirst with ⟨single, rfl⟩ | ⟨several, i, inside, rfl⟩
    · rcases inSecond with ⟨singleToo, same⟩ | ⟨several, i, inside, same⟩
      · exact .inl ⟨iff_of_true single singleToo, same⟩
      · exact .inr (.inl ⟨single, several, i, inside, same⟩)
    · rcases inSecond with ⟨single, same⟩ | ⟨severalToo, j, -, same⟩
      · exact .inr (.inr ⟨single, several, i, inside, same.symm⟩)
      · rw [Language.fold_index, Language.fold_index] at same
        exact .inl ⟨iff_of_false several severalToo, (Language.index_inj.mp same).1⟩

end BoardSignal

namespace Board

/-- No signal of a board that passes its check is empty. -/
theorem width_ne_zero_of_faultAfter {seen : List String} {signals : List BoardSignal}
    (valid : faultAfter seen signals = none) : ∀ s ∈ signals, s.width ≠ 0 := by
  induction signals generalizing seen with
  | nil => exact List.forall_mem_nil _
  | cons first rest ih =>
    rw [faultAfter, Option.or_eq_none_iff] at valid
    refine List.forall_mem_cons.mpr ⟨fun empty => ?_, ih valid.2⟩
    rw [signalFault, if_pos empty] at valid
    cases valid.1

/-- The targets of a board differ in their names as the language of a design compares them, so that every
signal that is accepted is one of them. -/
structure Unambiguous (lang : Language) (board : Board) : Prop where
  distinct : ((board.targets lang).map fun t => lang.fold t.name).Nodup
  denotes : ∀ signal direction, board.accepts lang signal direction →
    ∃! i : Nat, ((board.targets lang).map fun t => lang.fold t.name)[i]? = some (lang.fold signal)

theorem unambiguous_of_distinct (distinct : ((board.targets lang).map fun t => lang.fold t.name).Nodup) :
    board.Unambiguous lang := by
  refine ⟨distinct, fun signal direction accepted => ?_⟩
  rw [accepts, List.any_eq_true] at accepted
  obtain ⟨t, member, same⟩ := accepted
  rw [Bool.and_eq_true, decide_eq_true_eq] at same
  have listed : lang.fold signal ∈ (board.targets lang).map fun t => lang.fold t.name :=
    same.1 ▸ List.mem_map_of_mem member
  obtain ⟨i, atPlace⟩ := List.mem_iff_getElem?.mp listed
  refine ⟨i, atPlace, fun j atOther => ?_⟩
  obtain ⟨inside, -⟩ := List.getElem?_eq_some_iff.mp atPlace
  exact ((List.getElem?_inj inside distinct).mp (atPlace.trans atOther.symm)).symm

/-- The targets of a board that passes its check differ in their names exactly if no two of its signals
clash in the language of the design. -/
theorem unambiguous_iff (valid : board.fault? = none) : board.Unambiguous lang ↔
    board.signals.Pairwise fun first second => ¬ BoardSignal.Clash lang first second := by
  have nonempty := width_ne_zero_of_faultAfter valid
  have names : (board.targets lang).map (fun t => lang.fold t.name) =
      board.signals.flatMap (BoardSignal.foldedNames lang) := List.map_flatMap
  have apart : board.Unambiguous lang ↔ (board.signals.flatMap (BoardSignal.foldedNames lang)).Nodup :=
    ⟨fun unambiguous => names ▸ unambiguous.distinct,
      fun distinct => unambiguous_of_distinct (names.symm ▸ distinct)⟩
  rw [apart, List.nodup_flatMap, and_iff_right fun s _ => BoardSignal.nodup_foldedNames lang s]
  refine List.Pairwise.iff_of_mem fun {first second} inFirst inSecond => ?_
  rw [BoardSignal.clash_iff (nonempty first inFirst) (nonempty second inSecond)]
  simp [Function.onFun, List.disjoint_left]

/-- A board with vectors of two bits, and with single bits that are named like third bits of these. -/
def nearlyAlike : Board where
  name := "nearly alike"
  signals :=
    [{ name := "row", direction := .input, declaredWidth := some 2 },
     { name := "Row[2]", direction := .input },
     { name := "row[2]", direction := .output, idle := some .low },
     { name := "Row", direction := .output, declaredWidth := some 2 }]

/-- In Verilog all of its names differ. -/
theorem unambiguous_nearlyAlike : nearlyAlike.fault? = none ∧ nearlyAlike.Unambiguous .verilog := by
  have valid : nearlyAlike.fault? = none := by decide
  exact ⟨valid, (unambiguous_iff valid).mpr (by decide)⟩

/-- A board whose two signals differ in letter case only. -/
def twoLamps : Board where
  name := "two lamps"
  signals := [{ name := "lamp", direction := .output }, { name := "LAMP", direction := .output }]

/-- The board passes its check, but in VHDL its two lamps have one name. -/
theorem not_unambiguous_twoLamps :
    ¬ ∀ (lang : Language) (board : Board), board.fault? = none → board.Unambiguous lang := by
  intro claimed
  have distinct := (claimed .vhdl twoLamps (by decide)).distinct
  have names : (twoLamps.targets .vhdl).map (fun t => Language.vhdl.fold t.name) = ["lamp", "lamp"] := by
    cbv
  rw [names] at distinct
  exact absurd distinct (by decide)

end Board

end BoardBind
