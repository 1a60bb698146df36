import BoardBind.Proofs.Board.Table
import BoardBind.Proofs.Command.Binding

/-! # Bindings of the previous wrapper and of the configuration

The configuration is to override the previous wrapper where it assigns a bit or its signal otherwise.
Before it is applied, every signal that it mentions is taken away from the bits that hold it, also by a
binding that is then refused. So the restored bindings survive unless they are overridden exactly if no
refused binding mentions the signal of one.

A signal that two bits share after binding was given to both by the configuration, or it is not
configured and was given to both by the previous wrapper: the two sources never make a conflict between
them.
-/

namespace BoardBind

/-- A bit that is freed if it holds one of the given signals. -/
def PortBit.released (signals : List String) (bit : PortBit) : PortBit :=
  if bit.signal ∈ signals then bit.unbind else bit

namespace Command

open Selection

variable {s : Selection} {board : Board} {previous configured : List Binding} {signal : String}
  {i : Nat}

theorem sameShape_release (s : Selection) (signals : List String) : SameShape (s.release signals) s where
  design := rfl
  top := rfl
  ports := rfl
  items := rfl
  bits := by
    rw [release, List.map_map]
    refine List.map_congr_left fun bit _ => ?_
    rw [Function.comp_apply]
    split <;> rfl

/-- What binding does to a bit: it is given its restored signal, freed if this signal is configured, and
given its configured signal. -/
theorem getElem?_bindAll (s : Selection) (board : Board) (previous configured : List Binding) (i : Nat) :
    (bindAll s board previous configured).2.bits[i]? = s.bits[i]?.map fun bit =>
      ((bit.rebound (s.lastSignal? board previous i)).released
        (configured.map (·.signal))).rebound (s.lastSignal? board configured i) := by
  have restored := sameShape_rebindAll s (s.lastSignal? board previous)
  have released := sameShape_release (s.rebindAll (s.lastSignal? board previous))
    (configured.map (·.signal))
  simp only [bindAll, restore_snd]
  rw [rebindAll, List.getElem?_mapIdx, released.lastSignal?, restored.lastSignal?]
  rw [release, List.getElem?_map, rebindAll, List.getElem?_mapIdx, Option.map_map, Option.map_map]
  rfl

/-! ## Restored bindings that survive -/

/-- The bindings of the previous wrapper bind a bit to a signal: it is the last one admitted for it. -/
structure RestoredTo (s : Selection) (board : Board) (previous : List Binding) (i : Nat)
    (signal : String) : Prop where
  last : s.lastSignal? board previous i = some signal
  bound : signal ≠ ""

/-- A configured binding that is admitted names a bit, or it assigns the signal of the bit to another. -/
def Overridden (s : Selection) (board : Board) (configured : List Binding) (i : Nat)
    (signal : String) : Prop :=
  ∃ b ∈ configured, s.admits board b ∧
    (s.bitIndex? b.port = some i ∨ s.bitIndex? b.port ≠ some i ∧ b.signal = signal)

/-- Every bit that the previous wrapper bound is still bound to the same signal after binding, unless
its binding is overridden. -/
def KeepsRestored (s : Selection) (board : Board) (previous configured : List Binding) : Prop :=
  ∀ i signal, RestoredTo s board previous i signal →
    (bindAll s board previous configured).2.bits[i]?.map (·.signal) = some signal ∨
      Overridden s board configured i signal

theorem RestoredTo.inside (restored : RestoredTo s board previous i signal) : i < s.bits.length := by
  obtain ⟨b, -, -, index, -⟩ := exists_of_lastSignal? restored.last
  exact (List.findIdx?_eq_some_iff_getElem.mp index).1

/-- A restored binding that is not overridden survives exactly if its signal is not configured. -/
theorem RestoredTo.survives_iff (restored : RestoredTo s board previous i signal)
    (kept : ¬ Overridden s board configured i signal) :
    (bindAll s board previous configured).2.bits[i]?.map (·.signal) = some signal ↔
      signal ∉ configured.map (·.signal) := by
  have unnamed : s.lastSignal? board configured i = none :=
    lastSignal?_eq_none_iff.mpr fun b member admitted names =>
      kept ⟨b, member, admitted, .inl names⟩
  rw [getElem?_bindAll, List.getElem?_eq_getElem restored.inside, Option.map_some, Option.map_some,
    unnamed, PortBit.rebound_none, restored.last, PortBit.rebound_some, Option.some_inj,
    PortBit.released, PortBit.signal_bind]
  split
  · next claimed => exact iff_of_false restored.bound.symm (not_not.mpr claimed)
  · next unclaimed => exact iff_of_true rfl unclaimed

/-- A configured binding of a signal overrides all its holders, unless it is refused. -/
theorem overridden_of_admitted {b : Binding} (member : b ∈ configured) (admitted : s.admits board b) :
    Overridden s board configured i b.signal := by
  by_cases names : s.bitIndex? b.port = some i
  · exact ⟨b, member, admitted, .inl names⟩
  · exact ⟨b, member, admitted, .inr ⟨names, rfl⟩⟩

/-- The restored bindings survive unless they are overridden, exactly if no configured binding that is
refused mentions the signal of a restored one that is not overridden. -/
theorem keepsRestored_iff (s : Selection) (board : Board) (previous configured : List Binding) :
    KeepsRestored s board previous configured ↔
      ∀ b ∈ configured, ¬ s.admits board b → ∀ i, RestoredTo s board previous i b.signal →
        Overridden s board configured i b.signal := by
  constructor
  · intro keeps b member _ i restored
    by_contra kept
    have survives := (keeps i b.signal restored).resolve_right kept
    exact (restored.survives_iff kept).mp survives (List.mem_map_of_mem member)
  · intro harmless i signal restored
    by_cases kept : Overridden s board configured i signal
    · exact .inr kept
    · refine .inl ((restored.survives_iff kept).mpr fun claimed => kept ?_)
      obtain ⟨b, member, rfl⟩ := List.mem_map.mp claimed
      by_cases admitted : s.admits board b
      · exact overridden_of_admitted member admitted
      · exact harmless b member admitted i restored

/-- A unit with two lamps as its outputs, with nothing bound. -/
def lampPair : Selection :=
  .initial
    { language := .vhdl
      graph := Graph.empty.addNode
        ⟨.declare .vhdl "pair" "pair.vhd", [.declare .vhdl "led" .output (some (.ofBounds 1 0))]⟩
      items := [⟨0, "pair", "pair.vhd"⟩]
      suggested := "pair" }

/-- A configured binding of a misspelt bit is refused, and yet its signal is taken away from the bit
that the previous wrapper bound to it. -/
theorem not_keepsRestored_misspelt :
    ¬ KeepsRestored lampPair .standard [⟨"led(0)", "LD(0)"⟩] [⟨"lde(0)", "LD(0)"⟩] := by
  intro keeps
  have restored : RestoredTo lampPair .standard [⟨"led(0)", "LD(0)"⟩] 1 "LD(0)" :=
    ⟨by decide +kernel, by decide⟩
  rcases keeps 1 "LD(0)" restored with survives | ⟨b, member, admitted, -⟩
  · exact absurd survives (by decide +kernel)
  · rw [List.mem_singleton.mp member] at admitted
    exact absurd admitted (by decide +kernel)

/-! ## Bits that share a signal -/

section sharing

variable {signal? : Nat → Option String} {j : Nat}

/-- The bits of an unbound selection hold what they are given. -/
theorem getElem?_rebindAll_eq_some_iff (unbound : Unbound s) (nonempty : signal ≠ "") :
    ((s.rebindAll signal?).bits[i]?.map (·.signal)) = some signal ↔
      i < s.bits.length ∧ signal? i = some signal := by
  rw [Selection.rebindAll, List.getElem?_mapIdx, Option.map_map]
  constructor
  · intro held
    obtain ⟨bit, found, same⟩ := Option.map_eq_some_iff.mp held
    refine ⟨(List.getElem?_eq_some_iff.mp found).1, ?_⟩
    rw [Function.comp_apply] at same
    cases given : signal? i with
    | none =>
      rw [given, PortBit.rebound_none, unbound bit (List.mem_of_getElem? found)] at same
      exact absurd same.symm nonempty
    | some other =>
      rw [given, PortBit.rebound_some, PortBit.signal_bind] at same
      rw [same]
  · rintro ⟨inside, given⟩
    rw [List.getElem?_eq_getElem inside, Option.map_some, Function.comp_apply, given,
      PortBit.rebound_some, PortBit.signal_bind]

/-- Where the signal of a bit comes from: the configuration, or the previous wrapper for a signal that
is not configured. -/
theorem boundSignal?_eq_some_iff : boundSignal? s board previous configured i = some signal ↔
    s.lastSignal? board configured i = some signal ∨
      s.lastSignal? board configured i = none ∧ signal ∉ configured.map (·.signal) ∧
        s.lastSignal? board previous i = some signal := by
  simp only [boundSignal?, Option.or_eq_some_iff, Option.filter_eq_some_iff, decide_eq_true_eq]
  tauto

/-- A signal that the configuration gives to a bit is a configured one. -/
theorem mem_signals_of_lastSignal? (last : s.lastSignal? board configured i = some signal) :
    signal ∈ configured.map (·.signal) := by
  obtain ⟨b, member, -, -, rfl⟩ := Selection.exists_of_lastSignal? last
  exact List.mem_map_of_mem member

/-- Both bits that share a signal were given it by the same source. -/
theorem sources_of_sharedBy (unbound : Unbound s)
    (shared : SharedBy (bindAll s board previous configured).2.bits i j signal) :
    (s.lastSignal? board configured i = some signal ∧ s.lastSignal? board configured j = some signal) ∨
      (signal ∉ configured.map (·.signal) ∧ s.lastSignal? board previous i = some signal ∧
        s.lastSignal? board previous j = some signal) := by
  obtain ⟨-, nonempty, first, second⟩ := shared
  rw [bindAll_snd unbound, getElem?_rebindAll_eq_some_iff unbound nonempty,
    boundSignal?_eq_some_iff] at first second
  obtain ⟨-, first⟩ := first
  obtain ⟨-, second⟩ := second
  rcases first with configuredFirst | ⟨-, unclaimed, restoredFirst⟩
  · rcases second with configuredSecond | ⟨-, unclaimed, -⟩
    · exact .inl ⟨configuredFirst, configuredSecond⟩
    · exact absurd (mem_signals_of_lastSignal? configuredFirst) unclaimed
  · rcases second with configuredSecond | ⟨-, -, restoredSecond⟩
    · exact absurd (mem_signals_of_lastSignal? configuredSecond) unclaimed
    · exact .inr ⟨unclaimed, restoredFirst, restoredSecond⟩

/-- Bindings of different signals give no signal to two bits. -/
theorem eq_of_lastSignal? (distinct : (configured.map (·.signal)).Nodup)
    (first : s.lastSignal? board configured i = some signal)
    (second : s.lastSignal? board configured j = some signal) : i = j := by
  obtain ⟨b, member, -, index, given⟩ := Selection.exists_of_lastSignal? first
  obtain ⟨other, inList, -, otherIndex, otherGiven⟩ := Selection.exists_of_lastSignal? second
  obtain rfl := List.inj_on_of_nodup_map distinct member inList (given.trans otherGiven.symm)
  exact Option.some.inj (index.symm.trans otherIndex)

/-- Two bits share a signal after binding only if one source gave it to both: the configuration, or the
previous wrapper for a signal that is not configured. So if what is restored has no conflict and no
signal is configured twice, then there is none after binding. -/
theorem conflicts_of_one_source (unbound : Unbound s) (board : Board)
    (previous configured : List Binding) :
    (∀ i j signal, SharedBy (bindAll s board previous configured).2.bits i j signal →
      (s.lastSignal? board configured i = some signal ∧
          s.lastSignal? board configured j = some signal) ∨
        (signal ∉ configured.map (·.signal) ∧ s.lastSignal? board previous i = some signal ∧
          s.lastSignal? board previous j = some signal)) ∧
      (((s.restore board previous).2.table board).conflicts = [] →
        (configured.map (·.signal)).Nodup →
        ((bindAll s board previous configured).2.table board).conflicts = []) := by
  refine ⟨fun i j signal shared => sources_of_sharedBy unbound shared, fun free distinct => ?_⟩
  have restored := Selection.restore_snd s board previous
  have shape : (s.restore board previous).2.design = s.design := by rw [restored]; rfl
  have shapeAfter : (bindAll s board previous configured).2.design = s.design := by
    rw [bindAll_snd unbound]; rfl
  rw [Selection.table, conflicts_eq_nil_iff] at free ⊢
  rw [shapeAfter]
  rw [shape] at free
  intro t target
  by_contra several
  obtain ⟨i, j, shared⟩ := two_le_length_boundTo_iff_sharedBy.mp (Nat.le_of_not_lt several)
  rcases sources_of_sharedBy unbound shared with ⟨first, second⟩ | ⟨-, first, second⟩
  · exact shared.different (eq_of_lastSignal? distinct first second)
  · have inside {k : Nat} (last : s.lastSignal? board previous k = some t.name) :
        k < s.bits.length := by
      obtain ⟨b, -, -, index, -⟩ := Selection.exists_of_lastSignal? last
      exact (List.findIdx?_eq_some_iff_getElem.mp index).1
    have before : SharedBy (s.restore board previous).2.bits i j t.name := by
      refine ⟨shared.different, shared.bound, ?_, ?_⟩ <;> rw [restored]
      · exact (getElem?_rebindAll_eq_some_iff unbound shared.bound).mpr ⟨inside first, first⟩
      · exact (getElem?_rebindAll_eq_some_iff unbound shared.bound).mpr ⟨inside second, second⟩
    exact absurd (free t target) (Nat.not_lt.mpr (two_le_length_boundTo_iff_sharedBy.mpr ⟨i, j, before⟩))

/-- The previous wrapper binds the two lamps, and the configuration gives the first of them the target of
the second: neither source has a conflict, and there is none between them. -/
theorem conflicts_lampPair : Unbound lampPair ∧
    ((lampPair.restore .standard
      [⟨"led(1)", "LD(0)"⟩, ⟨"led(0)", "LD(1)"⟩]).2.table .standard).conflicts = [] ∧
    ([⟨"led(1)", "LD(1)"⟩].map fun b : Binding => b.signal).Nodup ∧
    ((bindAll lampPair .standard [⟨"led(1)", "LD(0)"⟩, ⟨"led(0)", "LD(1)"⟩]
      [⟨"led(1)", "LD(1)"⟩]).2.table .standard).conflicts = [] := by
  have unbound : ∀ bit ∈ lampPair.bits, bit.signal = "" := by decide +kernel
  have free : ((lampPair.restore .standard
      [⟨"led(1)", "LD(0)"⟩, ⟨"led(0)", "LD(1)"⟩]).2.table .standard).conflicts = [] := by
    decide +kernel
  have distinct : ([⟨"led(1)", "LD(1)"⟩].map fun b : Binding => b.signal).Nodup := by decide
  exact ⟨unbound, free, distinct,
    (conflicts_of_one_source unbound .standard _ [⟨"led(1)", "LD(1)"⟩]).2 free distinct⟩

end sharing

end Command

end BoardBind
