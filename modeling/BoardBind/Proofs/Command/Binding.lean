import BoardBind.Command.Resolve
import BoardBind.Proofs.Bindings.RoundTrip
import BoardBind.Proofs.Selection.Restore
import Mathlib

/-! # Binding again what was recorded

The configuration decides over the previous wrapper, and a signal that it claims is not restored. So a
bit ends with its configured signal, or with the restored one unless that is claimed. What is then
recorded for the bits gives the same bindings again under the same configuration.
-/

namespace BoardBind.Command

variable {s : Selection} {board : Board} {lang : Language} {previous configured bindings : List Binding}
  {signal? : Nat → Option String} {bit : PortBit} {signal : String} {i : Nat}

/-- No bit is bound. -/
def Unbound (s : Selection) : Prop :=
  ∀ bit ∈ s.bits, bit.signal = ""

/-- The signal that a bit is left with by the bindings of the previous wrapper and the configured ones. -/
def boundSignal? (s : Selection) (board : Board) (previous configured : List Binding) (i : Nat) :
    Option String :=
  (s.lastSignal? board configured i).or
    ((s.lastSignal? board previous i).filter fun signal => signal ∉ configured.map (·.signal))

theorem release_rebindAll (unbound : Unbound s) (signals : List String) :
    (s.rebindAll signal?).release signals =
      s.rebindAll fun i => (signal? i).filter fun signal => signal ∉ signals := by
  refine congrArg (fun bits => { s with bits }) (List.ext_getElem? fun i => ?_)
  simp only [Selection.rebindAll, List.getElem?_map, List.getElem?_mapIdx, Option.map_map]
  cases found : s.bits[i]? with
  | none => rfl
  | some bit =>
    have free : bit.unbind = bit := by
      have empty := unbound bit (List.mem_of_getElem? found)
      rw [PortBit.unbind, ← empty]
    simp only [Option.map_some, Function.comp_apply]
    cases signal? i with
    | none => simp [free]
    | some signal =>
      rw [Option.filter_some]
      by_cases claimed : signal ∈ signals
      · have freed : (bit.bind signal).unbind = bit := free
        rw [PortBit.rebound_some, PortBit.signal_bind, if_pos claimed, freed, if_neg (by simpa using claimed),
          PortBit.rebound_none]
      · rw [PortBit.rebound_some, PortBit.signal_bind, if_neg claimed, if_pos (by simpa using claimed),
          PortBit.rebound_some]

/-- What binding leaves every bit with. -/
theorem bindAll_snd (unbound : Unbound s) (board : Board) (previous configured : List Binding) :
    (bindAll s board previous configured).2 =
      s.rebindAll (boundSignal? s board previous configured) := by
  have shape := Selection.sameShape_rebindAll s fun i =>
    (s.lastSignal? board previous i).filter fun signal => signal ∉ configured.map (·.signal)
  simp only [bindAll, Selection.restore_snd]
  rw [release_rebindAll unbound, Selection.rebindAll_rebindAll]
  refine congrArg s.rebindAll (funext fun i => ?_)
  rw [shape.lastSignal?, boundSignal?]

/-- Every bit is given a signal that the board has for it, if it is given one. -/
def Offered (s : Selection) (board : Board) (signal? : Nat → Option String) : Prop :=
  ∀ i bit, s.bits[i]? = some bit → ∀ signal, signal? i = some signal →
    signal ≠ "" ∧ board.accepts s.design.language signal bit.direction

theorem binding?_rebound {signal? : Option String} (unbound : bit.signal = "")
    (nonempty : ∀ signal, signal? = some signal → signal ≠ "") :
    (bit.rebound signal?).binding? lang =
      (signal?.filter lang.reads).map fun signal => ⟨bit.name, signal⟩ := by
  cases signal? with
  | none => simp [PortBit.binding?, PortBit.isBound, unbound]
  | some signal =>
    have bound : (bit.bind signal).isBound := by simp [PortBit.isBound, nonempty signal rfl]
    rw [PortBit.rebound_some, PortBit.binding?, bound, Bool.true_and, PortBit.signal_bind,
      Option.filter_some]
    split <;> rfl

section recorded

variable (unbound : Unbound s) (offered : Offered s board signal?)

include unbound offered

/-- What is recorded for bits that were given signals. -/
theorem mem_recorded_iff (b : Binding) :
    b ∈ (s.rebindAll signal?).bits.filterMap (PortBit.binding? s.design.language) ↔
      ∃ j bit, s.bits[j]? = some bit ∧ b.port = bit.name ∧
        (signal? j).filter s.design.language.reads = some b.signal := by
  have written {j : Nat} {bit : PortBit} (found : s.bits[j]? = some bit) :
      (bit.rebound (signal? j)).binding? s.design.language =
        ((signal? j).filter s.design.language.reads).map fun signal => ⟨bit.name, signal⟩ :=
    binding?_rebound (unbound bit (List.mem_of_getElem? found)) fun signal given =>
      (offered j bit found signal given).1
  rw [List.mem_filterMap]
  constructor
  · rintro ⟨bound, member, record⟩
    obtain ⟨j, atJ⟩ := List.mem_iff_getElem?.mp member
    rw [Selection.rebindAll, List.getElem?_mapIdx] at atJ
    obtain ⟨bit, found, rfl⟩ := Option.map_eq_some_iff.mp atJ
    rw [written found] at record
    obtain ⟨signal, given, rfl⟩ := Option.map_eq_some_iff.mp record
    exact ⟨j, bit, found, rfl, given⟩
  · rintro ⟨j, bit, found, name, given⟩
    refine ⟨bit.rebound (signal? j), List.mem_iff_getElem?.mpr ⟨j, ?_⟩, ?_⟩
    · rw [Selection.rebindAll, List.getElem?_mapIdx, found]
      rfl
    · rw [written found, given, Option.map_some, ← name]

variable (distinct : s.DistinctBits)

include distinct

/-- What is recorded gives a bit no other signal than its own. -/
theorem eq_of_lastSignal?_recorded (last : s.lastSignal? board
    ((s.rebindAll signal?).bits.filterMap (PortBit.binding? s.design.language)) i = some signal) :
    (signal? i).filter s.design.language.reads = some signal := by
  obtain ⟨b, member, -, index, rfl⟩ := Selection.exists_of_lastSignal? last
  obtain ⟨j, bit, atJ, name, given⟩ := (mem_recorded_iff unbound offered b).mp member
  rw [name, (Selection.bitIndex?_eq_some_iff distinct atJ).mpr rfl, Option.some_inj] at index
  exact index ▸ given

/-- What is recorded for bits gives the recorded signals. -/
theorem lastSignal?_recorded (inside : i < s.bits.length) :
    s.lastSignal? board
        ((s.rebindAll signal?).bits.filterMap (PortBit.binding? s.design.language)) i =
      (signal? i).filter s.design.language.reads := by
  cases last : s.lastSignal? board
    ((s.rebindAll signal?).bits.filterMap (PortBit.binding? s.design.language)) i with
  | some signal => exact (eq_of_lastSignal?_recorded unbound offered distinct last).symm
  | none =>
    cases given : (signal? i).filter s.design.language.reads with
    | none => rfl
    | some signal =>
      have found : s.bits[i]? = some s.bits[i] := List.getElem?_eq_getElem inside
      have index := (Selection.bitIndex?_eq_some_iff distinct found).mpr rfl
      have refused := Selection.lastSignal?_eq_none_iff.mp last _
        ((mem_recorded_iff unbound offered ⟨s.bits[i].name, signal⟩).mpr ⟨i, _, found, rfl, given⟩)
      rw [Selection.admits_of_bitIndex? index found] at refused
      have accepted := (offered i _ found signal (Option.eq_some_of_filter_eq_some given)).2
      exact absurd index (refused accepted)

end recorded

theorem offered_boundSignal? (named : ∀ t ∈ board.targets s.design.language, t.name ≠ "") :
    Offered s board (boundSignal? s board previous configured) := by
  intro i bit found signal given
  have ofLast {bindings : List Binding} (last : s.lastSignal? board bindings i = some signal) :
      signal ≠ "" ∧ board.accepts s.design.language signal bit.direction := by
    obtain ⟨b, -, admitted, index, rfl⟩ := Selection.exists_of_lastSignal? last
    rw [Selection.admits_of_bitIndex? index found] at admitted
    obtain ⟨t, member, offers⟩ := List.any_eq_true.mp admitted
    rw [Bool.and_eq_true, decide_eq_true_eq] at offers
    exact ⟨offers.1 ▸ named t member, admitted⟩
  rw [boundSignal?, Option.or_eq_some_iff] at given
  rcases given with configured | ⟨-, restored⟩
  · exact ofLast configured
  · exact ofLast (Option.eq_some_of_filter_eq_some restored)

/-- Binding what was recorded, under the same configuration, leaves every bit with the same signal. -/
theorem bindAll_recorded (configured : List Binding) (distinct : s.DistinctBits) (unbound : Unbound s)
    (named : ∀ t ∈ board.targets s.design.language, t.name ≠ "")
    (read : ∀ b ∈ previous, s.design.language.reads b.signal) :
    (bindAll s board ((bindAll s board previous configured).2.bits.filterMap
      (PortBit.binding? s.design.language)) configured).2 = (bindAll s board previous configured).2 := by
  rw [bindAll_snd unbound, bindAll_snd unbound]
  refine Selection.rebindAll_congr fun i inside => ?_
  rw [boundSignal?, lastSignal?_recorded unbound (offered_boundSignal? named) distinct inside,
    boundSignal?]
  cases s.lastSignal? board configured i with
  | some signal => rfl
  | none =>
    rw [Option.none_or, Option.none_or]
    cases restored : s.lastSignal? board previous i with
    | none => rfl
    | some signal =>
      obtain ⟨b, member, -, -, rfl⟩ := Selection.exists_of_lastSignal? restored
      rw [Option.filter_some]
      split
      · next free => rw [Option.filter_some, if_pos (read b member), Option.filter_some, if_pos free]
      · rfl

end BoardBind.Command
