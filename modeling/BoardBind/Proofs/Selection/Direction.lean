import BoardBind.Proofs.Selection.Run

/-! # The directions of bound bits

A binding is admitted in the direction of its bit, but a bit of a newly selected top takes over the
signal of an old bit by its name alone. So bits hold signals of their own direction throughout a run
exactly if no selection of a top hands a signal to a bit of the other direction.
-/

namespace BoardBind.Selection

variable {d : Design} {s : Selection} {board : Board} {call : Call} {calls : List Call}
  {old : List PortBit}

/-- Every bound bit holds a signal that the board has in the direction of the bit. -/
def DirectionSafe (board : Board) (s : Selection) : Prop :=
  ∀ bit ∈ s.bits, bit.isBound → board.accepts s.design.language bit.signal bit.direction

/-- A call that binds bits to targets of the board only. -/
def Call.BindsOn (board : Board) : Call → Prop
  | .setTop .. => True
  | .assign other _ | .restore other _ => other = board
  | .bindBit .. | .freeBit .. => False

/-- The last bound bit of a name. -/
def lastBound? (bits : List PortBit) (name : String) : Option PortBit :=
  bits.findRev? fun bit => bit.isBound && bit.name = name

/-- Whether selecting a unit as the top, with the bindings preserved, hands a signal to a bit of the
other direction in which the board does not have the signal. -/
def TurnsAround (board : Board) (s : Selection) (name : String) : Prop :=
  ∃ r, s.design.unit? name = some r ∧
    ∃ bit ∈ freshBits s.design.language (Port.sortByName r.ports),
      ∃ holder, lastBound? s.bits bit.name = some holder ∧ holder.direction ≠ bit.direction ∧
        ¬ board.accepts s.design.language holder.signal bit.direction

theorem of_lastBound? {name : String} {holder : PortBit}
    (found : lastBound? old name = some holder) : holder ∈ old ∧ holder.isBound := by
  rw [lastBound?, List.findRev?_eq_find?_reverse] at found
  have chosen := List.find?_some found
  exact ⟨List.mem_reverse.mp (List.mem_of_find?_eq_some found), (Bool.and_eq_true_iff.mp chosen).1⟩

theorem directionSafe_initial (board : Board) (d : Design) : DirectionSafe board (initial d) := by
  intro bit member bound
  rw [bits_initial] at member
  rw [Design.isBound_of_mem_freshBits member] at bound
  cases bound

/-- Bindings of the board are admitted in the direction of their bits. -/
theorem DirectionSafe.restore (safe : DirectionSafe board s) (bindings : List Binding) :
    DirectionSafe board (s.restore board bindings).2 := by
  intro bit member bound
  rw [restore_snd] at member ⊢
  obtain ⟨i, atBit⟩ := List.mem_iff_getElem?.mp member
  rw [rebindAll, List.getElem?_mapIdx] at atBit
  obtain ⟨before, found, rfl⟩ := Option.map_eq_some_iff.mp atBit
  cases last : s.lastSignal? board bindings i with
  | none =>
    rw [last] at bound
    exact safe before (List.mem_of_getElem? found) bound
  | some signal =>
    obtain ⟨b, -, admitted, index, rfl⟩ := exists_of_lastSignal? last
    exact (admits_of_bitIndex? index found).symm.trans admitted

theorem assign_snd_eq_restore (s : Selection) (board : Board) (binding : Binding) :
    (s.assign board binding).2 = (s.restore board [binding]).2 := by
  rw [restore_cons_snd, restore]

/-- The bits of a selected unit are safe if the board has the signals that they take over. -/
theorem directionSafe_select_iff {top : String} {ports : List Port} :
    DirectionSafe board (s.select top ports old) ↔
      ∀ bit ∈ freshBits s.design.language (Port.sortByName ports), ∀ holder,
        lastBound? old bit.name = some holder →
          board.accepts s.design.language holder.signal bit.direction := by
  rw [DirectionSafe, select, List.forall_mem_map]
  refine forall₂_congr fun bit member => ?_
  have signal : signalOf? old bit.name = (lastBound? old bit.name).map (·.signal) := rfl
  rw [rebind, signal]
  cases found : lastBound? old bit.name with
  | none => simp [Design.isBound_of_mem_freshBits member]
  | some holder =>
    have bound : (bit.bind holder.signal).isBound := (of_lastBound? found).2
    simp only [Option.map_some, bound, true_implies, Option.some.injEq, forall_eq']
    rfl

/-- A call keeps bound bits safe unless it preserves bindings and turns one of them around. -/
theorem directionSafe_perform_iff (safe : DirectionSafe board s) (onBoard : call.BindsOn board) :
    DirectionSafe board (s.perform call).2 ↔
      ∀ name, call = .setTop name true → ¬ TurnsAround board s name := by
  cases call with
  | assign other binding =>
    obtain rfl : other = board := onBoard
    have next : DirectionSafe other (s.assign other binding).2 :=
      assign_snd_eq_restore s other binding ▸ safe.restore [binding]
    exact iff_of_true next fun _ impossible => by cases impossible
  | restore other bindings =>
    obtain rfl : other = board := onBoard
    exact iff_of_true (safe.restore bindings) fun _ impossible => by cases impossible
  | bindBit | freeBit => exact onBoard.elim
  | setTop name preserve =>
    simp only [perform, Prod.map_snd, id, setTop_eq]
    cases found : s.design.unit? name with
    | none =>
      refine iff_of_true safe fun other same turns => ?_
      obtain ⟨rfl, -⟩ := Call.setTop.inj same
      obtain ⟨r, known, -⟩ := turns
      cases found.symm.trans known
    | some r =>
      rw [directionSafe_select_iff]
      cases preserve with
      | false => exact iff_of_true (fun _ _ _ none => by cases none) fun _ same => by cases same
      | true =>
        simp only [if_true, Call.setTop.injEq, and_true, forall_eq', TurnsAround, found,
          Option.some.injEq, not_exists, not_and, not_not]
        refine forall₂_congr fun bit _ => forall₂_congr fun holder held => ?_
        constructor
        · exact fun accepted _ => accepted
        · intro ifTurned
          by_cases same : holder.direction = bit.direction
          · obtain ⟨member, bound⟩ := of_lastBound? held
            exact same ▸ safe holder member bound
          · exact ifTurned same

/-- Throughout a run of calls on one board, every bound bit holds a signal that the board has in the
direction of the bit, exactly if no call that preserves bindings turns one of them around. -/
theorem directionSafe_run_iff (d : Design) (board : Board)
    (onBoard : ∀ call ∈ calls, call.BindsOn board) :
    (∀ past, past <+: calls → DirectionSafe board ((initial d).run past)) ↔
      ∀ past name, past ++ [.setTop name true] <+: calls →
        ¬ TurnsAround board ((initial d).run past) name := by
  induction calls using List.reverseRecOn with
  | nil =>
    refine iff_of_true (fun past none => ?_) fun past name none => ?_
    · rw [List.prefix_nil.mp none]
      exact directionSafe_initial board d
    · cases List.append_eq_nil_iff.mp (List.prefix_nil.mp none) |>.2
  | append_singleton calls call ih =>
    obtain ⟨before, last⟩ := List.forall_mem_append.mp onBoard
    -- What is asked of the longer run is what is asked of the shorter one, and of the last call.
    have safe_iff : (∀ past, past <+: calls ++ [call] → DirectionSafe board ((initial d).run past)) ↔
        (∀ past, past <+: calls → DirectionSafe board ((initial d).run past)) ∧
          DirectionSafe board ((initial d).run (calls ++ [call])) := by
      simp only [List.prefix_concat_iff, or_imp, forall_and, forall_eq, and_comm]
    have turn_iff : (∀ past name, past ++ [Call.setTop name true] <+: calls ++ [call] →
          ¬ TurnsAround board ((initial d).run past) name) ↔
        (∀ past name, past ++ [Call.setTop name true] <+: calls →
          ¬ TurnsAround board ((initial d).run past) name) ∧
          ∀ name, call = .setTop name true → ¬ TurnsAround board ((initial d).run calls) name := by
      constructor
      · intro none
        refine ⟨fun past name earlier => none past name (earlier.trans (List.prefix_append ..)), ?_⟩
        rintro name rfl
        exact none calls name List.prefix_rfl
      · rintro ⟨earlier, here⟩ past name reached
        rcases List.prefix_concat_iff.mp reached with whole | inside
        · obtain ⟨rfl, same⟩ := List.append_singleton_inj.mp whole
          exact here name same.symm
        · exact earlier past name inside
    rw [safe_iff, turn_iff, ← ih before]
    refine and_congr_right fun safe => ?_
    rw [run_append]
    exact directionSafe_perform_iff (safe calls List.prefix_rfl) (last call (List.mem_singleton_self call))

/-- Two modules with a port of one name, which is an input of one and an output of the other. -/
def mirrored : List Declarations :=
  [{ units := ["a", "b"].map fun name => .declare .verilog name "mirror.sv"
     ports := [("a", .declare .verilog "x" .input none), ("b", .declare .verilog "x" .output none)] }]

/-- Binds the input to a button, and selects the other module with the binding preserved. -/
def turning : List Call :=
  [.assign .standard ⟨"x", "BTNC"⟩, .setTop "b" true]

theorem turning_bindsOn : ∀ call ∈ turning, call.BindsOn .standard :=
  List.forall_mem_cons.mpr ⟨rfl, List.forall_mem_singleton.mpr trivial⟩

private theorem mirrored_turned : ∃ d, Design.resolve .verilog mirrored = .ok d ∧
    ¬ DirectionSafe .standard ((initial d).run turning) := by
  have turned : (Design.resolve .verilog mirrored).map
      (fun d => (((initial d).run turning).design.language, ((initial d).run turning).bits)) =
        .ok (.verilog, [⟨"x", .output, "BTNC"⟩]) := by cbv
  obtain ⟨d, success, found⟩ := except_map_eq_ok_iff.mp turned
  obtain ⟨isVerilog, bits⟩ := Prod.mk.inj found
  refine ⟨d, success, fun safe => ?_⟩
  have accepted := safe ⟨"x", .output, "BTNC"⟩ (bits ▸ List.mem_singleton_self _) (by decide)
  rw [isVerilog] at accepted
  exact absurd accepted (by decide +kernel)

/-- A preserved binding may drive a button of the board. -/
theorem not_directionSafe_mirrored : ¬ ∀ (lang : Language) (files : List Declarations) (d : Design)
    (board : Board) (calls : List Call), Design.resolve lang files = .ok d →
      (∀ call ∈ calls, call.BindsOn board) → DirectionSafe board ((initial d).run calls) := by
  intro claimed
  obtain ⟨d, success, violated⟩ := mirrored_turned
  exact violated (claimed _ _ d _ _ success turning_bindsOn)

/-- So one of the calls on the mirrored modules turns a binding around. -/
theorem turnsAround_mirrored : ∃ d, Design.resolve .verilog mirrored = .ok d ∧
    (∀ call ∈ turning, call.BindsOn .standard) ∧
      ∃ past name, past ++ [.setTop name true] <+: turning ∧
        TurnsAround .standard ((initial d).run past) name := by
  obtain ⟨d, success, violated⟩ := mirrored_turned
  refine ⟨d, success, turning_bindsOn, ?_⟩
  have criterion := directionSafe_run_iff d .standard turning_bindsOn
  by_contra none
  refine violated (criterion.mpr (fun past name reached turns => ?_) turning List.prefix_rfl)
  exact none ⟨past, name, reached, turns⟩

end BoardBind.Selection
