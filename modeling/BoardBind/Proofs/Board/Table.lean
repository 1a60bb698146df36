import BoardBind.Board.AssignmentTable
import Mathlib.Data.List.Nodup
import Mathlib.Data.List.NodupEquivFin
import Mathlib.Tactic.WLOG

/-! # The table of assignments

If no two targets of a board have the same name, then the table lists with every target exactly the
bits that are bound to it. Then its conflicts are the targets that bits share, and its defaults are the
targets with an idle level that no bit is bound to.
-/

namespace BoardBind

variable {board : Board} {lang : Language} {bits : List PortBit} {table : AssignmentTable}
  {targets : List Target} {t : Target} {bit : PortBit} {port signal : String}

/-- The bits that are bound to the signal of a name. -/
def boundTo (bits : List PortBit) (signal : String) : List PortBit :=
  bits.filter fun bit => bit.isBound && bit.signal = signal

/-- No two targets of a board have the same name. -/
def Board.Distinct (lang : Language) (board : Board) : Prop :=
  ((board.targets lang).map (·.name)).Nodup

instance : Decidable (board.Distinct lang) :=
  inferInstanceAs (Decidable (List.Nodup _))

theorem mem_boundTo : bit ∈ boundTo bits signal ↔ bit ∈ bits ∧ bit.isBound ∧ bit.signal = signal := by
  simp only [boundTo, List.mem_filter, Bool.and_eq_true, decide_eq_true_eq]

namespace AssignmentTable

/-- With distinct targets a binding is recorded at every entry of its signal. -/
theorem record_eq_map (distinct : (table.map (·.target.name)).Nodup) :
    table.record port signal = table.map fun entry =>
      if entry.target.name = signal then { entry with ports := entry.ports ++ [port] } else entry := by
  induction table with
  | nil => rfl
  | cons entry rest ih =>
    rw [List.map_cons, List.nodup_cons] at distinct
    rw [record, List.map_cons]
    by_cases same : entry.target.name = signal
    · have absent : ∀ other ∈ rest, (if other.target.name = signal then
          { other with ports := other.ports ++ [port] } else other) = other := by
        intro other member
        refine if_neg fun equal => distinct.1 ?_
        rw [same, ← equal]
        exact List.mem_map_of_mem member
      rw [if_pos same, if_pos same, List.map_congr_left absent, List.map_id']
    · rw [if_neg same, if_neg same, ih distinct.2]

end AssignmentTable

/-- What the table of some bits lists for a target. -/
def Target.assignment (bits : List PortBit) (t : Target) : Assignment :=
  ⟨t, (boundTo bits t.name).map (·.name)⟩

theorem AssignmentTable.map_target_record (table : AssignmentTable) :
    (table.record port signal).map (·.target) = table.map (·.target) := by
  induction table with
  | nil => rfl
  | cons entry rest ih =>
    rw [record]
    split
    · rfl
    · rw [List.map_cons, ih, List.map_cons]

/-- Recording bindings keeps the targets of a board's table. -/
theorem Board.map_target_assignments (board : Board) (lang : Language) (bits : List PortBit) :
    (board.assignments lang bits).map (·.target) = board.targets lang := by
  refine List.foldlRecOn (motive := fun table : AssignmentTable => table.map (·.target) = _) _ _ ?_
    fun table same bit _ => (AssignmentTable.map_target_record table).trans same
  rw [AssignmentTable.ofTargets, List.map_map]
  exact List.map_id _

/-- A target with a default is one of the board. -/
theorem mem_targets_of_default {entry : String × Logic}
    (member : entry ∈ (board.assignments lang bits).unusedDefaults) :
    ∃ t ∈ board.targets lang, t.name = entry.1 := by
  obtain ⟨assignment, inTable, chosen⟩ := List.mem_filterMap.mp member
  split at chosen
  · obtain ⟨level, -, rfl⟩ := Option.map_eq_some_iff.mp chosen
    refine ⟨assignment.target, ?_, rfl⟩
    rw [← board.map_target_assignments lang bits]
    exact List.mem_map_of_mem inTable
  · cases chosen

theorem foldl_record (distinct : (targets.map (·.name)).Nodup) (earlier bits : List PortBit)
    (bound : ∀ bit ∈ bits, bit.isBound) :
    bits.foldl (fun table bit => AssignmentTable.record bit.name bit.signal table)
      (targets.map (Target.assignment earlier)) = targets.map (Target.assignment (earlier ++ bits)) := by
  induction bits generalizing earlier with
  | nil => rw [List.foldl_nil, List.append_nil]
  | cons bit bits ih =>
    rw [List.forall_mem_cons] at bound
    have names : ((targets.map (Target.assignment earlier)).map (·.target.name)).Nodup := by
      rwa [List.map_map]
    have recorded : AssignmentTable.record bit.name bit.signal
        (targets.map (Target.assignment earlier)) =
          targets.map (Target.assignment (earlier ++ [bit])) := by
      rw [AssignmentTable.record_eq_map names, List.map_map]
      refine List.map_congr_left fun t _ => ?_
      by_cases same : t.name = bit.signal
      · simp [Target.assignment, boundTo, same, bound.1]
      · simp [Target.assignment, boundTo, same, Ne.symm same]
    rw [List.foldl_cons, recorded, ih (earlier ++ [bit]) bound.2, List.append_assoc,
      List.singleton_append]

/-- The table lists every target with the bits that are bound to it. -/
theorem Board.assignments_eq (distinct : board.Distinct lang) (bits : List PortBit) :
    board.assignments lang bits = (board.targets lang).map (Target.assignment bits) := by
  have started : AssignmentTable.ofTargets (board.targets lang) =
      (board.targets lang).map (Target.assignment []) := rfl
  have same : ∀ t ∈ board.targets lang, t.assignment ([] ++ bits.filter PortBit.isBound) =
      t.assignment bits := by
    intro t _
    have once : boundTo (bits.filter PortBit.isBound) t.name = boundTo bits t.name := by
      rw [boundTo, List.filter_filter]
      exact List.filter_congr fun bit _ => by cases bit.isBound <;> simp
    rw [List.nil_append, Target.assignment, once, Target.assignment]
  rw [assignments, started, foldl_record distinct _ _ fun bit member => (List.mem_filter.mp member).2,
    List.map_congr_left same]

/-- Two bits are bound to the same signal. -/
def Shared (bits : List PortBit) : Prop :=
  ∃ first ∈ bits, ∃ second ∈ bits,
    first.name ≠ second.name ∧ first.isBound ∧ first.signal = second.signal

/-- Bits of different names share a signal if two are bound to it. -/
theorem two_le_length_boundTo_iff (names : (bits.map (·.name)).Nodup) :
    2 ≤ (boundTo bits signal).length ↔ ∃ first ∈ bits, ∃ second ∈ bits,
      first.name ≠ second.name ∧ first.isBound ∧ first.signal = signal ∧ second.signal = signal := by
  have sub : ((boundTo bits signal).map (·.name)).Nodup :=
    names.sublist (List.filter_sublist.map _)
  constructor
  · intro two
    match found : boundTo bits signal, two with
    | first :: second :: rest, _ =>
      rw [found, List.map_cons, List.map_cons, List.nodup_cons] at sub
      have inFirst : first ∈ boundTo bits signal := found ▸ List.mem_cons_self
      have inSecond : second ∈ boundTo bits signal :=
        found ▸ List.mem_cons_of_mem _ List.mem_cons_self
      rw [mem_boundTo] at inFirst inSecond
      refine ⟨first, inFirst.1, second, inSecond.1, ?_, inFirst.2.1, inFirst.2.2, inSecond.2.2⟩
      exact fun same => sub.1 (same ▸ List.mem_cons_self)
  · rintro ⟨first, inFirst, second, inSecond, different, bound, atFirst, atSecond⟩
    have secondBound : second.isBound := by
      simp only [PortBit.isBound, decide_eq_true_eq] at bound ⊢
      rwa [atSecond, ← atFirst]
    have one : first ∈ boundTo bits signal := mem_boundTo.mpr ⟨inFirst, bound, atFirst⟩
    have other : second ∈ boundTo bits signal := mem_boundTo.mpr ⟨inSecond, secondBound, atSecond⟩
    match found : boundTo bits signal with
    | [] => exact absurd (found ▸ one) List.not_mem_nil
    | [single] =>
      rw [found, List.mem_singleton] at one other
      exact absurd (one.trans other.symm ▸ rfl) different
    | _ :: _ :: rest =>
      simp only [List.length_cons]
      omega

theorem faultAfter_eq_none {seen : List String} {signals : List BoardSignal}
    (valid : Board.faultAfter seen signals = none) :
    ∀ signal ∈ signals, signal.idle.isSome → signal.direction = .output := by
  induction signals generalizing seen with
  | nil => exact fun _ member => absurd member List.not_mem_nil
  | cons first rest ih =>
    rw [Board.faultAfter, Option.or_eq_none_iff] at valid
    refine List.forall_mem_cons.mpr ⟨fun idle => ?_, ih valid.2⟩
    have sound := valid.1
    unfold Board.signalFault at sound
    cases direction : first.direction with
    | output => rfl
    | input =>
      simp only [idle, direction, and_self, if_true] at sound
      split at sound <;> cases sound

/-- A target is one bit of a signal, with its direction and its idle level. -/
theorem Board.exists_of_mem_targets (member : t ∈ board.targets lang) : ∃ signal ∈ board.signals,
    (t.direction = signal.direction ∧ t.idle = signal.idle) ∧
      (t.name = signal.name ∨ ∃ i, t.name = lang.index signal.name i) := by
  obtain ⟨signal, inBoard, single⟩ := List.mem_flatMap.mp member
  refine ⟨signal, inBoard, ?_⟩
  unfold BoardSignal.targets at single
  split at single
  · rw [List.mem_singleton.mp single]
    exact ⟨⟨rfl, rfl⟩, .inl rfl⟩
  · obtain ⟨i, -, rfl⟩ := List.mem_map.mp single
    exact ⟨⟨rfl, rfl⟩, .inr ⟨i, rfl⟩⟩

/-- Only outputs of a valid board have an idle level. -/
theorem direction_of_idle (valid : board.fault? = none) (member : t ∈ board.targets lang)
    (idle : t.idle.isSome) : t.direction = .output := by
  obtain ⟨signal, inBoard, ⟨direction, level⟩, -⟩ := Board.exists_of_mem_targets member
  rw [direction]
  exact faultAfter_eq_none valid signal inBoard (level ▸ idle)

/-- Every bound bit is bound to a target in its own direction. -/
def Accepted (lang : Language) (board : Board) (bits : List PortBit) : Prop :=
  ∀ bit ∈ bits, bit.isBound → board.accepts lang bit.signal bit.direction

theorem Accepted.exists_target (accepted : Accepted lang board bits) (member : bit ∈ bits)
    (bound : bit.isBound) :
    ∃ t ∈ board.targets lang, t.name = bit.signal ∧ t.direction = bit.direction := by
  have accepts := accepted bit member bound
  simpa [Board.accepts] using accepts

/-- The table has a conflict exactly if two bits share a signal. -/
theorem conflicts_ne_nil_iff (distinct : board.Distinct lang) (names : (bits.map (·.name)).Nodup)
    (accepted : Accepted lang board bits) :
    (board.assignments lang bits).conflicts ≠ [] ↔ Shared bits := by
  have conflicting : (board.assignments lang bits).conflicts ≠ [] ↔
      ∃ t ∈ board.targets lang, 2 ≤ (boundTo bits t.name).length := by
    rw [Board.assignments_eq distinct, AssignmentTable.conflicts, ne_eq, List.filter_eq_nil_iff]
    simp only [List.forall_mem_map, Target.assignment, List.length_map, decide_eq_true_eq, not_forall,
      not_not, exists_prop]
  rw [conflicting]
  constructor
  · rintro ⟨t, -, two⟩
    obtain ⟨first, inFirst, second, inSecond, different, bound, atFirst, atSecond⟩ :=
      (two_le_length_boundTo_iff names).mp two
    exact ⟨first, inFirst, second, inSecond, different, bound, atFirst.trans atSecond.symm⟩
  · rintro ⟨first, inFirst, second, inSecond, different, bound, same⟩
    obtain ⟨t, member, name, -⟩ := accepted.exists_target inFirst bound
    exact ⟨t, member, (two_le_length_boundTo_iff names).mpr
      ⟨first, inFirst, second, inSecond, different, bound, name.symm, same ▸ name.symm⟩⟩

/-- The defaults are the idle levels of the targets that no bit is bound to. -/
theorem unusedDefaults_eq (distinct : board.Distinct lang) (bits : List PortBit) :
    (board.assignments lang bits).unusedDefaults = (board.targets lang).filterMap fun t =>
      if boundTo bits t.name = [] then t.idle.map fun level => (t.name, level) else none := by
  rw [Board.assignments_eq distinct, AssignmentTable.unusedDefaults, List.filterMap_map]
  refine List.filterMap_congr fun t _ => ?_
  simp [Target.assignment]

/-! ## Targets of one name

Two targets of a board may have the same name. A binding is recorded at the first target of its name, so
the table lists the bits of a name there, and none at the others. So a table has a conflict exactly if
two bits are bound to a target of the board, whatever its names are.
-/

section names

variable {seen : List String}

theorem Target.assignment_concat (t : Target) (bound : bit.isBound) : t.assignment (bits ++ [bit]) =
    if t.name = bit.signal then { t.assignment bits with ports := (t.assignment bits).ports ++ [bit.name] }
    else t.assignment bits := by
  by_cases same : t.name = bit.signal
  · simp [Target.assignment, boundTo, same, bound]
  · simp [Target.assignment, boundTo, same, Ne.symm same]

namespace AssignmentTable

/-- What the table of some bits lists for targets that stand behind targets of the names `seen`. -/
def tabulate (bits : List PortBit) : List String → List Target → AssignmentTable
  | _, [] => []
  | seen, t :: rest =>
    (if t.name ∈ seen then ⟨t, []⟩ else t.assignment bits) :: tabulate bits (t.name :: seen) rest

theorem tabulate_nil (seen : List String) (targets : List Target) :
    tabulate [] seen targets = ofTargets targets := by
  induction targets generalizing seen with
  | nil => rfl
  | cons t rest ih =>
    rw [tabulate, ih]
    split <;> rfl

/-- A bit changes nothing behind the target that it is bound to. -/
theorem tabulate_concat_of_seen (bound : bit.isBound) (member : bit.signal ∈ seen) :
    tabulate (bits ++ [bit]) seen targets = tabulate bits seen targets := by
  induction targets generalizing seen with
  | nil => rfl
  | cons t rest ih =>
    rw [tabulate, tabulate, ih (List.mem_cons_of_mem _ member), t.assignment_concat bound]
    split
    · rfl
    · next fresh => rw [if_neg fun same : t.name = bit.signal => fresh (same ▸ member)]

theorem record_tabulate (bound : bit.isBound) (fresh : bit.signal ∉ seen) :
    (tabulate bits seen targets).record bit.name bit.signal =
      tabulate (bits ++ [bit]) seen targets := by
  induction targets generalizing seen with
  | nil => rfl
  | cons t rest ih =>
    have target : (if t.name ∈ seen then ⟨t, []⟩ else t.assignment bits).target = t := by
      split <;> rfl
    rw [tabulate, tabulate, record, target, t.assignment_concat bound]
    by_cases same : t.name = bit.signal
    · have first : t.name ∉ seen := same ▸ fresh
      rw [if_pos same, if_pos same, if_neg first, if_neg first,
        tabulate_concat_of_seen bound (same ▸ List.mem_cons_self)]
      rfl
    · have later : bit.signal ∉ t.name :: seen := fun member =>
        (List.mem_cons.mp member).elim (fun equal => same equal.symm) fresh
      rw [if_neg same, if_neg same, ih later]

theorem conflicts_tabulate_eq_nil_iff : (tabulate bits seen targets).conflicts = [] ↔
    ∀ t ∈ targets, t.name ∉ seen → (boundTo bits t.name).length < 2 := by
  induction targets generalizing seen with
  | nil => simp [tabulate, conflicts]
  | cons t rest ih =>
    have split (entry : Assignment) (table : AssignmentTable) :
        conflicts (entry :: table) = [] ↔
          entry.ports.length < 2 ∧ table.conflicts = [] := by
      simp [conflicts, List.filter_eq_nil_iff]
    rw [tabulate, split, ih, List.forall_mem_cons]
    by_cases known : t.name ∈ seen
    · have known' (other : Target) : other.name ∈ t.name :: seen ↔ other.name ∈ seen :=
        List.mem_cons.trans ⟨fun either => either.elim (fun same => same ▸ known) id, .inr⟩
      simp [known, known']
    · rw [if_neg known]
      simp only [Target.assignment, List.length_map, List.mem_cons, not_or, known, not_false_eq_true,
        true_implies]
      refine and_congr_right fun few => forall₂_congr fun other _ => ?_
      by_cases same : other.name = t.name
      · simp [same, few]
      · simp [same]

end AssignmentTable

/-- The table of a board lists the bits of every name at the first target of this name. -/
theorem Board.assignments_eq_tabulate (board : Board) (lang : Language) (bits : List PortBit) :
    board.assignments lang bits = .tabulate (bits.filter PortBit.isBound) [] (board.targets lang) := by
  have recorded (earlier later : List PortBit) (bound : ∀ bit ∈ later, bit.isBound) :
      later.foldl (fun table bit => AssignmentTable.record bit.name bit.signal table)
        (.tabulate earlier [] (board.targets lang)) =
          .tabulate (earlier ++ later) [] (board.targets lang) := by
    induction later generalizing earlier with
    | nil => rw [List.foldl_nil, List.append_nil]
    | cons bit later ih =>
      rw [List.forall_mem_cons] at bound
      rw [List.foldl_cons, AssignmentTable.record_tabulate bound.1 List.not_mem_nil, ih _ bound.2,
        List.append_assoc, List.singleton_append]
  have bound : ∀ bit ∈ bits.filter PortBit.isBound, bit.isBound := fun bit member =>
    (List.mem_filter.mp member).2
  rw [assignments, ← AssignmentTable.tabulate_nil [], recorded [] _ bound, List.nil_append]

/-- The table has no conflict exactly if no two bits are bound to the name of a target. -/
theorem conflicts_eq_nil_iff : (board.assignments lang bits).conflicts = [] ↔
    ∀ t ∈ board.targets lang, (boundTo bits t.name).length < 2 := by
  have once (name : String) : boundTo (bits.filter PortBit.isBound) name = boundTo bits name := by
    rw [boundTo, List.filter_filter]
    exact List.filter_congr fun bit _ => by cases bit.isBound <;> simp
  rw [Board.assignments_eq_tabulate, AssignmentTable.conflicts_tabulate_eq_nil_iff]
  simp only [once, List.not_mem_nil, not_false_eq_true, true_implies]

/-- Two different bits are bound to the same signal. -/
structure SharedBy (bits : List PortBit) (i j : Nat) (signal : String) : Prop where
  different : i ≠ j
  bound : signal ≠ ""
  first : bits[i]?.map (·.signal) = some signal
  second : bits[j]?.map (·.signal) = some signal

theorem SharedBy.symm {i j : Nat} (shared : SharedBy bits i j signal) : SharedBy bits j i signal :=
  ⟨shared.different.symm, shared.bound, shared.second, shared.first⟩

theorem exists_sharedBy (two : 2 ≤ (boundTo bits signal).length) : ∃ i j, SharedBy bits i j signal := by
  match found : boundTo bits signal, two with
  | first :: second :: rest, _ =>
    have inFirst : first ∈ boundTo bits signal := found ▸ List.mem_cons_self
    have inSecond : second ∈ boundTo bits signal :=
      found ▸ List.mem_cons_of_mem _ List.mem_cons_self
    obtain ⟨-, bound, atFirst⟩ := mem_boundTo.mp inFirst
    obtain ⟨-, -, atSecond⟩ := mem_boundTo.mp inSecond
    have pair : [first, second].Sublist bits :=
      ((List.nil_sublist rest).cons_cons second |>.cons_cons first).trans
        (found ▸ List.filter_sublist)
    obtain ⟨place, places⟩ := List.sublist_iff_exists_orderEmbedding_getElem?_eq.mp pair
    have zeroth := places 0
    have next := places 1
    refine ⟨place 0, place 1, fun same => absurd (place.injective same) (by decide), ?_, ?_, ?_⟩
    · simpa [PortBit.isBound, atFirst] using bound
    · rw [← zeroth]
      exact congrArg some atFirst
    · rw [← next]
      exact congrArg some atSecond

theorem SharedBy.two_le {i j : Nat} (shared : SharedBy bits i j signal) :
    2 ≤ (boundTo bits signal).length := by
  wlog ordered : i < j generalizing i j with symmetric
  · exact symmetric shared.symm
      (Nat.lt_of_le_of_ne (Nat.le_of_not_lt ordered) shared.different.symm)
  obtain ⟨first, atFirst, isFirst⟩ := Option.map_eq_some_iff.mp shared.first
  obtain ⟨second, atSecond, isSecond⟩ := Option.map_eq_some_iff.mp shared.second
  have front : first ∈ bits.take j := List.mem_iff_getElem?.mpr
    ⟨i, (List.getElem?_take_of_lt ordered).trans atFirst⟩
  have back : second ∈ bits.drop j := List.mem_iff_getElem?.mpr
    ⟨0, by rw [List.getElem?_drop, Nat.add_zero, atSecond]⟩
  have pair : ([first] ++ [second]).Sublist (bits.take j ++ bits.drop j) :=
    (List.singleton_sublist.mpr front).append (List.singleton_sublist.mpr back)
  rw [List.take_append_drop] at pair
  have chosen := pair.filter fun bit => bit.isBound && bit.signal = signal
  have both : ([first] ++ [second]).filter (fun bit => bit.isBound && bit.signal = signal) =
      [first, second] := by
    simp [PortBit.isBound, isFirst, isSecond, shared.bound]
  rw [both] at chosen
  exact chosen.length_le

theorem two_le_length_boundTo_iff_sharedBy :
    2 ≤ (boundTo bits signal).length ↔ ∃ i j, SharedBy bits i j signal :=
  ⟨exists_sharedBy, fun ⟨_, _, shared⟩ => shared.two_le⟩

end names

end BoardBind
