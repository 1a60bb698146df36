import BoardBind.Selection
import Mathlib

/-! # Applying bindings

Which bindings are admitted, and to which bit, depends on the names and directions of the bits and not
on what they are bound to. So applying bindings in order leaves every bit with the last binding that is
admitted for it, and leaves a bit without one as it was.
-/

namespace BoardBind

/-- A bit with the binding it is given, if it is given one. -/
def PortBit.rebound (bit : PortBit) (signal? : Option String) : PortBit :=
  match signal? with
  | some signal => bit.bind signal
  | none => bit

namespace PortBit

variable {bit : PortBit} {signal : String}

@[simp] theorem rebound_some : bit.rebound (some signal) = bit.bind signal := rfl

@[simp] theorem rebound_none : bit.rebound none = bit := rfl

@[simp] theorem signal_bind : (bit.bind signal).signal = signal := rfl

@[simp] theorem unbind_bind : (bit.bind signal).unbind = bit.unbind := rfl

@[simp] theorem unbind_unbind : bit.unbind.unbind = bit.unbind := rfl

theorem unbind_rebound (bit : PortBit) (signal? : Option String) :
    (bit.rebound signal?).unbind = bit.unbind := by
  cases signal? <;> rfl

end PortBit

namespace Selection

variable {s t : Selection} {board : Board} {b : Binding} {bindings more : List Binding} {i : Nat}

/-- Two selections of one unit, whose bits may be bound differently. -/
structure SameShape (s t : Selection) : Prop where
  design : s.design = t.design
  top : s.top = t.top
  ports : s.ports = t.ports
  items : s.items = t.items
  bits : s.bits.map PortBit.unbind = t.bits.map PortBit.unbind

theorem admits_eq (s : Selection) (board : Board) (b : Binding) :
    s.admits board b = match (s.bits.map PortBit.unbind).find? fun bit =>
        s.design.language.fold bit.name = s.design.language.fold b.port with
      | some bit => board.accepts s.design.language b.signal bit.direction
      | none => false := by
  rw [List.find?_map, admits]
  change _ = match Option.map PortBit.unbind (s.bits.find? fun bit =>
    s.design.language.fold bit.name = s.design.language.fold b.port) with
      | some bit => _
      | none => _
  cases s.bits.find? fun bit => s.design.language.fold bit.name = s.design.language.fold b.port <;> rfl

theorem bitIndex?_eq (s : Selection) (name : String) :
    s.bitIndex? name = (s.bits.map PortBit.unbind).findIdx? fun bit =>
      s.design.language.fold bit.name = s.design.language.fold name := by
  rw [List.findIdx?_map]
  rfl

/-- A binding of a bit is admitted if the board has its signal in the direction of the bit. -/
theorem admits_of_bitIndex? {bit : PortBit} (index : s.bitIndex? b.port = some i)
    (found : s.bits[i]? = some bit) :
    s.admits board b = board.accepts s.design.language b.signal bit.direction := by
  rw [bitIndex?] at index
  rw [admits, List.find?_eq_bind_findIdx?_getElem?, index, Option.bind_some, found]

namespace SameShape

theorem admits (same : SameShape s t) : s.admits board b = t.admits board b := by
  rw [admits_eq, admits_eq, same.bits, same.design]

theorem bitIndex? (same : SameShape s t) (name : String) : s.bitIndex? name = t.bitIndex? name := by
  rw [bitIndex?_eq, bitIndex?_eq, same.bits, same.design]

end SameShape

/-- The signal of the last binding that is admitted for a bit. -/
def lastSignal? (s : Selection) (board : Board) (bindings : List Binding) (i : Nat) : Option String :=
  (bindings.findRev? fun b => s.admits board b && s.bitIndex? b.port = some i).map (·.signal)

@[simp] theorem lastSignal?_nil : s.lastSignal? board [] i = none := rfl

theorem lastSignal?_cons : s.lastSignal? board (b :: bindings) i =
    (s.lastSignal? board bindings i).or
      (if s.admits board b && s.bitIndex? b.port = some i then some b.signal else none) := by
  unfold lastSignal?
  rw [List.findRev?]
  cases List.findRev? _ bindings with
  | some later => rfl
  | none => split <;> simp_all

theorem lastSignal?_append : s.lastSignal? board (bindings ++ more) i =
    (s.lastSignal? board more i).or (s.lastSignal? board bindings i) := by
  induction bindings with
  | nil => rw [List.nil_append, lastSignal?_nil, Option.or_none]
  | cons b bindings ih => rw [List.cons_append, lastSignal?_cons, ih, lastSignal?_cons, Option.or_assoc]

theorem lastSignal?_eq_none_iff : s.lastSignal? board bindings i = none ↔
    ∀ b ∈ bindings, s.admits board b → s.bitIndex? b.port ≠ some i := by
  induction bindings with
  | nil => simp
  | cons b bindings ih => simp [lastSignal?_cons, ih, and_comm]

theorem exists_of_lastSignal? {signal : String} (last : s.lastSignal? board bindings i = some signal) :
    ∃ b ∈ bindings, s.admits board b ∧ s.bitIndex? b.port = some i ∧ b.signal = signal := by
  induction bindings with
  | nil => cases last
  | cons b bindings ih =>
    rw [lastSignal?_cons, Option.or_eq_some_iff] at last
    rcases last with later | ⟨-, here⟩
    · obtain ⟨b, member, found⟩ := ih later
      exact ⟨b, List.mem_cons_of_mem _ member, found⟩
    · split at here
      · next given =>
        rw [Bool.and_eq_true, decide_eq_true_eq] at given
        exact ⟨b, List.mem_cons_self, given.1, given.2, Option.some.inj here⟩
      · cases here

theorem SameShape.lastSignal? (same : SameShape s t) :
    s.lastSignal? board bindings i = t.lastSignal? board bindings i := by
  simp only [Selection.lastSignal?, same.admits, same.bitIndex?]

/-- The bits with the signals that they are given by their numbers. -/
def rebindAll (s : Selection) (signal? : Nat → Option String) : Selection :=
  { s with bits := s.bits.mapIdx fun i bit => bit.rebound (signal? i) }

theorem sameShape_rebindAll (s : Selection) (signal? : Nat → Option String) :
    SameShape (s.rebindAll signal?) s where
  design := rfl
  top := rfl
  ports := rfl
  items := rfl
  bits := by
    refine List.ext_getElem? fun i => ?_
    simp only [rebindAll, List.getElem?_map, List.getElem?_mapIdx, Option.map_map]
    cases s.bits[i]? with
    | none => rfl
    | some bit => exact congrArg some (bit.unbind_rebound (signal? i))

@[simp] theorem rebindAll_none (s : Selection) : (s.rebindAll fun _ => none) = s := by
  have bits : s.bits.mapIdx (fun _ bit => bit) = s.bits :=
    List.ext_getElem? fun i => by rw [List.getElem?_mapIdx, Option.map_id']
  exact congrArg (fun bits => { s with bits }) bits

theorem rebindAll_congr {first second : Nat → Option String}
    (same : ∀ i < s.bits.length, first i = second i) : s.rebindAll first = s.rebindAll second := by
  refine congrArg (fun bits => { s with bits }) (List.ext_getElem? fun i => ?_)
  rw [List.getElem?_mapIdx, List.getElem?_mapIdx]
  cases found : s.bits[i]? with
  | none => rfl
  | some bit => rw [same i (List.getElem?_eq_some_iff.mp found).1]

theorem rebindAll_rebindAll (s : Selection) (first second : Nat → Option String) :
    (s.rebindAll first).rebindAll second = s.rebindAll fun i => (second i).or (first i) := by
  have bits : (s.bits.mapIdx fun i bit => bit.rebound (first i)).mapIdx
      (fun i bit => bit.rebound (second i)) =
        s.bits.mapIdx fun i bit => bit.rebound ((second i).or (first i)) := by
    refine List.ext_getElem? fun i => ?_
    simp only [List.getElem?_mapIdx, Option.map_map]
    refine congrArg (Option.map · s.bits[i]?) (funext fun bit => ?_)
    cases second i <;> cases first i <;> rfl
  exact congrArg (fun bits => { s with bits }) bits

/-- A binding is given to its bit if it is admitted, and changes nothing otherwise. -/
theorem assign_snd : (s.assign board b).2 = s.rebindAll fun i =>
    if s.admits board b && s.bitIndex? b.port = some i then some b.signal else none := by
  unfold assign
  cases admitted : s.admits board b with
  | false => simp
  | true =>
    cases number : s.bitIndex? b.port with
    | none => simp
    | some k =>
      refine congrArg (fun bits => { s with bits }) (List.ext_getElem? fun i => ?_)
      simp only [List.getElem?_modify, List.getElem?_mapIdx, Bool.true_and, decide_eq_true_eq,
        Option.some_inj, Option.map_eq_map]
      refine congrArg (Option.map · s.bits[i]?) (funext fun bit => ?_)
      split <;> rfl

theorem restore_cons_snd : (s.restore board (b :: bindings)).2 =
    ((s.assign board b).2.restore board bindings).2 := by
  rw [restore]
  cases admitted : s.admits board b with
  | false => simp [assign, admitted]
  | true => cases number : s.bitIndex? b.port <;> simp [assign, admitted, number]

/-- Applying bindings gives every bit the last one that is admitted for it. -/
theorem restore_snd (s : Selection) (board : Board) (bindings : List Binding) :
    (s.restore board bindings).2 = s.rebindAll (s.lastSignal? board bindings) := by
  induction bindings generalizing s with
  | nil => exact (rebindAll_none s).symm
  | cons b rest ih =>
    have shape := sameShape_rebindAll s fun i =>
      if s.admits board b && s.bitIndex? b.port = some i then some b.signal else none
    rw [restore_cons_snd, assign_snd, ih, rebindAll_rebindAll]
    refine congrArg s.rebindAll (funext fun i => ?_)
    rw [shape.lastSignal?, lastSignal?_cons]

/-! ## Bits with distinct names -/

/-- The names of the bits are told apart in any of their spellings. -/
def DistinctBits (s : Selection) : Prop :=
  (s.bits.map fun bit => s.design.language.fold bit.name).Nodup

instance (s : Selection) : Decidable s.DistinctBits :=
  inferInstanceAs (Decidable (List.Nodup _))

/-- A name in any spelling leads to the only bit that has it. -/
theorem bitIndex?_eq_some_iff {bit : PortBit} {name : String} (distinct : s.DistinctBits)
    (found : s.bits[i]? = some bit) :
    s.bitIndex? name = some i ↔ s.design.language.fold bit.name = s.design.language.fold name := by
  obtain ⟨bound, rfl⟩ := List.getElem?_eq_some_iff.mp found
  rw [bitIndex?, List.findIdx?_eq_some_iff_getElem]
  constructor
  · rintro ⟨_, here, -⟩
    exact of_decide_eq_true here
  · intro named
    refine ⟨bound, decide_eq_true named, fun j earlier again => ?_⟩
    have boundI : i < (s.bits.map fun bit => s.design.language.fold bit.name).length := by
      rwa [List.length_map]
    have boundJ : j < (s.bits.map fun bit => s.design.language.fold bit.name).length :=
      Nat.lt_trans earlier boundI
    have sameName : (s.bits.map fun bit => s.design.language.fold bit.name)[j] =
        (s.bits.map fun bit => s.design.language.fold bit.name)[i] := by
      simpa only [List.getElem_map] using (of_decide_eq_true again).trans named.symm
    exact absurd ((List.Nodup.getElem_inj_iff distinct).mp sameName) (Nat.ne_of_lt earlier)

/-- Whether a binding names a bit, in any spelling, and the board has its signal in the direction of the
bit. -/
def suits (s : Selection) (board : Board) (b : Binding) (bit : PortBit) : Bool :=
  s.design.language.fold b.port = s.design.language.fold bit.name &&
    board.accepts s.design.language b.signal bit.direction

/-- The signal of the last binding that suits a bit, or the one that the bit holds if there is none. -/
def finalSignal (s : Selection) (board : Board) (bindings : List Binding) (bit : PortBit) : String :=
  (((bindings.filter fun b => s.suits board b bit).getLast?).map (·.signal)).getD bit.signal

/-- A binding is admitted for a bit if it suits the bit. -/
theorem admits_and_bitIndex?_eq {bit : PortBit} (distinct : s.DistinctBits)
    (found : s.bits[i]? = some bit) (board : Board) (b : Binding) :
    (s.admits board b && decide (s.bitIndex? b.port = some i)) = s.suits board b bit := by
  have named : s.bitIndex? b.port = some i ↔
      s.design.language.fold bit.name = s.design.language.fold b.port :=
    bitIndex?_eq_some_iff distinct found
  rw [suits]
  by_cases index : s.bitIndex? b.port = some i
  · rw [admits_of_bitIndex? index found, decide_eq_true index, Bool.and_true,
      decide_eq_true (named.mp index).symm, Bool.true_and]
  · rw [decide_eq_false index, Bool.and_false, decide_eq_false fun same => index (named.mpr same.symm),
      Bool.false_and]

/-- A binding is admitted exactly if it suits some bit. -/
theorem admits_eq_any (distinct : s.DistinctBits) (board : Board) (b : Binding) :
    s.admits board b = s.bits.any (s.suits board b) := by
  rw [Bool.eq_iff_iff, List.any_eq_true]
  constructor
  · intro admitted
    cases index : s.bitIndex? b.port with
    | none =>
      have missing : s.bits.find? (fun bit => s.design.language.fold bit.name =
          s.design.language.fold b.port) = none := by
        rw [bitIndex?] at index
        rw [List.find?_eq_bind_findIdx?_getElem?, index, Option.bind_none]
      rw [admits, missing] at admitted
      cases admitted
    | some i =>
      have inside := (List.findIdx?_eq_some_iff_getElem.mp index).1
      have found : s.bits[i]? = some s.bits[i] := List.getElem?_eq_getElem inside
      refine ⟨s.bits[i], List.getElem_mem inside, ?_⟩
      rw [← admits_and_bitIndex?_eq distinct found, admitted, decide_eq_true index, Bool.and_true]
  · rintro ⟨bit, member, suited⟩
    obtain ⟨i, found⟩ := List.mem_iff_getElem?.mp member
    rw [← admits_and_bitIndex?_eq distinct found, Bool.and_eq_true] at suited
    exact suited.1

/-- A bit is left with the signal of the last binding that suits it. -/
theorem rebound_lastSignal? {bit : PortBit} (distinct : s.DistinctBits)
    (found : s.bits[i]? = some bit) (board : Board) (bindings : List Binding) :
    bit.rebound (s.lastSignal? board bindings i) = bit.bind (s.finalSignal board bindings bit) := by
  have last : s.lastSignal? board bindings i =
      ((bindings.filter fun b => s.suits board b bit).getLast?).map (·.signal) := by
    rw [lastSignal?, List.findRev?_eq_find?_reverse, ← List.head?_filter, List.filter_reverse,
      List.head?_reverse]
    simp only [admits_and_bitIndex?_eq distinct found]
  rw [last, finalSignal]
  cases (bindings.filter fun b => s.suits board b bit).getLast? <;> rfl

theorem assign_fst (s : Selection) (board : Board) (b : Binding) :
    (s.assign board b).1 = s.admits board b := by
  rw [assign]
  cases admitted : s.admits board b with
  | false => rfl
  | true =>
    cases index : s.bitIndex? b.port with
    | some i => rfl
    | none =>
      rw [bitIndex?] at index
      rw [admits, List.find?_eq_bind_findIdx?_getElem?, index] at admitted
      cases admitted

/-- The count of applied bindings is that of the bindings admitted at the start. -/
theorem restore_fst (s : Selection) (board : Board) (bindings : List Binding) :
    (s.restore board bindings).1 = bindings.countP (s.admits board) := by
  induction bindings generalizing s with
  | nil => rfl
  | cons b rest ih =>
    have outcome := assign_fst s board b
    have shape : SameShape (s.assign board b).2 s := by
      rw [assign_snd]
      exact sameShape_rebindAll s _
    rw [restore]
    cases assigned : s.assign board b with
    | mk accepted next =>
      rw [assigned] at outcome shape
      obtain rfl : accepted = s.admits board b := outcome
      have later : next.admits board = s.admits board := funext fun b => shape.admits
      cases admitted : s.admits board b with
      | true => rw [List.countP_cons_of_pos admitted, ← later, ← ih next]
      | false => rw [List.countP_cons_of_neg (by simp [admitted]), ← ih s]

/-- Applying bindings, told by the bits and not by the course of it. -/
theorem restore_eq (distinct : s.DistinctBits) (board : Board) (bindings : List Binding) :
    s.restore board bindings = (bindings.countP fun b => s.bits.any (s.suits board b),
      { s with bits := s.bits.map fun bit => bit.bind (s.finalSignal board bindings bit) }) := by
  refine Prod.ext ?_ ?_
  · rw [restore_fst]
    exact List.countP_congr fun b _ => by rw [admits_eq_any distinct]
  · rw [restore_snd]
    refine congrArg (fun bits => { s with bits }) (List.ext_getElem? fun i => ?_)
    rw [List.getElem?_mapIdx, List.getElem?_map]
    cases found : s.bits[i]? with
    | none => rfl
    | some bit => rw [Option.map_some, Option.map_some, rebound_lastSignal? distinct found]

/-- Two lists in which the bindings of one name, in any spelling, stand in the same order: the one is
the other with bindings of different names exchanged. -/
def SameOrder (lang : Language) (first second : List Binding) : Prop :=
  ∀ name, (first.filter fun b => lang.fold b.port = lang.fold name) =
    second.filter fun b => lang.fold b.port = lang.fold name

theorem SameOrder.perm {lang : Language} (same : SameOrder lang bindings more) : bindings.Perm more := by
  refine List.perm_iff_count.mpr fun b => ?_
  have among (bindings : List Binding) : List.count b (bindings.filter fun other =>
      lang.fold other.port = lang.fold b.port) = List.count b bindings :=
    List.count_filter (decide_eq_true rfl)
  rw [← among bindings, same b.port, among more]

/-- Exchanging neighbours of different names keeps the order. -/
theorem sameOrder_exchange {lang : Language} {other : Binding}
    (different : lang.fold b.port ≠ lang.fold other.port) (before after : List Binding) :
    SameOrder lang (before ++ b :: other :: after) (before ++ other :: b :: after) := by
  intro name
  rw [List.filter_append, List.filter_append]
  refine congrArg _ ?_
  by_cases first : lang.fold b.port = lang.fold name
  · have second : lang.fold other.port ≠ lang.fold name := fun same => different (first.trans same.symm)
    simp [first, second]
  · simp [List.filter_cons, first]

/-- The bindings that suit a bit are some of those that have its name. -/
theorem finalSignal_congr (same : SameOrder s.design.language bindings more) (board : Board)
    (bit : PortBit) : s.finalSignal board bindings bit = s.finalSignal board more bit := by
  have among (bindings : List Binding) : (bindings.filter fun b => s.suits board b bit) =
      (bindings.filter fun b => s.design.language.fold b.port = s.design.language.fold bit.name).filter
        fun b => board.accepts s.design.language b.signal bit.direction := by
    rw [List.filter_filter]
    exact List.filter_congr fun b _ => Bool.and_comm ..
  rw [finalSignal, finalSignal, among, among, same bit.name]

/-- Applying bindings to bits with distinct names leaves each bit with the signal of the last binding
that suits it, or as it was, and everything else as it was. It counts the bindings that suit a bit, and
exchanging bindings of different bits makes no difference. -/
theorem restore_keeps_last (distinct : s.DistinctBits) (board : Board) (bindings : List Binding) :
    s.restore board bindings = (bindings.countP fun b => s.bits.any (s.suits board b),
        { s with bits := s.bits.map fun bit => bit.bind (s.finalSignal board bindings bit) }) ∧
      ∀ other, SameOrder s.design.language other bindings →
        s.restore board other = s.restore board bindings := by
  refine ⟨restore_eq distinct board bindings, fun other same => ?_⟩
  rw [restore_eq distinct, restore_eq distinct, same.perm.countP_eq]
  simp only [finalSignal_congr same]

/-- An entity with a clock and a light, none of which is bound. -/
def unboundLamp : Selection where
  design := {
    language := .vhdl
    graph := { labels := [⟨.declare .vhdl "Lamp" "lamp.vhd",
      [.declare .vhdl "Led" .output none, .declare .vhdl "CLK" .input none]⟩] }
    items := [⟨0, "lamp", "lamp.vhd"⟩]
    suggested := "lamp" }
  top := "lamp"
  ports := [.declare .vhdl "CLK" .input none, .declare .vhdl "Led" .output none]
  bits := [⟨"CLK", .input, ""⟩, ⟨"Led", .output, ""⟩]
  items := [{ level := 0, name := "lamp", file := "lamp.vhd", isTop := true }]

/-- A board with a key and two lights. -/
def keyBoard : Board where
  name := "pad"
  signals := [{ name := "K", direction := .input },
    { name := "L", direction := .output, declaredWidth := some 2 }]

/-- Bindings for it, the last of which is in a direction that the board does not have. -/
def lampBindings : List Binding :=
  [⟨"LED", "L(0)"⟩, ⟨"clk", "K"⟩, ⟨"led", "L(1)"⟩, ⟨"Led", "K"⟩]

/-- A later spelling of a name overrides an earlier one, unless the board does not accept it; and the
clock may as well be bound first. -/
theorem restore_unboundLamp : unboundLamp.DistinctBits ∧
    (unboundLamp.restore keyBoard lampBindings).1 = 3 ∧
    (unboundLamp.restore keyBoard lampBindings).2.bits.map (·.signal) = ["K", "L(1)"] ∧
    unboundLamp.restore keyBoard (⟨"clk", "K"⟩ :: ⟨"LED", "L(0)"⟩ :: lampBindings.drop 2) =
      unboundLamp.restore keyBoard lampBindings := by
  have spelled : Language.vhdl.fold "CLK" = "clk" ∧ Language.vhdl.fold "clk" = "clk" ∧
      Language.vhdl.fold "LED" = "led" ∧ Language.vhdl.fold "Led" = "led" ∧
      Language.vhdl.fold "led" = "led" := by
    refine ⟨?_, ?_, ?_, ?_, ?_⟩ <;> cbv
  have offered : keyBoard.accepts .vhdl "K" .input = true ∧ keyBoard.accepts .vhdl "K" .output = false ∧
      keyBoard.accepts .vhdl "L(0)" .output = true ∧ keyBoard.accepts .vhdl "L(1)" .output = true := by
    decide +kernel
  have distinct : unboundLamp.DistinctBits := by
    simp [DistinctBits, unboundLamp, spelled]
  have different : Language.vhdl.fold "clk" ≠ Language.vhdl.fold "LED" := by
    simp [spelled]
  obtain ⟨restored, exchanged⟩ := restore_keeps_last distinct keyBoard lampBindings
  have same : SameOrder .vhdl (⟨"clk", "K"⟩ :: ⟨"LED", "L(0)"⟩ :: lampBindings.drop 2) lampBindings :=
    sameOrder_exchange different [] (lampBindings.drop 2)
  refine ⟨distinct, ?_, ?_, exchanged _ same⟩
  · rw [restored]
    simp [suits, unboundLamp, lampBindings, spelled, offered]
  · rw [restored]
    simp [finalSignal, suits, unboundLamp, lampBindings, spelled, offered]

end Selection

end BoardBind
