import BoardBind.Proofs.Selection.Direction

/-! # Signals that a new top takes over

A newly selected top takes over the signals of old bits of exactly its own names, while a binding finds
its bit by the name in any spelling. So every bit of the new top gets the signal that the bit of its
name held before exactly if no such bit was bound under another spelling. A top that is selected again
keeps all its signals.
-/

namespace BoardBind

theorem PortBit.eq_of_shape_eq {first second : PortBit} (shape : first.shape = second.shape)
    (signal : first.signal = second.signal) : first = second := by
  cases first
  cases second
  obtain ⟨rfl, rfl⟩ := Prod.mk.inj shape
  obtain rfl := signal
  rfl

namespace Selection

variable {d : Design} {s : Selection} {r : Registered} {bit holder : PortBit} {name : String}

/-- The signal that the bit of a name in any spelling holds, which is empty if there is no such bit. -/
def heldFor (s : Selection) (name : String) : String :=
  ((s.bits.find? fun bit => s.design.language.fold bit.name = s.design.language.fold name).map
    (·.signal)).getD ""

/-- Selecting a unit as the top, with the bindings preserved, gives each of its bits the signal that the
bit of its name in any spelling held. -/
def CarriesOver (s : Selection) (name : String) : Prop :=
  ∀ bit ∈ (s.setTop name true).2.bits, bit.signal = s.heldFor bit.name

/-- A bound bit that has the name of a bit of the unit has it in the spelling of the unit. -/
def SpelledAlike (s : Selection) (r : Registered) : Prop :=
  ∀ bit ∈ freshBits s.design.language (Port.sortByName r.ports), ∀ holder ∈ s.bits, holder.isBound →
    s.design.language.fold holder.name = s.design.language.fold bit.name → holder.name = bit.name

theorem name_of_lastBound? {old : List PortBit} (found : lastBound? old name = some holder) :
    holder.name = name := by
  rw [lastBound?, List.findRev?_eq_find?_reverse] at found
  have chosen := List.find?_some found
  exact of_decide_eq_true (Bool.and_eq_true_iff.mp chosen).2

namespace DistinctBits

/-- There is at most one bit of a name. -/
theorem eq_of_fold_eq {other : PortBit} (distinct : s.DistinctBits) (member : bit ∈ s.bits)
    (present : other ∈ s.bits)
    (same : s.design.language.fold bit.name = s.design.language.fold other.name) : bit = other :=
  List.inj_on_of_nodup_map distinct member present same

theorem find?_eq_some_iff (distinct : s.DistinctBits) :
    (s.bits.find? fun bit => s.design.language.fold bit.name = s.design.language.fold name) = some holder ↔
      holder ∈ s.bits ∧ s.design.language.fold holder.name = s.design.language.fold name := by
  constructor
  · intro found
    have named := List.find?_some found
    exact ⟨List.mem_of_find?_eq_some found, of_decide_eq_true named⟩
  · rintro ⟨present, named⟩
    cases found : s.bits.find? fun bit =>
        s.design.language.fold bit.name = s.design.language.fold name with
    | none => exact absurd (decide_eq_true named) (List.find?_eq_none.mp found holder present)
    | some first =>
      have sameName := List.find?_some found
      have member := List.mem_of_find?_eq_some found
      rw [distinct.eq_of_fold_eq member present ((of_decide_eq_true sameName).trans named.symm)]

theorem heldFor_eq (distinct : s.DistinctBits) (present : holder ∈ s.bits)
    (named : s.design.language.fold holder.name = s.design.language.fold name) :
    s.heldFor name = holder.signal := by
  rw [heldFor, distinct.find?_eq_some_iff.mpr ⟨present, named⟩]
  rfl

end DistinctBits

/-- A name whose bit is missing or unbound has no signal. -/
theorem heldFor_eq_empty (free : ∀ holder ∈ s.bits,
    s.design.language.fold holder.name = s.design.language.fold name → holder.isBound = false) :
    s.heldFor name = "" := by
  cases found : s.bits.find? fun bit => s.design.language.fold bit.name = s.design.language.fold name with
  | none => rw [heldFor, found]; rfl
  | some holder =>
    have named := List.find?_some found
    have unbound := free holder (List.mem_of_find?_eq_some found) (of_decide_eq_true named)
    rw [heldFor, found]
    simpa [PortBit.isBound] using unbound

/-- An unbound bit is left with the signal of the last bound bit of its spelling. -/
theorem signal_rebind {old : List PortBit} (fresh : bit.isBound = false) :
    (rebind old bit).signal = ((lastBound? old bit.name).map (·.signal)).getD "" := by
  have shown : signalOf? old bit.name = (lastBound? old bit.name).map (·.signal) := rfl
  rw [rebind, shown]
  cases lastBound? old bit.name with
  | none => simpa [PortBit.isBound] using fresh
  | some holder => rfl

/-- A bit takes over what the bit of its name held unless that one is bound under another spelling. -/
theorem signal_rebind_eq_heldFor_iff (distinct : s.DistinctBits) (fresh : bit.isBound = false) :
    (rebind s.bits bit).signal = s.heldFor bit.name ↔ ∀ holder ∈ s.bits, holder.isBound →
      s.design.language.fold holder.name = s.design.language.fold bit.name → holder.name = bit.name := by
  rw [signal_rebind fresh]
  cases found : lastBound? s.bits bit.name with
  | some last =>
    obtain ⟨present, -⟩ := of_lastBound? found
    have sameName : last.name = bit.name := name_of_lastBound? found
    have sameFold := congrArg s.design.language.fold sameName
    refine iff_of_true (distinct.heldFor_eq present sameFold).symm fun holder member _ named => ?_
    rw [distinct.eq_of_fold_eq member present (named.trans sameFold.symm), sameName]
  | none =>
    rw [lastBound?, List.findRev?_eq_find?_reverse, List.find?_eq_none] at found
    constructor
    · intro empty holder member bound named
      have unbound : "" = holder.signal := empty.trans (distinct.heldFor_eq member named)
      simp [PortBit.isBound, ← unbound] at bound
    · intro alike
      refine (heldFor_eq_empty fun holder member named => ?_).symm
      by_contra bound
      rw [Bool.not_eq_false] at bound
      have spelled := alike holder member bound named
      exact found holder (List.mem_reverse.mpr member) (by simp [bound, spelled])

/-- A unit takes over what the bits of its names held exactly if none of these is bound under another
spelling. -/
theorem carriesOver_iff (distinct : s.DistinctBits) (found : s.design.unit? name = some r) :
    s.CarriesOver name ↔ s.SpelledAlike r := by
  rw [CarriesOver, setTop_eq, found, SpelledAlike]
  simp only [select, if_true, List.forall_mem_map]
  refine forall₂_congr fun bit member => ?_
  have named : (rebind s.bits bit).name = bit.name := congrArg Prod.fst (shape_rebind s.bits bit)
  rw [named]
  exact signal_rebind_eq_heldFor_iff distinct (Design.isBound_of_mem_freshBits member)

/-- Bits of a shape that the old bits have at the same places take over the old signals. -/
theorem map_rebind_eq_self {fresh : List PortBit} (distinct : s.DistinctBits)
    (unbound : ∀ bit ∈ fresh, bit.isBound = false)
    (shapes : s.bits.map PortBit.shape = fresh.map PortBit.shape) : fresh.map (rebind s.bits) = s.bits := by
  refine List.ext_getElem (by simpa using (congrArg List.length shapes).symm) fun i inFresh inOld => ?_
  rw [List.getElem_map]
  rw [List.length_map] at inFresh
  have shape : s.bits[i].shape = fresh[i].shape := by
    have shapeAt := congrArg (·[i]?) shapes
    simp only [List.getElem?_map, List.getElem?_eq_getElem inOld, List.getElem?_eq_getElem inFresh,
      Option.map_some] at shapeAt
    exact Option.some.inj shapeAt
  have present : s.bits[i] ∈ s.bits := List.getElem_mem inOld
  have sameName : s.bits[i].name = fresh[i].name := congrArg Prod.fst shape
  have free := unbound fresh[i] (List.getElem_mem inFresh)
  -- The bit of the same place is the only one of its name, and it is spelled as the new one.
  have signal : (rebind s.bits fresh[i]).signal = s.bits[i].signal := by
    rw [(signal_rebind_eq_heldFor_iff distinct free).mpr, distinct.heldFor_eq present]
    · rw [sameName]
    · intro holder member _ named
      rw [distinct.eq_of_fold_eq member present (by rw [named, sameName]), sameName]
  exact PortBit.eq_of_shape_eq ((shape_rebind s.bits fresh[i]).trans shape.symm) signal

/-- A top that is selected again with its bindings is as it was. -/
theorem Consistent.setTop_self (consistent : Consistent d s) (distinct : s.DistinctBits)
    (found : s.design.unit? name = some r) (again : s.design.language.fold name = s.top) :
    (s.setTop name true).2 = s := by
  obtain ⟨r', -, -, atTop, -, sorted⟩ := consistent.top
  have ports : Port.sortByName r.ports = s.ports := by
    have foldedTop : d.language.fold s.top = s.top := by
      rw [← again, consistent.design, Language.fold_fold]
    rw [Design.unit?, again, consistent.design] at found
    rw [Design.unit?, foldedTop, found, Option.some.injEq] at atTop
    exact (Port.sortedByName_sortByName r.ports).unique (atTop ▸ sorted)
  have bits : (freshBits s.design.language s.ports).map (rebind s.bits) = s.bits := by
    refine map_rebind_eq_self distinct (fun bit member => Design.isBound_of_mem_freshBits member) ?_
    rw [consistent.bits, consistent.design, freshBits]
  have items : (s.items.map fun item => { item with isTop := item.name = s.top }) = s.items := by
    refine (List.map_congr_left fun item present => ?_).trans (List.map_id _)
    have mark : decide (item.name = s.top) = item.isTop := by
      rw [Bool.eq_iff_iff, decide_eq_true_iff, consistent.marked item present]
    rw [mark]
    rfl
  rw [setTop_eq, found]
  simp only [select, if_true, ports, bits, items, again]

/-- Selecting a unit as the top, with the bindings preserved, gives a bit for each bit of the unit's
ports. These have the signals that the bits of their names in any spelling held exactly if none of the
latter is bound under another spelling; and selecting the top again changes nothing. -/
theorem setTop_preserving (distinct : s.DistinctBits) (found : s.design.unit? name = some r) :
    (s.setTop name true).1 = true ∧
      (s.setTop name true).2.bits.map PortBit.shape =
        (freshBits s.design.language (Port.sortByName r.ports)).map PortBit.shape ∧
      (s.CarriesOver name ↔ s.SpelledAlike r) ∧
      ∀ d, Consistent d s → s.design.language.fold name = s.top → (s.setTop name true).2 = s := by
  refine ⟨?_, ?_, carriesOver_iff distinct found,
    fun d consistent again => consistent.setTop_self distinct found again⟩
  · rw [setTop_eq, found]
  · rw [setTop_eq, found]
    simp only [select, List.map_map]
    exact List.map_congr_left fun bit _ => shape_rebind s.bits bit

/-- Two entities with a clock, which is spelled otherwise in each. -/
def twoClocks : List Declarations :=
  [{ units := ["a", "b"].map fun name => .declare .vhdl name "ab.vhd"
     ports := [("a", .declare .vhdl "CLK" .input none), ("b", .declare .vhdl "clk" .input none)] }]

/-- Binds the clock of the first one. -/
def clocked : List Call :=
  [.assign .standard ⟨"CLK", "BTNC"⟩]

private theorem twoClocks_clocked : ∃ d, Design.resolve .vhdl twoClocks = .ok d ∧
    ((initial d).run clocked).bits = [⟨"CLK", .input, "BTNC"⟩] ∧
      ((initial d).run clocked).design.language = .vhdl ∧ ((initial d).run clocked).top = "a" ∧
      (∃ r, ((initial d).run clocked).design.unit? "A" = some r) ∧
      (∃ r, ((initial d).run clocked).design.unit? "b" = some r) ∧
      (((initial d).run clocked).setTop "b" true).2.bits = [⟨"clk", .input, ""⟩] := by
  have outcome : (Design.resolve .vhdl twoClocks).map (fun d =>
      (((initial d).run clocked).bits, ((initial d).run clocked).design.language,
        ((initial d).run clocked).top, (((initial d).run clocked).design.unit? "A").isSome,
        (((initial d).run clocked).design.unit? "b").isSome,
        (((initial d).run clocked).setTop "b" true).2.bits)) =
      .ok ([⟨"CLK", .input, "BTNC"⟩], .vhdl, "a", true, true, [⟨"clk", .input, ""⟩]) := by cbv
  obtain ⟨d, success, found⟩ := except_map_eq_ok_iff.mp outcome
  simp only [Prod.mk.injEq, Option.isSome_iff_exists] at found
  exact ⟨d, success, found⟩

/-- The clock of the second entity does not take over the signal of the first one's. -/
theorem not_carriesOver_twoClocks : ¬ ∀ (lang : Language) (files : List Declarations) (d : Design)
    (calls : List Call) (name : String) (r : Registered), Design.resolve lang files = .ok d →
      ((initial d).run calls).DistinctBits → ((initial d).run calls).design.unit? name = some r →
        ((initial d).run calls).CarriesOver name := by
  intro claimed
  obtain ⟨d, success, bits, vhdl, -, -, ⟨r, found⟩, taken⟩ := twoClocks_clocked
  have distinct : ((initial d).run clocked).DistinctBits := by simp [DistinctBits, bits]
  have carried := claimed _ _ d clocked "b" r success distinct found ⟨"clk", .input, ""⟩
    (taken ▸ List.mem_singleton_self _)
  have sameClock : Language.vhdl.fold "CLK" = Language.vhdl.fold "clk" := by cbv
  rw [distinct.heldFor_eq (bits ▸ List.mem_singleton_self _) (by rw [vhdl, sameClock])] at carried
  exact absurd carried (by decide)

/-- The first entity keeps its clock if it is selected again, in any spelling of its name. -/
theorem setTop_twoClocks : ∃ d r, Design.resolve .vhdl twoClocks = .ok d ∧
    ((initial d).run clocked).DistinctBits ∧ ((initial d).run clocked).design.unit? "A" = some r ∧
      (((initial d).run clocked).setTop "A" true).2 = (initial d).run clocked := by
  have declared : ∀ file ∈ twoClocks, file.DeclaredIn .vhdl := by decide +kernel
  obtain ⟨d, success, bits, vhdl, top, ⟨r, found⟩, -⟩ := twoClocks_clocked
  have distinct : ((initial d).run clocked).DistinctBits := by simp [DistinctBits, bits]
  have again : Language.vhdl.fold "A" = "a" := by cbv
  exact ⟨d, r, success, distinct, found, (setTop_preserving distinct found).2.2.2 d
    (consistent_of_declaredIn declared success clocked) (by rw [vhdl, top, again])⟩

end Selection

end BoardBind
