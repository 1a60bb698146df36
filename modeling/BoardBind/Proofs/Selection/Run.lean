import BoardBind.Proofs.Design.Names
import BoardBind.Proofs.Port.Bits
import BoardBind.Proofs.Selection.Restore

/-! # Runs of a selection

A selection is changed by calls only: a call selects another unit as the top, or it binds and frees
bits. Binding leaves everything but the signals as it is, and selecting a top rebuilds all that
depends on it. So after any calls the ports and the bits are those of the selected top.
-/

namespace BoardBind.Selection

/-- A call that may change a selection. -/
inductive Call where
  | setTop (name : String) (preserve : Bool)
  | assign (board : Board) (binding : Binding)
  | restore (board : Board) (bindings : List Binding)
  /-- Binds the bit of a number to a signal of any board. -/
  | bindBit (i : Nat) (signal : String)
  | freeBit (i : Nat)

/-- The answer to a call. -/
inductive Answer where
  | accepted (yes : Bool)
  /-- How many bindings were admitted. -/
  | admitted (count : Nat)
  deriving DecidableEq

/-- Whether an answer says that nothing was done. -/
def Answer.isRefusal : Answer → Bool
  | .accepted yes => !yes
  | .admitted count => count = 0

variable {lang : Language} {files : List Declarations} {d : Design} {s t : Selection} {call : Call}

/-- Performs a call. -/
def perform (s : Selection) : Call → Answer × Selection
  | .setTop name preserve => (s.setTop name preserve).map .accepted id
  | .assign board binding => (s.assign board binding).map .accepted id
  | .restore board bindings => (s.restore board bindings).map .admitted id
  | .bindBit i signal => (.accepted (i < s.bits.length),
      { s with bits := s.bits.modify i fun bit => bit.bind signal })
  | .freeBit i => (.accepted (i < s.bits.length),
      { s with bits := s.bits.modify i PortBit.unbind })

/-- The selection after some calls. -/
def run (s : Selection) (calls : List Call) : Selection :=
  calls.foldl (fun s call => (s.perform call).2) s

theorem run_append (s : Selection) (first second : List Call) :
    s.run (first ++ second) = (s.run first).run second :=
  List.foldl_append

theorem SameShape.refl (s : Selection) : SameShape s s := ⟨rfl, rfl, rfl, rfl, rfl⟩

theorem sameShape_modify {change : PortBit → PortBit} (keeps : ∀ bit, (change bit).unbind = bit.unbind)
    (s : Selection) (i : Nat) : SameShape { s with bits := s.bits.modify i change } s where
  design := rfl
  top := rfl
  ports := rfl
  items := rfl
  bits := by
    refine List.ext_getElem? fun j => ?_
    simp only [List.getElem?_map, List.getElem?_modify, Option.map_eq_map, Option.map_map]
    refine congrArg (Option.map · s.bits[j]?) (funext fun bit => ?_)
    simp only [Function.comp_apply]
    split_ifs
    · exact keeps bit
    · rfl

/-- What a call does: it leaves all but the signals as they are, or it selects a registered unit. -/
theorem perform_snd (s : Selection) (call : Call) :
    SameShape (s.perform call).2 s ∨
      ∃ name preserve r, call = .setTop name preserve ∧ s.design.unit? name = some r ∧
        (s.perform call).2 = s.select (s.design.language.fold name) r.ports
          (if preserve then s.bits else []) := by
  cases call with
  | setTop name preserve =>
    simp only [perform, Prod.map_snd, id, setTop_eq]
    cases found : s.design.unit? name with
    | none => exact .inl (.refl s)
    | some r => exact .inr ⟨name, preserve, r, rfl, found, rfl⟩
  | assign board binding =>
    simp only [perform, Prod.map_snd, id, assign_snd]
    exact .inl (sameShape_rebindAll ..)
  | restore board bindings =>
    simp only [perform, Prod.map_snd, id, restore_snd]
    exact .inl (sameShape_rebindAll ..)
  | bindBit i signal => exact .inl (sameShape_modify (fun _ => PortBit.unbind_bind) s i)
  | freeBit i => exact .inl (sameShape_modify (fun _ => PortBit.unbind_unbind) s i)

/-- A refused binding is not admitted, or there is no bit of its name. -/
theorem assign_of_refused {board : Board} {binding : Binding}
    (refused : (s.assign board binding).1 = false) : (s.assign board binding).2 = s := by
  unfold assign at refused ⊢
  split at refused
  · cases refused
  · rfl

theorem restore_of_none_admitted {board : Board} {bindings : List Binding}
    (nothing : (s.restore board bindings).1 = 0) : (s.restore board bindings).2 = s := by
  induction bindings with
  | nil => rfl
  | cons binding rest ih =>
    unfold restore at nothing ⊢
    cases outcome : s.assign board binding with
    | mk accepted next =>
      rw [outcome] at nothing
      cases accepted with
      | true => cases nothing
      | false => exact ih nothing

/-- A call that is refused changes nothing. -/
theorem perform_of_refusal (refused : (s.perform call).1.isRefusal) : (s.perform call).2 = s := by
  cases call with
  | setTop name preserve =>
    simp only [perform, Prod.map_fst, Prod.map_snd, id, Answer.isRefusal, setTop_eq] at refused ⊢
    cases found : s.design.unit? name with
    | none => rfl
    | some r => rw [found] at refused; cases refused
  | assign board binding =>
    simp only [perform, Prod.map_fst, Prod.map_snd, id, Answer.isRefusal,
      Bool.not_eq_true'] at refused ⊢
    exact assign_of_refused refused
  | restore board bindings =>
    simp only [perform, Prod.map_fst, Prod.map_snd, id, Answer.isRefusal,
      decide_eq_true_eq] at refused ⊢
    exact restore_of_none_admitted refused
  | bindBit i signal | freeBit i =>
    simp only [perform, Answer.isRefusal, Bool.not_eq_true', decide_eq_false_iff_not,
      Nat.not_lt] at refused ⊢
    rw [List.modify_eq_self refused]

/-- What is true of a selection at any time: its design is as it was resolved, its top is a registered
unit, and its ports, bits and marked items are those of the top. -/
structure Consistent (d : Design) (s : Selection) : Prop where
  /-- The registry, the edges, the items and the suggested top are as they were resolved. -/
  design : s.design = d
  /-- The top is the folded name of a registered unit, and it is found by this name. The ports are
  the registered ports of this unit, sorted by folded name. -/
  top : ∃ r ∈ d.graph.labels, r.unit.name = s.top ∧ d.unit? s.top = some r ∧ s.unit? = some r.unit ∧
    Port.SortedByName r.ports s.ports
  /-- The bits are those of the ports in order, each with its name and direction. -/
  bits : s.bits.map PortBit.shape = (s.ports.flatMap (Port.bits d.language)).map PortBit.shape
  nonempty : s.bits ≠ []
  /-- Apart from their marks, the items are those of the design. -/
  items : s.items.map MarkedItem.toTreeItem = d.items
  /-- An item is marked as the top if it has the name of the top. -/
  marked : ∀ item ∈ s.items, item.isTop ↔ item.name = s.top

theorem SameShape.map_shape (same : SameShape t s) :
    t.bits.map PortBit.shape = s.bits.map PortBit.shape := by
  have shapes := congrArg (List.map PortBit.shape) same.bits
  simp only [List.map_map] at shapes
  exact shapes

/-- Consistency does not depend on what the bits are bound to. -/
theorem Consistent.of_sameShape (consistent : Consistent d s) (same : SameShape t s) :
    Consistent d t where
  design := same.design.trans consistent.design
  top := by
    rw [unit?, same.design, same.top, same.ports]
    exact consistent.top
  bits := by rw [same.ports, same.map_shape, consistent.bits]
  nonempty := by
    have bits : t.bits = [] ↔ s.bits = [] := by
      rw [← List.map_eq_nil_iff (f := PortBit.unbind), same.bits, List.map_eq_nil_iff]
    exact mt bits.mp consistent.nonempty
  items := same.items ▸ consistent.items
  marked := by rw [same.items, same.top]; exact consistent.marked

/-- Whether an item is marked can be asked by its level, name and file. -/
theorem Consistent.isTop_iff (consistent : Consistent d s) {item : TreeItem} (member : item ∈ d.items) :
    s.isTop item ↔ item.name = s.top := by
  rw [isTop, List.contains_iff_mem]
  constructor
  · exact fun marked => (consistent.marked _ marked).mp rfl
  · intro named
    rw [← consistent.items] at member
    obtain ⟨⟨found, isTop⟩, present, rfl⟩ := List.mem_map.mp member
    have marked : isTop = true := (consistent.marked _ present).mpr named
    exact marked ▸ present

theorem shape_rebind (old : List PortBit) (bit : PortBit) : (rebind old bit).shape = bit.shape := by
  unfold rebind
  split <;> rfl

/-- A unit with a port has a bit. -/
theorem freshBits_ne_nil {ports : List Port} (nonempty : ports ≠ []) :
    freshBits lang (Port.sortByName ports) ≠ [] := by
  obtain ⟨port, present⟩ := List.exists_mem_of_ne_nil _ nonempty
  have sorted := (Port.sortedByName_sortByName ports).perm.mem_iff.mpr present
  obtain ⟨bit, inPort⟩ := List.exists_mem_of_ne_nil _ (port.bits_ne_nil lang)
  exact List.ne_nil_of_mem (List.mem_flatMap.mpr ⟨port, sorted, inPort⟩)

/-- A registered unit that is selected by its folded name gives a consistent selection, whatever was
selected before and whatever its bits take over. -/
theorem consistent_select (withPorts : ∀ r ∈ d.graph.labels, r.ports ≠ []) {top : String}
    {r : Registered} (design : s.design = d) (items : s.items.map MarkedItem.toTreeItem = d.items)
    (folded : d.language.fold top = top) (found : d.unit? top = some r) (old : List PortBit) :
    Consistent d (s.select top r.ports old) := by
  have atTop : d.graph.find? top = some r := by rwa [Design.unit?, folded] at found
  have member : r ∈ d.graph.labels := List.mem_of_find?_eq_some atTop
  have named := List.find?_some atTop
  constructor
  case design => exact design
  case top =>
    refine ⟨r, member, of_decide_eq_true named, found, ?_, Port.sortedByName_sortByName r.ports⟩
    simp only [unit?, select, design, found, Option.map_some]
  case bits =>
    rw [select, design, List.map_map]
    exact List.map_congr_left fun bit _ => shape_rebind old bit
  case nonempty => exact mt List.map_eq_nil_iff.mp (freshBits_ne_nil (withPorts r member))
  case items =>
    rw [← items, select, List.map_map]
    rfl
  case marked =>
    intro item present
    obtain ⟨before, -, rfl⟩ := List.mem_map.mp present
    exact decide_eq_true_iff

/-- A call keeps a selection consistent. -/
theorem Consistent.perform (consistent : Consistent d s)
    (withPorts : ∀ r ∈ d.graph.labels, r.ports ≠ []) (call : Call) :
    Consistent d (s.perform call).2 := by
  rcases perform_snd s call with same | ⟨name, preserve, r, -, found, next⟩
  · exact consistent.of_sameShape same
  · rw [consistent.design] at found next
    rw [next]
    refine consistent_select withPorts consistent.design consistent.items (Language.fold_fold ..) ?_ _
    rwa [Design.unit?, Language.fold_fold]

theorem Consistent.run (consistent : Consistent d s)
    (withPorts : ∀ r ∈ d.graph.labels, r.ports ≠ []) (calls : List Call) :
    Consistent d (s.run calls) := by
  induction calls generalizing s with
  | nil => exact consistent
  | cons call rest ih => exact ih (consistent.perform withPorts call)

/-- The selection that a resolved design starts with is consistent and stays so, if the units of its
files are known by folded names. -/
theorem consistent_of_declaredIn (declared : ∀ file ∈ files, file.DeclaredIn lang)
    (success : Design.resolve lang files = .ok d) (calls : List Call) :
    Consistent d ((initial d).run calls) := by
  obtain ⟨trees, represents, -, -, shape⟩ := Design.resolve_eq_ok success
  obtain ⟨r, member, named⟩ := Design.exists_suggested success
  have withPorts : ∀ r ∈ d.graph.labels, r.ports ≠ [] := by
    rw [represents.labels]
    exact fun r member => of_decide_eq_true (List.mem_filter.mp member).2
  have folded : d.language.fold d.suggested = d.suggested := by
    obtain ⟨file, inFiles, inFile⟩ := List.mem_flatMap.mp (List.mem_filter.mp member).1
    obtain ⟨u, known, rfl⟩ := List.mem_map.mp inFile
    have isLang : d.language = lang := by rw [shape]
    rw [← named, declared file inFiles u known, isLang, Language.fold_fold]
  have atTop : d.graph.find? d.suggested = some r := by
    rw [UnitGraph.find?, represents.labels]
    exact represents.find?_eq_some_iff.mpr ⟨member, named⟩
  have known : d.unit? d.suggested = some r := by rw [Design.unit?, folded, atTop]
  have unmarked : (unselected d).items.map MarkedItem.toTreeItem = d.items := by
    rw [unselected, List.map_map]
    exact List.map_id _
  have start : Consistent d (initial d) := by
    rw [initial_eq, known, folded]
    exact consistent_select withPorts rfl unmarked folded known []
  exact start.run withPorts calls

/-- After any calls on a resolved design, all that is kept of the top is that of the selected top, the
design is as it was, and a call that is then refused changes nothing. -/
theorem consistent_run (declared : ∀ file ∈ files, file.DeclaredIn lang)
    (success : Design.resolve lang files = .ok d) (calls : List Call) :
    Consistent d ((initial d).run calls) ∧
      (∀ item ∈ d.items, ((initial d).run calls).isTop item ↔
        item.name = ((initial d).run calls).top) ∧
      ∀ call, (((initial d).run calls).perform call).1.isRefusal →
        (((initial d).run calls).perform call).2 = (initial d).run calls := by
  have consistent := consistent_of_declaredIn declared success calls
  exact ⟨consistent, fun _ => consistent.isTop_iff, fun _ => perform_of_refusal⟩

/-- Two entities with ports of their own, one of which instantiates the other. -/
def lampAndKey : List Declarations :=
  [{ units := [.declare .vhdl "Lamp" "lamp.vhd", .declare .vhdl "KEY" "lamp.vhd"]
     ports := [("lamp", .declare .vhdl "led" .output (some (.ofBounds 0 1))),
       ("lamp", .declare .vhdl "CLK" .input none), ("key", .declare .vhdl "clk" .input none)]
     instances := [⟨"key", "lamp"⟩] }]

/-- Calls that switch between the two entities, with a name and a binding that are refused. -/
def switching : List Call :=
  [.assign .standard ⟨"clk", "CLK"⟩, .bindBit 1 "LD(3)", .setTop "Key" true, .setTop "door" true,
    .restore .standard [⟨"CLK", "BTNC"⟩, ⟨"led(0)", "LD(0)"⟩], .setTop "LAMP" false]

theorem consistent_lampAndKey : (∀ file ∈ lampAndKey, file.DeclaredIn .vhdl) ∧
    ∃ d, Design.resolve .vhdl lampAndKey = .ok d ∧ Consistent d ((initial d).run switching) := by
  have declared : ∀ file ∈ lampAndKey, file.DeclaredIn .vhdl := by decide +kernel
  have items : (Design.resolve .vhdl lampAndKey).map (·.items) =
      .ok [⟨0, "lamp", "lamp.vhd"⟩, ⟨1, "key", "lamp.vhd"⟩] := by cbv
  obtain ⟨d, success, -⟩ := except_map_eq_ok_iff.mp items
  exact ⟨declared, d, success, (consistent_run declared success switching).1⟩

end BoardBind.Selection
