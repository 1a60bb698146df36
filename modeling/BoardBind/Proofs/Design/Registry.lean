import Mathlib.Data.List.Nodup
import BoardBind.Design
import BoardBind.Proofs.Except
import BoardBind.Proofs.Graph.Edges

/-! # The registry of a design and the edges between its units

Registering goes through the declared units in order, keeps those with ports and refuses a name
that is known already. Linking then adds one edge for every instance between registered units. As
names are distinct, a unit can be read off its number and its number off its name, so the
successors of a number are the units that the instances name.
-/

namespace BoardBind

namespace Design

/-- The declared units that have a port, in the order of the files. -/
def registered (files : List Declarations) : List Registered :=
  (files.flatMap declared).filter fun r => r.ports ≠ []

/-- The instances of all files, in order. -/
def instancesOf (files : List Declarations) : List Instance :=
  files.flatMap (·.instances)

/-- The registered units that a unit instantiates, each once, in the order of first appearance. -/
def childrenOf (files : List Declarations) (r : Registered) : List Registered :=
  (((instancesOf files).filter fun inst => inst.parent = r.unit.name).filterMap fun inst =>
    (registered files).find? fun s => s.unit.name = inst.child).eraseDups

end Design

namespace UnitGraph

variable {lang : Language} {g : UnitGraph} {r : Registered} {i : Nat} {name : String}
  {units : List Registered} {last : UnitGraph} {cause : DesignError}

/-- Whether every registered unit has a name of its own. -/
def DistinctNames (g : UnitGraph) : Prop :=
  (g.labels.map fun r => r.unit.name).Nodup

theorem indexOf?_eq_none_iff : g.indexOf? name = none ↔ ∀ r ∈ g.labels, r.unit.name ≠ name := by
  simp only [indexOf?, List.findIdx?_eq_none_iff, decide_eq_false_iff_not, ne_eq]

/-- What registering a unit does: its name is new, and it is added if it has ports. -/
theorem register_eq_ok {next : UnitGraph} (success : g.register lang r = .ok next) :
    (∀ s ∈ g.labels, s.unit.name ≠ r.unit.name) ∧
      next = if r.ports = [] then g else g.addNode r := by
  rw [register] at success
  split_ifs at success with known noPorts
  all_goals
    have new := Option.not_isSome_iff_eq_none.mp known
    refine ⟨indexOf?_eq_none_iff.mp new, ?_⟩
    simp only [noPorts, if_true, if_false, Except.ok.inj success]

theorem register_of_new (new : ∀ s ∈ g.labels, s.unit.name ≠ r.unit.name) :
    g.register lang r = .ok (if r.ports = [] then g else g.addNode r) := by
  rw [register, indexOf?_eq_none_iff.mpr new, Option.isSome_none, if_neg Bool.false_ne_true]
  split_ifs <;> rfl

/-- Registering units appends those with ports and adds no edge. -/
theorem registerAll_eq_ok (success : registerAll lang units g = .ok last) :
    last.labels = g.labels ++ units.filter (fun r => r.ports ≠ []) ∧ last.edges = g.edges := by
  induction units generalizing g with
  | nil =>
    obtain rfl := Except.ok.inj success
    exact ⟨(List.append_nil _).symm, rfl⟩
  | cons r rest ih =>
    obtain ⟨next, step, success⟩ := except_bind_eq_ok_iff.mp success
    obtain ⟨labels, edges⟩ := ih success
    obtain ⟨-, rfl⟩ := register_eq_ok step
    by_cases noPorts : r.ports = []
    · rw [if_pos noPorts] at labels edges
      rw [List.filter_cons_of_neg (by simpa using noPorts)]
      exact ⟨labels, edges⟩
    · rw [if_neg noPorts] at labels edges
      rw [List.filter_cons_of_pos (by simpa using noPorts), labels, edges]
      exact ⟨List.append_assoc .., rfl⟩

/-- Registering keeps names distinct. -/
theorem distinctNames_registerAll (distinct : g.DistinctNames)
    (success : registerAll lang units g = .ok last) :
    last.DistinctNames := by
  induction units generalizing g with
  | nil => exact Except.ok.inj success ▸ distinct
  | cons r rest ih =>
    obtain ⟨next, step, success⟩ := except_bind_eq_ok_iff.mp success
    obtain ⟨new, rfl⟩ := register_eq_ok step
    refine ih ?_ success
    split_ifs
    · exact distinct
    · rw [DistinctNames, Graph.addNode, List.map_append, List.nodup_append]
      refine ⟨distinct, List.nodup_singleton _, ?_⟩
      rintro _ known _ own rfl
      obtain ⟨s, member, same⟩ := List.mem_map.mp known
      exact new s member (same.trans (List.mem_singleton.mp own))

/-- Registering fails only for a unit that is repeated. -/
theorem registerAll_eq_error (failure : registerAll lang units g = .error cause) :
    ∃ spelling, cause = .duplicate lang.unitTerm spelling := by
  induction units generalizing g with
  | nil => cases failure
  | cons r rest ih =>
    rw [registerAll] at failure
    cases step : g.register lang r with
    | ok next =>
      rw [step] at failure
      exact ih failure
    | error reason =>
      rw [step] at failure
      obtain rfl := Except.error.inj failure
      rw [register] at step
      split_ifs at step
      exact ⟨_, (Except.error.inj step).symm⟩

/-- Units are registered if the names known before are new, and if every unit in front of another
one of its name has no ports. -/
theorem exists_registerAll_eq_ok_iff : (∃ last, registerAll lang units g = .ok last) ↔
    (∀ r ∈ units, ∀ s ∈ g.labels, s.unit.name ≠ r.unit.name) ∧
      units.Pairwise fun earlier later =>
        earlier.unit.name = later.unit.name → earlier.ports = [] := by
  induction units generalizing g with
  | nil => exact ⟨fun _ => ⟨by simp, .nil⟩, fun _ => ⟨g, rfl⟩⟩
  | cons r rest ih =>
    rw [List.forall_mem_cons, List.pairwise_cons]
    constructor
    · rintro ⟨last, success⟩
      obtain ⟨next, step, success⟩ := except_bind_eq_ok_iff.mp success
      obtain ⟨new, rfl⟩ := register_eq_ok step
      obtain ⟨later, pairwise⟩ := ih.mp ⟨last, success⟩
      by_cases noPorts : r.ports = []
      · rw [if_pos noPorts] at later
        exact ⟨⟨new, later⟩, fun _ _ _ => noPorts, pairwise⟩
      · rw [if_neg noPorts] at later
        have free (s : Registered) (member : s ∈ rest) :=
          List.forall_mem_append.mp (later s member)
        refine ⟨⟨new, fun s member => (free s member).1⟩, fun s member same => ?_, pairwise⟩
        exact absurd same ((free s member).2 r (List.mem_singleton_self r))
    · rintro ⟨⟨new, later⟩, first, pairwise⟩
      rw [registerAll, register_of_new new]
      refine ih.mpr ⟨fun s member => ?_, pairwise⟩
      by_cases noPorts : r.ports = []
      · rw [if_pos noPorts]
        exact later s member
      · rw [if_neg noPorts]
        refine List.forall_mem_append.mpr ⟨later s member, List.forall_mem_singleton.mpr ?_⟩
        exact fun same => noPorts (first s member same)

/-- With distinct names, a unit is at its number exactly if the number is found by its name. -/
theorem indexOf?_eq_some_iff (distinct : g.DistinctNames) :
    g.indexOf? name = some i ↔ ∃ r, g.label? i = some r ∧ r.unit.name = name := by
  constructor
  · intro found
    obtain ⟨bound, named, -⟩ := List.findIdx?_eq_some_iff_getElem.mp found
    exact ⟨_, List.getElem?_eq_getElem bound, of_decide_eq_true named⟩
  · rintro ⟨r, labelled, rfl⟩
    obtain ⟨bound, rfl⟩ := List.getElem?_eq_some_iff.mp labelled
    refine List.findIdx?_eq_some_iff_getElem.mpr ⟨bound, decide_eq_true rfl, fun j earlier => ?_⟩
    rw [decide_eq_true_eq]
    intro same
    have boundI : i < (g.labels.map fun r => r.unit.name).length := by rwa [List.length_map]
    have boundJ : j < (g.labels.map fun r => r.unit.name).length := Nat.lt_trans earlier boundI
    have sameName : (g.labels.map fun r => r.unit.name)[j] =
        (g.labels.map fun r => r.unit.name)[i] := by
      simpa only [List.getElem_map] using same
    exact absurd (distinct.getElem_inj_iff.mp sameName) (Nat.ne_of_lt earlier)

theorem label?_inj (distinct : g.DistinctNames) {j : Nat} (first : g.label? i = some r)
    (second : g.label? j = some r) : i = j := by
  have found := (indexOf?_eq_some_iff distinct).mpr ⟨r, first, rfl⟩
  exact Option.some.inj (found.symm.trans ((indexOf?_eq_some_iff distinct).mpr ⟨r, second, rfl⟩))

/-- The unit of a name is the one at the number of the name. -/
theorem find?_eq : g.find? name = (g.indexOf? name).bind g.label? :=
  List.find?_eq_bind_findIdx?_getElem?

/-- The edge that an instance asks for, if both of its units are registered. -/
def edgeOf? (g : UnitGraph) (inst : Instance) : Option (Nat × Nat) :=
  (g.indexOf? inst.parent).bind fun parent => (g.indexOf? inst.child).map fun child => (parent, child)

theorem link_eq (g : UnitGraph) (inst : Instance) :
    g.link inst = match g.edgeOf? inst with
      | some edge => g.addEdge edge.1 edge.2
      | none => g := by
  unfold link edgeOf?
  cases g.indexOf? inst.parent <;> cases g.indexOf? inst.child <;> rfl

theorem edgeOf?_lt {inst : Instance} {edge : Nat × Nat} (found : g.edgeOf? inst = some edge) :
    edge.1 < g.nodeCount ∧ edge.2 < g.nodeCount := by
  obtain ⟨parent, atParent, found⟩ := Option.bind_eq_some_iff.mp found
  obtain ⟨child, atChild, rfl⟩ := Option.map_eq_some_iff.mp found
  exact ⟨(List.findIdx?_eq_some_iff_getElem.mp atParent).1,
    (List.findIdx?_eq_some_iff_getElem.mp atChild).1⟩

@[simp] theorem labels_link (g : UnitGraph) (inst : Instance) : (g.link inst).labels = g.labels := by
  rw [link_eq]
  split
  · exact Graph.labels_addEdge ..
  · rfl

@[simp] theorem labels_linkAll (g : UnitGraph) (instances : List Instance) :
    (g.linkAll instances).labels = g.labels := by
  induction instances generalizing g with
  | nil => rfl
  | cons inst rest ih => exact (ih (g.link inst)).trans (labels_link g inst)

theorem edgeOf?_link (g : UnitGraph) (inst : Instance) : (g.link inst).edgeOf? = g.edgeOf? := by
  funext other
  simp only [edgeOf?, indexOf?, labels_link]

/-- Linking adds the edges of the instances, each once, in the order of first appearance. -/
theorem edges_linkAll (prior : List (Nat × Nat)) (instances : List Instance)
    (edges : g.edges = prior.eraseDups) :
    (g.linkAll instances).edges = (prior ++ instances.filterMap g.edgeOf?).eraseDups := by
  induction instances generalizing g prior with
  | nil => rw [List.filterMap_nil, List.append_nil]; exact edges
  | cons inst rest ih =>
    change ((g.link inst).linkAll rest).edges = _
    cases found : g.edgeOf? inst with
    | none =>
      have unchanged : g.link inst = g := by rw [link_eq, found]
      rw [unchanged, List.filterMap_cons_none found]
      exact ih prior edges
    | some edge =>
      have added : (g.link inst).edges = (prior ++ [edge]).eraseDups := by
        obtain ⟨inSource, inTarget⟩ := edgeOf?_lt found
        rw [link_eq, found, Graph.edges_addEdge inSource inTarget, eraseDups_concat, edges]
        simp only [List.mem_eraseDups]
      rw [List.filterMap_cons_some found, ih _ added, edgeOf?_link, List.append_assoc]
      rfl

/-- Linking adds only edges between registered units. -/
theorem mem_edges_linkAll (noEdges : g.edges = []) {instances : List Instance} {edge : Nat × Nat}
    (present : edge ∈ (g.linkAll instances).edges) :
    edge.1 < g.nodeCount ∧ edge.2 < g.nodeCount := by
  rw [edges_linkAll [] instances (noEdges.trans rfl), List.nil_append,
    List.mem_eraseDups] at present
  obtain ⟨inst, _, found⟩ := List.mem_filterMap.mp present
  exact edgeOf?_lt found

/-- The child that an instance inside a unit names, read off the edge of the instance. -/
private theorem edgeOf?_child (distinct : g.DistinctNames) (labelled : g.label? i = some r)
    (inst : Instance) :
    ((g.edgeOf? inst).bind fun edge => if edge.1 = i then some edge.2 else none).bind g.label? =
      if inst.parent = r.unit.name then g.find? inst.child else none := by
  have parent : g.indexOf? inst.parent = some i ↔ inst.parent = r.unit.name := by
    rw [indexOf?_eq_some_iff distinct]
    constructor
    · rintro ⟨s, labelled', named⟩
      rw [labelled] at labelled'
      exact Option.some.inj labelled' ▸ named.symm
    · exact fun named => ⟨r, labelled, named.symm⟩
  rw [find?_eq, edgeOf?]
  split_ifs with inside
  · rw [parent.mpr inside, Option.bind_some]
    cases g.indexOf? inst.child <;> simp
  · cases other : g.indexOf? inst.parent with
    | none => rfl
    | some j =>
      have different : j ≠ i := fun same => inside (parent.mp (same ▸ other))
      cases g.indexOf? inst.child <;> simp [different]

/-- After linking, the successors of a unit are the registered units that its instances name. -/
theorem label?_successors_linkAll (distinct : g.DistinctNames) (noEdges : g.edges = [])
    (instances : List Instance) (labelled : g.label? i = some r) :
    ((g.linkAll instances).successors i).filterMap g.label? =
      ((instances.filter fun inst => inst.parent = r.unit.name).filterMap fun inst =>
        g.find? inst.child).eraseDups := by
  have edges := edges_linkAll [] instances (noEdges.trans rfl)
  have sameTarget : ∀ (a b : Nat × Nat) (target : Nat), (if a.1 = i then some a.2 else none) = some target →
      (if b.1 = i then some b.2 else none) = some target → a = b := by
    intro a b target first second
    split_ifs at first second with fromFirst fromSecond
    exact Prod.ext (fromFirst.trans fromSecond.symm)
      (Option.some.inj (first.trans second.symm))
  rw [Graph.successors_eq, edges, List.nil_append, filterMap_eraseDups sameTarget,
    filterMap_eraseDups fun _ _ _ first second => label?_inj distinct first second,
    List.filterMap_filterMap, List.filterMap_filterMap, List.filterMap_filter]
  refine congrArg _ (List.filterMap_congr fun inst _ => ?_)
  rw [← Option.bind_assoc, edgeOf?_child distinct labelled]
  simp only [decide_eq_true_eq]

end UnitGraph

end BoardBind
