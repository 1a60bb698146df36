import BoardBind.Proofs.Graph.Walk
import Mathlib.Algebra.Order.BigOperators.Group.Finset

/-! # Graphs kept node by node

A graph may also be kept node by node: every node with its successors and with the number of edges that
lead to it, and beside the nodes the number of all edges. Whatever nodes and edges are added, and with
whatever indices, these records say what the edges of the graph say. So they agree with each other: the
edges are counted once by the nodes they start from and once by the nodes they lead to.
-/

namespace BoardBind

/-- What is kept at a node: its label, its successors and the number of edges that lead to it. -/
structure Vertex (α : Type) where
  label : α
  successors : List Nat := []
  inDegree : Nat := 0

/-- A graph that is kept node by node, with the number of its edges. -/
structure Adjacency (α : Type) where
  vertices : List (Vertex α) := []
  edgeCount : Nat := 0

variable {α : Type} {g : Graph α} {source target node : Nat}

namespace Adjacency

/-- Whether the second node stands among the successors of the first one. -/
def hasEdge (kept : Adjacency α) (source target : Nat) : Bool :=
  (kept.vertices[source]?.map fun vertex => vertex.successors.contains target).getD false

/-- What adding an edge would do. -/
def edgeStatus (kept : Adjacency α) (source target : Nat) : EdgeStatus :=
  if kept.vertices.length ≤ source then .missingSource
  else if kept.vertices.length ≤ target then .missingTarget
  else if kept.hasEdge source target then .repeated
  else .added

/-- Adds a node that no edge leads to or from. -/
def addNode (kept : Adjacency α) (label : α) : Adjacency α :=
  { kept with vertices := kept.vertices ++ [{ label }] }

/-- Adds an edge if it can be added: to the successors of the one node, to the count of the other one and
to the count of all edges. -/
def addEdge (kept : Adjacency α) (source target : Nat) : Adjacency α :=
  match kept.edgeStatus source target with
  | .added =>
    { vertices := (kept.vertices.modify source fun vertex =>
          { vertex with successors := vertex.successors ++ [target] }).modify target fun vertex =>
          { vertex with inDegree := vertex.inDegree + 1 }
      edgeCount := kept.edgeCount + 1 }
  | _ => kept

/-- Takes a step. -/
def take (kept : Adjacency α) : Graph.BuildStep α → Adjacency α
  | .node label => kept.addNode label
  | .edge source target => kept.addEdge source target

/-- What is kept of the graph that is built in the given steps. -/
def built (steps : List (Graph.BuildStep α)) : Adjacency α :=
  steps.foldl take {}

end Adjacency

namespace Graph

/-- What is to be kept of a graph, read from its edges. -/
def adjacency (g : Graph α) : Adjacency α where
  vertices := g.labels.mapIdx fun node label => ⟨label, g.successors node, g.inDegree node⟩
  edgeCount := g.edgeCount

/-! ## One step -/

theorem hasEdge_iff : g.hasEdge source target ↔ target ∈ g.successors source := by
  rw [hasEdge, List.contains_iff_mem, mem_successors_iff]

theorem edgeStatus_eq_added_iff : g.edgeStatus source target = .added ↔
    source < g.nodeCount ∧ target < g.nodeCount ∧ g.hasEdge source target = false := by
  unfold edgeStatus
  split_ifs with noSource noTarget present
  · simp [Nat.not_lt.mpr noSource]
  · simp [Nat.not_lt.mpr noTarget]
  · simp [present]
  · simp [Nat.not_le.mp noSource, Nat.not_le.mp noTarget, present]

/-- An edge that can be added is put behind the others. -/
theorem addEdge_of_added (added : g.edgeStatus source target = .added) :
    g.addEdge source target = { g with edges := g.edges ++ [(source, target)] } := by
  rw [addEdge, added]

theorem addEdge_of_refused (refused : g.edgeStatus source target ≠ .added) :
    g.addEdge source target = g := by
  unfold addEdge
  split
  · next added => exact absurd added refused
  · rfl

theorem hasEdge_addEdge (added : g.edgeStatus source target = .added) (first second : Nat) :
    (g.addEdge source target).hasEdge first second =
      (g.hasEdge first second || decide ((first, second) = (source, target))) := by
  rw [addEdge_of_added added, hasEdge, hasEdge, Bool.eq_iff_iff]
  simp

theorem successors_concat (labels : List α) (edges : List (Nat × Nat)) (edge : Nat × Nat) (node : Nat) :
    (Graph.mk labels (edges ++ [edge])).successors node =
      (Graph.mk labels edges).successors node ++ if edge.1 = node then [edge.2] else [] := by
  rw [successors_eq, successors_eq, List.filterMap_append]
  split_ifs with same <;> simp [same]

theorem inDegree_concat (labels : List α) (edges : List (Nat × Nat)) (edge : Nat × Nat) (node : Nat) :
    (Graph.mk labels (edges ++ [edge])).inDegree node =
      (Graph.mk labels edges).inDegree node + if edge.2 = node then 1 else 0 := by
  rw [inDegree, inDegree, List.countP_append]
  split_ifs with same <;> simp [same]

namespace Inside

/-- No edge leads from or to a node that is missing. -/
theorem of_missing (inside : g.Inside) (missing : g.nodeCount ≤ node) :
    g.successors node = [] ∧ g.inDegree node = 0 := by
  constructor
  · refine List.eq_nil_iff_forall_not_mem.mpr fun next member => ?_
    exact absurd (inside _ (mem_successors_iff.mp member)).1 (Nat.not_lt.mpr missing)
  · refine List.countP_eq_zero.mpr fun edge present same => ?_
    exact absurd (of_decide_eq_true same ▸ (inside edge present).2) (Nat.not_lt.mpr missing)

theorem hasEdge_adjacency (inside : g.Inside) (source target : Nat) :
    g.adjacency.hasEdge source target = g.hasEdge source target := by
  rw [Bool.eq_iff_iff, hasEdge_iff, Adjacency.hasEdge, adjacency, List.getElem?_mapIdx, Option.map_map]
  cases atSource : g.labels[source]? with
  | none =>
    have missing : g.nodeCount ≤ source := List.getElem?_eq_none_iff.mp atSource
    simp [(inside.of_missing missing).1]
  | some label => simp

theorem edgeStatus_adjacency (inside : g.Inside) (source target : Nat) :
    g.adjacency.edgeStatus source target = g.edgeStatus source target := by
  have nodes : g.adjacency.vertices.length = g.nodeCount := List.length_mapIdx
  rw [Adjacency.edgeStatus, edgeStatus, nodes, inside.hasEdge_adjacency]

theorem adjacency_addNode (inside : g.Inside) (label : α) :
    (g.addNode label).adjacency = g.adjacency.addNode label := by
  have fresh := inside.of_missing (Nat.le_refl g.nodeCount)
  have behind : (g.addNode label).adjacency.vertices =
      g.adjacency.vertices ++ [⟨label, g.successors g.nodeCount, g.inDegree g.nodeCount⟩] :=
    List.mapIdx_concat
  rw [fresh.1, fresh.2] at behind
  exact congrArg (Adjacency.mk · g.edgeCount) behind

theorem adjacency_addEdge (inside : g.Inside) (source target : Nat) :
    (g.addEdge source target).adjacency = g.adjacency.addEdge source target := by
  rw [Adjacency.addEdge, inside.edgeStatus_adjacency]
  split
  · next added =>
    rw [addEdge_of_added added, adjacency, adjacency, Adjacency.mk.injEq]
    refine ⟨List.ext_getElem? fun node => ?_, by simp [edgeCount]⟩
    simp only [List.getElem?_modify, List.getElem?_mapIdx, successors_concat, inDegree_concat]
    cases g.labels[node]? with
    | none => rfl
    | some label =>
      -- A node may be both ends of the edge, so each end is looked at on its own.
      by_cases first : source = node <;> by_cases second : target = node <;>
        simp [first, second]
  · next refused => rw [addEdge_of_refused refused]

/-- Taking a step keeps what is to be kept. -/
theorem adjacency_take (inside : g.Inside) (step : BuildStep α) :
    (g.take step).adjacency = g.adjacency.take step := by
  cases step with
  | node label => exact inside.adjacency_addNode label
  | edge source target => exact inside.adjacency_addEdge source target

theorem adjacency_foldl (inside : g.Inside) (steps : List (BuildStep α)) :
    (steps.foldl Graph.take g).adjacency = steps.foldl Adjacency.take g.adjacency := by
  induction steps generalizing g with
  | nil => rfl
  | cons step rest ih =>
    rw [List.foldl_cons, List.foldl_cons, ih (inside.take step), inside.adjacency_take step]

end Inside

/-- No edge is added twice. -/
theorem nodup_edges_take (distinct : g.edges.Nodup) (step : BuildStep α) :
    (g.take step).edges.Nodup := by
  cases step with
  | node label => exact distinct
  | edge source target =>
    by_cases added : g.edgeStatus source target = .added
    · have fresh := (edgeStatus_eq_added_iff.mp added).2.2
      rw [hasEdge, List.contains_eq_mem, decide_eq_false_iff_not] at fresh
      rw [take, addEdge_of_added added, ← List.concat_eq_append, List.nodup_concat]
      exact ⟨fresh, distinct⟩
    · rw [take, addEdge_of_refused added]
      exact distinct

theorem nodup_edges_built (steps : List (BuildStep α)) : (built steps).edges.Nodup :=
  List.foldlRecOn (motive := fun g : Graph α => g.edges.Nodup) steps Graph.take List.nodup_nil
    fun _ distinct step _ => nodup_edges_take distinct step

/-! ## Counts of edges -/

theorem length_successors (g : Graph α) (node : Nat) :
    (g.successors node).length = (g.edges.map Prod.fst).count node := by
  rw [successors_eq, List.length_filterMap_eq_countP, List.count, List.countP_map]
  refine List.countP_congr fun edge _ => ?_
  by_cases same : edge.1 = node <;> simp [same]

theorem inDegree_eq_count (g : Graph α) (node : Nat) :
    g.inDegree node = (g.edges.map Prod.snd).count node := by
  rw [inDegree, List.count, List.countP_map]
  rfl

/-- The successors of all nodes are as many as the edges. -/
theorem Inside.sum_length_successors (inside : g.Inside) :
    ∑ node ∈ Finset.range g.nodeCount, (g.successors node).length = g.edgeCount := by
  have known : ∀ node ∈ (↑(g.edges.map Prod.fst) : Multiset Nat), node ∈ Finset.range g.nodeCount := by
    simpa using fun source target present => (inside (source, target) present).1
  simpa [length_successors, edgeCount] using Multiset.sum_count_eq_card known

/-- The edges that lead to all nodes are as many as the edges. -/
theorem Inside.sum_inDegree (inside : g.Inside) :
    ∑ node ∈ Finset.range g.nodeCount, g.inDegree node = g.edgeCount := by
  have known : ∀ node ∈ (↑(g.edges.map Prod.snd) : Multiset Nat), node ∈ Finset.range g.nodeCount := by
    simpa using fun target source present => (inside (source, target) present).2
  simpa [inDegree_eq_count, edgeCount] using Multiset.sum_count_eq_card known

theorem nodup_successors (distinct : g.edges.Nodup) (node : Nat) : (g.successors node).Nodup := by
  rw [successors_eq]
  refine distinct.filterMap fun first second child inFirst inSecond => ?_
  rw [Option.mem_def, Option.ite_none_right_eq_some, Option.some.injEq] at inFirst inSecond
  exact Prod.ext (inFirst.1.trans inSecond.1.symm) (inFirst.2.trans inSecond.2.symm)

/-- As many edges lead to a node as there are nodes that have it among their successors. -/
theorem Inside.inDegree_eq_card (inside : g.Inside) (distinct : g.edges.Nodup) (node : Nat) :
    g.inDegree node =
      ((Finset.range g.nodeCount).filter fun source => node ∈ g.successors source).card := by
  -- Edges to one node that differ start from different nodes.
  have sources : ((g.edges.filter fun edge => edge.2 = node).map Prod.fst).Nodup := by
    refine (distinct.filter _).map_on fun first inFirst second inSecond same => ?_
    have atFirst := of_decide_eq_true (List.mem_filter.mp inFirst).2
    have atSecond := of_decide_eq_true (List.mem_filter.mp inSecond).2
    exact Prod.ext same (atFirst.trans atSecond.symm)
  have same : ((g.edges.filter fun edge => edge.2 = node).map Prod.fst).toFinset =
      (Finset.range g.nodeCount).filter fun source => node ∈ g.successors source := by
    ext source
    simp only [List.mem_toFinset, List.mem_map, List.mem_filter, decide_eq_true_eq, Finset.mem_filter,
      Finset.mem_range, mem_successors_iff]
    constructor
    · rintro ⟨edge, ⟨present, rfl⟩, rfl⟩
      exact ⟨(inside edge present).1, present⟩
    · rintro ⟨-, present⟩
      exact ⟨_, ⟨present, rfl⟩, rfl⟩
  rw [← same, List.toFinset_card_of_nodup sources, List.length_map, inDegree, List.countP_eq_length_filter]

/-! ## Graphs that are built -/

/-- The lists and counts of a graph agree: its edges are those of the lists of successors, in which none
is repeated and all are nodes, and they are counted alike by both of their ends. Only an edge that is new
and between nodes is added, and it is all that is changed. -/
structure InStep (g : Graph α) : Prop where
  distinct : ∀ node, (g.successors node).Nodup
  known : ∀ node, ∀ next ∈ g.successors node, next < g.nodeCount
  listed : ∀ source target, g.hasEdge source target ↔ target ∈ g.successors source
  incoming : ∀ node, g.inDegree node =
    ((Finset.range g.nodeCount).filter fun source => node ∈ g.successors source).card
  countedBySource : g.edgeCount = ∑ node ∈ Finset.range g.nodeCount, (g.successors node).length
  countedByTarget : g.edgeCount = ∑ node ∈ Finset.range g.nodeCount, g.inDegree node
  added_iff : ∀ source target, g.edgeStatus source target = .added ↔
    source < g.nodeCount ∧ target < g.nodeCount ∧ g.hasEdge source target = false
  added : ∀ source target, g.edgeStatus source target = .added →
    (g.addEdge source target).labels = g.labels ∧ ∀ first second,
      (g.addEdge source target).hasEdge first second =
        (g.hasEdge first second || decide ((first, second) = (source, target)))
  refused : ∀ source target, g.edgeStatus source target ≠ .added → g.addEdge source target = g
  ascending : g.roots.Pairwise (· < ·)
  roots : ∀ node, node ∈ g.roots ↔ node < g.nodeCount ∧ ∀ source, node ∉ g.successors source

theorem Inside.inStep (inside : g.Inside) (distinct : g.edges.Nodup) : g.InStep where
  distinct := nodup_successors distinct
  known _ _ member := (inside _ (mem_successors_iff.mp member)).2
  listed _ _ := hasEdge_iff
  incoming := inside.inDegree_eq_card distinct
  countedBySource := inside.sum_length_successors.symm
  countedByTarget := inside.sum_inDegree.symm
  added_iff _ _ := edgeStatus_eq_added_iff
  added source target added := ⟨labels_addEdge g source target, hasEdge_addEdge added⟩
  refused _ _ := addEdge_of_refused
  ascending := List.pairwise_lt_range.filter _
  roots _ := mem_roots_iff

/-- In every graph that is built the lists and counts agree, and what is kept node by node and counted
along, step by step, is what the edges of the graph say. -/
theorem inStep_built (steps : List (BuildStep α)) :
    (built steps).InStep ∧ Adjacency.built steps = (built steps).adjacency := by
  have nothing : (empty : Graph α).Inside := fun _ present => absurd present List.not_mem_nil
  exact ⟨(inside_built steps).inStep (nodup_edges_built steps), (nothing.adjacency_foldl steps).symm⟩

end Graph

end BoardBind
