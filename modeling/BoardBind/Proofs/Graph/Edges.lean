import Mathlib.Data.List.Induction
import Mathlib.Tactic.Common
import BoardBind.Graph

/-! # Edges in the order of their first appearance

Adding edges one after the other keeps each of them once, where it appeared first. Choosing the
edges from one node keeps that order, so the successors of a node are the distinct targets of its
edges in the order in which they came.
-/

namespace BoardBind

section eraseDups

variable {α β : Type} [BEq α] [LawfulBEq α] [BEq β] [LawfulBEq β]

theorem eraseDups_concat (l : List α) (a : α) [Decidable (a ∈ l)] :
    (l ++ [a]).eraseDups = if a ∈ l then l.eraseDups else l.eraseDups ++ [a] := by
  rw [List.eraseDups_append]
  split_ifs with present <;> simp [List.removeAll, List.eraseDups_cons, present]

/-- Taking values that determine their origin commutes with dropping repetitions. -/
theorem filterMap_eraseDups {f : α → Option β}
    (determined : ∀ a b value, f a = some value → f b = some value → a = b) (l : List α) :
    l.eraseDups.filterMap f = (l.filterMap f).eraseDups := by
  classical
  induction l using List.reverseRecOn with
  | nil => rfl
  | append_singleton l a ih =>
    rw [eraseDups_concat, List.filterMap_append]
    cases value : f a with
    | none =>
      have nothing : [a].filterMap f = [] := by rw [List.filterMap_cons_none value]; rfl
      rw [nothing, List.append_nil, ← ih]
      split_ifs
      · rfl
      · rw [List.filterMap_append, nothing, List.append_nil]
    | some b =>
      have one : [a].filterMap f = [b] := by rw [List.filterMap_cons_some value]; rfl
      have same : b ∈ l.filterMap f ↔ a ∈ l := by
        rw [List.mem_filterMap]
        constructor
        · rintro ⟨other, present, found⟩
          exact determined other a b found value ▸ present
        · intro present
          exact ⟨a, present, value⟩
      rw [one, eraseDups_concat]
      simp only [same]
      split_ifs
      · exact ih
      · rw [List.filterMap_append, one, ih]

end eraseDups

namespace Graph

variable {α : Type} {g : Graph α} {source target : Nat}

@[simp] theorem labels_addEdge (g : Graph α) (source target : Nat) :
    (g.addEdge source target).labels = g.labels := by
  unfold addEdge
  split <;> rfl

@[simp] theorem nodeCount_addNode (g : Graph α) (label : α) :
    (g.addNode label).nodeCount = g.nodeCount + 1 := by
  simp [nodeCount, addNode]

@[simp] theorem nodeCount_addEdge (g : Graph α) (source target : Nat) :
    (g.addEdge source target).nodeCount = g.nodeCount := by
  rw [nodeCount, labels_addEdge, nodeCount]

/-- An edge between nodes is added unless it is there already. -/
theorem edges_addEdge (inSource : source < g.nodeCount) (inTarget : target < g.nodeCount) :
    (g.addEdge source target).edges =
      if (source, target) ∈ g.edges then g.edges else g.edges ++ [(source, target)] := by
  have status : g.edgeStatus source target =
      if (source, target) ∈ g.edges then .repeated else .added := by
    rw [edgeStatus, if_neg (Nat.not_le.mpr inSource), if_neg (Nat.not_le.mpr inTarget), hasEdge]
    simp only [List.contains_iff_mem]
  rw [addEdge, status]
  split_ifs <;> rfl

theorem addEdge_of_missing (missing : ¬ (source < g.nodeCount ∧ target < g.nodeCount)) :
    g.addEdge source target = g := by
  rw [not_and_or, Nat.not_lt, Nat.not_lt] at missing
  rw [addEdge, edgeStatus]
  split_ifs with noSource noTarget
  · rfl
  · rfl
  · exact absurd missing (not_or.mpr ⟨noSource, noTarget⟩)
  · exact absurd missing (not_or.mpr ⟨noSource, noTarget⟩)

theorem successors_eq (g : Graph α) (source : Nat) : g.successors source =
    g.edges.filterMap fun edge => if edge.1 = source then some edge.2 else none := rfl

theorem mem_successors_iff {child : Nat} : child ∈ g.successors source ↔ (source, child) ∈ g.edges := by
  rw [successors_eq, List.mem_filterMap]
  constructor
  · rintro ⟨edge, present, chosen⟩
    split_ifs at chosen with same
    obtain rfl := Option.some.inj chosen
    exact same ▸ present
  · intro present
    exact ⟨_, present, if_pos rfl⟩

/-- A node is a root if it is the successor of no node. -/
theorem mem_roots_iff : target ∈ g.roots ↔
    target < g.nodeCount ∧ ∀ source, target ∉ g.successors source := by
  rw [roots, List.mem_filter, List.mem_range, decide_eq_true_eq, inDegree, List.countP_eq_zero]
  refine and_congr_right fun _ => ⟨fun none source member => ?_, fun none edge present => ?_⟩
  · exact none _ (mem_successors_iff.mp member) (decide_eq_true rfl)
  · intro same
    exact none edge.1 (mem_successors_iff.mpr (of_decide_eq_true same ▸ present))

end Graph

end BoardBind
