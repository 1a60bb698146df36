import BoardBind.Proofs.Design.Registry
import BoardBind.Proofs.Graph.Walk
import BoardBind.Selection

/-! # The hierarchy that a design resolves to

A design that resolves has a registry with distinct names, and the successors of a unit are its
registered children. Its trees are the preorder listings below the units that are nobody's child,
in the order of the registry; the first of the largest trees gives the suggested top.
-/

namespace BoardBind

/-- The item of a unit that is listed at a depth. -/
def TreeItem.at (entry : Nat × Registered) : TreeItem :=
  ⟨entry.1, entry.2.unit.name, entry.2.unit.file⟩

theorem longest_concat {α : Type} {lists : List (List α)} (nonempty : lists ≠ []) (l : List α) :
    longest (lists ++ [l]) = if (longest lists).length < l.length then l else longest lists := by
  cases lists with
  | nil => exact absurd rfl nonempty
  | cons first rest => exact List.foldl_concat ..

/-- The longest list is longer than all before it and at least as long as all behind it. -/
theorem exists_longest {α : Type} {lists : List (List α)} (nonempty : lists ≠ []) :
    ∃ before after, lists = before ++ longest lists :: after ∧
      (∀ l ∈ before, l.length < (longest lists).length) ∧
      ∀ l ∈ after, l.length ≤ (longest lists).length := by
  induction lists using List.reverseRecOn with
  | nil => exact absurd rfl nonempty
  | append_singleton lists l ih =>
    by_cases empty : lists = []
    · subst empty
      exact ⟨[], [], rfl, by simp, by simp⟩
    · obtain ⟨before, after, parts, shorter, within⟩ := ih empty
      rw [longest_concat empty]
      split_ifs with longer
      · refine ⟨lists, [], rfl, fun other member => ?_, by simp⟩
        rw [parts, List.mem_append, List.mem_cons] at member
        rcases member with earlier | rfl | later
        · exact (shorter other earlier).trans longer
        · exact longer
        · exact (within other later).trans_lt longer
      · refine ⟨before, after ++ [l], ?_, shorter, fun other member => ?_⟩
        · conv_lhs => rw [parts]
          rw [List.append_assoc, List.cons_append]
        · rcases List.mem_append.mp member with later | last
          · exact within other later
          · rw [List.mem_singleton.mp last]
            exact Nat.not_lt.mp longer

namespace UnitGraph

/-- The number of a registered unit. -/
def numberOf (g : UnitGraph) (r : Registered) : Nat :=
  (g.indexOf? r.unit.name).getD 0

/-- What a walk from a registered unit lists, with units in place of their numbers. -/
def listingOf (g : UnitGraph) (r : Registered) : List (Nat × Registered) :=
  (resultOr (g.walk (g.numberOf r))).filterMap fun entry =>
    (g.label? entry.2).map fun last => (entry.1, last)

end UnitGraph

namespace Design

variable {lang : Language} {files : List Declarations} {d : Design} {g : UnitGraph}
  {r : Registered} {i : Nat}

/-- The registered units that are nobody's child, in the order of the registry. -/
def rootsOf (files : List Declarations) : List Registered :=
  (registered files).filter fun r => ∀ parent ∈ registered files, r ∉ childrenOf files parent

/-- A graph of the registered units in which the successors of a unit are its children. -/
structure Represents (files : List Declarations) (g : UnitGraph) : Prop where
  labels : g.labels = registered files
  distinct : g.DistinctNames
  inside : ∀ edge ∈ g.edges, edge.1 < g.nodeCount ∧ edge.2 < g.nodeCount
  successors : ∀ i r, g.label? i = some r →
    (g.successors i).map g.label? = (childrenOf files r).map some

theorem map_eq_map_some_filterMap {α β : Type} {f : α → Option β} {l : List α}
    (defined : ∀ a ∈ l, (f a).isSome) : l.map f = (l.filterMap f).map some := by
  induction l with
  | nil => rfl
  | cons a rest ih =>
    obtain ⟨value, found⟩ := Option.isSome_iff_exists.mp (defined a (List.mem_cons_self ..))
    rw [List.map_cons, List.filterMap_cons_some found, List.map_cons, found,
      ih fun b member => defined b (List.mem_cons_of_mem _ member)]

/-- The graph of a design represents its declarations. -/
theorem represents_of_graphOf (success : graphOf lang files = .ok g) : Represents files g := by
  obtain ⟨registry, registering, rfl⟩ := except_map_eq_ok_iff.mp success
  obtain ⟨labels, noEdges⟩ := UnitGraph.registerAll_eq_ok registering
  have empty : UnitGraph.DistinctNames Graph.empty := List.nodup_nil
  have distinct := UnitGraph.distinctNames_registerAll empty registering
  have sameLabels := UnitGraph.labels_linkAll registry (instancesOf files)
  have sameLabel : (registry.linkAll (instancesOf files)).label? = registry.label? := by
    funext node
    rw [Graph.label?, sameLabels, Graph.label?]
  have inside : ∀ edge ∈ (registry.linkAll (instancesOf files)).edges,
      edge.1 < registry.nodeCount ∧ edge.2 < registry.nodeCount :=
    fun edge present => UnitGraph.mem_edges_linkAll noEdges present
  refine ⟨sameLabels.trans labels, ?_, ?_, ?_⟩
  · rw [UnitGraph.DistinctNames]
    exact sameLabels ▸ distinct
  · rw [Graph.nodeCount]
    exact sameLabels ▸ inside
  · intro i r labelled
    change ((registry.linkAll (instancesOf files)).successors i).map
      (registry.linkAll (instancesOf files)).label? = _
    change (registry.linkAll (instancesOf files)).label? i = some r at labelled
    rw [sameLabel] at labelled ⊢
    rw [map_eq_map_some_filterMap, UnitGraph.label?_successors_linkAll distinct noEdges _ labelled]
    · simp only [childrenOf, UnitGraph.find?, labels]
      rfl
    · intro child member
      have bound := (inside _ (Graph.mem_successors_iff.mp member)).2
      exact Option.isSome_iff_exists.mpr ⟨_, List.getElem?_eq_getElem bound⟩

namespace Represents

theorem label?_eq (represents : Represents files g) (i : Nat) :
    g.label? i = (registered files)[i]? := by
  rw [Graph.label?, represents.labels]

/-- The registered units are numbered in their order. -/
theorem exists_label? (represents : Represents files g) :
    r ∈ registered files ↔ ∃ i, g.label? i = some r := by
  simp only [represents.label?_eq, List.mem_iff_getElem?]

/-- Looking a name up finds the one registered unit of that name. -/
theorem find?_eq_some_iff (represents : Represents files g) {name : String} :
    (registered files).find? (fun s => s.unit.name = name) = some r ↔
      r ∈ registered files ∧ r.unit.name = name := by
  constructor
  · intro found
    exact ⟨List.mem_of_find?_eq_some found, by simpa using List.find?_some found⟩
  · rintro ⟨member, named⟩
    obtain ⟨i, labelled⟩ := represents.exists_label?.mp member
    have atName : g.find? name = some r := by
      rw [UnitGraph.find?_eq,
        (UnitGraph.indexOf?_eq_some_iff represents.distinct).mpr ⟨r, labelled, named⟩]
      exact labelled
    rwa [UnitGraph.find?, represents.labels] at atName

theorem eq_of_name_eq (represents : Represents files g) {s : Registered}
    (first : r ∈ registered files) (second : s ∈ registered files)
    (same : r.unit.name = s.unit.name) : r = s :=
  Option.some.inj ((represents.find?_eq_some_iff.mpr ⟨first, same⟩).symm.trans
    (represents.find?_eq_some_iff.mpr ⟨second, rfl⟩))

/-- Every successor stands for a child, and every child is the label of a successor. -/
theorem mem_childrenOf_iff (represents : Represents files g) (labelled : g.label? i = some r)
    {child : Registered} :
    child ∈ childrenOf files r ↔ ∃ j ∈ g.successors i, g.label? j = some child := by
  have same := represents.successors i r labelled
  rw [← List.mem_map (f := g.label?), same, List.mem_map]
  simp only [Option.some.injEq, exists_eq_right]

theorem mem_roots_iff (represents : Represents files g) (labelled : g.label? i = some r) :
    i ∈ g.roots ↔ r ∈ rootsOf files := by
  have bound : i < g.nodeCount := (List.getElem?_eq_some_iff.mp labelled).1
  have member : r ∈ registered files := represents.exists_label?.mpr ⟨i, labelled⟩
  rw [Graph.mem_roots_iff, rootsOf, List.mem_filter, decide_eq_true_eq]
  constructor
  · rintro ⟨-, orphan⟩
    refine ⟨member, fun parent present child => ?_⟩
    obtain ⟨source, atSource⟩ := represents.exists_label?.mp present
    obtain ⟨j, successor, atJ⟩ := (represents.mem_childrenOf_iff atSource).mp child
    exact orphan source (UnitGraph.label?_inj represents.distinct atJ labelled ▸ successor)
  · rintro ⟨-, orphan⟩
    refine ⟨bound, fun source successor => ?_⟩
    have inside := (represents.inside _ (Graph.mem_successors_iff.mp successor)).1
    have atSource : g.label? source = some g.labels[source] := List.getElem?_eq_getElem inside
    exact orphan _ (represents.exists_label?.mpr ⟨source, atSource⟩)
      ((represents.mem_childrenOf_iff atSource).mpr ⟨i, successor, labelled⟩)

/-- The roots of the graph are the units that are nobody's child, in the same order. -/
theorem map_label?_roots (represents : Represents files g) :
    g.roots.map g.label? = (rootsOf files).map some := by
  have all : (List.range g.nodeCount).map g.label? = (registered files).map some := by
    rw [← represents.labels]
    exact List.ext_getElem (by simp [Graph.nodeCount]) fun i _ _ => by
      simp [Graph.label?]
  have chosen : g.roots = (List.range g.nodeCount).filter
      ((fun r : Option Registered => r.any (· ∈ rootsOf files)) ∘ g.label?) := by
    refine List.filter_congr fun i present => ?_
    have labelled : g.label? i = some _ := List.getElem?_eq_getElem (List.mem_range.mp present)
    have root := represents.mem_roots_iff labelled
    rw [Graph.roots, List.mem_filter, and_iff_right present] at root
    rw [Function.comp_apply, labelled, Option.any_some]
    exact Bool.eq_iff_iff.mpr (root.trans decide_eq_true_iff.symm)
  rw [chosen, ← List.filter_map, all, List.filter_map]
  refine congrArg _ (List.filter_congr fun r present => ?_)
  rw [Function.comp_apply, Option.any_some, rootsOf]
  simp only [List.mem_filter, present, true_and, decide_eq_true_eq]

theorem numberOf_eq (represents : Represents files g) (labelled : g.label? i = some r) :
    g.numberOf r = i := by
  rw [UnitGraph.numberOf,
    (UnitGraph.indexOf?_eq_some_iff represents.distinct).mpr ⟨r, labelled, rfl⟩, Option.getD_some]

theorem label?_numberOf (represents : Represents files g) (member : r ∈ registered files) :
    g.label? (g.numberOf r) = some r := by
  obtain ⟨i, labelled⟩ := represents.exists_label?.mp member
  rw [represents.numberOf_eq labelled, labelled]

theorem roots_eq (represents : Represents files g) : g.roots = (rootsOf files).map g.numberOf := by
  have numbers := congrArg (List.map fun label : Option Registered => label.elim 0 g.numberOf)
    represents.map_label?_roots
  rw [List.map_map, List.map_map] at numbers
  refine Eq.trans ?_ numbers
  conv_lhs => rw [← List.map_id g.roots]
  refine List.map_congr_left fun i root => ?_
  have labelled : g.label? i = some _ :=
    List.getElem?_eq_getElem (Graph.mem_roots_iff.mp root).1
  rw [Function.comp_apply, labelled, Option.elim_some, represents.numberOf_eq labelled, id]

/-- If all walks from the roots succeed, then the trees are the listings below the units that are
nobody's child. -/
theorem trees_eq_ok (represents : Represents files g) {trees : List (List TreeItem)}
    (success : g.trees lang = .ok trees) :
    (∀ root ∈ rootsOf files, PreorderListing (childrenOf files) root (g.listingOf root)) ∧
      trees = (rootsOf files).map fun root => (g.listingOf root).map TreeItem.at := by
  obtain ⟨walks, rfl⟩ := of_mapM_eq_ok success
  have walked : ∀ root ∈ rootsOf files, ∃ walk, g.walk (g.numberOf root) = .ok walk := by
    intro root member
    have succeeds := walks (g.numberOf root) (represents.roots_eq ▸ List.mem_map_of_mem member)
    cases outcome : g.walk (g.numberOf root) with
    | ok walk => exact ⟨walk, rfl⟩
    | error node => rw [outcome] at succeeds; cases succeeds
  constructor
  · intro root member
    obtain ⟨walk, succeeds⟩ := walked root member
    have labelled := represents.label?_numberOf (List.mem_filter.mp member).1
    rw [UnitGraph.listingOf, succeeds]
    exact (Graph.preorderListing_of_walkFrom succeeds).relabel represents.successors labelled
  · rw [represents.roots_eq, List.map_map]
    refine List.map_congr_left fun root member => ?_
    obtain ⟨walk, succeeds⟩ := walked root member
    rw [Function.comp_apply, succeeds, UnitGraph.listingOf, succeeds]
    change walk.filterMap _ = List.map _ (walk.filterMap _)
    rw [List.map_filterMap]
    refine List.filterMap_congr fun entry _ => ?_
    rw [Option.map_map]
    rfl

end Represents

/-- A design that resolves is made of a graph that represents its declarations and of the trees
below at least one root. -/
theorem resolve_eq_ok (success : resolve lang files = .ok d) :
    ∃ trees, Represents files d.graph ∧ d.graph.trees lang = .ok trees ∧ rootsOf files ≠ [] ∧
      d = ⟨lang, d.graph, trees.flatten, ((longest trees).head?.map (·.name)).getD ""⟩ := by
  obtain ⟨g, graph, success⟩ := except_bind_eq_ok_iff.mp success
  have represents := represents_of_graphOf graph
  rw [ofGraph] at success
  split_ifs at success with noUnit noRoot
  obtain ⟨trees, walked, rfl⟩ := except_map_eq_ok_iff.mp success
  refine ⟨trees, represents, walked, fun none => noRoot ?_, rfl⟩
  rw [represents.roots_eq, none, List.map_nil]

end Design

end BoardBind
