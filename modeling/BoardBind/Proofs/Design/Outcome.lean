import BoardBind.Proofs.Design.Cycle

/-! # Which sources make a design

Units are registered unless one with ports has taken the name of a later one. Units that are
registered make a design if there is a root among them and no cycle below any root. Without a cycle
there is a root for every unit, so only sources with a cycle are refused as circular.
-/

namespace BoardBind.Design

variable {lang : Language} {files : List Declarations} {d : Design} {g : UnitGraph}
  {root r s : Registered} {i j : Nat} {cause : DesignError} {term : String}

/-- Every unit that is declared in front of another one of its name has no ports. -/
def Registrable (files : List Declarations) : Prop :=
  (files.flatMap declared).Pairwise fun earlier later =>
    earlier.unit.name = later.unit.name → earlier.ports = []

/-- A registered unit that no unit instantiates. -/
def IsRoot (files : List Declarations) (root : Registered) : Prop :=
  root ∈ registered files ∧ ∀ parent, ¬ Instantiates files parent root

/-- There is a root, and no cycle below any root. -/
def Arranged (files : List Declarations) : Prop :=
  (∃ root, IsRoot files root) ∧ ∀ root, IsRoot files root →
    ∀ r, Relation.ReflTransGen (Instantiates files) root r →
      ¬ Relation.TransGen (Instantiates files) r r

theorem mem_registered_of_transGen (steps : Relation.TransGen (Instantiates files) r s) :
    r ∈ registered files := by
  obtain ⟨_, edge, _⟩ := Relation.TransGen.head'_iff.mp steps
  exact edge.1

/-- Without a cycle there is a root, and nothing to forbid below it. -/
theorem arranged_of_acyclic (nonempty : registered files ≠ []) (acyclic : Acyclic files) :
    Arranged files := by
  obtain ⟨r, member⟩ := List.exists_mem_of_ne_nil _ nonempty
  obtain ⟨root, known, orphan, -⟩ := rooted_of_acyclic acyclic r member
  exact ⟨⟨root, known, orphan⟩, fun _ _ r _ => acyclic r⟩

namespace Represents

/-- A step between numbers is an instance of one unit in the other. -/
theorem instantiates_of_isChild (represents : Represents files g) (labelled : g.label? i = some r)
    (step : IsChild g.successors i j) : ∃ s, g.label? j = some s ∧ Instantiates files r s := by
  have bound := (represents.inside _ (Graph.mem_successors_iff.mp step)).2
  have labelledChild : g.label? j = some g.labels[j] := List.getElem?_eq_getElem bound
  refine ⟨_, labelledChild, represents.instantiates_iff.mpr ⟨?_, ?_⟩⟩
  · exact represents.exists_label?.mpr ⟨i, labelled⟩
  · exact (represents.mem_childrenOf_iff labelled).mpr ⟨j, step, labelledChild⟩

theorem reflTransGen_of_isChild (represents : Represents files g) (labelled : g.label? i = some r)
    (steps : Relation.ReflTransGen (IsChild g.successors) i j) :
    ∃ s, g.label? j = some s ∧ Relation.ReflTransGen (Instantiates files) r s := by
  induction steps with
  | refl => exact ⟨r, labelled, .refl⟩
  | tail _ step ih =>
    obtain ⟨s, labelledMiddle, reached⟩ := ih
    obtain ⟨t, labelledLast, edge⟩ := represents.instantiates_of_isChild labelledMiddle step
    exact ⟨t, labelledLast, reached.tail edge⟩

theorem transGen_of_isChild (represents : Represents files g) (labelled : g.label? i = some r)
    (steps : Relation.TransGen (IsChild g.successors) i j) :
    ∃ s, g.label? j = some s ∧ Relation.TransGen (Instantiates files) r s := by
  obtain ⟨middle, reached, step⟩ := Relation.TransGen.tail'_iff.mp steps
  obtain ⟨s, labelledMiddle, reached⟩ := represents.reflTransGen_of_isChild labelled reached
  obtain ⟨t, labelledLast, edge⟩ := represents.instantiates_of_isChild labelledMiddle step
  exact ⟨t, labelledLast, .tail' reached edge⟩

/-- The trees of a graph are listed if no cycle is below a root. -/
theorem exists_trees_eq_ok (represents : Represents files g) (lang : Language)
    (acyclic : ∀ root, IsRoot files root → ∀ r, Relation.ReflTransGen (Instantiates files) root r →
      ¬ Relation.TransGen (Instantiates files) r r) : ∃ trees, g.trees lang = .ok trees := by
  cases outcome : g.trees lang with
  | ok trees => exact ⟨trees, rfl⟩
  | error cause =>
    obtain ⟨i, member, failed⟩ := exists_of_mapM_eq_error outcome
    have bound := (Graph.mem_roots_iff.mp member).1
    have labelled : g.label? i = some g.labels[i] := List.getElem?_eq_getElem bound
    have isRoot := represents.mem_rootsOf_iff.mp ((represents.mem_roots_iff labelled).mp member)
    obtain ⟨listing, walked⟩ := (Graph.exists_walk_eq_ok_iff
      (fun edge present => (represents.inside edge present).2) bound).mpr fun last reached cycle => by
        obtain ⟨s, labelledLast, reached⟩ := represents.reflTransGen_of_isChild labelled reached
        obtain ⟨t, labelledAgain, cycle⟩ := represents.transGen_of_isChild labelledLast cycle
        obtain rfl := Option.some.inj (labelledLast.symm.trans labelledAgain)
        exact acyclic _ isRoot s reached cycle
    rw [walked] at failed
    cases failed

/-- Registered units make a design exactly if there is a root and no cycle below any root. -/
theorem exists_ofGraph_eq_ok_iff (represents : Represents files g) (lang : Language) :
    (∃ d, ofGraph lang g = .ok d) ↔ Arranged files := by
  have roots : g.roots = [] ↔ rootsOf files = [] := by
    rw [represents.roots_eq, List.map_eq_nil_iff]
  constructor
  · rintro ⟨d, success⟩
    rw [ofGraph] at success
    split_ifs at success with noUnit noRoot
    obtain ⟨trees, walked, -⟩ := except_map_eq_ok_iff.mp success
    obtain ⟨preorders, -⟩ := represents.trees_eq_ok walked
    obtain ⟨root, member⟩ := List.exists_mem_of_ne_nil _ (mt roots.mpr noRoot)
    refine ⟨⟨root, represents.mem_rootsOf_iff.mp member⟩, fun root isRoot r reached cycle => ?_⟩
    exact (preorders root (represents.mem_rootsOf_iff.mpr isRoot)).not_cycle
      ((represents.reflTransGen_iff isRoot.1).mp reached) (represents.transGen_isChild cycle)
  · rintro ⟨⟨root, isRoot⟩, acyclic⟩
    obtain ⟨trees, walked⟩ := represents.exists_trees_eq_ok lang acyclic
    have someRoot : g.roots ≠ [] :=
      fun none => List.ne_nil_of_mem (represents.mem_rootsOf_iff.mpr isRoot) (roots.mp none)
    have someUnit : g.nodeCount ≠ 0 := by
      rw [Graph.nodeCount, represents.labels]
      exact fun none => List.ne_nil_of_mem isRoot.1 (List.eq_nil_of_length_eq_zero none)
    exact ⟨_, by rw [ofGraph, if_neg someUnit, if_neg someRoot, walked]; rfl⟩

end Represents

/-- The units of files are registered exactly if those in front of others of their name have no ports. -/
theorem exists_graphOf_eq_ok_iff : (∃ g, graphOf lang files = .ok g) ↔ Registrable files := by
  have registers : (∃ g, graphOf lang files = .ok g) ↔
      ∃ g, UnitGraph.registerAll lang (files.flatMap declared) Graph.empty = .ok g := by
    simp only [graphOf, except_map_eq_ok_iff]
    constructor
    · rintro ⟨_, g, success, -⟩
      exact ⟨g, success⟩
    · rintro ⟨g, success⟩
      exact ⟨_, g, success, rfl⟩
  rw [registers, UnitGraph.exists_registerAll_eq_ok_iff]
  exact and_iff_right fun _ _ _ known => absurd known List.not_mem_nil

/-- Files make a design exactly if their units can be registered and are arranged below roots. -/
theorem exists_resolve_eq_ok_iff :
    (∃ d, resolve lang files = .ok d) ↔ Registrable files ∧ Arranged files := by
  simp only [resolve, except_bind_eq_ok_iff]
  constructor
  · rintro ⟨d, g, graph, success⟩
    exact ⟨exists_graphOf_eq_ok_iff.mp ⟨g, graph⟩,
      ((represents_of_graphOf graph).exists_ofGraph_eq_ok_iff lang).mp ⟨d, success⟩⟩
  · rintro ⟨registrable, arranged⟩
    obtain ⟨g, graph⟩ := exists_graphOf_eq_ok_iff.mpr registrable
    obtain ⟨d, success⟩ := ((represents_of_graphOf graph).exists_ofGraph_eq_ok_iff lang).mpr arranged
    exact ⟨d, g, graph, success⟩

/-- The units of a graph that makes no design are none at all, or are refused as circular. -/
theorem ofGraph_eq_error (failure : ofGraph lang g = .error cause) :
    cause = if g.nodeCount = 0 then .noUnit lang.unitTerm else .circular lang.unitTerm := by
  rw [ofGraph] at failure
  split_ifs at failure with noUnit noRoot
  · rw [if_pos noUnit, Except.error.inj failure]
  · rw [if_neg noUnit, Except.error.inj failure]
  · obtain ⟨root, -, failed⟩ := exists_of_mapM_eq_error (except_map_eq_error_iff.mp failure)
    split at failed
    · cases failed
    · rw [if_neg noUnit, Except.error.inj failed]

/-- Files are refused as circular exactly if they have units that can be registered and that are
not arranged below roots. -/
theorem resolve_eq_circular_iff : resolve lang files = .error (.circular term) ↔
    term = lang.unitTerm ∧ Registrable files ∧ registered files ≠ [] ∧ ¬ Arranged files := by
  cases graph : graphOf lang files with
  | error cause =>
    obtain ⟨_, rfl⟩ := UnitGraph.registerAll_eq_error (except_map_eq_error_iff.mp graph)
    rw [resolve, graph]
    constructor
    · intro refused
      cases refused
    · rintro ⟨-, registrable, -⟩
      obtain ⟨g, success⟩ := exists_graphOf_eq_ok_iff.mpr registrable
      cases graph.symm.trans success
  | ok g =>
    have represents := represents_of_graphOf graph
    have units : g.nodeCount ≠ 0 ↔ registered files ≠ [] := by
      rw [Graph.nodeCount, represents.labels, ne_eq, List.length_eq_zero_iff]
    rw [and_iff_right (exists_graphOf_eq_ok_iff.mp ⟨g, graph⟩), resolve, graph,
      ← represents.exists_ofGraph_eq_ok_iff lang, not_exists, ← units]
    change ofGraph lang g = _ ↔ _
    cases outcome : ofGraph lang g with
    | ok d =>
      constructor
      · intro refused
        cases refused
      · rintro ⟨-, -, refused⟩
        exact absurd rfl (refused d)
    | error cause =>
      have reason := ofGraph_eq_error outcome
      constructor
      · intro refused
        obtain rfl := Except.error.inj refused
        split_ifs at reason with noUnit
        exact ⟨DesignError.circular.inj reason, noUnit, fun d success => by cases success⟩
      · rintro ⟨rfl, someUnit, -⟩
        rw [reason, if_neg someUnit]

/-- Sources that are refused as circular have a registered unit that contains itself. -/
theorem exists_cycle_of_circular (refused : resolve lang files = .error (.circular term)) :
    ∃ r ∈ registered files, Relation.TransGen (Instantiates files) r r := by
  obtain ⟨-, -, nonempty, notArranged⟩ := resolve_eq_circular_iff.mp refused
  have cyclic : ¬ Acyclic files := mt (arranged_of_acyclic nonempty) notArranged
  obtain ⟨r, cycle⟩ := not_forall_not.mp cyclic
  exact ⟨r, mem_registered_of_transGen cycle, cycle⟩

/-- Below a root, a unit that contains a unit which contains it again. -/
def loop : List Declarations :=
  [{ units := ["root", "outer", "inner"].map fun name => .declare .verilog name "loop.sv"
     ports := ["root", "outer", "inner"].map fun name => (name, .declare .verilog "x" .input none)
     instances := [⟨"outer", "root"⟩, ⟨"inner", "outer"⟩, ⟨"outer", "inner"⟩] }]

/-- The loop is refused, and one of its units does contain itself. -/
theorem loop_refused : resolve .verilog loop = .error (.circular "module") ∧
    ∃ r ∈ registered loop, Relation.TransGen (Instantiates loop) r r := by
  have refused : resolve .verilog loop = .error (.circular "module") := by cbv
  exact ⟨refused, exists_cycle_of_circular refused⟩

end BoardBind.Design
