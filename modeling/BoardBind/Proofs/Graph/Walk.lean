import BoardBind.Graph
import BoardBind.Proofs.Except
import BoardBind.Proofs.Graph.Edges
import BoardBind.Proofs.Graph.Path

/-! # Walks of a graph

A walk that comes to an end lists every path from its root in preorder. The nodes that are still
free only shrink on the way down, so the walk of a node below is itself a walk that came to an end.
A node that is not free stands above the present one, so the node that stops a walk is on a cycle.

The free nodes are those off the current path, so a walk is the recursion that carries the path along,
and as they are finitely many, the recursion comes to an end. In a graph that was built step by step all
edges lead to nodes, and the successors of a node stand in the order in which their edges were inserted.
-/

namespace BoardBind.Graph

variable {α : Type} {g : Graph α} {free path nodes : List Nat} {node root source target : Nat}
  {listing : List (Nat × Nat)}

/-- A walk that succeeds started at a free node and is made of the walks of its successors. -/
theorem of_walkFrom_eq_ok (walked : g.walkFrom free node = .ok listing) :
    node ∈ free ∧
      (∀ child ∈ g.successors node, g.walkFrom (free.erase node) child =
        .ok (resultOr (g.walkFrom (free.erase node) child))) ∧
      listing = (0, node) :: ((g.successors node).flatMap fun child =>
        resultOr (g.walkFrom (free.erase node) child)).map fun entry => (entry.1 + 1, entry.2) := by
  rw [walkFrom] at walked
  split_ifs at walked with member
  obtain ⟨subtrees, traversed, rfl⟩ := except_map_eq_ok_iff.mp walked
  obtain ⟨children, rfl⟩ := of_mapM_eq_ok traversed
  exact ⟨member, children, by rw [List.flatMap_def]⟩

/-- A walk that succeeds lists every path from its node in preorder. -/
theorem preorderListing_of_walkFrom (walked : g.walkFrom free node = .ok listing) :
    PreorderListing g.successors node listing := by
  induction free, node using walkFrom.induct generalizing listing with
  | case1 free node member shorter ih =>
    obtain ⟨-, children, rfl⟩ := of_walkFrom_eq_ok walked
    exact .intro _ fun child present => ih child (children child present)
  | case2 free node taken => exact absurd (of_walkFrom_eq_ok walked).1 taken

/-- A walk is stopped by a node on a cycle, if all nodes that are not free stand above its start. -/
theorem cycle_of_walkFrom_eq_error {last : Nat} (inside : ∀ edge ∈ g.edges, edge.2 < g.nodeCount)
    (above : ∀ other < g.nodeCount, other ∉ free →
      Relation.TransGen (IsChild g.successors) other node)
    (bound : node < g.nodeCount) (stopped : g.walkFrom free node = .error last) :
    Relation.ReflTransGen (IsChild g.successors) node last ∧
      Relation.TransGen (IsChild g.successors) last last := by
  induction free, node using walkFrom.induct with
  | case1 free node member shorter ih =>
    rw [walkFrom, dif_pos member] at stopped
    obtain ⟨child, present, stopped⟩ :=
      exists_of_mapM_eq_error (except_map_eq_error_iff.mp stopped)
    have nowAbove : ∀ other < g.nodeCount, other ∉ free.erase node →
        Relation.TransGen (IsChild g.successors) other child := by
      intro other known taken
      by_cases same : other = node
      · exact same ▸ .single present
      · exact (above other known fun free => taken ((List.mem_erase_of_ne same).mpr free)).tail present
    obtain ⟨reached, cycle⟩ := ih child nowAbove
      (inside _ (mem_successors_iff.mp present)) stopped
    exact ⟨.head present reached, cycle⟩
  | case2 free node taken =>
    rw [walkFrom, dif_neg taken] at stopped
    obtain rfl := Except.error.inj stopped
    exact ⟨.refl, above _ bound taken⟩

/-- A walk comes to an end exactly if no cycle is reached from its root. -/
theorem exists_walk_eq_ok_iff (inside : ∀ edge ∈ g.edges, edge.2 < g.nodeCount)
    (bound : root < g.nodeCount) :
    (∃ listing, g.walk root = .ok listing) ↔
      ∀ last, Relation.ReflTransGen (IsChild g.successors) root last →
        ¬ Relation.TransGen (IsChild g.successors) last last := by
  constructor
  · rintro ⟨listing, walked⟩ last reached
    exact (preorderListing_of_walkFrom walked).not_cycle reached
  · intro acyclic
    cases outcome : g.walk root with
    | ok listing => exact ⟨listing, rfl⟩
    | error last =>
      have above : ∀ other < g.nodeCount, other ∉ List.range g.nodeCount →
          Relation.TransGen (IsChild g.successors) other root :=
        fun other known taken => absurd (List.mem_range.mpr known) taken
      obtain ⟨reached, cycle⟩ := cycle_of_walkFrom_eq_error inside above bound outcome
      exact absurd cycle (acyclic last reached)

/-! ## The recursion over a path -/

/-- How a walk through nodes that stand beside each other comes to an end, when a path leads to them:
with what is listed below them, or with the first node that is met again on its own path. -/
inductive Descends (children : Nat → List Nat) :
    List Nat → List Nat → Except Nat (List (Nat × Nat)) → Prop
  | done {path : List Nat} : Descends children path [] (.ok [])
  | again {path rest : List Nat} {node : Nat} (onPath : node ∈ path) :
      Descends children path (node :: rest) (.error node)
  | stopped {path rest : List Nat} {node last : Nat} (fresh : node ∉ path)
      (below : Descends children (node :: path) (children node) (.error last)) :
      Descends children path (node :: rest) (.error last)
  | passed {path rest : List Nat} {node last : Nat} {inner : List (Nat × Nat)} (fresh : node ∉ path)
      (below : Descends children (node :: path) (children node) (.ok inner))
      (behind : Descends children path rest (.error last)) :
      Descends children path (node :: rest) (.error last)
  | listed {path rest : List Nat} {node : Nat} {inner later : List (Nat × Nat)} (fresh : node ∉ path)
      (below : Descends children (node :: path) (children node) (.ok inner))
      (behind : Descends children path rest (.ok later)) :
      Descends children path (node :: rest)
        (.ok ((0, node) :: inner.map (fun entry => (entry.1 + 1, entry.2)) ++ later))

/-- The recursion comes to no more than one end. -/
theorem Descends.unique {children : Nat → List Nat} {first second : Except Nat (List (Nat × Nat))}
    (descends : Descends children path nodes first) (other : Descends children path nodes second) :
    first = second := by
  induction descends generalizing second with
  | done => cases other; rfl
  | again onPath =>
    cases other with
    | again => rfl
    | stopped fresh => exact absurd onPath fresh
    | passed fresh => exact absurd onPath fresh
    | listed fresh => exact absurd onPath fresh
  | stopped fresh _ ihBelow =>
    cases other with
    | again onPath => exact absurd onPath fresh
    | stopped _ below => exact ihBelow below
    | passed _ below => cases ihBelow below
    | listed _ below => cases ihBelow below
  | passed fresh _ _ ihBelow ihBehind =>
    cases other with
    | again onPath => exact absurd onPath fresh
    | stopped _ below => cases ihBelow below
    | passed _ _ behind => exact ihBehind behind
    | listed _ _ behind => cases ihBehind behind
  | listed fresh _ _ ihBelow ihBehind =>
    cases other with
    | again onPath => exact absurd onPath fresh
    | stopped _ below => cases ihBelow below
    | passed _ _ behind => cases ihBehind behind
    | listed _ below behind =>
      rw [Except.ok.inj (ihBelow below), Except.ok.inj (ihBehind behind)]

/-- Walking with the free nodes is the recursion over a path, if the free nodes are those off the path. -/
theorem descends_mapM_walkFrom (inside : ∀ edge ∈ g.edges, edge.2 < g.nodeCount)
    (distinct : free.Nodup) (off : ∀ other < g.nodeCount, other ∈ free ↔ other ∉ path)
    (known : ∀ node ∈ nodes, node < g.nodeCount) :
    Descends g.successors path nodes ((nodes.mapM (g.walkFrom free)).map List.flatten) := by
  induction count : free.length using Nat.strongRecOn generalizing free path nodes with
  | ind size ih =>
    induction nodes with
    | nil => exact .done
    | cons node rest ihRest =>
      rw [List.forall_mem_cons] at known
      have behind := ihRest known.2
      rw [List.mapM_cons, walkFrom]
      split_ifs with member
      · have fresh : node ∉ path := (off node known.1).mp member
        have shorter : (free.erase node).length < size := by
          have positive := List.length_pos_of_mem member
          rw [List.length_erase_of_mem member]
          omega
        have offNow : ∀ other < g.nodeCount, other ∈ free.erase node ↔ other ∉ node :: path := by
          intro other bound
          rw [distinct.mem_erase_iff, off other bound, List.mem_cons, not_or]
        have children : ∀ child ∈ g.successors node, child < g.nodeCount :=
          fun child present => inside _ (mem_successors_iff.mp present)
        have below := ih _ shorter (distinct.erase node) offNow children rfl
        cases traversed : (g.successors node).mapM (g.walkFrom (free.erase node)) with
        | error last =>
          rw [traversed] at below
          exact .stopped fresh below
        | ok subtrees =>
          rw [traversed] at below
          cases others : rest.mapM (g.walkFrom free) with
          | error last =>
            rw [others] at behind
            exact .passed fresh below behind
          | ok more =>
            rw [others] at behind
            exact .listed fresh below behind
      · have onPath : node ∈ path := by
          by_contra fresh
          exact member ((off node known.1).mpr fresh)
        exact .again onPath

/-- The walk from a root is the recursion from it, with nothing on the path yet. -/
theorem descends_walk (inside : ∀ edge ∈ g.edges, edge.2 < g.nodeCount) (bound : root < g.nodeCount) :
    Descends g.successors [] [root] (g.walk root) := by
  have off : ∀ other < g.nodeCount, other ∈ List.range g.nodeCount ↔ other ∉ ([] : List Nat) := by
    intro other known
    simp [known]
  have descends := descends_mapM_walkFrom inside List.nodup_range off
    (List.forall_mem_singleton.mpr bound)
  rw [List.mapM_cons, List.mapM_nil] at descends
  unfold walk
  cases outcome : g.walkFrom (List.range g.nodeCount) root with
  | error last =>
    rw [outcome] at descends
    exact descends
  | ok listing =>
    rw [outcome] at descends
    have alone : [listing].flatten = listing := List.flatten_singleton
    exact alone ▸ descends

/-! ## Graphs that are built -/

/-- A step in which a graph is built. -/
inductive BuildStep (α : Type) where
  | node (label : α)
  | edge (source target : Nat)

/-- Takes a step. -/
def take (g : Graph α) : BuildStep α → Graph α
  | .node label => g.addNode label
  | .edge source target => g.addEdge source target

/-- The graph that is built in the given steps. -/
def built (steps : List (BuildStep α)) : Graph α :=
  steps.foldl take empty

/-- The edges that are inserted in steps after so many nodes: those between nodes that are there. -/
def inserted : Nat → List (BuildStep α) → List (Nat × Nat)
  | _, [] => []
  | count, .node _ :: rest => inserted (count + 1) rest
  | count, .edge source target :: rest =>
    if source < count ∧ target < count then (source, target) :: inserted count rest
    else inserted count rest

/-- The edges of a graph are those that were inserted, each where it came first. -/
theorem edges_foldl_take {edges : List (Nat × Nat)} (steps : List (BuildStep α))
    (distinct : g.edges = edges.eraseDups) :
    (steps.foldl take g).edges = (edges ++ inserted g.nodeCount steps).eraseDups := by
  induction steps generalizing g edges with
  | nil => rw [inserted, List.append_nil]; exact distinct
  | cons step rest ih =>
    rw [List.foldl_cons]
    cases step with
    | node label =>
      rw [inserted, ← nodeCount_addNode g label]
      exact ih distinct
    | edge source target =>
      rw [inserted, take]
      split_ifs with known
      · have added : (g.addEdge source target).edges = (edges ++ [(source, target)]).eraseDups := by
          rw [edges_addEdge known.1 known.2, distinct, eraseDups_concat]
          simp only [List.mem_eraseDups]
        rw [ih added, nodeCount_addEdge, List.append_assoc, List.singleton_append]
      · rw [addEdge_of_missing known]
        exact ih distinct

theorem successors_built (steps : List (BuildStep α)) (source : Nat) :
    (built steps).successors source =
      ((inserted 0 steps).filterMap fun edge => if edge.1 = source then some edge.2 else none).eraseDups := by
  have edges : (built steps).edges = ([] ++ inserted 0 steps).eraseDups := edges_foldl_take steps rfl
  rw [successors_eq, edges, List.nil_append]
  refine filterMap_eraseDups (fun first second child fromFirst fromSecond => ?_) _
  split_ifs at fromFirst fromSecond with same sameToo
  exact Prod.ext (same.trans sameToo.symm)
    ((Option.some.inj fromFirst).trans (Option.some.inj fromSecond).symm)

/-- The ends of all edges are nodes. -/
def Inside (g : Graph α) : Prop := ∀ edge ∈ g.edges, edge.1 < g.nodeCount ∧ edge.2 < g.nodeCount

theorem Inside.take (inside : g.Inside) (step : BuildStep α) : (g.take step).Inside := by
  cases step with
  | node label =>
    intro edge present
    obtain ⟨first, second⟩ := inside edge present
    rw [Graph.take, nodeCount_addNode]
    exact ⟨Nat.lt_succ_of_lt first, Nat.lt_succ_of_lt second⟩
  | edge source target =>
    rw [Graph.take]
    by_cases known : source < g.nodeCount ∧ target < g.nodeCount
    · intro edge present
      rw [nodeCount_addEdge]
      rw [edges_addEdge known.1 known.2] at present
      split_ifs at present
      · exact inside edge present
      · rcases List.mem_append.mp present with old | new
        · exact inside edge old
        · rw [List.mem_singleton.mp new]
          exact known
    · rw [addEdge_of_missing known]
      exact inside

theorem inside_built (steps : List (BuildStep α)) : (built steps).Inside :=
  List.foldlRecOn steps Graph.take (fun _ present => absurd present List.not_mem_nil)
    fun _ inside step _ => inside.take step

/-- A walk in a graph that was built comes to an end. It succeeds exactly if no cycle is reached from
its root, and then lists every path from the root in preorder, by length and end; else it stops at a node
that is reached from the root and stands on a cycle. The successors of a node are taken in the order in
which the edges to them were inserted. -/
theorem walk_built (steps : List (BuildStep α)) (bound : root < (built steps).nodeCount) :
    (∀ outcome, Descends (built steps).successors [] [root] outcome ↔
      (built steps).walk root = outcome) ∧
    ((∃ listing, (built steps).walk root = .ok listing) ↔
      ∀ last, Relation.ReflTransGen (IsChild (built steps).successors) root last →
        ¬ Relation.TransGen (IsChild (built steps).successors) last last) ∧
    (∀ listing, (built steps).walk root = .ok listing →
      PreorderListing (built steps).successors root listing) ∧
    (∀ last, (built steps).walk root = .error last →
      Relation.ReflTransGen (IsChild (built steps).successors) root last ∧
        Relation.TransGen (IsChild (built steps).successors) last last) ∧
    ∀ source, (built steps).successors source = ((inserted 0 steps).filterMap fun edge =>
      if edge.1 = source then some edge.2 else none).eraseDups := by
  have targets : ∀ edge ∈ (built steps).edges, edge.2 < (built steps).nodeCount :=
    fun edge present => (inside_built steps edge present).2
  have above : ∀ other < (built steps).nodeCount, other ∉ List.range (built steps).nodeCount →
      Relation.TransGen (IsChild (built steps).successors) other root :=
    fun other known taken => absurd (List.mem_range.mpr known) taken
  have descends := descends_walk targets bound
  have ends : ∀ outcome, Descends (built steps).successors [] [root] outcome ↔
      (built steps).walk root = outcome :=
    fun outcome => ⟨descends.unique, fun same => same ▸ descends⟩
  exact ⟨ends, exists_walk_eq_ok_iff targets bound,
    fun listing walked => preorderListing_of_walkFrom walked,
    fun last stopped => cycle_of_walkFrom_eq_error targets above bound stopped,
    successors_built steps⟩

/-- A diamond with a loop beside it: five nodes, edges to one that is missing, and a repeated edge. -/
def diamondAndLoop : List (BuildStep String) :=
  [.node "top", .edge 0 1, .node "left", .node "right", .node "shared", .node "loop", .edge 0 2,
    .edge 0 1, .edge 1 3, .edge 2 3, .edge 0 2, .edge 4 4]

/-- The shared node is listed on both paths, the right one first, and the loop stops its walk. -/
theorem walk_diamondAndLoop :
    (0 < (built diamondAndLoop).nodeCount ∧ (built diamondAndLoop).walk 0 =
        .ok [(0, 0), (1, 2), (2, 3), (1, 1), (2, 3)] ∧
      PreorderListing (built diamondAndLoop).successors 0 [(0, 0), (1, 2), (2, 3), (1, 1), (2, 3)]) ∧
    4 < (built diamondAndLoop).nodeCount ∧ (built diamondAndLoop).walk 4 = .error 4 ∧
      Relation.TransGen (IsChild (built diamondAndLoop).successors) 4 4 := by
  have first : 0 < (built diamondAndLoop).nodeCount := by decide
  have last : 4 < (built diamondAndLoop).nodeCount := by decide
  have walked : (built diamondAndLoop).walk 0 = .ok [(0, 0), (1, 2), (2, 3), (1, 1), (2, 3)] := by
    cbv
  have stopped : (built diamondAndLoop).walk 4 = .error 4 := by cbv
  exact ⟨⟨first, walked, (walk_built diamondAndLoop first).2.2.1 _ walked⟩, last, stopped,
    ((walk_built diamondAndLoop last).2.2.2.1 _ stopped).2⟩

end BoardBind.Graph
