import Mathlib.Data.Finset.Card
import Mathlib.Data.List.Basic
import Mathlib.Logic.Relation

/-! # Paths below a node and their listing in preorder

A graph is given here by the children of every node. A path down from a node is written as the
positions of the children it goes through, so that paths are ordered by what stands first: the
empty path comes before all others, and paths through an earlier child before those through a
later one. A preorder listing names the length and the end of every path in this order. Only a
node above which no cycle hangs has such a listing, because a listing is finite.
-/

namespace BoardBind

variable {α β : Type*} {children : α → List α} {root node last : α}

/-- Whether the second node is a child of the first. -/
abbrev IsChild (children : α → List α) (parent child : α) : Prop :=
  child ∈ children parent

/-- Where the path through the given child positions ends, if all of them exist. -/
def pathEnd? (children : α → List α) : α → List Nat → Option α
  | node, [] => some node
  | node, i :: rest => (children node)[i]?.bind fun child => pathEnd? children child rest

/-- The node at the end of a path together with the length of the path. -/
def pathItem? (children : α → List α) (root : α) (path : List Nat) : Option (Nat × α) :=
  (pathEnd? children root path).map fun last => (path.length, last)

/-- A listing has one entry for every path from the root, in preorder. -/
def PreorderListing (children : α → List α) (root : α) (listing : List (Nat × α)) : Prop :=
  ∃ paths : List (List Nat), paths.Pairwise (List.Lex (· < ·)) ∧
    (∀ path, path ∈ paths ↔ (pathEnd? children root path).isSome) ∧
    listing = paths.filterMap (pathItem? children root)

theorem pathEnd?_nil : pathEnd? children node [] = some node := rfl

@[simp] theorem pathEnd?_cons (i : Nat) (rest : List Nat) : pathEnd? children node (i :: rest) =
    (children node)[i]?.bind fun child => pathEnd? children child rest := rfl

theorem pathEnd?_append (first second : List Nat) : pathEnd? children node (first ++ second) =
    (pathEnd? children node first).bind fun middle => pathEnd? children middle second := by
  induction first generalizing node with
  | nil => rfl
  | cons i rest ih => simp only [List.cons_append, pathEnd?_cons, ih, Option.bind_assoc]

/-- A path exists exactly between nodes of which the second is reached from the first. -/
theorem exists_pathEnd?_iff : (∃ path, pathEnd? children node path = some last) ↔
    Relation.ReflTransGen (IsChild children) node last := by
  constructor
  · rintro ⟨path, ends⟩
    induction path generalizing node with
    | nil => exact Option.some.inj ends ▸ .refl
    | cons i rest ih =>
      obtain ⟨child, atPosition, ends⟩ := Option.bind_eq_some_iff.mp ends
      exact .head (List.mem_of_getElem? atPosition) (ih ends)
  · intro reached
    induction reached using Relation.ReflTransGen.head_induction_on with
    | refl => exact ⟨[], rfl⟩
    | head member _ ih =>
      obtain ⟨i, atPosition⟩ := List.mem_iff_getElem?.mp member
      obtain ⟨path, ends⟩ := ih
      exact ⟨i :: path, by rw [pathEnd?_cons, atPosition]; exact ends⟩

/-- A cycle is a path that can be repeated, so it leads to paths of any length. -/
theorem exists_long_path (cycle : Relation.TransGen (IsChild children) node node)
    (bound : Nat) : ∃ path, bound ≤ path.length ∧ pathEnd? children node path = some node := by
  obtain ⟨child, member, back⟩ := Relation.TransGen.head'_iff.mp cycle
  obtain ⟨i, atPosition⟩ := List.mem_iff_getElem?.mp member
  obtain ⟨rest, ends⟩ := exists_pathEnd?_iff.mpr back
  have once : pathEnd? children node (i :: rest) = some node := by
    rw [pathEnd?_cons, atPosition]; exact ends
  induction bound with
  | zero => exact ⟨[], Nat.le_refl _, rfl⟩
  | succ bound ih =>
    obtain ⟨path, long, ends⟩ := ih
    refine ⟨(i :: rest) ++ path, by simp only [List.length_append, List.length_cons]; omega, ?_⟩
    rw [pathEnd?_append, once]
    exact ends

/-- The empty path, and all paths that go on below a child, given those of every child. -/
def pathsThrough (children : α → List α) (node : α) (below : α → List (List Nat)) :
    List (List Nat) :=
  [] :: (children node).zipIdx.flatMap fun pair => (below pair.1).map (pair.2 :: ·)

section pathsThrough

variable {below : α → List (List Nat)}

private theorem getElem?_of_mem_zipIdx {pair : α × Nat} (member : pair ∈ (children node).zipIdx) :
    (children node)[pair.2]? = some pair.1 :=
  List.mem_zipIdx_iff_getElem?.mp member

private theorem isChild_of_mem_zipIdx {pair : α × Nat} (member : pair ∈ (children node).zipIdx) :
    IsChild children node pair.1 :=
  List.mem_of_getElem? (getElem?_of_mem_zipIdx member)

theorem pathsThrough_sorted
    (sorted : ∀ child ∈ children node, (below child).Pairwise (List.Lex (· < ·))) :
    (pathsThrough children node below).Pairwise (List.Lex (· < ·)) := by
  refine List.pairwise_cons.mpr ⟨?_, List.pairwise_flatMap.mpr ⟨?_, ?_⟩⟩
  · intro path member
    obtain ⟨pair, _, member⟩ := List.mem_flatMap.mp member
    obtain ⟨rest, _, rfl⟩ := List.mem_map.mp member
    exact .nil
  · intro pair member
    exact List.pairwise_map.mpr
      ((sorted _ (isChild_of_mem_zipIdx member)).imp fun before => .cons before)
  · have increasing : ((children node).zipIdx.map Prod.snd).Pairwise (· < ·) := by
      rw [List.zipIdx_map_snd]
      exact List.pairwise_lt_range'
    refine (List.pairwise_map.mp increasing).imp fun before first inFirst second inSecond => ?_
    obtain ⟨_, _, rfl⟩ := List.mem_map.mp inFirst
    obtain ⟨_, _, rfl⟩ := List.mem_map.mp inSecond
    exact .rel before

theorem mem_pathsThrough_iff (complete : ∀ child ∈ children node, ∀ path,
      path ∈ below child ↔ (pathEnd? children child path).isSome) (path : List Nat) :
    path ∈ pathsThrough children node below ↔ (pathEnd? children node path).isSome := by
  rw [pathsThrough, List.mem_cons, List.mem_flatMap]
  cases path with
  | nil => simp [pathEnd?_nil]
  | cons i rest =>
    rw [pathEnd?_cons]
    constructor
    · rintro (absurdity | ⟨pair, member, found⟩)
      · cases absurdity
      · obtain ⟨tail, present, same⟩ := List.mem_map.mp found
        cases same
        rw [getElem?_of_mem_zipIdx member]
        exact (complete _ (isChild_of_mem_zipIdx member) rest).mp present
    · intro isPath
      obtain ⟨last, ends⟩ := Option.isSome_iff_exists.mp isPath
      obtain ⟨child, atPosition, ends⟩ := Option.bind_eq_some_iff.mp ends
      refine .inr ⟨(child, i), List.mk_mem_zipIdx_iff_getElem?.mpr atPosition, ?_⟩
      exact List.mem_map_of_mem ((complete _ (List.mem_of_getElem? atPosition) rest).mpr
        (Option.isSome_iff_exists.mpr ⟨last, ends⟩))

theorem filterMap_pathsThrough {listing : α → List (Nat × α)}
    (listed : ∀ child ∈ children node,
      listing child = (below child).filterMap (pathItem? children child)) :
    (pathsThrough children node below).filterMap (pathItem? children node) =
      (0, node) :: ((children node).flatMap listing).map fun entry => (entry.1 + 1, entry.2) := by
  have empty : pathItem? children node [] = some (0, node) := rfl
  rw [pathsThrough, List.filterMap_cons_some empty, List.filterMap_flatMap, List.map_flatMap]
  conv_rhs => rw [← List.zipIdx_map_fst 0 (children node), List.flatMap_map]
  refine congrArg _ (List.flatMap_congr fun pair member => ?_)
  rw [listed _ (isChild_of_mem_zipIdx member), List.map_filterMap, List.filterMap_map]
  refine List.filterMap_congr fun rest _ => ?_
  simp only [pathItem?, Function.comp_apply, pathEnd?_cons, getElem?_of_mem_zipIdx member,
    Option.bind_some, Option.map_map, List.length_cons]
  rfl

end pathsThrough

section relabel

variable {labelOf : α → Option β} {children' : β → List β} {label : β}

/-- If the children of a label are the labels of the children, then the same paths exist among
labels as among nodes, and they end at the labels of the nodes. -/
theorem map_pathEnd?_eq (compatible : ∀ node label, labelOf node = some label →
      (children node).map labelOf = (children' label).map some)
    (labelled : labelOf node = some label) (path : List Nat) :
    (pathEnd? children node path).map labelOf = (pathEnd? children' label path).map some := by
  induction path generalizing node label with
  | nil => exact congrArg some labelled
  | cons i rest ih =>
    have sameAt := congrArg (·[i]?) (compatible node label labelled)
    simp only [List.getElem?_map] at sameAt
    rw [pathEnd?_cons, pathEnd?_cons]
    cases atPosition : (children node)[i]? with
    | none =>
      rw [atPosition, Option.map_none] at sameAt
      rw [Option.map_eq_none_iff.mp sameAt.symm]
      rfl
    | some child =>
      rw [atPosition, Option.map_some] at sameAt
      obtain ⟨label', atPosition', same⟩ := Option.map_eq_some_iff.mp sameAt.symm
      rw [atPosition', Option.bind_some, Option.bind_some]
      exact ih same.symm

end relabel

namespace PreorderListing

variable {listing : List (Nat × α)}

theorem mem_iff (preorder : PreorderListing children root listing) (entry : Nat × α) :
    entry ∈ listing ↔ ∃ path, pathItem? children root path = some entry := by
  obtain ⟨paths, _, complete, rfl⟩ := preorder
  rw [List.mem_filterMap]
  constructor
  · rintro ⟨path, _, found⟩
    exact ⟨path, found⟩
  · rintro ⟨path, found⟩
    obtain ⟨last, ends, _⟩ := Option.map_eq_some_iff.mp found
    exact ⟨path, (complete path).mpr (by rw [ends]; rfl), found⟩

/-- A listing names exactly the nodes that are reached from its root. -/
theorem exists_mem_iff (preorder : PreorderListing children root listing) :
    (∃ depth, (depth, last) ∈ listing) ↔
      Relation.ReflTransGen (IsChild children) root last := by
  rw [← exists_pathEnd?_iff]
  constructor
  · rintro ⟨depth, member⟩
    obtain ⟨path, found⟩ := (preorder.mem_iff _).mp member
    obtain ⟨_, ends, same⟩ := Option.map_eq_some_iff.mp found
    exact ⟨path, by rw [ends, (Prod.mk.inj same).2]⟩
  · rintro ⟨path, ends⟩
    exact ⟨path.length, (preorder.mem_iff _).mpr ⟨path, by rw [pathItem?, ends]; rfl⟩⟩

/-- The listing starts at its root. -/
theorem head? (preorder : PreorderListing children root listing) : listing.head? = some (0, root) := by
  obtain ⟨paths, sorted, complete, rfl⟩ := preorder
  have present : [] ∈ paths := (complete []).mpr rfl
  cases paths with
  | nil => exact absurd present List.not_mem_nil
  | cons first rest =>
    -- Nothing comes before the empty path, so it is the first one.
    have empty : first = [] := by
      rcases List.mem_cons.mp present with same | later
      · exact same.symm
      · cases List.rel_of_pairwise_cons sorted later
    subst first
    rfl

/-- No cycle is reached from the root of a listing: its repetitions would not fit into it. -/
theorem not_cycle (preorder : PreorderListing children root listing)
    (reached : Relation.ReflTransGen (IsChild children) root node) :
    ¬ Relation.TransGen (IsChild children) node node := by
  intro cycle
  obtain ⟨start, ends⟩ := exists_pathEnd?_iff.mpr reached
  obtain ⟨repeated, long, returns⟩ :=
    exists_long_path cycle ((listing.map Prod.fst).max?.getD 0 + 1)
  have whole : pathItem? children root (start ++ repeated) =
      some ((start ++ repeated).length, node) := by
    rw [pathItem?, pathEnd?_append, ends]
    simp only [Option.bind_some, returns, Option.map_some]
  have member := List.mem_map_of_mem (f := Prod.fst) ((preorder.mem_iff _).mpr ⟨_, whole⟩)
  have small := List.le_max?_getD_of_mem (k := 0) member
  simp only [List.length_append] at small
  omega

/-- The listing of a node is made of the node itself and the listings of its children, one level
deeper. -/
theorem intro (below : α → List (Nat × α))
    (preorders : ∀ child ∈ children node, PreorderListing children child (below child)) :
    PreorderListing children node
      ((0, node) :: ((children node).flatMap below).map fun entry => (entry.1 + 1, entry.2)) := by
  choose! paths sorted complete listed using preorders
  exact ⟨pathsThrough children node paths, pathsThrough_sorted sorted,
    mem_pathsThrough_iff complete, (filterMap_pathsThrough listed).symm⟩

/-- A listing stays one when every node is replaced by its label, if the children of a label are
the labels of the children. -/
theorem relabel {labelOf : α → Option β} {children' : β → List β} {label : β}
    (compatible : ∀ node label, labelOf node = some label →
      (children node).map labelOf = (children' label).map some)
    (labelled : labelOf root = some label) (preorder : PreorderListing children root listing) :
    PreorderListing children' label
      (listing.filterMap fun entry => (labelOf entry.2).map fun last => (entry.1, last)) := by
  obtain ⟨paths, sorted, complete, rfl⟩ := preorder
  have ends := map_pathEnd?_eq compatible labelled
  refine ⟨paths, sorted, fun path => ?_, ?_⟩
  · have sameSome := congrArg Option.isSome (ends path)
    rw [Option.isSome_map, Option.isSome_map] at sameSome
    rw [complete path, sameSome]
  · rw [List.filterMap_filterMap]
    refine List.filterMap_congr fun path _ => ?_
    have same := ends path
    rw [pathItem?, pathItem?]
    cases atEnd : pathEnd? children root path with
    | none =>
      rw [atEnd, Option.map_none] at same
      rw [Option.map_eq_none_iff.mp same.symm]
      rfl
    | some last =>
      rw [atEnd, Option.map_some] at same
      obtain ⟨label', atEnd', same⟩ := Option.map_eq_some_iff.mp same.symm
      rw [atEnd', Option.map_some, Option.map_some, Option.bind_some, ← same]
      rfl

end PreorderListing

/-- Among finitely many nodes without a cycle, every node is reached from one without a parent:
each parent has fewer nodes above it than its child. -/
theorem exists_source {Parent : α → α → Prop} (nodes : List α)
    (known : ∀ parent child, Parent parent child → parent ∈ nodes)
    (acyclic : ∀ node, ¬ Relation.TransGen Parent node node) (node : α) :
    ∃ source, (∀ parent, ¬ Parent parent source) ∧ Relation.ReflTransGen Parent source node := by
  classical
  let above : α → Finset α := fun node => nodes.toFinset.filter (Relation.TransGen Parent · node)
  induction size : (above node).card using Nat.strongRecOn generalizing node with
  | ind count ih =>
    by_cases hasParent : ∃ parent, Parent parent node
    · obtain ⟨parent, edge⟩ := hasParent
      have fewer : (above parent).card < count := by
        rw [← size]
        refine Finset.card_lt_card ⟨fun other member => ?_, fun included => ?_⟩
        · obtain ⟨present, reaches⟩ := Finset.mem_filter.mp member
          exact Finset.mem_filter.mpr ⟨present, reaches.tail edge⟩
        · have itself : parent ∈ above node :=
            Finset.mem_filter.mpr ⟨List.mem_toFinset.mpr (known _ _ edge), .single edge⟩
          exact acyclic parent (Finset.mem_filter.mp (included itself)).2
      obtain ⟨source, first, reaches⟩ := ih _ fewer parent rfl
      exact ⟨source, first, reaches.tail edge⟩
    · exact ⟨node, fun parent edge => hasParent ⟨parent, edge⟩, .refl⟩

end BoardBind
