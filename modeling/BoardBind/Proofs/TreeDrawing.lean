import Mathlib
import BoardBind.Proofs.Design.Hierarchy
import BoardBind.TreeDrawing

/-! # The drawing of a forest

A forest is listed by the depths of its nodes in preorder. Read from such a listing, the prefix of every
node is the one that the forest itself gives it: a cell for each ancestor below the root, which is a bar
if the ancestor has a later sibling, and a twig of its own. The items of a design are such a listing.
-/

namespace BoardBind

/-- An ordered tree: a node with its children in order. -/
inductive OrderedTree where
  | node (children : List OrderedTree)

namespace OrderedTree

mutual

/-- The depths of the nodes of a tree in preorder, if its root has the given depth. -/
def depths (depth : Nat) : OrderedTree → List Nat
  | node children => depth :: depthsAll (depth + 1) children

/-- The depths of the nodes of trees that stand beside each other. -/
def depthsAll (depth : Nat) : List OrderedTree → List Nat
  | [] => []
  | tree :: later => tree.depths depth ++ depthsAll depth later

end

/-- The cell of an ancestor. -/
def bar (more : Bool) : String := if more then "│  " else "   "

/-- The twig of a node itself. -/
def branch (more : Bool) : String := if more then "├─ " else "└─ "

mutual

/-- The prefixes of the nodes of a tree that hangs below another node. `above` says of every ancestor
below the root, from the outside in, whether a later sibling follows, and `more` says so of the node. -/
def prefixes (above : List Bool) (more : Bool) : OrderedTree → List String
  | node children =>
    (String.join (above.map bar) ++ branch more) :: prefixesAll (above ++ [more]) children

/-- The prefixes of the nodes of trees that are the children of one node. -/
def prefixesAll (above : List Bool) : List OrderedTree → List String
  | [] => []
  | tree :: later => tree.prefixes above (!later.isEmpty) ++ prefixesAll above later

end

/-- The prefixes of the nodes of a forest, whose roots have none. -/
def drawing (forest : List OrderedTree) : List String :=
  forest.flatMap fun | node children => "" :: prefixesAll [] children

end OrderedTree

namespace Twig

open OrderedTree

variable {depth : Nat} {rest : List Nat}

/-- The twig of a child, by whether a later sibling follows it. -/
def hang (upper : Twig) (more : Bool) : Twig :=
  if more then midBranch (some upper) else endLeaf (some upper)

/-- The twig at the end of a way down from a root: of every node on it, the root apart, the way says
whether a later sibling follows. -/
def along (way : List Bool) : Twig :=
  way.foldl hang (endLeaf none)

theorem along_concat (way : List Bool) (more : Bool) : along (way ++ [more]) = hang (along way) more :=
  List.foldl_concat ..

theorem climb_hang (space : String) (upper : Twig) (more : Bool) :
    (hang upper more).climb space = upper.climb (space ++ upper.cell) := by
  cases more <;> rfl

theorem reverse_cell_hang (upper : Twig) (more : Bool) :
    (hang upper more).cell.toList.reverse = (bar more).toList := by
  cases more <;> simp [hang, cell, bar]

/-- What is added on the way up is, turned around, the cells of the ancestors from the outside in. -/
theorem reverse_climb_along (above : List Bool) (more : Bool) (space : String) :
    ((along (above ++ [more])).climb space).toList.reverse =
      (String.join (above.map bar)).toList ++ space.toList.reverse := by
  induction above using List.reverseRecOn generalizing more space with
  | nil => rw [along_concat, climb_hang]; simp [along, cell, climb]
  | append_singleton above last ih =>
    have turned := ih last (space ++ (along (above ++ [last])).cell)
    rw [along_concat (above ++ [last]), climb_hang, turned, String.toList_append, List.reverse_append,
      along_concat above, reverse_cell_hang]
    simp [String.join_append]

/-- The drawn prefix of a node below another one, cell by cell. -/
theorem draw_along_concat (above : List Bool) (more : Bool) :
    draw (along (above ++ [more])) = String.join (above.map bar) ++ branch more := by
  have turned : (along (above ++ [more])).space = String.join (above.map bar) := by
    rw [space, reverse_climb_along, String.toList_empty, List.reverse_nil, List.append_nil,
      String.ofList_toList]
  rw [← turned, along_concat]
  cases more <;> rfl

mutual

theorem le_of_mem_depths {depth level : Nat} {tree : OrderedTree}
    (member : level ∈ tree.depths depth) : depth ≤ level := by
  cases tree with
  | node children =>
    rcases List.mem_cons.mp member with rfl | below
    · exact Nat.le_refl level
    · exact Nat.le_of_succ_le (le_of_mem_depthsAll below)

theorem le_of_mem_depthsAll {depth level : Nat} {forest : List OrderedTree}
    (member : level ∈ depthsAll depth forest) : depth ≤ level := by
  cases forest with
  | nil => cases member
  | cons tree later =>
    rcases List.mem_append.mp member with inTree | behind
    · exact le_of_mem_depths inTree
    · exact le_of_mem_depthsAll behind

end

/-- The nodes below a node say nothing on whether a sibling follows. -/
theorem continues_depthsAll (children : List OrderedTree) :
    continues depth (depthsAll (depth + 1) children ++ rest) = continues depth rest := by
  have skipped : (depthsAll (depth + 1) children).find? (· ≤ depth) = none := by
    refine List.find?_eq_none.mpr fun level member => ?_
    have deeper := le_of_mem_depthsAll member
    simp only [decide_eq_true_eq]
    omega
  rw [continues, continues, List.find?_append, skipped, Option.none_or]

/-- A sibling follows a tree exactly if it is not the last one of its parent. -/
theorem continues_later {later : List OrderedTree} (behind : ∀ level ∈ rest.head?, level < depth) :
    continues depth (depthsAll depth later ++ rest) = !later.isEmpty := by
  cases later with
  | nil =>
    cases rest with
    | nil => rfl
    | cons level rest =>
      have outer : level < depth := behind level rfl
      have found : (level :: rest).find? (· ≤ depth) = some level :=
        List.find?_cons_of_pos (decide_eq_true outer.le)
      simp only [depthsAll, List.nil_append, continues, found, Option.some.injEq, outer.ne,
        decide_false, List.isEmpty_nil, Bool.not_true]
  | cons tree later =>
    cases tree with
    | node children => simp [depthsAll, depths, continues]

mutual

/-- A tree below a node is drawn from its listing, and leaves open what was open above it. What follows
the tree counts, since only there the listing shows whether a sibling comes. -/
theorem map_draw_shapesFrom_depths {opened : List Twig} {above : List Bool} {depth : Nat}
    (tree : OrderedTree) (deep : depth ≤ opened.length)
    (parent : (opened.take depth).getLast? = some (along above)) (rest : List Nat)
    (behind : ∀ level ∈ rest.head?, level ≤ depth) :
    ∃ next : List Twig, next.take depth = opened.take depth ∧
      (shapesFrom opened (tree.depths depth ++ rest)).map draw =
        tree.prefixes above (continues depth rest) ++ (shapesFrom next rest).map draw := by
  cases tree with
  | node children =>
    have whole : (opened.take depth).length = depth := List.length_take_of_le deep
    -- What is open when the children start: the twigs of their ancestors, this node's the last.
    let kept := opened.take depth ++ [along (above ++ [continues depth rest])]
    have length : kept.length = depth + 1 := by simp [kept, whole]
    have ended : kept.take (depth + 1) = kept := List.take_of_length_le length.le
    have last : (kept.take (depth + 1)).getLast? = some (along (above ++ [continues depth rest])) := by
      rw [ended]
      exact List.getLast?_concat
    obtain ⟨next, same, drawn⟩ := map_draw_shapesFrom_depthsAll children length.ge last rest
      fun level first => Nat.lt_succ_of_le (behind level first)
    refine ⟨next, ?_, ?_⟩
    · rw [← Nat.min_eq_left (Nat.le_succ depth), ← List.take_take, same, List.take_take,
        Nat.min_eq_left (Nat.le_succ depth)]
      exact List.take_left' whole
    · have own : (if continues depth rest then midBranch (some (along above))
          else endLeaf (some (along above))) = along (above ++ [continues depth rest]) :=
        (along_concat above _).symm
      rw [depths, List.cons_append, shapesFrom, parent]
      simp only [continues_depthsAll, own, List.map_cons, draw_along_concat, prefixes, List.cons_append]
      exact congrArg _ drawn

theorem map_draw_shapesFrom_depthsAll {opened : List Twig} {above : List Bool} {depth : Nat}
    (forest : List OrderedTree) (deep : depth ≤ opened.length)
    (parent : (opened.take depth).getLast? = some (along above)) (rest : List Nat)
    (behind : ∀ level ∈ rest.head?, level < depth) :
    ∃ next : List Twig, next.take depth = opened.take depth ∧
      (shapesFrom opened (depthsAll depth forest ++ rest)).map draw =
        prefixesAll above forest ++ (shapesFrom next rest).map draw := by
  cases forest with
  | nil => exact ⟨opened, rfl, rfl⟩
  | cons tree later =>
    have further : ∀ level ∈ (depthsAll depth later ++ rest).head?, level ≤ depth := by
      cases later with
      | nil => exact fun level first => (behind level first).le
      | cons tree later =>
        cases tree with
        | node children =>
          intro level first
          obtain rfl : depth = level := Option.some.inj first
          exact Nat.le_refl depth
    obtain ⟨middle, same, drawn⟩ := map_draw_shapesFrom_depths tree deep parent
      (depthsAll depth later ++ rest) further
    have deep' : depth ≤ middle.length := by
      have lengths := congrArg List.length same
      simp only [List.length_take] at lengths
      omega
    obtain ⟨next, same', drawn'⟩ := map_draw_shapesFrom_depthsAll later deep' (same ▸ parent) rest behind
    refine ⟨next, same'.trans same, ?_⟩
    rw [depthsAll, List.append_assoc, drawn, drawn', continues_later behind, prefixesAll,
      List.append_assoc]

end

/-- The trees of a forest are drawn one after the other, whatever was open before. -/
theorem map_draw_shapesFrom_forest (opened : List Twig) (forest : List OrderedTree) :
    (shapesFrom opened (depthsAll 0 forest)).map draw = drawing forest := by
  induction forest generalizing opened with
  | nil => rfl
  | cons tree later ih =>
    cases tree with
    | node children =>
      have behind : ∀ level ∈ (depthsAll 0 later).head?, level < 1 := by
        cases later with
        | nil => exact fun level first => nomatch first
        | cons tree later =>
          cases tree with
          | node children =>
            intro level first
            obtain rfl : 0 = level := Option.some.inj first
            exact Nat.one_pos
      have root : [along []].length ≥ 1 := Nat.le_refl 1
      obtain ⟨next, -, drawn⟩ := map_draw_shapesFrom_depthsAll children root rfl
        (depthsAll 0 later) behind
      rw [ih next] at drawn
      exact congrArg (List.cons "") drawn

example : drawing [.node [.node [.node [], .node []], .node [.node []]], .node [.node []]] =
    ["", "├─ ", "│  ├─ ", "│  └─ ", "└─ ", "   └─ ", "", "└─ "] := by decide

end Twig

/-! ## The items of a design -/

namespace OrderedTree

mutual

theorem depths_succ (depth : Nat) (tree : OrderedTree) :
    tree.depths (depth + 1) = (tree.depths depth).map (· + 1) := by
  cases tree with
  | node children => rw [depths, depths, List.map_cons, depthsAll_succ]

theorem depthsAll_succ (depth : Nat) (forest : List OrderedTree) :
    depthsAll (depth + 1) forest = (depthsAll depth forest).map (· + 1) := by
  cases forest with
  | nil => rfl
  | cons tree later => rw [depthsAll, depthsAll, List.map_append, depths_succ, depthsAll_succ]

end

/-- Trees that are listed one after the other are listed as a forest. -/
theorem exists_depthsAll {α : Type} {nodes : List α} {listing : α → List Nat}
    (listed : ∀ node ∈ nodes, ∃ tree : OrderedTree, listing node = tree.depths 0) :
    ∃ forest, nodes.flatMap listing = depthsAll 0 forest := by
  induction nodes with
  | nil => exact ⟨[], rfl⟩
  | cons node nodes ih =>
    rw [List.forall_mem_cons] at listed
    obtain ⟨tree, first⟩ := listed.1
    obtain ⟨forest, later⟩ := ih listed.2
    exact ⟨tree :: forest, by rw [List.flatMap_cons, first, later, depthsAll]⟩

end OrderedTree

open OrderedTree

/-- A walk lists the depths of a tree in preorder, and nodes that were free. -/
theorem Graph.exists_depths_of_walkFrom {α : Type} {g : Graph α} {free : List Nat} {node : Nat}
    {listing : List (Nat × Nat)} (walked : g.walkFrom free node = .ok listing) :
    (∃ tree : OrderedTree, listing.map Prod.fst = tree.depths 0) ∧
      ∀ entry ∈ listing, entry.2 ∈ free := by
  induction free, node using walkFrom.induct generalizing listing with
  | case1 free node member shorter ih =>
    obtain ⟨-, children, rfl⟩ := of_walkFrom_eq_ok walked
    have below := fun child present => ih child (children child present)
    obtain ⟨forest, listed⟩ := exists_depthsAll fun child present => (below child present).1
    constructor
    · refine ⟨.node forest, ?_⟩
      rw [depths, depthsAll_succ, ← listed, List.map_cons, List.map_map, List.map_flatMap,
        List.map_flatMap]
      simp only [List.map_map]
      rfl
    · simp only [List.forall_mem_cons, List.forall_mem_map, List.mem_flatMap, forall_exists_index,
        and_imp]
      exact ⟨member, fun entry child present inside =>
        List.mem_of_mem_erase ((below child present).2 entry inside)⟩
  | case2 free node taken => exact absurd (of_walkFrom_eq_ok walked).1 taken

/-- The items of a walked tree have the levels of its listing. -/
theorem UnitGraph.exists_depths_of_walk {g : UnitGraph} {root : Nat} {listing : List (Nat × Nat)}
    (walked : g.walk root = .ok listing) :
    ∃ tree : OrderedTree, (g.items listing).map (·.level) = tree.depths 0 := by
  obtain ⟨⟨tree, listed⟩, known⟩ := Graph.exists_depths_of_walkFrom walked
  refine ⟨tree, Eq.trans ?_ listed⟩
  have levels : ∀ entry ∈ listing, ((g.label? entry.2).map fun r : Registered =>
      (⟨entry.1, r.unit.name, r.unit.file⟩ : TreeItem)).map (·.level) = some entry.1 := by
    intro entry member
    have labelled : g.label? entry.2 = some _ :=
      List.getElem?_eq_getElem (List.mem_range.mp (known entry member))
    rw [labelled]
    rfl
  rw [items, List.map_filterMap, List.filterMap_congr levels]
  exact congrFun List.filterMap_eq_map listing

/-- The trees of a graph are listed as a forest. -/
theorem UnitGraph.exists_depths_of_trees {lang : Language} {g : UnitGraph}
    {trees : List (List TreeItem)} (walks : g.trees lang = .ok trees) :
    ∃ forest, trees.flatten.map (·.level) = depthsAll 0 forest := by
  obtain ⟨walked, rfl⟩ := of_mapM_eq_ok walks
  rw [← List.flatMap_def, List.map_flatMap]
  refine exists_depthsAll fun root member => ?_
  have succeeds := walked root member
  cases outcome : g.walk root with
  | error last => rw [outcome] at succeeds; cases succeeds
  | ok listing => exact exists_depths_of_walk outcome

/-- The items of a design are listed as a forest. -/
theorem Design.exists_depths_of_resolve {lang : Language} {files : List Declarations} {d : Design}
    (success : Design.resolve lang files = .ok d) :
    ∃ forest, d.items.map (·.level) = depthsAll 0 forest := by
  obtain ⟨trees, -, walks, -, shape⟩ := resolve_eq_ok success
  have items : d.items = trees.flatten := congrArg Design.items shape
  rw [items]
  exact UnitGraph.exists_depths_of_trees walks

/-- The prefixes that are drawn from the depths of a forest's nodes in preorder are those of its
drawing: nothing for a root, and for every other node a bar or a gap for each of its ancestors below the
root, from the outside in, and a twig of its own. The levels of the items of a design are such depths. -/
theorem Twig.map_draw_shapes_depths :
    (∀ forest : List OrderedTree, (shapes (depthsAll 0 forest)).map draw = drawing forest) ∧
      ∀ (lang : Language) (files : List Declarations) (d : Design), Design.resolve lang files = .ok d →
        ∃ forest, d.items.map (·.level) = depthsAll 0 forest ∧
          (shapes (d.items.map (·.level))).map draw = drawing forest := by
  have drawn (forest : List OrderedTree) : (shapes (depthsAll 0 forest)).map draw = drawing forest :=
    map_draw_shapesFrom_forest [] forest
  refine ⟨drawn, fun lang files d success => ?_⟩
  obtain ⟨forest, levels⟩ := Design.exists_depths_of_resolve success
  exact ⟨forest, levels, levels ▸ drawn forest⟩

/-- An entity with two instances, the first of which has one of its own. -/
def Twig.lampTree : List Declarations :=
  [{ units := [.declare .vhdl "lamp" "lamp.vhd", .declare .vhdl "dimmer" "lamp.vhd",
       .declare .vhdl "bulb" "lamp.vhd"]
     ports := [("lamp", .declare .vhdl "led" .output none), ("dimmer", .declare .vhdl "level" .input none),
       ("bulb", .declare .vhdl "on" .input none)]
     instances := [⟨"dimmer", "lamp"⟩, ⟨"bulb", "lamp"⟩, ⟨"bulb", "dimmer"⟩] }]

/-- The instances of the entity are drawn below it. -/
theorem Twig.map_draw_lampTree : ∃ d forest, Design.resolve .vhdl lampTree = .ok d ∧
    d.items.map (·.level) = depthsAll 0 forest ∧
      drawing forest = ["", "├─ ", "│  └─ ", "└─ "] := by
  have levels : (Design.resolve .vhdl lampTree).map (·.items.map (·.level)) = .ok [0, 1, 2, 1] := by cbv
  obtain ⟨d, success, found⟩ := except_map_eq_ok_iff.mp levels
  obtain ⟨forest, listed, drawn⟩ := map_draw_shapes_depths.2 .vhdl lampTree d success
  rw [found] at drawn
  exact ⟨d, forest, success, listed, drawn.symm⟩

end BoardBind
