import BoardBind.Proofs.Design.Hierarchy

/-! # Cycles of instances

A design is refused as circular if a walk from one of its roots meets a unit again on its path.
Walks start at no other unit, so a design resolves whatever happens among units that no root
reaches. Its instances are free of cycles exactly if there are no such units, and exactly then
every unit is listed.
-/

namespace BoardBind.Design

variable {lang : Language} {files : List Declarations} {d : Design} {g : UnitGraph}
  {parent child root r : Registered}

/-- An instance inside the first registered unit names the second registered unit. -/
def Instantiates (files : List Declarations) (parent child : Registered) : Prop :=
  parent ∈ registered files ∧ child ∈ registered files ∧
    ∃ inst ∈ instancesOf files, inst.parent = parent.unit.name ∧ inst.child = child.unit.name

instance : Decidable (Instantiates files parent child) :=
  inferInstanceAs (Decidable (_ ∧ _ ∧ _))

/-- No registered unit contains itself, through however many instances. -/
def Acyclic (files : List Declarations) : Prop :=
  ∀ r, ¬ Relation.TransGen (Instantiates files) r r

/-- Every registered unit occurs among the items. -/
def AllListed (files : List Declarations) (items : List TreeItem) : Prop :=
  ∀ r ∈ registered files, ∃ item ∈ items, item.name = r.unit.name ∧ item.file = r.unit.file

/-- Every registered unit is reached from one that no unit instantiates. -/
def Rooted (files : List Declarations) : Prop :=
  ∀ r ∈ registered files, ∃ root ∈ registered files,
    (∀ parent, ¬ Instantiates files parent root) ∧
      Relation.ReflTransGen (Instantiates files) root r

namespace Represents

/-- The children of a registered unit are the units that it instantiates. -/
theorem instantiates_iff (represents : Represents files g) :
    Instantiates files parent child ↔
      parent ∈ registered files ∧ IsChild (childrenOf files) parent child := by
  rw [Instantiates, IsChild, childrenOf, List.mem_eraseDups, List.mem_filterMap]
  simp only [List.mem_filter, decide_eq_true_eq, represents.find?_eq_some_iff]
  refine and_congr_right fun _ => ⟨?_, ?_⟩
  · rintro ⟨member, inst, present, inside, named⟩
    exact ⟨inst, ⟨present, inside⟩, member, named.symm⟩
  · rintro ⟨inst, ⟨present, inside⟩, member, named⟩
    exact ⟨member, inst, present, inside, named.symm⟩

theorem transGen_isChild (represents : Represents files g)
    (steps : Relation.TransGen (Instantiates files) parent child) :
    Relation.TransGen (IsChild (childrenOf files)) parent child :=
  Relation.TransGen.mono (fun _ _ step => (represents.instantiates_iff.mp step).2) _ _ steps

/-- From a registered unit, going down through children is going down through instances. -/
theorem reflTransGen_iff (represents : Represents files g) (member : root ∈ registered files) :
    Relation.ReflTransGen (Instantiates files) root r ↔
      Relation.ReflTransGen (IsChild (childrenOf files)) root r := by
  constructor
  · exact Relation.ReflTransGen.mono (fun _ _ step => (represents.instantiates_iff.mp step).2) _ _
  · intro steps
    have down : Relation.ReflTransGen (Instantiates files) root r ∧ r ∈ registered files := by
      induction steps with
      | refl => exact ⟨.refl, member⟩
      | tail _ step ih =>
        have edge := represents.instantiates_iff.mpr ⟨ih.2, step⟩
        exact ⟨ih.1.tail edge, edge.2.1⟩
    exact down.1

theorem mem_rootsOf_iff (represents : Represents files g) :
    root ∈ rootsOf files ↔
      root ∈ registered files ∧ ∀ parent, ¬ Instantiates files parent root := by
  rw [rootsOf, List.mem_filter, decide_eq_true_eq]
  refine and_congr_right fun _ => ⟨fun orphan parent edge => ?_, fun orphan parent member child => ?_⟩
  · obtain ⟨member, child⟩ := represents.instantiates_iff.mp edge
    exact orphan parent member child
  · exact orphan parent (represents.instantiates_iff.mpr ⟨member, child⟩)

end Represents

theorem rooted_of_acyclic (acyclic : Acyclic files) : Rooted files := by
  intro r member
  obtain ⟨root, orphan, reaches⟩ := exists_source (registered files)
    (fun _ _ edge => edge.1) acyclic r
  refine ⟨root, ?_, orphan, reaches⟩
  rcases reaches.cases_head with same | ⟨child, edge, _⟩
  · exact same ▸ member
  · exact edge.1

/-- Below a listed root there is no cycle, so a design whose units are all below a root has none. -/
theorem acyclic_of_rooted (represents : Represents files g)
    {listing : Registered → List (Nat × Registered)}
    (preorders : ∀ root ∈ rootsOf files, PreorderListing (childrenOf files) root (listing root))
    (rooted : Rooted files) : Acyclic files := by
  intro r cycle
  obtain ⟨_, edge, _⟩ := Relation.TransGen.head'_iff.mp cycle
  obtain ⟨root, member, orphan, reaches⟩ := rooted r edge.1
  have isRoot := represents.mem_rootsOf_iff.mpr ⟨member, orphan⟩
  exact (preorders root isRoot).not_cycle ((represents.reflTransGen_iff member).mp reaches)
    (represents.transGen_isChild cycle)

/-- The items are those of the units below the roots. -/
theorem allListed_iff_rooted (represents : Represents files g)
    {listing : Registered → List (Nat × Registered)}
    (preorders : ∀ root ∈ rootsOf files, PreorderListing (childrenOf files) root (listing root)) :
    AllListed files ((rootsOf files).flatMap fun root => (listing root).map TreeItem.at) ↔
      Rooted files := by
  refine forall₂_congr fun r member => ⟨?_, ?_⟩
  · rintro ⟨item, present, sameName, -⟩
    obtain ⟨root, isRoot, present⟩ := List.mem_flatMap.mp present
    obtain ⟨entry, listed, rfl⟩ := List.mem_map.mp present
    obtain ⟨rootMember, orphan⟩ := represents.mem_rootsOf_iff.mp isRoot
    have reaches := (represents.reflTransGen_iff rootMember).mpr
      ((preorders root isRoot).exists_mem_iff.mp ⟨entry.1, listed⟩)
    refine ⟨root, rootMember, orphan, ?_⟩
    have entryMember : entry.2 ∈ registered files := by
      rcases reaches.cases_tail with same | ⟨_, _, edge⟩
      · exact same ▸ rootMember
      · exact edge.2.1
    exact represents.eq_of_name_eq entryMember member sameName ▸ reaches
  · rintro ⟨root, rootMember, orphan, reaches⟩
    have isRoot := represents.mem_rootsOf_iff.mpr ⟨rootMember, orphan⟩
    obtain ⟨depth, listed⟩ := (preorders root isRoot).exists_mem_iff.mpr
      ((represents.reflTransGen_iff rootMember).mp reaches)
    exact ⟨_, List.mem_flatMap.mpr ⟨root, isRoot, List.mem_map_of_mem listed⟩, rfl, rfl⟩

/-- A design that resolves is free of cycles exactly if every unit is below a root, and exactly
then all of its units are listed. -/
theorem acyclic_and_listed_iff_rooted (success : resolve lang files = .ok d) :
    (Acyclic files ↔ Rooted files) ∧ (AllListed files d.items ↔ Rooted files) := by
  obtain ⟨trees, represents, walked, -, shape⟩ := resolve_eq_ok success
  obtain ⟨preorders, rfl⟩ := represents.trees_eq_ok walked
  have items : d.items = (rootsOf files).flatMap fun root =>
      (d.graph.listingOf root).map TreeItem.at := by rw [shape, List.flatMap_def]
  rw [items]
  exact ⟨⟨rooted_of_acyclic, acyclic_of_rooted represents preorders⟩,
    allListed_iff_rooted represents preorders⟩

/-- A unit with one port, as the sources below declare it. -/
private def single (name : String) : Registered :=
  ⟨.declare .verilog name "island.sv", [.declare .verilog "x" .input none]⟩

/-- Two units that contain each other, beside a unit that stands alone. -/
def island : List Declarations :=
  [{ units := [(single "a").unit, (single "p").unit, (single "q").unit]
     ports := ["a", "p", "q"].map fun name => (name, .declare .verilog "x" .input none)
     instances := [⟨"q", "p"⟩, ⟨"p", "q"⟩] }]

private theorem island_items :
    (resolve .verilog island).map (·.items) = .ok [⟨0, "a", "island.sv"⟩] := by cbv

private theorem island_cycle : ¬ Acyclic island := by
  have down : Instantiates island (single "p") (single "q") := by decide
  have up : Instantiates island (single "q") (single "p") := by decide
  exact fun acyclic => acyclic _ (.tail (.single down) up)

/-- Not every design that resolves is free of cycles: no root leads to the units of the island. -/
theorem resolves_with_cycle : ¬ ∀ (lang : Language) (files : List Declarations) (d : Design),
    resolve lang files = .ok d → Acyclic files ∧ AllListed files d.items := by
  intro claimed
  obtain ⟨d, success, -⟩ := except_map_eq_ok_iff.mp island_items
  exact island_cycle (claimed _ _ d success).1

/-- As there is a cycle on the island, some of its units are not listed. -/
theorem island_unlisted : ∃ d, resolve .verilog island = .ok d ∧ ¬ AllListed island d.items := by
  obtain ⟨d, success, -⟩ := except_map_eq_ok_iff.mp island_items
  obtain ⟨acyclic, listed⟩ := acyclic_and_listed_iff_rooted success
  exact ⟨d, success, fun all => island_cycle (acyclic.mpr (listed.mp all))⟩

end BoardBind.Design
