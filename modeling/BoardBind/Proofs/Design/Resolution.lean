import BoardBind.Proofs.Design.Hierarchy

/-! # What a resolved design says about its sources

The registry, the edges, the trees and the suggested top of a resolved design are determined by
the declarations of its files alone. The suggested top is selected first, with none of its bits
bound.
-/

namespace BoardBind

namespace Selection

/-- Selecting a name of no unit changes nothing; selecting a unit sets all that depends on the top. -/
theorem setTop_eq (s : Selection) (name : String) (preserve : Bool) :
    s.setTop name preserve = match s.design.unit? name with
      | none => (false, s)
      | some r => (true, s.select (s.design.language.fold name) r.ports
          (if preserve then s.bits else [])) := rfl

@[simp] theorem rebind_nil : rebind [] = id := rfl

theorem bits_select_nil (s : Selection) (top : String) (ports : List Port) :
    (s.select top ports []).bits = freshBits s.design.language (Port.sortByName ports) := by
  rw [select, rebind_nil, List.map_id]

/-- Nothing is left of the top that was selected before. -/
theorem select_select (s : Selection) (first top : String) (before ports : List Port)
    (old older : List PortBit) :
    (s.select first before older).select top ports old = s.select top ports old := by
  simp only [select, List.map_map]
  rfl

/-- The first selection is the suggested unit, if it is found by its folded name. -/
theorem initial_eq (d : Design) : initial d = match d.unit? d.suggested with
    | none => unselected d
    | some r => (unselected d).select (d.language.fold d.suggested) r.ports [] := by
  have same : (unselected d).design = d := rfl
  rw [initial, setTop_eq, same]
  cases d.unit? d.suggested <;> rfl

@[simp] theorem design_initial (d : Design) : (initial d).design = d := by
  rw [initial_eq]
  cases d.unit? d.suggested <;> rfl

/-- The bits of the first selection are those of its ports, all unbound. -/
theorem bits_initial (d : Design) : (initial d).bits = freshBits d.language (initial d).ports := by
  rw [initial_eq]
  cases d.unit? d.suggested with
  | none => rfl
  | some r => exact bits_select_nil _ _ _

end Selection

namespace Design

variable {lang : Language} {files : List Declarations} {d : Design}

/-- The registered units are known by names that are folded in the language, as all units are that its
sources declare. -/
def NamesFolded (lang : Language) (files : List Declarations) : Prop :=
  ∀ r ∈ registered files, lang.fold r.unit.name = r.unit.name

/-- What the first selection of a resolved design looks like. -/
structure IsResolution (lang : Language) (files : List Declarations) (s : Selection) : Prop where
  language : s.design.language = lang
  /-- The registry holds the declared units that have a port, in order. -/
  registry : s.design.graph.labels = registered files
  /-- No two registered units have the same folded name. -/
  distinct : ((registered files).map fun r => r.unit.name).Nodup
  /-- The successors of a unit are its registered children, each once, in order of appearance. -/
  successors : ∀ i r, s.design.graph.label? i = some r →
    (s.design.graph.successors i).map s.design.graph.label? = (childrenOf files r).map some
  /-- The items list all paths below the units that are nobody's child, and the first of them
  with the most paths is suggested. It is selected, as names are folded already. -/
  trees : ∃ listing : Registered → List (Nat × Registered),
    (∀ root ∈ rootsOf files, PreorderListing (childrenOf files) root (listing root)) ∧
    s.design.items = (rootsOf files).flatMap (fun root => (listing root).map TreeItem.at) ∧
    ∃ before largest after, rootsOf files = before ++ largest :: after ∧
      (∀ root ∈ before, (listing root).length < (listing largest).length) ∧
      (∀ root ∈ after, (listing root).length ≤ (listing largest).length) ∧
      s.design.suggested = largest.unit.name ∧
      (NamesFolded lang files → s.ports = Port.sortByName largest.ports ∧
        s.bits = Selection.freshBits lang s.ports)
  top : NamesFolded lang files → s.top = s.design.suggested
  unbound : ∀ bit ∈ s.bits, bit.isBound = false
  /-- Selecting the suggested top changes nothing. -/
  settled : NamesFolded lang files → s.setTop s.design.suggested false = (true, s)

/-- The bits that ports are expanded into are unbound. -/
theorem isBound_of_mem_freshBits {ports : List Port} {bit : PortBit}
    (member : bit ∈ Selection.freshBits lang ports) : bit.isBound = false := by
  obtain ⟨port, _, member⟩ := List.mem_flatMap.mp member
  rw [Port.bits] at member
  split at member
  · obtain ⟨_, _, rfl⟩ := List.mem_map.mp member
    rfl
  · rw [List.mem_singleton.mp member]
    rfl

/-- The suggested top is the first root with the largest tree. -/
theorem exists_largest {listing : Registered → List (Nat × Registered)}
    (preorders : ∀ root ∈ rootsOf files, PreorderListing (childrenOf files) root (listing root))
    (nonempty : rootsOf files ≠ []) :
    ∃ before largest after, rootsOf files = before ++ largest :: after ∧
      (∀ root ∈ before, (listing root).length < (listing largest).length) ∧
      (∀ root ∈ after, (listing root).length ≤ (listing largest).length) ∧
      ((longest ((rootsOf files).map fun root => (listing root).map TreeItem.at)).head?.map
        (·.name)).getD "" = largest.unit.name := by
  have treesNonempty : (rootsOf files).map (fun root => (listing root).map TreeItem.at) ≠ [] :=
    fun none => nonempty (List.map_eq_nil_iff.mp none)
  obtain ⟨_, _, parts, shorter, within⟩ := exists_longest treesNonempty
  obtain ⟨before, rest, roots, rfl, restTrees⟩ := List.map_eq_append_iff.mp parts
  obtain ⟨largest, after, rfl, largestTree, rfl⟩ := List.map_eq_cons_iff.mp restTrees
  rw [← largestTree, List.length_map] at shorter within
  refine ⟨before, largest, after, roots, fun root member => ?_, fun root member => ?_, ?_⟩
  · simpa only [List.length_map] using shorter _ (List.mem_map_of_mem member)
  · simpa only [List.length_map] using within _ (List.mem_map_of_mem member)
  · have isRoot : largest ∈ rootsOf files := roots ▸ List.mem_append_right _ (List.mem_cons_self ..)
    rw [← largestTree, List.head?_map, (preorders largest isRoot).head?]
    rfl

/-- The suggested top is a registered unit. -/
theorem exists_suggested (success : resolve lang files = .ok d) :
    ∃ r ∈ registered files, r.unit.name = d.suggested := by
  obtain ⟨trees, represents, walked, nonempty, shape⟩ := resolve_eq_ok success
  obtain ⟨preorders, rfl⟩ := represents.trees_eq_ok walked
  obtain ⟨before, largest, after, parts, -, -, suggested⟩ := exists_largest preorders nonempty
  have root : largest ∈ rootsOf files := parts ▸ List.mem_append_right _ List.mem_cons_self
  refine ⟨largest, (List.mem_filter.mp root).1, ?_⟩
  rw [shape]
  exact suggested.symm

/-- A design that resolves has the registry, the edges, the trees and the top that its
declarations ask for. -/
theorem isResolution_of_resolve (success : resolve lang files = .ok d) :
    IsResolution lang files (Selection.initial d) := by
  obtain ⟨trees, represents, walked, nonempty, shape⟩ := resolve_eq_ok success
  obtain ⟨preorders, rfl⟩ := represents.trees_eq_ok walked
  obtain ⟨before, largest, after, parts, shorter, within, suggested⟩ :=
    exists_largest preorders nonempty
  have isLang : d.language = lang := by rw [shape]
  have isSuggested : d.suggested = largest.unit.name := by rw [shape]; exact suggested
  have member : largest ∈ registered files :=
    (List.mem_filter.mp (parts ▸ List.mem_append_right before (List.mem_cons_self ..))).1
  have found : d.graph.find? largest.unit.name = some largest := by
    rw [UnitGraph.find?, represents.labels]
    exact represents.find?_eq_some_iff.mpr ⟨member, rfl⟩
  have known (folded : NamesFolded lang files) :
      d.language.fold d.suggested = d.suggested ∧ d.unit? d.suggested = some largest := by
    have sameName : d.language.fold d.suggested = d.suggested := by
      rw [isLang, isSuggested, folded largest member]
    exact ⟨sameName, by rw [unit?, sameName, isSuggested, found]⟩
  have selected (folded : NamesFolded lang files) : Selection.initial d =
      (Selection.unselected d).select d.suggested largest.ports [] := by
    rw [Selection.initial_eq, (known folded).2, (known folded).1]
  constructor
  case language => rwa [Selection.design_initial]
  case registry => rw [Selection.design_initial, represents.labels]
  case distinct => exact represents.labels ▸ represents.distinct
  case successors => rw [Selection.design_initial]; exact represents.successors
  case trees =>
    refine ⟨d.graph.listingOf, preorders, ?_, before, largest, after, parts, shorter, within, ?_,
      fun folded => ⟨?_, ?_⟩⟩
    · rw [Selection.design_initial, shape, List.flatMap_def]
    · rw [Selection.design_initial, isSuggested]
    · rw [selected folded]
      rfl
    · rw [Selection.bits_initial, isLang]
  case top =>
    intro folded
    rw [Selection.design_initial, selected folded]
    rfl
  case unbound =>
    rw [Selection.bits_initial]
    exact fun bit => isBound_of_mem_freshBits
  case settled =>
    intro folded
    rw [Selection.setTop_eq, Selection.design_initial, (known folded).2, (known folded).1,
      selected folded]
    exact congrArg (Prod.mk true) (Selection.select_select ..)

/-- Two files: a unit with two children that share a child, a unit without ports, an instance that
is repeated in the other file, one of an unknown unit, and a root with a smaller tree in front. -/
def diamond : List Declarations :=
  [{ units := ["bench", "solo", "top", "left"].map fun name => .declare .verilog name "a.sv"
     ports := ["solo", "top", "left"].map fun name => (name, .declare .verilog "x" .input none)
     instances := [⟨"top", "bench"⟩, ⟨"right", "top"⟩, ⟨"left", "top"⟩, ⟨"leaf", "left"⟩] },
   { units := ["leaf", "right"].map fun name => .declare .verilog name "b.sv"
     ports := ["leaf", "right"].map fun name => (name, .declare .verilog "x" .input none)
     instances := [⟨"right", "top"⟩, ⟨"absent", "leaf"⟩, ⟨"leaf", "right"⟩] }]

private theorem diamond_items : (resolve .verilog diamond).map (fun d => (d.items, d.suggested)) =
    .ok ([⟨0, "solo", "a.sv"⟩, ⟨0, "top", "a.sv"⟩, ⟨1, "right", "b.sv"⟩, ⟨2, "leaf", "b.sv"⟩,
      ⟨1, "left", "a.sv"⟩, ⟨2, "leaf", "b.sv"⟩], "top") := by cbv

/-- The shared child is listed below each of its parents, and the larger tree is suggested. -/
theorem diamond_resolution : ∃ d, resolve .verilog diamond = .ok d ∧
    d.items.map (·.name) = ["solo", "top", "right", "leaf", "left", "leaf"] ∧ d.suggested = "top" ∧
    IsResolution .verilog diamond (Selection.initial d) := by
  obtain ⟨d, success, found⟩ := except_map_eq_ok_iff.mp diamond_items
  obtain ⟨items, suggested⟩ := Prod.mk.inj found
  exact ⟨d, success, by rw [items]; rfl, suggested, isResolution_of_resolve success⟩

end Design

end BoardBind
