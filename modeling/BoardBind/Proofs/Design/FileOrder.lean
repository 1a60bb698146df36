import BoardBind.Proofs.Design.Outcome

/-! # The order of the source files

Units, instances and cycles do not depend on the order of the files. What does is whether the units
can be registered: a declaration without ports leaves its name to a later one with ports, but not
the other way round. So files make a design in every order or in none, unless a unit with ports is
declared again.
-/

namespace BoardBind

/-- An edge between two registered units. -/
def UnitGraph.Links (g : UnitGraph) (parent child : Registered) : Prop :=
  ∃ i j, g.label? i = some parent ∧ g.label? j = some child ∧ (i, j) ∈ g.edges

namespace Design

variable {lang : Language} {files other : List Declarations} {d : Design} {g : UnitGraph}
  {parent child r s : Registered}

/-- Whether files make a design. -/
def Resolves (lang : Language) (files : List Declarations) : Prop :=
  ∃ d, resolve lang files = .ok d

/-- No unit with ports is declared again: only units without ports share a name. -/
def DeclaredOnce (files : List Declarations) : Prop :=
  (files.flatMap declared).Pairwise fun r s =>
    r.unit.name = s.unit.name → r.ports = [] ∧ s.ports = []

/-- Two designs have the same units, with the same ports, and the same edges between them. -/
structure SameUnits (d e : Design) : Prop where
  units : ∀ r, r ∈ d.graph.labels ↔ r ∈ e.graph.labels
  edges : ∀ parent child, d.graph.Links parent child ↔ e.graph.Links parent child

section Permuted

variable (permuted : files.Perm other)
include permuted

theorem registered_perm : (registered files).Perm (registered other) :=
  (permuted.flatMap_right declared).filter _

theorem instantiates_perm : Instantiates files = Instantiates other := by
  funext parent child
  have units := registered_perm permuted
  have instances : (instancesOf files).Perm (instancesOf other) := permuted.flatMap_right _
  simp only [Instantiates, units.mem_iff, instances.mem_iff]

theorem arranged_perm : Arranged files ↔ Arranged other := by
  have units := registered_perm permuted
  simp only [Arranged, IsRoot, instantiates_perm permuted, units.mem_iff]

theorem declaredOnce_perm : DeclaredOnce files ↔ DeclaredOnce other :=
  (permuted.flatMap_right declared).pairwise_iff fun once same => (once same.symm).symm

end Permuted

theorem DeclaredOnce.registrable (once : DeclaredOnce files) : Registrable files :=
  List.Pairwise.imp (fun portless same => (portless same).1) once

/-- Units of one name that are declared in one file have the same ports. -/
theorem ports_eq_of_mem_declared {file : Declarations} (first : r ∈ declared file)
    (second : s ∈ declared file) (same : r.unit.name = s.unit.name) : r.ports = s.ports := by
  obtain ⟨u, -, rfl⟩ := List.mem_map.mp first
  obtain ⟨v, -, rfl⟩ := List.mem_map.mp second
  exact congrArg file.portsOf same

/-- A unit with ports that is declared again stands in front of its namesake in one order of the
files or in the reverse order. -/
theorem declaredOnce_of_reverse (forward : Registrable files) (backward : Registrable files.reverse) :
    DeclaredOnce files := by
  obtain ⟨inFile, across⟩ := List.pairwise_flatMap.mp forward
  have acrossBack := List.pairwise_reverse.mp (List.pairwise_flatMap.mp backward).2
  refine List.pairwise_flatMap.mpr ⟨fun file member => ?_, ?_⟩
  · refine (inFile file member).imp_of_mem fun first second portless same => ?_
    exact ⟨portless same, ports_eq_of_mem_declared first second same ▸ portless same⟩
  · refine across.imp₂ (fun file later before after r first s second same => ?_) acrossBack
    exact ⟨before r first s second same, after s second r first same.symm⟩

/-- The edges of a design are the instances between its units. -/
theorem Represents.links_iff (represents : Represents files g) :
    g.Links parent child ↔ Instantiates files parent child := by
  constructor
  · rintro ⟨i, j, atParent, atChild, edge⟩
    obtain ⟨s, labelled, inside⟩ :=
      represents.instantiates_of_isChild atParent (Graph.mem_successors_iff.mpr edge)
    exact Option.some.inj (labelled.symm.trans atChild) ▸ inside
  · intro inside
    obtain ⟨i, atParent⟩ := represents.exists_label?.mp inside.1
    obtain ⟨j, successor, atChild⟩ := (represents.mem_childrenOf_iff atParent).mp
      (represents.instantiates_iff.mp inside).2
    exact ⟨i, j, atParent, atChild, Graph.mem_successors_iff.mp successor⟩

theorem sameUnits_of_perm (permuted : files.Perm other) {e : Design}
    (first : resolve lang files = .ok d) (second : resolve lang other = .ok e) : SameUnits d e := by
  obtain ⟨-, represents, -⟩ := resolve_eq_ok first
  obtain ⟨-, representsOther, -⟩ := resolve_eq_ok second
  constructor
  case units =>
    intro r
    rw [represents.labels, representsOther.labels, (registered_perm permuted).mem_iff]
  case edges =>
    intro parent child
    rw [represents.links_iff, representsOther.links_iff, instantiates_perm permuted]

/-- Files make a design in every order or in none exactly if no unit with ports is declared again,
or if no order makes a design. All orders that make a design give the same units and edges. -/
theorem resolves_in_every_order_iff (lang : Language) (files : List Declarations) :
    ((∀ other, files.Perm other → (Resolves lang files ↔ Resolves lang other)) ↔
      DeclaredOnce files ∨ ∀ other, files.Perm other → ¬ Resolves lang other) ∧
    ∀ other d e, files.Perm other → resolve lang files = .ok d → resolve lang other = .ok e →
      SameUnits d e := by
  refine ⟨⟨fun alike => ?_, ?_⟩, fun other d e permuted => sameUnits_of_perm permuted⟩
  · by_cases resolves : Resolves lang files
    · have reversed := (alike files.reverse files.reverse_perm.symm).mp resolves
      exact .inl (declaredOnce_of_reverse (exists_resolve_eq_ok_iff.mp resolves).1
        (exists_resolve_eq_ok_iff.mp reversed).1)
    · exact .inr fun other permuted success => resolves ((alike other permuted).mpr success)
  · rintro (once | never) other permuted
    · have onceOther := (declaredOnce_perm permuted).mp once
      rw [Resolves, Resolves, exists_resolve_eq_ok_iff, exists_resolve_eq_ok_iff,
        and_iff_right once.registrable, and_iff_right onceOther.registrable, arranged_perm permuted]
    · exact iff_of_false (never files (.refl files)) (never other permuted)

/-- A module that one file declares without ports and another file with a port. -/
def redeclared : List Declarations :=
  [{ units := [.declare .verilog "a" "stub.sv"] },
   { units := [.declare .verilog "a" "a.sv"]
     ports := [("a", .declare .verilog "x" .input none)] }]

/-- The module is registered if its declaration without ports comes first, and refused as a
duplicate otherwise. -/
theorem resolves_in_one_order : ¬ ∀ (lang : Language) (files other : List Declarations),
    files.Perm other → (Resolves lang files ↔ Resolves lang other) := by
  intro claimed
  have items : (resolve .verilog redeclared).map (·.items) = .ok [⟨0, "a", "a.sv"⟩] := by cbv
  have duplicate : (resolve .verilog redeclared.reverse).map (·.items) =
      .error (.duplicate "module" "a") := by cbv
  obtain ⟨d, success, -⟩ := except_map_eq_ok_iff.mp items
  obtain ⟨e, reversed⟩ := (claimed .verilog redeclared _ redeclared.reverse_perm.symm).mp ⟨d, success⟩
  cases (except_map_eq_error_iff.mp duplicate).symm.trans reversed

end Design

end BoardBind
