import BoardBind.Proofs.Source.Names
import BoardBind.Proofs.Text.Lines

/-! # Scanning sources that stand behind each other

A scanner that has closed every construct of a text reads what follows as it would read that alone, and
keeps what it has found before. A port is recorded for an entity that is open, which the scanner has met
in the same text: so what is found in a text does not depend on a text that stands before it.
-/

namespace BoardBind

namespace Declarations

variable (a b : Declarations)

theorem addUnit_merge (u : DesignUnit) : (a.merge b).addUnit u = a.merge (b.addUnit u) := by
  rw [addUnit, merge, merge, addUnit, List.append_assoc]

theorem addInstance_merge (i : Instance) : (a.merge b).addInstance i = a.merge (b.addInstance i) := by
  -- What the first text has is not listed again, however often it is met in the second one.
  by_cases first : i ∈ a.instances
  · have dropped : ([i].filter fun i => decide (i ∉ a.instances)) = [] := by simp [first]
    have known : i ∈ (a.merge b).instances := List.mem_append_left _ first
    rw [addInstance, if_pos known, addInstance]
    split
    · rfl
    · rw [merge, merge, List.filter_append, dropped, List.append_nil]
  · have same : i ∈ (a.merge b).instances ↔ i ∈ b.instances := by simp [merge, first]
    have kept : ([i].filter fun i => decide (i ∉ a.instances)) = [i] := by simp [first]
    rw [addInstance, addInstance]
    simp only [same]
    split
    · rfl
    · rw [merge, merge, List.filter_append, kept, List.append_assoc]

variable {b} in
theorem addPort_merge {unit : String} (declared : b.declares unit) (port : Port) :
    (a.merge b).addPort unit port = a.merge (b.addPort unit port) := by
  have known : (a.merge b).declares unit := by
    rw [declares, merge, List.any_append, Bool.or_eq_true]
    exact .inr declared
  rw [addPort, if_pos known, addPort, if_pos declared, merge, merge, List.append_assoc]

theorem portsOf_merge (unit : String) : (a.merge b).portsOf unit = a.portsOf unit ++ b.portsOf unit :=
  List.filterMap_append

end Declarations

namespace Vhdl

open Text

variable {base : Declarations} {file : String} {line : List Char} {s : Scan}

namespace Scan

/-- A scanner that had found declarations before the text. -/
def after (base : Declarations) (s : Scan) : Scan := { s with found := base.merge s.found }

/-- An entity that is open was declared in the text. -/
def Declared (s : Scan) : Prop := ∀ name, s.scope = .entity name → s.found.declares name

theorem declared_openEntity (declared : s.Declared) : (s.openEntity file line).Declared := by
  unfold openEntity
  split
  · next spelling _ =>
    intro name opened
    obtain rfl := Scope.entity.inj opened
    rw [Declarations.declares, Declarations.addUnit, List.any_append]
    exact Bool.or_eq_true_iff.mpr (.inr (by simp [DesignUnit.declare, folded]))
  · exact declared

/-- What opens no entity and leaves the units keeps an open entity declared. -/
theorem Declared.of_units {t : Scan} (declared : s.Declared) (units : t.found.units = s.found.units)
    (scope : ∀ name, t.scope = .entity name → s.scope = .entity name) : t.Declared := by
  intro name opened
  rw [Declarations.declares, units]
  exact declared name (scope name opened)

theorem declared_readEntity (declared : s.Declared) : (s.readEntity line).Declared := by
  refine declared.of_units (units_readEntity line s) fun name opened => ?_
  unfold readEntity at opened
  split at opened
  · next unit inside =>
    split at opened
    · cases opened
    · split at opened <;> exact opened
  · exact opened

theorem declared_openArchitecture (declared : s.Declared) : (s.openArchitecture line).Declared := by
  refine declared.of_units (units_openArchitecture line s) fun name opened => ?_
  unfold openArchitecture at opened
  split at opened
  · cases opened
  · exact opened

theorem declared_readArchitecture (declared : s.Declared) : (s.readArchitecture line).Declared := by
  refine declared.of_units (units_readArchitecture line s) fun name opened => ?_
  unfold readArchitecture at opened
  split at opened
  · next inside =>
    dsimp only at opened
    split at opened <;> split_ifs at opened <;> exact opened
  · exact opened

theorem declared_step (declared : s.Declared) : (s.step file line).Declared :=
  declared_readArchitecture (declared_openArchitecture (declared_readEntity (declared_openEntity declared)))

theorem openEntity_after (s : Scan) :
    (s.after base).openEntity file line = (s.openEntity file line).after base := by
  unfold openEntity
  cases entityName? line with
  | none => rfl
  | some name => simp only [after, Declarations.addUnit_merge]

theorem addPorts_merge {unit : String} (decl : PortLine) {found : Declarations}
    (declared : found.declares unit) :
    addPorts unit decl (base.merge found) = base.merge (addPorts unit decl found) := by
  unfold addPorts
  generalize decl.names = names
  induction names generalizing found with
  | nil => rfl
  | cons name names ih =>
    rw [List.foldl_cons, Declarations.addPort_merge base declared, List.foldl_cons]
    refine ih ?_
    rwa [Declarations.declares, Declarations.units_addPort]

theorem readEntity_after (declared : s.Declared) :
    (s.after base).readEntity line = (s.readEntity line).after base := by
  obtain ⟨found, scope⟩ := s
  cases scope with
  | outside => rfl
  | architecture name unit => rfl
  | entity name =>
    simp only [readEntity, after]
    split
    · rfl
    · split
      · rw [addPorts_merge _ (declared name rfl)]
      · rfl

theorem openArchitecture_after (s : Scan) :
    (s.after base).openArchitecture line = (s.openArchitecture line).after base := by
  unfold openArchitecture
  split <;> rfl

theorem readArchitecture_after (s : Scan) :
    (s.after base).readArchitecture line = (s.readArchitecture line).after base := by
  obtain ⟨found, scope⟩ := s
  cases scope with
  | outside => rfl
  | entity name => rfl
  | architecture name unit =>
    simp only [readArchitecture, after]
    split
    · rw [Declarations.addInstance_merge]
    · rfl

/-- A line is read after other declarations as it is read alone. -/
theorem step_after (declared : s.Declared) :
    (s.after base).step file line = (s.step file line).after base := by
  simp only [step]
  rw [openEntity_after, readEntity_after (declared_openEntity declared), openArchitecture_after,
    readArchitecture_after]

end Scan

theorem scanLines_after (declared : s.Declared) (lines : List (List Char)) :
    scanLines file lines (s.after base) = (scanLines file lines s).after base := by
  induction lines generalizing s with
  | nil => rfl
  | cons line lines ih =>
    rw [scanLines, List.foldl_cons, Scan.step_after declared]
    exact ih (Scan.declared_step declared)

/-- A text behind one that ends its last line and has closed every construct is scanned as it is alone:
the entities stand behind those of the first text, and so do its instances, but for those that the first
text has, and the ports of every entity. -/
theorem scan_append {a : String} {file : String} (closed : a = "" ∨ a.toList.getLast? = some '\n')
    (outside : (scanLines file (lines a.toList) {}).scope = .outside) (b : String) :
    scan (a ++ b) file = (scan a file).merge (scan b file) ∧
      (scan (a ++ b) file).units = (scan a file).units ++ (scan b file).units ∧
      (scan (a ++ b) file).instances = (scan a file).instances ++
        (scan b file).instances.filter (fun i => i ∉ (scan a file).instances) ∧
      ∀ unit, (scan (a ++ b) file).portsOf unit =
        (scan a file).portsOf unit ++ (scan b file).portsOf unit := by
  have apart : lines (a ++ b).toList = lines a.toList ++ lines b.toList := by
    rw [String.toList_append]
    exact lines_append_of_closed (closed.imp_left (congrArg String.toList)) b.toList
  have first : scanLines file (lines a.toList) {} = Scan.after (scan a file) {} := by
    have nothing : (scan a file).merge {} = scan a file := by simp [Declarations.merge]
    calc scanLines file (lines a.toList) {}
        = ⟨scan a file, (scanLines file (lines a.toList) {}).scope⟩ := rfl
      _ = ⟨scan a file, .outside⟩ := by rw [outside]
      _ = Scan.after (scan a file) {} := by rw [Scan.after, nothing]
  have alone : Scan.Declared {} := fun _ opened => nomatch opened
  have merged : scan (a ++ b) file = (scan a file).merge (scan b file) := by
    rw [scan, apart, scanLines, List.foldl_append, ← scanLines, ← scanLines, first, scanLines_after alone]
    rfl
  refine ⟨merged, ?_, ?_, fun unit => ?_⟩
  · rw [merged, Declarations.merge]
  · rw [merged, Declarations.merge]
  · rw [merged, Declarations.portsOf_merge]

/-- An entity and an architecture with one instance. -/
def lampHalf : String :=
  "entity lamp is\nport (a : in std_logic);\nend;\narchitecture x of lamp is\nu : entity bulb;\nend;\n"

/-- The entity written twice is declared twice, has the ports of both, and its instance is listed once. -/
theorem scan_lampHalf_twice :
    (lampHalf.toList.getLast? = some '\n' ∧
      (scanLines "lamp.vhd" (lines lampHalf.toList) {}).scope = .outside) ∧
    (scan (lampHalf ++ lampHalf) "lamp.vhd").instances = [⟨"bulb", "lamp"⟩] ∧
    (scan (lampHalf ++ lampHalf) "lamp.vhd").portsOf "lamp" =
      [⟨"a", "a", .input, none⟩, ⟨"a", "a", .input, none⟩] := by
  have closed : lampHalf.toList.getLast? = some '\n' := by
    rw [lampHalf, String.toList_ofList]
    rfl
  have scanned : scanLines "lamp.vhd" (lines lampHalf.toList) {} =
      ⟨⟨[⟨"lamp", "lamp", "lamp.vhd"⟩], [("lamp", ⟨"a", "a", .input, none⟩)], [⟨"bulb", "lamp"⟩]⟩,
        .outside⟩ := by
    rw [lampHalf, String.toList_ofList]
    decide +kernel
  have outside : (scanLines "lamp.vhd" (lines lampHalf.toList) {}).scope = .outside := by rw [scanned]
  have found : scan lampHalf "lamp.vhd" = ⟨[⟨"lamp", "lamp", "lamp.vhd"⟩],
      [("lamp", ⟨"a", "a", .input, none⟩)], [⟨"bulb", "lamp"⟩]⟩ := by rw [scan, scanned]
  obtain ⟨-, -, instances, ports⟩ := scan_append (.inr closed) outside lampHalf
  refine ⟨⟨closed, outside⟩, instances.trans ?_, (ports "lamp").trans ?_⟩
  · rw [found]
    decide
  · rw [found]
    decide

end Vhdl

end BoardBind
