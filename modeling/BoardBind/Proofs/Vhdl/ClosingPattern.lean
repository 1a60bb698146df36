import BoardBind.Proofs.Source.Names

/-! # Closing patterns that are left behind

The construct that a line of a source stands in can be kept as two names, each empty while nothing of its
kind is open, beside the closing patterns that were built last. The patterns are never dropped, so a
construct that is closed leaves its pattern behind. No line is compared with such a pattern: whatever is
open has built its own. So a scanner with two names and two patterns finds what the one finds that keeps
the construct itself.
-/

namespace BoardBind.Vhdl

open Text

variable {file : String} {line : List Char} {s : Scan}

/-- What a scanner with two names and two closing patterns knows between two lines. -/
structure Registers where
  found : Declarations := {}
  unit : String := ""
  architecture : String := ""
  unitEnd : Option (List Char → Bool) := none
  architectureEnd : Option (List Char → Bool) := none

namespace Registers

def openEntity (file : String) (line : List Char) (r : Registers) : Registers :=
  match entityName? line with
  | some name =>
    { r with
      found := r.found.addUnit (.declare .vhdl (String.ofList name) file)
      unit := Scan.folded name
      architecture := ""
      unitEnd := some (closes "entity" (Scan.folded name)) }
  | none => r

/-- A closing line drops the name of the entity, and its ports are then recorded for no entity. -/
def readEntity (line : List Char) (r : Registers) : Registers :=
  if r.unit ≠ "" ∧ r.architecture = "" then
    let unit := if r.unitEnd.any (· line) then "" else r.unit
    match portLine? line with
    | some decl => { r with unit, found := Scan.addPorts unit decl r.found }
    | none => { r with unit }
  else r

def openArchitecture (line : List Char) (r : Registers) : Registers :=
  match architectureNames? line with
  | some (name, entity) =>
    { r with
      unit := Scan.folded entity
      architecture := Scan.folded name
      architectureEnd := some (closes "architecture" (Scan.folded name)) }
  | none => r

def readArchitecture (line : List Char) (r : Registers) : Registers :=
  if r.architecture ≠ "" then
    let r := if r.architectureEnd.any (· line) then { r with unit := "", architecture := "" } else r
    match Scan.child? line with
    | some child => { r with found := r.found.addInstance ⟨Scan.folded child, r.unit⟩ }
    | none => r
  else r

def step (file : String) (r : Registers) (line : List Char) : Registers :=
  let line := code line
  readArchitecture line (openArchitecture line (readEntity line (openEntity file line r)))

def scanLines (file : String) (lines : List (List Char)) (r : Registers) : Registers :=
  lines.foldl (step file) r

def scan (text file : String) : Declarations :=
  (scanLines file (lines text.toList) {}).found

/-- The names are those of a construct, and the pattern of what is open is the one of its name. Of a
pattern that is not consulted nothing is said. -/
def Holds (r : Registers) : Scope → Prop
  | .outside => r.unit = "" ∧ r.architecture = ""
  | .entity name =>
    name ≠ "" ∧ r.unit = name ∧ r.architecture = "" ∧ r.unitEnd = some (closes "entity" name)
  | .architecture name unit =>
    name ≠ "" ∧ r.unit = unit ∧ r.architecture = name ∧
      r.architectureEnd = some (closes "architecture" name)

/-- What one scanner knows is what the other one knows. -/
structure Tracks (r : Registers) (s : Scan) : Prop where
  found : r.found = s.found
  /-- No port can be recorded for the empty name. -/
  named : ¬ s.found.declares ""
  scope : r.Holds s.scope

end Registers

theorem Scan.folded_ne {name : List Char} (spelled : name ≠ []) : Scan.folded name ≠ "" := by
  intro empty
  refine spelled ?_
  have chars := congrArg String.toList empty
  simpa [Scan.folded, Language.fold, String.toLower] using chars

theorem wordBetween_ne_nil {opening closing : String} {text name rest : List Char}
    (found : wordBetween opening closing text = some (name, rest)) : name ≠ [] := by
  obtain ⟨_, -, found⟩ := Option.bind_eq_some_iff.mp found
  obtain ⟨_, -, found⟩ := Option.bind_eq_some_iff.mp found
  obtain ⟨⟨taken, _⟩, word, found⟩ := Option.bind_eq_some_iff.mp found
  obtain ⟨_, -, found⟩ := Option.bind_eq_some_iff.mp found
  obtain ⟨_, -, found⟩ := Option.bind_eq_some_iff.mp found
  obtain ⟨rfl, -⟩ := Prod.mk.inj (Option.some.inj found)
  exact (run_eq_some_iff.mp word).2.1

theorem entityName?_ne_nil {name : List Char} (found : entityName? line = some name) : name ≠ [] := by
  obtain ⟨⟨_, _⟩, searched, rfl⟩ := Option.map_eq_some_iff.mp found
  obtain ⟨_, _, -, between⟩ := exists_of_search searched
  exact wordBetween_ne_nil between

theorem architectureNames?_ne_nil {name entity : List Char}
    (found : architectureNames? line = some (name, entity)) : name ≠ [] ∧ entity ≠ [] := by
  obtain ⟨_, _, -, found⟩ := exists_of_search found
  obtain ⟨⟨_, _⟩, between, found⟩ := Option.bind_eq_some_iff.mp found
  obtain ⟨_, -, found⟩ := Option.bind_eq_some_iff.mp found
  obtain ⟨⟨_, _⟩, word, found⟩ := Option.bind_eq_some_iff.mp found
  obtain ⟨_, -, found⟩ := Option.bind_eq_some_iff.mp found
  obtain ⟨_, -, found⟩ := Option.bind_eq_some_iff.mp found
  obtain ⟨rfl, rfl⟩ := Prod.mk.inj (Option.some.inj found)
  exact ⟨wordBetween_ne_nil between, (run_eq_some_iff.mp word).2.1⟩

namespace Registers

variable {r : Registers}

/-- A port of the empty name is recorded nowhere. -/
theorem addPorts_of_undeclared {found : Declarations} {unit : String} (undeclared : ¬ found.declares unit)
    (decl : PortLine) : Scan.addPorts unit decl found = found :=
  List.foldlRecOn (motive := (· = found)) decl.names _ rfl fun later same name _ => by
    rw [same, Declarations.addPort, if_neg undeclared]

theorem tracks_openEntity (tracks : Tracks r s) :
    Tracks (r.openEntity file line) (s.openEntity file line) := by
  unfold openEntity Scan.openEntity
  cases opened : entityName? line with
  | none => exact tracks
  | some name =>
    have spelled := Scan.folded_ne (entityName?_ne_nil opened)
    refine ⟨congrArg (Declarations.addUnit · _) tracks.found, ?_, spelled, rfl, rfl, rfl⟩
    have named := tracks.named
    simp only [Declarations.declares, Declarations.addUnit, List.any_append, Bool.or_eq_true,
      not_or] at named ⊢
    exact ⟨named, by simpa [DesignUnit.declare, Scan.folded] using spelled⟩

theorem tracks_readEntity (tracks : Tracks r s) : Tracks (r.readEntity line) (s.readEntity line) := by
  obtain ⟨found, named, scope⟩ := tracks
  obtain ⟨known, construct⟩ := s
  dsimp only at found named scope
  unfold readEntity
  cases construct with
  | outside =>
    rw [if_neg fun inside => inside.1 scope.1]
    exact ⟨found, named, scope⟩
  | architecture name unit =>
    obtain ⟨spelled, -, architecture, -⟩ := id scope
    rw [if_neg fun inside => spelled (architecture.symm.trans inside.2)]
    exact ⟨found, named, scope⟩
  | entity name =>
    obtain ⟨spelled, unit, architecture, pattern⟩ := scope
    rw [if_pos ⟨unit ▸ spelled, architecture⟩, pattern, unit, found, Scan.readEntity]
    dsimp only [Option.any_some]
    by_cases closed : closes "entity" name line
    · -- The ports of the closing line are read for the name that it has just dropped.
      rw [if_pos closed, if_pos closed]
      cases portLine? line with
      | none => exact ⟨rfl, named, rfl, architecture⟩
      | some decl => exact ⟨addPorts_of_undeclared named decl, named, rfl, architecture⟩
    · rw [if_neg closed, if_neg closed]
      cases portLine? line with
      | none => exact ⟨rfl, named, spelled, rfl, architecture, rfl⟩
      | some decl =>
        refine ⟨rfl, ?_, spelled, rfl, architecture, rfl⟩
        rwa [Declarations.declares, Scan.units_addPorts]

theorem tracks_openArchitecture (tracks : Tracks r s) :
    Tracks (r.openArchitecture line) (s.openArchitecture line) := by
  unfold openArchitecture Scan.openArchitecture
  cases opened : architectureNames? line with
  | none => exact tracks
  | some names =>
    exact ⟨tracks.found, tracks.named, Scan.folded_ne (architectureNames?_ne_nil opened).1, rfl, rfl, rfl⟩

theorem tracks_readArchitecture (tracks : Tracks r s) :
    Tracks (r.readArchitecture line) (s.readArchitecture line) := by
  obtain ⟨found, named, scope⟩ := tracks
  obtain ⟨known, construct⟩ := s
  dsimp only at found named scope
  unfold readArchitecture
  cases construct with
  | outside =>
    rw [if_neg (not_not.mpr scope.2)]
    exact ⟨found, named, scope⟩
  | entity name =>
    rw [if_neg (not_not.mpr scope.2.2.1)]
    exact ⟨found, named, scope⟩
  | architecture name unit =>
    obtain ⟨spelled, owner, architecture, pattern⟩ := scope
    rw [if_pos (architecture ▸ spelled), pattern, Scan.readArchitecture]
    dsimp only [Option.any_some]
    by_cases closed : closes "architecture" name line
    · rw [if_pos closed, if_pos closed]
      cases Scan.child? line with
      | none => exact ⟨found, named, rfl, rfl⟩
      | some child =>
        refine ⟨congrArg (Declarations.addInstance · _) found, ?_, rfl, rfl⟩
        rwa [Declarations.declares, Declarations.units_addInstance]
    · rw [if_neg closed, if_neg closed]
      cases Scan.child? line with
      | none => exact ⟨found, named, spelled, owner, architecture, pattern⟩
      | some child =>
        refine ⟨?_, ?_, spelled, owner, architecture, pattern⟩
        · dsimp only [Scope.owner]
          rw [found, owner]
        · rwa [Declarations.declares, Declarations.units_addInstance]

/-- A line keeps the names and the consulted patterns those of the construct it ends in. -/
theorem tracks_step (tracks : Tracks r s) : Tracks (r.step file line) (s.step file line) :=
  tracks_readArchitecture (tracks_openArchitecture (tracks_readEntity (tracks_openEntity tracks)))

theorem tracks_scanLines (tracks : Tracks r s) (lines : List (List Char)) :
    Tracks (r.scanLines file lines) (Vhdl.scanLines file lines s) := by
  induction lines generalizing r s with
  | nil => exact tracks
  | cons line lines ih => exact ih (tracks_step tracks)

theorem tracks_empty : Tracks {} {} :=
  ⟨rfl, Bool.false_ne_true, rfl, rfl⟩

/-- Both names are empty behind a line exactly if no construct is open there. -/
theorem Tracks.closed_iff (tracks : Tracks r s) :
    r.unit = "" ∧ r.architecture = "" ↔ s.scope = .outside := by
  have scope := tracks.scope
  cases construct : s.scope with
  | outside =>
    rw [construct] at scope
    exact iff_of_true scope rfl
  | entity name =>
    rw [construct] at scope
    exact iff_of_false (fun closed => scope.1 (scope.2.1.symm.trans closed.1)) Scope.noConfusion
  | architecture name unit =>
    rw [construct] at scope
    exact iff_of_false (fun closed => scope.1 (scope.2.2.1.symm.trans closed.2)) Scope.noConfusion

/-- What is found in a text does not depend on the patterns that closed constructs have left behind. -/
theorem scan_eq (text file : String) : scan text file = Vhdl.scan text file :=
  (tracks_scanLines tracks_empty _).found

theorem closed_scanLines_iff (lines : List (List Char)) :
    (scanLines file lines {}).unit = "" ∧ (scanLines file lines {}).architecture = "" ↔
      (Vhdl.scanLines file lines {}).scope = .outside :=
  (tracks_scanLines tracks_empty lines).closed_iff

end Registers

end BoardBind.Vhdl
