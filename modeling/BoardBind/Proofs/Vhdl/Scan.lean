import BoardBind.Proofs.Source.Collected
import BoardBind.Proofs.Text.Lines
import BoardBind.Proofs.Vhdl.Ending

/-! # The scanner over the lines of a construct

Every line either opens a construct, closes the one it stands in, or stands inside of it. The lines
inside an entity add the ports that are declared on them, those inside an architecture the units that
are instantiated there, and lines outside of all constructs add nothing.
-/

namespace BoardBind.Vhdl

open Text Declarations

variable {file unit arch entity keyword : String} {line text rest name passed : List Char}
  {ls names : List (List Char)}
  {found : Declarations} {units : List DesignUnit} {ports : List (String × Port)}
  {instances : List Instance} {scope : Scope}

/-! ## Lines without a colon -/

theorem suffix_of_literal (found : literal passed text = some rest) : rest <:+ text :=
  literal_eq_some_iff.mp found ▸ List.suffix_append passed rest

theorem suffix_of_word (found : word text = some (name, rest)) : rest <:+ text :=
  (run_eq_some_iff.mp found).1 ▸ List.suffix_append name rest

theorem suffix_of_trimStart (found : rest <:+ trimStart text) : rest <:+ text :=
  found.trans (List.dropWhile_suffix _)

theorem moreNames_suffix (fuel : Nat) (text : List Char) : (moreNames fuel text).2 <:+ text := by
  induction fuel generalizing text with
  | zero => exact List.suffix_rfl
  | succ fuel ih =>
    rw [moreNames]
    simp only
    split
    · exact List.suffix_rfl
    · next name rest next =>
      obtain ⟨after, comma, taken⟩ := Option.bind_eq_some_iff.mp next
      exact (ih rest).trans ((suffix_of_trimStart (suffix_of_word taken)).trans
        (suffix_of_trimStart (suffix_of_literal comma)))

theorem suffix_of_nameList (found : nameList text = some (names, rest)) : rest <:+ text := by
  obtain ⟨⟨name, after⟩, taken, found⟩ := Option.bind_eq_some_iff.mp found
  obtain ⟨rfl, rfl⟩ := Prod.mk.inj (Option.some.inj found)
  exact (moreNames_suffix _ _).trans (suffix_of_word taken)

theorem colon_of_literal (found : literal [':'] (trimStart text) = some rest) : ':' ∈ text := by
  have member : ':' ∈ trimStart text := by
    rw [literal_eq_some_iff.mp found]
    exact List.mem_append_left _ List.mem_cons_self
  exact (List.dropWhile_suffix _).subset member

/-- A line without a colon declares no port. -/
theorem portLine?_of_notMem (plain : ':' ∉ line) : portLine? line = none := by
  rw [Option.eq_none_iff_forall_ne_some]
  intro decl found
  obtain ⟨front, after, rfl, accepted⟩ := exists_of_search found
  obtain ⟨⟨names, rest⟩, listed, accepted⟩ := Option.bind_eq_some_iff.mp accepted
  obtain ⟨typed, colon, -⟩ := Option.bind_eq_some_iff.mp accepted
  exact plain (List.mem_append_right _ ((suffix_of_nameList listed).subset (colon_of_literal colon)))

/-- A line without a colon instantiates no unit. -/
theorem instanceName?_of_notMem (plain : ':' ∉ line) : instanceName? line = none := by
  rw [Option.eq_none_iff_forall_ne_some]
  intro found success
  obtain ⟨⟨label, rest⟩, taken, success⟩ := Option.bind_eq_some_iff.mp success
  obtain ⟨after, colon, -⟩ := Option.bind_eq_some_iff.mp success
  exact plain ((suffix_of_trimStart (suffix_of_word taken)).subset (colon_of_literal colon))

/-! ## What stands on a line -/

/-- The ports that a declaration declares. -/
def PortLine.toPorts (decl : PortLine) : List Port :=
  decl.names.map fun name => .declare .vhdl (String.ofList name) decl.direction decl.range

/-- The ports declared on a line. -/
def portsOn (line : List Char) : List Port :=
  ((portLine? (code line)).map PortLine.toPorts).getD []

/-- The units that an architecture of `entity` instantiates on a line. -/
def instancesOn (entity : String) (line : List Char) : List Instance :=
  (Scan.child? (code line)).toList.map fun child => ⟨Scan.folded child, entity⟩

/-- The entities whose headers are found on a line. -/
def unitsOn (file : String) (line : List Char) : List DesignUnit :=
  (entityName? (code line)).toList.map fun name => .declare .vhdl (String.ofList name) file

/-- A line that is read as it was written. -/
def IsLine (line : List Char) : Prop := '\n' ∉ line ∧ '\r' ∉ line

instance : Decidable (IsLine line) := inferInstanceAs (Decidable ('\n' ∉ line ∧ '\r' ∉ line))

/-- A line that opens neither an entity nor an architecture. -/
structure OpensNoUnit (line : List Char) : Prop where
  plain : IsLine line
  entity : entityName? (code line) = none
  architecture : architectureNames? (code line) = none

/-- A line inside a construct, which it does not close. -/
structure Inside (keyword unit : String) (line : List Char) : Prop extends OpensNoUnit line where
  unclosed : closes keyword unit (code line) = false

instance : Decidable (OpensNoUnit line) :=
  decidable_of_iff (IsLine line ∧ entityName? (code line) = none ∧ architectureNames? (code line) = none)
    ⟨fun ⟨plain, entity, architecture⟩ => ⟨plain, entity, architecture⟩,
      fun ⟨plain, entity, architecture⟩ => ⟨plain, entity, architecture⟩⟩

instance : Decidable (Inside keyword unit line) :=
  decidable_of_iff (OpensNoUnit line ∧ closes keyword unit (code line) = false)
    ⟨fun ⟨outside, unclosed⟩ => ⟨outside, unclosed⟩, fun ⟨outside, unclosed⟩ => ⟨outside, unclosed⟩⟩

/-- A line inside an architecture that instantiates nothing. -/
structure Silent (arch : String) (line : List Char) : Prop extends Inside "architecture" arch line where
  childless : Scan.child? (code line) = none

instance : Decidable (Silent arch line) :=
  decidable_of_iff (Inside "architecture" arch line ∧ Scan.child? (code line) = none)
    ⟨fun ⟨inside, childless⟩ => ⟨inside, childless⟩, fun ⟨inside, childless⟩ => ⟨inside, childless⟩⟩

/-- A line that does nothing else than to close the construct it stands in. -/
structure Ends (keyword unit : String) (line : List Char) : Prop extends OpensNoUnit line where
  childless : Scan.child? (code line) = none
  closed : closes keyword unit (code line)

theorem foldl_addPorts (declared : ∃ u ∈ units, u.name = unit) (decl : PortLine) :
    Scan.addPorts unit decl (collected units ports instances) =
      collected units (ports ++ decl.toPorts.map fun port => (unit, port)) instances := by
  rw [← foldl_addPort_collected declared, PortLine.toPorts, List.foldl_map]
  rfl

/-! ## Lines of code -/

/-- The characters of a line of code: neither of a comment nor of a line end. -/
def isLineChar (c : Char) : Bool :=
  c ≠ '-' && c ≠ '\n' && c ≠ '\r'

theorem isLineChar_of_isWordChar {c : Char} (inWord : isWordChar c) : isLineChar c := by
  rcases ascii_or_variant_of_isWordChar inWord with small | variant
  · revert inWord
    exact forall_of_toNat_lt (fun c => isWordChar c → isLineChar c) (by decide +kernel) small
  · simp only [List.mem_cons, List.not_mem_nil, or_false] at variant
    rcases variant with rfl | rfl <;> decide

/-- A line of code, without a comment. -/
def IsCode (line : List Char) : Prop := ∀ c ∈ line, isLineChar c

instance : Decidable (IsCode line) :=
  List.decidableBAll (fun c : Char => isLineChar c) line

@[simp] theorem isCode_append : IsCode (text ++ rest) ↔ IsCode text ∧ IsCode rest :=
  List.forall_mem_append

@[simp] theorem isCode_cons {c : Char} : IsCode (c :: rest) ↔ isLineChar c ∧ IsCode rest :=
  List.forall_mem_cons

theorem isCode_indent (width : Nat) : IsCode (List.replicate width ' ') := fun _ member =>
  List.eq_of_mem_replicate member ▸ rfl

theorem isCode_of_isWord (named : IsWord name) : IsCode name :=
  fun c member => isLineChar_of_isWordChar (named.inside c member)

theorem before_of_notMem {mark : List Char} {c : Char} (absent : c ∉ text) :
    before (c :: mark) text = text := by
  induction text with
  | nil => rfl
  | cons d text ih =>
    rw [List.mem_cons, not_or] at absent
    have unmarked : literal (c :: mark) (d :: text) = none := if_neg absent.1
    rw [before, unmarked, Option.isSome_none, if_neg Bool.false_ne_true, ih absent.2]

/-- A line of code has no comment to drop. -/
theorem code_of_line (chars : IsCode line) : code line = line :=
  before_of_notMem (notMem_of_forall chars (by decide))

theorem IsCode.isLine (chars : IsCode line) : IsLine line :=
  ⟨notMem_of_forall chars (by decide), notMem_of_forall chars (by decide)⟩

/-- A line of code that introduces nothing opens nothing. -/
theorem opensNoUnit_of_line (chars : IsCode line) (nothing : OpensNothing line) : OpensNoUnit line := by
  have plain := chars.isLine
  rw [← code_of_line chars] at nothing
  exact ⟨plain, nothing.entity, nothing.architecture⟩

/-- A line of code is inside of every construct that it does not close. -/
theorem inside_of_line (chars : IsCode line) (nothing : OpensNothing line)
    (unclosed : closes keyword unit line = false) : Inside keyword unit line := by
  have outside := opensNoUnit_of_line chars nothing
  rw [← code_of_line chars] at unclosed
  exact ⟨outside, unclosed⟩

/-- A line of code that is no direct instance is silent in every architecture that it does not
close. -/
theorem silent_of_line (chars : IsCode line) (nothing : OpensNothing line)
    (unclosed : closes "architecture" arch line = false) (unlabelled : instanceName? line = none) :
    Silent arch line := by
  refine ⟨inside_of_line chars nothing unclosed, ?_⟩
  rw [code_of_line chars, Scan.child?, nothing.component, unlabelled, Option.or_none]

theorem flatMap_instancesOn_of_silent {ls : List String}
    (silent : ∀ line ∈ ls, Silent arch line.toList) :
    ls.flatMap (fun line => instancesOn entity line.toList) = [] := by
  refine List.flatMap_eq_nil_iff.mpr fun line member => ?_
  rw [instancesOn, (silent line member).childless]
  rfl

/-- A line of code without a colon that introduces nothing ends what it closes. -/
theorem ends_of_line (chars : IsCode line) (nothing : OpensNothing line) (plain : ':' ∉ line)
    (closed : closes keyword unit line) : Ends keyword unit line := by
  have outside := opensNoUnit_of_line chars nothing
  have childless : Scan.child? line = none := by
    rw [Scan.child?, nothing.component, instanceName?_of_notMem plain, Option.or_none]
  rw [← code_of_line chars] at childless closed
  exact ⟨outside, childless, closed⟩

/-- A line of code that declares, opens, closes and instantiates nothing. -/
structure Idle (line : List Char) : Prop where
  chars : IsCode line
  nothing : OpensNothing line
  plain : ':' ∉ line
  unended : caseless ['e', 'n', 'd'] (trimStart line) = none

instance : Decidable (Idle line) :=
  decidable_of_iff (IsCode line ∧ OpensNothing line ∧ ':' ∉ line ∧
      caseless ['e', 'n', 'd'] (trimStart line) = none)
    ⟨fun ⟨chars, nothing, plain, unended⟩ => ⟨chars, nothing, plain, unended⟩,
      fun ⟨chars, nothing, plain, unended⟩ => ⟨chars, nothing, plain, unended⟩⟩

namespace Idle

theorem inside (idle : Idle line) : Inside keyword unit line :=
  inside_of_line idle.chars idle.nothing (closes_of_unended idle.unended)

theorem portsOn (idle : Idle line) : portsOn line = [] := by
  rw [Vhdl.portsOn, code_of_line idle.chars, portLine?_of_notMem idle.plain]
  rfl

theorem silent (idle : Idle line) : Silent arch line :=
  silent_of_line idle.chars idle.nothing (closes_of_unended idle.unended)
    (instanceName?_of_notMem idle.plain)

/-- A line that says nothing does so at every indentation. -/
theorem indent (idle : Idle line) (width : Nat) : Idle (List.replicate width ' ' ++ line) where
  chars := isCode_append.mpr ⟨isCode_indent width, idle.chars⟩
  nothing := idle.nothing.indent width
  plain := by
    intro member
    rcases List.mem_append.mp member with blank | inLine
    · exact absurd (List.eq_of_mem_replicate blank) (by decide)
    · exact idle.plain inLine
  unended := by
    rw [trimStart_append fun _ member => List.eq_of_mem_replicate member ▸ rfl]
    exact idle.unended

end Idle

/-! ## One line -/

namespace Scan

/-- A line outside of all constructs that opens none. -/
theorem step_outside (idle : OpensNoUnit line) :
    step file ⟨found, .outside⟩ line = ⟨found, .outside⟩ := by
  simp only [step, openEntity, readEntity, openArchitecture, readArchitecture, idle.entity,
    idle.architecture]

/-- The header of an entity, wherever it stands. -/
theorem step_openEntity {name : List Char} (header : entityName? (code line) = some name)
    (alone : architectureNames? (code line) = none) (portless : portLine? (code line) = none)
    (unclosed : ∀ unit, closes "entity" unit (code line) = false) :
    step file ⟨collected units ports instances, scope⟩ line =
      ⟨collected (units ++ [DesignUnit.declare .vhdl (String.ofList name) file]) ports instances,
        .entity (folded name)⟩ := by
  simp only [step, openEntity, readEntity, openArchitecture, readArchitecture, header, alone, portless,
    unclosed, Bool.false_eq_true, if_false, addUnit_collected]

/-- A line inside an entity. -/
theorem step_entity (inside : Inside "entity" unit line) (declared : ∃ u ∈ units, u.name = unit) :
    step file ⟨collected units ports instances, .entity unit⟩ line =
      ⟨collected units (ports ++ (portsOn line).map fun port => (unit, port)) instances,
        .entity unit⟩ := by
  simp only [step, openEntity, readEntity, openArchitecture, readArchitecture, inside.entity,
    inside.architecture, inside.unclosed, Bool.false_eq_true, if_false, portsOn]
  cases portLine? (code line) with
  | none => simp
  | some decl => simp [foldl_addPorts declared]

/-- The last line of an entity. -/
theorem step_closeEntity (ends : Ends "entity" unit line) :
    step file ⟨found, .entity unit⟩ line = ⟨found, .outside⟩ := by
  simp only [step, openEntity, readEntity, openArchitecture, readArchitecture, ends.entity,
    ends.architecture, ends.closed, if_true]

/-- The header of an architecture: what else is found on that line is taken for a unit of its own, or
for an instance inside the architecture. -/
theorem step_openArchitecture {name entity : List Char}
    (header : architectureNames? (code line) = some (name, entity))
    (portless : portLine? (code line) = none)
    (unclosed : ∀ keyword unit, closes keyword unit (code line) = false) :
    step file ⟨collected units ports instances, .outside⟩ line =
      ⟨collected (units ++ unitsOn file line) ports (instances ++ instancesOn (folded entity) line),
        .architecture (folded name) (folded entity)⟩ := by
  simp only [step, openEntity, readEntity, openArchitecture, readArchitecture, header, portless,
    unclosed, Bool.false_eq_true, if_false, unitsOn, instancesOn, Scope.owner]
  cases entityName? (code line) <;> cases child? (code line) <;>
    simp [addUnit_collected, addInstance_collected]

/-- A line inside an architecture. -/
theorem step_architecture (inside : Inside "architecture" arch line) :
    step file ⟨collected units ports instances, .architecture arch entity⟩ line =
      ⟨collected units ports (instances ++ instancesOn entity line), .architecture arch entity⟩ := by
  simp only [step, openEntity, readEntity, openArchitecture, readArchitecture, inside.entity,
    inside.architecture, inside.unclosed, Bool.false_eq_true, if_false, instancesOn, Scope.owner]
  cases child? (code line) <;> simp [addInstance_collected]

/-- The last line of an architecture. -/
theorem step_closeArchitecture (ends : Ends "architecture" arch line) :
    step file ⟨found, .architecture arch entity⟩ line = ⟨found, .outside⟩ := by
  simp only [step, openEntity, readEntity, openArchitecture, readArchitecture, ends.entity,
    ends.architecture, ends.childless, ends.closed, if_true]

end Scan

/-! ## Runs of lines -/

/-- The scanner gets from one state to another over written lines. -/
structure Reads (file : String) (ls : List String) (s t : Scan) : Prop where
  plain : ∀ line ∈ ls, IsLine line.toList
  scanned : scanLines file (ls.map String.toList) s = t

/-- A text whose lines are read is scanned. -/
theorem Reads.scan_eq {ls : List String} {s : Scan} (reads : Reads file ls {} s) :
    scan (unlines ls) file = s.found := by
  have whole : ∀ line ∈ ls, IsWhole line := fun line member =>
    ⟨(reads.plain line member).1, fun last => (reads.plain line member).2 (List.mem_of_getLast? last)⟩
  rw [scan, lines_unlines_of_whole whole, reads.scanned]

namespace Reads

variable {first second ls : List String} {s t u : Scan}

theorem nil : Reads file [] s s := ⟨List.forall_mem_nil _, rfl⟩

theorem single {line : String} (plain : IsLine line.toList) (read : s.step file line.toList = t) :
    Reads file [line] s t := by
  refine ⟨fun other member => ?_, read⟩
  rwa [List.mem_singleton.mp member]

theorem append (front : Reads file first s t) (back : Reads file second t u) :
    Reads file (first ++ second) s u where
  plain := List.forall_mem_append.mpr ⟨front.plain, back.plain⟩
  scanned := by
    have apart : scanLines file (first.map String.toList ++ second.map String.toList) s =
        scanLines file (second.map String.toList) (scanLines file (first.map String.toList) s) :=
      List.foldl_append
    rw [List.map_append, apart, front.scanned, back.scanned]

/-- Lines outside of all constructs. -/
theorem outsideLines (idle : ∀ line ∈ ls, OpensNoUnit line.toList) :
    Reads file ls ⟨found, .outside⟩ ⟨found, .outside⟩ := by
  induction ls with
  | nil => exact nil
  | cons line rest ih =>
    rw [List.forall_mem_cons] at idle
    exact (Reads.single idle.1.plain (Scan.step_outside idle.1)).append (ih idle.2)

/-- Lines inside a declared entity. -/
theorem entityLines (inside : ∀ line ∈ ls, Inside "entity" unit line.toList)
    (declared : ∃ u ∈ units, u.name = unit) :
    Reads file ls ⟨collected units ports instances, .entity unit⟩
      ⟨collected units (ports ++ (ls.flatMap fun line => portsOn line.toList).map fun port => (unit, port))
        instances, .entity unit⟩ := by
  induction ls generalizing ports with
  | nil =>
    rw [List.flatMap_nil, List.map_nil, List.append_nil]
    exact nil
  | cons line rest ih =>
    rw [List.forall_mem_cons] at inside
    rw [List.flatMap_cons, List.map_append, ← List.append_assoc]
    exact (Reads.single inside.1.plain (Scan.step_entity inside.1 declared)).append (ih inside.2)

/-- Lines inside an architecture. -/
theorem architectureLines (inside : ∀ line ∈ ls, Inside "architecture" arch line.toList) :
    Reads file ls ⟨collected units ports instances, .architecture arch entity⟩
      ⟨collected units ports (instances ++ ls.flatMap fun line => instancesOn entity line.toList),
        .architecture arch entity⟩ := by
  induction ls generalizing instances with
  | nil =>
    rw [List.flatMap_nil, List.append_nil]
    exact nil
  | cons line rest ih =>
    rw [List.forall_mem_cons] at inside
    rw [List.flatMap_cons, ← List.append_assoc]
    exact (Reads.single inside.1.plain (Scan.step_architecture inside.1)).append (ih inside.2)

end Reads

end BoardBind.Vhdl
