import BoardBind.Proofs.Port.Bits
import BoardBind.Proofs.Vhdl.Header
import BoardBind.Proofs.Vhdl.Source
import BoardBind.Proofs.Wrapper.Block

/-! # Scanning canonical sources

What the scanner finds in the canonical text of a source is told unit by unit. It is what the source
declares, unless the header of an architecture is misread: the pattern for the header of an entity or a
component may match at the end of the architecture's name, and then takes the word `of` for a name.
-/

namespace BoardBind.Vhdl

open Text Declarations

variable {file keyword unit : String} {units : List DesignUnit} {ports : List (String × Port)}
  {instances : List Instance} {source : List SourceUnit}

theorem Name.isWord (name : Name) : IsWord name.text.toList := isWord_of_isValidName name.valid

theorem Name.folded_toList (name : Name) : Scan.folded name.text.toList = name.folded :=
  Vhdl.folded_toList name.text

theorem Name.isWord_folded (name : Name) : IsWord name.folded.toList :=
  name.folded_toList ▸ Vhdl.isWord_folded name.isWord

theorem Name.folded_ne_of (name : Name) : name.folded ≠ "of" :=
  fold_ne_of_isValidName name.valid (by decide)

/-! ## Ports -/

/-- A range within 63 bits has more than one index unless its bounds are equal. -/
theorem one_lt_width_ofBounds (bounds : Bounds) :
    1 < (BitRange.ofBounds bounds.upper bounds.lower).width ↔ bounds.upper ≠ bounds.lower := by
  have upper_lt := bounds.upper_lt
  have lower_lt := bounds.lower_lt
  rw [UInt64.lt_iff_toNat_lt, BitRange.toNat_width, ne_eq, ← UInt64.toNat_inj, BitRange.ofBounds]
  change 1 < _ ↔ _
  split
  · next ordered =>
    have := UInt64.le_iff_toNat_le.mp ordered
    simp only
    omega
  · next unordered =>
    have := UInt64.le_iff_toNat_le.mp (UInt64.le_of_lt (UInt64.not_le.mp unordered))
    simp only
    omega

/-- A declared port has the range of its bounds. -/
theorem declare_bounds (name : Name) (direction : Direction) (bounds : Option Bounds) :
    Port.declare .vhdl name.text direction ((bounds.map fun b => (b.upper, b.lower)).map fun b =>
      BitRange.ofBounds b.1 b.2) =
      { name := name.folded
        spelling := name.text
        direction := direction
        range := bounds.bind Bounds.range? } := by
  cases bounds with
  | none => rfl
  | some bounds =>
    have kept : (some (BitRange.ofBounds bounds.upper bounds.lower)).filter (fun r => 1 < r.width) =
        bounds.range? := by
      simp only [Option.filter, decide_eq_true_eq, one_lt_width_ofBounds, Bounds.range?, ne_eq, ite_not]
    simp only [Port.declare, Option.map_some, Option.bind_some, kept]
    rfl

theorem intercalate_eq_furtherNames (name : List Char) (names : List (List Char)) :
    ", ".toList.intercalate (name :: names) = name ++ furtherNames names := by
  induction names generalizing name with
  | nil => simp [furtherNames]
  | cons next names ih =>
    rw [List.intercalate_cons_cons, ih next, furtherNames, furtherNames, List.flatMap_cons]
    simp

/-- A declaration of ports on its line. -/
theorem PortGroup.toList_text (group : PortGroup) (width : Nat) (ending : String) :
    (indentation width ++ group.text ++ ending).toList =
      declarationChars width group.first.text.toList (group.others.map fun name => name.text.toList)
        group.direction (group.bounds.map fun b => (b.upper, b.lower)) ending := by
  simp only [indentation, PortGroup.text, String.toList_append, String.toList_ofList,
    String.toList_intercalate, List.map_map, List.map_cons, intercalate_eq_furtherNames,
    declarationChars, List.append_assoc]
  rfl

/-- What stands behind the declarations of a canonical port clause. -/
theorem mem_endings_of_separator {ending : String} (chosen : ending ∈ [";", ""]) : ending ∈ endings := by
  revert chosen ending
  decide

namespace PortGroup

variable (group : PortGroup) (width : Nat) {ending : String} (chosen : ending ∈ [";", ""])

include chosen

theorem inside_text (spelled : IsWord keyword.toList) (other : IsWord unit.toList) :
    Inside keyword unit (indentation width ++ group.text ++ ending).toList := by
  rw [toList_text]
  refine inside_declarationChars width group.first.isWord ?_ (mem_endings_of_separator chosen)
    spelled other
  simp [Name.isWord]

theorem portsOn_text : portsOn (indentation width ++ group.text ++ ending).toList = group.ports := by
  have names : group.first.text.toList :: group.others.map (fun name => name.text.toList) =
      (group.first :: group.others).map fun name => name.text.toList := rfl
  rw [toList_text, portsOn_declarationChars width group.first.isWord (by simp [Name.isWord])
    (mem_endings_of_separator chosen), PortGroup.ports, names, List.map_map]
  refine List.map_congr_left fun name _ => ?_
  rw [Function.comp_apply, String.ofList_toList, declare_bounds]

theorem silent_text (other : IsWord unit.toList) :
    Silent unit (indentation width ++ group.text ++ ending).toList := by
  rw [toList_text]
  exact silent_declarationChars width group.first.isWord (by simp [Name.isWord])
    (mem_endings_of_separator chosen) other

end PortGroup

/-- The lines around the declarations of a port clause say nothing. -/
theorem idle_indentation {line : String} (width : Nat) (known : line ∈ ["port (", ");"]) :
    Idle (indentation width ++ line).toList := by
  have idle : ∀ line ∈ ["port (", ");"], Idle line.toList := by decide
  rw [indentation, String.toList_append, String.toList_ofList]
  exact (idle line known).indent width

section portClause

variable (width : Nat) (groups : List PortGroup)

/-- What holds of the declarations, however they end, and of idle lines holds of a port clause. -/
theorem forall_mem_portClause {holds : List Char → Prop} (idle : ∀ line, Idle line → holds line)
    (declared : ∀ group ∈ groups, ∀ ending ∈ [";", ""],
      holds (indentation (width + 4) ++ group.text ++ ending).toList) :
    ∀ line ∈ portClause width groups, holds line.toList := by
  unfold portClause
  split
  · exact List.forall_mem_nil _
  · refine List.forall_mem_cons.mpr ⟨idle _ (idle_indentation width (by decide)), ?_⟩
    refine List.forall_mem_append.mpr ⟨forall_mem_separated declared, List.forall_mem_singleton.mpr ?_⟩
    exact idle _ (idle_indentation width (by decide))

theorem inside_portClause (spelled : IsWord keyword.toList) (other : IsWord unit.toList) :
    ∀ line ∈ portClause width groups, Inside keyword unit line.toList :=
  forall_mem_portClause width groups (fun _ idle => idle.inside) fun group _ _ chosen =>
    group.inside_text (width + 4) chosen spelled other

theorem silent_portClause (other : IsWord unit.toList) :
    ∀ line ∈ portClause width groups, Silent unit line.toList :=
  forall_mem_portClause width groups (fun _ idle => idle.silent) fun group _ _ chosen =>
    group.silent_text (width + 4) chosen other

theorem portsOn_portClause : (portClause width groups).flatMap (fun line => portsOn line.toList) =
    groups.flatMap PortGroup.ports := by
  have declarations : (separated ";" "" (groups.map fun group => indentation (width + 4) ++
      group.text)).flatMap (fun line => portsOn line.toList) = groups.flatMap PortGroup.ports :=
    flatMap_separated fun group _ _ chosen => group.portsOn_text (width + 4) chosen
  unfold portClause
  split
  · next none => rw [List.isEmpty_iff.mp none, List.flatMap_nil, List.flatMap_nil]
  · simp only [List.flatMap_cons, List.flatMap_append, List.flatMap_nil, declarations,
      (idle_indentation width (by decide : "port (" ∈ _)).portsOn,
      (idle_indentation width (by decide : ");" ∈ _)).portsOn, List.append_nil, List.nil_append]

end portClause

/-! ## Units -/

/-- An entity adds itself and its ports. -/
theorem Interface.reads_entityLines (declared : Interface) : Reads file declared.entityLines
    ⟨collected units ports instances, .outside⟩
    ⟨collected (units ++ [DesignUnit.declare .vhdl declared.name.text file])
      (ports ++ declared.ports.map fun port => (declared.name.folded, port)) instances, .outside⟩ := by
  have spelled : IsWord "entity".toList := by decide
  have last : ("end entity " ++ declared.name.text ++ ";").toList =
      keyedEnd "entity" declared.name.text.toList := by
    unfold keyedEnd
    simp
  have ends : Ends "entity" declared.name.folded ("end entity " ++ declared.name.text ++ ";").toList := by
    rw [last, ← declared.name.folded_toList]
    exact ends_keyedEnd (by decide) declared.name.isWord
  rw [Interface.ports, ← portsOn_portClause 4]
  exact .wholeEntity declared.name.isWord
    (inside_portClause 4 declared.groups spelled declared.name.isWord_folded) ends

/-- No architecture has a name that the last line of a component ends. -/
theorem Name.letters_folded_ne (name : Name) :
    letters "component".toList ≠ letters name.folded.toList := by
  rw [← name.folded_toList, letters_folded]
  exact (letters_ne_of_isValidName name.valid (by decide) (by decide)).symm

namespace Interface

variable (component : Interface) (name : Name)

/-- The lines of a component behind its header. -/
def tailLines : List String := portClause 8 component.groups ++ ["    end component;"]

theorem componentLines_eq : component.componentLines =
    ("    component " ++ component.name.text ++ " is") :: component.tailLines := by
  rw [componentLines, tailLines, List.append_assoc, List.singleton_append]

theorem silent_tailLines : ∀ line ∈ component.tailLines, Silent name.folded line.toList := by
  refine List.forall_mem_append.mpr ⟨?_, List.forall_mem_singleton.mpr ?_⟩
  · exact silent_portClause 8 component.groups name.isWord_folded
  · exact silent_componentEnd name.isWord_folded name.letters_folded_ne

theorem inside_componentLines :
    ∀ line ∈ component.componentLines, Inside "architecture" name.folded line.toList := by
  rw [componentLines_eq, List.forall_mem_cons, toList_componentHeader]
  exact ⟨inside_componentHeader component.name.isWord, fun line member =>
    (component.silent_tailLines name line member).toInside⟩

/-- A component adds an instance to its architecture. -/
theorem instancesOn_componentLines : component.componentLines.flatMap (fun line =>
    instancesOn unit line.toList) = [⟨component.name.folded, unit⟩] := by
  rw [componentLines_eq, List.flatMap_cons, toList_componentHeader,
    instancesOn_componentHeader component.name.isWord, component.name.folded_toList,
    flatMap_instancesOn_of_silent (component.silent_tailLines component.name), List.append_nil]

end Interface

/-! ## Instances -/

/-- What is written for an association introduces no construct. -/
theorem opensNothing_intercalate {texts : List (List Char)} {rest : List Char}
    (each : ∀ text ∈ texts, ∀ rest, Trailing rest → OpensNothing (text ++ rest))
    (trailing : Trailing rest) : OpensNothing (", ".toList.intercalate texts ++ rest) := by
  induction texts with
  | nil => exact trailing.nothing
  | cons text texts ih =>
    rw [List.forall_mem_cons] at each
    cases texts with
    | nil =>
      rw [List.intercalate_singleton]
      exact each.1 rest trailing
    | cons next texts =>
      have later : Trailing (", ".toList ++ (", ".toList.intercalate (next :: texts) ++ rest)) :=
        .cons ((ih each.2).cons (by decide)) (by decide)
      rw [List.intercalate_cons_cons, List.append_assoc, List.append_assoc]
      exact each.1 _ later

theorem isCode_intercalate {texts : List (List Char)} (each : ∀ text ∈ texts, IsCode text) :
    IsCode (", ".toList.intercalate texts) := by
  induction texts with
  | nil => exact List.forall_mem_nil _
  | cons text texts ih =>
    rw [List.forall_mem_cons] at each
    cases texts with
    | nil =>
      rw [List.intercalate_singleton]
      exact each.1
    | cons next texts =>
      rw [List.intercalate_cons_cons, isCode_append, isCode_append]
      exact ⟨⟨each.1, by decide⟩, ih each.2⟩

theorem isObject_text (name : Name) (part : Part) :
    IsObject (name.text ++ part.written).toList := by
  rw [String.toList_append]
  exact .selected name.isWord part

theorem Actual.isActual_text (actual : Actual) : IsActual actual.text.toList := by
  cases actual with
  | object name part => exact .object (isObject_text name part)
  | level value => exact .level value
  | unconnected => exact .unconnected

theorem Association.opensNothing_text (association : Association) {rest : List Char}
    (trailing : Trailing rest) : OpensNothing (association.text.toList ++ rest) := by
  obtain ⟨formal, actual⟩ := association
  cases formal with
  | none => exact actual.isActual_text.opensNothing trailing
  | some formal =>
    rw [Association.text, String.toList_append, String.toList_append, List.append_assoc,
      List.append_assoc]
    exact opensNothing_association (isObject_text _ _) actual.isActual_text trailing

theorem Association.isCode_text (association : Association) : IsCode association.text.toList := by
  obtain ⟨formal, actual⟩ := association
  cases formal with
  | none => exact isCode_actual actual.isActual_text
  | some formal =>
    rw [Association.text, String.toList_append, String.toList_append, isCode_append, isCode_append]
    exact ⟨⟨isCode_object (isObject_text _ _), by decide⟩, isCode_actual actual.isActual_text⟩

namespace DirectInstance

variable (i : DirectInstance)

/-- What stands behind the unit of a direct instance. -/
def portMap : List Char :=
  " port map (".toList ++ (", ".toList.intercalate (i.associations.map fun a => a.text.toList) ++
    ");".toList)

theorem toList_text : i.text.toList = List.replicate 4 ' ' ++ (i.label.text.toList ++
    (" : ".toList ++ ("entity work.".toList ++ (i.unit.text.toList ++ i.portMap)))) := by
  unfold DirectInstance.text portMap
  simp [String.toList_intercalate, Function.comp_def]

theorem opensNothing_portMap : OpensNothing i.portMap := by
  have associations : OpensNothing (", ".toList.intercalate (i.associations.map fun a => a.text.toList) ++
      ");".toList) := by
    refine opensNothing_intercalate (fun text member rest trailing => ?_) (by decide)
    obtain ⟨association, -, rfl⟩ := List.mem_map.mp member
    exact association.opensNothing_text trailing
  exact associations.piece (by decide)

theorem unfollowed_portMap : Unfollowed i.portMap := by
  intro closing known
  simp only [List.mem_cons, List.not_mem_nil, or_false] at known
  rcases known with rfl | rfl <;> rfl

theorem isCode_portMap : IsCode i.portMap := by
  have associations : IsCode (", ".toList.intercalate (i.associations.map fun a => a.text.toList)) := by
    refine isCode_intercalate fun text member => ?_
    obtain ⟨association, -, rfl⟩ := List.mem_map.mp member
    exact association.isCode_text
  unfold portMap
  simp only [isCode_append, associations, true_and]
  decide

theorem apart_portMap : Apart i.portMap := apart_cons.mpr (by decide)

theorem inside_text (name : Name) : Inside "architecture" name.folded i.text.toList := by
  rw [toList_text]
  exact inside_direct i.label.isWord i.unit.isWord i.apart_portMap i.unfollowed_portMap
    i.opensNothing_portMap i.isCode_portMap 4 name.isWord_folded

/-- A direct instance adds an instance to its architecture. -/
theorem instancesOn_text : instancesOn unit i.text.toList = [⟨i.unit.folded, unit⟩] := by
  rw [toList_text, instancesOn_direct i.label.isWord i.unit.isWord i.apart_portMap
    i.unfollowed_portMap i.opensNothing_portMap i.isCode_portMap, i.unit.folded_toList]

end DirectInstance

/-! ## Architectures and sources -/

namespace Architecture

variable (body : Architecture)

theorem inside_bodyLines :
    ∀ line ∈ body.bodyLines, Inside "architecture" body.name.folded line.toList := by
  intro line member
  simp only [bodyLines, List.mem_append, List.mem_singleton] at member
  obtain (declared | rfl) | instantiated := member
  · obtain ⟨component, -, line⟩ := List.mem_flatMap.mp declared
    exact component.inside_componentLines body.name _ line
  · exact (by decide : Idle "begin".toList).inside
  · obtain ⟨i, -, rfl⟩ := List.mem_map.mp instantiated
    exact i.inside_text body.name

theorem instancesOn_bodyLines :
    body.bodyLines.flatMap (fun line => instancesOn body.entity.folded line.toList) = body.edges := by
  have begins : ["begin"].flatMap (fun line => instancesOn body.entity.folded line.toList) = [] :=
    flatMap_instancesOn_of_silent (by decide : ∀ line ∈ ["begin"], Silent "" line.toList)
  rw [bodyLines, List.flatMap_append, List.flatMap_append, List.flatMap_assoc, List.flatMap_map, begins,
    List.append_nil]
  simp only [Interface.instancesOn_componentLines, DirectInstance.instancesOn_text]
  rw [edges, List.map_append, List.map_map, List.map_map, List.map_eq_flatMap, List.map_eq_flatMap]
  rfl

/-- What the scanner finds of an architecture: its edges and what its header is misread for. -/
theorem reads_lines : Reads file body.lines
    ⟨collected units ports instances, .outside⟩
    ⟨collected (units ++ misreadUnits file body.name.text.toList body.entity.text.toList) ports
      (instances ++ misreadInstances body.name.text.toList body.entity.text.toList ++ body.edges),
      .outside⟩ := by
  have last : ("end architecture " ++ body.name.text ++ ";").toList =
      keyedEnd "architecture" body.name.text.toList := by
    unfold keyedEnd
    simp
  have ends : Ends "architecture" body.name.folded
      ("end architecture " ++ body.name.text ++ ";").toList := by
    rw [last, ← body.name.folded_toList]
    exact ends_keyedEnd (by decide) body.name.isWord
  rw [← instancesOn_bodyLines]
  exact .wholeArchitecture body.name.isWord body.entity.isWord body.inside_bodyLines ends

end Architecture

/-- The units that are found of a unit of a source. -/
def SourceUnit.unitsFound (file : String) : SourceUnit → List DesignUnit
  | .entity declared => [.declare .vhdl declared.name.text file]
  | .architecture body => misreadUnits file body.name.text.toList body.entity.text.toList

/-- The ports that are found of a unit of a source. -/
def SourceUnit.portsFound : SourceUnit → List (String × Port)
  | .entity declared => declared.ports.map fun port => (declared.name.folded, port)
  | .architecture _ => []

/-- The instances that are found of a unit of a source. -/
def SourceUnit.instancesFound : SourceUnit → List Instance
  | .entity _ => []
  | .architecture body =>
    misreadInstances body.name.text.toList body.entity.text.toList ++ body.edges

theorem SourceUnit.reads_lines (part : SourceUnit) : Reads file part.lines
    ⟨collected units ports instances, .outside⟩
    ⟨collected (units ++ part.unitsFound file) (ports ++ part.portsFound)
      (instances ++ part.instancesFound), .outside⟩ := by
  cases part with
  | entity declared =>
    rw [instancesFound, List.append_nil]
    exact declared.reads_entityLines
  | architecture body =>
    rw [portsFound, instancesFound, List.append_nil, ← List.append_assoc]
    exact body.reads_lines

theorem reads_source (source : List SourceUnit) : Reads file (source.flatMap SourceUnit.lines)
    ⟨collected units ports instances, .outside⟩
    ⟨collected (units ++ source.flatMap (·.unitsFound file))
      (ports ++ source.flatMap SourceUnit.portsFound)
      (instances ++ source.flatMap SourceUnit.instancesFound), .outside⟩ := by
  induction source generalizing units ports instances with
  | nil =>
    simp only [List.flatMap_nil, List.append_nil]
    exact .nil
  | cons part rest ih =>
    simp only [List.flatMap_cons, ← List.append_assoc]
    exact part.reads_lines.append ih

/-- Everything that is found in the text of a source. -/
theorem scan_sourceText (source : List SourceUnit) : scan (sourceText source) file =
    collected (source.flatMap (·.unitsFound file)) (source.flatMap SourceUnit.portsFound)
      (source.flatMap SourceUnit.instancesFound) := by
  have whole : Reads file _ ⟨collected [] [] [], .outside⟩ _ := reads_source source
  exact whole.scan_eq

/-! ## What is found against what is declared -/

theorem mem_architectures_iff {body : Architecture} :
    body ∈ architectures source ↔ .architecture body ∈ source := by
  simp only [architectures, List.mem_filterMap]
  constructor
  · rintro ⟨_ | _, member, found⟩
    · cases found
    · exact Option.some.inj found ▸ member
  · exact fun member => ⟨_, member, rfl⟩

theorem Architecture.not_misread_iff (file : String) (body : Architecture) : ¬ body.Misread ↔
    misreadUnits file body.name.text.toList body.entity.text.toList = [] ∧
      misreadInstances body.name.text.toList body.entity.text.toList = [] := by
  simp [Misread, misreadUnits, misreadInstances, or_and_right, not_or]

/-- The ports found under a name are those of the entities of that name. -/
theorem portsOf_found (source : List SourceUnit) (name : String) :
    (collected units (source.flatMap SourceUnit.portsFound) instances).portsOf name =
      ((entities source).filter fun unit => unit.name.folded = name).flatMap Interface.ports := by
  simp only [portsOf, collected, entities]
  induction source with
  | nil => rfl
  | cons part rest ih =>
    rw [List.flatMap_cons, List.filterMap_append, ih]
    cases part with
    | entity declared =>
      by_cases named : declared.name.folded = name <;>
        simp [SourceUnit.portsFound, List.filterMap_map, named]
    | architecture body => rfl

/-- The word that a misread header is taken to name is no name of a unit. -/
theorem fold_of : Language.vhdl.fold "of" = "of" := String.toList_inj.mp (toList_folded "of".toList)

/-- Exactly the declared entities are found if no header of an architecture is misread for one. -/
theorem unitsFound_eq_iff : source.flatMap (·.unitsFound file) =
      (entities source).map (fun unit => .declare .vhdl unit.name.text file) ↔
    ∀ body ∈ architectures source,
      misreadUnits file body.name.text.toList body.entity.text.toList = [] := by
  constructor
  · intro same body member
    rw [misreadUnits, ite_eq_right_iff]
    intro misread
    have stray : DesignUnit.declare .vhdl "of" file ∈ source.flatMap (·.unitsFound file) := by
      refine List.mem_flatMap.mpr ⟨_, mem_architectures_iff.mp member, ?_⟩
      rw [SourceUnit.unitsFound, misreadUnits, if_pos misread]
      exact List.mem_singleton_self _
    rw [same] at stray
    obtain ⟨unit, -, alike⟩ := List.mem_map.mp stray
    exact absurd ((congrArg DesignUnit.name alike).trans fold_of) unit.name.folded_ne_of
  · intro exactly
    induction source with
    | nil => rfl
    | cons part rest ih =>
      cases part with
      | entity declared =>
        rw [List.flatMap_cons, ih exactly]
        rfl
      | architecture body =>
        obtain ⟨first, later⟩ := List.forall_mem_cons.mp exactly
        rw [List.flatMap_cons, ih later, SourceUnit.unitsFound, first]
        rfl

/-- Exactly the edges are found if no header of an architecture is misread for that of a component. -/
theorem instancesFound_eq_iff : (source.flatMap SourceUnit.instancesFound).eraseDups =
      ((architectures source).flatMap Architecture.edges).eraseDups ↔
    ∀ body ∈ architectures source,
      misreadInstances body.name.text.toList body.entity.text.toList = [] := by
  constructor
  · intro same body member
    rw [misreadInstances, ite_eq_right_iff]
    intro misread
    have stray : ⟨"of", Scan.folded body.entity.text.toList⟩ ∈
        (source.flatMap SourceUnit.instancesFound).eraseDups := by
      refine List.mem_eraseDups.mpr (List.mem_flatMap.mpr ⟨_, mem_architectures_iff.mp member, ?_⟩)
      rw [SourceUnit.instancesFound, misreadInstances, if_pos misread]
      exact List.mem_cons_self
    rw [same, List.mem_eraseDups] at stray
    obtain ⟨other, -, inEdges⟩ := List.mem_flatMap.mp stray
    obtain ⟨child, -, alike⟩ := List.mem_map.mp inEdges
    exact absurd (congrArg Instance.child alike) child.folded_ne_of
  · intro exactly
    refine congrArg List.eraseDups ?_
    induction source with
    | nil => rfl
    | cons part rest ih =>
      cases part with
      | entity declared =>
        rw [List.flatMap_cons, ih exactly]
        rfl
      | architecture body =>
        obtain ⟨first, later⟩ := List.forall_mem_cons.mp exactly
        rw [List.flatMap_cons, ih later, SourceUnit.instancesFound, first]
        rfl

/-- The scanner finds exactly what a canonical source declares, unless the header of an architecture is
misread. -/
theorem describes_scan_iff (file : String) (source : List SourceUnit) :
    Describes file source (scan (sourceText source) file) ↔
      ∀ body ∈ architectures source, ¬ body.Misread := by
  simp only [Architecture.not_misread_iff file, forall_and]
  rw [scan_sourceText]
  constructor
  · intro describes
    exact ⟨unitsFound_eq_iff.mp describes.units, instancesFound_eq_iff.mp describes.instances⟩
  · rintro ⟨units, instances⟩
    exact ⟨unitsFound_eq_iff.mpr units, portsOf_found source, instancesFound_eq_iff.mpr instances⟩

/-- An entity with an architecture whose name ends in a keyword. -/
def isolatorSource : List SourceUnit :=
  let isolator : Name := ⟨"isolator", by rw [isValidName_eq]; decide⟩
  [.entity ⟨isolator, [{ first := ⟨"x", by rw [isValidName_eq]; decide⟩, direction := .input }]⟩,
   .architecture ⟨⟨"my_entity", by rw [isValidName_eq]; decide⟩, isolator, [], []⟩]

/-- An entity is found that is not declared. -/
theorem not_describes_isolator :
    ¬ Describes "isolator.vhd" isolatorSource (scan (sourceText isolatorSource) "isolator.vhd") := by
  intro describes
  have units := describes.units
  rw [scan_sourceText] at units
  have settled := unitsFound_eq_iff.mp units _ List.mem_cons_self
  exact absurd settled (by decide)

end BoardBind.Vhdl
