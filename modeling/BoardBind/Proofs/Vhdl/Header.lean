import BoardBind.Proofs.Vhdl.Declaration

/-! # Headers of units

The header of an entity, an architecture or a component is read with its names. The header of an
architecture is also read as that of another construct if the name of the architecture ends in the
keyword of the other one and the name of its entity starts with `is`: the word `of` between them is then
taken for a name.
-/

namespace BoardBind.Vhdl

open Text

variable {line text rest name entity label passed : List Char} {names : List (List Char)}
  {keyword closing : String} {α : Type} {behind : List Char → Option α} {c : Char}

/-! ## The words of a header -/

/-- Behind a keyword stand a name and something that has to start with the second keyword. -/
theorem wordThen_append (named : IsWord name) (solid : trimStart text = text) :
    (blanks (' ' :: (name ++ ' ' :: text))).bind (wordThen closing) =
      (caseless closing.toList text).map fun rest => (name, rest) := by
  rw [blanks_blank, trimStart_word named, Option.bind_some, wordThen,
    word_append named (apart_cons.mpr (by decide))]
  simp only [bind, pure, Option.bind_some, blanks_blank, solid, Option.map_eq_bind]
  rfl

theorem unfollowed_is : Unfollowed " is".toList := by decide

theorem opensNothing_nameIs (named : IsWord name) : OpensNothing (name ++ " is".toList) :=
  (by decide : OpensNothing " is".toList).append (isBlank_of_isWord named)
    (apart_cons.mpr (by decide)) (.inr unfollowed_is)

section headers

variable (named : IsWord name)

include named

/-! ### Entities and components -/

/-- The header of an entity. -/
def entityHeader (name : List Char) : List Char := "entity ".toList ++ (name ++ " is".toList)

theorem entityName?_entityHeader : entityName? (entityHeader name) = some name := by
  have spelled : IsWord "entity".toList := by decide
  have read : (blanks (' ' :: (name ++ ' ' :: "is".toList))).bind (wordThen "is") = _ :=
    wordThen_append named rfl
  have cut : entityHeader name = "entity".toList ++ ' ' :: (name ++ ' ' :: "is".toList) := by
    unfold entityHeader
    simp
  rw [cut, entityName?_append (isBlank_of_isWord spelled) (apart_cons.mpr (by decide)), if_pos (by decide), read]
  rfl

theorem architectureNames?_entityHeader : architectureNames? (entityHeader name) = none := by
  have spelled : IsWord "entity".toList := by decide
  have later : OpensNothing (' ' :: (name ++ " is".toList)) :=
    (opensNothing_nameIs named).cons (by decide)
  have cut : entityHeader name = "entity".toList ++ ' ' :: (name ++ " is".toList) := by
    unfold entityHeader
    simp
  rw [cut, architectureNames?_append (isBlank_of_isWord spelled) (apart_cons.mpr (by decide)), if_neg (by decide),
    later.architecture, Option.none_or]

theorem portLine?_entityHeader : portLine? (entityHeader name) = none := by
  refine portLine?_of_notMem ?_
  have plain : ':' ∉ name := notMem_of_forall named.inside (by decide)
  unfold entityHeader
  simp [plain]

omit named in
theorem closes_entityHeader {unit : String} : closes keyword unit (entityHeader name) = false :=
  closes_of_unended rfl

/-- The header of a component. -/
def componentHeader (name : List Char) : List Char := "    component ".toList ++ (name ++ " is".toList)

omit named in
theorem componentHeader_eq : componentHeader name = ' ' :: ' ' :: ' ' :: ' ' ::
    ("component".toList ++ ' ' :: (name ++ " is".toList)) := by
  unfold componentHeader
  simp

theorem componentName?_componentHeader : componentName? (componentHeader name) = some name := by
  have spelled : IsWord "component".toList := by decide
  have read : (blanks (' ' :: (name ++ ' ' :: "is".toList))).bind (wordThen "is") = _ :=
    wordThen_append named rfl
  have cut : " is".toList = ' ' :: "is".toList := by simp
  rw [componentHeader_eq, componentName?_cons (by decide), componentName?_cons (by decide),
    componentName?_cons (by decide), componentName?_cons (by decide), cut,
    componentName?_append (isBlank_of_isWord spelled) (apart_cons.mpr (by decide)), if_pos (by decide), read]
  rfl

theorem entityName?_componentHeader : entityName? (componentHeader name) = none := by
  have spelled : IsWord "component".toList := by decide
  have later : OpensNothing (' ' :: (name ++ " is".toList)) :=
    (opensNothing_nameIs named).cons (by decide)
  rw [componentHeader_eq, entityName?_cons (by decide), entityName?_cons (by decide),
    entityName?_cons (by decide), entityName?_cons (by decide),
    entityName?_append (isBlank_of_isWord spelled) (apart_cons.mpr (by decide)), if_neg (by decide), later.entity,
    Option.none_or]

theorem architectureNames?_componentHeader : architectureNames? (componentHeader name) = none := by
  have spelled : IsWord "component".toList := by decide
  have later : OpensNothing (' ' :: (name ++ " is".toList)) :=
    (opensNothing_nameIs named).cons (by decide)
  rw [componentHeader_eq, architectureNames?_cons (by decide), architectureNames?_cons (by decide),
    architectureNames?_cons (by decide), architectureNames?_cons (by decide),
    architectureNames?_append (isBlank_of_isWord spelled) (apart_cons.mpr (by decide)), if_neg (by decide),
    later.architecture, Option.none_or]

omit named in
theorem closes_componentHeader {unit : String} : closes keyword unit (componentHeader name) = false :=
  closes_of_unended rfl

end headers

/-! ### Architectures -/

section architecture

/-- The header of an architecture. -/
def architectureHeader (name entity : List Char) : List Char :=
  "architecture ".toList ++ (name ++ (" of ".toList ++ (entity ++ " is".toList)))

variable (named : IsWord name) (owned : IsWord entity)

theorem architectureHeader_eq : architectureHeader name entity =
    "architecture".toList ++ ' ' :: (name ++ ' ' :: ("of".toList ++ ' ' ::
      (entity ++ ' ' :: "is".toList))) := by
  unfold architectureHeader
  simp

include named owned

theorem architectureNames?_architectureHeader :
    architectureNames? (architectureHeader name entity) = some (name, entity) := by
  have spelled : IsWord "architecture".toList := by decide
  have read : (blanks (' ' :: (name ++ ' ' :: ("of".toList ++ ' ' :: (entity ++ ' ' ::
      "is".toList))))).bind (wordThen "of") = _ := wordThen_append named rfl
  have ended : caseless "is".toList (trimStart "is".toList) = some [] := rfl
  have names : (blanks (' ' :: (name ++ ' ' :: ("of".toList ++ ' ' :: (entity ++ ' ' ::
      "is".toList))))).bind namesOf = some (name, entity) := by
    rw [caseless_append, Option.map_some, blanks_blank, Option.bind_some] at read
    rw [blanks_blank, Option.bind_some, namesOf]
    simp only [read, bind, pure, Option.bind_some, blanks_blank, trimStart_word owned,
      word_append owned (apart_cons.mpr (by decide : isWordChar ' ' = false)), ended]
  rw [architectureHeader_eq, architectureNames?_append (isBlank_of_isWord spelled) (apart_cons.mpr (by decide)),
    if_pos (by decide), names, Option.some_or]

omit named in
/-- Behind a keyword at the end of its name, the header of an architecture has the word `of`. -/
theorem of_architectureHeader :
    ((blanks (' ' :: ("of".toList ++ ' ' :: (entity ++ ' ' :: "is".toList)))).bind
      (wordThen "is")).map Prod.fst = if StartsWith "is" entity then some "of".toList else none := by
  have spelled : IsWord "of".toList := by decide
  have keyword : IsWord "is".toList := by decide
  have starts : (caseless "is".toList (entity ++ ' ' :: "is".toList)).isSome ↔ StartsWith "is" entity :=
    isSome_caseless_word_iff keyword.inside (apart_cons.mpr (by decide))
  rw [wordThen_append spelled (trimStart_word owned), Option.map_map]
  by_cases fits : StartsWith "is" entity
  · obtain ⟨rest, taken⟩ := Option.isSome_iff_exists.mp (starts.mpr fits)
    rw [if_pos fits, taken]
    rfl
  · rw [if_neg fits, Option.not_isSome_iff_eq_none.mp (mt starts.mp fits)]
    rfl

omit named in
theorem opensNothing_ofEntity :
    OpensNothing (' ' :: ("of".toList ++ ' ' :: (entity ++ ' ' :: "is".toList))) := by
  have spelled : IsWord "of".toList := by decide
  have last := opensNothing_nameIs owned
  have cut : " is".toList = ' ' :: "is".toList := by simp
  rw [cut] at last
  exact ((last.cons (by decide)).ordinary spelled (by decide) (apart_cons.mpr (by decide))).cons
    (by decide)

theorem entityName?_architectureHeader : entityName? (architectureHeader name entity) =
    if EndsIn "entity" name ∧ StartsWith "is" entity then some "of".toList else none := by
  have spelled : IsWord "architecture".toList := by decide
  rw [architectureHeader_eq, entityName?_append (isBlank_of_isWord spelled) (apart_cons.mpr (by decide)),
    if_neg (by decide), Option.none_or, entityName?_cons (by decide),
    entityName?_append (isBlank_of_isWord named) (apart_cons.mpr (by decide)), of_architectureHeader owned,
    (opensNothing_ofEntity owned).entity, Option.or_none, ite_and]

theorem componentName?_architectureHeader : componentName? (architectureHeader name entity) =
    if EndsIn "component" name ∧ StartsWith "is" entity then some "of".toList else none := by
  have spelled : IsWord "architecture".toList := by decide
  rw [architectureHeader_eq, componentName?_append (isBlank_of_isWord spelled) (apart_cons.mpr (by decide)),
    if_neg (by decide), Option.none_or, componentName?_cons (by decide),
    componentName?_append (isBlank_of_isWord named) (apart_cons.mpr (by decide)), of_architectureHeader owned,
    (opensNothing_ofEntity owned).component, Option.or_none, ite_and]

theorem instanceName?_architectureHeader : instanceName? (architectureHeader name entity) = none := by
  refine instanceName?_of_notMem ?_
  have first : ':' ∉ name := notMem_of_forall named.inside (by decide)
  have second : ':' ∉ entity := notMem_of_forall owned.inside (by decide)
  unfold architectureHeader
  simp [first, second]

omit named owned in
theorem closes_architectureHeader {unit : String} :
    closes keyword unit (architectureHeader name entity) = false :=
  closes_of_unended rfl

end architecture

/-! ## Headers and endings under the scanner -/

section scanned

variable {file arch : String} {found : Declarations} {units : List DesignUnit}
  {ports : List (String × Port)} {instances : List Instance} {scope : Scope}

open Declarations

/-- The unit that the header of an architecture is misread for. -/
def misreadUnits (file : String) (name entity : List Char) : List DesignUnit :=
  if EndsIn "entity" name ∧ StartsWith "is" entity then [.declare .vhdl "of" file] else []

/-- The instance that the header of an architecture is misread for. -/
def misreadInstances (name entity : List Char) : List Instance :=
  if EndsIn "component" name ∧ StartsWith "is" entity then [⟨"of", Scan.folded entity⟩] else []

theorem isCode_entityHeader (named : IsWord name) : IsCode (entityHeader name) := by
  unfold entityHeader
  simp only [isCode_append, isCode_of_isWord named, true_and]
  decide

theorem isCode_componentHeader (named : IsWord name) : IsCode (componentHeader name) := by
  unfold componentHeader
  simp only [isCode_append, isCode_of_isWord named, true_and]
  decide

theorem isCode_architectureHeader (named : IsWord name) (owned : IsWord entity) :
    IsCode (architectureHeader name entity) := by
  unfold architectureHeader
  simp only [isCode_append, isCode_of_isWord named, isCode_of_isWord owned, true_and]
  decide

theorem portLine?_architectureHeader (named : IsWord name) (owned : IsWord entity) :
    portLine? (architectureHeader name entity) = none := by
  refine portLine?_of_notMem ?_
  have first : ':' ∉ name := notMem_of_forall named.inside (by decide)
  have second : ':' ∉ entity := notMem_of_forall owned.inside (by decide)
  unfold architectureHeader
  simp [first, second]

/-- The header of an entity opens it. -/
theorem step_entityHeader (named : IsWord name) :
    Scan.step file ⟨collected units ports instances, scope⟩ (entityHeader name) =
      ⟨collected (units ++ [DesignUnit.declare .vhdl (String.ofList name) file]) ports instances,
        .entity (Scan.folded name)⟩ := by
  have read := code_of_line (isCode_entityHeader named)
  refine Scan.step_openEntity ?_ ?_ ?_ ?_ <;> rw [read]
  · exact entityName?_entityHeader named
  · exact architectureNames?_entityHeader named
  · exact portLine?_entityHeader named
  · exact fun _ => closes_entityHeader

/-- The header of an architecture opens it, and adds what it is misread for. -/
theorem step_architectureHeader (named : IsWord name) (owned : IsWord entity) :
    Scan.step file ⟨collected units ports instances, .outside⟩ (architectureHeader name entity) =
      ⟨collected (units ++ misreadUnits file name entity) ports
          (instances ++ misreadInstances name entity),
        .architecture (Scan.folded name) (Scan.folded entity)⟩ := by
  have read := code_of_line (isCode_architectureHeader named owned)
  have misread : unitsOn file (architectureHeader name entity) = misreadUnits file name entity := by
    rw [unitsOn, read, entityName?_architectureHeader named owned, misreadUnits]
    split_ifs <;> rfl
  have edges : instancesOn (Scan.folded entity) (architectureHeader name entity) =
      misreadInstances name entity := by
    rw [instancesOn, read, Scan.child?, instanceName?_architectureHeader named owned, Option.or_none,
      componentName?_architectureHeader named owned, misreadInstances]
    split_ifs
    · have word : Scan.folded "of".toList = "of" := String.toList_inj.mp (toList_folded _)
      rw [Option.toList_some, List.map_singleton, word]
    · rfl
  rw [← misread, ← edges]
  refine Scan.step_openArchitecture ?_ ?_ ?_ <;> rw [read]
  · exact architectureNames?_architectureHeader named owned
  · exact portLine?_architectureHeader named owned
  · exact fun _ _ => closes_architectureHeader

theorem inside_componentHeader (named : IsWord name) : Inside keyword arch (componentHeader name) := by
  have read := code_of_line (isCode_componentHeader named)
  refine ⟨⟨(isCode_componentHeader named).isLine, ?_, ?_⟩, ?_⟩ <;> rw [read]
  · exact entityName?_componentHeader named
  · exact architectureNames?_componentHeader named
  · exact closes_componentHeader

/-- The header of a component adds an instance to its architecture. -/
theorem instancesOn_componentHeader (named : IsWord name) (unit : String) :
    instancesOn unit (componentHeader name) = [⟨Scan.folded name, unit⟩] := by
  rw [instancesOn, code_of_line (isCode_componentHeader named), Scan.child?,
    componentName?_componentHeader named]
  rfl

theorem toList_componentHeader (name : String) :
    ("    component " ++ name ++ " is").toList = componentHeader name.toList := by
  unfold componentHeader
  simp

/-- The last line of a component is silent in its architecture. -/
theorem silent_componentEnd (other : IsWord arch.toList)
    (different : letters "component".toList ≠ letters arch.toList) :
    Silent arch "    end component;".toList := by
  have spelled : IsWord "architecture".toList := by decide
  have word : IsWord "component".toList := by decide
  have blank : ∀ c ∈ List.replicate 4 ' ', isBlank c := fun _ member =>
    List.eq_of_mem_replicate member ▸ rfl
  have written : "    end component;".toList =
      List.replicate 4 ' ' ++ ("end ".toList ++ "component".toList ++ [';']) := by simp
  have unclosed : ¬ closes "architecture" arch "    end component;".toList := by
    rw [written, closes_end_iff blank word spelled other]
    rintro (same | same)
    · exact absurd same (by decide)
    · exact different same
  exact silent_of_line (by decide) (by decide) (Bool.not_eq_true _ ▸ unclosed) (by decide)

/-- The line that ends a unit by its name. -/
def namedEnd (name : List Char) : List Char := "end ".toList ++ name ++ [';']

/-- The line that ends a unit by its keyword and name. -/
def keyedEnd (keyword : String) (name : List Char) : List Char :=
  "end ".toList ++ keyword.toList ++ ' ' :: name ++ [';']

theorem ends_namedEnd (spelled : IsWord keyword.toList) (named : IsWord name) :
    Ends keyword (Scan.folded name) (namedEnd name) := by
  have plain : ':' ∉ name := notMem_of_forall named.inside (by decide)
  refine ends_of_line ?_ (opensNothing_end named) ?_ ?_
  · unfold namedEnd
    simp only [isCode_append, isCode_of_isWord named, and_true]
    decide
  · unfold namedEnd
    simp [plain]
  · exact (closes_end_iff (List.forall_mem_nil _) named spelled (isWord_folded named)).mpr
      (.inr (letters_folded name).symm)

theorem ends_keyedEnd (header : keyword ∈ headers) (named : IsWord name) :
    Ends keyword (Scan.folded name) (keyedEnd keyword name) := by
  have spelled := isWord_header keyword header
  have plain {text : List Char} (word : IsWord text) : ':' ∉ text :=
    notMem_of_forall word.inside (by decide)
  refine ends_of_line ?_ (opensNothing_keyedEnd header named) ?_ ?_
  · unfold keyedEnd
    simp only [isCode_append, isCode_cons, isCode_of_isWord spelled, isCode_of_isWord named, and_true]
    decide
  · unfold keyedEnd
    simp [plain spelled, plain named]
  · exact closes_of_keyed (List.forall_mem_nil _) named spelled (isWord_folded named)
      (letters_folded name).symm

/-! ### Written headers and endings -/

theorem folded_toList (name : String) : Scan.folded name.toList = Language.vhdl.fold name := by
  rw [Scan.folded, String.ofList_toList]

namespace Reads

variable {name owner : String}

/-- The header of an entity opens it. -/
theorem entityHeader (named : IsWord name.toList) : Reads file ["entity " ++ name ++ " is"]
    ⟨collected units ports instances, scope⟩
    ⟨collected (units ++ [DesignUnit.declare .vhdl name file]) ports instances,
      .entity (Language.vhdl.fold name)⟩ := by
  have written : ("entity " ++ name ++ " is").toList = Vhdl.entityHeader name.toList := by
    unfold Vhdl.entityHeader
    simp
  refine .single ?_ ?_
  · rw [written]
    exact (isCode_entityHeader named).isLine
  · rw [written, step_entityHeader named, String.ofList_toList, folded_toList]

/-- The header of an architecture opens it, and adds what it is misread for. -/
theorem architectureHeader (named : IsWord name.toList) (owned : IsWord owner.toList) :
    Reads file ["architecture " ++ name ++ " of " ++ owner ++ " is"]
      ⟨collected units ports instances, .outside⟩
      ⟨collected (units ++ misreadUnits file name.toList owner.toList) ports
          (instances ++ misreadInstances name.toList owner.toList),
        .architecture (Language.vhdl.fold name) (Language.vhdl.fold owner)⟩ := by
  have written : ("architecture " ++ name ++ " of " ++ owner ++ " is").toList =
      Vhdl.architectureHeader name.toList owner.toList := by
    unfold Vhdl.architectureHeader
    simp
  refine .single ?_ ?_
  · rw [written]
    exact (isCode_architectureHeader named owned).isLine
  · rw [written, step_architectureHeader named owned, folded_toList, folded_toList]

section whole

variable {ls : List String} {last : String}

/-- An entity adds itself and the ports declared on its lines. -/
theorem wholeEntity (named : IsWord name.toList)
    (inside : ∀ line ∈ ls, Inside "entity" (Language.vhdl.fold name) line.toList)
    (ends : Ends "entity" (Language.vhdl.fold name) last.toList) :
    Reads file (["entity " ++ name ++ " is"] ++ ls ++ [last])
      ⟨collected units ports instances, .outside⟩
      ⟨collected (units ++ [DesignUnit.declare .vhdl name file])
        (ports ++ (ls.flatMap fun line => portsOn line.toList).map fun port =>
          (Language.vhdl.fold name, port)) instances, .outside⟩ := by
  have declared : ∃ u ∈ units ++ [DesignUnit.declare .vhdl name file], u.name = Language.vhdl.fold name :=
    ⟨_, List.mem_concat_self, rfl⟩
  exact ((entityHeader named).append (entityLines inside declared)).append
    (.single ends.plain (Scan.step_closeEntity ends))

/-- An architecture adds the instances on its lines, and what its header is misread for. -/
theorem wholeArchitecture (named : IsWord name.toList) (owned : IsWord owner.toList)
    (inside : ∀ line ∈ ls, Inside "architecture" (Language.vhdl.fold name) line.toList)
    (ends : Ends "architecture" (Language.vhdl.fold name) last.toList) :
    Reads file (["architecture " ++ name ++ " of " ++ owner ++ " is"] ++ ls ++ [last])
      ⟨collected units ports instances, .outside⟩
      ⟨collected (units ++ misreadUnits file name.toList owner.toList) ports
        (instances ++ misreadInstances name.toList owner.toList ++
          ls.flatMap fun line => instancesOn (Language.vhdl.fold owner) line.toList), .outside⟩ :=
  ((architectureHeader named owned).append (architectureLines inside)).append
    (.single ends.plain (Scan.step_closeArchitecture ends))

theorem ends_name {keyword : String} (spelled : IsWord keyword.toList) (named : IsWord name.toList) :
    Ends keyword (Language.vhdl.fold name) ("end " ++ name ++ ";").toList := by
  have written : ("end " ++ name ++ ";").toList = namedEnd name.toList := by
    unfold namedEnd
    simp
  rw [written, ← folded_toList]
  exact ends_namedEnd spelled named

/-- A file with one entity and one architecture, each ended by its name alone: it has the ports declared
in the entity and the instances in the architecture. -/
theorem unitFile {body : String} {lead clause : List String} (idle : ∀ line ∈ lead, OpensNoUnit line.toList)
    (named : IsWord name.toList) (bodyNamed : IsWord body.toList)
    (settled : ¬ EndsIn "entity" body.toList ∧ ¬ EndsIn "component" body.toList)
    (declares : ∀ line ∈ clause, Inside "entity" (Language.vhdl.fold name) line.toList)
    (inside : ∀ line ∈ ls, Inside "architecture" (Language.vhdl.fold body) line.toList) :
    Reads file (lead ++ (["entity " ++ name ++ " is"] ++ clause ++ ["end " ++ name ++ ";"]) ++ [""] ++
        (["architecture " ++ body ++ " of " ++ name ++ " is"] ++ ls ++ ["end " ++ body ++ ";"])) {}
      ⟨collected [.declare .vhdl name file]
        ((clause.flatMap fun line => portsOn line.toList).map fun port => (Language.vhdl.fold name, port))
        (ls.flatMap fun line => instancesOn (Language.vhdl.fold name) line.toList), .outside⟩ := by
  have start : Reads file lead {} ⟨collected [] [] [], .outside⟩ := outsideLines idle
  have gap (found : Declarations) : Reads file [""] ⟨found, .outside⟩ ⟨found, .outside⟩ :=
    outsideLines (List.forall_mem_singleton.mpr (by decide))
  have entity := start.append (wholeEntity named declares (ends_name (by decide) named))
  have architecture := (entity.append (gap _)).append
    (wholeArchitecture bodyNamed named inside (ends_name (by decide) bodyNamed))
  have units : misreadUnits file body.toList name.toList = [] := if_neg fun both => settled.1 both.1
  have edges : misreadInstances body.toList name.toList = [] := if_neg fun both => settled.2 both.1
  simpa only [units, edges, List.nil_append, List.append_nil] using architecture

end whole

end Reads

end scanned

end BoardBind.Vhdl
