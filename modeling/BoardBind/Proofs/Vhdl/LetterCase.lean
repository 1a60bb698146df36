import BoardBind.Proofs.Source.Names
import BoardBind.Proofs.Vhdl.Word

/-! # Scanning without regard to letter case

Every matcher of the scanner takes a text in lower case as it takes the text itself: it stops at the same
places, and what it finds is the same in lower case. So in a text in lower case the scanner finds what it
finds in the text itself, spelled in lower case. Texts that differ in letter case only therefore declare
the same entities, ports and instances by their folded names.
-/

namespace BoardBind

variable {α : Type} {c e : Char} {text expected : List Char} {inClass : Char → Bool}
  {matcher : List Char → Option α} {g : α → α}

namespace Text

/-- A text with its letters of ASCII in lower case. -/
def lowered (text : List Char) : List Char := text.map Char.toLower

/-- A class of characters that does not tell the two cases of a letter apart. -/
def IgnoresCase (inClass : Char → Bool) : Prop := ∀ c, inClass c.toLower = inClass c

theorem length_lowered (text : List Char) : (lowered text).length = text.length := List.length_map ..

theorem ofList_lowered (text : List Char) : String.ofList (lowered text) = (String.ofList text).toLower := by
  rw [← String.toList_inj]
  simp [lowered, String.toLower]

/-- What is told of the characters of ASCII in both cases is told of all characters. -/
theorem ignoresCase_of_ascii (ascii : ∀ number < 128,
    inClass (Char.ofNat number).toLower = inClass (Char.ofNat number)) : IgnoresCase inClass := by
  intro c
  by_cases small : c.toNat < 128
  · exact forall_of_toNat_lt (fun c => inClass c.toLower = inClass c) ascii small
  · rw [toLower_eq_self small]

theorem ignoresCase_isBlank : IgnoresCase isBlank := ignoresCase_of_ascii (by decide +kernel)

theorem ignoresCase_isDigit : IgnoresCase Char.isDigit := ignoresCase_of_ascii (by decide +kernel)

theorem ignoresCase_isWordChar : IgnoresCase isWordChar := fun c => isWordChar_congr (caseKey_toLower c)

/-- A character that is no letter is the lower case of itself only. -/
theorem toLower_eq_iff (plain : e.isAlpha = false) : c.toLower = e ↔ c = e := by
  by_cases small : c.toNat < 128
  · have letters : c.toLower = c ∨ c.isAlpha ∧ c.toLower.isAlpha :=
      forall_of_toNat_lt (fun c => c.toLower = c ∨ c.isAlpha ∧ c.toLower.isAlpha) (by decide +kernel) small
    rcases letters with same | ⟨letter, lower⟩
    · rw [same]
    · constructor
      · rintro rfl
        rw [lower] at plain
        cases plain
      · rintro rfl
        rw [letter] at plain
        cases plain
  · rw [toLower_eq_self small]

theorem literal_lowered (plain : ∀ e ∈ expected, e.isAlpha = false) (text : List Char) :
    literal expected (lowered text) = (literal expected text).map lowered := by
  induction expected generalizing text with
  | nil => rfl
  | cons e expected ih =>
    rw [List.forall_mem_cons] at plain
    cases text with
    | nil => rfl
    | cons c text =>
      have same : e = c.toLower ↔ e = c := by rw [eq_comm, toLower_eq_iff plain.1, eq_comm]
      simp only [lowered, List.map_cons, literal, same]
      split
      · exact ih plain.2 text
      · rfl

theorem caseless_lowered (expected text : List Char) :
    caseless expected (lowered text) = (caseless expected text).map lowered := by
  induction expected generalizing text with
  | nil => rfl
  | cons e expected ih =>
    cases text with
    | nil => rfl
    | cons c text =>
      simp only [lowered, List.map_cons, caseless, caseKey_toLower]
      split
      · exact ih text
      · rfl

section ignores

variable (ignores : IgnoresCase inClass)

include ignores

theorem takeWhile_lowered (text : List Char) :
    (lowered text).takeWhile inClass = lowered (text.takeWhile inClass) := by
  have same : inClass ∘ Char.toLower = inClass := funext ignores
  rw [lowered, List.takeWhile_map, same, lowered]

theorem dropWhile_lowered (text : List Char) :
    (lowered text).dropWhile inClass = lowered (text.dropWhile inClass) := by
  have same : inClass ∘ Char.toLower = inClass := funext ignores
  rw [lowered, List.dropWhile_map, same, lowered]

theorem run_lowered (text : List Char) :
    run inClass (lowered text) = (run inClass text).map (Prod.map lowered lowered) := by
  rw [run, run, takeWhile_lowered ignores, dropWhile_lowered ignores]
  cases text.takeWhile inClass <;> rfl

end ignores

theorem trimStart_lowered (text : List Char) : trimStart (lowered text) = lowered (trimStart text) :=
  dropWhile_lowered ignoresCase_isBlank text

theorem word_lowered (text : List Char) :
    word (lowered text) = (word text).map (Prod.map lowered lowered) :=
  run_lowered ignoresCase_isWordChar text

theorem blanks_lowered (text : List Char) : blanks (lowered text) = (blanks text).map lowered := by
  cases text with
  | nil => rfl
  | cons c text =>
    simp only [lowered, List.map_cons, blanks, ignoresCase_isBlank c]
    split
    · exact congrArg some (trimStart_lowered text)
    · rfl

theorem search_lowered (same : ∀ text, matcher (lowered text) = (matcher text).map g)
    (text : List Char) : search matcher (lowered text) = (search matcher text).map g := by
  induction text with
  | nil => exact same []
  | cons c text ih =>
    have here : matcher (c.toLower :: lowered text) = (matcher (c :: text)).map g := same (c :: text)
    rw [lowered, List.map_cons, search, ← lowered, ih, here, search]
    cases matcher (c :: text) <;> rfl

theorem before_lowered {mark : List Char} (plain : ∀ e ∈ mark, e.isAlpha = false) (text : List Char) :
    before mark (lowered text) = lowered (before mark text) := by
  induction text with
  | nil => rfl
  | cons c text ih =>
    have marked : literal mark (c.toLower :: lowered text) = (literal mark (c :: text)).map lowered :=
      literal_lowered plain (c :: text)
    have here : (literal mark (c.toLower :: lowered text)).isSome = (literal mark (c :: text)).isSome := by
      rw [marked, Option.isSome_map]
    rw [lowered, List.map_cons, before, ← lowered, ih, here, before]
    split <;> rfl

theorem splitNewlines_lowered (text : List Char) : splitNewlines (lowered text) =
    (lowered (splitNewlines text).1, (splitNewlines text).2.map lowered) := by
  induction text with
  | nil => rfl
  | cons c text ih =>
    have same : c.toLower = '\n' ↔ c = '\n' := toLower_eq_iff (by decide)
    rw [lowered, List.map_cons, splitNewlines, ← lowered, ih, splitNewlines]
    simp only [same]
    split <;> rfl

theorem chomp_lowered (line : List Char) : chomp (lowered line) = lowered (chomp line) := by
  have same : (lowered line).getLast? = some '\r' ↔ line.getLast? = some '\r' := by
    rw [lowered, List.getLast?_map, Option.map_eq_some_iff]
    constructor
    · rintro ⟨c, last, return_⟩
      rwa [(toLower_eq_iff (by decide)).mp return_] at last
    · intro last
      exact ⟨'\r', last, by decide⟩
  rw [chomp, chomp]
  simp only [same]
  split
  · exact (List.map_dropLast ..).symm
  · rfl

theorem closeLines_lowered (piece : List Char) (pieces : List (List Char)) :
    closeLines (lowered piece) (pieces.map lowered) = (closeLines piece pieces).map lowered := by
  induction pieces generalizing piece with
  | nil =>
    have same : lowered piece = [] ↔ piece = [] := List.map_eq_nil_iff
    simp only [List.map_nil, closeLines, same]
    split <;> rfl
  | cons next pieces ih => rw [List.map_cons, closeLines, ih, chomp_lowered, closeLines, List.map_cons]

/-- A text in lower case has the lines of the text in lower case. -/
theorem lines_lowered (text : List Char) : lines (lowered text) = (lines text).map lowered := by
  rw [lines, splitNewlines_lowered, closeLines_lowered, lines]

theorem word64?_lowered (digits : List Char) : word64? (lowered digits) = word64? digits := by
  have same : (lowered digits).all Char.isDigit = digits.all Char.isDigit := by
    have together : Char.isDigit ∘ Char.toLower = Char.isDigit := funext ignoresCase_isDigit
    rw [lowered, List.all_map, together]
  -- Digits are the same in lower case, and a text with anything else is no number in either case.
  by_cases numeric : digits.all Char.isDigit
  · have unchanged : lowered digits = digits := by
      refine (List.map_congr_left fun c member => ?_).trans (List.map_id digits)
      exact toLower_of_isDigit (List.all_eq_true.mp numeric c member)
    rw [unchanged]
  · simp only [word64?, same, numeric, Bool.false_eq_true, false_and, and_false, if_false]

end Text

namespace Vhdl

open Text

theorem wordBetween_lowered (opening closing : String) (text : List Char) :
    wordBetween opening closing (lowered text) =
      (wordBetween opening closing text).map (Prod.map lowered lowered) := by
  simp only [wordBetween, Option.bind_eq_bind, Option.pure_def, caseless_lowered, blanks_lowered,
    word_lowered, Option.bind_map, Option.map_bind, Function.comp_def, Prod.map, Option.map_some]

theorem entityName?_lowered (line : List Char) :
    entityName? (lowered line) = (entityName? line).map lowered := by
  rw [entityName?, search_lowered (wordBetween_lowered "entity" "is"), entityName?, Option.map_map,
    Option.map_map]
  rfl

theorem componentName?_lowered (line : List Char) :
    componentName? (lowered line) = (componentName? line).map lowered := by
  rw [componentName?, search_lowered (wordBetween_lowered "component" "is"), componentName?,
    Option.map_map, Option.map_map]
  rfl

theorem architectureNames?_lowered (line : List Char) :
    architectureNames? (lowered line) = (architectureNames? line).map (Prod.map lowered lowered) := by
  refine search_lowered (fun text => ?_) line
  simp only [wordBetween_lowered, Option.bind_eq_bind, Option.pure_def, caseless_lowered, blanks_lowered,
    word_lowered, Option.bind_map, Option.map_bind, Function.comp_def, Prod.map, Option.map_some]

theorem literal_lowered_of_mark (mark : Char) (plain : mark.isAlpha = false) (text : List Char) :
    literal [mark] (lowered text) = (literal [mark] text).map lowered :=
  literal_lowered (List.forall_mem_singleton.mpr plain) text

theorem instanceName?_lowered (line : List Char) :
    instanceName? (lowered line) = (instanceName? line).map lowered := by
  simp only [instanceName?, Option.bind_eq_bind, Option.pure_def, trimStart_lowered, caseless_lowered,
    blanks_lowered, word_lowered, literal_lowered_of_mark ':' rfl, literal_lowered_of_mark '.' rfl,
    Option.bind_map, Option.map_bind, Function.comp_def, Prod.map, Option.map_some, ← Option.getD_map]

theorem endsWith_lowered (words : List (List Char)) (line : List Char) :
    endsWith words (lowered line) = endsWith words line := by
  have named : ∀ text, words.foldlM (fun text expected => (blanks text).bind (caseless expected))
      (lowered text) =
        (words.foldlM (fun text expected => (blanks text).bind (caseless expected)) text).map lowered := by
    intro text
    induction words generalizing text with
    | nil => rfl
    | cons expected words ih =>
      simp only [List.foldlM_cons, Option.bind_eq_bind, blanks_lowered, caseless_lowered, Option.bind_map,
        Option.map_bind, Option.bind_assoc, Function.comp_def, ih]
  have later : ∀ (found : Option (List Char)) (next : List Char → Option (List Char)),
      (found.bind fun text => (next text).map lowered) = (found.bind next).map lowered :=
    fun found next => Option.map_bind.symm
  simp only [endsWith, Option.bind_eq_bind, trimStart_lowered, caseless_lowered, named, Option.bind_map,
    Function.comp_def, literal_lowered_of_mark ';' rfl, later, Option.isSome_map]

theorem closes_lowered (keyword name : String) (line : List Char) :
    closes keyword name (lowered line) = closes keyword name line := by
  simp only [closes, endsWith_lowered]

theorem moreNames_lowered (fuel : Nat) (text : List Char) : moreNames fuel (lowered text) =
    Prod.map (List.map lowered) lowered (moreNames fuel text) := by
  induction fuel generalizing text with
  | zero => rfl
  | succ fuel ih =>
    have next : ((literal [','] (trimStart (lowered text))).bind fun text => word (trimStart text)) =
        ((literal [','] (trimStart text)).bind fun text => word (trimStart text)).map
          (Prod.map lowered lowered) := by
      simp only [trimStart_lowered, literal_lowered_of_mark ',' rfl, word_lowered, Option.bind_map,
        Option.map_bind, Function.comp_def]
    simp only [moreNames, Option.bind_eq_bind, next]
    cases (literal [','] (trimStart text)).bind fun text => word (trimStart text) with
    | none => rfl
    | some found => simp only [Option.map_some, Prod.map, ih, List.map_cons]

theorem nameList_lowered (text : List Char) :
    nameList (lowered text) = (nameList text).map (Prod.map (List.map lowered) lowered) := by
  simp only [nameList, Option.bind_eq_bind, Option.pure_def, word_lowered, moreNames_lowered,
    length_lowered, Option.bind_map, Option.map_bind, Function.comp_def, Prod.map, Option.map_some,
    List.map_cons]

theorem mode_lowered (text : List Char) :
    mode (lowered text) = (mode text).map (Prod.map id lowered) := by
  rw [mode, caseless_lowered, caseless_lowered, mode]
  cases caseless ['i', 'n'] text with
  | some rest => rfl
  | none => cases caseless ['o', 'u', 't'] text <;> rfl

theorem vectorRange?_lowered (text : List Char) : vectorRange? (lowered text) = vectorRange? text := by
  simp only [vectorRange?, Option.bind_eq_bind, Option.pure_def, trimStart_lowered, caseless_lowered,
    blanks_lowered, run_lowered ignoresCase_isDigit, literal_lowered_of_mark '(' rfl,
    literal_lowered_of_mark ')' rfl, word64?_lowered, Option.bind_map, Function.comp_def, Prod.map]

/-- The ports of a line, their names spelled in lower case. -/
def PortLine.lowered (decl : PortLine) : PortLine := { decl with names := decl.names.map Text.lowered }

theorem portLine?_lowered (line : List Char) :
    portLine? (lowered line) = (portLine? line).map PortLine.lowered := by
  refine search_lowered (fun text => ?_) line
  simp only [nameList_lowered, mode_lowered, vectorRange?_lowered, Option.bind_eq_bind, Option.pure_def,
    trimStart_lowered, caseless_lowered, blanks_lowered, literal_lowered_of_mark ':' rfl,
    Option.bind_map, Option.map_bind, Function.comp_def, Prod.map, Option.map_some, id_eq,
    PortLine.lowered]

theorem code_lowered (line : List Char) : code (lowered line) = lowered (code line) := by
  have plain : ∀ e ∈ ['-', '-'], e.isAlpha = false :=
    List.forall_mem_cons.mpr ⟨rfl, List.forall_mem_singleton.mpr rfl⟩
  exact before_lowered plain line

end Vhdl

/-- A unit, its name spelled in lower case. -/
def DesignUnit.lowered (u : DesignUnit) : DesignUnit := { u with spelling := u.spelling.toLower }

/-- A port, its name spelled in lower case. -/
def Port.lowered (port : Port) : Port := { port with spelling := port.spelling.toLower }

/-- A port without its spelling. -/
def Port.unspelled (port : Port) : String × Direction × Option BitRange :=
  (port.name, port.direction, port.range)

theorem DesignUnit.declare_lowered (name : List Char) (file : String) :
    declare .vhdl (String.ofList (Text.lowered name)) file =
      (declare .vhdl (String.ofList name) file).lowered := by
  rw [Text.ofList_lowered, declare, declare, lowered, DesignUnit.mk.injEq]
  exact ⟨Language.fold_fold .vhdl _, rfl, rfl⟩

theorem Port.declare_lowered (name : List Char) (direction : Direction) (range : Option BitRange) :
    declare .vhdl (String.ofList (Text.lowered name)) direction range =
      (declare .vhdl (String.ofList name) direction range).lowered := by
  rw [Text.ofList_lowered, declare, declare, lowered, Port.mk.injEq]
  exact ⟨Language.fold_fold .vhdl _, rfl, rfl, rfl⟩

namespace Declarations

/-- The declarations with all units and ports spelled in lower case. -/
def lowered (d : Declarations) : Declarations where
  units := d.units.map DesignUnit.lowered
  ports := d.ports.map (Prod.map id Port.lowered)
  instances := d.instances

theorem names_lowered (d : Declarations) : d.lowered.units.map (·.name) = d.units.map (·.name) := by
  rw [lowered, List.map_map]
  rfl

@[simp] theorem declares_lowered (d : Declarations) (unit : String) :
    d.lowered.declares unit = d.declares unit := by
  rw [declares, lowered, List.any_map]
  rfl

theorem portsOf_lowered (d : Declarations) (unit : String) :
    d.lowered.portsOf unit = (d.portsOf unit).map Port.lowered := by
  rw [portsOf, lowered, List.filterMap_map, portsOf, List.map_filterMap]
  refine List.filterMap_congr fun (owner, port) _ => ?_
  simp only [Function.comp_apply, Prod.map_apply, id_eq]
  split <;> rfl

theorem unspelled_lowered (d : Declarations) (unit : String) :
    (d.lowered.portsOf? unit).map (·.map Port.unspelled) =
      (d.portsOf? unit).map (·.map Port.unspelled) := by
  have forgotten : Port.unspelled ∘ Port.lowered = Port.unspelled := rfl
  rw [portsOf?, portsOf?, declares_lowered, portsOf_lowered]
  split
  · rw [Option.map_some, List.map_map, forgotten, Option.map_some]
  · rfl

theorem addUnit_lowered (d : Declarations) (u : DesignUnit) :
    d.lowered.addUnit u.lowered = (d.addUnit u).lowered := by
  simp only [addUnit, lowered, List.map_append, List.map_cons, List.map_nil]

theorem addInstance_lowered (d : Declarations) (i : Instance) :
    d.lowered.addInstance i = (d.addInstance i).lowered := by
  rw [addInstance, addInstance, apply_ite lowered]
  rfl

theorem addPort_lowered (d : Declarations) (unit : String) (port : Port) :
    d.lowered.addPort unit port.lowered = (d.addPort unit port).lowered := by
  rw [addPort, addPort, apply_ite lowered, declares_lowered]
  simp only [lowered, List.map_append, List.map_cons, List.map_nil, Prod.map_apply, id_eq]

end Declarations

namespace Vhdl

open Text

namespace Scan

/-- What the scanner knows, all names spelled in lower case. -/
def lowered (s : Scan) : Scan := { s with found := s.found.lowered }

theorem folded_lowered (name : List Char) : folded (Text.lowered name) = folded name := by
  rw [folded, ofList_lowered]
  exact Language.fold_fold .vhdl _

theorem openEntity_lowered (file : String) (line : List Char) (s : Scan) :
    s.lowered.openEntity file (Text.lowered line) = (s.openEntity file line).lowered := by
  unfold openEntity
  rw [entityName?_lowered]
  cases entityName? line with
  | none => rfl
  | some name =>
    simp only [Option.map_some, folded_lowered, DesignUnit.declare_lowered, lowered,
      Declarations.addUnit_lowered]

theorem addPorts_lowered (unit : String) (decl : PortLine) (found : Declarations) :
    addPorts unit decl.lowered found.lowered = (addPorts unit decl found).lowered := by
  rw [addPorts, addPorts, PortLine.lowered]
  dsimp only
  generalize decl.names = names
  induction names generalizing found with
  | nil => rfl
  | cons name names ih =>
    rw [List.map_cons, List.foldl_cons, Port.declare_lowered, Declarations.addPort_lowered, ih,
      List.foldl_cons]

theorem readEntity_lowered (line : List Char) (s : Scan) :
    s.lowered.readEntity (Text.lowered line) = (s.readEntity line).lowered := by
  obtain ⟨found, scope⟩ := s
  cases scope with
  | outside => rfl
  | architecture name unit => rfl
  | entity name =>
    simp only [readEntity, lowered, closes_lowered, portLine?_lowered]
    split
    · rfl
    · cases portLine? line with
      | none => rfl
      | some decl => simp only [Option.map_some, addPorts_lowered]

theorem openArchitecture_lowered (line : List Char) (s : Scan) :
    s.lowered.openArchitecture (Text.lowered line) = (s.openArchitecture line).lowered := by
  unfold openArchitecture
  rw [architectureNames?_lowered]
  cases architectureNames? line with
  | none => rfl
  | some names => simp only [Option.map_some, Prod.map, folded_lowered, lowered]

theorem child?_lowered (line : List Char) : child? (Text.lowered line) = (child? line).map Text.lowered := by
  rw [child?, componentName?_lowered, instanceName?_lowered, child?, Option.map_or]

theorem readArchitecture_lowered (line : List Char) (s : Scan) :
    s.lowered.readArchitecture (Text.lowered line) = (s.readArchitecture line).lowered := by
  obtain ⟨found, scope⟩ := s
  cases scope with
  | outside => rfl
  | entity name => rfl
  | architecture name unit =>
    simp only [readArchitecture, lowered, closes_lowered, child?_lowered]
    cases child? line with
    | none => rfl
    | some child => simp only [Option.map_some, folded_lowered, Declarations.addInstance_lowered]

/-- A line in lower case is read as the line itself, with all names spelled in lower case. -/
theorem step_lowered (file : String) (s : Scan) (line : List Char) :
    s.lowered.step file (Text.lowered line) = (s.step file line).lowered := by
  simp only [step, code_lowered, openEntity_lowered, readEntity_lowered, openArchitecture_lowered,
    readArchitecture_lowered]

end Scan

theorem scanLines_lowered (file : String) (lines : List (List Char)) (s : Scan) :
    scanLines file (lines.map lowered) s.lowered = (scanLines file lines s).lowered := by
  induction lines generalizing s with
  | nil => rfl
  | cons line lines ih =>
    rw [scanLines, List.map_cons, List.foldl_cons, Scan.step_lowered]
    exact ih (s.step file line)

/-- A text in lower case declares what the text declares, spelled in lower case. -/
theorem scan_toLower (text file : String) : scan text.toLower file = (scan text file).lowered := by
  have lower : text.toLower.toList = lowered text.toList := String.toList_map
  rw [scan, lower, lines_lowered]
  exact congrArg Scan.found (scanLines_lowered file (lines text.toList) {})

/-- Texts that differ in letter case only declare entities of the same folded names in the same order, the
same instances, and for every entity ports of the same folded names, directions and ranges. -/
theorem scan_congr_letterCase {first second : String} (alike : first.toLower = second.toLower)
    (file : String) :
    ((scan first file).units.map (·.name) = (scan second file).units.map (·.name)) ∧
      (scan first file).instances = (scan second file).instances ∧
      ∀ unit, ((scan first file).portsOf? unit).map (·.map Port.unspelled) =
        ((scan second file).portsOf? unit).map (·.map Port.unspelled) := by
  have same : (scan first file).lowered = (scan second file).lowered := by
    rw [← scan_toLower, alike, scan_toLower]
  have names := congrArg (fun d : Declarations => d.units.map (·.name)) same
  have instances := congrArg Declarations.instances same
  refine ⟨?_, instances, fun unit => ?_⟩
  · rwa [Declarations.names_lowered, Declarations.names_lowered] at names
  · rw [← Declarations.unspelled_lowered, same, Declarations.unspelled_lowered]

/-- An entity and its architecture with one instance. -/
def lamp : String :=
  "entity lamp is\n port (led : out std_logic);\nend lamp;\narchitecture a of lamp is\nu : entity bulb;\nend a;\n"

/-- The same source in capitals, its names spelled in another way. -/
def shoutedLamp : String :=
  "ENTITY Lamp IS\n PORT (LED : OUT STD_LOGIC);\nEND LAMP;\nARCHITECTURE A OF lAMP IS\nU : ENTITY Bulb;\nEND A;\n"

theorem scan_shoutedLamp : lamp.toLower = shoutedLamp.toLower ∧
    (scan shoutedLamp "lamp.vhd").units.map (·.name) = ["lamp"] ∧
    (scan shoutedLamp "lamp.vhd").instances = [⟨"bulb", "lamp"⟩] ∧
    ((scan shoutedLamp "lamp.vhd").portsOf? "lamp").map (·.map Port.unspelled) =
      some [("led", .output, none)] := by
  have alike : lamp.toLower = shoutedLamp.toLower := by
    rw [← String.toList_inj, String.toLower, String.toLower, String.toList_map, String.toList_map,
      lamp, shoutedLamp, String.toList_ofList, String.toList_ofList]
    decide +kernel
  have scanned : scan lamp "lamp.vhd" = ⟨[⟨"lamp", "lamp", "lamp.vhd"⟩],
      [("lamp", ⟨"led", "led", .output, none⟩)], [⟨"bulb", "lamp"⟩]⟩ := by
    rw [scan, lamp, String.toList_ofList]
    decide +kernel
  obtain ⟨names, instances, ports⟩ := scan_congr_letterCase alike "lamp.vhd"
  refine ⟨alike, names.symm.trans ?_, instances.symm.trans ?_, (ports "lamp").symm.trans ?_⟩
  · rw [scanned]
    rfl
  · rw [scanned]
  · rw [scanned]
    rfl

end Vhdl

end BoardBind
