import BoardBind.Proofs.Port.Bits
import BoardBind.Proofs.Source.Collected
import BoardBind.Proofs.Text.Lines
import BoardBind.Proofs.Text.Match
import BoardBind.Proofs.Wrapper.Name
import BoardBind.Verilog.Listing

/-! # Reading a listing back

The tool prints the modules of a file one after the other, each with its instances and then its ports.
A line is told by what it starts with: a name or a direction in quotes is read as it was written, and so
is a width, and a line that starts differently from all of these changes nothing.

What the reader remembers between two lines is the module and what it knows of the latest port; a new
port starts afresh. So every instance and port adds what it declares to its module, whatever was read
before, and a port that cannot be declared adds nothing.
-/

namespace BoardBind.Verilog

open Text Declarations

section lines

variable {key front rest : List Char} {file name text : String} {s : ListingState}

/-! ## What lines start with -/

/-- The start of a line up to the quote that opens its value. -/
def quotedKey (indent : Nat) (key : String) : List Char :=
  List.replicate indent ' ' ++ key.toList ++ [':', ' ', '"']

/-- The start of a line with a width. -/
def widthKey : List Char :=
  List.replicate 12 ' ' ++ "port_width: ".toList

/-- Two texts that differ in a character they both have. -/
def Diverge (first second : List Char) : Prop :=
  ¬ first <+: second ∧ ¬ second <+: first

instance (first second : List Char) : Decidable (Diverge first second) :=
  inferInstanceAs (Decidable (¬ first <+: second ∧ ¬ second <+: first))

theorem literal_of_diverge (apart : Diverge key front) : literal key (front ++ rest) = none := by
  rw [Option.eq_none_iff_forall_ne_some]
  intro behind taken
  have start : key <+: front ++ rest := ⟨behind, (literal_eq_some_iff.mp taken).symm⟩
  exact (List.prefix_or_prefix_of_prefix start (List.prefix_append front rest)).elim apart.1 apart.2

theorem quotedName?_of_diverge {indent : Nat} {key : String} (apart : Diverge (quotedKey indent key) front) :
    quotedName? indent key (front ++ rest) = none := by
  have missing : literal (List.replicate indent ' ' ++ key.toList ++ [':', ' ', '"']) (front ++ rest) =
      none := literal_of_diverge apart
  simp only [quotedName?, missing, bind, Option.bind_none]

/-- The characters of an identifier. -/
theorem isVerilogChar_of_mem {name : List Char} (valid : Language.isVerilogIdentifier name) :
    ∀ c ∈ name, Language.isVerilogChar c := by
  cases name with
  | nil => cases valid
  | cons c rest =>
    simp only [Language.isVerilogIdentifier, Bool.and_eq_true, List.all_eq_true] at valid
    refine List.forall_mem_cons.mpr ⟨?_, valid.2⟩
    have start := valid.1
    simp only [Language.isVerilogStart, Language.isVerilogChar, Char.isAlphanum, Bool.or_eq_true,
      decide_eq_true_eq] at start ⊢
    tauto

/-- A name in quotes is read as it was written if it is an identifier, and else not at all. -/
theorem quotedName?_quoted {indent : Nat} {key : String} (unquoted : '"' ∉ name.toList) :
    quotedName? indent key (quotedKey indent key ++ (name.toList ++ ['"'])) =
      if Language.isVerilogIdentifier name.toList then some name else none := by
  have opened : literal (List.replicate indent ' ' ++ key.toList ++ [':', ' ', '"'])
      (quotedKey indent key ++ (name.toList ++ ['"'])) = some (name.toList ++ ['"']) := literal_append
  by_cases valid : Language.isVerilogIdentifier name.toList
  · have nonempty : name.toList ≠ [] := fun empty => by
      rw [empty] at valid
      cases valid
    have taken : run Language.isVerilogChar (name.toList ++ ['"']) = some (name.toList, ['"']) :=
      run_eq_some_iff.mpr ⟨rfl, nonempty, isVerilogChar_of_mem valid, fun c first => by
        obtain rfl : '"' = c := Option.some.inj first
        decide⟩
    have closed : literal ['"'] ['"'] = some [] := rfl
    simp only [quotedName?, opened, taken, closed, valid, bind, Option.bind_some, if_true,
      String.ofList_toList]
  · rw [if_neg valid, Option.eq_none_iff_forall_ne_some]
    intro read taken
    simp only [quotedName?, opened, bind, Option.bind_some, Option.bind_eq_some_iff, Prod.exists] at taken
    obtain ⟨found, rest, whole, behind, closed, identifier⟩ := taken
    obtain ⟨same, -⟩ := run_eq_some_iff.mp whole
    rw [literal_eq_some_iff.mp closed, List.singleton_append] at same
    -- Of the two quotes, the closing one is the last character, so the whole name was read.
    obtain ⟨rfl, -⟩ := (List.append_cons_inj_of_notMem unquoted List.not_mem_nil).mp same
    rw [if_neg valid] at identifier
    cases identifier

/-! ## Directions and widths -/

/-- The direction that a text in quotes means. -/
def direction? (text : String) : Option Direction :=
  if text = "input" then some .input else if text = "output" then some .output else none

/-- A word in quotes is told from every other text in quotes. -/
theorem isSome_literal_quoted {word : String} (unquoted : '"' ∉ text.toList) :
    (literal (word.toList ++ ['"']) (text.toList ++ ['"'])).isSome ↔ text = word := by
  rw [isSome_literal_iff]
  constructor
  · rintro ⟨behind, same⟩
    rw [List.append_assoc, List.singleton_append] at same
    obtain ⟨chars, -⟩ := (List.append_cons_inj_of_notMem unquoted List.not_mem_nil).mp same.symm
    exact String.toList_inj.mp chars
  · rintro rfl
    exact List.prefix_rfl

theorem portDirection?_written (unquoted : '"' ∉ text.toList) :
    portDirection? (quotedKey 12 "port_dir" ++ (text.toList ++ ['"'])) = direction? text := by
  have opened : literal (List.replicate 12 ' ' ++ "port_dir: \"".toList)
      (quotedKey 12 "port_dir" ++ (text.toList ++ ['"'])) = some (text.toList ++ ['"']) := by
    have start : quotedKey 12 "port_dir" = List.replicate 12 ' ' ++ "port_dir: \"".toList := by decide
    rw [start, literal_append]
  have input : (literal "input\"".toList (text.toList ++ ['"'])).isSome ↔ text = "input" := by
    have quoted : "input\"".toList = "input".toList ++ ['"'] := by decide
    rw [quoted, isSome_literal_quoted unquoted]
  have output : (literal "output\"".toList (text.toList ++ ['"'])).isSome ↔ text = "output" := by
    have quoted : "output\"".toList = "output".toList ++ ['"'] := by decide
    rw [quoted, isSome_literal_quoted unquoted]
  simp only [portDirection?, opened, bind, Option.bind_some, input, output, direction?]

theorem portDirection?_of_diverge (apart : Diverge (quotedKey 12 "port_dir") front) :
    portDirection? (front ++ rest) = none := by
  have missing : literal (List.replicate 12 ' ' ++ "port_dir: \"".toList) (front ++ rest) = none :=
    literal_of_diverge apart
  simp only [portDirection?, missing, bind, Option.bind_none]

theorem portWidth?_written (width : Nat) :
    portWidth? (widthKey ++ (toString width).toList) = some (toString width).toList := by
  have opened : literal (List.replicate 12 ' ' ++ "port_width: ".toList)
      (widthKey ++ (toString width).toList) = some (toString width).toList := literal_append
  have taken : run Char.isDigit (toString width).toList = some ((toString width).toList, []) :=
    run_eq_some_iff.mpr
      ⟨(List.append_nil _).symm, digits_ne_nil width, allIn_isDigit_toString width, by simp⟩
  simp only [portWidth?, opened, taken, bind, Option.bind_some, pure]

theorem portWidth?_of_diverge (apart : Diverge widthKey front) : portWidth? (front ++ rest) = none := by
  have missing : literal (List.replicate 12 ' ' ++ "port_width: ".toList) (front ++ rest) = none :=
    literal_of_diverge apart
  simp only [portWidth?, missing, bind, Option.bind_none]

/-! ## Steps of the reader -/

namespace ListingState

theorem step_moduleName (unquoted : '"' ∉ name.toList) :
    s.step file (quotedKey 6 "- mod_name" ++ (name.toList ++ ['"'])) =
      if Language.isVerilogIdentifier name.toList then
        { s with found := s.found.addUnit (.declare .verilog name file), module := name }
      else s := by
  have noInstance : Diverge (quotedKey 10 "- mod_name") (quotedKey 6 "- mod_name") := by decide
  have noPort : Diverge (quotedKey 10 "- port_name") (quotedKey 6 "- mod_name") := by decide
  have noDirection : Diverge (quotedKey 12 "port_dir") (quotedKey 6 "- mod_name") := by decide
  have noWidth : Diverge widthKey (quotedKey 6 "- mod_name") := by decide
  simp only [step, moduleName?, instanceName?, portName?, quotedName?_quoted unquoted,
    quotedName?_of_diverge noInstance, quotedName?_of_diverge noPort,
    portDirection?_of_diverge noDirection, portWidth?_of_diverge noWidth]
  cases Language.isVerilogIdentifier name.toList <;> rfl

theorem step_instanceName (unquoted : '"' ∉ name.toList) :
    s.step file (quotedKey 10 "- mod_name" ++ (name.toList ++ ['"'])) =
      if Language.isVerilogIdentifier name.toList then
        { s with found := s.found.addInstance ⟨name, s.module⟩ }
      else s := by
  have noModule : Diverge (quotedKey 6 "- mod_name") (quotedKey 10 "- mod_name") := by decide
  have noPort : Diverge (quotedKey 10 "- port_name") (quotedKey 10 "- mod_name") := by decide
  have noDirection : Diverge (quotedKey 12 "port_dir") (quotedKey 10 "- mod_name") := by decide
  have noWidth : Diverge widthKey (quotedKey 10 "- mod_name") := by decide
  simp only [step, moduleName?, instanceName?, portName?, quotedName?_quoted unquoted,
    quotedName?_of_diverge noModule, quotedName?_of_diverge noPort,
    portDirection?_of_diverge noDirection, portWidth?_of_diverge noWidth]
  cases Language.isVerilogIdentifier name.toList <;> rfl

theorem step_portName (unquoted : '"' ∉ name.toList) :
    s.step file (quotedKey 10 "- port_name" ++ (name.toList ++ ['"'])) =
      if Language.isVerilogIdentifier name.toList then { s with port := name, direction := none }
      else s := by
  have noModule : Diverge (quotedKey 6 "- mod_name") (quotedKey 10 "- port_name") := by decide
  have noInstance : Diverge (quotedKey 10 "- mod_name") (quotedKey 10 "- port_name") := by decide
  have noDirection : Diverge (quotedKey 12 "port_dir") (quotedKey 10 "- port_name") := by decide
  have noWidth : Diverge widthKey (quotedKey 10 "- port_name") := by decide
  simp only [step, moduleName?, instanceName?, portName?, quotedName?_quoted unquoted,
    quotedName?_of_diverge noModule, quotedName?_of_diverge noInstance,
    portDirection?_of_diverge noDirection, portWidth?_of_diverge noWidth]
  cases Language.isVerilogIdentifier name.toList <;> rfl

/-- A text that is no direction leaves the direction as it was. -/
theorem step_portDirection (unquoted : '"' ∉ text.toList) :
    s.step file (quotedKey 12 "port_dir" ++ (text.toList ++ ['"'])) =
      { s with direction := (direction? text).or s.direction } := by
  have noModule : Diverge (quotedKey 6 "- mod_name") (quotedKey 12 "port_dir") := by decide
  have noInstance : Diverge (quotedKey 10 "- mod_name") (quotedKey 12 "port_dir") := by decide
  have noPort : Diverge (quotedKey 10 "- port_name") (quotedKey 12 "port_dir") := by decide
  have noWidth : Diverge widthKey (quotedKey 12 "port_dir") := by decide
  simp only [step, moduleName?, instanceName?, portName?, quotedName?_of_diverge noModule,
    quotedName?_of_diverge noInstance, quotedName?_of_diverge noPort, portDirection?_written unquoted,
    portWidth?_of_diverge noWidth]
  cases direction? text <;> rfl

theorem step_portWidth (width : Nat) :
    s.step file (widthKey ++ (toString width).toList) = s.readWidth (toString width).toList := by
  have noModule : Diverge (quotedKey 6 "- mod_name") widthKey := by decide
  have noInstance : Diverge (quotedKey 10 "- mod_name") widthKey := by decide
  have noPort : Diverge (quotedKey 10 "- port_name") widthKey := by decide
  have noDirection : Diverge (quotedKey 12 "port_dir") widthKey := by decide
  simp only [step, moduleName?, instanceName?, portName?, quotedName?_of_diverge noModule,
    quotedName?_of_diverge noInstance, quotedName?_of_diverge noPort,
    portDirection?_of_diverge noDirection, portWidth?_written]

/-- The starts of all lines that are taken notice of. -/
def keys : List (List Char) :=
  [quotedKey 6 "- mod_name", quotedKey 10 "- mod_name", quotedKey 10 "- port_name",
    quotedKey 12 "port_dir", widthKey]

/-- A line that starts differently from all of these changes nothing. -/
theorem step_of_diverge (apart : ∀ key ∈ keys, Diverge key front) : s.step file (front ++ rest) = s := by
  simp only [keys, List.forall_mem_cons] at apart
  obtain ⟨noModule, noInstance, noPort, noDirection, noWidth, -⟩ := apart
  simp only [step, moduleName?, instanceName?, portName?, quotedName?_of_diverge noModule,
    quotedName?_of_diverge noInstance, quotedName?_of_diverge noPort,
    portDirection?_of_diverge noDirection, portWidth?_of_diverge noWidth]

end ListingState

end lines

/-! ## Listings -/

/-- A simple identifier. -/
structure Identifier where
  text : String
  valid : Language.isVerilogIdentifier text.toList

/-- A text that can stand in quotes on a line. -/
structure Quotable where
  text : String
  unquoted : '"' ∉ text.toList
  single : '\n' ∉ text.toList

/-- An instance of a module, by its own name and that of the module. -/
structure ListedInstance where
  module : Identifier
  label : Quotable

/-- A port, whose direction may be one that is not supported. -/
structure ListedPort where
  name : Identifier
  direction : Quotable
  width : Nat

/-- A module with its instances and ports. -/
structure ListedModule where
  name : Identifier
  instances : List ListedInstance
  ports : List ListedPort

/-- A line that holds a text in quotes behind a key. -/
def quotedLine (key text : String) : String :=
  key ++ text ++ "\""

namespace ListedInstance

/-- The lines of an instance. -/
def lines (i : ListedInstance) : List String :=
  [quotedLine "          - mod_name: \"" i.module.text,
   quotedLine "            inst_name: \"" i.label.text]

/-- The edge from a module to an instance in it. -/
def edge (owner : String) (i : ListedInstance) : Instance :=
  ⟨i.module.text, owner⟩

end ListedInstance

namespace ListedPort

/-- The lines of a port. -/
def lines (p : ListedPort) : List String :=
  [quotedLine "          - port_name: \"" p.name.text,
   quotedLine "            port_dir: \"" p.direction.text,
   "            port_width: " ++ toString p.width]

/-- The declared port, if its direction is supported and its width fits a word: a vector numbered down
to zero, or a single bit. -/
def declared? (p : ListedPort) : Option Port :=
  if p.width < UInt64.size then
    (direction? p.direction.text).map fun direction =>
      { name := p.name.text
        spelling := p.name.text
        direction
        range := if 1 < p.width then some ⟨.ofNat (p.width - 1), 0, UInt64.zero_le⟩ else none }
  else none

end ListedPort

namespace ListedModule

/-- The lines of a module. -/
def lines (m : ListedModule) : List String :=
  [quotedLine "      - mod_name: \"" m.name.text, "        insts:"] ++
    m.instances.flatMap ListedInstance.lines ++ ["        ports:"] ++ m.ports.flatMap ListedPort.lines

/-- The ports that a module declares. -/
def declaredPorts (m : ListedModule) : List Port :=
  m.ports.filterMap ListedPort.declared?

/-- The edges of a module, with repetitions. -/
def edges (m : ListedModule) : List Instance :=
  m.instances.map (ListedInstance.edge m.name.text)

end ListedModule

/-- The listing of the modules of a file. -/
def listing (path : Quotable) (modules : List ListedModule) : String :=
  unlines (["files:", quotedLine "  - file_name: \"" path.text, "    defs:"] ++
    modules.flatMap ListedModule.lines)

example : listing ⟨"counter.sv", by decide, by decide⟩
    [{ name := ⟨"Counter", by decide⟩
       instances := [⟨⟨"adder", by decide⟩, ⟨"u0", by decide, by decide⟩⟩]
       ports :=
        [{ name := ⟨"clk", by decide⟩, direction := ⟨"input", by decide, by decide⟩, width := 1 }] }] =
    unlines
      ["files:",
       "  - file_name: \"counter.sv\"",
       "    defs:",
       "      - mod_name: \"Counter\"",
       "        insts:",
       "          - mod_name: \"adder\"",
       "            inst_name: \"u0\"",
       "        ports:",
       "          - port_name: \"clk\"",
       "            port_dir: \"input\"",
       "            port_width: 1"] :=
  rfl

/-! ## Runs of the reader -/

variable {file owner : String} {ls first second : List String} {s t u : Declarations × String}

theorem isWhole_quotedLine {key text : String} (plain : '\n' ∉ key.toList)
    (single : '\n' ∉ text.toList) : IsWhole (quotedLine key text) := by
  unfold IsWhole quotedLine
  simp [plain, single]

/-- What has been found, and the module in which the reader stands. -/
def ListingState.standing (s : ListingState) : Declarations × String :=
  (s.found, s.module)

/-- Lines lead the reader from one standing to another, whatever it knows of the latest port. -/
structure Leads (file : String) (ls : List String) (s t : Declarations × String) : Prop where
  whole : ∀ line ∈ ls, IsWhole line
  read : ∀ state : ListingState, state.standing = s →
    (readListingLines file (ls.map String.toList) state).standing = t

namespace Leads

theorem nil : Leads file [] s s := ⟨List.forall_mem_nil _, fun _ standing => standing⟩

theorem append (front : Leads file first s t) (back : Leads file second t u) :
    Leads file (first ++ second) s u where
  whole := List.forall_mem_append.mpr ⟨front.whole, back.whole⟩
  read state standing := by
    rw [readListingLines, List.map_append, List.foldl_append]
    exact back.read _ (front.read state standing)

theorem single {line : String} (whole : IsWhole line)
    (step : ∀ state : ListingState, state.standing = s → (state.step file line.toList).standing = t) :
    Leads file [line] s t :=
  ⟨List.forall_mem_singleton.mpr whole, step⟩

/-- Items that lead from one standing to the next one after the other. -/
theorem flatMap {α : Type} {items : List α} {write : α → List String}
    (standing : List α → Declarations × String)
    (leads : ∀ before item, Leads file (write item) (standing before) (standing (before ++ [item]))) :
    Leads file (items.flatMap write) (standing []) (standing items) := by
  induction items using List.reverseRecOn with
  | nil => exact nil
  | append_singleton before item ih =>
    rw [List.flatMap_append, List.flatMap_singleton]
    exact ih.append (leads before item)

/-- A line that starts differently from all keys is passed over. -/
theorem passed {line front : String} {rest : List Char} (whole : IsWhole line)
    (split : line.toList = front.toList ++ rest)
    (apart : ∀ key ∈ ListingState.keys, Diverge key front.toList) : Leads file [line] s s :=
  single whole fun state standing => by
    rw [split, ListingState.step_of_diverge apart, standing]

/-- A listing is read line by line. -/
theorem readListing_eq (leads : Leads file ls ({}, "") t) :
    (readListing (unlines ls) file).standing = t := by
  rw [readListing, lines_unlines_of_whole leads.whole]
  exact leads.read {} rfl

end Leads

theorem toList_quotedLine (key text : String) :
    (quotedLine key text).toList = key.toList ++ (text.toList ++ ['"']) := by
  simp [quotedLine]

theorem toList_moduleLine (name : String) : (quotedLine "      - mod_name: \"" name).toList =
    quotedKey 6 "- mod_name" ++ (name.toList ++ ['"']) := by
  have key : "      - mod_name: \"".toList = quotedKey 6 "- mod_name" := by decide
  rw [toList_quotedLine, key]

theorem toList_instanceLine (name : String) : (quotedLine "          - mod_name: \"" name).toList =
    quotedKey 10 "- mod_name" ++ (name.toList ++ ['"']) := by
  have key : "          - mod_name: \"".toList = quotedKey 10 "- mod_name" := by decide
  rw [toList_quotedLine, key]

theorem toList_portLine (name : String) : (quotedLine "          - port_name: \"" name).toList =
    quotedKey 10 "- port_name" ++ (name.toList ++ ['"']) := by
  have key : "          - port_name: \"".toList = quotedKey 10 "- port_name" := by decide
  rw [toList_quotedLine, key]

theorem toList_directionLine (text : String) : (quotedLine "            port_dir: \"" text).toList =
    quotedKey 12 "port_dir" ++ (text.toList ++ ['"']) := by
  have key : "            port_dir: \"".toList = quotedKey 12 "port_dir" := by decide
  rw [toList_quotedLine, key]

/-- The line with the label of an instance is not taken notice of. -/
theorem diverge_label : ∀ key ∈ ListingState.keys, Diverge key "            inst_name: \"".toList := by
  decide +kernel

theorem toList_widthLine (width : Nat) : ("            port_width: " ++ toString width).toList =
    widthKey ++ (toString width).toList :=
  String.toList_append

theorem Identifier.single (name : Identifier) : '\n' ∉ name.text.toList :=
  notMem_of_forall (isVerilogChar_of_mem name.valid) (by decide)

theorem Identifier.unquoted (name : Identifier) : '"' ∉ name.text.toList :=
  notMem_of_forall (isVerilogChar_of_mem name.valid) (by decide)

/-! ## Blocks of a listing -/

section blocks

variable {units : List DesignUnit} {ports : List (String × Port)} {instances : List Instance}

/-- An instance adds its edge. -/
theorem leads_instance (i : ListedInstance) : Leads file i.lines
    (collected units ports instances, owner)
    (collected units ports (instances ++ [i.edge owner]), owner) := by
  have named : Leads file [quotedLine "          - mod_name: \"" i.module.text]
      (collected units ports instances, owner)
      (collected units ports (instances ++ [i.edge owner]), owner) := by
    refine .single (isWhole_quotedLine (by decide) i.module.single) fun state standing => ?_
    obtain ⟨found, module⟩ := Prod.mk.inj standing
    rw [toList_instanceLine, ListingState.step_instanceName i.module.unquoted, if_pos i.module.valid,
      ListingState.standing, found, module, addInstance_collected]
    rfl
  have labelled : Leads file [quotedLine "            inst_name: \"" i.label.text]
      (collected units ports (instances ++ [i.edge owner]), owner) _ :=
    .passed (isWhole_quotedLine (by decide) i.label.single) (toList_quotedLine _ _) diverge_label
  exact named.append labelled

/-- A port that is declared by a width that fits a word. -/
theorem ofWidth_ofNat {name : String} {direction : Direction} {width : Nat}
    (fits : width < UInt64.size) : Port.ofWidth .verilog name direction (.ofNat width) =
      { name := name
        spelling := name
        direction
        range := if 1 < width then some ⟨.ofNat (width - 1), 0, UInt64.zero_le⟩ else none } := by
  have several : 1 < UInt64.ofNat width ↔ 1 < width := by
    rw [UInt64.lt_iff_toNat_lt, UInt64.toNat_ofNat_of_lt' fits]
    rfl
  rw [Port.ofWidth_eq]
  simp only [several]
  split
  · next bits =>
    have last : UInt64.ofNat (width - 1) = UInt64.ofNat width - 1 :=
      UInt64.ofNat_sub (Nat.le_of_lt bits)
    simp only [last]
    rfl
  · rfl

/-- The width of a port completes it, if it can be declared. -/
theorem standing_readWidth (p : ListedPort) {state : ListingState} (name : state.port = p.name.text)
    (direction : state.direction = direction? p.direction.text) :
    (state.readWidth (toString p.width).toList).standing =
      (p.declared?.elim state.found (state.found.addPort state.module), state.module) := by
  have named : p.name.text ≠ "" := fun empty => absurd p.name.valid (by rw [empty]; decide)
  unfold ListingState.readWidth ListedPort.declared?
  rw [word64?_toString, direction, name]
  by_cases fits : p.width < UInt64.size
  · simp only [if_pos fits]
    cases direction? p.direction.text with
    | none => rfl
    | some direction =>
      simp only [if_neg named, ofWidth_ofNat fits]
      rfl
  · simp only [if_neg fits]
    rfl

theorem isWhole_width (width : Nat) : IsWhole ("            port_width: " ++ toString width) := by
  have digits := allIn_isDigit_toString width
  have plain : '\n' ∉ (toString width).toList := notMem_of_forall digits (by decide)
  have last : (toString width).toList.getLast? ≠ some '\r' := fun last =>
    notMem_of_forall digits (by decide) (List.mem_of_getLast? last)
  unfold IsWhole
  rw [String.toList_append, List.getLast?_append_of_ne_nil _ (digits_ne_nil width)]
  exact ⟨fun member => (List.mem_append.mp member).elim (by decide) plain, last⟩

/-- A port adds itself to its module if it can be declared, and nothing otherwise. -/
theorem leads_port (declared : ∃ u ∈ units, u.name = owner) (p : ListedPort) : Leads file p.lines
    (collected units ports instances, owner)
    (collected units (ports ++ p.declared?.toList.map fun port => (owner, port)) instances, owner) where
  whole := by
    intro line member
    simp only [ListedPort.lines, List.mem_cons, List.not_mem_nil, or_false] at member
    rcases member with rfl | rfl | rfl
    · exact isWhole_quotedLine (by decide) p.name.single
    · exact isWhole_quotedLine (by decide) p.direction.single
    · exact isWhole_width p.width
  read state standing := by
    obtain ⟨found, module⟩ := Prod.mk.inj standing
    have read : readListingLines file (p.lines.map String.toList) state =
        { state with
          port := p.name.text
          direction := direction? p.direction.text : ListingState }.readWidth (toString p.width).toList := by
      simp only [ListedPort.lines, readListingLines, List.map_cons, List.map_nil, List.foldl_cons,
        List.foldl_nil, toList_portLine, toList_directionLine, toList_widthLine]
      rw [ListingState.step_portName p.name.unquoted, if_pos p.name.valid,
        ListingState.step_portDirection p.direction.unquoted, Option.or_none, ListingState.step_portWidth]
    rw [read, standing_readWidth p rfl rfl, found, module]
    cases p.declared? with
    | none => simp
    | some port => exact congrArg (·, owner) (addPort_collected declared port)

/-- The line that opens a module adds it. -/
theorem leads_moduleName (m : ListedModule) :
    Leads file [quotedLine "      - mod_name: \"" m.name.text] (collected units ports instances, owner)
      (collected (units ++ [⟨m.name.text, m.name.text, file⟩]) ports instances, m.name.text) := by
  refine .single (isWhole_quotedLine (by decide) m.name.single) fun state standing => ?_
  obtain ⟨found, module⟩ := Prod.mk.inj standing
  rw [toList_moduleLine, ListingState.step_moduleName m.name.unquoted, if_pos m.name.valid,
    ListingState.standing, found, addUnit_collected]
  rfl

/-- A line of the layout that says nothing. -/
theorem leads_section {line : String} (layout : line ∈ ["files:", "    defs:", "        insts:", "        ports:"]) :
    Leads file [line] s s := by
  have sections : ∀ line ∈ ["files:", "    defs:", "        insts:", "        ports:"],
      IsWhole line ∧ ∀ key ∈ ListingState.keys, Diverge key line.toList := by decide
  obtain ⟨whole, apart⟩ := sections line layout
  exact .passed whole (List.append_nil _).symm apart

/-- A module adds itself, its edges and its ports. -/
theorem leads_module (m : ListedModule) : Leads file m.lines (collected units ports instances, owner)
    (collected (units ++ [⟨m.name.text, m.name.text, file⟩])
      (ports ++ m.declaredPorts.map fun port => (m.name.text, port)) (instances ++ m.edges),
      m.name.text) := by
  have declared : ∃ u ∈ units ++ [⟨m.name.text, m.name.text, file⟩], u.name = m.name.text :=
    ⟨_, List.mem_concat_self, rfl⟩
  have edges : Leads file (m.instances.flatMap ListedInstance.lines) _ _ :=
    .flatMap (fun before => (collected (units ++ [⟨m.name.text, m.name.text, file⟩]) ports
      (instances ++ before.map (ListedInstance.edge m.name.text)), m.name.text)) fun before i => by
        rw [List.map_append, ← List.append_assoc]
        exact leads_instance i
  have clause : Leads file (m.ports.flatMap ListedPort.lines) _ _ :=
    .flatMap (fun before => (collected (units ++ [⟨m.name.text, m.name.text, file⟩])
      (ports ++ (before.filterMap ListedPort.declared?).map fun port => (m.name.text, port))
      (instances ++ m.edges), m.name.text)) fun before p => by
        have single : [p].filterMap ListedPort.declared? = p.declared?.toList := by
          cases found : p.declared? <;> simp [found]
        rw [List.filterMap_append, single, List.map_append, ← List.append_assoc]
        exact leads_port declared p
  simp only [List.map_nil, List.filterMap_nil, List.append_nil] at edges clause
  have instanceSection (s : Declarations × String) : Leads file ["        insts:"] s s :=
    leads_section (by decide)
  have portSection (s : Declarations × String) : Leads file ["        ports:"] s s :=
    leads_section (by decide)
  exact ((((leads_moduleName m).append (instanceSection _)).append edges).append (portSection _)).append
    clause

end blocks

/-! ## Whole listings -/

/-- The declarations of the listed modules. -/
def listed (file : String) (modules : List ListedModule) : Declarations where
  units := modules.map fun m => ⟨m.name.text, m.name.text, file⟩
  ports := modules.flatMap fun m => m.declaredPorts.map fun port => (m.name.text, port)
  instances := (modules.flatMap ListedModule.edges).eraseDups

theorem found_readListing (path : Quotable) (modules : List ListedModule) (file : String) :
    (readListing (listing path modules) file).found = listed file modules := by
  have start : Leads file ["files:", quotedLine "  - file_name: \"" path.text, "    defs:"]
      ({}, "") ({}, "") := by
    have title : Leads file ["files:"] ({}, "") ({}, "") := leads_section (by decide)
    have named : Leads file [quotedLine "  - file_name: \"" path.text] ({}, "") ({}, "") :=
      .passed (isWhole_quotedLine (by decide) path.single) (toList_quotedLine _ _) (by decide)
    exact (title.append named).append (leads_section (by decide))
  have whole : Leads file (modules.flatMap ListedModule.lines) _ _ :=
    .flatMap (fun before => (listed file before, (before.getLast?.map (·.name.text)).getD ""))
      fun before m => by
        rw [listed, listed, List.map_append, List.flatMap_append, List.flatMap_append,
          List.getLast?_concat, List.flatMap_singleton, List.flatMap_singleton]
        exact leads_module m
  exact (Prod.mk.inj (start.append whole).readListing_eq).1

section ports

variable {modules : List ListedModule} {m : ListedModule}
  (distinct : (modules.map (·.name.text)).Nodup) (member : m ∈ modules)

include distinct member

/-- What one of several modules of different names has, when it is looked for by its name. -/
theorem flatMap_of_name {α : Type} (value : ListedModule → List α) :
    (modules.flatMap fun other => if other.name.text = m.name.text then value other else []) =
      value m := by
  induction modules with
  | nil => cases member
  | cons head rest ih =>
    rw [List.map_cons, List.nodup_cons] at distinct
    rw [List.flatMap_cons]
    rcases List.mem_cons.mp member with rfl | later
    · have others : (rest.flatMap fun other =>
          if other.name.text = m.name.text then value other else []) = [] := by
        refine List.flatMap_eq_nil_iff.mpr fun other inRest => if_neg fun same => distinct.1 ?_
        exact List.mem_map.mpr ⟨other, inRest, same⟩
      rw [if_pos rfl, others, List.append_nil]
    · have different : head.name.text ≠ m.name.text := fun same =>
        distinct.1 (same ▸ List.mem_map_of_mem later)
      rw [if_neg different, List.nil_append, ih distinct.2 later]

/-- Each of several modules of different names has its own ports. -/
theorem portsOf?_listed (file : String) :
    (listed file modules).portsOf? m.name.text = some m.declaredPorts := by
  have declared : (listed file modules).declares m.name.text :=
    List.any_eq_true.mpr ⟨_, List.mem_map_of_mem member, decide_eq_true rfl⟩
  have chosen : (listed file modules).portsOf m.name.text = (listed file modules).ports.filterMap
      fun entry => if entry.1 = m.name.text then some entry.2 else none := rfl
  have own (other : ListedModule) : (other.declaredPorts.map fun port => (other.name.text, port)).filterMap
      (fun entry => if entry.1 = m.name.text then some entry.2 else none) =
        if other.name.text = m.name.text then other.declaredPorts else [] := by
    rw [List.filterMap_map]
    split
    · next same => simp [same]
    · next different => simp [different]
  rw [portsOf?, if_pos declared, chosen, listed, List.filterMap_flatMap]
  simp only [own, flatMap_of_name distinct member]

end ports

/-- A listing is read back: the modules in order, each with exactly those of its ports that can be
declared, and the edges in order, each once. -/
theorem readListing_listing (path : Quotable) (modules : List ListedModule) (file : String)
    (distinct : (modules.map (·.name.text)).Nodup) :
    (readListing (listing path modules) file).found = listed file modules ∧
      ∀ m ∈ modules, (readListing (listing path modules) file).found.portsOf? m.name.text =
        some m.declaredPorts := by
  rw [found_readListing]
  exact ⟨rfl, fun m member => portsOf?_listed distinct member file⟩

/-- The path of a file. -/
def counterPath : Quotable :=
  ⟨"counter.sv", by decide, by decide⟩

/-- A module with two adders, and with ports of a direction and of a width that are not supported
between others, and the adder. -/
def counterModules : List ListedModule :=
  [{ name := ⟨"Counter", by decide⟩
     instances :=
      [⟨⟨"adder", by decide⟩, ⟨"u0", by decide, by decide⟩⟩,
       ⟨⟨"adder", by decide⟩, ⟨"u1", by decide, by decide⟩⟩]
     ports :=
      [{ name := ⟨"clk", by decide⟩, direction := ⟨"input", by decide, by decide⟩, width := 1 },
       { name := ⟨"bus", by decide⟩, direction := ⟨"inout", by decide, by decide⟩, width := 8 },
       { name := ⟨"wide", by decide⟩, direction := ⟨"output", by decide, by decide⟩, width := 2 ^ 64 },
       { name := ⟨"q", by decide⟩, direction := ⟨"output", by decide, by decide⟩, width := 8 }] },
   { name := ⟨"adder", by decide⟩, instances := [], ports := [] }]

/-- Neither of the two ports that are passed over affects the others. -/
theorem readListing_counter : (counterModules.map (·.name.text)).Nodup ∧
    (readListing (listing counterPath counterModules) "counter.sv").found.portsOf? "Counter" =
      some [⟨"clk", "clk", .input, none⟩, ⟨"q", "q", .output, some ⟨7, 0, by decide⟩⟩] ∧
    (readListing (listing counterPath counterModules) "counter.sv").found.instances =
      [⟨"adder", "Counter"⟩] := by
  have distinct : (counterModules.map (·.name.text)).Nodup := by decide
  obtain ⟨found, ports⟩ := readListing_listing counterPath counterModules "counter.sv" distinct
  refine ⟨distinct, ?_, ?_⟩
  · exact (ports _ List.mem_cons_self).trans (congrArg some (by decide +kernel))
  · rw [found]
    decide +kernel

end BoardBind.Verilog
