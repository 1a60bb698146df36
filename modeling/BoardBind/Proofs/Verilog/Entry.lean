import BoardBind.Proofs.Verilog.Listing

/-! # Listings with names of any kind

A module, an instance or a port may have a name that is no simple identifier. The line with such a name
is passed over, and the lines that follow are read as if it were not there: the reader still remembers
the module and the port that it met before. So what an entry of a listing adds depends on the entries
before it, through what the reader remembers of them.
-/

namespace BoardBind.Verilog

open Text Declarations

/-! ## Entries -/

/-- Whether a name in quotes is taken notice of. -/
def Quotable.isSimple (name : Quotable) : Bool :=
  Language.isVerilogIdentifier name.text.toList

/-- A text without the characters that cannot stand in quotes on a line. -/
def Quotable.ofText (text : String) : Quotable where
  text := .ofList (text.toList.filter fun c => c ≠ '"' && c ≠ '\n')
  unquoted := by simp
  single := by simp

/-- A port with a name of any kind. -/
structure PortEntry where
  name : Quotable
  direction : Quotable
  width : Nat

/-- An instance of a module with a name of any kind. -/
structure InstanceEntry where
  module : Quotable
  label : Quotable

/-- What stands in a listing of modules. -/
inductive Entry where
  | module (name : Quotable)
  | instances
  | place (i : InstanceEntry)
  | ports
  | port (p : PortEntry)

/-- A module with a name of any kind, with its instances and ports. -/
structure ModuleEntry where
  name : Quotable
  instances : List InstanceEntry
  ports : List PortEntry

/-- The lines of an entry. -/
def Entry.lines : Entry → List String
  | .module name => [quotedLine "      - mod_name: \"" name.text]
  | .instances => ["        insts:"]
  | .place i =>
    [quotedLine "          - mod_name: \"" i.module.text,
     quotedLine "            inst_name: \"" i.label.text]
  | .ports => ["        ports:"]
  | .port p =>
    [quotedLine "          - port_name: \"" p.name.text,
     quotedLine "            port_dir: \"" p.direction.text,
     "            port_width: " ++ toString p.width]

/-- A module entry by entry. -/
def ModuleEntry.entries (m : ModuleEntry) : List Entry :=
  [Entry.module m.name, Entry.instances] ++ m.instances.map Entry.place ++ [Entry.ports] ++
    m.ports.map Entry.port

/-- The listing of a file with the given entries. -/
def entryListing (path : Quotable) (entries : List Entry) : String :=
  unlines (["files:", quotedLine "  - file_name: \"" path.text, "    defs:"] ++
    entries.flatMap Entry.lines)

/-! ## What the reader remembers -/

/-- What the reader remembers between two entries: the module, and the name and the direction of the
latest port. -/
structure Memory where
  module : String := ""
  port : String := ""
  direction : Option Direction := none
  deriving DecidableEq

/-- A port entry starts a port if it has a simple name, and gives a direction if this is supported. -/
def PortEntry.next (p : PortEntry) (known : Memory) : Memory :=
  let named := if p.name.isSimple then { known with port := p.name.text, direction := none } else known
  { named with direction := (direction? p.direction.text).or named.direction }

theorem PortEntry.module_next (p : PortEntry) (known : Memory) :
    (p.next known).module = known.module := by
  unfold next
  split <;> rfl

/-- The port that is recorded once the width of an entry is read, with its module. -/
def PortEntry.recorded? (p : PortEntry) (known : Memory) : Option (String × Port) :=
  let latest := p.next known
  if p.width < UInt64.size ∧ latest.module ≠ "" ∧ latest.port ≠ "" then
    latest.direction.map fun direction =>
      (latest.module, .ofWidth .verilog latest.port direction (.ofNat p.width))
  else none

namespace Entry

/-- What is remembered after an entry. -/
def next : Entry → Memory → Memory
  | .module name, known => if name.isSimple then { known with module := name.text } else known
  | .port p, known => p.next known
  | .instances, known | .place _, known | .ports, known => known

/-- The unit that an entry declares. -/
def unit? (file : String) : Entry → Option DesignUnit
  | .module name => if name.isSimple then some (.declare .verilog name.text file) else none
  | .instances | .place _ | .ports | .port _ => none

/-- The edge that an entry adds. -/
def edge? : Entry → Memory → Option Instance
  | .place i, known => if i.module.isSimple then some ⟨i.module.text, known.module⟩ else none
  | .module _, _ | .instances, _ | .ports, _ | .port _, _ => none

/-- The port that an entry adds. -/
def port? : Entry → Memory → Option (String × Port)
  | .port p, known => p.recorded? known
  | .module _, _ | .instances, _ | .place _, _ | .ports, _ => none

end Entry

/-- What is remembered after entries. -/
def memory (entries : List Entry) (known : Memory) : Memory :=
  entries.foldl (fun known e => e.next known) known

/-- What entries add, each by what is remembered before it. -/
def added {α : Type} (what : Entry → Memory → Option α) : List Entry → Memory → List α
  | [], _ => []
  | e :: rest, known => (what e known).toList ++ added what rest (e.next known)

section runs

variable {α : Type} {what : Entry → Memory → Option α} {front back : List Entry} {known : Memory}

@[simp] theorem memory_append :
    memory (front ++ back) known = memory back (memory front known) := List.foldl_append

@[simp] theorem memory_cons {e : Entry} : memory (e :: back) known = memory back (e.next known) := rfl

@[simp] theorem memory_nil : memory [] known = known := rfl

@[simp] theorem added_append : added what (front ++ back) known =
    added what front known ++ added what back (memory front known) := by
  induction front generalizing known with
  | nil => rfl
  | cons e front ih => rw [List.cons_append, added, ih, added, List.append_assoc, memory_cons]

@[simp] theorem added_singleton {e : Entry} : added what [e] known = (what e known).toList :=
  List.append_nil _

end runs

/-- The declarations of a file with the given entries. -/
def declared (file : String) (entries : List Entry) : Declarations :=
  collected (entries.filterMap (Entry.unit? file)) (added Entry.port? entries {})
    (added Entry.edge? entries {})

/-! ## Runs of the reader -/

/-- What the reader remembers in a state. -/
def ListingState.memory (s : ListingState) : Memory :=
  ⟨s.module, s.port, s.direction⟩

/-- A state that the reader may be in after the given entries. -/
structure HasRead (file : String) (entries : List Entry) (s : ListingState) : Prop where
  found : s.found = declared file entries
  memory : s.memory = Verilog.memory entries {}

variable {file : String} {entries : List Entry} {s : ListingState}

/-- The remembered module is a declared one, and no declared one is nameless. -/
theorem memory_module_declared (file : String) (entries : List Entry) :
    ((memory entries {}).module ≠ "" →
      ∃ u ∈ entries.filterMap (Entry.unit? file), u.name = (memory entries {}).module) ∧
    ∀ u ∈ entries.filterMap (Entry.unit? file), u.name ≠ "" := by
  induction entries using List.reverseRecOn with
  | nil => exact ⟨fun nonempty => absurd rfl nonempty, fun u member => absurd member List.not_mem_nil⟩
  | append_singleton entries e ih =>
    obtain ⟨declared, named⟩ := ih
    rw [memory_append, List.filterMap_append]
    have kept (same : (memory [e] (memory entries {})).module = (memory entries {}).module)
        (none_ : [e].filterMap (Entry.unit? file) = []) :
        ((memory [e] (memory entries {})).module ≠ "" →
          ∃ u ∈ entries.filterMap (Entry.unit? file) ++ [e].filterMap (Entry.unit? file),
            u.name = (memory [e] (memory entries {})).module) ∧
        ∀ u ∈ entries.filterMap (Entry.unit? file) ++ [e].filterMap (Entry.unit? file), u.name ≠ "" := by
      rw [same, none_, List.append_nil]
      exact ⟨declared, named⟩
    cases e with
    | module name =>
      by_cases simple : name.isSimple
      · have unit : [Entry.module name].filterMap (Entry.unit? file) =
            [.declare .verilog name.text file] := by simp [Entry.unit?, simple]
        have nonempty : name.text ≠ "" := fun empty => by
          rw [Quotable.isSimple, empty] at simple
          exact absurd simple (by decide)
        rw [unit]
        refine ⟨fun _ => ⟨_, List.mem_concat_self, ?_⟩, List.forall_mem_append.mpr ⟨named, ?_⟩⟩
        · simp [Entry.next, simple, DesignUnit.declare, Language.fold]
        · simpa [DesignUnit.declare, Language.fold] using nonempty
      · exact kept (by simp [Entry.next, simple]) (by simp [Entry.unit?, simple])
    | port p =>
      refine kept ?_ rfl
      simp only [memory_cons, memory_nil, Entry.next, PortEntry.next]
      split <;> rfl
    | instances | place | ports => exact kept rfl rfl

/-- What a width adds to a state. -/
theorem readWidth_toString (s : ListingState) (width : Nat) :
    (s.readWidth (toString width).toList).found =
        (if width < UInt64.size ∧ s.port ≠ "" then
          s.direction.elim s.found fun direction =>
            s.found.addPort s.module (.ofWidth .verilog s.port direction (.ofNat width))
        else s.found) ∧
      (s.readWidth (toString width).toList).memory = s.memory := by
  unfold ListingState.readWidth
  rw [word64?_toString]
  by_cases fits : width < UInt64.size
  · rw [if_pos fits]
    cases direction : s.direction with
    | none => simp [ListingState.memory, direction]
    | some direction => by_cases named : s.port = "" <;> simp [ListingState.memory, named, fits, direction]
  · rw [if_neg fits]
    simp [fits]

theorem declared_concat (file : String) (entries : List Entry) (e : Entry) :
    declared file (entries ++ [e]) =
      collected (entries.filterMap (Entry.unit? file) ++ (e.unit? file).toList)
        (added Entry.port? entries {} ++ (e.port? (memory entries {})).toList)
        (added Entry.edge? entries {} ++ (e.edge? (memory entries {})).toList) := by
  have unit : [e].filterMap (Entry.unit? file) = (e.unit? file).toList := by
    cases found : e.unit? file <;> simp [found]
  rw [declared, List.filterMap_append, unit, added_append, added_append, added_singleton,
    added_singleton]

/-- A port is added to the remembered module, if there is one. -/
theorem addPort_declared (file : String) (entries : List Entry) (port : Port) :
    (declared file entries).addPort (memory entries {}).module port =
      if (memory entries {}).module ≠ "" then
        collected (entries.filterMap (Entry.unit? file))
          (added Entry.port? entries {} ++ [((memory entries {}).module, port)])
          (added Entry.edge? entries {})
      else declared file entries := by
  obtain ⟨known, named⟩ := memory_module_declared file entries
  split
  · next nonempty => exact addPort_collected (known nonempty) port
  · next empty =>
    rw [not_not] at empty
    have absent : ¬ (declared file entries).declares (memory entries {}).module := fun present => by
      obtain ⟨u, member, same⟩ := List.any_eq_true.mp present
      exact named u member ((of_decide_eq_true same).trans empty)
    rw [addPort, if_neg absent]

namespace HasRead

variable {name : Quotable}

theorem module (read : HasRead file entries s) : s.module = (Verilog.memory entries {}).module :=
  congrArg Memory.module read.memory

theorem moduleEntry (read : HasRead file entries s) (name : Quotable) :
    HasRead file (entries ++ [Entry.module name])
      (readListingLines file ((Entry.module name).lines.map String.toList) s) := by
  have step : readListingLines file ((Entry.module name).lines.map String.toList) s =
      if name.isSimple then
        { s with found := s.found.addUnit (.declare .verilog name.text file), module := name.text }
      else s :=
    (congrArg (s.step file) (toList_moduleLine _)).trans (ListingState.step_moduleName name.unquoted)
  rw [step]
  constructor
  · rw [declared_concat]
    by_cases simple : name.isSimple <;>
      simp [simple, read.found, declared, Entry.unit?, Entry.port?, Entry.edge?, addUnit_collected]
  · rw [memory_append, ← read.memory]
    by_cases simple : name.isSimple <;> simp [simple, Entry.next, ListingState.memory]

theorem placeEntry (read : HasRead file entries s) (i : InstanceEntry) :
    HasRead file (entries ++ [Entry.place i])
      (readListingLines file ((Entry.place i).lines.map String.toList) s) := by
  have label (s : ListingState) :
      s.step file (quotedLine "            inst_name: \"" i.label.text).toList = s := by
    rw [toList_quotedLine, ListingState.step_of_diverge diverge_label]
  have step : readListingLines file ((Entry.place i).lines.map String.toList) s =
      if i.module.isSimple then { s with found := s.found.addInstance ⟨i.module.text, s.module⟩ } else s :=
    (label _).trans ((congrArg (s.step file) (toList_instanceLine _)).trans
      (ListingState.step_instanceName i.module.unquoted))
  rw [step]
  constructor
  · rw [declared_concat]
    by_cases simple : i.module.isSimple <;>
      simp [simple, read.found, read.module, declared, Entry.unit?, Entry.port?, Entry.edge?,
        addInstance_collected]
  · rw [memory_append, ← read.memory]
    by_cases simple : i.module.isSimple <;> simp [simple, Entry.next, ListingState.memory]

theorem portEntry (read : HasRead file entries s) (p : PortEntry) :
    HasRead file (entries ++ [Entry.port p])
      (readListingLines file ((Entry.port p).lines.map String.toList) s) := by
  -- The state before the width is read, which alone makes an entry add something.
  let latest : ListingState :=
    { s with port := (p.next s.memory).port, direction := (p.next s.memory).direction }
  have steps : readListingLines file ((Entry.port p).lines.map String.toList) s =
      latest.readWidth (toString p.width).toList := by
    simp only [readListingLines, Entry.lines, List.map_cons, List.map_nil, List.foldl_cons,
      List.foldl_nil, toList_portLine, toList_directionLine, toList_widthLine]
    rw [ListingState.step_portName p.name.unquoted, ← Quotable.isSimple,
      ListingState.step_portDirection p.direction.unquoted, ListingState.step_portWidth]
    by_cases simple : p.name.isSimple <;> simp [latest, simple, PortEntry.next, ListingState.memory]
  have remembered : latest.memory = p.next (Verilog.memory entries {}) := by
    rw [← read.memory]
    exact congrArg (Memory.mk · _ _) (p.module_next s.memory).symm
  obtain ⟨adds, kept⟩ := readWidth_toString latest p.width
  rw [steps]
  constructor
  · have port : latest.port = (p.next (Verilog.memory entries {})).port := by
      rw [← remembered]
      rfl
    have direction : latest.direction = (p.next (Verilog.memory entries {})).direction := by
      rw [← remembered]
      rfl
    have module : latest.module = (Verilog.memory entries {}).module := read.module
    have found : latest.found = declared file entries := read.found
    rw [adds, port, direction, module, found, declared_concat]
    simp only [addPort_declared, Entry.port?, PortEntry.recorded?, p.module_next, Entry.unit?, Entry.edge?,
      Option.toList_none, List.append_nil]
    by_cases fits : p.width < UInt64.size
    · by_cases named : (p.next (Verilog.memory entries {})).port = ""
      · simp [named, declared]
      · by_cases inModule : (Verilog.memory entries {}).module = ""
        · cases (p.next (Verilog.memory entries {})).direction <;> simp [inModule, declared]
        · cases (p.next (Verilog.memory entries {})).direction <;> simp [fits, named, inModule, declared]
    · simp [fits, declared]
  · rw [kept, remembered, memory_append]
    rfl

/-- An entry is read from what was read before it. -/
theorem entry (read : HasRead file entries s) (e : Entry) :
    HasRead file (entries ++ [e]) (readListingLines file (e.lines.map String.toList) s) := by
  have heading {line : String} (apart : ∀ key ∈ ListingState.keys, Diverge key line.toList)
      (nothing : declared file (entries ++ [e]) = declared file entries ∧
        e.next (Verilog.memory entries {}) = Verilog.memory entries {})
      (lines : e.lines = [line]) :
      HasRead file (entries ++ [e]) (readListingLines file (e.lines.map String.toList) s) := by
    have step : s.step file line.toList = s := by
      rw [← List.append_nil line.toList, ListingState.step_of_diverge apart]
    rw [lines]
    refine ⟨(congrArg ListingState.found step).trans (read.found.trans nothing.1.symm), ?_⟩
    rw [memory_append, memory_cons, memory_nil, nothing.2]
    exact (congrArg ListingState.memory step).trans read.memory
  have nothing (silent : ∀ known, e.port? known = none ∧ e.edge? known = none ∧ e.unit? file = none) :
      declared file (entries ++ [e]) = declared file entries := by
    obtain ⟨port, edge, unit⟩ := silent (Verilog.memory entries {})
    rw [declared_concat, port, edge, unit, declared]
    simp
  cases e with
  | module name => exact read.moduleEntry name
  | place i => exact read.placeEntry i
  | port p => exact read.portEntry p
  | instances => exact heading (by decide) ⟨nothing fun _ => ⟨rfl, rfl, rfl⟩, rfl⟩ rfl
  | ports => exact heading (by decide) ⟨nothing fun _ => ⟨rfl, rfl, rfl⟩, rfl⟩ rfl

/-- Entries are read one after the other. -/
theorem append (read : HasRead file entries s) (more : List Entry) :
    HasRead file (entries ++ more)
      (readListingLines file ((more.flatMap Entry.lines).map String.toList) s) := by
  induction more generalizing entries s with
  | nil => rwa [List.append_nil]
  | cons e more ih =>
    rw [List.flatMap_cons, List.map_append, readListingLines, List.foldl_append,
      List.append_cons entries e more]
    exact ih (read.entry e)

end HasRead

theorem Entry.isWhole (e : Entry) : ∀ line ∈ e.lines, IsWhole line := by
  cases e with
  | module name => exact List.forall_mem_singleton.mpr (isWhole_quotedLine (by decide) name.single)
  | instances | ports => exact List.forall_mem_singleton.mpr (by decide)
  | place i =>
    exact List.forall_mem_cons.mpr ⟨isWhole_quotedLine (by decide) i.module.single,
      List.forall_mem_singleton.mpr (isWhole_quotedLine (by decide) i.label.single)⟩
  | port p =>
    exact List.forall_mem_cons.mpr ⟨isWhole_quotedLine (by decide) p.name.single,
      List.forall_mem_cons.mpr ⟨isWhole_quotedLine (by decide) p.direction.single,
        List.forall_mem_singleton.mpr (isWhole_width p.width)⟩⟩

/-- What a listing of entries declares. -/
theorem found_readListing_entries (path : Quotable) (file : String) (entries : List Entry) :
    (readListing (entryListing path entries) file).found = declared file entries := by
  have prelude : ∀ line ∈ ["files:", quotedLine "  - file_name: \"" path.text, "    defs:"],
      IsWhole line := by
    refine List.forall_mem_cons.mpr ⟨by decide, List.forall_mem_cons.mpr
      ⟨isWhole_quotedLine (by decide) path.single, List.forall_mem_singleton.mpr (by decide)⟩⟩
  have whole : ∀ line ∈ ["files:", quotedLine "  - file_name: \"" path.text, "    defs:"] ++
      entries.flatMap Entry.lines, IsWhole line := by
    refine List.forall_mem_append.mpr ⟨prelude, fun line member => ?_⟩
    obtain ⟨e, -, inLines⟩ := List.mem_flatMap.mp member
    exact e.isWhole line inLines
  have passed (line : String) (rest : List Char) (state : ListingState)
      (apart : ∀ key ∈ ListingState.keys, Diverge key line.toList) :
      state.step file (line.toList ++ rest) = state := ListingState.step_of_diverge apart
  have start : HasRead file [] {} := ⟨rfl, rfl⟩
  have title : (["files:", quotedLine "  - file_name: \"" path.text, "    defs:"].map
      String.toList).foldl (ListingState.step file) {} = {} := by
    have files := passed "files:" [] {} (by decide)
    have defs := passed "    defs:" [] {} (by decide)
    rw [List.append_nil] at files defs
    simp only [List.map_cons, List.map_nil, List.foldl_cons, List.foldl_nil, files,
      toList_quotedLine, passed "  - file_name: \"" _ {} (by decide), defs]
  rw [readListing, entryListing, lines_unlines_of_whole whole, List.map_append, readListingLines,
    List.foldl_append, title]
  exact (start.append entries).found

end BoardBind.Verilog
