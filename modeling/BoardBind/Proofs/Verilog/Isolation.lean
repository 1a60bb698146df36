import BoardBind.Proofs.Verilog.Entry

/-! # Entries that are inserted into a listing

An entry whose name is no simple identifier should leave what is recorded for all others as it is. But
the lines behind the name are read with what the reader remembers: the width of such a port completes the
port before it a second time, its direction may be taken over by the next such port, and the instances
and ports of such a module are recorded for the module before it. So an inserted entry is isolated
exactly if none of this happens.
-/

namespace BoardBind.Verilog

open Declarations

variable {file name : String} {front block back entries : List Entry} {known other : Memory}
  {p : PortEntry} {direction : Direction} {ports first second : List (String × Port)}

/-- What is recorded with an entry that was inserted is what was recorded without it: the same modules,
the same ports of each of them, and the same edges from each of them. -/
structure Isolated (without within : Declarations) : Prop where
  units : within.units = without.units
  ports : ∀ module, within.portsOf module = without.portsOf module
  edges : ∀ i : Instance, i.parent ≠ "" → (i ∈ within.instances ↔ i ∈ without.instances)

/-- The ports of a module. -/
def portsUnder (name : String) (ports : List (String × Port)) : List Port :=
  ports.filterMap fun (owner, port) => if owner = name then some port else none

@[simp] theorem portsUnder_append : portsUnder name (first ++ second) =
    portsUnder name first ++ portsUnder name second := List.filterMap_append

theorem portsUnder_cons {owner : String} {port : Port} : portsUnder name ((owner, port) :: ports) =
    (if owner = name then [port] else []) ++ portsUnder name ports := by
  by_cases same : owner = name <;> simp [portsUnder, same]

/-! ## What the module of an entry depends on -/

theorem Entry.module_next_congr (same : known.module = other.module) (e : Entry) :
    (e.next known).module = (e.next other).module := by
  cases e with
  | module name =>
    simp only [next]
    split
    · rfl
    · exact same
  | port p => exact (p.module_next known).trans (same.trans (p.module_next other).symm)
  | instances | place | ports => exact same

theorem module_memory_congr (same : known.module = other.module) (entries : List Entry) :
    (memory entries known).module = (memory entries other).module := by
  induction entries generalizing known other with
  | nil => exact same
  | cons e entries ih => exact ih (e.module_next_congr same)

theorem added_edge_congr (same : known.module = other.module) (entries : List Entry) :
    added Entry.edge? entries known = added Entry.edge? entries other := by
  induction entries generalizing known other with
  | nil => rfl
  | cons e entries ih =>
    have edge : e.edge? known = e.edge? other := by
      cases e with
      | place i => rw [Entry.edge?, Entry.edge?, same]
      | module | instances | ports | port => rfl
    rw [added, added, edge, ih (e.module_next_congr same)]

/-- Entries that declare no module leave the remembered one. -/
theorem module_memory_of_unitless (unitless : ∀ e ∈ entries, e.unit? file = none) (known : Memory) :
    (memory entries known).module = known.module := by
  induction entries generalizing known with
  | nil => rfl
  | cons e entries ih =>
    rw [List.forall_mem_cons] at unitless
    rw [memory_cons, ih unitless.2]
    cases e with
    | module name =>
      have unnamed : ¬ name.isSimple := fun simple => by
        have unit := unitless.1
        simp [Entry.unit?, simple] at unit
      rw [Entry.next, if_neg unnamed]
    | port p => exact p.module_next known
    | instances | place | ports => rfl

/-- All their edges are from this module. -/
theorem mem_added_edge_iff (unitless : ∀ e ∈ entries, e.unit? file = none) {i : Instance} :
    i ∈ added Entry.edge? entries known ↔
      ∃ place, .place place ∈ entries ∧ place.module.isSimple ∧
        i = ⟨place.module.text, known.module⟩ := by
  induction entries generalizing known with
  | nil => simp [added]
  | cons e entries ih =>
    rw [List.forall_mem_cons] at unitless
    have same : (e.next known).module = known.module :=
      @module_memory_of_unitless file [e] (List.forall_mem_singleton.mpr unitless.1) known
    rw [added, List.mem_append, ih unitless.2, same]
    simp only [List.mem_cons]
    cases e with
    | place here =>
      have edge : i ∈ ((Entry.place here).edge? known).toList ↔
          here.module.isSimple ∧ i = ⟨here.module.text, known.module⟩ := by
        by_cases simple : here.module.isSimple <;> simp [Entry.edge?, simple]
      rw [edge]
      constructor
      · rintro (⟨simple, rfl⟩ | ⟨place, later, rest⟩)
        · exact ⟨here, .inl rfl, simple, rfl⟩
        · exact ⟨place, .inr later, rest⟩
      · rintro ⟨place, same | later, simple, rfl⟩
        · obtain rfl := Entry.place.inj same
          exact .inl ⟨simple, rfl⟩
        · exact .inr ⟨place, later, simple, rfl⟩
    | module | instances | ports | port => simp [Entry.edge?]

/-! ## Inserting entries that declare no module -/

/-- Entries that declare no module are isolated exactly if each module has the same ports from there on,
and their instances are edges of the remembered module anyway. -/
theorem isolated_iff_of_unitless (unitless : ∀ e ∈ block, e.unit? file = none) :
    Isolated (declared file (front ++ back)) (declared file (front ++ (block ++ back))) ↔
      (∀ name, portsUnder name (added Entry.port? (block ++ back) (memory front {})) =
        portsUnder name (added Entry.port? back (memory front {}))) ∧
      ∀ place, .place place ∈ block → place.module.isSimple → (memory front {}).module ≠ "" →
        ⟨place.module.text, (memory front {}).module⟩ ∈ (declared file (front ++ back)).instances := by
  have units : (declared file (front ++ (block ++ back))).units =
      (declared file (front ++ back)).units := by
    simp [declared, collected, List.filterMap_eq_nil_iff.mpr unitless]
  have ports (module : String) (entries : List Entry) :
      (declared file (front ++ entries)).portsOf module =
        portsUnder module (added Entry.port? front {}) ++
          portsUnder module (added Entry.port? entries (memory front {})) := by
    rw [← portsUnder_append, ← added_append]
    rfl
  have edges (entries : List Entry) : (declared file entries).instances =
      (added Entry.edge? entries {}).eraseDups := rfl
  have behind := added_edge_congr (module_memory_of_unitless unitless (memory front {})) back
  constructor
  · intro isolated
    refine ⟨fun name => ?_, fun place inside simple inModule => ?_⟩
    · have same := isolated.ports name
      rw [ports, ports] at same
      exact List.append_cancel_left same
    · refine (isolated.edges ⟨_, _⟩ inModule).mp ?_
      rw [edges, List.mem_eraseDups, added_append, added_append, List.mem_append, List.mem_append]
      exact .inr (.inl ((mem_added_edge_iff unitless).mpr ⟨place, inside, simple, rfl⟩))
  · rintro ⟨samePorts, sameEdges⟩
    refine ⟨units, fun module => by rw [ports, ports, samePorts], fun i inModule => ?_⟩
    rw [edges, edges, List.mem_eraseDups, List.mem_eraseDups]
    simp only [added_append, List.mem_append, behind]
    refine ⟨?_, fun either => either.imp_right .inr⟩
    rintro (before | inserted | after)
    · exact .inl before
    · obtain ⟨place, inside, simple, rfl⟩ := (mem_added_edge_iff unitless).mp inserted
      have recorded := sameEdges place inside simple inModule
      rwa [edges, List.mem_eraseDups, added_append, List.mem_append] at recorded
    · exact .inr after

/-! ## Ports that take over a direction -/

/-- A port entry without a simple name and without a supported direction is read with those of the port
before it. -/
def PortEntry.Borrows (p : PortEntry) : Prop :=
  p.name.isSimple = false ∧ direction? p.direction.text = none

/-- An entry behind, reached through entries that borrow only, is complete with what it borrows. -/
def TakenOver : List Entry → Memory → Prop
  | [], _ => False
  | e :: rest, known =>
    match e with
    | .port p =>
      p.Borrows ∧ (p.width < UInt64.size ∧ known.module ≠ "" ∨ TakenOver rest known)
    | _ => TakenOver rest (e.next known)

/-- A port entry without a simple name completes the port before it a second time: it has a width of up
to 64 bits, and there is a module, a port and a direction. -/
structure PortEntry.Completes (p : PortEntry) (known : Memory) : Prop where
  fits : p.width < UInt64.size
  inModule : known.module ≠ ""
  named : known.port ≠ ""
  directed : direction? p.direction.text ≠ none ∨ known.direction ≠ none

/-- A port entry without a simple name gives its direction to one behind it. -/
structure PortEntry.Lends (p : PortEntry) (known : Memory) (back : List Entry) (direction : Direction) :
    Prop where
  given : direction? p.direction.text = some direction
  different : known.direction ≠ some direction
  named : known.port ≠ ""
  taken : TakenOver back known

namespace PortEntry

theorem next_of_unnamed (unnamed : p.name.isSimple = false) (known : Memory) :
    p.next known = { known with direction := (direction? p.direction.text).or known.direction } := by
  rw [next, unnamed]
  rfl

theorem Borrows.next (borrows : p.Borrows) (known : Memory) : p.next known = known := by
  rw [next_of_unnamed borrows.1, borrows.2]
  rfl

/-- An entry that does not borrow is read without regard to the direction before it. -/
theorem next_congr (own : ¬ p.Borrows) (known : Memory) (direction : Option Direction) :
    p.next { known with direction } = p.next known := by
  unfold PortEntry.next
  cases simple : p.name.isSimple with
  | true => rfl
  | false =>
    cases given : direction? p.direction.text with
    | none => exact absurd ⟨simple, given⟩ own
    | some d => rfl

theorem recorded?_congr (same : p.next known = p.next other) : p.recorded? known = p.recorded? other := by
  rw [recorded?, recorded?, same]

theorem Borrows.recorded? (borrows : p.Borrows) (known : Memory) :
    p.recorded? known =
      if p.width < UInt64.size ∧ known.module ≠ "" ∧ known.port ≠ "" then
        known.direction.map fun direction =>
          (known.module, .ofWidth .verilog known.port direction (.ofNat p.width))
      else none := by
  rw [PortEntry.recorded?, borrows.next]

theorem isSome_recorded?_iff (unnamed : p.name.isSimple = false) :
    (p.recorded? known).isSome ↔ p.Completes known := by
  rw [PortEntry.recorded?, next_of_unnamed unnamed]
  constructor
  · intro recorded
    split at recorded
    · next complete =>
      obtain ⟨fits, inModule, named⟩ := complete
      refine ⟨fits, inModule, named, ?_⟩
      rw [Option.isSome_map, Option.isSome_or, Bool.or_eq_true] at recorded
      exact recorded.imp Option.isSome_iff_ne_none.mp Option.isSome_iff_ne_none.mp
    · cases recorded
  · rintro ⟨fits, inModule, named, directed⟩
    rw [if_pos ⟨fits, inModule, named⟩, Option.isSome_map, Option.isSome_or, Bool.or_eq_true]
    exact directed.imp Option.isSome_iff_ne_none.mpr Option.isSome_iff_ne_none.mpr

end PortEntry

/-- A module changes nothing of what is remembered of the latest port. -/
theorem Quotable.latest_next_module (name : Quotable) (known : Memory) :
    ((Entry.module name).next known).port = known.port ∧
      ((Entry.module name).next known).direction = known.direction := by
  rw [Entry.next]
  split <;> exact ⟨rfl, rfl⟩

theorem Entry.next_module_direction (name : Quotable) (known : Memory) (direction : Option Direction) :
    (Entry.module name).next { known with direction } =
      { (Entry.module name).next known with direction } := by
  simp only [next]
  split <;> rfl

/-- With a direction no fewer ports are recorded. -/
theorem length_portsUnder_le (name : String) (direction : Direction) (entries : List Entry)
    (known : Memory) : (portsUnder name (added Entry.port? entries known)).length ≤
      (portsUnder name
        (added Entry.port? entries { known with direction := some direction })).length := by
  induction entries generalizing known with
  | nil => exact Nat.le_refl _
  | cons e entries ih =>
    cases e with
    | port p =>
      by_cases borrows : p.Borrows
      · simp only [added, Entry.port?, Entry.next, borrows.next, borrows.recorded?, portsUnder_append,
          List.length_append]
        refine Nat.add_le_add ?_ (ih known)
        split
        · cases known.direction with
          | none => exact Nat.zero_le _
          | some d =>
            simp only [Option.map_some, Option.toList_some, portsUnder_cons]
            split <;> exact Nat.le_refl _
        · exact Nat.le_refl _
      · have same := p.next_congr borrows known (some direction)
        rw [added, added, Entry.port?, Entry.port?, Entry.next, Entry.next, same,
          PortEntry.recorded?_congr same]
    | module name =>
      rw [added, added, Entry.next_module_direction name known (some direction)]
      exact ih _
    | instances | place | ports => exact ih known

/-- A direction that no entry takes over does not matter. -/
theorem added_port_of_not_takenOver (free : known.port = "" ∨ ¬ TakenOver entries known)
    (direction : Direction) :
    added Entry.port? entries { known with direction := some direction } =
      added Entry.port? entries known := by
  induction entries generalizing known with
  | nil => rfl
  | cons e entries ih =>
    cases e with
    | port p =>
      by_cases borrows : p.Borrows
      · have nothing : ¬ (p.width < UInt64.size ∧ known.module ≠ "" ∧ known.port ≠ "") := by
          rintro ⟨fits, inModule, named⟩
          exact free.resolve_left named ⟨borrows, .inl ⟨fits, inModule⟩⟩
        have later : known.port = "" ∨ ¬ TakenOver entries known :=
          free.imp_right fun untaken taken => untaken ⟨borrows, .inr taken⟩
        simp only [added, Entry.port?, Entry.next, borrows.next, borrows.recorded?, if_neg nothing]
        rw [ih later]
      · have same := p.next_congr borrows known (some direction)
        rw [added, added, Entry.port?, Entry.port?, Entry.next, Entry.next, same,
          PortEntry.recorded?_congr same]
    | module name =>
      rw [added, added, Entry.next_module_direction name known (some direction)]
      exact congrArg _ (ih ((name.latest_next_module known).1.symm ▸ free))
    | instances | place | ports => exact ih free

/-- A direction that an entry takes over changes what is recorded of a module. -/
theorem exists_portsUnder_ne (taken : TakenOver entries known) (named : known.port ≠ "")
    (different : known.direction ≠ some direction) : ∃ name,
      portsUnder name (added Entry.port? entries { known with direction := some direction }) ≠
        portsUnder name (added Entry.port? entries known) := by
  induction entries generalizing known with
  | nil => exact absurd taken id
  | cons e entries ih =>
    cases e with
    | port p =>
      obtain ⟨borrows, complete⟩ := taken
      simp only [added, Entry.port?, Entry.next, borrows.next, borrows.recorded?]
      by_cases here : p.width < UInt64.size ∧ known.module ≠ ""
      · -- The entry is recorded with the new direction, and without it with another or not at all.
        have recorded : p.width < UInt64.size ∧ known.module ≠ "" ∧ known.port ≠ "" :=
          ⟨here.1, here.2, named⟩
        refine ⟨known.module, fun same => ?_⟩
        simp only [if_pos recorded, Option.map_some, Option.toList_some, List.cons_append,
          List.nil_append, portsUnder_cons, if_true] at same
        cases standing : known.direction with
        | none =>
          have fewer := length_portsUnder_le known.module direction entries known
          have lengths := congrArg List.length same
          simp [standing] at lengths
          omega
        | some d =>
          simp only [standing, Option.map_some, Option.toList_some, List.cons_append, List.nil_append,
            portsUnder_cons, if_true] at same
          have directions := congrArg Port.direction (List.cons.inj same).1
          exact different (standing.trans (congrArg some directions.symm))
      · obtain ⟨name, differ⟩ := ih (complete.resolve_left here) named different
        refine ⟨name, fun same => differ ?_⟩
        rwa [if_neg fun recorded => here ⟨recorded.1, recorded.2.1⟩,
          if_neg fun recorded => here ⟨recorded.1, recorded.2.1⟩, Option.toList_none, List.nil_append,
          List.nil_append] at same
    | module name =>
      obtain ⟨port, latest⟩ := name.latest_next_module known
      rw [added, added, Entry.next_module_direction name known (some direction)]
      exact ih taken (port.symm ▸ named) (latest.symm ▸ different)
    | instances | place | ports => exact ih taken named different

/-! ## Inserting a port -/

/-- A port entry without a simple name changes what is recorded exactly if it completes the port before
it, or gives its direction to an entry behind it. -/
theorem portsUnder_port_iff (unnamed : p.name.isSimple = false) :
    (∀ name, portsUnder name (added Entry.port? (.port p :: back) known) =
        portsUnder name (added Entry.port? back known)) ↔
      ¬ p.Completes known ∧ ∀ direction, ¬ p.Lends known back direction := by
  have next := PortEntry.next_of_unnamed unnamed known
  simp only [added, Entry.port?, Entry.next]
  by_cases completes : p.Completes known
  · refine iff_of_false (fun same => ?_) fun silent => silent.1 completes
    obtain ⟨⟨owner, port⟩, recorded⟩ :=
      Option.isSome_iff_exists.mp ((PortEntry.isSome_recorded?_iff unnamed).mpr completes)
    have more : (portsUnder owner (added Entry.port? back known)).length ≤
        (portsUnder owner (added Entry.port? back (p.next known))).length := by
      rw [next]
      cases direction? p.direction.text with
      | none => exact Nat.le_refl _
      | some direction => exact length_portsUnder_le owner direction back known
    have lengths := congrArg List.length (same owner)
    simp [recorded, portsUnder_cons] at lengths
    omega
  · have nothing : p.recorded? known = none := Option.not_isSome_iff_eq_none.mp fun recorded =>
      completes ((PortEntry.isSome_recorded?_iff unnamed).mp recorded)
    rw [nothing, and_iff_right completes, next]
    simp only [Option.toList_none, List.nil_append]
    cases given : direction? p.direction.text with
    | none =>
      refine iff_of_true (fun _ => rfl) fun direction lends => ?_
      exact Option.some_ne_none direction (lends.given.symm.trans given)
    | some direction =>
      rw [Option.some_or]
      by_cases lends : p.Lends known back direction
      · obtain ⟨name, differ⟩ := exists_portsUnder_ne lends.taken lends.named lends.different
        exact iff_of_false (fun same => differ (same name)) fun silent => silent direction lends
      · have unchanged : added Entry.port? back { known with direction := some direction } =
            added Entry.port? back known := by
          by_cases different : known.direction = some direction
          · rw [← different]
          · refine added_port_of_not_takenOver ?_ direction
            by_contra! reached
            exact lends ⟨given, different, reached.1, reached.2⟩
        refine iff_of_true (fun name => by rw [unchanged]) fun other lendsOther => lends ?_
        obtain rfl : direction = other := Option.some.inj (given.symm.trans lendsOther.given)
        exact lendsOther

/-! ## Inserting a module -/

/-- Whether an entry starts a port. -/
def Entry.startsPort : Entry → Bool
  | .port p => p.name.isSimple
  | .module _ | .instances | .place _ | .ports => false

/-- The entries before the next port with a simple name. -/
def exposed (entries : List Entry) : List Entry :=
  entries.takeWhile fun e => !e.startsPort

/-- From a port with a simple name on, only the module matters of what was remembered before. -/
theorem added_port_dropWhile (same : known.module = other.module) (entries : List Entry) :
    added Entry.port? (entries.dropWhile fun e => !e.startsPort) known =
      added Entry.port? (entries.dropWhile fun e => !e.startsPort) other := by
  cases found : entries.dropWhile fun e => !e.startsPort with
  | nil => rfl
  | cons e rest =>
    have starts : e.startsPort := by
      have first := List.head?_dropWhile_not (fun e : Entry => !e.startsPort) entries
      simpa [found] using first
    cases e with
    | port p =>
      have next : p.next known = p.next other := by
        have simple : p.name.isSimple = true := starts
        simp only [PortEntry.next, simple, if_true, same]
      rw [added, added, Entry.port?, Entry.port?, Entry.next, Entry.next, next,
        PortEntry.recorded?_congr next]
    | module | instances | place | ports => cases starts

/-- What is recorded behind entries that declare no module changes up to the next port with a simple name
only. -/
theorem portsUnder_exposed_iff (unitless : ∀ e ∈ block, e.unit? file = none) (name : String) :
    portsUnder name (added Entry.port? (block ++ back) known) =
        portsUnder name (added Entry.port? back known) ↔
      portsUnder name (added Entry.port? (block ++ exposed back) known) =
        portsUnder name (added Entry.port? (exposed back) known) := by
  have cut : back = exposed back ++ back.dropWhile fun e => !e.startsPort :=
    List.takeWhile_append_dropWhile.symm
  have module : (memory (exposed back) (memory block known)).module =
      (memory (exposed back) known).module :=
    module_memory_congr (module_memory_of_unitless unitless known) _
  have behind := added_port_dropWhile module back
  conv_lhs => rw [cut]
  simp only [added_append, behind, portsUnder_append]
  rw [← List.append_assoc, List.append_cancel_right_eq]

/-- What the listing of a file declares. -/
def reported (path : Quotable) (file : String) (entries : List Entry) : Declarations :=
  (readListing (entryListing path entries) file).found

theorem reported_eq (path : Quotable) (file : String) (entries : List Entry) :
    reported path file entries = declared file entries :=
  found_readListing_entries path file entries

/-- A module without a simple name declares no module. -/
theorem ModuleEntry.unitless {m : ModuleEntry} (unnamed : m.name.isSimple = false) :
    ∀ e ∈ m.entries, e.unit? file = none := by
  intro e member
  simp only [entries, List.mem_append, List.mem_cons, List.mem_map, List.not_mem_nil, or_false] at member
  rcases member with (((rfl | rfl) | ⟨i, -, rfl⟩) | rfl) | ⟨p, -, rfl⟩
  · rw [Entry.unit?, unnamed, if_neg Bool.false_ne_true]
  all_goals rfl

/-- An entry without a simple name is isolated exactly in these cases. A port: it does not complete the port
before it, and gives its direction to no entry behind it. A module: its ports and the entries right behind
it that start no port are recorded as the latter are without it, and its instances are edges of the
module before it anyway. -/
theorem isolated_iff (path : Quotable) (file : String) (front back : List Entry) :
    (∀ p : PortEntry, p.name.isSimple = false →
      (Isolated (reported path file (front ++ back)) (reported path file (front ++ .port p :: back)) ↔
        ¬ p.Completes (memory front {}) ∧
          ∀ direction, ¬ p.Lends (memory front {}) back direction)) ∧
    (∀ m : ModuleEntry, m.name.isSimple = false →
      (Isolated (reported path file (front ++ back)) (reported path file (front ++ (m.entries ++ back))) ↔
        (∀ name,
          portsUnder name (added Entry.port? (m.entries ++ exposed back) (memory front {})) =
            portsUnder name (added Entry.port? (exposed back) (memory front {}))) ∧
        ∀ i ∈ m.instances, i.module.isSimple → (memory front {}).module ≠ "" →
          ⟨i.module.text, (memory front {}).module⟩ ∈
            (reported path file (front ++ back)).instances)) := by
  simp only [reported_eq]
  constructor
  · intro p unnamed
    have unitless : ∀ e ∈ [Entry.port p], e.unit? file = none := by simp [Entry.unit?]
    have inserted := @isolated_iff_of_unitless file front [.port p] back unitless
    rw [List.singleton_append, portsUnder_port_iff unnamed] at inserted
    exact inserted.trans (and_iff_left fun place member => absurd member (by simp))
  · intro m unnamed
    have unitless := @ModuleEntry.unitless file m unnamed
    have place (i : InstanceEntry) : .place i ∈ m.entries ↔ i ∈ m.instances := by
      simp [ModuleEntry.entries]
    rw [isolated_iff_of_unitless unitless]
    refine and_congr (forall_congr' (portsUnder_exposed_iff unitless)) (forall_congr' fun i => ?_)
    rw [place]

/-- The start of a module. -/
def counterEntries : List Entry :=
  [.module (.ofText "Counter"), .instances, .ports]

/-- A port with a simple name. -/
def clockPort : PortEntry where
  name := .ofText "clk"
  direction := .ofText "input"
  width := 1

/-- A port with an escaped name. -/
def sumPort : PortEntry where
  name := .ofText "\\a+b "
  direction := .ofText "output"
  width := 4

/-- A module with an escaped name, with an instance and a port. -/
def sumModule : ModuleEntry where
  name := .ofText "\\sum+ "
  instances := [⟨.ofText "adder", .ofText "u0"⟩]
  ports := [clockPort]

/-- The port is isolated in front of the first one with a simple name, and the module in front of the
first module. -/
theorem isolated_in_front :
    (sumPort.name.isSimple = false ∧
      Isolated (reported counterPath "counter.sv" (counterEntries ++ [.port clockPort]))
        (reported counterPath "counter.sv" (counterEntries ++ [.port sumPort, .port clockPort]))) ∧
    (sumModule.name.isSimple = false ∧
      Isolated (reported counterPath "counter.sv" (counterEntries ++ [.port clockPort]))
        (reported counterPath "counter.sv"
          (sumModule.entries ++ (counterEntries ++ [.port clockPort])))) := by
  have escapedPort : sumPort.name.isSimple = false := by decide +kernel
  have escapedModule : sumModule.name.isSimple = false := by decide +kernel
  obtain ⟨ports, -⟩ := isolated_iff counterPath "counter.sv" counterEntries [.port clockPort]
  obtain ⟨-, modules⟩ :=
    isolated_iff counterPath "counter.sv" [] (counterEntries ++ [Entry.port clockPort])
  simp only [List.nil_append] at modules
  have first : (memory counterEntries {}).port = "" := by decide +kernel
  have recorded : added Entry.port?
      (sumModule.entries ++ exposed (counterEntries ++ [Entry.port clockPort])) {} =
        added Entry.port? (exposed (counterEntries ++ [Entry.port clockPort])) {} := by
    decide +kernel
  refine ⟨⟨escapedPort, (ports sumPort escapedPort).mpr
      ⟨fun completes => completes.named first, fun _ lends => lends.named first⟩⟩,
    escapedModule, (modules sumModule escapedModule).mpr ⟨fun name => ?_, ?_⟩⟩
  · exact congrArg (portsUnder name) recorded
  · exact fun _ _ _ inModule => absurd rfl inModule

/-- Behind a port with a simple name it is recorded as this port once more, an output of four bits. -/
theorem not_isolated_behind_clock : sumPort.name.isSimple = false ∧
    ¬ Isolated (reported counterPath "counter.sv" (counterEntries ++ [.port clockPort]))
      (reported counterPath "counter.sv" (counterEntries ++ [.port clockPort, .port sumPort])) := by
  refine ⟨by decide +kernel, fun isolated => ?_⟩
  have same := isolated.ports "Counter"
  rw [reported_eq, reported_eq] at same
  exact absurd same (by decide +kernel)

end BoardBind.Verilog
