import BoardBind.Proofs.Except
import BoardBind.Proofs.Host.Path

/-! # Writing a file again

What is found on a disk depends on its machine and on what is at its places. A file that was written where its path
leads can be written there again: the way to its directory does not lead through the file itself, or
the path would not lead to it.
-/

namespace BoardBind.Disk

variable {disk other after : Disk} {path : Path} {place here parent final : Place} {node : Node}
  {bytes file : List UInt8} {names more : List String} {name : String} {links : Nat} {executable : Bool}
  {first last : Trail}

theorem lookup_filter_ne {α : Type} (places : List (Place × α)) (place key : Place) :
    (places.filter fun entry => entry.1 ≠ place).lookup key =
      if key = place then none else places.lookup key := by
  induction places with
  | nil => simp
  | cons entry rest ih =>
    obtain ⟨held, value⟩ := entry
    by_cases gone : held = place
    · rw [List.filter_cons_of_neg (by simpa using gone), ih, List.lookup_cons, gone]
      by_cases same : key = place
      · rw [if_pos same, if_pos same]
      · rw [if_neg same, if_neg same, beq_eq_false_iff_ne.mpr same]
    · rw [List.filter_cons_of_pos (by simpa using gone), List.lookup_cons, List.lookup_cons, ih]
      by_cases found : key = held
      · rw [found, beq_self_eq_true, if_neg gone, if_neg gone]
      · rw [beq_eq_false_iff_ne.mpr found]

/-- What is at the places of a disk after something was put at one of them. -/
theorem at?_put (disk : Disk) (place key : Place) (node : Node) : (disk.put place node).at? key =
    if key = place then some ((disk.machine.fixture? place).getD node) else disk.at? key := by
  have held : (disk.put place node).nodes.lookup key =
      if key = place then some node else disk.nodes.lookup key := by
    rw [put, List.lookup_append, lookup_filter_ne]
    split
    · next same => simp [same]
    · next apart => simp [List.lookup_cons, beq_eq_false_iff_ne.mpr apart]
  rw [at?, held]
  split
  · next same =>
    rw [same]
    change (disk.machine.fixture? place).or _ = _
    cases disk.machine.fixture? place <;> rfl
  · rfl

/-- The system keeps nothing in the working directory. -/
theorem fixture?_of_isInside {machine : Machine} (inside : place.isInside) (below : place ≠ Place.here) :
    machine.fixture? place = none := by
  have elsewhere : ∀ fixed ∈ machine.directories ++ machine.devices ++ machine.links.map (·.1) ++
      machine.programs, fixed ≠ place := by
    rintro fixed member rfl
    rw [machine.apart fixed member] at inside
    cases inside
  simp only [List.forall_mem_append, List.forall_mem_map] at elsewhere
  obtain ⟨⟨⟨directories, devices⟩, links⟩, programs⟩ := elsewhere
  have anchored : place ∉ [Place.here, Place.outside, Place.root] := by
    simp only [List.mem_cons, List.not_mem_nil, or_false, not_or]
    refine ⟨below, ?_, ?_⟩ <;> rintro rfl <;> cases inside
  have unlinked : machine.links.lookup place = none :=
    List.lookup_eq_none_iff.mpr fun link member => bne_iff_ne.mpr (links link member).symm
  rw [Machine.fixture?, if_neg, if_neg, unlinked, if_neg]
  · exact fun member => programs place member rfl
  · simpa [Machine.isDevice] using fun member => devices place member rfl
  · rw [List.mem_append]
    exact not_or.mpr ⟨anchored, fun member => directories place member rfl⟩

theorem at?_here (disk : Disk) : disk.at? Place.here = some .directory := by
  rw [at?, Machine.fixture?, if_pos (by simp), Option.some_or]

/-- Two disks of one machine with the same at every place. -/
structure Alike (first second : Disk) : Prop where
  machine : first.machine = second.machine
  nodes : ∀ place, first.at? place = second.at? place

/-- What is put at a place of the system is not found there. -/
theorem alike_put (fixture : disk.machine.fixture? place = some node) (put : Node) :
    (disk.put place put).Alike disk := by
  refine ⟨rfl, fun key => ?_⟩
  rw [at?_put]
  split
  · next same => simp [at?, same, fixture]
  · rfl

theorem at?_put_of_free (free : disk.machine.fixture? place = none) (key : Place) :
    (disk.put place node).at? key = if key = place then some node else disk.at? key := by
  rw [at?_put, free]
  rfl

/-- Where a path starts is the same on all disks of a machine. -/
theorem origin_congr {target : Path} (machine : after.machine = disk.machine)
    (same : target.isAbsolute = path.isAbsolute) (names : List String) :
    after.origin target names = disk.origin path names := by
  rw [origin, origin, machine, same]

theorem linkOrigin_congr (machine : after.machine = disk.machine) (directory : Place) (target : Path) :
    after.linkOrigin directory target = disk.linkOrigin directory target := by
  rw [linkOrigin, linkOrigin, origin_congr machine rfl]

theorem draftSize_congr (machine : after.machine = disk.machine) (directory : Path) :
    after.draftSize directory = disk.draftSize directory := by
  rw [draftSize, draftSize, machine]

namespace Alike

theorem descend (alike : disk.Alike other) (here : Place) (names : List String) :
    disk.descend here names = other.descend here names := by
  induction names generalizing here with
  | nil => rfl
  | cons name rest ih => simp only [Disk.descend, lookUp, alike.nodes, ih]

theorem origin (alike : disk.Alike other) (path : Path) (names : List String) :
    disk.origin path names = other.origin path names :=
  origin_congr alike.machine rfl names

theorem follow (alike : disk.Alike other) (links : Nat) (here : Place) (names : List String) :
    disk.follow links here names = other.follow links here names := by
  induction links generalizing here names with
  | zero => rw [Disk.follow, Disk.follow, alike.descend]
  | succ links ih =>
    rw [Disk.follow, Disk.follow, alike.descend]
    simp only [linkOrigin_congr alike.machine, ih]

theorem find (alike : disk.Alike other) (path : Path) : disk.find path = other.find path := by
  simp only [Disk.find, alike.origin, alike.follow, alike.nodes]

theorem read (alike : disk.Alike other) (path : Path) : disk.read path = other.read path := by
  simp only [Disk.read, alike.find]

theorem hasEntry (alike : disk.Alike other) (path : Path) : disk.hasEntry path = other.hasEntry path := by
  simp only [Disk.hasEntry, alike.find]

theorem lookUp (alike : disk.Alike other) (here : Place) (name : String) :
    disk.lookUp here name = other.lookUp here name := by
  rw [Disk.lookUp, Disk.lookUp, alike.nodes]

theorem lastStep (alike : disk.Alike other) (path : Path) : disk.lastStep path = other.lastStep path := by
  simp only [Disk.lastStep, followToDirectory, alike.origin, alike.follow, alike.nodes]

theorem destination (alike : disk.Alike other) (path : Path) :
    disk.destination path = other.destination path := by
  rw [Disk.destination, draftSize_congr alike.machine]
  simp only [alike.find, alike.lastStep, alike.lookUp]
  rfl

end Alike

/-! ## Ways -/

/-- Names that lead from a place up to the first link: each of them is there. -/
inductive Descends (disk : Disk) : Place → List String → Trail → Prop
  | arrived {here : Place} : Descends disk here [] (.arrived here)
  | up {here : Place} {rest : List String} {trail : Trail} (on : Descends disk here.up rest trail) :
      Descends disk here (".." :: rest) trail
  | directory {here : Place} {name : String} {rest : List String} {trail : Trail}
      (sideways : name ≠ "..") (short : ¬ nameLimit < name.utf8ByteSize)
      (found : disk.at? (here ++ [name]) = some .directory)
      (on : Descends disk (here ++ [name]) rest trail) : Descends disk here (name :: rest) trail
  | file {here : Place} {name : String} {bytes : List UInt8} {executable : Bool}
      (sideways : name ≠ "..") (short : ¬ nameLimit < name.utf8ByteSize)
      (found : disk.at? (here ++ [name]) = some (.file bytes executable)) :
      Descends disk here [name] (.arrived (here ++ [name]))
  | link {here : Place} {name target : String} {rest : List String}
      (sideways : name ≠ "..") (short : ¬ nameLimit < name.utf8ByteSize)
      (found : disk.at? (here ++ [name]) = some (.link target)) :
      Descends disk here (name :: rest) (.interrupted here target rest)

theorem descend_eq_ok_iff : disk.descend here names = .ok first ↔ disk.Descends here names first := by
  constructor
  · intro success
    induction names generalizing here with
    | nil =>
      obtain rfl := Except.ok.inj success
      exact .arrived
    | cons name rest ih =>
      rw [descend] at success
      by_cases upwards : name = ".."
      · rw [if_pos upwards] at success
        exact upwards ▸ .up (ih success)
      · rw [if_neg upwards, lookUp] at success
        by_cases long : nameLimit < name.utf8ByteSize
        · simp only [if_pos long] at success
          cases success
        · simp only [if_neg long] at success
          cases found : disk.at? (here ++ [name]) with
          | none =>
            simp only [found] at success
            cases success
          | some node =>
            cases node with
            | directory =>
              simp only [found] at success
              exact .directory upwards long found (ih success)
            | file bytes executable =>
              simp only [found] at success
              split at success
              · next last =>
                obtain rfl := Except.ok.inj success
                exact last ▸ .file upwards long found
              · cases success
            | link target =>
              simp only [found] at success
              obtain rfl := Except.ok.inj success
              exact .link upwards long found
  · intro trail
    induction trail with
    | arrived => rfl
    | up _ ih => rwa [descend, if_pos rfl]
    | directory sideways short found _ ih =>
      simp only [descend, if_neg sideways, lookUp, if_neg short, found, ih]
    | file sideways short found =>
      simp only [descend, if_neg sideways, lookUp, if_neg short, found, if_true]
    | link sideways short found =>
      simp only [descend, if_neg sideways, lookUp, if_neg short, found]

namespace Descends

variable {rest : List String}

theorem behind_up (trail : disk.Descends here (".." :: rest) last) :
    disk.Descends here.up rest last := by
  cases trail with
  | up on => exact on
  | directory sideways | file sideways | link sideways => exact absurd rfl sideways

section Behind

variable (trail : disk.Descends here (name :: rest) last) (sideways : name ≠ "..")

include trail sideways

theorem behind_directory (found : disk.at? (here ++ [name]) = some .directory) :
    disk.Descends (here ++ [name]) rest last := by
  cases trail <;> simp_all

theorem behind_file (found : disk.at? (here ++ [name]) = some (.file bytes executable)) :
    rest = [] ∧ last = .arrived (here ++ [name]) := by
  cases trail <;> simp_all

theorem behind_link {target : String} (found : disk.at? (here ++ [name]) = some (.link target)) :
    last = .interrupted here target rest := by
  cases trail <;> simp_all

end Behind

end Descends

/-- Names that lead from a place to another one, with only so many links on the way. -/
inductive Leads (disk : Disk) : Nat → Place → List String → Place → Prop
  | arrived {links : Nat} {here place : Place} {names : List String}
      (trail : disk.Descends here names (.arrived place)) : Leads disk links here names place
  | linked {links : Nat} {here directory place : Place} {target : String} {names rest : List String}
      (trail : disk.Descends here names (.interrupted directory target rest))
      (on : Leads disk links (disk.linkOrigin directory ⟨target⟩).1
        ((disk.linkOrigin directory ⟨target⟩).2 ++ rest) place) : Leads disk (links + 1) here names place

theorem follow_eq_ok_iff : disk.follow links here names = .ok place ↔
    disk.Leads links here names place := by
  constructor
  · intro success
    induction links generalizing here names with
    | zero =>
      rw [follow] at success
      obtain ⟨trail, descended, success⟩ := except_bind_eq_ok_iff.mp success
      cases trail with
      | arrived reached =>
        obtain rfl := Except.ok.inj success
        exact .arrived (descend_eq_ok_iff.mp descended)
      | interrupted => cases success
    | succ links ih =>
      rw [follow] at success
      obtain ⟨trail, descended, success⟩ := except_bind_eq_ok_iff.mp success
      cases trail with
      | arrived reached =>
        obtain rfl := Except.ok.inj success
        exact .arrived (descend_eq_ok_iff.mp descended)
      | interrupted => exact .linked (descend_eq_ok_iff.mp descended) (ih success)
  · intro way
    induction way with
    | @arrived links _ _ _ trail =>
      cases links <;> rw [follow, descend_eq_ok_iff.mpr trail] <;> rfl
    | linked trail _ ih =>
      rw [follow, descend_eq_ok_iff.mpr trail]
      exact ih

theorem follow_nil : disk.follow links here [] = .ok here :=
  follow_eq_ok_iff.mpr (.arrived .arrived)

theorem Leads.eq_of_file (way : disk.Leads links parent [name] final) (sideways : name ≠ "..")
    (filed : disk.at? (parent ++ [name]) = some (.file bytes executable)) :
    final = parent ++ [name] := by
  cases way with
  | arrived trail => exact Trail.arrived.inj (trail.behind_file sideways filed).2
  | linked trail => cases (trail.behind_file sideways filed).2

section Extension

variable (apart : ∀ key, key ≠ place → after.at? key = disk.at? key)
  (filed : after.at? place = some (.file bytes executable)) (further : more ≠ [])

include apart filed further

/-- Where names are followed on, there is no new file. -/
theorem at?_eq_of_descends {rest : List String} (sideways : name ≠ "..")
    (whole : after.Descends here (name :: rest ++ more) last) :
    after.at? (here ++ [name]) = disk.at? (here ++ [name]) :=
  apart _ fun met =>
    further (List.append_eq_nil_iff.mp (whole.behind_file sideways (met ▸ filed)).1).2

/-- Names that lead on behind other ones are followed through the same places when a file is put at a
place, or they would end in that file. -/
theorem descends_append (trail : disk.Descends here names first)
    (whole : after.Descends here (names ++ more) last) :
    after.Descends here names first ∧
      (∀ place, first = .arrived place → after.Descends place more last) ∧
      ∀ directory target rest, first = .interrupted directory target rest →
        last = .interrupted directory target (rest ++ more) := by
  induction trail with
  | arrived =>
    refine ⟨.arrived, fun place same => ?_, fun _ _ _ same => by cases same⟩
    exact Trail.arrived.inj same ▸ whole
  | up _ ih =>
    obtain ⟨again, behind⟩ := ih whole.behind_up
    exact ⟨.up again, behind⟩
  | directory sideways short found _ ih =>
    have entered := (at?_eq_of_descends apart filed further sideways whole).trans found
    obtain ⟨again, behind⟩ := ih (whole.behind_directory sideways entered)
    exact ⟨.directory sideways short entered again, behind⟩
  | file sideways short found =>
    have ended := (at?_eq_of_descends apart filed further sideways whole).trans found
    exact absurd (whole.behind_file sideways ended).1 further
  | link sideways short found =>
    have linked := (at?_eq_of_descends apart filed further sideways whole).trans found
    refine ⟨.link sideways short linked, fun _ same => (by cases same), fun _ _ _ same => ?_⟩
    obtain ⟨rfl, rfl, rfl⟩ := Trail.interrupted.inj same
    exact whole.behind_link sideways linked

theorem leads_append (machine : after.machine = disk.machine) (way : disk.Leads links here names parent)
    (whole : after.Leads links here (names ++ more) final) :
    after.Leads links here names parent ∧ ∃ fewer, after.Leads fewer parent more final := by
  induction way with
  | arrived trail =>
    cases whole with
    | arrived behind =>
      obtain ⟨again, arrives, -⟩ := descends_append apart filed further trail behind
      exact ⟨.arrived again, 0, .arrived (arrives _ rfl)⟩
    | linked behind on =>
      obtain ⟨again, arrives, -⟩ := descends_append apart filed further trail behind
      exact ⟨.arrived again, _, .linked (arrives _ rfl) on⟩
  | linked trail _ ih =>
    cases whole with
    | arrived behind =>
      obtain ⟨-, -, extended⟩ := descends_append apart filed further trail behind
      cases extended _ _ _ rfl
    | linked behind on =>
      obtain ⟨again, -, extended⟩ := descends_append apart filed further trail behind
      obtain ⟨rfl, rfl, rfl⟩ := Trail.interrupted.inj (extended _ _ _ rfl)
      rw [linkOrigin_congr machine, ← List.append_assoc] at on
      obtain ⟨inner, behind⟩ := ih on
      rw [← linkOrigin_congr machine] at inner
      exact ⟨.linked again inner, behind⟩

end Extension

/-! ## Paths -/

theorem find_eq_ok_iff {node : Node} : disk.find path = .ok (place, node) ↔
    pathFault? path = none ∧
      disk.follow linkLimit (disk.origin path path.parts).1 (disk.origin path path.parts).2 = .ok place ∧
      disk.at? place = some node ∧
      (node = .directory ∨ ∃ bytes executable, node = .file bytes executable ∧ ¬ wantsDirectory path) := by
  rw [find]
  cases pathFault? path with
  | some reason => simp
  | none =>
    simp only [true_and]
    refine except_bind_eq_ok_iff.trans ?_
    constructor
    · rintro ⟨reached, followed, found⟩
      split at found
      · next directory =>
        obtain ⟨rfl, rfl⟩ := Prod.mk.inj (Except.ok.inj found)
        exact ⟨followed, directory, .inl rfl⟩
      · next bytes executable filed =>
        split at found
        · cases found
        · next plain =>
          obtain ⟨rfl, rfl⟩ := Prod.mk.inj (Except.ok.inj found)
          exact ⟨followed, filed, .inr ⟨bytes, executable, rfl, plain⟩⟩
      · cases found
    · rintro ⟨followed, found, rfl | ⟨bytes, executable, rfl, plain⟩⟩
      · exact ⟨place, followed, by simp only [found]⟩
      · exact ⟨place, followed, by simp only [found, if_neg plain]⟩

theorem read_eq_ok_iff : disk.read path = .ok file ↔
    ∃ place executable, disk.find path = .ok (place, .file file executable) := by
  rw [read]
  constructor
  · intro success
    split at success
    · next place bytes executable found =>
      obtain rfl := Except.ok.inj success
      exact ⟨place, executable, found⟩
    · cases success
    · cases success
  · rintro ⟨place, executable, found⟩
    rw [found]

theorem hasEntry_of_read (success : disk.read path = .ok file) : disk.hasEntry path := by
  obtain ⟨place, executable, found⟩ := read_eq_ok_iff.mp success
  rw [hasEntry, found]
  rfl

theorem followToDirectory_eq_ok_iff : disk.followToDirectory here names = .ok place ↔
    disk.follow linkLimit here names = .ok place ∧ disk.at? place = some .directory := by
  refine except_bind_eq_ok_iff.trans ?_
  constructor
  · rintro ⟨reached, followed, found⟩
    split at found
    · next directory =>
      obtain rfl := Except.ok.inj found
      exact ⟨followed, directory⟩
    · cases found
  · rintro ⟨followed, directory⟩
    exact ⟨place, followed, if_pos directory⟩

/-- The last step of a path that ends in a name is that name, taken in the directory of the path. -/
theorem lastStep_eq_ok_iff {chosen : String} (last : path.segments.getLast? = some name)
    (named : Path.isIdle name = false) :
    disk.lastStep path = .ok (parent, some chosen) ↔ pathFault? path = none ∧
      disk.origin path path.parts ≠ (Place.here, []) ∧
      disk.followToDirectory (disk.origin path (directoryOf path).parts).1
        (disk.origin path (directoryOf path).parts).2 = .ok parent ∧ chosen = name ∧ name ≠ ".." := by
  obtain ⟨init, cut⟩ := List.getLast?_eq_some_iff.mp last
  have idle : name ≠ "" ∧ name ≠ "." := by simpa [Path.isIdle] using named
  have steps : path.segments.filter (· ≠ "") = init.filter (· ≠ "") ++ [name] := by
    rw [cut, List.filter_append, List.filter_cons_of_pos (by simpa using idle.1), List.filter_nil]
  have above : (init.filter (· ≠ "")).filter (· ≠ ".") = (directoryOf path).parts := by
    have parts := (directoryOf_of_named last named).1
    rw [Path.parts, cut, List.filter_append, List.filter_cons_of_pos (by simp [idle]),
      List.filter_nil] at parts
    rw [← List.append_cancel_right parts, List.filter_filter]
    exact List.filter_congr fun other _ => Bool.and_comm _ _
  have taken : (some name).filter (fun name => name ≠ "." && name ≠ "..") = some chosen ↔
      chosen = name ∧ name ≠ ".." := by
    rw [Option.filter_some]
    by_cases upwards : name = ".."
    · simp [upwards]
    · simp [upwards, idle.2, eq_comm]
  rw [lastStep, steps]
  cases pathFault? path with
  | some reason => exact iff_of_false (fun same => by cases same) (by simp)
  | none =>
    by_cases atHome : disk.origin path path.parts = (Place.here, [])
    · exact iff_of_false (fun same => by rw [if_pos atHome] at same; cases same) fun step => step.2.1 atHome
    · simp only [atHome, List.dropLast_concat, List.getLast?_concat, above, true_and, ne_eq,
        not_false_eq_true]
      refine except_bind_eq_ok_iff.trans ?_
      rw [← taken]
      constructor
      · rintro ⟨reached, followed, same⟩
        obtain ⟨rfl, chosen⟩ := Prod.mk.inj (Except.ok.inj same)
        exact ⟨followed, chosen⟩
      · rintro ⟨followed, chosen⟩
        exact ⟨parent, followed, by rw [chosen]; rfl⟩

theorem destination_eq_ok_iff : disk.destination path = .ok place ↔
    ¬ (pathLimit < disk.draftSize (directoryOf path) && pathFault? (directoryOf path) ≠ some .nulInPath) ∧
    (∃ above, disk.find (directoryOf path) = .ok (above, .directory)) ∧
    ¬ path.text.toList.contains '\x00' ∧ ¬ wantsDirectory path ∧
    ∃ parent name, disk.lastStep path = .ok (parent, some name) ∧ place = parent ++ [name] ∧
      ∃ old, disk.lookUp parent name = .ok old ∧ old ≠ some .directory := by
  rw [destination]
  simp only
  constructor
  · intro success
    split at success
    · cases success
    · next fits =>
      obtain ⟨⟨above, node⟩, found, success⟩ := except_bind_eq_ok_iff.mp success
      simp only at success
      split at success
      · cases success
      · next directory =>
        obtain rfl : node = .directory := not_not.mp directory
        split at success
        · cases success
        · next clean =>
          obtain ⟨⟨parent, chosen⟩, step, success⟩ := except_bind_eq_ok_iff.mp success
          cases chosen with
          | none => cases success
          | some name =>
            obtain ⟨old, present, success⟩ := except_bind_eq_ok_iff.mp success
            split at success
            · cases success
            · next plain =>
              split at success
              · cases success
              · next kept =>
                exact ⟨fits, ⟨above, found⟩, clean, plain, parent, name, step,
                  (Except.ok.inj success).symm, old, present, kept⟩
  · rintro ⟨fits, ⟨above, found⟩, clean, plain, parent, name, step, rfl, old, present, kept⟩
    simp only [if_neg fits, found, step, present, if_neg plain, if_neg kept, if_neg clean, bind,
      Except.bind, ne_eq, not_true_eq_false, if_false]

/-- Where a path starts does not depend on its last name, unless it leads to the working directory. -/
theorem origin_append (disk : Disk) (path : Path) (names : List String) (name : String) :
    disk.origin path (names ++ [name]) =
        ((disk.origin path names).1, (disk.origin path names).2 ++ [name]) ∨
      disk.origin path (names ++ [name]) = (Place.here, []) := by
  unfold origin
  simp only [List.isPrefixOf_iff_prefix]
  by_cases absolute : path.isAbsolute
  · simp only [absolute, Bool.not_true, Bool.false_eq_true, if_false]
    by_cases inside : disk.machine.working <+: names
    · have longer : disk.machine.working <+: names ++ [name] := inside.trans (List.prefix_append _ _)
      rw [if_pos inside, if_pos longer, List.drop_append_of_le_length inside.length_le]
      exact .inl rfl
    · by_cases whole : disk.machine.working = names ++ [name]
      · rw [← whole, if_pos List.prefix_rfl, List.drop_length]
        exact .inr rfl
      · have apart : ¬ disk.machine.working <+: names ++ [name] := by
          rw [List.prefix_concat_iff]
          exact not_or.mpr ⟨whole, inside⟩
        rw [if_neg inside, if_neg apart]
        exact .inl rfl
  · simp [absolute]

/-- A path that does not ask for a directory ends in a name. -/
theorem exists_name_of_not_wantsDirectory (plain : ¬ wantsDirectory path) :
    ∃ name, path.segments.getLast? = some name ∧ Path.isIdle name = false := by
  have nonempty : path.segments ≠ [] := by simp [Path.segments, List.splitOn_ne_nil]
  have last := List.getLast?_eq_some_getLast nonempty
  rw [wantsDirectory, last] at plain
  exact ⟨_, last, by simpa using plain⟩

/-- The place at which a file was put is the place to which its path leads, and it is found there again
as the place to put a file. -/
theorem destination_again (reached : disk.destination path = .ok place)
    (machine : after.machine = disk.machine) (apart : ∀ key, key ≠ place → after.at? key = disk.at? key)
    (filed : after.at? place = some (.file bytes executable)) (written : after.read path = .ok file) :
    file = bytes ∧ after.destination path = .ok place := by
  obtain ⟨fits, ⟨above, directory⟩, clean, plain, parent, name, step, rfl, old, present, kept⟩ :=
    destination_eq_ok_iff.mp reached
  obtain ⟨own, last, named⟩ := exists_name_of_not_wantsDirectory plain
  obtain ⟨sound, away, entered, rfl, sideways⟩ := (lastStep_eq_ok_iff last named).mp step
  obtain ⟨parts, absolute⟩ := directoryOf_of_named last named
  obtain ⟨followed, atParent⟩ := followToDirectory_eq_ok_iff.mp entered
  obtain ⟨found, right, success⟩ := read_eq_ok_iff.mp written
  obtain ⟨-, whole, content, -⟩ := find_eq_ok_iff.mp success
  obtain ⟨soundAbove, followedAbove, -, -⟩ := find_eq_ok_iff.mp directory
  have starts (names : List String) : after.origin path names = disk.origin path names :=
    origin_congr machine rfl names
  have origins := (origin_append disk path (directoryOf path).parts name).resolve_right (parts ▸ away)
  rw [starts, parts, origins] at whole
  obtain ⟨again, links, behind⟩ := leads_append apart filed (List.cons_ne_nil name []) machine
    (follow_eq_ok_iff.mp followed) (follow_eq_ok_iff.mp whole)
  obtain rfl := behind.eq_of_file sideways filed
  have leads := follow_eq_ok_iff.mpr again
  rw [filed] at content
  obtain ⟨rfl, rfl⟩ := Node.file.inj (Option.some.inj content)
  have higher : parent ≠ parent ++ [name] := fun same => by simp at same
  have atParent : after.at? parent = some .directory := (apart parent higher).trans atParent
  have entered : after.find (directoryOf path) = .ok (parent, .directory) := by
    refine find_eq_ok_iff.mpr ⟨soundAbove, ?_, atParent, .inl rfl⟩
    rw [origin_congr machine absolute.symm]
    exact leads
  have step : after.lastStep path = .ok (parent, some name) := by
    refine (lastStep_eq_ok_iff last named).mpr ⟨sound, starts path.parts ▸ away, ?_, rfl, sideways⟩
    rw [starts]
    exact followToDirectory_eq_ok_iff.mpr ⟨leads, atParent⟩
  have present : after.lookUp parent name = .ok (some (.file bytes executable)) := by
    rw [lookUp] at present ⊢
    split at present
    · cases present
    · next short => rw [if_neg short, filed]
  have fits : ¬ (pathLimit < after.draftSize (directoryOf path) &&
      pathFault? (directoryOf path) ≠ some .nulInPath) := by
    rw [draftSize_congr machine]
    exact fits
  exact ⟨rfl, destination_eq_ok_iff.mpr ⟨fits, ⟨parent, entered⟩, clean, plain, parent, name, step,
    rfl, _, present, by simp⟩⟩

/-- A file that was written where its path leads can be written there again. -/
theorem replace_again (replaced : disk.replace path bytes = .ok after)
    (written : after.read path = .ok file) :
    (file = bytes ∨ after.Alike disk) ∧
      ∃ last, after.replace path bytes = .ok last ∧ last.Alike after := by
  obtain ⟨place, reached, put⟩ := except_map_eq_ok_iff.mp replaced
  have machine : after.machine = disk.machine := put ▸ rfl
  cases fixture : disk.machine.fixture? place with
  | some node =>
    have alike : after.Alike disk := put ▸ alike_put fixture _
    refine ⟨.inr alike, _, except_map_eq_ok_iff.mpr ⟨place, (alike.destination path).trans reached, rfl⟩, ?_⟩
    exact alike_put (machine ▸ fixture) _
  | none =>
    have held (key : Place) : after.at? key =
        if key = place then some (.file bytes (disk.isExecutableAt place)) else disk.at? key :=
      put ▸ at?_put_of_free fixture key
    have filed := (held place).trans (if_pos rfl)
    obtain ⟨same, again⟩ := destination_again reached machine
      (fun key apart => (held key).trans (if_neg apart)) filed written
    refine ⟨.inl same, _, except_map_eq_ok_iff.mpr ⟨place, again, rfl⟩, rfl, fun key => ?_⟩
    rw [at?_put_of_free (machine ▸ fixture)]
    split
    · next own => rw [own, filed, isExecutableAt, filed]
    · rfl

end BoardBind.Disk
