import BoardBind.Proofs.Command.Resolve
import BoardBind.Proofs.Host.Listing

/-! # The sources after a wrapper is written

The files that a directory lists as sources have a name with an extension of the language that is none
of the names of generated files. So on a disk without links a wrapper is no source, and writing it leaves
the sources as they were.
-/

namespace BoardBind

open Text

variable {settings : Settings} {disk after : Disk} {lang : Language} {place here parent : Place}
  {name : String} {paths : List Path} {bytes : List UInt8}

/-- The disk has no links but those of the system, which are not named as sources are, and its files are
named by single steps of a path. -/
structure Disk.Plain (disk : Disk) : Prop where
  unlinked : ∀ entry ∈ disk.nodes, ∀ target, entry.2 ≠ .link target
  system : ∀ lang : Language, ∀ link ∈ disk.machine.links, ∀ name ∈ link.1.getLast?,
    lang.isSourceName name = false
  named : ∀ entry ∈ disk.nodes, ∀ name ∈ entry.1.getLast?, '/' ∉ name.toList

theorem Language.of_isSourceName (source : lang.isSourceName name) :
    Path.isIdle name = false ∧ name ≠ ".." := by
  have unnamed : ∀ other ∈ ["", ".", ".."], lang.isSourceName other = false := by
    cases lang <;> decide +kernel
  have apart : ∀ other ∈ ["", ".", ".."], name ≠ other := by
    rintro other member rfl
    exact absurd source (by simp [unnamed name member])
  exact ⟨by simp [Path.isIdle, apart], apart ".." (by decide)⟩

theorem Machine.mem_links {machine : Machine} {target : String}
    (found : machine.fixture? place = some (.link target)) : (place, target) ∈ machine.links := by
  unfold fixture? at found
  split at found
  · cases found
  · split at found
    · cases found
    · split at found
      · next held =>
        obtain rfl := Node.link.inj (Option.some.inj found)
        obtain ⟨before, behind, split, -⟩ := List.lookup_eq_some_iff.mp held
        exact split ▸ List.mem_append_right _ List.mem_cons_self
      · split at found <;> cases found

theorem Disk.Plain.lookup_ne_link (plain : disk.Plain) (place : Place) (target : String) :
    disk.nodes.lookup place ≠ some (.link target) := by
  intro linked
  obtain ⟨before, behind, split, -⟩ := List.lookup_eq_some_iff.mp linked
  exact plain.unlinked (place, .link target) (split ▸ List.mem_append_right _ List.mem_cons_self) target rfl

theorem Disk.Plain.at?_ne_link (plain : disk.Plain) (source : lang.isSourceName name) (here : Place)
    (target : String) : disk.at? (here ++ [name]) ≠ some (.link target) := by
  intro linked
  rcases Option.or_eq_some_iff.mp linked with fixture | ⟨-, held⟩
  · have unsourced := plain.system lang _ (Machine.mem_links fixture) name (by simp)
    rw [source] at unsourced
    cases unsourced
  · exact plain.lookup_ne_link _ target held

namespace Settings

/-- Whether a file of the directory is one of the sources. -/
def takes (settings : Settings) (name : String) : Bool :=
  settings.language.isSourceName name &&
    !settings.generatedNames.any fun generated => sameIgnoringCase generated name

theorem sources_eq (found : disk.find settings.directory = .ok (parent, .directory)) :
    (settings.sources disk).result = .ok (((disk.filesAt parent).filter settings.takes).map
      fun name => settings.directory.join ⟨name⟩) := by
  have taken (name : String) : (!decide ((settings.generatedNames.findIdx fun generated =>
      sameIgnoringCase generated name) < settings.generatedNames.length) &&
        settings.language.isSourceName name) = settings.takes name := by
    rw [takes, Bool.and_comm]
    congr 2
    rw [Bool.eq_iff_iff, decide_eq_true_iff, List.findIdx_lt_length, List.any_eq_true]
  have listed : disk.listFiles settings.directory = .ok (disk.filesAt parent) := by
    rw [Disk.listFiles, found]
  simp only [sources, sourceFiles, listed, Except.map, List.partition_eq_filter_filter,
    List.filter_filter, Function.comp_apply, taken]

theorem exists_of_sources (success : (settings.sources disk).result = .ok paths) :
    ∃ parent, disk.find settings.directory = .ok (parent, .directory) := by
  unfold sources at success
  split at success
  · cases success
  · next files excluded listed =>
    obtain ⟨names, listed, -⟩ := except_map_eq_ok_iff.mp listed
    unfold Disk.listFiles at listed
    split at listed
    · next parent found => exact ⟨parent, found⟩
    · cases listed
    · cases listed

end Settings

/-- The place of a file that is written ends in the name of its path. -/
theorem Disk.getLast?_of_destination {path : Path} (reached : disk.destination path = .ok place) :
    place.getLast? = some path.fileName := by
  obtain ⟨-, -, -, unasked, parent, name, step, rfl, -⟩ := destination_eq_ok_iff.mp reached
  obtain ⟨own, last, named⟩ := exists_name_of_not_wantsDirectory unasked
  obtain ⟨-, -, -, rfl, sideways⟩ := (lastStep_eq_ok_iff last named).mp step
  rw [Path.fileName, Path.fileName?, (directoryOf_of_named last named).1, List.getLast?_concat,
    List.getLast?_concat, Option.filter_some]
  simp [sideways]

/-- A file that is written leaves the directories where they are. -/
theorem Disk.Plain.find_directory {path directory : Path} (plain : disk.Plain)
    (reached : disk.destination path = .ok place) (executable : Bool)
    (found : disk.find directory = .ok (parent, .directory)) :
    (disk.put place (.file bytes executable)).find directory = .ok (parent, .directory) := by
  cases fixture : disk.machine.fixture? place with
  | some node => rw [(alike_put fixture _).find, found]
  | none =>
    refine (written_put reached fixture (fun target linked => ?_) bytes executable).find_directory found
    rw [at?, fixture] at linked
    exact plain.lookup_ne_link _ target linked

/-- On a disk without links, writing the wrapper leaves the sources as they are. -/
theorem sameSources_of_replace (plain : disk.Plain) (listed : (settings.sources disk).result = .ok paths)
    (replaced : disk.replace settings.outputPath bytes = .ok after) :
    SameSources settings disk after := by
  obtain ⟨parent, found⟩ := Settings.exists_of_sources listed
  obtain ⟨place, reached, rfl⟩ := except_map_eq_ok_iff.mp replaced
  have last := Disk.getLast?_of_destination reached
  have unkept : settings.takes settings.outputPath.fileName = false := by
    simp [Settings.takes, Settings.generatedNames, sameIgnoringCase]
  have unlinked {name : String} (taken : settings.takes name) :=
    plain.at?_ne_link (Bool.and_eq_true_iff.mp taken).1 parent
  have sideways {name : String} (taken : settings.takes name) : name ≠ ".." :=
    (Language.of_isSourceName (Bool.and_eq_true_iff.mp taken).1).2
  -- The sources are not at the place of the wrapper, for they have other names.
  have apart {name : String} (taken : settings.takes name) :
      (disk.put place (.file bytes (disk.isExecutableAt place))).at? (parent ++ [name]) =
        disk.at? (parent ++ [name]) := by
    rw [Disk.at?_put, if_neg]
    rintro rfl
    rw [List.getLast?_concat] at last
    rw [Option.some.inj last, unkept] at taken
    cases taken
  have again : (disk.put place (.file bytes (disk.isExecutableAt place))).find settings.directory =
      .ok (parent, .directory) := plain.find_directory reached _ found
  refine ⟨?_, fun path member => ?_⟩
  · rw [Settings.sources_eq again, Settings.sources_eq found,
      Disk.filter_filesAt_put last unkept fun name taken => ?_]
    have unlinkedAgain := unlinked taken
    rw [← apart taken] at unlinkedAgain
    rw [Bool.eq_iff_iff, Disk.leadsToFile_iff (sideways taken) (unlinked taken),
      Disk.leadsToFile_iff (sideways taken) unlinkedAgain, apart taken]
  · rw [Settings.sourceList, Settings.sources_eq found] at member
    obtain ⟨name, kept, rfl⟩ := List.mem_map.mp member
    obtain ⟨inDirectory, taken⟩ := List.mem_filter.mp kept
    obtain ⟨leads, entry, present, ends⟩ := Disk.of_mem_filesAt inDirectory
    obtain ⟨short, content, executable, filed⟩ :=
      (Disk.leadsToFile_iff (sideways taken) (unlinked taken)).mp leads
    have single := plain.named entry present name ends
    have named := (Language.of_isSourceName (Bool.and_eq_true_iff.mp taken).1).1
    rw [Disk.read_join found single named (sideways taken) short filed,
      Disk.read_join again single named (sideways taken) short ((apart taken).trans filed)]
    rfl

end BoardBind
