import BoardBind.Proofs.Command.Fixpoint
import BoardBind.Proofs.Template.RoundTrip

/-! # What generating leaves as it is

The files of a run are written in one step each, so a place holds what it held before or a complete file.
Directories are made for the testbench where nothing was. A run without the right to overwrite looks for
an existing testbench before it makes the directories of its path: a path that leads nowhere then may lead
to an existing file once they are made, and that file is overwritten.
-/

namespace BoardBind

namespace Disk

variable {disk before between after : Disk} {place key : Place} {node : Node} {path : Path}

/-- What one disk has at a place is at that place of another one too, and a file or link with all that is
known about it. -/
def KeepsAt (before after : Disk) (place : Place) : Prop :=
  ∀ node, before.at? place = some node → after.at? place = some node ∧
    (node ≠ .directory → after.stampAt place = before.stampAt place)

theorem KeepsAt.refl (disk : Disk) (place : Place) : disk.KeepsAt disk place :=
  fun _ held => ⟨held, fun _ => rfl⟩

theorem KeepsAt.trans (first : before.KeepsAt between place) (second : between.KeepsAt after place) :
    before.KeepsAt after place := by
  intro node held
  obtain ⟨middle, known⟩ := first node held
  obtain ⟨last, later⟩ := second node middle
  exact ⟨last, fun other => (later other).trans (known other)⟩

theorem stampAt_put (apart : key ≠ place) : (disk.put place node).stampAt key = disk.stampAt key := by
  have known : (disk.put place node).stamps.lookup key = disk.stamps.lookup key :=
    (lookup_filter_ne disk.stamps place key).trans (if_neg apart)
  rw [stampAt, known, stampAt]

/-- Nothing changes at other places when something is put at a place. -/
theorem keepsAt_put (apart : key ≠ place) : disk.KeepsAt (disk.put place node) key := by
  intro held present
  exact ⟨by rw [at?_put, if_neg apart, present], fun _ => stampAt_put apart⟩

/-- One disk is another one with directories made where nothing was. -/
structure Grown (before after : Disk) : Prop where
  machine : after.machine = before.machine
  kept : ∀ place, before.KeepsAt after place
  made : ∀ place, before.at? place = none → after.at? place = none ∨ after.at? place = some .directory

theorem Grown.refl (disk : Disk) : disk.Grown disk :=
  ⟨rfl, fun place => .refl disk place, fun _ empty => .inl empty⟩

theorem Grown.trans (first : before.Grown between) (second : between.Grown after) :
    before.Grown after := by
  refine ⟨second.machine.trans first.machine,
    fun place => (first.kept place).trans (second.kept place), fun place empty => ?_⟩
  rcases first.made place empty with still | directory
  · exact second.made place still
  · exact .inr (second.kept place _ directory).1

theorem grown_put (empty : disk.at? place = none) : disk.Grown (disk.put place .directory) := by
  have free : disk.machine.fixture? place = none := by
    rw [at?, Option.or_eq_none_iff] at empty
    exact empty.1
  constructor
  case machine => rfl
  case kept =>
    intro key node held
    refine keepsAt_put (fun same => ?_) node held
    rw [same, empty] at held
    cases held
  case made =>
    intro key bare
    rw [at?_put_of_free free, bare]
    split
    · exact .inr rfl
    · exact .inl rfl

theorem grown_makeDirectory (success : disk.makeDirectory path = .ok after) : disk.Grown after := by
  obtain ⟨⟨parent, last⟩, -, success⟩ := except_bind_eq_ok_iff.mp success
  cases last with
  | none => cases success
  | some name =>
    obtain ⟨old, looked, success⟩ := except_bind_eq_ok_iff.mp success
    cases old with
    | some node => cases success
    | none =>
      obtain rfl := Except.ok.inj success
      refine grown_put ?_
      rw [lookUp] at looked
      split at looked
      · cases looked
      · exact Except.ok.inj looked

theorem grown_ensureDirectory (disk : Disk) (path : Path) : disk.Grown (disk.ensureDirectory path).1 := by
  unfold ensureDirectory
  split
  · next made => exact grown_makeDirectory made
  · exact .refl disk

theorem grown_ensureAll (disk : Disk) (paths : List Path) : disk.Grown (disk.ensureAll paths).1 := by
  induction paths with
  | nil => exact .refl disk
  | cons path above ih =>
    unfold ensureAll
    split
    · split
      · next made all =>
        rw [all] at ih
        exact ih.trans (grown_ensureDirectory made path)
      · next made reason all =>
        rw [all] at ih
        exact ih
    · exact grown_ensureDirectory disk path

theorem grown_createDirectories (disk : Disk) (path : Path) : disk.Grown (disk.createDirectories path).1 :=
  grown_ensureAll disk path.ancestors

/-- The place to which a file is written holds no directory. -/
theorem at?_ne_directory_of_destination (reached : disk.destination path = .ok place) :
    disk.at? place ≠ some .directory := by
  obtain ⟨-, -, -, -, parent, name, -, rfl, old, looked, other⟩ := destination_eq_ok_iff.mp reached
  rw [lookUp] at looked
  split at looked
  · cases looked
  · rwa [← Except.ok.inj looked] at other

/-- Where no directory was made, nothing has changed. -/
theorem Grown.at?_eq (grown : before.Grown after) (other : after.at? place ≠ some .directory) :
    after.at? place = before.at? place := by
  cases held : before.at? place with
  | some node => exact (grown.kept place node held).1
  | none =>
    rcases grown.made place held with still | directory
    · exact still
    · exact absurd directory other

end Disk

namespace Command

open Text

variable {c : Gen} {disk written after : Disk} {settings : Settings} {s : Selection} {dir dest : Path}
  {board : Board} {kind : Builtin} {place : Place} {kept : List String} {bytes : List UInt8}
  {executable : Bool}

/-- The file of a built-in template that is written for a bound unit. -/
def builtinFile (kind : Builtin) (board : Board) (s : Selection) (kept : List String) : List UInt8 :=
  (render (kind.text s.design.language) (Gen.wrapper board s) kept).toUTF8.toList

/-- A place holds what it held, or the complete file with what a disk has preserved of the previous one. -/
def HeldOrComplete (kind : Builtin) (board : Board) (s : Selection) (dest : Path)
    (preserving before after : Disk) (place : Place) : Prop :=
  after.at? place = before.at? place ∨ ∃ kept, preservedRegions preserving dest = .ok kept ∧
    after.at? place = some (.file (builtinFile kind board s kept) (before.isExecutableAt place))

/-- The testbench of a run goes to a place: the wrapper is written, and the path of the testbench leads
there when its directory is made, as far as it can be made. -/
structure TestbenchAt (c : Gen) (disk : Disk) (settings : Settings) (s : Selection) (dir : Path)
    (written : Disk) (place : Place) : Prop where
  asked : c.testbench = some dir
  wrapper : Gen.write disk settings.board s .top settings.outputPath = .ok written
  reached : (written.createDirectories dir).1.destination (Gen.testbenchPath s dir) = .ok place

/-- The testbench of a run is another file than the wrapper. -/
def Apart (c : Gen) (disk : Disk) (settings : Settings) (s : Selection) : Prop :=
  ∀ dir written place, TestbenchAt c disk settings s dir written place →
    disk.destination settings.outputPath ≠ .ok place

/-- The testbench of a run is written with the given preserved regions: it is allowed to, or its path leads
nowhere before its directory is made. -/
structure TestbenchWritten (c : Gen) (disk : Disk) (settings : Settings) (s : Selection) (dir : Path)
    (written : Disk) (place : Place) (kept : List String) : Prop
    extends TestbenchAt c disk settings s dir written place where
  allowed : c.force = true ∨ written.hasEntry (Gen.testbenchPath s dir) = false
  made : (written.createDirectories dir).2 = none
  preserved : preservedRegions (written.createDirectories dir).1 (Gen.testbenchPath s dir) = .ok kept

/-- A run without the right to overwrite writes another testbench over an existing one: its path leads
nowhere before its directory is made, and to the existing testbench afterwards. -/
structure Overlooked (c : Gen) (disk : Disk) (settings : Settings) (s : Selection) (dir : Path)
    (written : Disk) (place : Place) (kept : List String) : Prop
    extends TestbenchWritten c disk settings s dir written place kept where
  unforced : c.force = false
  unfixed : disk.machine.fixture? place = none
  changed : ∃ bytes executable, disk.at? place = some (.file bytes executable) ∧
    bytes ≠ builtinFile .testbench settings.board s kept

/-- What a run owes to the files of a disk. -/
structure Harmless (c : Gen) (disk : Disk) (settings : Settings) (s : Selection) : Prop where
  /-- With a target that is bound twice nothing is written. -/
  conflict : (s.table settings.board).conflicts ≠ [] →
    (c.writeAll disk settings s).failure ≠ none ∧ (c.writeAll disk settings s).disk = disk
  /-- The wrapper is the one from before or complete, and so is the testbench. -/
  wrapper : ∀ place, disk.destination settings.outputPath = .ok place →
    HeldOrComplete .top settings.board s settings.outputPath disk disk (c.writeAll disk settings s).disk place
  testbench : ∀ dir written place, TestbenchAt c disk settings s dir written place →
    HeldOrComplete .testbench settings.board s (Gen.testbenchPath s dir) (written.createDirectories dir).1
      disk (c.writeAll disk settings s).disk place
  /-- A testbench that is there is overwritten only if this is asked for. -/
  existing : c.force = false → ∀ dir written place bytes executable,
    TestbenchAt c disk settings s dir written place → disk.at? place = some (.file bytes executable) →
      (c.writeAll disk settings s).disk.at? place = some (.file bytes executable)
  /-- No other file changes, and no link or directory is lost. -/
  others : ∀ place, disk.destination settings.outputPath ≠ .ok place →
    (∀ dir written, ¬ TestbenchAt c disk settings s dir written place) →
      disk.KeepsAt (c.writeAll disk settings s).disk place

theorem write_eq_ok_iff : Gen.write disk board s kind dest = .ok after ↔
    (s.table board).conflicts = [] ∧ ∃ kept place, preservedRegions disk dest = .ok kept ∧
      disk.destination dest = .ok place ∧
      disk.put place (.file (builtinFile kind board s kept) (disk.isExecutableAt place)) = after := by
  refine except_mapError_eq_ok_iff.trans (generate_eq_ok_iff.trans (and_congr_right fun _ => ?_))
  refine exists_congr fun kept => ?_
  rw [exists_and_left]
  exact and_congr_right fun _ => except_map_eq_ok_iff

/-- A place that is written to is written completely, unless it is one that is the same on every disk. -/
theorem heldOrComplete_put (preserved : preservedRegions disk dest = .ok kept) :
    HeldOrComplete kind board s dest disk disk
      (disk.put place (.file (builtinFile kind board s kept) (disk.isExecutableAt place))) place := by
  cases fixture : disk.machine.fixture? place with
  | some node => exact .inl ((Disk.alike_put fixture _).nodes place)
  | none => exact .inr ⟨kept, preserved, by rw [Disk.at?_put_of_free fixture, if_pos rfl]⟩

/-- Elsewhere than at its own place, the file of a template changes nothing. -/
theorem of_write_elsewhere (success : Gen.write disk board s kind dest = .ok after)
    (elsewhere : disk.destination dest ≠ .ok place) :
    after.at? place = disk.at? place ∧ disk.KeepsAt after place := by
  obtain ⟨-, kept, own, -, reached, rfl⟩ := write_eq_ok_iff.mp success
  have apart : place ≠ own := fun same => elsewhere (same ▸ reached)
  exact ⟨by rw [Disk.at?_put, if_neg apart], Disk.keepsAt_put apart⟩

/-- The disk that a run leaves that has written the testbench. -/
theorem TestbenchWritten.disk_eq (done : TestbenchWritten c disk settings s dir written place kept) :
    (c.writeAll disk settings s).disk = (written.createDirectories dir).1.put place
      (.file (builtinFile .testbench settings.board s kept)
        ((written.createDirectories dir).1.isExecutableAt place)) := by
  have free : (s.table settings.board).conflicts = [] := (write_eq_ok_iff.mp done.wrapper).1
  have wrote : Gen.write (written.createDirectories dir).1 settings.board s .testbench
      (Gen.testbenchPath s dir) = .ok _ :=
    write_eq_ok_iff.mpr ⟨free, kept, place, done.preserved, done.reached, rfl⟩
  have allowed : ¬ (written.hasEntry (Gen.testbenchPath s dir) && !c.force) = true := by
    rcases done.allowed with force | missed
    · simp [force]
    · simp [missed]
  have made : written.createDirectories dir = ((written.createDirectories dir).1, none) :=
    Prod.ext rfl done.made
  unfold Gen.writeAll
  simp only [done.wrapper, done.asked, Gen.writeTestbench, if_neg allowed]
  rw [made]
  simp only [wrote]

/-- A run that has written the wrapper leaves the disk with it, or with the directory of the testbench as
well, or it has written the testbench. -/
theorem writeAll_of_write
    (success : Gen.write disk settings.board s .top settings.outputPath = .ok written) :
    (c.writeAll disk settings s).disk = written ∨
      (∃ dir, c.testbench = some dir ∧
        (c.writeAll disk settings s).disk = (written.createDirectories dir).1) ∨
      ∃ dir place kept, TestbenchWritten c disk settings s dir written place kept := by
  cases asked : c.testbench with
  | none =>
    left
    simp only [Gen.writeAll, success, asked]
  | some dir =>
    simp only [Gen.writeAll, success, asked, Gen.writeTestbench]
    split
    · exact .inl rfl
    · next allowed =>
      cases made : written.createDirectories dir with
      | mk created fault =>
        cases fault with
        | some reason => exact .inr (.inl ⟨dir, rfl, by rw [made]⟩)
        | none =>
          dsimp only
          cases wrote : Gen.write created settings.board s .testbench (Gen.testbenchPath s dir) with
          | error failure => exact .inr (.inl ⟨dir, rfl, by rw [made]⟩)
          | ok last =>
            obtain ⟨-, kept, place, preserved, reached, -⟩ := write_eq_ok_iff.mp wrote
            have free : c.force = true ∨ written.hasEntry (Gen.testbenchPath s dir) = false := by
              cases forced : c.force with
              | true => exact .inl rfl
              | false => simpa [forced] using allowed
            have goes : TestbenchAt c disk settings s dir written place :=
              ⟨asked, success, by rw [made]; exact reached⟩
            exact .inr (.inr ⟨dir, place, kept, goes, free, by rw [made], by rw [made]; exact preserved⟩)

/-- Where the testbench goes, nothing has changed before it is written. -/
theorem TestbenchAt.at?_eq (goes : TestbenchAt c disk settings s dir written place)
    (apart : disk.destination settings.outputPath ≠ .ok place) :
    (written.createDirectories dir).1.at? place = disk.at? place := by
  have grown := Disk.grown_createDirectories written dir
  rw [grown.at?_eq (Disk.at?_ne_directory_of_destination goes.reached)]
  exact (of_write_elsewhere goes.wrapper apart).1

/-- The directory of the testbench is made on the machine of the run. -/
theorem TestbenchAt.machine_eq (goes : TestbenchAt c disk settings s dir written place) :
    (written.createDirectories dir).1.machine = disk.machine := by
  obtain ⟨-, _, _, -, -, wrote⟩ := write_eq_ok_iff.mp goes.wrapper
  exact (Disk.grown_createDirectories written dir).machine.trans (wrote ▸ rfl)

/-- A run writes to one testbench only. -/
theorem TestbenchAt.unique {dir' : Path} {written' : Disk} {place' : Place}
    (goes : TestbenchAt c disk settings s dir written place)
    (other : TestbenchAt c disk settings s dir' written' place') :
    dir' = dir ∧ written' = written ∧ place' = place := by
  obtain rfl := Option.some.inj (goes.asked.symm.trans other.asked)
  obtain rfl := Except.ok.inj (goes.wrapper.symm.trans other.wrapper)
  exact ⟨rfl, rfl, Except.ok.inj (other.reached.symm.trans goes.reached)⟩

/-- Once the wrapper is written, nothing changes but where the testbench goes. -/
theorem keepsAt_after_wrapper
    (success : Gen.write disk settings.board s .top settings.outputPath = .ok written)
    (elsewhere : ∀ dir, ¬ TestbenchAt c disk settings s dir written place) :
    written.KeepsAt (c.writeAll disk settings s).disk place := by
  rcases writeAll_of_write (c := c) success with same | ⟨dir, -, same⟩ | ⟨dir, own, kept, done⟩
  · rw [same]
    exact .refl written place
  · rw [same]
    exact (Disk.grown_createDirectories written dir).kept place
  · rw [done.disk_eq]
    refine ((Disk.grown_createDirectories written dir).kept place).trans (Disk.keepsAt_put fun same => ?_)
    exact elsewhere dir (same ▸ done.toTestbenchAt)

/-- A run that has not written the wrapper changes nothing. -/
theorem harmless_of_error {failure : Failure}
    (failed : Gen.write disk settings.board s .top settings.outputPath = .error failure) :
    Harmless c disk settings s := by
  have unchanged : (c.writeAll disk settings s).disk = disk := by simp only [Gen.writeAll, failed]
  constructor
  case conflict =>
    refine fun _ => ⟨?_, unchanged⟩
    simp [Gen.writeAll, failed]
  case wrapper => exact fun place _ => .inl (by rw [unchanged])
  case testbench => exact fun _ _ place _ => .inl (by rw [unchanged])
  case existing =>
    intro _ _ _ place bytes executable _ held
    rw [unchanged, held]
  case others =>
    intro place _ _
    rw [unchanged]
    exact .refl disk place

section Written

variable (success : Gen.write disk settings.board s .top settings.outputPath = .ok written)
  (apart : Apart c disk settings s)

include success apart

/-- The wrapper is complete, and what comes after it leaves it so. -/
theorem wrapper_heldOrComplete (reached : disk.destination settings.outputPath = .ok place) :
    HeldOrComplete .top settings.board s settings.outputPath disk disk
      (c.writeAll disk settings s).disk place := by
  obtain ⟨-, kept, own, preserved, destination, rfl⟩ := write_eq_ok_iff.mp success
  obtain rfl := Except.ok.inj (destination.symm.trans reached)
  have keeps := keepsAt_after_wrapper success fun dir goes => apart dir _ own goes reached
  have held := Disk.at?_put disk own own
    (.file (builtinFile .top settings.board s kept) (disk.isExecutableAt own))
  rw [if_pos rfl] at held
  rw [HeldOrComplete, (keeps _ held).1, ← held]
  exact heldOrComplete_put preserved

/-- Where the testbench goes, the run leaves what was there, or it has written the testbench. -/
theorem at?_testbench (goes : TestbenchAt c disk settings s dir written place) :
    (c.writeAll disk settings s).disk.at? place = disk.at? place ∨
      ∃ kept, TestbenchWritten c disk settings s dir written place kept := by
  have elsewhere := apart dir written place goes
  rcases writeAll_of_write (c := c) success with same | ⟨other, asked, same⟩ | ⟨other, own, kept, done⟩
  · rw [same]
    exact .inl (of_write_elsewhere success elsewhere).1
  · obtain rfl := Option.some.inj (goes.asked.symm.trans asked)
    rw [same]
    exact .inl (goes.at?_eq elsewhere)
  · obtain ⟨rfl, -, rfl⟩ := goes.unique done.toTestbenchAt
    exact .inr ⟨kept, done⟩

theorem testbench_heldOrComplete (goes : TestbenchAt c disk settings s dir written place) :
    HeldOrComplete .testbench settings.board s (Gen.testbenchPath s dir) (written.createDirectories dir).1
      disk (c.writeAll disk settings s).disk place := by
  rcases at?_testbench success apart goes with same | ⟨kept, done⟩
  · exact .inl same
  · have before := goes.at?_eq (apart dir written place goes)
    have right : (written.createDirectories dir).1.isExecutableAt place = disk.isExecutableAt place := by
      rw [Disk.isExecutableAt, before, Disk.isExecutableAt]
    rw [HeldOrComplete, done.disk_eq, ← before, ← right]
    exact heldOrComplete_put done.preserved

/-- A run without the right to overwrite keeps an existing testbench that it does not overlook. -/
theorem keeps_testbench (goes : TestbenchAt c disk settings s dir written place)
    (unforced : c.force = false) (held : disk.at? place = some (.file bytes executable))
    (seen : ∀ kept, ¬ Overlooked c disk settings s dir written place kept) :
    (c.writeAll disk settings s).disk.at? place = some (.file bytes executable) := by
  rcases at?_testbench success apart goes with same | ⟨kept, done⟩
  · rw [same, held]
  · have before := (goes.at?_eq (apart dir written place goes)).trans held
    rw [done.disk_eq]
    cases unfixed : disk.machine.fixture? place with
    | some node => exact ((Disk.alike_put (goes.machine_eq ▸ unfixed) _).nodes place).trans before
    | none =>
      -- The same bytes leave the file as it is; with other ones it would be overlooked.
      by_cases same : bytes = builtinFile .testbench settings.board s kept
      · rw [Disk.at?_put_of_free (goes.machine_eq ▸ unfixed), if_pos rfl, Disk.isExecutableAt, before, same]
      · exact absurd ⟨done, unforced, unfixed, bytes, executable, held, same⟩ (seen kept)

end Written

/-- A run that overlooks a testbench changes it. -/
theorem Overlooked.not_harmless (overlooked : Overlooked c disk settings s dir written place kept) :
    ¬ Harmless c disk settings s := by
  intro harmless
  obtain ⟨bytes, executable, held, changed⟩ := overlooked.changed
  have unchanged := harmless.existing overlooked.unforced dir written place bytes executable
    overlooked.toTestbenchAt held
  have unfixed := overlooked.unfixed
  rw [← overlooked.machine_eq] at unfixed
  rw [overlooked.disk_eq, Disk.at?_put_of_free unfixed, if_pos rfl] at unchanged
  exact changed (Node.file.inj (Option.some.inj unchanged)).1.symm

/-- A run does no harm, unless it overlooks an existing testbench. -/
theorem harmless_iff (apart : Apart c disk settings s) :
    Harmless c disk settings s ↔
      ¬ ∃ dir written place kept, Overlooked c disk settings s dir written place kept := by
  constructor
  · rintro harmless ⟨dir, written, place, kept, overlooked⟩
    exact overlooked.not_harmless harmless
  · intro none
    cases success : Gen.write disk settings.board s .top settings.outputPath with
    | error failure => exact harmless_of_error success
    | ok written =>
      constructor
      case conflict => exact fun conflicts => absurd (write_eq_ok_iff.mp success).1 conflicts
      case wrapper => exact fun place reached => wrapper_heldOrComplete success apart reached
      case testbench =>
        intro dir _ place goes
        obtain rfl := Except.ok.inj (success.symm.trans goes.wrapper)
        exact testbench_heldOrComplete success apart goes
      case existing =>
        intro unforced dir _ place bytes executable goes held
        obtain rfl := Except.ok.inj (success.symm.trans goes.wrapper)
        exact keeps_testbench success apart goes unforced held
          fun kept overlooked => none ⟨dir, written, place, kept, overlooked⟩
      case others =>
        intro place elsewhere other
        exact (of_write_elsewhere success elsewhere).2.trans
          (keepsAt_after_wrapper success fun dir => other dir written)

/-- What a user has written as a testbench. -/
def stimulus : String := "-- my own stimulus\n"

/-- A disk with the testbench in a directory of its own. -/
def simDisk : Disk where
  nodes := [(["sim"], .directory), (["sim", "dr_testbench.vhdl"], .file stimulus.toUTF8.toList false)]

/-- The disk with the wrapper of the unit. -/
def simWritten : Disk :=
  simDisk.put ["dr_top.vhdl"] (.file (builtinFile .top blinkySettings.board boundBlinky []) false)

/-- A run with a testbench in a directory, without the right to overwrite one. -/
def simRun (dir : String) : Gen := { plainRun with testbench := some ⟨dir⟩ }

theorem write_sim :
    Gen.write simDisk blinkySettings.board boundBlinky .top blinkySettings.outputPath = .ok simWritten := by
  have missing : simDisk.hasEntry blinkySettings.outputPath = false := by decide +kernel
  have inert : simDisk.isExecutableAt ["dr_top.vhdl"] = false := by decide +kernel
  refine write_eq_ok_iff.mpr ⟨by decide +kernel, [], ["dr_top.vhdl"], ?_, by decide +kernel, ?_⟩
  · rw [preservedRegions, missing]
    rfl
  · rw [inert, simWritten]

/-- Both ways to the directory of the testbench lead to the testbench, once the way is made. -/
theorem testbenchAt_sim (dir : String) (way : dir = "sim" ∨ dir = "build/../sim") :
    TestbenchAt (simRun dir) simDisk blinkySettings boundBlinky ⟨dir⟩ simWritten
      ["sim", "dr_testbench.vhdl"] := by
  refine ⟨rfl, write_sim, ?_⟩
  rcases way with rfl | rfl <;> decide +kernel

theorem apart_sim (dir : String) (way : dir = "sim" ∨ dir = "build/../sim") :
    Apart (simRun dir) simDisk blinkySettings boundBlinky := by
  intro other written place goes
  obtain ⟨-, -, rfl⟩ := (testbenchAt_sim dir way).unique goes
  decide +kernel

/-- A testbench that is there is not overwritten. -/
theorem harmless_sim : Apart (simRun "sim") simDisk blinkySettings boundBlinky ∧
    Harmless (simRun "sim") simDisk blinkySettings boundBlinky := by
  have apart := apart_sim "sim" (.inl rfl)
  refine ⟨apart, (harmless_iff apart).mpr ?_⟩
  rintro ⟨dir, written, place, kept, overlooked⟩
  obtain ⟨rfl, rfl, rfl⟩ := (testbenchAt_sim "sim" (.inl rfl)).unique overlooked.toTestbenchAt
  have seen : simWritten.hasEntry (Gen.testbenchPath boundBlinky ⟨"sim"⟩) = true := by decide +kernel
  rcases overlooked.allowed with force | missed
  · exact Bool.false_ne_true force
  · rw [seen] at missed
    cases missed

/-- A generated testbench starts with other characters. -/
theorem stimulus_ne_builtinFile :
    stimulus.toUTF8.toList ≠ builtinFile .testbench blinkySettings.board boundBlinky [] := by
  intro same
  have header : (Gen.wrapper blinkySettings.board boundBlinky).expand
      "-- Generated by hdltop. Only the regions between the \"vvv\" and \"^^^\" markers".toList =
        ["-- Generated by hdltop. Only the regions between the \"vvv\" and \"^^^\" markers".toList] := by
    rw [String.toList_ofList]
    decide +kernel
  have shown : boundBlinky.design.language = .vhdl := rfl
  have fourth := congrArg (·[3]?) same
  -- Only the first line of the testbench is computed: the kernel is slow to decode them all.
  rw [builtinFile, shown, toUTF8_toList, toUTF8_toList, render, renderLines_nil, Builtin.lines_text,
    toList_unlines, Builtin.charLines, Builtin.templateLines, List.map_cons, List.flatMap_cons, header,
    stimulus, String.toList_ofList, String.toList_ofList] at fourth
  exact absurd fourth (by decide +kernel)

/-- On a way through a directory that is missing, the testbench is overlooked. -/
theorem not_harmless_detour : Apart (simRun "build/../sim") simDisk blinkySettings boundBlinky ∧
    ¬ Harmless (simRun "build/../sim") simDisk blinkySettings boundBlinky := by
  have read : (simWritten.createDirectories ⟨"build/../sim"⟩).1.read
      (Gen.testbenchPath boundBlinky ⟨"build/../sim"⟩) = .ok stimulus.toUTF8.toList := by decide +kernel
  have preserved : preservedRegions (simWritten.createDirectories ⟨"build/../sim"⟩).1
      (Gen.testbenchPath boundBlinky ⟨"build/../sim"⟩) = .ok [] := by
    have ascii : Text.IsAscii stimulus.toList := by
      rw [stimulus, String.toList_ofList]
      decide +kernel
    have plain : regions stimulus.toList = [] := by
      rw [stimulus, String.toList_ofList]
      decide +kernel
    rw [preservedRegions_of_read read, ofBytes_toUTF8 ascii, plain]
  have missed : simWritten.hasEntry (Gen.testbenchPath boundBlinky ⟨"build/../sim"⟩) = false := by
    decide +kernel
  have made : (simWritten.createDirectories ⟨"build/../sim"⟩).2 = none := by decide +kernel
  have overlooked : Overlooked (simRun "build/../sim") simDisk blinkySettings boundBlinky
      ⟨"build/../sim"⟩ simWritten ["sim", "dr_testbench.vhdl"] [] :=
    ⟨⟨testbenchAt_sim _ (.inr rfl), .inr missed, made, preserved⟩, rfl, by decide +kernel,
      _, _, rfl, stimulus_ne_builtinFile⟩
  exact ⟨apart_sim _ (.inr rfl), overlooked.not_harmless⟩

end Command

end BoardBind
