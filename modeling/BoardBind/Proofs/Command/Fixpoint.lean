import BoardBind.Proofs.Command.Wrapper
import BoardBind.Proofs.Command.Written
import BoardBind.Proofs.Host.Disk
import BoardBind.Proofs.Template.Regeneration

/-! # Generating again from unchanged sources

A generated wrapper records the bindings that it was generated with and keeps what its owner wrote. So
a second run under the same settings binds the same signals and writes the same file, though it starts
from another previous wrapper than the first one.
-/

namespace BoardBind.Command

open Text

variable {c : Gen} {host : Host} {settings : Settings} {s : Selection} {file : List UInt8}
  {disk after : Disk} {lang : Language} {board : Board} {kept : List String} {d : Design}

/-- A run of the command binds the design of a host and succeeds, and on the disk afterwards the
wrapper has the given bytes. -/
structure Generates (c : Gen) (host : Host) (settings : Settings) (s : Selection)
    (file : List UInt8) (after : Disk) : Prop where
  bound : (resolve host settings).2.result = .ok s
  succeeded : (c.writeAll (resolve host settings).1 settings s).failure = none
  left : (c.writeAll (resolve host settings).1 settings s).disk = after
  written : after.read settings.outputPath = .ok file

/-- The bits of the selected unit have distinct names, its ports and the board have names of the
language, and the preserved regions of the wrapper that was there before hold neither two adjacent
carriage returns nor a line that is read as a binding. -/
structure Regular (host : Host) (settings : Settings) (s : Selection) : Prop where
  ports : ∀ port ∈ s.ports, settings.language.IsName port.spelling
  distinct : (s.bits.map fun bit => settings.language.fold bit.name).Nodup
  board : settings.board.Named settings.language
  returns : ∀ previous, host.disk.read settings.outputPath = .ok previous →
    ¬ ['\r', '\r'] <:+: ofBytes previous
  silent : ∀ previous, host.disk.read settings.outputPath = .ok previous →
    Silent settings.language (regions (ofBytes previous))

theorem generate_eq_ok_iff {template : String} {dest : Path} {w : Wrapper} {table : AssignmentTable} :
    generate disk template dest w table = .ok after ↔ table.conflicts = [] ∧
      ∃ kept, preservedRegions disk dest = .ok kept ∧
        disk.replace dest (render template w kept).toUTF8.toList = .ok after := by
  unfold generate
  cases table.conflicts with
  | cons entry rest => simp
  | nil =>
    rw [and_iff_right rfl]
    refine except_bind_eq_ok_iff.trans (exists_congr fun kept => and_congr_right fun _ => ?_)
    exact except_mapError_eq_ok_iff

theorem writeAll_eq_ok_iff (wrapperOnly : c.testbench = none) :
    (c.writeAll disk settings s).failure = none ∧ (c.writeAll disk settings s).disk = after ↔
      Gen.write disk settings.board s .top settings.outputPath = .ok after := by
  unfold Gen.writeAll
  dsimp only
  cases Gen.write disk settings.board s .top settings.outputPath with
  | error failure => simp
  | ok written => simp [wrapperOnly]

theorem reads_of_mem_readBindings {text : List Char} {b : Binding} (member : b ∈ readBindings lang text) :
    lang.reads b.signal := by
  obtain ⟨line, -, read⟩ := List.mem_filterMap.mp member
  cases lang with
  | vhdl => exact (Option.filter_eq_some_iff.mp read).2
  | verilog => rfl

section Previous

variable {path : Path} {previous : List Binding}

/-- Every binding of the previous wrapper is one that is read back. -/
theorem reads_of_previousBindings (success : previousBindings lang disk path = .ok previous) :
    ∀ b ∈ previous, lang.reads b.signal := by
  unfold previousBindings at success
  split at success
  · split at success
    · obtain rfl := Except.ok.inj success
      exact fun b member => reads_of_mem_readBindings member
    · cases success
  · obtain rfl := Except.ok.inj success
    exact fun b member => absurd member List.not_mem_nil

theorem previousBindings_of_read (read : disk.read path = .ok file) :
    previousBindings lang disk path = .ok (readBindings lang (ofBytes file)) := by
  rw [previousBindings, if_pos (Disk.hasEntry_of_read read), read]

theorem preservedRegions_of_read (read : disk.read path = .ok file) :
    preservedRegions disk path = .ok (regions (ofBytes file)) := by
  rw [preservedRegions, if_pos (Disk.hasEntry_of_read read), read]

/-- What is preserved comes from the previous file, if there is one. -/
theorem of_preservedRegions (success : preservedRegions disk path = .ok kept) :
    kept = [] ∨ ∃ previous, disk.read path = .ok previous ∧ kept = regions (ofBytes previous) := by
  unfold preservedRegions at success
  split at success
  · split at success
    · next previous read => exact .inr ⟨previous, read, (Except.ok.inj success).symm⟩
    · cases success
  · exact .inl (Except.ok.inj success).symm

end Previous

/-- What a first run preserves can be written again and is not read as a binding. -/
theorem Regular.of_preserved (regular : Regular host settings s)
    (success : preservedRegions host.disk settings.outputPath = .ok kept) :
    Preservable kept ∧ Silent settings.language kept := by
  rcases of_preservedRegions success with rfl | ⟨previous, read, rfl⟩
  · exact ⟨fun _ member => absurd member List.not_mem_nil,
      fun _ member => absurd member List.not_mem_nil⟩
  · exact ⟨preservable_regions (regular.returns previous read), regular.silent previous read⟩

theorem Regular.distinctBits {fresh : Selection} (regular : Regular host settings s)
    (language : s.design.language = settings.language) (same : s.SameShape fresh) :
    fresh.DistinctBits := by
  have distinct := regular.distinct
  have throughNames (bits : List PortBit) : (bits.map fun bit => settings.language.fold bit.name) =
      (bits.map PortBit.unbind).map fun bit => settings.language.fold bit.name := by
    rw [List.map_map]
    rfl
  rw [throughNames, same.bits, ← throughNames] at distinct
  rw [Selection.DistinctBits, ← same.design, language]
  exact distinct

section Written

variable {path : Path}

/-- The wrapper that is written for a bound unit. -/
def topText (board : Board) (s : Selection) (kept : List String) : String :=
  render (Builtin.top.text s.design.language) (Gen.wrapper board s) kept

namespace WellNamed

variable (well : WellNamed lang board s) (preservable : Preservable kept)
  (read : disk.read path = .ok (topText board s kept).toUTF8.toList)

include well preservable read

/-- The wrapper of a bound unit records the bindings of its bits. -/
theorem previousBindings_eq (silent : Silent lang kept) :
    previousBindings lang disk path = .ok (s.bits.filterMap (PortBit.binding? lang)) := by
  have ascii : Text.IsAscii (topText board s kept).toList :=
    (well.named_wrapper.fillable .top).isAscii_render preservable
  have recorded : readBindings (Gen.wrapper board s).language (topText board s kept).toList = _ :=
    well.named_wrapper.readBindings_render well.unmarked_wrapper kept
  obtain rfl := well.design.language
  change readBindings s.design.language _ = readBindings s.design.language _ ++
    s.bits.filterMap (PortBit.binding? s.design.language) ++ readBindings s.design.language _ at recorded
  rw [silent.readBindings_getD, silent.readBindings_getD, List.nil_append, List.append_nil] at recorded
  rw [previousBindings_of_read read, ofBytes_toUTF8 ascii, recorded]

/-- What is preserved from the wrapper of a bound unit gives the same wrapper. -/
theorem exists_preserved : ∃ again, preservedRegions disk path = .ok again ∧
    topText board s again = topText board s kept := by
  have fillable := well.named_wrapper.fillable .top
  have ascii : Text.IsAscii (topText board s kept).toList := fillable.isAscii_render preservable
  refine ⟨_, preservedRegions_of_read read, ?_⟩
  rw [ofBytes_toUTF8 ascii]
  exact fillable.render_again preservable

end WellNamed

end Written

/-- What the next run finds in place of the previous wrapper: bindings that leave the bits as they are,
and regions that leave the wrapper as it is. -/
structure Settled (settings : Settings) (fresh s : Selection) (text : String) (disk : Disk) : Prop where
  bindings : ∃ previous, previousBindings settings.language disk settings.outputPath = .ok previous ∧
    (bindAll fresh settings.board previous settings.bindings).2 = s
  regions : ∃ kept, preservedRegions disk settings.outputPath = .ok kept ∧
    topText settings.board s kept = text

theorem Settled.of_alike {fresh : Selection} {text : String}
    (settled : Settled settings fresh s text disk) (alike : after.Alike disk) :
    Settled settings fresh s text after := by
  obtain ⟨⟨previous, recorded, bound⟩, kept, preserved, same⟩ := settled
  refine ⟨⟨previous, ?_, bound⟩, kept, ?_, same⟩
  · rw [previousBindings, alike.hasEntry, alike.read]
    exact recorded
  · rw [preservedRegions, alike.hasEntry, alike.read]
    exact preserved

/-- The wrapper of a bound unit leaves the next run with the same bindings and the same wrapper. -/
theorem settled_of_written {fresh : Selection} {previous : List Binding}
    (named : d.Named settings.language) (selected : Selected settings d fresh)
    (regular : Regular host settings s)
    (recorded : previousBindings settings.language disk settings.outputPath = .ok previous)
    (bound : (bindAll fresh settings.board previous settings.bindings).2 = s)
    (preservable : Preservable kept) (silent : Silent settings.language kept)
    (read : after.read settings.outputPath =
      .ok (topText settings.board s kept).toUTF8.toList) :
    Settled settings fresh s (topText settings.board s kept) after := by
  have well := wellNamed_of_bound named selected regular.board bound regular.ports
  have language : fresh.design.language = settings.language := by rw [selected.design, named.language]
  have shape : s.SameShape fresh := by
    rw [← bound, bindAll_snd selected.unbound]
    exact Selection.sameShape_rebindAll fresh _
  have distinct := regular.distinctBits well.design.language shape
  have targets : ∀ t ∈ settings.board.targets fresh.design.language, t.name ≠ "" := by
    rw [language]
    exact fun t member => (regular.board.isBitName member).nonempty
  have reads : ∀ b ∈ previous, fresh.design.language.reads b.signal := by
    rw [language]
    exact reads_of_previousBindings recorded
  have again := bindAll_recorded settings.bindings distinct selected.unbound targets reads
  rw [bound, language] at again
  exact ⟨⟨_, well.previousBindings_eq preservable read silent, again⟩,
    well.exists_preserved preservable read⟩

/-- What a successful run was made of. -/
theorem Generates.exists_replaced (first : Generates c host settings s file after)
    (wrapperOnly : c.testbench = none) (deterministic : Deterministic settings host.launch) :
    ∃ d, Analyzed host settings d host.disk ∧ (bindDesign settings host.disk d).result = .ok s ∧
      (s.table settings.board).conflicts = [] ∧
      ∃ kept, preservedRegions host.disk settings.outputPath = .ok kept ∧
        host.disk.replace settings.outputPath (topText settings.board s kept).toUTF8.toList =
          .ok after := by
  obtain ⟨d, analyzed, bound⟩ := resolve_eq_ok_iff.mp ⟨rfl, first.bound⟩
  have write := (writeAll_eq_ok_iff wrapperOnly).mp ⟨first.succeeded, first.left⟩
  have unchanged := analyzed.disk_eq deterministic
  rw [unchanged] at analyzed bound write
  exact ⟨d, analyzed, bound, generate_eq_ok_iff.mp (except_mapError_eq_ok_iff.mp write)⟩

/-- On a disk without links, a run leaves the sources as they are. -/
theorem Generates.sameSources (first : Generates c host settings s file after)
    (wrapperOnly : c.testbench = none) (deterministic : Deterministic settings host.launch)
    (plain : host.disk.Plain) : SameSources settings host.disk after := by
  obtain ⟨d, ⟨paths, listed, -, -⟩, -, -, kept, -, replaced⟩ :=
    first.exists_replaced wrapperOnly deterministic
  obtain ⟨sources, listed, -⟩ := noted_bind_eq_ok_iff.mp listed
  exact sameSources_of_replace plain (except_mapError_eq_ok_iff.mp listed) replaced

/-- A run after a successful one, with the same settings and unchanged sources, binds the same signals
and writes the same file. -/
theorem generates_again (wrapperOnly : c.testbench = none)
    (first : Generates c host settings s file after) (regular : Regular host settings s)
    (deterministic : Deterministic settings host.launch)
    (same : SameSources settings host.disk after) :
    ∃ last, Generates c { host with disk := after } settings s file last := by
  obtain ⟨d, analyzed, bound, free, kept, preserved, replaced⟩ :=
    first.exists_replaced wrapperOnly deterministic
  obtain ⟨fresh, previous, chosen, recorded, bindings⟩ := bindDesign_eq_ok_iff.mp bound
  obtain ⟨origin, last, rewritten, alike⟩ := Disk.replace_again replaced first.written
  have settled : Settled settings fresh s (topText settings.board s kept) after := by
    rcases origin with same | unchangedDisk
    · obtain ⟨preservable, silent⟩ := regular.of_preserved preserved
      have read := first.written
      rw [same] at read
      exact settled_of_written analyzed.named (selected_of_selectTop chosen) regular recorded bindings
        preservable silent read
    · exact Settled.of_alike ⟨⟨previous, recorded, bindings⟩, kept, preserved, rfl⟩ unchangedDisk
  obtain ⟨⟨previousAgain, recordedAgain, bindingsAgain⟩, keptAgain, preservedAgain, sameText⟩ := settled
  have boundAgain := bindDesign_eq_ok_iff.mpr
    ⟨fresh, previousAgain, chosen, recordedAgain, bindingsAgain⟩
  obtain ⟨left, resolved⟩ := resolve_eq_ok_iff.mpr ⟨d, analyzed.again deterministic same, boundAgain⟩
  have writeAgain : Gen.write after settings.board s .top settings.outputPath = .ok last := by
    refine except_mapError_eq_ok_iff.mpr (generate_eq_ok_iff.mpr ⟨free, keptAgain, preservedAgain, ?_⟩)
    change after.replace settings.outputPath (topText settings.board s keptAgain).toUTF8.toList = .ok last
    rw [sameText]
    exact rewritten
  obtain ⟨succeeded, disk⟩ := (writeAll_eq_ok_iff wrapperOnly).mpr writeAgain
  refine ⟨last, resolved, ?_, ?_, (alike.read _).trans first.written⟩
  · rw [left]
    exact succeeded
  · rw [left]
    exact disk

/-- A unit with one output. -/
def blinkySource : String := "entity Blinky is\n    port (led : out std_logic);\nend Blinky;\n"

/-- A previous wrapper that binds the output, with a line of its owner. -/
def blinkyFile : String :=
  "        led => LD );\n-- vvv user statements vvv\n    assert true;\n-- ^^^ user statements ^^^\n"

/-- A host with the unit and its previous wrapper. -/
def blinkyHost : Host where
  disk.nodes := [(["blinky.vhd"], .file blinkySource.toUTF8.toList false),
    (["dr_top.vhdl"], .file blinkyFile.toUTF8.toList false)]
  launch := fun _ _ _ _ => .notFound

/-- Settings without configured bindings, for a board with one signal. -/
def blinkySettings : Settings where
  board := { name := "lamp", signals := [{ name := "LD", direction := .output, idle := some .low }] }

/-- What the source declares. -/
def blinkyDeclarations : Declarations where
  units := [⟨"blinky", "Blinky", "blinky.vhd"⟩]
  ports := [("blinky", ⟨"led", "led", .output, none⟩)]

/-- The design of the source. -/
def blinkyDesign : Design where
  language := .vhdl
  graph.labels := [⟨⟨"blinky", "Blinky", "blinky.vhd"⟩, [⟨"led", "led", .output, none⟩]⟩]
  items := [⟨0, "blinky", "blinky.vhd"⟩]
  suggested := "blinky"

theorem read_blinky : blinkyHost.disk.read ⟨"./blinky.vhd"⟩ = .ok blinkySource.toUTF8.toList ∧
    blinkyHost.disk.read blinkySettings.outputPath = .ok blinkyFile.toUTF8.toList := by
  decide +kernel

theorem analyzed_blinky : Analyzed blinkyHost blinkySettings blinkyDesign blinkyHost.disk := by
  have found : blinkyHost.disk.find blinkySettings.directory = .ok (Place.here, .directory) := by
    decide +kernel
  have files : blinkyHost.disk.filesAt Place.here = ["blinky.vhd", "dr_top.vhdl"] := by
    refine (List.mergeSort_of_pairwise ?_).trans ?_ <;> decide +kernel
  have sources : (blinkySettings.sources blinkyHost.disk).result = .ok [⟨"./blinky.vhd"⟩] := by
    rw [Settings.sources_eq found, files]
    decide +kernel
  have scanned : (readVhdl blinkyHost.disk ⟨"./blinky.vhd"⟩).result = .ok blinkyDeclarations := by
    have ascii : Text.IsAscii blinkySource.toList := by
      rw [blinkySource, String.toList_ofList]
      decide +kernel
    simp only [readVhdl, read_blinky.1, ofBytes_toUTF8 ascii, String.ofList_toList]
    rw [Vhdl.scan, blinkySource, String.toList_ofList]
    decide +kernel
  refine ⟨[⟨"./blinky.vhd"⟩], ?_, rfl, Design.ofSources_eq_ok_iff.mpr ⟨[blinkyDeclarations], ?_, ?_⟩⟩
  · exact noted_bind_eq_ok_iff.mpr ⟨_, except_mapError_eq_ok_iff.mpr sources, rfl⟩
  · simp only [Design.gather, Design.failure?, List.filterMap_cons, List.filterMap_nil, scanned,
      Except.toOption]
  · change Design.resolve .vhdl _ = _
    cbv

/-- The design with its output bound. -/
def boundBlinky : Selection where
  design := blinkyDesign
  top := "blinky"
  ports := [⟨"led", "led", .output, none⟩]
  bits := [⟨"led", .output, "LD"⟩]
  items := [{ level := 0, name := "blinky", file := "blinky.vhd", isTop := true }]

/-- The wrapper that is generated for the unit. -/
def blinkyText : String := topText blinkySettings.board boundBlinky ["    assert true;\n"]

/-- The disk with the wrapper that is generated for the unit. -/
def blinkyAfter : Disk :=
  blinkyHost.disk.put ["dr_top.vhdl"] (.file blinkyText.toUTF8.toList false)

/-- A run without a testbench. -/
def plainRun : Gen where
  directory := none
  language := none
  top := none
  testbench := none
  force := false

theorem regions_blinky : ofBytes blinkyFile.toUTF8.toList = blinkyFile.toList ∧
    regions blinkyFile.toList = ["    assert true;\n"] := by
  refine ⟨ofBytes_toUTF8 ?_, ?_⟩ <;> rw [blinkyFile, String.toList_ofList] <;> decide +kernel

theorem generates_blinky :
    Generates plainRun blinkyHost blinkySettings boundBlinky blinkyText.toUTF8.toList blinkyAfter := by
  have recorded : previousBindings .vhdl blinkyHost.disk blinkySettings.outputPath =
      .ok [⟨"led", "LD"⟩] := by
    rw [previousBindings_of_read read_blinky.2, regions_blinky.1, blinkyFile, String.toList_ofList]
    decide +kernel
  have preserved : preservedRegions blinkyHost.disk blinkySettings.outputPath =
      .ok ["    assert true;\n"] := by
    rw [preservedRegions_of_read read_blinky.2, regions_blinky.1, regions_blinky.2]
  have bindings : (bindAll (.initial blinkyDesign) blinkySettings.board [⟨"led", "LD"⟩] []).2 =
      boundBlinky := by
    cbv
  have bound := bindDesign_eq_ok_iff.mpr ⟨_, _, rfl, recorded, bindings⟩
  obtain ⟨left, resolved⟩ := resolve_eq_ok_iff.mpr ⟨_, analyzed_blinky, bound⟩
  have free : (boundBlinky.table blinkySettings.board).conflicts = [] := by decide +kernel
  have replaced : blinkyHost.disk.replace blinkySettings.outputPath blinkyText.toUTF8.toList =
      .ok blinkyAfter := by
    have reached : blinkyHost.disk.destination blinkySettings.outputPath = .ok ["dr_top.vhdl"] := by
      decide +kernel
    have inert : blinkyHost.disk.isExecutableAt ["dr_top.vhdl"] = false := by decide +kernel
    exact except_map_eq_ok_iff.mpr ⟨_, reached, by rw [inert, blinkyAfter]⟩
  have written : blinkyAfter.read blinkySettings.outputPath = .ok blinkyText.toUTF8.toList := by
    have filed : blinkyAfter.at? ["dr_top.vhdl"] = some (.file blinkyText.toUTF8.toList false) := by
      rw [blinkyAfter, Disk.at?_put_of_free (by decide +kernel), if_pos rfl]
    have starts : Disk.pathFault? blinkySettings.outputPath = none ∧
        blinkyAfter.origin blinkySettings.outputPath blinkySettings.outputPath.parts =
          ([], ["dr_top.vhdl"]) ∧
        Disk.wantsDirectory blinkySettings.outputPath = false := by
      decide +kernel
    refine Disk.read_eq_ok_iff.mpr ⟨["dr_top.vhdl"], false, Disk.find_eq_ok_iff.mpr
      ⟨starts.1, ?_, filed, .inr ⟨_, _, rfl, by simp [starts.2.2]⟩⟩⟩
    rw [starts.2.1]
    exact Disk.follow_file_eq (by decide) (by decide +kernel) filed
  have write : Gen.write blinkyHost.disk blinkySettings.board boundBlinky .top
      blinkySettings.outputPath = .ok blinkyAfter :=
    except_mapError_eq_ok_iff.mpr (generate_eq_ok_iff.mpr ⟨free, _, preserved, replaced⟩)
  have wrapperOnly : plainRun.testbench = none := rfl
  obtain ⟨succeeded, after⟩ := (writeAll_eq_ok_iff wrapperOnly).mpr write
  refine ⟨resolved, ?_, ?_, written⟩
  · rw [left]
    exact succeeded
  · rw [left]
    exact after

theorem regular_blinky : Regular blinkyHost blinkySettings boundBlinky := by
  have previous {bytes : List UInt8}
      (read : blinkyHost.disk.read blinkySettings.outputPath = .ok bytes) :
      ofBytes bytes = blinkyFile.toList := by
    rw [← Except.ok.inj (read_blinky.2.symm.trans read)]
    exact regions_blinky.1
  have ports : boundBlinky.ports = [⟨"led", "led", .output, none⟩] := by cbv
  constructor
  case ports =>
    rw [ports]
    simp only [List.forall_mem_singleton]
    exact ⟨by decide, by decide⟩
  case distinct => exact List.nodup_singleton _
  case board =>
    refine ⟨?_, fun verilog => by cases verilog⟩
    simp only [blinkySettings, List.forall_mem_singleton]
    exact ⟨by decide, by decide⟩
  case returns =>
    intro bytes read adjacent
    rw [previous read] at adjacent
    have absent : '\r' ∉ blinkyFile.toList := by
      rw [blinkyFile, String.toList_ofList]
      decide +kernel
    exact absent (adjacent.subset List.mem_cons_self)
  case silent =>
    intro bytes read
    rw [previous read, regions_blinky.2]
    decide +kernel

theorem plain_blinky : blinkyHost.disk.Plain := by
  constructor
  case unlinked => simp [blinkyHost]
  case system =>
    intro lang
    cases lang <;> decide +kernel
  case named =>
    simp only [blinkyHost, List.forall_mem_cons]
    decide +kernel

/-- The wrapper is generated with what the previous one binds and what its owner wrote there, and a
second run leaves it so. -/
theorem generates_blinky_again :
    Generates plainRun blinkyHost blinkySettings boundBlinky blinkyText.toUTF8.toList blinkyAfter ∧
    ∃ last, Generates plainRun { blinkyHost with disk := blinkyAfter } blinkySettings boundBlinky
      blinkyText.toUTF8.toList last := by
  have deterministic : Deterministic blinkySettings blinkyHost.launch :=
    ⟨fun _ chosen => (by cases chosen), fun _ chosen => by cases chosen⟩
  have first := generates_blinky
  exact ⟨first, generates_again rfl first regular_blinky deterministic
    (first.sameSources rfl deterministic plain_blinky)⟩

end BoardBind.Command
