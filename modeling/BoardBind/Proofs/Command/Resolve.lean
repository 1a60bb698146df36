import BoardBind.Proofs.Command.Binding
import BoardBind.Proofs.Design.Names

/-! # How a design is selected and bound

Resolving analyses the listed source files, selects a unit of the design with all its bits free, and
binds these as the previous wrapper records and as the configuration says. If the tool reports the same
for the same sources and leaves the disk alone, then disks on which the same source files are listed and
read alike make the same design.
-/

namespace BoardBind.Command

variable {host : Host} {settings : Settings} {s fresh : Selection} {d : Design} {disk : Disk}
  {previous : List Binding}

/-- The sources of a host make a design, and the tool leaves a disk behind. -/
def Analyzed (host : Host) (settings : Settings) (d : Design) (disk : Disk) : Prop :=
  ∃ paths, (sourcesOf host settings).result = .ok paths ∧
    (Design.read settings.language settings.tool host.launch host.disk paths).1 = disk ∧
    (Design.read settings.language settings.tool host.launch host.disk paths).2.result = .ok d

/-- A selected unit of a design, with all its bits free. -/
structure Selected (settings : Settings) (d : Design) (s : Selection) : Prop where
  chosen : selectTop settings (.initial d) = .ok s
  design : s.design = d
  bits : s.bits = Selection.freshBits d.language s.ports
  top : (∃ r ∈ d.graph.labels, r.unit.name = s.top) ∨ s = .initial d

theorem selected_of_selectTop (success : selectTop settings (.initial d) = .ok s) :
    Selected settings d s := by
  have chosen := success
  unfold selectTop at success
  split at success
  · obtain rfl := Except.ok.inj success
    exact ⟨chosen, Selection.design_initial d, Selection.bits_initial d, .inr rfl⟩
  · next name _ =>
    rw [Selection.setTop_eq, Selection.design_initial] at success
    cases known : d.unit? name with
    | none =>
      rw [known] at success
      cases success
    | some r =>
      rw [known] at success
      obtain rfl := Except.ok.inj success
      have named := List.find?_some known
      refine ⟨chosen, Selection.design_initial d, ?_, .inl ⟨r, List.mem_of_find?_eq_some known, ?_⟩⟩
      · exact (Selection.bits_select_nil _ _ _).trans (by rw [Selection.design_initial]; rfl)
      · exact of_decide_eq_true named

theorem Selected.unbound (selected : Selected settings d s) : Unbound s := by
  intro bit member
  rw [selected.bits] at member
  simpa [PortBit.isBound] using Design.isBound_of_mem_freshBits member

theorem bindDesign_eq_ok_iff : (bindDesign settings disk d).result = .ok s ↔
    ∃ fresh previous, selectTop settings (.initial d) = .ok fresh ∧
      previousBindings settings.language disk settings.outputPath = .ok previous ∧
      (bindAll fresh settings.board previous settings.bindings).2 = s := by
  constructor
  · intro success
    obtain ⟨fresh, chosen, success⟩ := noted_bind_eq_ok_iff.mp success
    obtain ⟨previous, recorded, success⟩ := noted_bind_eq_ok_iff.mp success
    obtain ⟨_, _, success⟩ := noted_bind_eq_ok_iff.mp success
    exact ⟨fresh, previous, chosen, except_mapError_eq_ok_iff.mp recorded, Except.ok.inj success⟩
  · rintro ⟨fresh, previous, chosen, recorded, rfl⟩
    refine noted_bind_eq_ok_iff.mpr ⟨fresh, chosen, noted_bind_eq_ok_iff.mpr ⟨previous, ?_, ?_⟩⟩
    · exact except_mapError_eq_ok_iff.mpr recorded
    · exact noted_bind_eq_ok_iff.mpr ⟨(), rfl, rfl⟩

theorem resolve_eq_ok_iff :
    (resolve host settings).1 = disk ∧ (resolve host settings).2.result = .ok s ↔
      ∃ d, Analyzed host settings d disk ∧ (bindDesign settings disk d).result = .ok s := by
  cases listed : (sourcesOf host settings).result with
  | error failure => simp [resolve, Analyzed, listed]
  | ok paths =>
    have written : resolve host settings =
        ((Design.read settings.language settings.tool host.launch host.disk paths).1, do
          Noted.say (sourcesOf host settings).notes
          let design ← Noted.mapError Failure.analysis
            (Design.read settings.language settings.tool host.launch host.disk paths).2
          bindDesign settings
            (Design.read settings.language settings.tool host.launch host.disk paths).1 design) := by
      simp only [resolve, listed]
    rw [written]
    constructor
    · rintro ⟨rfl, success⟩
      obtain ⟨_, _, success⟩ := noted_bind_eq_ok_iff.mp success
      obtain ⟨d, read, bound⟩ := noted_bind_eq_ok_iff.mp success
      exact ⟨d, ⟨paths, listed, rfl, except_mapError_eq_ok_iff.mp read⟩, bound⟩
    · rintro ⟨d, ⟨others, same, rfl, read⟩, bound⟩
      obtain rfl := Except.ok.inj (listed.symm.trans same)
      exact ⟨rfl, noted_bind_eq_ok_iff.mpr ⟨(), rfl, noted_bind_eq_ok_iff.mpr
        ⟨d, except_mapError_eq_ok_iff.mpr read, bound⟩⟩⟩

end BoardBind.Command

/-! ## The design of unchanged sources -/

namespace BoardBind

variable {host : Host} {settings : Settings} {d : Design} {disk before after : Disk} {paths : List Path}
  {path : Path} {launch : Launcher}

/-- The source files that are read from a disk. -/
def Settings.sourceList (settings : Settings) (disk : Disk) : List Path :=
  (settings.sources disk).result.toOption.getD []

/-- The same source files are listed on two disks, and each of them is read alike. -/
structure SameSources (settings : Settings) (before after : Disk) : Prop where
  listed : (settings.sources after).result = (settings.sources before).result
  contents : ∀ path ∈ settings.sourceList before, after.read path = before.read path

/-- What the tool reports for a source file is determined by the source files, and the tool changes no
file. -/
structure Deterministic (settings : Settings) (launch : Launcher) : Prop where
  unchanging : ∀ tool ∈ settings.tool, ∀ disk, ∀ path ∈ settings.sourceList disk,
    (tool.run launch disk path).1 = disk
  determined : ∀ tool ∈ settings.tool, ∀ before after, SameSources settings before after →
    ∀ path ∈ settings.sourceList before,
      (tool.run launch after path).2.result = (tool.run launch before path).2.result

namespace Deterministic

theorem readSource_fst (deterministic : Deterministic settings launch)
    (listed : path ∈ settings.sourceList disk) :
    (readSource settings.language settings.tool launch disk path).1 = disk := by
  unfold readSource
  split
  · rfl
  · rfl
  · next tool _ chosen => exact deterministic.unchanging tool chosen disk path listed

theorem readSource_snd (deterministic : Deterministic settings launch)
    (same : SameSources settings before after) (listed : path ∈ settings.sourceList before) :
    (readSource settings.language settings.tool launch after path).2.result =
      (readSource settings.language settings.tool launch before path).2.result := by
  unfold readSource
  split
  · rw [readVhdl, readVhdl, same.contents path listed]
  · rfl
  · next tool _ chosen =>
    exact noted_bind_congr (deterministic.determined tool chosen before after same path listed)

theorem readSources_fst (deterministic : Deterministic settings launch)
    (listed : ∀ path ∈ paths, path ∈ settings.sourceList disk) :
    (readSources settings.language settings.tool launch disk paths).1 = disk := by
  induction paths with
  | nil => rfl
  | cons path rest ih =>
    rw [List.forall_mem_cons] at listed
    rw [readSources]
    dsimp only
    rw [deterministic.readSource_fst listed.1, ih listed.2]

theorem readSources_snd (deterministic : Deterministic settings launch)
    (same : SameSources settings before after)
    (inBefore : ∀ path ∈ paths, path ∈ settings.sourceList before)
    (inAfter : ∀ path ∈ paths, path ∈ settings.sourceList after) :
    (readSources settings.language settings.tool launch after paths).2.map (·.result) =
      (readSources settings.language settings.tool launch before paths).2.map (·.result) := by
  induction paths with
  | nil => rfl
  | cons path rest ih =>
    rw [List.forall_mem_cons] at inBefore inAfter
    rw [readSources, readSources]
    dsimp only
    rw [deterministic.readSource_fst inBefore.1, deterministic.readSource_fst inAfter.1, List.map_cons,
      List.map_cons, deterministic.readSource_snd same inBefore.1, ih inBefore.2 inAfter.2]

end Deterministic

theorem Design.gather_congr {first second : List (Noted SourceError Declarations)}
    (same : first.map (·.result) = second.map (·.result)) : gather first = gather second := by
  have failures (sources : List (Noted SourceError Declarations)) : sources.filterMap failure? =
      (sources.map (·.result)).filterMap fun result => failure? ⟨[], result⟩ := by
    rw [List.filterMap_map]
    rfl
  have files (sources : List (Noted SourceError Declarations)) :
      (sources.filterMap fun source => source.result.toOption) =
        (sources.map (·.result)).filterMap Except.toOption := by
    rw [List.filterMap_map]
    rfl
  rw [gather, gather, failures, failures, files, files, same]

namespace Command

theorem sourcesOf_congr (same : SameSources settings host.disk after) :
    (sourcesOf { host with disk := after } settings).result = (sourcesOf host settings).result := by
  refine noted_bind_congr ?_
  exact congrArg (Except.mapError _) same.listed

theorem sourceList_of_sourcesOf (success : (sourcesOf host settings).result = .ok paths) :
    settings.sourceList host.disk = paths := by
  obtain ⟨sources, listed, success⟩ := noted_bind_eq_ok_iff.mp success
  have listed := except_mapError_eq_ok_iff.mp listed
  rw [Settings.sourceList, listed]
  dsimp only at success
  by_cases none_ : sources = []
  · rw [if_pos none_] at success
    cases success
  · rw [if_neg none_] at success
    split at success
    · cases success
    · obtain ⟨_, _, success⟩ := noted_bind_eq_ok_iff.mp success
      exact Except.ok.inj success

theorem Analyzed.named (analyzed : Analyzed host settings d disk) : d.Named settings.language := by
  obtain ⟨paths, -, -, read⟩ := analyzed
  exact Design.named_read read

theorem Analyzed.disk_eq (analyzed : Analyzed host settings d disk)
    (deterministic : Deterministic settings host.launch) : disk = host.disk := by
  obtain ⟨paths, listed, left, -⟩ := analyzed
  refine left.symm.trans (deterministic.readSources_fst fun path member => ?_)
  rw [sourceList_of_sourcesOf listed]
  exact member

/-- Unchanged sources make the same design again. -/
theorem Analyzed.again (analyzed : Analyzed host settings d disk)
    (deterministic : Deterministic settings host.launch)
    (same : SameSources settings host.disk after) :
    Analyzed { host with disk := after } settings d after := by
  obtain ⟨paths, listed, -, read⟩ := analyzed
  have again := (sourcesOf_congr same).trans listed
  have inBefore : ∀ path ∈ paths, path ∈ settings.sourceList host.disk := fun path member =>
    (sourceList_of_sourcesOf listed).symm ▸ member
  have inAfter : ∀ path ∈ paths, path ∈ settings.sourceList after := fun path member =>
    (sourceList_of_sourcesOf again).symm ▸ member
  have sources := deterministic.readSources_snd same inBefore inAfter
  refine ⟨paths, again, deterministic.readSources_fst inAfter, ?_⟩
  obtain ⟨files, gathered, resolved⟩ := Design.ofSources_eq_ok_iff.mp read
  exact Design.ofSources_eq_ok_iff.mpr ⟨files, (Design.gather_congr sources).trans gathered, resolved⟩

end Command

end BoardBind
