import BoardBind.Proofs.Design.Resolution
import BoardBind.Proofs.Source.Names

/-! # The names of a design's units

The units that a design registers were declared in its source files, so they are spelled with the
characters of a name, and the suggested top is one of them.
-/

namespace BoardBind

variable {lang : Language} {tool : Option AnalysisTool} {launch : Launcher} {disk : Disk}
  {paths : List Path} {sources : List (Noted SourceError Declarations)} {files : List Declarations}
  {d : Design} {s : String}

theorem Language.allIn_fold (named : AllIn lang.isNameChar s) : AllIn lang.isNameChar (lang.fold s) := by
  cases lang with
  | verilog => exact named
  | vhdl =>
    intro c member
    rw [Language.fold, String.toLower, String.toList_map] at member
    obtain ⟨original, present, rfl⟩ := List.mem_map.mp member
    have inName := named original present
    have small := (isDeclarationChar_iff.mp (isDeclarationChar_of_isBindingChar
      (isBindingChar_of_isNameChar inName))).2.1
    exact Text.forall_of_toNat_lt
      (fun c => Language.vhdl.isNameChar c → Language.vhdl.isNameChar c.toLower)
      (by decide +kernel) small inName

namespace Design

/-- The units of a design are spelled with the characters of a name, and one of them is suggested. -/
structure Named (lang : Language) (d : Design) : Prop where
  language : d.language = lang
  units : NamedUnits lang (d.graph.labels.map (·.unit))
  suggested : ∃ r ∈ d.graph.labels, r.unit.name = d.suggested

theorem ofSources_eq_ok_iff : (ofSources lang sources).result = .ok d ↔
    ∃ files, gather sources = .ok files ∧ resolve lang files = .ok d := by
  constructor
  · intro success
    obtain ⟨_, _, success⟩ := noted_bind_eq_ok_iff.mp success
    obtain ⟨files, gathered, success⟩ := noted_bind_eq_ok_iff.mp success
    obtain ⟨_, _, resolved⟩ := noted_bind_eq_ok_iff.mp success
    exact ⟨files, gathered, resolved⟩
  · rintro ⟨files, gathered, resolved⟩
    exact noted_bind_eq_ok_iff.mpr ⟨(), rfl, noted_bind_eq_ok_iff.mpr
      ⟨files, gathered, noted_bind_eq_ok_iff.mpr ⟨(), rfl, resolved⟩⟩⟩

/-- The files of a design are those that were read, all of them. -/
theorem of_gather (success : gather sources = .ok files) :
    ∀ file ∈ files, ∃ source ∈ sources, source.result = .ok file := by
  intro file member
  unfold gather at success
  split at success
  · obtain rfl := Except.ok.inj success
    obtain ⟨source, present, read⟩ := List.mem_filterMap.mp member
    cases result : source.result with
    | error reason => rw [result] at read; cases read
    | ok found =>
      rw [result] at read
      exact ⟨source, present, result.trans (congrArg Except.ok (Option.some.inj read))⟩
  · cases success
  · cases success

theorem exists_readSource : ∀ source ∈ (readSources lang tool launch disk paths).2,
    ∃ before path, source = (readSource lang tool launch before path).2 := by
  induction paths generalizing disk with
  | nil => exact fun _ member => absurd member List.not_mem_nil
  | cons path rest ih => exact List.forall_mem_cons.mpr ⟨⟨disk, path, rfl⟩, ih⟩

theorem named_resolve (named : ∀ file ∈ files, NamedUnits lang file.units)
    (success : resolve lang files = .ok d) : d.Named lang := by
  obtain ⟨trees, represents, -, -, shape⟩ := resolve_eq_ok success
  constructor
  case language => rw [shape]
  case units =>
    intro u member
    rw [represents.labels] at member
    obtain ⟨r, inRegistry, rfl⟩ := List.mem_map.mp member
    obtain ⟨file, inFiles, declared⟩ := List.mem_flatMap.mp (List.mem_filter.mp inRegistry).1
    obtain ⟨u, inFile, rfl⟩ := List.mem_map.mp declared
    exact named file inFiles u inFile
  case suggested =>
    rw [represents.labels]
    exact exists_suggested success

/-- The unit that is selected first is registered: its name is folded, so it is found. -/
theorem Named.exists_top (named : d.Named lang) :
    ∃ r ∈ d.graph.labels, r.unit.name = (Selection.initial d).top := by
  obtain ⟨r, member, name⟩ := named.suggested
  have folded : d.language.fold d.suggested = d.suggested := by
    rw [← name, (named.units r.unit (List.mem_map_of_mem member)).1, named.language,
      Language.fold_fold]
  cases found : d.unit? d.suggested with
  | none =>
    rw [unit?, folded] at found
    exact absurd name (by simpa using List.find?_eq_none.mp found r member)
  | some first =>
    rw [Selection.initial_eq, found]
    exact ⟨r, member, name.trans folded.symm⟩

/-- A design that is read is that of files whose units are spelled with the characters of a name. -/
theorem exists_files_of_read (success : (read lang tool launch disk paths).2.result = .ok d) :
    ∃ files, (∀ file ∈ files, NamedUnits lang file.units) ∧ resolve lang files = .ok d := by
  obtain ⟨files, gathered, resolved⟩ := ofSources_eq_ok_iff.mp success
  refine ⟨files, fun file member => ?_, resolved⟩
  obtain ⟨source, present, read⟩ := of_gather gathered file member
  obtain ⟨before, path, rfl⟩ := exists_readSource source present
  exact namedUnits_readSource read

/-- Whatever the bytes of its source files and the listings of the tool are, the units of a design are
spelled with the characters of a name. -/
theorem named_read (success : (read lang tool launch disk paths).2.result = .ok d) : d.Named lang := by
  obtain ⟨files, named, resolved⟩ := exists_files_of_read success
  exact named_resolve named resolved

end Design

end BoardBind
