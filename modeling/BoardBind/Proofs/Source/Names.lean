import BoardBind.Proofs.Except
import BoardBind.Proofs.Text.Encoding
import BoardBind.Proofs.Text.Lines
import BoardBind.Proofs.Text.Match
import BoardBind.Proofs.Wrapper.Name
import BoardBind.Source
import Mathlib

/-! # The names of declared units

A unit is known by the folded form of its spelling, and folding a name again leaves it as it is.
Whatever the bytes of a source file are, a unit that is declared in it is spelled with the characters
of a name: a word of a text of bytes is written in ASCII, and a listing quotes identifiers only.
-/

namespace BoardBind

open Text

variable {lang : Language} {found : Declarations} {line text rest name : List Char} {file : String}

theorem toLower_toLower (c : Char) : c.toLower.toLower = c.toLower := by
  by_cases upper : c.val ≥ 'A'.val ∧ c.val ≤ 'Z'.val
  · have small : c.toNat < 128 :=
      Nat.lt_of_le_of_lt (UInt32.le_iff_toNat_le.mp upper.2) (by decide)
    exact forall_of_toNat_lt (fun c => c.toLower.toLower = c.toLower) (by decide +kernel) small
  · have same : c.toLower = c := dif_neg upper
    rw [same, same]

@[simp] theorem Language.fold_fold (lang : Language) (name : String) :
    lang.fold (lang.fold name) = lang.fold name := by
  cases lang with
  | verilog => rfl
  | vhdl =>
    refine String.toList_inj.mp ?_
    simp only [fold, String.toLower, String.toList_map, List.map_map]
    exact List.map_congr_left fun c _ => toLower_toLower c

/-- Every unit is known by the folded form of its spelling. -/
def Declarations.DeclaredIn (lang : Language) (d : Declarations) : Prop :=
  ∀ u ∈ d.units, u.name = lang.fold u.spelling

instance {d : Declarations} : Decidable (d.DeclaredIn lang) :=
  inferInstanceAs (Decidable (∀ u ∈ d.units, u.name = lang.fold u.spelling))

/-- Every unit is spelled with the characters of a name, which is folded to its name. -/
def NamedUnits (lang : Language) (units : List DesignUnit) : Prop :=
  ∀ u ∈ units, u.name = lang.fold u.spelling ∧ AllIn lang.isNameChar u.spelling

theorem NamedUnits.nil : NamedUnits lang [] :=
  fun _ member => absurd member List.not_mem_nil

/-- Declaring a unit of a name keeps all units spelled so. -/
theorem NamedUnits.addUnit (named : NamedUnits lang found.units) (chars : ∀ c ∈ name, lang.isNameChar c) :
    NamedUnits lang (found.addUnit (.declare lang (String.ofList name) file)).units := by
  intro u member
  rcases List.mem_append.mp member with before | added
  · exact named u before
  · obtain rfl := List.mem_singleton.mp added
    refine ⟨rfl, ?_⟩
    rw [DesignUnit.declare, AllIn, String.toList_ofList]
    exact chars

@[simp] theorem Declarations.units_addPort (d : Declarations) (unit : String) (port : Port) :
    (d.addPort unit port).units = d.units := by
  unfold addPort
  split <;> rfl

@[simp] theorem Declarations.units_addInstance (d : Declarations) (i : Instance) :
    (d.addInstance i).units = d.units := by
  unfold addInstance
  split <;> rfl

namespace Vhdl

/-- A text of bytes has word characters of ASCII only. -/
theorem isNameChar_of_isWordChar {c : Char} (byte : c.toNat < 256) (word : isWordChar c) :
    Language.vhdl.isNameChar c :=
  forall_of_toNat_lt (fun c => isWordChar c → Language.vhdl.isNameChar c) (by decide +kernel) byte word

theorem caseless_suffix {expected : List Char} (success : caseless expected text = some rest) :
    rest <:+ text := by
  induction expected generalizing text with
  | nil => exact Option.some.inj success ▸ List.suffix_rfl
  | cons e expected ih =>
    cases text with
    | nil => cases success
    | cons c text =>
      rw [caseless] at success
      split at success
      · exact (ih success).trans (List.suffix_cons c text)
      · cases success

theorem blanks_suffix (success : blanks text = some rest) : rest <:+ text := by
  cases text with
  | nil => cases success
  | cons c text =>
    rw [blanks] at success
    split at success
    · obtain rfl := Option.some.inj success
      exact (List.dropWhile_suffix _).trans (List.suffix_cons c text)
    · cases success

theorem before_isPrefix (mark text : List Char) : before mark text <+: text := by
  induction text with
  | nil => exact List.nil_prefix
  | cons c text ih =>
    rw [before]
    split
    · exact List.nil_prefix
    · exact List.cons_prefix_cons.mpr ⟨rfl, ih⟩

/-- The name of a declared entity is a word on its line. -/
theorem of_mem_entityName? (found : entityName? line = some name) :
    ∀ c ∈ name, isWordChar c ∧ c ∈ line := by
  obtain ⟨⟨other, last⟩, searched, rfl⟩ := Option.map_eq_some_iff.mp found
  obtain ⟨front, behind, rfl, accepted⟩ := exists_of_search searched
  obtain ⟨first, keyword, accepted⟩ := Option.bind_eq_some_iff.mp accepted
  obtain ⟨second, blank, accepted⟩ := Option.bind_eq_some_iff.mp accepted
  obtain ⟨⟨taken, third⟩, word, accepted⟩ := Option.bind_eq_some_iff.mp accepted
  obtain ⟨fourth, nextBlank, accepted⟩ := Option.bind_eq_some_iff.mp accepted
  obtain ⟨fifth, closing, accepted⟩ := Option.bind_eq_some_iff.mp accepted
  obtain ⟨rfl, rfl⟩ := Prod.mk.inj (Option.some.inj accepted)
  obtain ⟨rfl, -, inside, -⟩ := run_eq_some_iff.mp word
  intro c member
  have inSecond : c ∈ taken ++ third := List.mem_append_left _ member
  exact ⟨inside c member, List.mem_append_right _
    ((caseless_suffix keyword).subset ((blanks_suffix blank).subset inSecond))⟩

namespace Scan

theorem units_openEntity (file : String) (line : List Char) (s : Scan) :
    (s.openEntity file line).found.units = s.found.units ∨ ∃ name, entityName? line = some name ∧
      (s.openEntity file line).found = s.found.addUnit (.declare .vhdl (String.ofList name) file) := by
  unfold openEntity
  cases entityName? line with
  | none => exact .inl rfl
  | some name => exact .inr ⟨name, rfl, rfl⟩

theorem units_addPorts (entity : String) (decl : PortLine) (found : Declarations) :
    (addPorts entity decl found).units = found.units :=
  List.foldlRecOn (motive := fun later : Declarations => later.units = found.units) decl.names _ rfl
    fun _ same _ _ => (Declarations.units_addPort ..).trans same

theorem units_readEntity (line : List Char) (s : Scan) :
    (s.readEntity line).found.units = s.found.units := by
  unfold readEntity
  split
  · split
    · rfl
    · split
      · exact units_addPorts ..
      · rfl
  · rfl

theorem units_openArchitecture (line : List Char) (s : Scan) :
    (s.openArchitecture line).found.units = s.found.units := by
  unfold openArchitecture
  split <;> rfl

theorem units_readArchitecture (line : List Char) (s : Scan) :
    (s.readArchitecture line).found.units = s.found.units := by
  unfold readArchitecture
  split
  · dsimp only
    split
    · exact Declarations.units_addInstance ..
    · rfl
  · rfl

/-- Reading a line of bytes keeps all units spelled with the characters of a name. -/
theorem namedUnits_step {s : Scan} (named : NamedUnits .vhdl s.found.units)
    (bytes : ∀ c ∈ line, c.toNat < 256) : NamedUnits .vhdl (s.step file line).found.units := by
  rw [step, units_readArchitecture, units_openArchitecture, units_readEntity]
  rcases units_openEntity file (code line) s with same | ⟨name, declared, added⟩
  · rwa [same]
  · rw [added]
    refine named.addUnit fun c member => ?_
    obtain ⟨word, inLine⟩ := of_mem_entityName? declared c member
    exact isNameChar_of_isWordChar (bytes c ((before_isPrefix _ line).subset inLine)) word

end Scan

/-- The entities that are declared in a file of bytes are spelled with the characters of a name. -/
theorem namedUnits_scan (bytes : List UInt8) (file : String) :
    NamedUnits .vhdl (scan (String.ofList (ofBytes bytes)) file).units := by
  rw [scan, String.toList_ofList]
  refine List.foldlRecOn (motive := fun s : Scan => NamedUnits .vhdl s.found.units) _ _ NamedUnits.nil
    fun s named line present => Scan.namedUnits_step named fun c member => ?_
  obtain ⟨byte, -, rfl⟩ := List.mem_map.mp ((infix_of_mem_lines present).subset member)
  have valid : byte.toNat.isValidChar := .inl (Nat.lt_trans byte.toNat_lt (by decide))
  rw [Char.ofNat, dif_pos valid]
  exact byte.toNat_lt

end Vhdl

namespace Verilog

theorem of_quotedName? {indent : Nat} {key name : String} (found : quotedName? indent key line = some name) :
    AllIn Language.isVerilogChar name := by
  obtain ⟨first, opening, found⟩ := Option.bind_eq_some_iff.mp found
  obtain ⟨⟨taken, second⟩, word, found⟩ := Option.bind_eq_some_iff.mp found
  obtain ⟨third, closing, found⟩ := Option.bind_eq_some_iff.mp found
  split at found
  · obtain rfl := Option.some.inj found
    rw [AllIn, String.toList_ofList]
    exact (run_eq_some_iff.mp word).2.2.1
  · cases found

/-- Reading a line of a listing keeps all units spelled with the characters of a name. -/
theorem namedUnits_step {s : ListingState} (named : NamedUnits .verilog s.found.units) :
    NamedUnits .verilog (s.step file line).found.units := by
  unfold ListingState.step
  split
  · next name found =>
    have added : NamedUnits .verilog
        (s.found.addUnit (.declare .verilog (String.ofList name.toList) file)).units :=
      named.addUnit (of_quotedName? found)
    rwa [String.ofList_toList] at added
  · split
    · exact (Declarations.units_addInstance ..).symm ▸ named
    · split
      · exact named
      · split
        · exact named
        · split
          · unfold ListingState.readWidth
            split
            · exact named
            · split
              · split
                · exact named
                · exact (Declarations.units_addPort ..).symm ▸ named
              · exact named
          · exact named

/-- The modules that a listing reports are spelled with the characters of a name. -/
theorem namedUnits_readListing (listing file : String) :
    NamedUnits .verilog (readListing listing file).found.units :=
  List.foldlRecOn (motive := fun s : ListingState => NamedUnits .verilog s.found.units) _ _
    NamedUnits.nil fun _ named _ _ => namedUnits_step named

end Verilog

/-- The units that are declared in a source file are spelled with the characters of a name. -/
theorem namedUnits_readSource {tool : Option AnalysisTool} {launch : Launcher} {disk : Disk}
    {path : Path} {found : Declarations}
    (success : (readSource lang tool launch disk path).2.result = .ok found) :
    NamedUnits lang found.units := by
  unfold readSource at success
  split at success
  · unfold readVhdl at success
    split at success
    · cases success
    · obtain rfl := Except.ok.inj success
      exact Vhdl.namedUnits_scan _ path.fileName
  · cases success
  · next tool =>
    obtain ⟨listing, -, success⟩ := noted_bind_eq_ok_iff.mp success
    obtain rfl := Except.ok.inj success
    exact Verilog.namedUnits_readListing listing path.fileName

end BoardBind
