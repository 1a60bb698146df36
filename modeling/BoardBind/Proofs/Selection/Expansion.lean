import BoardBind.Proofs.Selection.Run
import BoardBind.Proofs.Vhdl.LetterCase

/-! # The bits of ports that are named by identifiers

The ports of a unit are expanded one after the other, a vector from its upper index down. If they are
named by identifiers that differ in the language of the design, then all their bits differ in their
names: the name of a bit determines its vector and its number, and no identifier is spelled like the bit
of a vector. So a name in any spelling denotes at most one bit, and a binding changes this bit or nothing.
-/

namespace BoardBind

variable {lang : Language} {ports : List Port} {port first second : Port} {name : String}

/-- The characters of identifiers: letters and digits, underscores and dollars. Outside of ASCII every
character counts, so that the letters of all alphabets do. -/
def isIdentifierChar (c : Char) : Bool :=
  c.isAlphanum || c = '_' || c = '$' || 128 ≤ c.toNat

/-- An identifier is not the name of a bit of a vector, which ends in a bracket. -/
theorem Language.fold_ne_index (identifier : AllIn isIdentifierChar name) (base : String) (i : Nat) :
    lang.fold name ≠ lang.index base i := by
  intro same
  cases lang with
  | vhdl =>
    have closing : ')' ∈ (Language.vhdl.fold name).toList := by simp [same, index]
    rw [fold, String.toLower, String.toList_map] at closing
    obtain ⟨c, member, lower⟩ := List.mem_map.mp closing
    -- Folding changes letters only, so the bracket stands in the name itself.
    rw [Text.toLower_eq_iff (by decide)] at lower
    exact notMem_of_forall identifier (by decide) (lower ▸ member)
  | verilog =>
    have closing : ']' ∈ (Language.verilog.fold name).toList := by simp [same, index]
    exact notMem_of_forall identifier (by decide) closing

namespace BitRange

theorem descending_indices (range : BitRange) : range.indices.Pairwise (· > ·) := by
  rw [indices, List.pairwise_reverse]
  exact List.pairwise_lt_range'

theorem mem_indices_iff {range : BitRange} {i : Nat} :
    i ∈ range.indices ↔ range.lower.toNat ≤ i ∧ i ≤ range.upper.toNat := by
  have ordered := UInt64.le_iff_toNat_le.mp range.lower_le_upper
  rw [indices, List.mem_reverse, List.mem_range'_1]
  omega

theorem length_indices (range : BitRange) :
    range.indices.length = range.upper.toNat - range.lower.toNat + 1 := by
  rw [indices, List.length_reverse, List.length_range']

end BitRange

namespace Port

/-- The number of a port's indices fits a word. -/
def Countable (port : Port) : Prop :=
  ∀ range, port.range = some range → range.upper.toNat - range.lower.toNat + 1 < 2 ^ 64

instance (port : Port) : Decidable port.Countable :=
  inferInstanceAs (Decidable (∀ range ∈ port.range, _ < _))

/-- The bits of a port: as many as its width says, unbound, and all in its direction. A single bit has the
name of the port, and the bits of a vector are numbered by its indices in strictly descending order. -/
structure Expansion (lang : Language) (port : Port) (bits : List PortBit) : Prop where
  length : bits.length = port.width.toNat
  direction : ∀ bit ∈ bits, bit.direction = port.direction
  unbound : ∀ bit ∈ bits, bit.isBound = false
  single : port.range = none → bits.map (·.name) = [port.spelling]
  vector : ∀ range, port.range = some range → ∃ indices : List Nat, indices.Pairwise (· > ·) ∧
    (∀ i, i ∈ indices ↔ range.lower.toNat ≤ i ∧ i ≤ range.upper.toNat) ∧
      bits.map (·.name) = indices.map (lang.index port.spelling)

theorem length_bits (countable : port.Countable) : (port.bits lang).length = port.width.toNat := by
  cases kept : port.range with
  | none => simp [bits, width, kept]
  | some range =>
    have counted := countable range kept
    rw [bits, width, kept]
    simp only [Option.map_some, Option.getD_some, List.length_map, range.length_indices,
      range.toNat_width, Nat.mod_eq_of_lt counted]

theorem expansion_bits (countable : port.Countable) : port.Expansion lang (port.bits lang) where
  length := length_bits countable
  direction := by
    intro bit member
    unfold bits at member
    split at member
    · obtain ⟨i, -, rfl⟩ := List.mem_map.mp member
      rfl
    · obtain rfl := List.mem_singleton.mp member
      rfl
  unbound := by
    intro bit member
    have fresh : bit ∈ Selection.freshBits lang [port] := by simpa [Selection.freshBits] using member
    exact Design.isBound_of_mem_freshBits fresh
  single := fun scalar => by rw [bits, scalar]; rfl
  vector := fun range kept => by
    refine ⟨range.indices, range.descending_indices, fun i => BitRange.mem_indices_iff, ?_⟩
    rw [bits, kept]
    exact List.map_map

/-! ## Folded names -/

/-- The names of the bits of a port, folded. -/
def foldedNames (lang : Language) (port : Port) : List String :=
  (port.bits lang).map fun bit => lang.fold bit.name

theorem mem_foldedNames_iff : name ∈ port.foldedNames lang ↔
    (port.range = none ∧ name = lang.fold port.spelling) ∨
      ∃ range, port.range = some range ∧
        ∃ i ∈ range.indices, name = lang.index (lang.fold port.spelling) i := by
  cases kept : port.range with
  | none => simp [foldedNames, bits, kept]
  | some range => simp [foldedNames, bits, kept, Language.fold_index, eq_comm]

theorem nodup_foldedNames (lang : Language) (port : Port) : (port.foldedNames lang).Nodup := by
  cases kept : port.range with
  | none => simp [foldedNames, bits, kept]
  | some range =>
    have different : range.indices.Nodup := range.descending_indices.imp Nat.ne_of_gt
    rw [foldedNames, bits, kept, List.map_map]
    refine different.map fun i j same => ?_
    simp only [Function.comp_apply, Language.fold_index] at same
    exact (Language.index_inj.mp same).2

/-- Two ports of different identifiers have no bit in common: bits of two vectors differ in what stands
before the bracket, and a single bit has no bracket. -/
theorem disjoint_foldedNames (identifier : AllIn isIdentifierChar first.spelling)
    (identifierToo : AllIn isIdentifierChar second.spelling)
    (different : lang.fold first.spelling ≠ lang.fold second.spelling) :
    (first.foldedNames lang).Disjoint (second.foldedNames lang) := by
  rw [List.disjoint_left]
  intro name inFirst inSecond
  rw [mem_foldedNames_iff] at inFirst inSecond
  rcases inFirst with ⟨-, rfl⟩ | ⟨-, -, i, -, rfl⟩
  · rcases inSecond with ⟨-, same⟩ | ⟨-, -, j, -, same⟩
    · exact different same
    · exact Language.fold_ne_index identifier _ j same
  · rcases inSecond with ⟨-, same⟩ | ⟨-, -, j, -, same⟩
    · exact Language.fold_ne_index identifierToo _ i same.symm
    · exact different (Language.index_inj.mp same).1

end Port

namespace Selection

variable {d : Design} {s t : Selection}

theorem nodup_freshBits (identifiers : ∀ port ∈ ports, AllIn isIdentifierChar port.spelling)
    (distinct : (ports.map fun port => lang.fold port.spelling).Nodup) :
    ((freshBits lang ports).map fun bit => lang.fold bit.name).Nodup := by
  have names : (freshBits lang ports).map (fun bit => lang.fold bit.name) =
      ports.flatMap (Port.foldedNames lang) := List.map_flatMap
  rw [names, List.nodup_flatMap]
  refine ⟨fun port _ => port.nodup_foldedNames lang, ?_⟩
  refine (List.pairwise_map.mp distinct).imp_of_mem fun inFirst inSecond different => ?_
  exact Port.disjoint_foldedNames (identifiers _ inFirst) (identifiers _ inSecond) different

theorem length_freshBits (countable : ∀ port ∈ ports, port.Countable) :
    (freshBits lang ports).length = (ports.map fun port => port.width.toNat).sum := by
  rw [freshBits, List.length_flatMap]
  exact congrArg List.sum (List.map_congr_left fun port member =>
    Port.length_bits (countable port member))

/-! ## The bit that a name denotes -/

/-- The bits of a selection are those of some ports in order, whatever they are bound to. -/
structure HasBitsOf (lang : Language) (ports : List Port) (s : Selection) : Prop where
  language : s.design.language = lang
  bits : s.bits.map PortBit.shape = (freshBits lang ports).map PortBit.shape

/-- After any calls on a design the bits are those of the ports of the selected top. -/
theorem Consistent.hasBitsOf (consistent : Consistent d s) : HasBitsOf d.language s.ports s :=
  ⟨congrArg Design.language consistent.design, consistent.bits⟩

theorem HasBitsOf.of_sameShape (has : HasBitsOf lang ports s) (same : SameShape t s) :
    HasBitsOf lang ports t :=
  ⟨same.design ▸ has.language, same.map_shape.trans has.bits⟩

theorem HasBitsOf.distinctBits (has : HasBitsOf lang ports s)
    (distinct : ((freshBits lang ports).map fun bit => lang.fold bit.name).Nodup) :
    s.DistinctBits := by
  have names := congrArg (List.map fun shape => lang.fold shape.1) has.bits
  simp only [List.map_map] at names
  rw [DistinctBits, has.language]
  exact names ▸ distinct

/-- The bit of a number has a name, in whatever spelling. -/
def Denotes (s : Selection) (name : String) (i : Nat) (bit : PortBit) : Prop :=
  s.bits[i]? = some bit ∧ s.design.language.fold bit.name = s.design.language.fold name

/-- A binding changes the bit that its name denotes, if the board accepts its signal in the direction of
this bit, and nothing else. -/
structure BindsDenoted (s : Selection) (board : Board) (b : Binding) : Prop where
  unique : ∀ i j bit other, s.Denotes b.port i bit → s.Denotes b.port j other → i = j
  denoted : ∀ i bit, s.Denotes b.port i bit → s.assign board b =
    if board.accepts s.design.language b.signal bit.direction then
      (true, { s with bits := s.bits.set i (bit.bind b.signal) })
    else (false, s)
  missing : (∀ i bit, ¬ s.Denotes b.port i bit) → s.assign board b = (false, s)

theorem DistinctBits.bindsDenoted (distinct : s.DistinctBits) (board : Board) (b : Binding) :
    s.BindsDenoted board b where
  unique := by
    rintro i j bit other ⟨found, named⟩ ⟨foundToo, namedToo⟩
    have index := (bitIndex?_eq_some_iff distinct found).mpr named
    rw [(bitIndex?_eq_some_iff distinct foundToo).mpr namedToo] at index
    exact (Option.some.inj index).symm
  denoted := by
    rintro i bit ⟨found, named⟩
    have index := (bitIndex?_eq_some_iff distinct found).mpr named
    rw [assign, admits_of_bitIndex? index found, index]
    cases board.accepts s.design.language b.signal bit.direction with
    | false => rfl
    | true =>
      simp only [if_true, List.modify_eq_set_getElem?, found, Option.map_eq_map, Option.map_some,
        Option.getD_some]
  missing := by
    intro missing
    have refused : (s.assign board b).1 = false := by
      rw [assign_fst, admits]
      cases found : s.bits.find? fun bit =>
          s.design.language.fold bit.name = s.design.language.fold b.port with
      | none => rfl
      | some bit =>
        have named := List.find?_some found
        obtain ⟨i, atPlace⟩ := List.mem_iff_getElem?.mp (List.mem_of_find?_eq_some found)
        exact absurd ⟨atPlace, of_decide_eq_true named⟩ (missing i bit)
    exact Prod.ext refused (assign_of_refused refused)

/-- The bits of ports that are named by different identifiers differ in their names, and they are as many
as the ports are wide. Those of each port stand together, in strictly descending order and in its
direction. In every selection with these bits a binding changes the one bit that its name denotes, if the
board accepts it there, and nothing otherwise. -/
theorem expands_and_binds (identifiers : ∀ port ∈ ports, AllIn isIdentifierChar port.spelling)
    (distinct : (ports.map fun port => lang.fold port.spelling).Nodup)
    (countable : ∀ port ∈ ports, port.Countable) :
    ((freshBits lang ports).map fun bit => lang.fold bit.name).Nodup ∧
      (freshBits lang ports).length = (ports.map fun port => port.width.toNat).sum ∧
      (∀ before port after, ports = before ++ port :: after → ∃ block, port.Expansion lang block ∧
        freshBits lang ports = freshBits lang before ++ block ++ freshBits lang after) ∧
      ∀ (s : Selection) (board : Board) (b : Binding), s.HasBitsOf lang ports →
        s.BindsDenoted board b ∧ (s.assign board b).2.HasBitsOf lang ports := by
  have apart := nodup_freshBits identifiers distinct
  refine ⟨apart, length_freshBits countable, ?_, fun s board b has => ?_⟩
  · rintro before port after rfl
    have present : port ∈ before ++ port :: after := List.mem_append_right _ List.mem_cons_self
    refine ⟨port.bits lang, Port.expansion_bits (countable port present), ?_⟩
    simp only [freshBits, List.flatMap_append, List.flatMap_cons, List.append_assoc]
  · refine ⟨(has.distinctBits apart).bindsDenoted board b, has.of_sameShape ?_⟩
    rw [assign_snd]
    exact sameShape_rebindAll s _

/-- Ports whose names start alike, so that bits of different ports nearly have one name. -/
def alikePorts : List Port :=
  [.declare .vhdl "a" .input (some (.ofBounds 9 10)),
   .declare .vhdl "A1" .output (some (.ofBounds 1 0)),
   .declare .vhdl "a10" .input none]

/-- An entity with these ports. -/
def alikeEntity : List Declarations :=
  [{ units := [.declare .vhdl "Alike" "alike.vhd"]
     ports := alikePorts.reverse.map fun port => ("alike", port) }]

/-- Binds a bit of each port. -/
def alikeBound : List Call :=
  [.bindBit 4 "BTNC", .bindBit 3 "LD(0)", .bindBit 0 "SW(0)"]

/-- A bit of the first port is bound anew, and all others keep their signals. -/
theorem binds_alikeBound : (∀ port ∈ alikePorts, AllIn isIdentifierChar port.spelling) ∧
    (alikePorts.map fun port => Language.vhdl.fold port.spelling).Nodup ∧
    (∀ port ∈ alikePorts, port.Countable) ∧
    ∃ d, Design.resolve .vhdl alikeEntity = .ok d ∧
      ((initial d).run alikeBound).HasBitsOf .vhdl alikePorts ∧
      (((initial d).run alikeBound).assign .standard ⟨"A(10)", "BTNL"⟩).2.bits =
        ((initial d).run alikeBound).bits.set 0 ⟨"a(10)", .input, "BTNL"⟩ := by
  have identifiers : ∀ port ∈ alikePorts, AllIn isIdentifierChar port.spelling := by decide +kernel
  have distinct : (alikePorts.map fun port => Language.vhdl.fold port.spelling).Nodup := by
    decide +kernel
  have countable : ∀ port ∈ alikePorts, port.Countable := by decide
  have declared : ∀ file ∈ alikeEntity, file.DeclaredIn .vhdl := by decide +kernel
  have outcome : (Design.resolve .vhdl alikeEntity).map (fun d => (d.language,
      decide (((initial d).run alikeBound).ports = alikePorts), ((initial d).run alikeBound).bits[0]?)) =
        .ok (.vhdl, true, some ⟨"a(10)", .input, "SW(0)"⟩) := by cbv
  obtain ⟨d, success, found⟩ := except_map_eq_ok_iff.mp outcome
  simp only [Prod.mk.injEq, decide_eq_true_eq] at found
  obtain ⟨vhdl, ports, first⟩ := found
  have has : ((initial d).run alikeBound).HasBitsOf .vhdl alikePorts :=
    vhdl ▸ ports ▸ (consistent_of_declaredIn declared success alikeBound).hasBitsOf
  have binds := ((expands_and_binds identifiers distinct countable).2.2.2 _ .standard
    ⟨"A(10)", "BTNL"⟩ has).1
  have denoted : ((initial d).run alikeBound).Denotes "A(10)" 0 ⟨"a(10)", .input, "SW(0)"⟩ :=
    ⟨first, by rw [has.language]; cbv⟩
  have accepted : Board.standard.accepts .vhdl "BTNL" .input = true := by decide +kernel
  refine ⟨identifiers, distinct, countable, d, success, has, ?_⟩
  rw [binds.denoted 0 _ denoted, has.language, accepted]
  rfl

end Selection

end BoardBind
