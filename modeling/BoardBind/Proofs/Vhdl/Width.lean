import BoardBind.Proofs.Port.Bits
import BoardBind.Proofs.Vhdl.Declaration

/-! # The widths of scanned ports

A port that is declared with the bounds of a vector has a bit for each index between them, in whatever
order they are written. The number of bits is computed with 64-bit words, and there is one pair of
bounds for which it wraps: the range of all words is taken for an empty one and dropped.
-/

namespace BoardBind

/-- How far two bounds are apart. -/
def BitRange.distance (u l : UInt64) : Nat := ((u.toNat : Int) - l.toNat).natAbs

/-- A port has the bits between two bounds: their number is its width, it is a vector unless the bounds
are the same, and its bits are numbered from the larger bound down to the smaller one. -/
structure Port.Spans (port : Port) (u l : UInt64) : Prop where
  width : port.width.toNat = BitRange.distance u l + 1
  vector : port.isVector ↔ u ≠ l
  bits : port.bits .vhdl = (List.range (BitRange.distance u l + 1)).map fun k =>
    { name := if u = l then port.spelling else
        Language.vhdl.index port.spelling (max u.toNat l.toNat - k)
      direction := port.direction }

variable {u l : UInt64} {port : Port} {spelling : String} {direction : Direction} {range : BitRange}

theorem BitRange.distance_comm (u l : UInt64) : BitRange.distance u l = BitRange.distance l u := by
  rw [distance, distance]
  omega

theorem Port.Spans.symm (spans : port.Spans u l) : port.Spans l u where
  width := BitRange.distance_comm u l ▸ spans.width
  vector := spans.vector.trans ne_comm
  bits := by
    rw [spans.bits, BitRange.distance_comm u l, max_comm]
    simp only [eq_comm]

theorem Port.Spans.comm : port.Spans u l ↔ port.Spans l u :=
  ⟨Spans.symm, Spans.symm⟩

namespace BitRange

theorem indices_eq_map (range : BitRange) : range.indices =
    (List.range (range.upper.toNat - range.lower.toNat + 1)).map (range.upper.toNat - ·) := by
  have ordered := UInt64.le_iff_toNat_le.mp range.lower_le_upper
  rw [indices, List.reverse_range']
  refine List.map_congr_left fun k member => ?_
  omega

theorem distance_eq (range : BitRange) :
    distance range.upper range.lower = range.upper.toNat - range.lower.toNat := by
  have ordered := UInt64.le_iff_toNat_le.mp range.lower_le_upper
  rw [distance]
  omega

end BitRange

namespace Port

theorem range_declare : (declare .vhdl spelling direction (some range)).range =
    if 1 < range.width then some range else none := by
  simp only [declare, Option.filter_some, decide_eq_true_eq]

/-- A range of several bits is that of the port's bits. -/
theorem spans_of_several (kept : port.range = some range) (several : 1 < range.width) :
    port.Spans range.upper range.lower := by
  have ordered := UInt64.le_iff_toNat_le.mp range.lower_le_upper
  have wrapped := range.toNat_width
  have counted : 1 < range.width.toNat := UInt64.lt_iff_toNat_lt.mp several
  have bounded := range.upper.toNat_lt
  have different : range.upper ≠ range.lower := by
    rw [ne_eq, ← UInt64.toNat_inj]
    omega
  refine ⟨?_, ?_, ?_⟩
  · rw [width, kept, Option.map_some, Option.getD_some, wrapped, range.distance_eq]
    omega
  · rw [isVector, kept]
    exact iff_of_true rfl different
  · rw [bits, kept, range.distance_eq]
    simp only [range.indices_eq_map, List.map_map, if_neg different, max_eq_left ordered]
    rfl

/-- A port without a range has the one bit between equal bounds. -/
theorem spans_iff_of_scalar (scalar : port.range = none) : port.Spans u l ↔ u = l := by
  constructor
  · intro spans
    by_contra different
    have vector := spans.vector.mpr different
    rw [isVector, scalar] at vector
    cases vector
  · rintro rfl
    have near : BitRange.distance u u = 0 := by
      rw [BitRange.distance]
      omega
    refine ⟨?_, ?_, ?_⟩
    · rw [width, scalar, near]
      rfl
    · rw [isVector, scalar]
      exact iff_of_false (by simp) (not_not_intro rfl)
    · rw [bits, scalar, near]
      simp only [if_true]
      rfl

/-- A declared port has the bits of its range unless there is one for each word. -/
theorem spans_declare_iff : (declare .vhdl spelling direction (some range)).Spans range.upper range.lower ↔
    ¬ (range.upper.toNat = 2 ^ 64 - 1 ∧ range.lower.toNat = 0) := by
  have ordered := UInt64.le_iff_toNat_le.mp range.lower_le_upper
  have bounded := range.upper.toNat_lt
  have wrapped := range.toNat_width
  have counted : 1 < range.width ↔ 1 < range.width.toNat := UInt64.lt_iff_toNat_lt
  by_cases several : 1 < range.width
  · have kept : (declare .vhdl spelling direction (some range)).range = some range := by
      rw [range_declare, if_pos several]
    rw [counted] at several
    refine iff_of_true (spans_of_several kept (counted.mpr several)) ?_
    omega
  · have dropped : (declare .vhdl spelling direction (some range)).range = none := by
      rw [range_declare, if_neg several]
    rw [counted] at several
    rw [spans_iff_of_scalar dropped, ← UInt64.toNat_inj]
    omega

/-- A port that is declared with two bounds has the bits between them, unless these are the first and the
last of all words. -/
theorem spans_ofBounds_iff (spelling : String) (direction : Direction) (u l : UInt64) :
    (declare .vhdl spelling direction (some (.ofBounds u l))).Spans u l ↔
      (u.toNat, l.toNat) ∉ [(0, 2 ^ 64 - 1), (2 ^ 64 - 1, 0)] := by
  simp only [List.mem_cons, List.not_mem_nil, or_false, Prod.mk.injEq]
  rw [BitRange.ofBounds]
  split
  · next ordered =>
    have bounds := UInt64.le_iff_toNat_le.mp ordered
    have spans : (declare .vhdl spelling direction (some ⟨u, l, ordered⟩)).Spans u l ↔
        ¬ (u.toNat = 2 ^ 64 - 1 ∧ l.toNat = 0) := spans_declare_iff
    rw [spans]
    omega
  · next unordered =>
    have ordered := UInt64.le_of_lt (UInt64.not_le.mp unordered)
    have bounds := UInt64.le_iff_toNat_le.mp ordered
    have spans : (declare .vhdl spelling direction (some ⟨l, u, ordered⟩)).Spans l u ↔
        ¬ (l.toNat = 2 ^ 64 - 1 ∧ u.toNat = 0) := spans_declare_iff
    rw [Spans.comm, spans]
    omega

end Port

/-! ## What the scanner records -/

namespace Vhdl

open Text

variable {file unit : String} {line : List Char} {ls : List (List Char)} {s : Scan}

/-- The ports that are recorded while lines are read, each with the line that it is recorded from. -/
def recordings (file : String) : List (List Char) → Scan → List (List Char × String × Port)
  | [], _ => []
  | line :: later, s =>
    ((s.step file line).found.ports.drop s.found.ports.length).map (Prod.mk line) ++
      recordings file later (s.step file line)

theorem recordings_append (file : String) (first second : List (List Char)) (s : Scan) :
    recordings file (first ++ second) s =
      recordings file first s ++ recordings file second (scanLines file first s) := by
  induction first generalizing s with
  | nil => rfl
  | cons line first ih =>
    rw [List.cons_append, recordings, recordings, ih, List.append_assoc]
    rfl

/-- Ports are recorded for a declared unit only, all of them or none. -/
theorem ports_addPorts (unit : String) (decl : PortLine) (found : Declarations) :
    (Scan.addPorts unit decl found).ports = found.ports ++
      if found.declares unit then decl.toPorts.map (Prod.mk unit) else [] := by
  rw [Scan.addPorts, PortLine.toPorts]
  induction decl.names generalizing found with
  | nil => simp
  | cons name names ih =>
    rw [List.foldl_cons, ih, Declarations.addPort]
    cases known : found.declares unit with
    | false => simp [known]
    | true =>
      have still : Declarations.declares
          { found with ports := found.ports ++ [(unit, Port.declare .vhdl (String.ofList name)
            decl.direction decl.range)] } unit := known
      simp [still]

theorem ports_addInstance (found : Declarations) (i : Instance) :
    (found.addInstance i).ports = found.ports := by
  rw [Declarations.addInstance]
  split <;> rfl

/-- A line adds the ports that are declared on it, or none. -/
theorem ports_step (file : String) (s : Scan) (line : List Char) : ∃ unit new,
    (s.step file line).found.ports = s.found.ports ++ List.map (Prod.mk unit) new ∧
      ∀ port ∈ new, port ∈ portsOn line := by
  have opened : (s.openEntity file (code line)).found.ports = s.found.ports := by
    rw [Scan.openEntity]
    split <;> rfl
  have turned (s : Scan) : (s.openArchitecture (code line)).found.ports = s.found.ports := by
    rw [Scan.openArchitecture]
    split <;> rfl
  have inside (s : Scan) : (s.readArchitecture (code line)).found.ports = s.found.ports := by
    rw [Scan.readArchitecture]
    split
    · cases Scan.child? (code line) with
      | none => rfl
      | some child => exact ports_addInstance s.found _
    · rfl
  have nothing {t : Scan} (same : t.found.ports = s.found.ports) : ∃ unit new,
      t.found.ports = s.found.ports ++ List.map (Prod.mk unit) new ∧ ∀ port ∈ new, port ∈ portsOn line :=
    ⟨"", [], by rw [same, List.map_nil, List.append_nil], List.forall_mem_nil _⟩
  rw [Scan.step, inside, turned, Scan.readEntity]
  split
  · next unit scope =>
    split
    · exact nothing opened
    · cases declared : portLine? (code line) with
      | none => exact nothing opened
      | some decl =>
        have ports : portsOn line = decl.toPorts := by rw [portsOn, declared, Option.map_some, Option.getD_some]
        rw [ports_addPorts, opened, ports]
        split
        · exact ⟨unit, decl.toPorts, rfl, fun _ member => member⟩
        · exact ⟨unit, [], by rw [List.map_nil], List.forall_mem_nil _⟩
  · exact nothing opened

/-- Every recorded port is one of those declared on its line. -/
theorem mem_portsOn_of_recorded {port : Port} (recorded : (line, unit, port) ∈ recordings file ls s) :
    port ∈ portsOn line := by
  induction ls generalizing s with
  | nil => cases recorded
  | cons first later ih =>
    rcases List.mem_append.mp recorded with here | behind
    · obtain ⟨owner, new, ports, declared⟩ := ports_step file s first
      rw [ports, List.drop_left, List.map_map] at here
      obtain ⟨port, member, same⟩ := List.mem_map.mp here
      cases same
      exact declared port member
    · exact ih behind

/-- The recordings are the ports that are added, in order. -/
theorem append_recordings (file : String) (ls : List (List Char)) (s : Scan) :
    s.found.ports ++ (recordings file ls s).map Prod.snd = (scanLines file ls s).found.ports := by
  induction ls generalizing s with
  | nil => exact List.append_nil _
  | cons line later ih =>
    obtain ⟨unit, new, ports, -⟩ := ports_step file s line
    have gained : s.found.ports ++ (s.step file line).found.ports.drop s.found.ports.length =
        (s.step file line).found.ports := by
      rw [ports, List.drop_left]
    rw [recordings, List.map_append, List.map_map, ← List.append_assoc, scanLines, List.foldl_cons,
      ← scanLines, ← ih (s.step file line)]
    refine congrArg (· ++ _) (Eq.trans ?_ gained)
    exact congrArg (s.found.ports ++ ·) (List.map_id _)

/-- The ports that a scan finds are recorded from declarations. A port that is recorded from one in which
bounds are written has the bits between them, unless these are the first and the last of all words. -/
theorem spans_recorded_iff (text file : String) :
    (recordings file (lines text.toList) {}).map Prod.snd = (scan text file).ports ∧
      ∀ line unit port, (line, unit, port) ∈ recordings file (lines text.toList) {} →
        ∃ written, FirstDeclared (code line) written ∧ port.spelling.toList ∈ written.names ∧
          port.direction = written.direction ∧
          ∀ upper lower u l, WrittenBounds written.behind upper lower → word64? upper = some u →
            word64? lower = some l →
              (port.Spans u l ↔ (u.toNat, l.toNat) ∉ [(0, 2 ^ 64 - 1), (2 ^ 64 - 1, 0)]) := by
  refine ⟨append_recordings file (lines text.toList) {}, fun line unit port recorded => ?_⟩
  have declared := mem_portsOn_of_recorded recorded
  rw [portsOn] at declared
  cases found : portLine? (code line) with
  | none =>
    rw [found] at declared
    cases declared
  | some decl =>
    rw [found] at declared
    obtain ⟨written, first, rfl⟩ := portLine?_eq_some_iff.mp found
    obtain ⟨name, listed, rfl⟩ := List.mem_map.mp declared
    refine ⟨written, first, ?_, rfl, fun upper lower u l bounds upperWord lowerWord => ?_⟩
    · rwa [Port.declare, String.toList_ofList]
    · have range := vectorRange?_eq_some_iff.mpr ⟨upper, lower, u, l, bounds, upperWord, lowerWord, rfl⟩
      simp only [range]
      exact Port.spans_ofBounds_iff (String.ofList name) written.direction u l

/-- The line of an entity on which a vector is declared. -/
def vectorLine (u l : UInt64) : List Char :=
  declarationChars 8 ['q'] [] .input (some (u, l)) ""

/-- An entity with a single port, which is a vector. -/
def ram (u l : UInt64) : List String :=
  ["entity ram is", "    port (", String.ofList (vectorLine u l), "    );", "end ram;"]

theorem isCode_vectorLine (u l : UInt64) : IsCode (vectorLine u l) :=
  isCode_declarationChars 8 (by decide) (List.forall_mem_nil _) List.mem_cons_self

theorem firstDeclared_vectorLine (u l : UInt64) : FirstDeclared (code (vectorLine u l))
    ⟨[['q']], .input, (boundsText (some (u, l))).toList ++ []⟩ := by
  rw [code_of_line (isCode_vectorLine u l)]
  exact firstDeclared_declarationChars 8 (by decide) (List.forall_mem_nil _)

theorem recorded_ram (u l : UInt64) :
    (vectorLine u l, "ram", Port.declare .vhdl "q" .input (some (.ofBounds u l))) ∈
      recordings "ram.vhd" (lines (unlines (ram u l)).toList) {} := by
  have whole : ∀ line ∈ ram u l, IsWhole line := by
    have vector := (isCode_vectorLine u l).isLine
    have kept : IsWhole (String.ofList (vectorLine u l)) := by
      rw [IsWhole, String.toList_ofList]
      exact ⟨vector.1, fun last => vector.2 (List.mem_of_getLast? last)⟩
    simp only [ram, List.forall_mem_cons, kept, true_and]
    decide
  have opened : scanLines "ram.vhd" ["entity ram is".toList, "    port (".toList] {} =
      ⟨Declarations.collected [⟨"ram", "ram", "ram.vhd"⟩] [] [], .entity "ram"⟩ := by cbv
  have parts : (ram u l).map String.toList = ["entity ram is".toList, "    port (".toList] ++
      (vectorLine u l :: ["    );".toList, "end ram;".toList]) := by
    simp only [ram, List.map_cons, List.map_nil, String.toList_ofList, List.cons_append, List.nil_append]
  have inside : Inside "entity" "ram" (vectorLine u l) :=
    inside_declarationChars 8 (by decide) (List.forall_mem_nil _) List.mem_cons_self (by decide) (by decide)
  have ports : portsOn (vectorLine u l) = [.declare .vhdl "q" .input (some (.ofBounds u l))] :=
    portsOn_declarationChars 8 (by decide) (List.forall_mem_nil _) List.mem_cons_self
  rw [lines_unlines_of_whole whole, parts, recordings_append, opened]
  refine List.mem_append_right _ ?_
  rw [recordings, Scan.step_entity inside ⟨_, List.mem_singleton_self _, rfl⟩, ports]
  exact List.mem_append_left _ List.mem_cons_self

/-- A vector whose bounds are written the other way round has its five bits. -/
theorem spans_ram : ∃ port, (vectorLine 3 7, "ram", port) ∈
    recordings "ram.vhd" (lines (unlines (ram 3 7)).toList) {} ∧ port.Spans 3 7 := by
  have recorded := recorded_ram 3 7
  obtain ⟨written, first, -, -, spans_iff⟩ := (spans_recorded_iff _ _).2 _ _ _ recorded
  obtain rfl := first.unique (firstDeclared_vectorLine 3 7)
  have spans := spans_iff _ _ 3 7 (writtenBounds_boundsText 3 7 []) (word64?_toString_word 3)
    (word64?_toString_word 7)
  exact ⟨_, recorded, spans.mpr (by decide)⟩

/-- A vector with a bit for each word is scanned as a single bit. -/
theorem not_spans_ram : ¬ ∀ (text file : String) (line : List Char) (unit : String) (port : Port)
    (written : Written) (upper lower : List Char) (u l : UInt64),
    (line, unit, port) ∈ recordings file (lines text.toList) {} → FirstDeclared (code line) written →
      WrittenBounds written.behind upper lower → word64? upper = some u → word64? lower = some l →
        port.Spans u l := by
  intro claimed
  have spans := claimed _ _ _ _ _ _ _ _ 18446744073709551615 0 (recorded_ram 18446744073709551615 0)
    (firstDeclared_vectorLine 18446744073709551615 0) (writtenBounds_boundsText _ _ [])
    (word64?_toString_word _) (word64?_toString_word _)
  exact absurd ((Port.spans_ofBounds_iff ..).mp spans) (by decide)

end Vhdl

end BoardBind
