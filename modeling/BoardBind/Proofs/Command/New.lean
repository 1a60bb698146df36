import BoardBind.Command.New
import BoardBind.Proofs.Host.Listing
import BoardBind.Proofs.Port.Bits
import BoardBind.Proofs.Source.Names
import BoardBind.Proofs.Template.Builtin
import BoardBind.Proofs.Text.Match
import BoardBind.Proofs.Vhdl.Header
import BoardBind.Proofs.Wrapper.Block

/-! # A new unit is written completely or not at all

The command writes a skeleton exactly if it is allowed to, if what is asked for can be declared and if
its file has a place. Then the file at that place is all that changes. The template of a new entity names
it in three places and has one place for its ports; in the filled template the scanner finds the entity
with the ports that were asked for, and no instance.

A file is written as UTF-8 and read byte by byte. Both agree on ASCII, so an entity whose names are ASCII
is also found when its file is read again.
-/

namespace BoardBind

open Text

namespace Skeleton

variable {lang : Language} {unit text before behind : String} {ports : List Port}

theorem substitute_of_notMem (absent : 'D' ∉ text.toList) : substitute placeholder unit text = text := by
  change String.ofList (substituteChars 'D' "R_ENTITY_NAME".toList unit.toList text.toList) = text
  rw [substituteChars_of_notMem absent, String.ofList_toList]

/-- A line that names the unit once. -/
theorem substitute_placeholder (first : 'D' ∉ before.toList) (last : 'D' ∉ behind.toList) :
    substitute placeholder unit (before ++ placeholder ++ behind) = before ++ unit ++ behind := by
  have marked : (before ++ placeholder ++ behind).toList =
      before.toList ++ 'D' :: ("R_ENTITY_NAME".toList ++ behind.toList) := by
    simp [placeholder]
  change String.ofList (substituteChars 'D' "R_ENTITY_NAME".toList unit.toList _) = _
  rw [marked, substituteChars_append first, substituteChars_mark, substituteChars_of_notMem last]
  simp only [String.ofList_append, String.ofList_toList, String.append_assoc]

theorem renderLine_of_ne (plain : Marker.ofLine? lang.comment text.toList ≠ some .port) :
    renderLine lang unit ports text.toList = [substitute placeholder unit text] := by
  unfold renderLine
  split
  · next marked => exact absurd marked plain
  · rw [String.ofList_toList]

/-- A line of the template that neither names the unit nor declares its ports. -/
theorem renderLine_fixed {fixed : String} (plain : 'D' ∉ fixed.toList ∧
    Marker.ofLine? lang.comment fixed.toList ≠ some .port) :
    renderLine lang unit ports fixed.toList = [fixed] := by
  rw [renderLine_of_ne plain.2, substitute_of_notMem plain.1]

/-- A line of the template that names the unit. -/
theorem renderLine_named {line : String} (split : line = before ++ placeholder ++ behind)
    (plain : Marker.ofLine? lang.comment line.toList ≠ some .port)
    (first : 'D' ∉ before.toList) (last : 'D' ∉ behind.toList) :
    renderLine lang unit ports line.toList = [before ++ unit ++ behind] := by
  rw [renderLine_of_ne plain, split, substitute_placeholder first last]

/-- The lines inside the new entity. -/
def clause (ports : List Port) : List String :=
  "    port (" :: separated ";" "" (ports.map fun port => "        " ++ Vhdl.portText port) ++ ["    );"]

/-- The filled template of a new entity. -/
theorem renderLines_vhdl (unit : String) (ports : List Port) :
    (lines (Builtin.skeleton.text .vhdl).toList).flatMap (renderLine .vhdl unit ports) =
      ["library ieee;", "use ieee.std_logic_1164.all;", ""] ++
        (["entity " ++ unit ++ " is"] ++ clause ports ++ ["end " ++ unit ++ ";"]) ++ [""] ++
        (["architecture " ++ "rtl" ++ " of " ++ unit ++ " is"] ++ ["begin", ""] ++
          ["end " ++ "rtl" ++ ";"]) := by
  have entity : renderLine .vhdl unit ports "entity DR_ENTITY_NAME is".toList =
      ["entity " ++ unit ++ " is"] := renderLine_named (by decide) (by decide) (by decide) (by decide)
  have ends : renderLine .vhdl unit ports "end DR_ENTITY_NAME;".toList = ["end " ++ unit ++ ";"] :=
    renderLine_named (by decide) (by decide) (by decide) (by decide)
  have architecture : renderLine .vhdl unit ports "architecture rtl of DR_ENTITY_NAME is".toList =
      ["architecture " ++ "rtl" ++ " of " ++ unit ++ " is"] :=
    renderLine_named (by decide) (by decide) (by decide) (by decide)
  have declares : renderLine .vhdl unit ports "-- USER_PORT".toList =
      separated ";" "" (ports.map fun port => "        " ++ Vhdl.portText port) := rfl
  have fixed : ∀ line ∈ ["library ieee;", "use ieee.std_logic_1164.all;", "", "    port (", "    );",
      "begin", "end rtl;"], renderLine .vhdl unit ports line.toList = [line] := by
    have plain : ∀ line ∈ ["library ieee;", "use ieee.std_logic_1164.all;", "", "    port (", "    );",
        "begin", "end rtl;"], 'D' ∉ line.toList ∧
          Marker.ofLine? Language.vhdl.comment line.toList ≠ some .port := by
      simp only [List.forall_mem_cons]
      repeat rw [String.toList_ofList]
      decide +kernel
    exact fun line member => renderLine_fixed (plain line member)
  simp only [List.forall_mem_cons] at fixed
  rw [Builtin.lines_text, Builtin.charLines, List.flatMap_map]
  simp only [Builtin.templateLines, List.flatMap_cons, List.flatMap_nil, fixed, entity, ends,
    architecture, declares, clause, List.cons_append, List.nil_append, List.append_assoc]
  rfl

/-- The skeleton of an entity is as printable as its names. -/
theorem isAscii_render (named : AllIn isDeclarationChar unit)
    (spelled : ∀ port ∈ ports, AllIn isDeclarationChar port.spelling) :
    IsAscii (render (Builtin.skeleton.text .vhdl) .vhdl unit ports).toList := by
  have indented : ∀ text ∈ ports.map fun port => "        " ++ Vhdl.portText port,
      AllIn isDeclarationChar text :=
    List.forall_mem_map.mpr fun port member =>
      allIn_append.mpr ⟨by decide, Vhdl.allIn_portText (spelled port member)⟩
  have endings : AllIn isDeclarationChar ";" ∧ AllIn isDeclarationChar "" := by decide
  have declared := fun line member => (allIn_separated indented endings line member).code
  have coded := named.code
  have lines : ∀ line ∈ (lines (Builtin.skeleton.text .vhdl).toList).flatMap (renderLine .vhdl unit ports),
      AllIn isCodeChar line := by
    rw [renderLines_vhdl, clause]
    simp only [List.forall_mem_append, List.forall_mem_cons, allIn_append, coded, and_true]
    refine ⟨⟨⟨?_, ⟨?_, ⟨?_, declared⟩, ?_⟩, ?_⟩, ?_⟩, ?_⟩
    all_goals decide +kernel
  rw [render, toList_unlines]
  intro c member
  obtain ⟨line, present, inLine⟩ := List.mem_flatMap.mp member
  rcases List.mem_append.mp inLine with inside | ending
  · exact (lines line present).isAscii c inside
  · exact List.mem_singleton.mp ending ▸ by decide

end Skeleton

namespace Vhdl

open Declarations

variable {unit : String} {ports : List Port}

theorem inside_clause (named : ∀ port ∈ ports, IsWord port.spelling.toList) (other : IsWord unit.toList) :
    ∀ line ∈ Skeleton.clause ports, Inside "entity" unit line.toList := by
  have spelled : IsWord "entity".toList := by decide
  have known : ∀ ending ∈ [";", ""], ending ∈ endings := by decide
  have blank : "        ".toList = List.replicate 8 ' ' := by decide
  have idle : Idle "    port (".toList ∧ Idle "    );".toList := by decide
  have declared : ∀ line ∈ separated ";" "" (ports.map fun port => "        " ++ portText port),
      Inside "entity" unit line.toList := forall_mem_separated fun port present ending chosen =>
    inside_portText 8 blank (named port present) (known ending chosen) spelled other
  rw [Skeleton.clause, List.forall_mem_append, List.forall_mem_cons, List.forall_mem_singleton]
  exact ⟨⟨idle.1.inside, declared⟩, idle.2.inside⟩

/-- The lines inside the new entity declare its ports. -/
theorem portsOn_clause (named : ∀ port ∈ ports, IsWord port.spelling.toList) :
    (Skeleton.clause ports).flatMap (fun line => portsOn line.toList) =
      ports.map fun port => .declare .vhdl port.spelling port.direction port.range := by
  have known : ∀ ending ∈ [";", ""], ending ∈ endings := by decide
  have blank : "        ".toList = List.replicate 8 ' ' := by decide
  have idle : Idle "    port (".toList ∧ Idle "    );".toList := by decide
  have declared : (separated ";" "" (ports.map fun port => "        " ++ portText port)).flatMap
      (fun line => portsOn line.toList) =
        ports.flatMap fun port => [.declare .vhdl port.spelling port.direction port.range] :=
    flatMap_separated fun port member ending chosen =>
      portsOn_portText 8 blank (named port member) (known ending chosen)
  rw [Skeleton.clause, List.flatMap_append, List.flatMap_cons, List.flatMap_singleton,
    idle.1.portsOn, idle.2.portsOn, declared, List.nil_append, List.append_nil, List.map_eq_flatMap]

/-- The scanner finds the entity of a skeleton, its ports and nothing else. -/
theorem scan_skeleton (named : IsWord unit.toList)
    (words : ∀ port ∈ ports, IsWord port.spelling.toList) (file : String) :
    scan (Skeleton.render (Builtin.skeleton.text .vhdl) .vhdl unit ports) file =
      { units := [.declare .vhdl unit file]
        ports := ports.map fun port =>
          (Language.vhdl.fold unit, .declare .vhdl port.spelling port.direction port.range)
        instances := [] } := by
  have lead : ∀ line ∈ ["library ieee;", "use ieee.std_logic_1164.all;", ""],
      OpensNoUnit line.toList := by decide +kernel
  have folded : IsWord (Language.vhdl.fold unit).toList := folded_toList unit ▸ isWord_folded named
  have body : Language.vhdl.fold "rtl" = "rtl" := by decide +kernel
  have silent : ∀ line ∈ ["begin", ""], Silent "rtl" line.toList := by decide +kernel
  have inside : ∀ line ∈ ["begin", ""], Inside "architecture" (Language.vhdl.fold "rtl") line.toList :=
    fun line member => body.symm ▸ (silent line member).toInside
  have bodyNamed : IsWord "rtl".toList := by decide
  have whole : Reads file _ {} _ :=
    .unitFile lead named bodyNamed (by decide) (inside_clause words folded) inside
  rw [Skeleton.render, Skeleton.renderLines_vhdl, whole.scan_eq, portsOn_clause words,
    flatMap_instancesOn_of_silent silent, List.map_map]
  rfl

end Vhdl

/-! ## The command -/

variable {lang : Language} {disk after : Disk} {unit : String} {ports : List Port} {seen : List String}

namespace Skeleton

theorem portFault_eq_none_iff {port : Port} : portFault lang seen port = none ↔
    lang.isValidName port.spelling ∧ port.name ∉ seen := by
  unfold portFault
  cases valid : lang.isValidName port.spelling with
  | false => simp
  | true => by_cases repeated : port.name ∈ seen <;> simp [repeated]

/-- The ports of a unit are without fault if their names are valid, new and different. -/
theorem portsFault_eq_none_iff : portsFault lang seen ports = none ↔
    (∀ port ∈ ports, lang.isValidName port.spelling ∧ port.name ∉ seen) ∧
      (ports.map Port.name).Nodup := by
  induction ports generalizing seen with
  | nil => simp [portsFault]
  | cons port rest ih =>
    rw [portsFault, Option.or_eq_none_iff, portFault_eq_none_iff, ih, List.forall_mem_cons, List.map_cons,
      List.nodup_cons]
    constructor
    · rintro ⟨first, others, distinct⟩
      refine ⟨⟨first, fun other member => ⟨(others other member).1, fun old => ?_⟩⟩, ?_, distinct⟩
      · exact (others other member).2 (List.mem_cons_of_mem _ old)
      · intro again
        obtain ⟨other, member, same⟩ := List.mem_map.mp again
        exact (others other member).2 (same ▸ List.mem_cons_self)
    · rintro ⟨⟨first, others⟩, fresh, distinct⟩
      refine ⟨first, fun other member => ⟨(others other member).1, fun old => ?_⟩, distinct⟩
      rcases List.mem_cons.mp old with same | old
      · exact fresh (same ▸ List.mem_map_of_mem member)
      · exact (others other member).2 old

theorem fault?_eq_none_iff : fault? lang unit ports = none ↔ lang.isValidName unit ∧
    (∀ port ∈ ports, lang.isValidName port.spelling) ∧ (ports.map Port.name).Nodup := by
  unfold fault?
  cases lang.isValidName unit with
  | false => simp
  | true => simp [portsFault_eq_none_iff]

end Skeleton

theorem generateSkeleton_eq_ok_iff {template : String} {dest : Path} :
    generateSkeleton disk template dest lang unit ports = .ok after ↔
      Skeleton.fault? lang unit ports = none ∧
        disk.replace dest (Skeleton.render template lang unit ports).toUTF8.toList = .ok after := by
  unfold generateSkeleton
  cases Skeleton.fault? lang unit ports with
  | some fault => simp
  | none => simp [writeText, except_mapError_eq_ok_iff]

namespace Command

/-- The port that a specification asks for: a vector numbered down to zero, or a single bit. -/
def PortSpec.asked (lang : Language) (spec : PortSpec) : Port where
  name := lang.fold spec.name
  spelling := spec.name
  direction := spec.direction
  range := if 1 < spec.width then some ⟨spec.width - 1, 0, UInt64.zero_le⟩ else none

namespace PortSpec

theorem asked_eq (spec : PortSpec) :
    spec.asked lang = .ofWidth lang spec.name spec.direction spec.width := by
  rw [Port.ofWidth_eq, asked]

theorem toPort_eq_ok_iff (spec : PortSpec) (port : Port) :
    spec.toPort lang = .ok port ↔ spec.width ≠ 0 ∧ spec.asked lang = port := by
  unfold toPort
  split
  · next empty => simp [empty]
  · next bits => simp [bits, asked_eq]

/-- Declaring an asked port by its range gives the port itself. -/
theorem declare_asked (spec : PortSpec) : Port.declare lang (spec.asked lang).spelling
    (spec.asked lang).direction (spec.asked lang).range = spec.asked lang := by
  rw [asked_eq]
  exact Port.declare_ofWidth lang spec.name spec.direction spec.width

end PortSpec

namespace New

variable {c : New} {host : Host} {dest : Path}

/-- A unit can be declared: it has ports, each of them has a bit, the names are valid, and no two ports
have the same one. -/
structure Declarable (c : New) (lang : Language) : Prop where
  nonempty : c.ports ≠ []
  widths : ∀ spec ∈ c.ports, spec.width ≠ 0
  unit : lang.isValidName c.unit
  names : ∀ spec ∈ c.ports, lang.isValidName spec.name
  distinct : (c.ports.map fun spec => lang.fold spec.name).Nodup

/-- The skeleton of the unit. -/
def text (c : New) (lang : Language) : String :=
  Skeleton.render (Builtin.skeleton.text lang) lang c.unit (c.ports.map (PortSpec.asked lang))

theorem fault?_asked_eq_none_iff :
    Skeleton.fault? lang c.unit (c.ports.map (PortSpec.asked lang)) = none ↔
      lang.isValidName c.unit ∧ (∀ spec ∈ c.ports, lang.isValidName spec.name) ∧
        (c.ports.map fun spec => lang.fold spec.name).Nodup := by
  rw [Skeleton.fault?_eq_none_iff, List.forall_mem_map, List.map_map]
  rfl

theorem write_eq_ok_iff : c.write disk lang dest = .ok after ↔
    (disk.hasEntry dest → c.force) ∧ c.Declarable lang ∧
      disk.replace dest (c.text lang).toUTF8.toList = .ok after := by
  unfold write
  split
  · next refused =>
    simp only [Bool.and_eq_true, Bool.not_eq_true'] at refused
    simp [refused]
  · next allowed =>
    have may : disk.hasEntry dest → c.force := by simpa using allowed
    split
    · next empty => exact iff_of_false (fun same => by cases same) fun success => success.2.1.nonempty empty
    · next nonempty =>
      rw [except_mapError_eq_ok_iff]
      refine except_bind_eq_ok_iff.trans ?_
      constructor
      · rintro ⟨ports, converted, generated⟩
        obtain ⟨widths, rfl⟩ := (except_mapM_eq_ok_iff PortSpec.toPort_eq_ok_iff).mp converted
        obtain ⟨sound, written⟩ := generateSkeleton_eq_ok_iff.mp generated
        obtain ⟨unit, names, distinct⟩ := fault?_asked_eq_none_iff.mp sound
        exact ⟨may, ⟨nonempty, widths, unit, names, distinct⟩, written⟩
      · rintro ⟨-, ⟨-, widths, unit, names, distinct⟩, written⟩
        refine ⟨_, (except_mapM_eq_ok_iff PortSpec.toPort_eq_ok_iff).mpr ⟨widths, rfl⟩, ?_⟩
        exact generateSkeleton_eq_ok_iff.mpr
          ⟨fault?_asked_eq_none_iff.mpr ⟨unit, names, distinct⟩, written⟩

theorem scan_text (sound : c.Declarable .vhdl) (file : String) :
    Vhdl.scan (c.text .vhdl) file =
      { units := [⟨Language.vhdl.fold c.unit, c.unit, file⟩]
        ports := c.ports.map fun spec => (Language.vhdl.fold c.unit, spec.asked .vhdl)
        instances := [] } := by
  have words : ∀ port ∈ c.ports.map (PortSpec.asked .vhdl), IsWord port.spelling.toList :=
    List.forall_mem_map.mpr fun spec member => Vhdl.isWord_of_isValidName (sound.names spec member)
  have declared : ∀ spec ∈ c.ports, (Language.vhdl.fold c.unit, Port.declare .vhdl
      (spec.asked .vhdl).spelling (spec.asked .vhdl).direction (spec.asked .vhdl).range) =
        (Language.vhdl.fold c.unit, spec.asked .vhdl) := fun spec _ => by
    rw [PortSpec.declare_asked]
  rw [text, Vhdl.scan_skeleton (Vhdl.isWord_of_isValidName sound.unit) words, List.map_map]
  exact congrArg (Declarations.mk _ · _) (List.map_congr_left declared)

/-- Creating an entity succeeds exactly if its file is absent or may be overwritten, if the entity can be
declared and if its file has a place. A run that fails leaves the disk as it is. One that succeeds writes
a file at that place and changes no other, and the scanner finds the entity in the written text with
exactly the ports that were asked for. -/
theorem creates_or_keeps (c : New) (host : Host)
    (vhdl : c.language.getD host.settings.language = .vhdl) :
    ((c.run host).failure = none ↔
      (host.disk.hasEntry (c.destination .vhdl) → c.force) ∧ c.Declarable .vhdl ∧
        ∃ place, host.disk.destination (c.destination .vhdl) = .ok place) ∧
    ((c.run host).failure ≠ none → (c.run host).disk = host.disk) ∧
    ((c.run host).failure = none → ∃ place text executable,
      host.disk.destination (c.destination .vhdl) = .ok place ∧
      (c.run host).disk = host.disk.put place (.file text.toUTF8.toList executable) ∧
      (∀ other, other ≠ place → (c.run host).disk.at? other = host.disk.at? other) ∧
      ∀ file, Vhdl.scan text file =
        { units := [⟨Language.vhdl.fold c.unit, c.unit, file⟩]
          ports := c.ports.map fun spec => (Language.vhdl.fold c.unit, spec.asked .vhdl)
          instances := [] }) := by
  unfold run
  rw [vhdl]
  simp only
  cases written : c.write host.disk .vhdl (c.destination .vhdl) with
  | error reason =>
    refine ⟨iff_of_false (fun success => by cases success) ?_, fun _ => rfl,
      fun success => by cases success⟩
    rintro ⟨may, sound, place, reached⟩
    have success := write_eq_ok_iff.mpr ⟨may, sound, except_map_eq_ok_iff.mpr ⟨place, reached, rfl⟩⟩
    rw [written] at success
    cases success
  | ok after =>
    obtain ⟨may, sound, replaced⟩ := write_eq_ok_iff.mp written
    obtain ⟨place, reached, rfl⟩ := except_map_eq_ok_iff.mp replaced
    refine ⟨iff_of_true rfl ⟨may, sound, place, reached⟩, fun failed => absurd rfl failed, fun _ => ?_⟩
    refine ⟨place, c.text .vhdl, _, reached, rfl, fun other apart => ?_, scan_text sound⟩
    rw [Disk.at?_put, if_neg apart]

/-- An entity with a clock and a vector. -/
def counter : New where
  unit := "Counter"
  ports := [⟨"clk", .input, 1⟩, ⟨"Q", .output, 8⟩]
  language := some .vhdl
  output := none
  force := false

theorem declarable_counter : counter.Declarable .vhdl where
  nonempty := List.cons_ne_nil _ _
  widths := by decide
  unit := by rw [Vhdl.isValidName_eq]; decide
  names := by
    simp only [Vhdl.isValidName_eq]
    decide
  distinct := by decide +kernel

/-- A host with an empty working directory and without an analysis tool. -/
def emptyHost : Host where
  disk := .empty
  launch := fun _ _ _ _ => .notFound

/-- In an empty directory the counter is created, and it declares a bit and a vector of eight. -/
theorem creates_counter : counter.language.getD emptyHost.settings.language = .vhdl ∧
    (counter.run emptyHost).failure = none ∧ ∃ text executable,
      (counter.run emptyHost).disk =
        emptyHost.disk.put (Place.here ++ ["Counter.vhdl"]) (.file text.toUTF8.toList executable) ∧
      Vhdl.scan text "Counter.vhdl" =
        { units := [⟨"counter", "Counter", "Counter.vhdl"⟩]
          ports := [("counter", ⟨"clk", "clk", .input, none⟩),
            ("counter", ⟨"q", "Q", .output, some ⟨7, 0, by decide⟩⟩)]
          instances := [] } := by
  have dest : counter.destination .vhdl = ⟨"Counter.vhdl"⟩ := by decide +kernel
  have free : emptyHost.disk.hasEntry ⟨"Counter.vhdl"⟩ = false := by decide +kernel
  have target : emptyHost.disk.destination ⟨"Counter.vhdl"⟩ = .ok (Place.here ++ ["Counter.vhdl"]) := by
    decide +kernel
  have folded : Language.vhdl.fold "Counter" = "counter" := by decide +kernel
  have ports : (counter.ports.map fun spec => ("counter", spec.asked .vhdl)) =
      [("counter", ⟨"clk", "clk", .input, none⟩),
        ("counter", ⟨"q", "Q", .output, some ⟨7, 0, by decide⟩⟩)] := by decide +kernel
  obtain ⟨succeeds, -, written⟩ := creates_or_keeps counter emptyHost rfl
  rw [dest] at succeeds written
  have created : (counter.run emptyHost).failure = none :=
    succeeds.mpr ⟨fun present => absurd present (by simp [free]), declarable_counter, _, target⟩
  obtain ⟨place, text, executable, reached, disk, -, scanned⟩ := written created
  obtain rfl := Except.ok.inj (target.symm.trans reached)
  refine ⟨rfl, created, text, executable, disk, ?_⟩
  have unit : Language.vhdl.fold counter.unit = "counter" := folded
  rw [scanned "Counter.vhdl", unit, ports]
  rfl

/-- The text of an entity whose names are ASCII is ASCII. -/
theorem isAscii_text (sound : c.Declarable .vhdl) (unit : IsAscii c.unit.toList)
    (names : ∀ spec ∈ c.ports, IsAscii spec.name.toList) : IsAscii (c.text .vhdl).toList := by
  have declared {name : String} (valid : Language.vhdl.isValidName name) (ascii : IsAscii name.toList) :
      AllIn isDeclarationChar name :=
    declarative_of_named fun letter member => Vhdl.isNameChar_of_isWordChar
      (Nat.lt_trans (ascii letter member) (by decide))
      ((Vhdl.isWord_of_isValidName valid).inside letter member)
  exact Skeleton.isAscii_render (declared sound.unit unit) (List.forall_mem_map.mpr fun spec member =>
    declared (sound.names spec member) (names spec member))

theorem write_of_run (vhdl : c.language.getD host.settings.language = .vhdl)
    (created : (c.run host).failure = none) :
    c.write host.disk .vhdl (c.destination .vhdl) = .ok (c.run host).disk := by
  unfold run at created ⊢
  rw [vhdl] at created ⊢
  dsimp only at created ⊢
  cases written : c.write host.disk .vhdl (c.destination .vhdl) with
  | error reason =>
    rw [written] at created
    cases created
  | ok after => rfl

/-- An entity whose names are ASCII is found in its file, unless the system or a link is at its place. -/
theorem readVhdl_created (c : New) (host : Host)
    (vhdl : c.language.getD host.settings.language = .vhdl) (created : (c.run host).failure = none)
    (unit : IsAscii c.unit.toList) (names : ∀ spec ∈ c.ports, IsAscii spec.name.toList)
    (own : ∀ place, host.disk.destination (c.destination .vhdl) = .ok place →
      host.disk.machine.fixture? place = none ∧ ∀ target, host.disk.at? place ≠ some (.link target)) :
    (readVhdl (c.run host).disk (c.destination .vhdl)).result =
      .ok { units := [⟨Language.vhdl.fold c.unit, c.unit, (c.destination .vhdl).fileName⟩]
            ports := c.ports.map fun spec => (Language.vhdl.fold c.unit, spec.asked .vhdl)
            instances := [] } := by
  obtain ⟨-, sound, replaced⟩ := write_eq_ok_iff.mp (write_of_run vhdl created)
  obtain ⟨place, reached, put⟩ := except_map_eq_ok_iff.mp replaced
  obtain ⟨free, unlinked⟩ := own place reached
  have read := (Disk.written_put reached free unlinked (c.text .vhdl).toUTF8.toList
    (host.disk.isExecutableAt place)).read reached ((Disk.at?_put_of_free free place).trans (if_pos rfl))
  rw [put] at read
  rw [readVhdl, read]
  dsimp only
  rw [ofBytes_toUTF8 (isAscii_text sound unit names), String.ofList_toList, scan_text sound]

/-- The counter is found in the file that was created for it. -/
theorem readVhdl_counter : (readVhdl (counter.run emptyHost).disk ⟨"Counter.vhdl"⟩).result =
    .ok { units := [⟨"counter", "Counter", "Counter.vhdl"⟩]
          ports := [("counter", ⟨"clk", "clk", .input, none⟩),
            ("counter", ⟨"q", "Q", .output, some ⟨7, 0, by decide⟩⟩)]
          instances := [] } := by
  have dest : counter.destination .vhdl = ⟨"Counter.vhdl"⟩ := by decide +kernel
  have target : emptyHost.disk.destination ⟨"Counter.vhdl"⟩ = .ok (Place.here ++ ["Counter.vhdl"]) := by
    decide +kernel
  have created : (counter.run emptyHost).failure = none := by decide +kernel
  have ascii : IsAscii counter.unit.toList ∧ ∀ spec ∈ counter.ports, IsAscii spec.name.toList := by
    decide
  have own (place : Place) (reached : emptyHost.disk.destination (counter.destination .vhdl) = .ok place) :
      emptyHost.disk.machine.fixture? place = none ∧
        ∀ target, emptyHost.disk.at? place ≠ some (.link target) := by
    rw [dest] at reached
    obtain rfl := Except.ok.inj (target.symm.trans reached)
    have free : emptyHost.disk.machine.fixture? (Place.here ++ ["Counter.vhdl"]) = none :=
      Disk.fixture?_of_isInside (by decide) (by decide)
    refine ⟨free, fun link => ?_⟩
    rw [Disk.at?, free]
    exact fun held => by cases held
  have found := readVhdl_created counter emptyHost rfl created ascii.1 ascii.2 own
  rw [dest] at found
  rw [found]
  decide +kernel

end New

end Command

end BoardBind
