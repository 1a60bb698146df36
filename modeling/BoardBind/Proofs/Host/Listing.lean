import BoardBind.Proofs.Host.Disk
import Mathlib.Data.List.Sort

/-! # Listing a directory after a file is written

When a file is written where a file or nothing was, all that led somewhere leads there still, and the
directories list the same names as before, apart from that of the file.
-/

namespace BoardBind.Disk

variable {disk after : Disk} {path directory : Path} {place here parent final : Place} {name written : String}
  {names : List String} {links : Nat} {trail : Trail} {bytes : List UInt8} {executable : Bool}

/-- A disk is another one after a file was written at a place where a file or nothing was. -/
structure Written (place : Place) (disk after : Disk) : Prop where
  machine : after.machine = disk.machine
  apart : ∀ key, key ≠ place → after.at? key = disk.at? key
  filed : ∃ bytes executable, after.at? place = some (.file bytes executable)
  replaced : ∀ node, disk.at? place = some node → ∃ bytes executable, node = .file bytes executable

/-- A file takes the place of its path unless the system or a link is there. -/
theorem written_put (reached : disk.destination path = .ok place)
    (free : disk.machine.fixture? place = none)
    (unlinked : ∀ target, disk.at? place ≠ some (.link target)) (bytes : List UInt8) (executable : Bool) :
    Written place disk (disk.put place (.file bytes executable)) := by
  refine ⟨rfl, fun key apart => ?_, ⟨bytes, executable, ?_⟩, fun node old => ?_⟩
  · rw [at?_put_of_free free, if_neg apart]
  · rw [at?_put_of_free free, if_pos rfl]
  · obtain ⟨-, -, -, -, above, name, -, rfl, before, present, kept⟩ := destination_eq_ok_iff.mp reached
    cases node with
    | file bytes executable => exact ⟨bytes, executable, rfl⟩
    | directory =>
      rw [lookUp] at present
      split at present
      · cases present
      · exact absurd (Except.ok.inj present ▸ old) kept
    | link target => exact absurd old (unlinked target)

namespace Written

variable (write : Written place disk after)

include write

theorem at?_eq {key : Place} {node : Node} (found : disk.at? key = some node)
    (unfiled : ∀ bytes executable, node ≠ .file bytes executable) : after.at? key = some node := by
  have elsewhere : key ≠ place := by
    rintro rfl
    obtain ⟨bytes, executable, same⟩ := write.replaced node found
    exact unfiled bytes executable same
  exact (write.apart key elsewhere).trans found

theorem exists_file {key : Place} (found : disk.at? key = some (.file bytes executable)) :
    ∃ bytes executable, after.at? key = some (.file bytes executable) := by
  by_cases own : key = place
  · exact own ▸ write.filed
  · exact ⟨_, _, (write.apart key own).trans found⟩

theorem descends (success : disk.Descends here names trail) : after.Descends here names trail := by
  induction success with
  | arrived => exact .arrived
  | up _ ih => exact .up ih
  | directory sideways short found _ ih =>
    exact .directory sideways short (write.at?_eq found fun _ _ same => by cases same) ih
  | file sideways short found =>
    obtain ⟨_, _, filed⟩ := write.exists_file found
    exact .file sideways short filed
  | link sideways short found =>
    exact .link sideways short (write.at?_eq found fun _ _ same => by cases same)

/-- Names that led somewhere lead there still. -/
theorem leads (way : disk.Leads links here names final) : after.Leads links here names final := by
  induction way with
  | arrived trail => exact .arrived (write.descends trail)
  | linked trail _ ih =>
    rw [← linkOrigin_congr write.machine] at ih
    exact .linked (write.descends trail) ih

/-- A directory is found where it was. -/
theorem find_directory (found : disk.find path = .ok (parent, .directory)) :
    after.find path = .ok (parent, .directory) := by
  obtain ⟨sound, followed, directory, -⟩ := find_eq_ok_iff.mp found
  have leads := follow_eq_ok_iff.mpr (write.leads (follow_eq_ok_iff.mp followed))
  rw [← origin_congr write.machine rfl] at leads
  have still := write.at?_eq directory fun _ _ same => by cases same
  exact find_eq_ok_iff.mpr ⟨sound, leads, still, .inl rfl⟩

end Written

section Append

variable (more : List String)

/-- Names behind those that lead to a directory are followed from there. -/
theorem Descends.append (success : disk.Descends here names trail) :
    (∀ place last, trail = .arrived place → disk.at? place = some .directory →
      disk.Descends place more last → disk.Descends here (names ++ more) last) ∧
    ∀ place target rest, trail = .interrupted place target rest →
      disk.Descends here (names ++ more) (.interrupted place target (rest ++ more)) := by
  induction success with
  | arrived =>
    refine ⟨fun place _ same _ behind => ?_, fun _ _ _ same => by cases same⟩
    exact Trail.arrived.inj same ▸ behind
  | up _ ih =>
    exact ⟨fun place last same directory behind => .up (ih.1 place last same directory behind),
      fun place target rest same => .up (ih.2 place target rest same)⟩
  | directory sideways short found _ ih =>
    exact ⟨fun place last same directory behind =>
        .directory sideways short found (ih.1 place last same directory behind),
      fun place target rest same => .directory sideways short found (ih.2 place target rest same)⟩
  | file _ _ found =>
    refine ⟨fun place _ same directory _ => ?_, fun _ _ _ same => by cases same⟩
    rw [← Trail.arrived.inj same, found] at directory
    cases directory
  | link sideways short found =>
    refine ⟨fun _ _ same => (by cases same), fun place target rest same => ?_⟩
    obtain ⟨rfl, rfl, rfl⟩ := Trail.interrupted.inj same
    exact .link sideways short found

theorem Leads.append (way : disk.Leads links here names parent)
    (directory : disk.at? parent = some .directory)
    (behind : disk.Descends parent more (.arrived final)) :
    disk.Leads links here (names ++ more) final := by
  induction way with
  | arrived trail => exact .arrived ((trail.append more).1 _ _ rfl directory behind)
  | linked trail _ ih =>
    refine .linked ((trail.append more).2 _ _ _ rfl) ?_
    rw [← List.append_assoc]
    exact ih directory behind

end Append

/-- A file that was written at the place of its path is read there. -/
theorem Written.read (write : Written place disk after) (reached : disk.destination path = .ok place)
    (filed : after.at? place = some (.file bytes executable)) : after.read path = .ok bytes := by
  obtain ⟨-, -, -, plain, parent, name, step, rfl, old, present, -⟩ := destination_eq_ok_iff.mp reached
  obtain ⟨own, last, named⟩ := exists_name_of_not_wantsDirectory plain
  obtain ⟨sound, away, entered, rfl, sideways⟩ := (lastStep_eq_ok_iff last named).mp step
  obtain ⟨followed, atParent⟩ := followToDirectory_eq_ok_iff.mp entered
  have parts := (directoryOf_of_named last named).1
  have origins := (origin_append disk path (directoryOf path).parts name).resolve_right (parts ▸ away)
  have short : ¬ nameLimit < name.utf8ByteSize := by
    intro long
    rw [lookUp, if_pos long] at present
    cases present
  have directory : after.at? parent = some .directory :=
    write.at?_eq atParent fun _ _ same => by cases same
  have way := (write.leads (follow_eq_ok_iff.mp followed)).append [name] directory
    (.file sideways short filed)
  refine read_eq_ok_iff.mpr ⟨parent ++ [name], executable, find_eq_ok_iff.mpr
    ⟨sound, ?_, filed, .inr ⟨bytes, executable, rfl, plain⟩⟩⟩
  rw [origin_congr write.machine rfl, parts, origins]
  exact follow_eq_ok_iff.mpr way

section File

variable (sideways : name ≠ "..")

include sideways

theorem follow_file_eq (short : ¬ nameLimit < name.utf8ByteSize)
    (filed : disk.at? (parent ++ [name]) = some (.file bytes executable)) :
    disk.follow links parent [name] = .ok (parent ++ [name]) :=
  follow_eq_ok_iff.mpr (.arrived (.file sideways short filed))

/-- A name that is no link leads to a file if that file is there. -/
theorem leadsToFile_iff (unlinked : ∀ target, disk.at? (parent ++ [name]) ≠ some (.link target)) :
    disk.leadsToFile parent [name] ↔ ¬ nameLimit < name.utf8ByteSize ∧
      ∃ bytes executable, disk.at? (parent ++ [name]) = some (.file bytes executable) := by
  constructor
  · intro leads
    rw [leadsToFile] at leads
    split at leads
    · next reached followed =>
      split at leads
      · next bytes executable filed =>
        cases follow_eq_ok_iff.mp followed with
        | arrived trail =>
          cases trail with
          | up => exact absurd rfl sideways
          | directory _ _ found on =>
            cases on
            cases found.symm.trans filed
          | file _ short found => exact ⟨short, _, _, found⟩
        | linked trail =>
          cases trail with
          | up => exact absurd rfl sideways
          | directory _ _ _ on => cases on
          | link _ _ found => exact absurd found (unlinked _)
      · cases leads
    · cases leads
  · rintro ⟨short, bytes, executable, filed⟩
    rw [leadsToFile, follow_file_eq sideways short filed]
    simp only [filed]

end File

/-- What is read under the name of a file in a directory. -/
theorem read_join (found : disk.find directory = .ok (parent, .directory)) (plain : '/' ∉ name.toList)
    (named : Path.isIdle name = false) (sideways : name ≠ "..")
    (short : ¬ nameLimit < name.utf8ByteSize)
    (filed : disk.at? (parent ++ [name]) = some (.file bytes executable)) :
    disk.read (directory.join ⟨name⟩) = match pathFault? (directory.join ⟨name⟩) with
      | some reason => .error reason
      | none => if disk.origin directory (directory.parts ++ [name]) = (Place.here, []) then
          .error .isDirectory
        else .ok bytes := by
  obtain ⟨sound, followed, atParent, -⟩ := find_eq_ok_iff.mp found
  have nonempty : directory.text ≠ "" := fun empty => by
    rw [pathFault?, if_pos empty] at sound
    cases sound
  have starts : disk.origin (directory.join ⟨name⟩) (directory.join ⟨name⟩).parts =
      disk.origin directory (directory.parts ++ [name]) := by
    rw [Path.parts_join nonempty plain named, origin_congr rfl (Path.isAbsolute_join nonempty plain)]
  have ends : ¬ wantsDirectory (directory.join ⟨name⟩) := by
    obtain ⟨above, joined, -⟩ := Path.segments_join nonempty plain
    simp [wantsDirectory, joined, named]
  cases fault : pathFault? (directory.join ⟨name⟩) with
  | some reason => rw [read, find, fault]
  | none =>
    rcases origin_append disk directory directory.parts name with origins | origins
    · have file : disk.find (directory.join ⟨name⟩) = .ok (parent ++ [name], .file bytes executable) := by
        refine find_eq_ok_iff.mpr ⟨fault, ?_, filed, .inr ⟨bytes, executable, rfl, ends⟩⟩
        rw [starts, origins]
        exact follow_eq_ok_iff.mpr
          ((follow_eq_ok_iff.mp followed).append [name] atParent (.file sideways short filed))
      rw [read, file]
      simp [origins]
    · have here : disk.find (directory.join ⟨name⟩) = .ok (Place.here, .directory) := by
        refine find_eq_ok_iff.mpr ⟨fault, ?_, at?_here disk, .inl rfl⟩
        rw [starts, origins, follow_nil]
      rw [read, here]
      simp [origins]

section Listing

variable {keeps : String → Bool}

/-- The order of names is that of the names that are kept. -/
theorem filter_mergeSort_congr {others : List String} (same : names.filter keeps = others.filter keeps) :
    (names.mergeSort fun a b => !decide (b < a)).filter keeps =
      (others.mergeSort fun a b => !decide (b < a)).filter keeps := by
  have sorted (names : List String) :
      (names.mergeSort fun a b => !decide (b < a)).Pairwise (fun a b => (!decide (b < a)) = true) := by
    refine List.pairwise_mergeSort (fun a b c first second => ?_) (fun a b => ?_) names
    · simp only [Bool.not_eq_true', decide_eq_false_iff_not, String.not_lt] at first second ⊢
      exact String.le_trans first second
    · simp only [Bool.or_eq_true, Bool.not_eq_true', decide_eq_false_iff_not, String.not_lt]
      exact String.le_total a b
  have perm : ((names.mergeSort fun a b => !decide (b < a)).filter keeps).Perm
      ((others.mergeSort fun a b => !decide (b < a)).filter keeps) := by
    refine ((List.mergeSort_perm names _).filter keeps).trans ?_
    rw [same]
    exact ((List.mergeSort_perm others _).filter keeps).symm
  refine perm.eq_of_pairwise (fun a b _ _ first second => ?_) ((sorted names).filter _)
    ((sorted others).filter _)
  simp only [Bool.not_eq_true', decide_eq_false_iff_not, String.not_lt] at first second
  exact String.le_antisymm first second

/-- The names that entries give to a directory, as far as they are kept. -/
theorem filter_listed (disk : Disk) (here : Place) (nodes : List (Place × Node)) :
    (nodes.filterMap fun entry => match entry.1.getLast? with
      | some name => if entry.1.dropLast = here && disk.leadsToFile here [name] then some name else none
      | none => none).filter keeps =
    nodes.filterMap fun entry => entry.1.getLast?.filter fun name =>
      keeps name && (entry.1.dropLast = here && disk.leadsToFile here [name]) := by
  rw [List.filter_filterMap]
  refine List.filterMap_congr fun entry _ => ?_
  cases entry.1.getLast? with
  | none => rfl
  | some name =>
    rw [Option.filter_some]
    dsimp only
    cases entry.1.dropLast = here && disk.leadsToFile here [name] <;> simp [Option.filter_some]

/-- Putting something at a place does not change which other names a directory lists. -/
theorem filter_filesAt_put {node : Node} (last : place.getLast? = some written)
    (unkept : keeps written = false)
    (alike : ∀ name, keeps name →
      (disk.put place node).leadsToFile here [name] = disk.leadsToFile here [name]) :
    ((disk.put place node).filesAt here).filter keeps = (disk.filesAt here).filter keeps := by
  refine filter_mergeSort_congr ?_
  refine ((filter_listed _ _ _).trans ?_).trans (filter_listed _ _ _).symm
  have own : (place.getLast?.filter fun name => keeps name &&
      (place.dropLast = here && (disk.put place node).leadsToFile here [name])) = none := by
    simp [last, unkept]
  have nodes : (disk.put place node).nodes =
      disk.nodes.filter (fun entry => entry.1 ≠ place) ++ [(place, node)] := rfl
  rw [nodes, List.filterMap_append, List.filterMap_cons, own, List.filterMap_nil, List.append_nil,
    List.filterMap_filter]
  refine List.filterMap_congr fun entry _ => ?_
  by_cases gone : entry.1 = place
  · simp [gone, last, Option.filter_some, unkept]
  · rw [if_pos (by simpa using gone)]
    cases entry.1.getLast? with
    | none => rfl
    | some name =>
      rw [Option.filter_some, Option.filter_some]
      cases kept : keeps name with
      | false => rfl
      | true => rw [alike name kept]

theorem of_mem_filesAt (member : name ∈ disk.filesAt here) :
    disk.leadsToFile here [name] ∧ ∃ entry ∈ disk.nodes, entry.1.getLast? = some name := by
  obtain ⟨entry, present, listed⟩ := List.mem_filterMap.mp (List.mem_mergeSort.mp member)
  split at listed
  · next own last =>
    split at listed
    · next leads =>
      obtain rfl := Option.some.inj listed
      exact ⟨(Bool.and_eq_true_iff.mp leads).2, entry, present, last⟩
    · cases listed
  · cases listed

end Listing

end BoardBind.Disk
