import BoardBind.Port
import Mathlib.Data.List.Basic
import Mathlib.Order.Defs.LinearOrder
import Mathlib.Data.String.Basic

/-! # Sorted ports and their single bits

Sorting by name is stable: ports of one folded name keep the order in which they were declared. Every
port has at least one bit, and a bit is told by its name and direction. A port that is declared by its
width has its bits numbered down to zero.
-/

namespace BoardBind

/-- What a bit is, whatever it is bound to. -/
def PortBit.shape (bit : PortBit) : String × Direction :=
  (bit.name, bit.direction)

namespace BitRange

/-- The indices of a vector with more than one bit, from the last one down to zero. -/
theorem ofWidth_eq {width : UInt64} (several : 1 < width) :
    ofWidth width = ⟨width - 1, 0, UInt64.zero_le⟩ := by
  have bits : width ≠ 0 := by
    rintro rfl
    exact absurd several (by decide)
  rw [ofWidth, if_neg bits]
  exact dif_pos UInt64.zero_le

theorem width_downto (width : UInt64) :
    (⟨width - 1, 0, UInt64.zero_le⟩ : BitRange).width = width := by
  rw [BitRange.width, UInt64.sub_zero, UInt64.sub_add_cancel]

/-- The number of indices wraps if there is one for each word. -/
theorem toNat_width (range : BitRange) :
    range.width.toNat = (range.upper.toNat - range.lower.toNat + 1) % 2 ^ 64 := by
  rw [width, UInt64.toNat_add, UInt64.toNat_sub_of_le _ _ range.lower_le_upper]
  rfl

end BitRange

namespace Port

/-- A port of a given width has the indices from the last one down to zero, or is a single bit. -/
theorem ofWidth_eq (lang : Language) (spelling : String) (direction : Direction) (width : UInt64) :
    ofWidth lang spelling direction width = ⟨lang.fold spelling, spelling, direction,
      if 1 < width then some ⟨width - 1, 0, UInt64.zero_le⟩ else none⟩ := by
  rw [ofWidth, declare]
  split
  · next several =>
    rw [BitRange.ofWidth_eq several, Option.filter_some, BitRange.width_downto,
      decide_eq_true several, if_pos rfl]
  · rfl

/-- A port that is declared by its width is the same when it is declared by its range. -/
theorem declare_ofWidth (lang : Language) (spelling : String) (direction : Direction) (width : UInt64) :
    declare lang spelling direction (ofWidth lang spelling direction width).range =
      ofWidth lang spelling direction width := by
  simp only [ofWidth, declare, Option.filter_filter, Bool.and_self]

/-- A list of ports in the order of their names, with ports of one name in their given order. -/
structure SortedByName (ports sorted : List Port) : Prop where
  perm : sorted.Perm ports
  ordered : sorted.Pairwise fun first second => first.name ≤ second.name
  stable : ∀ name, sorted.filter (·.name = name) = ports.filter (·.name = name)

/-- Two lists in the order of their names are the same if they have the same ports of each name. -/
theorem eq_of_ordered {first second : List Port}
    (orderedFirst : first.Pairwise fun a b => a.name ≤ b.name)
    (orderedSecond : second.Pairwise fun a b => a.name ≤ b.name)
    (same : ∀ name, first.filter (·.name = name) = second.filter (·.name = name)) : first = second := by
  have mem_iff (port : Port) : port ∈ first ↔ port ∈ second := by
    have atName := congrArg (port ∈ ·) (same port.name)
    simpa [List.mem_filter] using atName
  induction first generalizing second with
  | nil => exact (List.eq_nil_iff_forall_not_mem.mpr fun port => by simp [← mem_iff port]).symm
  | cons a first ih =>
    cases second with
    | nil => exact absurd ((mem_iff a).mp List.mem_cons_self) List.not_mem_nil
    | cons b second =>
      rw [List.pairwise_cons] at orderedFirst orderedSecond
      have le_of_mem : ∀ port ∈ b :: second, b.name ≤ port.name :=
        List.forall_mem_cons.mpr ⟨le_refl _, orderedSecond.1⟩
      have ge_of_mem : ∀ port ∈ a :: first, a.name ≤ port.name :=
        List.forall_mem_cons.mpr ⟨le_refl _, orderedFirst.1⟩
      have names : a.name = b.name := le_antisymm (ge_of_mem b ((mem_iff b).mpr List.mem_cons_self))
        (le_of_mem a ((mem_iff a).mp List.mem_cons_self))
      have heads := same a.name
      rw [List.filter_cons_of_pos (by simp), List.filter_cons_of_pos (by simp [names])] at heads
      obtain ⟨rfl, tails⟩ := List.cons.inj heads
      have rest : ∀ name, first.filter (·.name = name) = second.filter (·.name = name) := by
        intro name
        by_cases own : a.name = name
        · exact own ▸ tails
        · have whole := same name
          rwa [List.filter_cons_of_neg (by simpa using own),
            List.filter_cons_of_neg (by simpa using own)] at whole
      refine congrArg (List.cons a) (ih orderedFirst.2 orderedSecond.2 rest fun port => ?_)
      have atName := congrArg (port ∈ ·) (rest port.name)
      simpa [List.mem_filter] using atName

/-- Ports are sorted by name in one way only. -/
theorem SortedByName.unique {ports first second : List Port} (sortedFirst : SortedByName ports first)
    (sortedSecond : SortedByName ports second) : first = second :=
  eq_of_ordered sortedFirst.ordered sortedSecond.ordered fun name =>
    (sortedFirst.stable name).trans (sortedSecond.stable name).symm

theorem sortedByName_sortByName (ports : List Port) : SortedByName ports (sortByName ports) := by
  have transitive : ∀ a b c : Port, !decide (b.name < a.name) → !decide (c.name < b.name) →
      !decide (c.name < a.name) := by
    simp only [Bool.not_eq_true', decide_eq_false_iff_not, String.not_lt]
    exact fun _ _ _ => le_trans
  have total : ∀ a b : Port, !decide (b.name < a.name) || !decide (a.name < b.name) := by
    simp only [Bool.or_eq_true, Bool.not_eq_true', decide_eq_false_iff_not, String.not_lt]
    exact fun a b => le_total a.name b.name
  have perm : (sortByName ports).Perm ports := List.mergeSort_perm ports _
  refine ⟨perm, ?_, fun name => ?_⟩
  · refine (List.pairwise_mergeSort transitive total ports).imp fun ordered => ?_
    simpa only [Bool.not_eq_true', decide_eq_false_iff_not, String.not_lt] using ordered
  · -- The ports of one name are in order as they are, so sorting keeps them as a sublist.
    have inOrder : (ports.filter (·.name = name)).Pairwise fun a b => !decide (b.name < a.name) := by
      refine List.pairwise_of_forall_mem_list fun a first b second => ?_
      have sameA := of_decide_eq_true (List.mem_filter.mp first).2
      have sameB := of_decide_eq_true (List.mem_filter.mp second).2
      rw [sameA, sameB, Bool.not_eq_true', decide_eq_false_iff_not]
      exact lt_irrefl name
    have kept := (List.sublist_mergeSort transitive total inOrder List.filter_sublist).filter
      fun port : Port => decide (port.name = name)
    rw [List.filter_filter] at kept
    simp only [Bool.and_self] at kept
    exact (kept.eq_of_length (perm.filter _).length_eq.symm).symm

theorem bits_ne_nil (lang : Language) (port : Port) : port.bits lang ≠ [] := by
  unfold bits
  split
  · simp [BitRange.indices]
  · exact List.cons_ne_nil _ _

end Port

end BoardBind
