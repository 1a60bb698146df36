import BoardBind.Note
import Mathlib.Tactic.Common

/-! # Computations that succeed and computations that fail

What a result says about the parts of the computation that gave it.
-/

namespace BoardBind

variable {ε α β : Type}

theorem except_bind_eq_ok_iff {first : Except ε α} {next : α → Except ε β} {result : β} :
    first.bind next = .ok result ↔ ∃ value, first = .ok value ∧ next value = .ok result := by
  cases first <;> simp [Except.bind]

theorem except_map_eq_ok_iff {first : Except ε α} {f : α → β} {result : β} :
    first.map f = .ok result ↔ ∃ value, first = .ok value ∧ f value = result := by
  cases first <;> simp [Except.map]

theorem except_map_eq_error_iff {first : Except ε α} {f : α → β} {reason : ε} :
    first.map f = .error reason ↔ first = .error reason := by
  cases first <;> simp [Except.map]

theorem except_mapError_eq_ok_iff {first : Except ε α} {f : ε → β} {result : α} :
    first.mapError f = .ok result ↔ first = .ok result := by
  cases first <;> simp [Except.mapError]

/-- The result of a noted computation does not depend on its notes. -/
theorem noted_bind_eq_ok_iff {first : Noted ε α} {next : α → Noted ε β} {result : β} :
    (first.bind next).result = .ok result ↔
      ∃ value, first.result = .ok value ∧ (next value).result = .ok result := by
  unfold Noted.bind
  cases first.result <;> simp

theorem noted_bind_congr {first second : Noted ε α} {next : α → Noted ε β}
    (same : first.result = second.result) : (first.bind next).result = (second.bind next).result := by
  unfold Noted.bind
  rw [same]
  cases second.result <;> rfl

/-- A traversal whose steps succeed under a condition succeeds if all its items meet the condition. -/
theorem except_mapM_eq_ok_iff {f : α → Except ε β} {g : α → β} {holds : α → Prop} {items : List α}
    {results : List β} (succeeds : ∀ item value, f item = .ok value ↔ holds item ∧ g item = value) :
    items.mapM f = .ok results ↔ (∀ item ∈ items, holds item) ∧ items.map g = results := by
  induction items generalizing results with
  | nil => simp [pure, Except.pure]
  | cons item rest ih =>
    rw [List.mapM_cons, List.forall_mem_cons, List.map_cons]
    refine except_bind_eq_ok_iff.trans ?_
    constructor
    · rintro ⟨first, atItem, success⟩
      obtain ⟨others, atRest, same⟩ := except_bind_eq_ok_iff.mp success
      obtain ⟨met, rfl⟩ := (succeeds item first).mp atItem
      obtain ⟨all, rfl⟩ := ih.mp atRest
      exact ⟨⟨met, all⟩, Except.ok.inj same⟩
    · rintro ⟨⟨met, all⟩, rfl⟩
      refine ⟨g item, (succeeds item _).mpr ⟨met, rfl⟩, ?_⟩
      exact except_bind_eq_ok_iff.mpr ⟨rest.map g, ih.mpr ⟨all, rfl⟩, rfl⟩

/-- What a computation gives, and a default where it fails. -/
def resultOr [Inhabited β] : Except ε β → β
  | .ok value => value
  | .error _ => default

/-- A traversal that fails has failed at one of its items. -/
theorem exists_of_mapM_eq_error {f : α → Except ε β} {items : List α} {reason : ε}
    (failure : items.mapM f = .error reason) : ∃ item ∈ items, f item = .error reason := by
  induction items with
  | nil => cases failure
  | cons item rest ih =>
    rw [List.mapM_cons] at failure
    cases first : f item with
    | error cause =>
      rw [first] at failure
      obtain rfl := Except.error.inj failure
      exact ⟨item, List.mem_cons_self, first⟩
    | ok value =>
      rw [first] at failure
      cases others : rest.mapM f with
      | ok values => rw [others] at failure; cases failure
      | error cause =>
        rw [others] at failure
        obtain rfl := Except.error.inj failure
        obtain ⟨other, member, failed⟩ := ih others
        exact ⟨other, List.mem_cons_of_mem _ member, failed⟩

/-- A traversal that succeeds has succeeded at every item. -/
theorem of_mapM_eq_ok [Inhabited β] {f : α → Except ε β} {items : List α} {results : List β}
    (success : items.mapM f = .ok results) :
    (∀ item ∈ items, f item = .ok (resultOr (f item))) ∧
      results = items.map fun item => resultOr (f item) := by
  induction items generalizing results with
  | nil => exact ⟨fun _ member => absurd member List.not_mem_nil, (Except.ok.inj success).symm⟩
  | cons item rest ih =>
    rw [List.mapM_cons] at success
    obtain ⟨first, atItem, success⟩ := except_bind_eq_ok_iff.mp success
    obtain ⟨others, atRest, same⟩ := except_bind_eq_ok_iff.mp success
    obtain rfl := Except.ok.inj same
    obtain ⟨atOthers, rfl⟩ := ih atRest
    refine ⟨?_, by rw [List.map_cons, atItem]; rfl⟩
    intro other member
    rcases List.mem_cons.mp member with rfl | later
    · rw [atItem]; rfl
    · exact atOthers other later

end BoardBind
