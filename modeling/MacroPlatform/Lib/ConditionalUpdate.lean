import Mathlib.Logic.Basic

/-! # Conditional updates of one stored row

`UPDATE ... WHERE guard SET ... RETURNING` on a table that holds at most one row
for the key under consideration. An update either applies to a row that meets
its guard and returns the new row, or leaves the table as it was and returns
nothing; `updateWhere_cases` is the only fact its users need.
-/

namespace ConditionalUpdate

universe u

variable {ρ : Type u}

/-- The stored row after the update, and the row that `RETURNING` gives. -/
def updateWhere (guard : ρ → Prop) [DecidablePred guard] (set : ρ → ρ) :
    Option ρ → Option ρ × Option ρ
  | none => (none, none)
  | some r => if guard r then (some (set r), some (set r)) else (some r, none)

variable {guard : ρ → Prop} [DecidablePred guard] {set : ρ → ρ}

theorem updateWhere_of_guard {r : ρ} (h : guard r) :
    updateWhere guard set (some r) = (some (set r), some (set r)) := by
  simp [updateWhere, h]

theorem updateWhere_of_not_guard {row : Option ρ} (h : ∀ r, row = some r → ¬ guard r) :
    updateWhere guard set row = (row, none) := by
  cases row with
  | none => rfl
  | some r => simp [updateWhere, h r rfl]

/-- Everything an update can do: it applies to the stored row, or it changes nothing. -/
theorem updateWhere_cases (guard : ρ → Prop) [DecidablePred guard] (set : ρ → ρ)
    (row : Option ρ) :
    (∃ r, row = some r ∧ guard r ∧
      updateWhere guard set row = (some (set r), some (set r))) ∨
    ((∀ r, row = some r → ¬ guard r) ∧ updateWhere guard set row = (row, none)) := by
  cases row with
  | none => exact Or.inr ⟨by simp, rfl⟩
  | some r =>
    by_cases h : guard r
    · exact Or.inl ⟨r, rfl, h, updateWhere_of_guard h⟩
    · have hno : ∀ r', some r = some r' → ¬ guard r' := by
        rintro r' ⟨⟩
        exact h
      exact Or.inr ⟨hno, updateWhere_of_not_guard hno⟩

end ConditionalUpdate
