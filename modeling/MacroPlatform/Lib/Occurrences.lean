import Mathlib.Data.List.Basic

/-! # Laws on the occurrences in a list

A history is a list of events, oldest first. Many of its laws say of every event what must hold
of the events before it; such a law is kept by an append one event at a time.

* `atEach_append`: the law over two parts of a history;
* `AtEach.front`: what was kept up to some point was kept before it.
-/

namespace Occurrences

universe u

variable {α : Type u} {P : List α → α → Prop} {x : α} {l more : List α}

/-- Every occurrence meets the law with what comes before it. -/
def AtEach (P : List α → α → Prop) (l : List α) : Prop :=
  ∀ past x later, l = past ++ x :: later → P past x

@[simp] theorem atEach_nil : AtEach P [] := by
  intro past x later hsplit
  simp at hsplit

/-- A condition at each element of two lists one after the other. -/
theorem atEach_append :
    AtEach P (l ++ more) ↔ AtEach P l ∧ AtEach (fun past => P (l ++ past)) more := by
  constructor
  · intro h
    constructor
    · intro past x later hsplit
      exact h past x (later ++ more) (by simp [hsplit])
    · intro past x later hsplit
      exact h (l ++ past) x later (by simp [hsplit])
  · rintro ⟨hl, hmore⟩ past x later hsplit
    -- the split falls into the second list or into the first
    rcases List.append_eq_append_iff.mp hsplit with ⟨between, hpast, hrest⟩ | ⟨between, hleft, hrest⟩
    · rw [hpast]
      exact hmore between x later hrest
    · cases between with
      -- it falls between the two
      | nil =>
        simp only [List.append_nil, List.nil_append] at hleft hrest
        have hfirst : P (l ++ []) x := hmore [] x later hrest.symm
        rwa [List.append_nil, hleft] at hfirst
      | cons first between =>
        simp only [List.cons_append, List.cons.injEq] at hrest
        exact hl past x between (by rw [hleft, ← hrest.1])

/-- And of a list with a first element. -/
@[simp] theorem atEach_cons :
    AtEach P (x :: l) ↔ P [] x ∧ AtEach (fun past => P (x :: past)) l := by
  constructor
  · intro h
    constructor
    · exact h [] x l rfl
    · intro past y later hsplit
      exact h (x :: past) y later (by simp [hsplit])
  · rintro ⟨hx, hl⟩ past y later hsplit
    cases past with
    | nil =>
      simp only [List.nil_append, List.cons.injEq] at hsplit
      exact hsplit.1 ▸ hx
    | cons first past =>
      simp only [List.cons_append, List.cons.injEq] at hsplit
      exact hsplit.1 ▸ hl past y later hsplit.2

/-- A law that each event meets whatever comes before it. -/
theorem atEach_of_forall (h : ∀ x ∈ l, ∀ past, P past x) : AtEach P l := by
  intro past x later hsplit
  exact h x (by simp [hsplit]) past

/-- What was kept up to some point was kept before it. -/
theorem AtEach.front (h : AtEach P (l ++ more)) : AtEach P l :=
  (atEach_append.mp h).1

end Occurrences
