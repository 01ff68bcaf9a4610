import Mathlib.Data.List.Basic

/-! # Walks that an offset bounds

A walk asks for one piece after another. A turn that goes on moves the offset up, and the walk gives
up past a limit, so it ends whatever it is answered; what a turn preserves holds at the end.

* `run_rule`: what every turn preserves holds of the result;
* `run_length_le`: the walk ends after as many turns as there are offsets left.
-/

/-- How a turn ends: with the result, or with the state to go on from. -/
inductive Turn (σ : Type*) where
  | done (state : σ)
  | more (state : σ)

/-- A walk over the states `σ`. A turn knows how many came before it, and leaves a record of what
was exchanged whether or not it raises. -/
structure BoundedWalk (σ ρ ε : Type*) where
  offset : σ → ℕ
  limit : ℕ
  /-- What is raised past the limit. -/
  exceeded : ε
  visit : ℕ → σ → ρ × Except ε (Turn σ)
  advances : ∀ asked s s', (visit asked s).2 = .ok (.more s') → offset s < offset s'

namespace BoundedWalk

variable {σ ρ ε : Type*} (walk : BoundedWalk σ ρ ε)

/-- The exchanges of the walk and what comes of it. -/
def run (asked : ℕ) (s : σ) : List ρ × Except ε σ :=
  if walk.offset s ≤ walk.limit then
    match hturn : (walk.visit asked s).2 with
    | .error error => ([(walk.visit asked s).1], .error error)
    | .ok (.done s') => ([(walk.visit asked s).1], .ok s')
    | .ok (.more s') =>
      have := walk.advances asked s s' hturn
      let rest := run (asked + 1) s'
      ((walk.visit asked s).1 :: rest.1, rest.2)
  else ([], .error walk.exceeded)
termination_by walk.limit + 1 - walk.offset s

variable {walk}

/-! ## One turn -/

theorem run_error {asked : ℕ} {s : σ} {error : ε} (hoffset : walk.offset s ≤ walk.limit)
    (h : (walk.visit asked s).2 = .error error) :
    walk.run asked s = ([(walk.visit asked s).1], .error error) := by
  rw [run, if_pos hoffset]
  split <;> simp_all

theorem run_done {asked : ℕ} {s s' : σ} (hoffset : walk.offset s ≤ walk.limit)
    (h : (walk.visit asked s).2 = .ok (.done s')) :
    walk.run asked s = ([(walk.visit asked s).1], .ok s') := by
  rw [run, if_pos hoffset]
  split <;> simp_all

theorem run_more {asked : ℕ} {s s' : σ} (hoffset : walk.offset s ≤ walk.limit)
    (h : (walk.visit asked s).2 = .ok (.more s')) :
    walk.run asked s =
      ((walk.visit asked s).1 :: (walk.run (asked + 1) s').1, (walk.run (asked + 1) s').2) := by
  rw [run, if_pos hoffset]
  split <;> simp_all

theorem run_exceeded {asked : ℕ} {s : σ} (hoffset : ¬ walk.offset s ≤ walk.limit) :
    walk.run asked s = ([], .error walk.exceeded) := by
  rw [run, if_neg hoffset]

/-! ## Whole walks -/

variable (walk) in
/-- The walk ends after as many turns as there are offsets left. -/
theorem run_length_le (asked : ℕ) (s : σ) :
    (walk.run asked s).1.length ≤ walk.limit + 1 - walk.offset s := by
  induction asked, s using run.induct walk with
  | case1 asked s hoffset error hturn =>
    rw [run_error hoffset hturn]
    show 1 ≤ walk.limit + 1 - walk.offset s
    omega
  | case2 asked s hoffset s' hturn =>
    rw [run_done hoffset hturn]
    show 1 ≤ walk.limit + 1 - walk.offset s
    omega
  | case3 asked s hoffset s' hturn hadvance ih =>
    -- the offset has moved, so one turn fewer is left
    rw [run_more hoffset hturn]
    show (walk.run (asked + 1) s').1.length + 1 ≤ walk.limit + 1 - walk.offset s
    omega
  | case4 asked s hoffset =>
    rw [run_exceeded hoffset]
    exact Nat.zero_le _

/-- The rule of invariants: what a turn makes of the exchanges so far and the state holds of all
the exchanges and the result. -/
theorem run_rule (inv post : List ρ → σ → Prop)
    (hmore : ∀ log s s', inv log s → (walk.visit log.length s).2 = .ok (.more s') →
      inv (log ++ [(walk.visit log.length s).1]) s')
    (hdone : ∀ log s s', inv log s → (walk.visit log.length s).2 = .ok (.done s') →
      post (log ++ [(walk.visit log.length s).1]) s')
    (log : List ρ) (s result : σ) (hinv : inv log s)
    (hrun : (walk.run log.length s).2 = .ok result) :
    post (log ++ (walk.run log.length s).1) result := by
  generalize hasked : log.length = asked at hrun ⊢
  -- induction along the run, with the requests counted by the log
  induction asked, s using run.induct walk generalizing log with
  | case1 asked s hoffset error hturn =>
    rw [run_error hoffset hturn] at hrun
    cases hrun
  | case2 asked s hoffset s' hturn =>
    rw [run_done hoffset hturn] at hrun ⊢
    cases hrun
    subst hasked
    -- the last turn
    exact hdone log s result hinv hturn
  | case3 asked s hoffset s' hturn hadvance ih =>
    rw [run_more hoffset hturn] at hrun ⊢
    subst hasked
    -- a turn that is followed: the invariant holds of the longer log
    have hnext := ih (log ++ [(walk.visit log.length s).1]) (hmore log s s' hinv hturn)
      (by simp) hrun
    rwa [List.append_assoc] at hnext
  | case4 asked s hoffset =>
    rw [run_exceeded hoffset] at hrun
    cases hrun

end BoundedWalk
