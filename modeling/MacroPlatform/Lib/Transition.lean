import Mathlib.Logic.Function.Basic
import Mathlib.Data.List.Basic

/-! # Labelled runs and their invariants

A small kernel for systems that take labelled steps: finite runs, the invariant
rule, the rule for a relation between the two ends of a run, and runs all of
whose steps meet a condition on the state before the step. Nothing here knows
what a state or a label is.

* `run_invariant`, `init_invariant`: invariant induction, along a run and over the reachable
  states;
* `run_rel`: what steps do to a transitive relation, a run does;
* `run_law_iff`: a law that no step restores holds at the end exactly when every step keeps it.
-/

namespace Transition

universe u v

variable {σ : Type u} {α : Type v}

/-- A labelled action: the state before, the label, the state after. -/
abbrev Action (σ : Type u) (α : Type v) := σ → α → σ → Prop

/-- A state predicate. -/
abbrev StatePred (σ : Type u) := σ → Prop

/-- The action of an executable partial step. -/
def ofNext (next : σ → α → Option σ) : Action σ α :=
  fun s a s' => next s a = some s'

/-- The steps of `A` whose state and label meet `P`. -/
def guarded (A : Action σ α) (P : σ → α → Prop) : Action σ α :=
  fun s a s' => P s a ∧ A s a s'

/-- The steps of `A` that end in a state of `Q`. -/
def keeping (A : Action σ α) (Q : StatePred σ) : Action σ α :=
  fun s a s' => A s a s' ∧ Q s'

/-- A finite run with its labels. -/
inductive Run (A : Action σ α) : σ → List α → σ → Prop
  | nil (s : σ) : Run A s [] s
  | cons {s s' s'' : σ} {a : α} {as : List α} :
      A s a s' → Run A s' as s'' → Run A s (a :: as) s''

/-- The states that a run from an initial state reaches. -/
def Reachable (Init : StatePred σ) (A : Action σ α) (s : σ) : Prop :=
  ∃ s₀ as, Init s₀ ∧ Run A s₀ as s

/-! ## Composition of runs -/

theorem run_append {A : Action σ α} {s s' s'' : σ} {as bs : List α}
    (h : Run A s as s') (h' : Run A s' bs s'') : Run A s (as ++ bs) s'' := by
  induction h with
  | nil => exact h'
  | cons hstep _ ih => exact .cons hstep (ih h')

theorem run_mono {A B : Action σ α} (hAB : ∀ s a s', A s a s' → B s a s') {s s' : σ}
    {as : List α} (h : Run A s as s') : Run B s as s' := by
  induction h with
  | nil => exact .nil _
  | cons hstep _ ih => exact .cons (hAB _ _ _ hstep) ih

/-- A run whose labels all meet a condition. -/
theorem run_guarded_of_labels {A : Action σ α} {P : α → Prop} {s s' : σ} {as : List α}
    (h : Run A s as s') (hP : ∀ a ∈ as, P a) : Run (guarded A fun _ a => P a) s as s' := by
  induction h with
  | nil => exact .nil _
  | @cons s t u a as hstep _ ih =>
    exact .cons ⟨hP a List.mem_cons_self, hstep⟩ (ih fun b hb => hP b (List.mem_cons_of_mem a hb))

theorem Reachable.run {Init : StatePred σ} {A : Action σ α} {s s' : σ} {as : List α}
    (h : Reachable Init A s) (h' : Run A s as s') : Reachable Init A s' := by
  obtain ⟨s₀, bs, hinit, hrun⟩ := h
  exact ⟨s₀, bs ++ as, hinit, run_append hrun h'⟩

/-! ## Invariants -/

/-- Invariant induction along one run. -/
theorem run_invariant {A : Action σ α} (inv : StatePred σ)
    (hstep : ∀ s a s', A s a s' → inv s → inv s') {s s' : σ} {as : List α}
    (h : Run A s as s') (hs : inv s) : inv s' := by
  induction h with
  | nil => exact hs
  | cons hst _ ih => exact ih (hstep _ _ _ hst hs)

/-- Invariant induction over the reachable states. -/
theorem init_invariant {Init : StatePred σ} {A : Action σ α} (inv : StatePred σ)
    (hinit : ∀ s, Init s → inv s) (hstep : ∀ s a s', A s a s' → inv s → inv s')
    {s : σ} (h : Reachable Init A s) : inv s := by
  obtain ⟨s₀, as, hs₀, hrun⟩ := h
  exact run_invariant inv hstep hrun (hinit s₀ hs₀)

/-- What every step from an invariant state does to a transitive relation, a whole
run does. -/
theorem run_rel {A : Action σ α} (inv : StatePred σ) (R : σ → σ → Prop)
    (hinv : ∀ s a s', A s a s' → inv s → inv s') (hrefl : ∀ s, R s s)
    (htrans : ∀ s s' s'', R s s' → R s' s'' → R s s'')
    (hstep : ∀ s a s', A s a s' → inv s → R s s') {s s' : σ} {as : List α}
    (h : Run A s as s') (hs : inv s) : R s s' := by
  induction h with
  | nil => exact hrefl _
  | cons hst _ ih => exact htrans _ _ _ (hstep _ _ _ hst hs) (ih (hinv _ _ _ hst hs))

/-- Two actions that agree from the states of an invariant have the same runs there. -/
theorem run_congr {A B : Action σ α} (inv : StatePred σ)
    (hinv : ∀ s a s', A s a s' → inv s → inv s')
    (hAB : ∀ s a s', inv s → (A s a s' ↔ B s a s')) {s s' : σ} {as : List α} (hs : inv s) :
    Run A s as s' ↔ Run B s as s' := by
  constructor
  · intro h
    induction h with
    | nil => exact .nil _
    | cons hst _ ih => exact .cons ((hAB _ _ _ hs).mp hst) (ih (hinv _ _ _ hst hs))
  · intro h
    induction h with
    | nil => exact .nil _
    | cons hst _ ih =>
      have hA := (hAB _ _ _ hs).mpr hst
      exact .cons hA (ih (hinv _ _ _ hA hs))

/-- What no step restores, no run restores. -/
theorem run_back {A : Action σ α} (law : StatePred σ)
    (hback : ∀ s a s', A s a s' → law s' → law s) {s s' : σ} {as : List α}
    (h : Run A s as s') (hlaw : law s') : law s := by
  induction h with
  | nil => exact hlaw
  | cons hst _ ih => exact hback _ _ _ hst (ih hlaw)

/-- A law on states that no step restores, and that each step keeps exactly under a condition,
holds at the end of a run exactly when every step meets the condition. -/
theorem run_law_iff {next : σ → α → Option σ} (inv law : StatePred σ) {P : σ → α → Prop}
    (hinv : ∀ s a s', next s a = some s' → inv s → inv s')
    (hback : ∀ s a s', next s a = some s' → law s' → law s)
    (hstep : ∀ s a s', next s a = some s' → inv s → law s → (law s' ↔ P s a)) {s s' : σ}
    {as : List α} (h : Run (ofNext next) s as s') (hs : inv s) (hlaw : law s) :
    law s' ↔ Run (guarded (ofNext next) P) s as s' := by
  induction h with
  | nil s => exact ⟨fun _ => .nil s, fun _ => hlaw⟩
  | @cons s t s'' a as hst hrest ih =>
    by_cases hguard : P s a
    · rw [ih (hinv _ _ _ hst hs) ((hstep _ _ _ hst hs hlaw).mpr hguard)]
      constructor
      · exact fun hrun => .cons ⟨hguard, hst⟩ hrun
      · intro hrun
        cases hrun with
        | cons hfirst hlater =>
          -- the step is a function of the label
          have hsame := hfirst.2
          simp only [ofNext] at hsame hst
          rw [hsame] at hst
          cases hst
          exact hlater
    · constructor
      · intro hend
        have hafter := run_back law hback hrest hend
        exact absurd ((hstep _ _ _ hst hs hlaw).mp hafter) hguard
      · intro hrun
        cases hrun with
        | cons hfirst _ => exact absurd hfirst.1 hguard

/-! ## Executable runs -/

/-- Run an executable step over a list of labels. -/
def exec (next : σ → α → Option σ) : σ → List α → Option σ
  | s, [] => some s
  | s, a :: as => (next s a).bind fun s' => exec next s' as

/-- An executed list of labels is a run. -/
theorem run_of_exec {next : σ → α → Option σ} {s s' : σ} {as : List α}
    (h : exec next s as = some s') : Run (ofNext next) s as s' := by
  induction as generalizing s with
  | nil =>
    cases h
    exact .nil _
  | cons a as ih =>
    simp only [exec] at h
    obtain ⟨t, hnext, hrest⟩ := Option.bind_eq_some_iff.mp h
    exact .cons hnext (ih hrest)

/-- The executable step under an executable guard. -/
def check (guard : σ → α → Bool) (next : σ → α → Option σ) (s : σ) (a : α) : Option σ :=
  if guard s a then next s a else none

/-- An execution that passes its guard at every step is a guarded run. -/
theorem run_of_exec_check {guard : σ → α → Bool} {next : σ → α → Option σ} {s s' : σ}
    {as : List α} (h : exec (check guard next) s as = some s') :
    Run (guarded (ofNext next) fun s a => guard s a = true) s as s' := by
  refine run_mono ?_ (run_of_exec h)
  intro t a t' hstep
  unfold ofNext check at hstep
  split_ifs at hstep with hguard
  exact ⟨hguard, hstep⟩

end Transition
