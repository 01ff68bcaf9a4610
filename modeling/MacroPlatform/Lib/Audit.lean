import Mathlib.Data.List.Basic

/-! # Checkers that go through a list

A checker carries its findings, and what it has seen, from one item to the next. When a clean
state can only come from a clean one, a clean end says that every step was clean, hence what
every step checks.

* `foldl_sound`: the rule for such a loop, from a clean end back to its first step.
-/

namespace Audit

variable {σ α : Type*} {step : σ → α → σ} {clean inv : σ → Prop} {holds : α → Prop}

/-- The rule for a loop: `inv` is what the steps that came before have established. -/
theorem foldl_sound
    (hstep : ∀ s a, clean (step s a) → clean s ∧ (inv s → inv (step s a) ∧ holds a))
    {xs : List α} {s : σ} (h : clean (xs.foldl step s)) :
    clean s ∧ (inv s → inv (xs.foldl step s) ∧ ∀ a ∈ xs, holds a) := by
  -- induction on the list: the rest is clean, so the first step was
  induction xs generalizing s with
  | nil => exact ⟨h, fun hinv => ⟨hinv, fun a ha => absurd ha List.not_mem_nil⟩⟩
  | cons x xs ih =>
    have hrest : clean (xs.foldl step (step s x)) := h
    obtain ⟨hclean, hsound⟩ := ih hrest
    obtain ⟨hfirst, hchecked⟩ := hstep s x hclean
    refine ⟨hfirst, ?_⟩
    intro hinv
    obtain ⟨hnext, hx⟩ := hchecked hinv
    obtain ⟨hlast, hxs⟩ := hsound hnext
    refine ⟨hlast, ?_⟩
    intro a ha
    -- an element is the first or one of the rest
    rcases List.mem_cons.mp ha with rfl | hmem
    · exact hx
    · exact hxs a hmem

end Audit
