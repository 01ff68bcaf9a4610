import Mathlib.Data.List.Pairwise
import Mathlib.Order.BoundedOrder.Lattice
import Mathlib.Order.Lattice

/-! # Half-open validity

A span runs from its start up to its stop, or to the end of time. Comparing the ends of two proper
spans finds exactly the points before the end that both contain, so a list of claims is free of
conflict at every point when no two of them overlap.

* `overlaps_iff`: overlapping is sharing a point before the last one;
* `pairwise_iff`: free of conflict two by two is free of conflict at every point.
-/

structure Span (τ : Type*) where
  start : τ
  stop : Option τ

namespace Span

variable {τ : Type*} [LinearOrder τ]

/-- The point is not before the start, and before the stop if there is one. -/
def Contains (span : Span τ) (point : τ) : Prop :=
  span.start ≤ point ∧ ∀ stop ∈ span.stop, point < stop

instance (span : Span τ) (point : τ) : Decidable (span.Contains point) :=
  inferInstanceAs (Decidable (_ ∧ _))

/-- A stop comes after the start. -/
def Proper (span : Span τ) : Prop := ∀ stop ∈ span.stop, span.start < stop

variable [OrderTop τ]

/-- The comparison of the ends; an open end counts as the last point. -/
def Overlaps (left right : Span τ) : Prop :=
  left.start < right.stop.getD ⊤ ∧ right.start < left.stop.getD ⊤

instance (left right : Span τ) : Decidable (left.Overlaps right) :=
  inferInstanceAs (Decidable (_ ∧ _))

theorem Overlaps.symm {left right : Span τ} (h : left.Overlaps right) : right.Overlaps left :=
  ⟨h.2, h.1⟩

/-- Before the last point, containing is lying between the start and the end. -/
theorem contains_iff {span : Span τ} {point : τ} (hpoint : point < ⊤) :
    span.Contains point ↔ span.start ≤ point ∧ point < span.stop.getD ⊤ := by
  refine and_congr_right fun _ => ?_
  cases span.stop with
  | none => simp [hpoint]
  | some stop => simp

/-- A span that starts before the last point contains its start. -/
theorem Proper.start_lt {span : Span τ} (h : span.Proper) (hstart : span.start < ⊤) :
    span.start < span.stop.getD ⊤ := by
  cases hstop : span.stop with
  | none => simpa using hstart
  | some stop => exact h stop hstop

/-- Two proper spans overlap exactly when they share a point before the last one. -/
theorem overlaps_iff {left right : Span τ} (hleft : left.Proper) (hright : right.Proper) :
    left.Overlaps right ↔ ∃ point, point < ⊤ ∧ left.Contains point ∧ right.Contains point := by
  constructor
  · rintro ⟨hlr, hrl⟩
    -- the later of the two starts lies in both
    have hl := hleft.start_lt (hlr.trans_le le_top)
    have hr := hright.start_lt (hrl.trans_le le_top)
    have hpoint : max left.start right.start < ⊤ :=
      max_lt (hlr.trans_le le_top) (hrl.trans_le le_top)
    refine ⟨max left.start right.start, hpoint, ?_, ?_⟩
    · rw [contains_iff hpoint]
      exact ⟨le_max_left _ _, max_lt hl hrl⟩
    · rw [contains_iff hpoint]
      exact ⟨le_max_right _ _, max_lt hlr hr⟩
  · rintro ⟨point, hpoint, hl, hr⟩
    rw [contains_iff hpoint] at hl hr
    exact ⟨hl.1.trans_lt hr.2, hr.1.trans_lt hl.2⟩

/-! ## Lists of claims -/

variable {α : Type*} {spanOf : α → Span τ} {agree : α → α → Prop}

/-- No two claims of a list overlap without agreeing if and only if at every point before the last
one all the claims that contain it agree. -/
theorem pairwise_iff {claims : List α} (hproper : ∀ claim ∈ claims, (spanOf claim).Proper)
    (hrefl : ∀ claim ∈ claims, agree claim claim)
    (hsymm : ∀ ⦃left right⦄, agree left right → agree right left) :
    claims.Pairwise (fun left right => (spanOf left).Overlaps (spanOf right) → agree left right) ↔
      ∀ point, point < ⊤ → ∀ left ∈ claims, (spanOf left).Contains point →
        ∀ right ∈ claims, (spanOf right).Contains point → agree left right := by
  constructor
  · intro h point hpoint left hleft hl right hright hr
    have : Std.Symm fun left right =>
        (spanOf left).Overlaps (spanOf right) → agree left right :=
      ⟨fun left right hagree hoverlap => hsymm (hagree hoverlap.symm)⟩
    exact List.Pairwise.forall_of_forall (fun claim hmem _ => hrefl claim hmem) h hleft hright
      ((overlaps_iff (hproper left hleft) (hproper right hright)).mpr ⟨point, hpoint, hl, hr⟩)
  · intro h
    apply List.pairwise_of_forall_mem_list
    intro left hleft right hright hoverlap
    rcases (overlaps_iff (hproper left hleft) (hproper right hright)).mp hoverlap with
      ⟨point, hpoint, hl, hr⟩
    exact h point hpoint left hleft hl right hright hr

end Span
