import Mathlib.Data.List.Basic

/-! # Finite trails

A partial function followed from a start until it stops. The trail of a start is
unique, what is left of it at any key is the trail of that key, and a label that
determines the next key never comes twice.

* `Trail.unique`: a start has one trail;
* `Trail.nodup_map`: no label comes twice.
-/

namespace Trails

universe u v

variable {κ : Type u} {β : Type v} {next : κ → Option κ}

/-- Followed from `c` to its end, `next` visits the keys of the list. -/
inductive Trail (next : κ → Option κ) : κ → List κ → Prop
  | last {c : κ} : next c = none → Trail next c [c]
  | step {c d : κ} {l : List κ} : next c = some d → Trail next d l → Trail next c (c :: l)

theorem Trail.head {c : κ} {l : List κ} (h : Trail next c l) : l.head? = some c := by
  cases h <;> rfl

/-- The next key is the head of what is left. -/
theorem Trail.next_head {c : κ} {l : List κ} (h : Trail next c (c :: l)) :
    next c = l.head? := by
  cases h with
  | last hnone => exact hnone
  | step hsome hrest =>
    rw [hrest.head]
    exact hsome

/-- A trail can be joined at any of its points. -/
theorem Trail.suffix {a c : κ} {before after : List κ}
    (h : Trail next a (before ++ c :: after)) : Trail next c (c :: after) := by
  induction before generalizing a with
  | nil =>
    have hhead := h.head
    simp only [List.nil_append, List.head?_cons, Option.some.injEq] at hhead
    subst hhead
    exact h
  | cons b before ih =>
    generalize hl : b :: before ++ c :: after = l at h
    cases h with
    | last hnone => simp at hl
    | step hsome hrest =>
      simp only [List.cons_append, List.cons.injEq] at hl
      rw [← hl.2] at hrest
      exact ih hrest

/-- A trail is fixed by its start. -/
theorem Trail.unique {c : κ} {l l' : List κ} (h : Trail next c l) (h' : Trail next c l') :
    l = l' := by
  induction h generalizing l' with
  | last hnone =>
    cases h' with
    | last => rfl
    | step hsome =>
      rw [hnone] at hsome
      cases hsome
  | step hsome _ ih =>
    cases h' with
    | last hnone =>
      rw [hnone] at hsome
      cases hsome
    | step hsome' hrest' =>
      rw [hsome] at hsome'
      cases hsome'
      rw [ih hrest']

/-- Labels of a finite trail that tell the next key are distinct. -/
theorem Trail.nodup_map {c : κ} {l : List κ} (h : Trail next c l) (f : κ → β)
    (hf : ∀ d ∈ l, ∀ e ∈ l, f d = f e → next d = next e) : (l.map f).Nodup := by
  induction h with
  | last => simp
  | @step c d l hsome hrest ih =>
    rw [List.map_cons, List.nodup_cons]
    constructor
    · intro hmem
      obtain ⟨e, he, heq⟩ := List.mem_map.mp hmem
      obtain ⟨before, after, hsplit⟩ := List.append_of_mem he
      -- the trail from `d` would start again after `e`, and be shorter
      have hnext := hf e (List.mem_cons_of_mem c he) c List.mem_cons_self heq
      have hleft : Trail next e (e :: after) := by
        rw [hsplit] at hrest
        exact hrest.suffix
      cases hleft with
      | last hnone =>
        rw [hnext, hsome] at hnone
        cases hnone
      | step hsome' hafter =>
        rw [hnext, hsome] at hsome'
        cases hsome'
        have hsame : l = after := hrest.unique hafter
        have hlength := congrArg List.length hsplit
        rw [hsame, List.length_append, List.length_cons] at hlength
        omega
    · exact ih fun d' hd e he =>
        hf d' (List.mem_cons_of_mem c hd) e (List.mem_cons_of_mem c he)

end Trails
