import Mathlib.Data.List.Basic
import Mathlib.Data.List.Perm.Subperm

/-! # Looking up a history

Histories grow at their end, and an entry may be completed in place.

* `getElem?_concat_cases`: an entry of a list that grew;
* `getElem?_set_cases`: an entry of a list with one place written.
-/

namespace Lookup

universe u v

variable {α : Type u} {β : Type v}

/-- An entry of a list that grew by one is an old entry, or the new one. -/
theorem getElem?_concat_cases {l : List α} {x y : α} {i : ℕ} (h : (l ++ [x])[i]? = some y) :
    l[i]? = some y ∨ (i = l.length ∧ y = x) := by
  rcases Nat.lt_or_ge i l.length with hlt | hge
  · rw [List.getElem?_append_left hlt] at h
    exact Or.inl h
  · rw [List.getElem?_append_right hge] at h
    obtain ⟨hlt, rfl⟩ := List.getElem?_eq_some_iff.mp h
    rw [List.length_singleton] at hlt
    exact Or.inr ⟨by omega, by simp⟩

/-- What was there stays there when the list grows. -/
theorem getElem?_append_of_some {l : List α} {x : α} {i : ℕ} (h : l[i]? = some x)
    (more : List α) : (l ++ more)[i]? = some x := by
  rw [List.getElem?_append_left (List.getElem?_eq_some_iff.mp h).1, h]

/-- An entry of a list with one place written is the written one, or an old one. -/
theorem getElem?_set_cases {l : List α} {i k : ℕ} {y z : α}
    (h : (l.set i y)[k]? = some z) : (k = i ∧ z = y) ∨ (k ≠ i ∧ l[k]? = some z) := by
  rw [List.getElem?_set] at h
  by_cases hk : i = k
  · rw [if_pos hk] at h
    split_ifs at h
    exact Or.inl ⟨hk.symm, (Option.some.inj h).symm⟩
  · rw [if_neg hk] at h
    exact Or.inr ⟨fun h' => hk h'.symm, h⟩

/-- Completing an entry leaves what a function that ignores the change reads. -/
theorem map_set_same {l : List α} {i : ℕ} {x y : α} {f : α → β} (hx : l[i]? = some x)
    (hf : f y = f x) : (l.set i y).map f = l.map f := by
  apply List.ext_getElem?
  intro k
  rw [List.getElem?_map, List.getElem?_map, List.getElem?_set]
  by_cases hk : i = k
  · subst hk
    obtain ⟨hlt, rfl⟩ := List.getElem?_eq_some_iff.mp hx
    simp [hlt, hf]
  · simp [hk]

/-- Strictly increasing numbers between `1` and `n` are at most `n`. -/
theorem length_le_of_increasing {l : List ℕ} {n : ℕ} (h : l.Pairwise (· < ·))
    (hpos : ∀ k ∈ l, 1 ≤ k) (hle : ∀ k ∈ l, k ≤ n) : l.length ≤ n := by
  have hnodup : l.Nodup := h.imp fun hlt => Nat.ne_of_lt hlt
  have hsub : l ⊆ List.range' 1 n := by
    intro k hk
    rw [List.mem_range'_1]
    have h1 := hpos k hk
    have h2 := hle k hk
    omega
  simpa using (hnodup.subperm hsub).length_le

end Lookup
