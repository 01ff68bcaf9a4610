import Mathlib.Data.List.Forall2

/-! # Programs that raise

What a program in `Except` returned says about each of its steps.

* `mapM_ok`: a loop that returned, step by step;
* `first_failing`: the first item that is not good.
-/

namespace Raising

universe u v

variable {ε : Type u} {α β : Type v}

/-! ## Related lists -/

/-- Of two lists that are related item by item, every item on the left has its partner. -/
theorem exists_right {r : α → β → Prop} {xs : List α} {ys : List β} (h : List.Forall₂ r xs ys)
    {x : α} (hx : x ∈ xs) : ∃ y ∈ ys, r x y := by
  induction h with
  | nil => exact absurd hx List.not_mem_nil
  | cons hhead _ ih =>
    rcases List.mem_cons.mp hx with rfl | hmem
    · exact ⟨_, List.mem_cons_self, hhead⟩
    · obtain ⟨y, hys, hxy⟩ := ih hmem
      exact ⟨y, List.mem_cons_of_mem _ hys, hxy⟩

theorem exists_left {r : α → β → Prop} {xs : List α} {ys : List β} (h : List.Forall₂ r xs ys)
    {y : β} (hy : y ∈ ys) : ∃ x ∈ xs, r x y :=
  exists_right h.flip hy

/-! ## Steps -/

theorem ok_bind (a : α) (f : α → Except ε β) : (Except.ok a >>= f) = f a := rfl

theorem bind_ok {x : Except ε α} {f : α → Except ε β} {b : β} :
    x >>= f = .ok b ↔ ∃ a, x = .ok a ∧ f a = .ok b := by
  cases x with
  | error e => simp [bind, Except.bind]
  | ok a => simp [bind, Except.bind]

theorem mapError_ok {ε' : Type*} {x : Except ε α} {f : ε → ε'} {a : α}
    (h : x.mapError f = .ok a) : x = .ok a := by
  cases x with
  | error e => cases h
  | ok b => exact congrArg Except.ok (Except.ok.inj h)

theorem eq_ok_of_toOption {x : Except ε α} {a : α} (h : x.toOption = some a) : x = .ok a := by
  cases x with
  | error e => cases h
  | ok b => exact congrArg Except.ok (Option.some.inj h)

/-- A loop that collects its results returned when every iteration did. -/
theorem mapM_ok {f : α → Except ε β} {xs : List α} {ys : List β} :
    xs.mapM f = .ok ys ↔ List.Forall₂ (fun x y => f x = .ok y) xs ys := by
  induction xs generalizing ys with
  | nil => cases ys <;> simp [pure, Except.pure]
  | cons x xs ih =>
    rw [List.mapM_cons, bind_ok]
    constructor
    · rintro ⟨y, hy, hrest⟩
      obtain ⟨rest, hmap, hys⟩ := bind_ok.mp hrest
      cases hys
      exact List.Forall₂.cons hy (ih.mp hmap)
    · intro h
      cases h with
      | cons hy hrest => exact ⟨_, hy, bind_ok.mpr ⟨_, ih.mpr hrest, rfl⟩⟩

/-- A loop raises what its first failing iteration does. -/
theorem mapM_error {f : α → Except ε β} {before : List α} {x : α} {rest : List α} {e : ε}
    (hbefore : ∀ p ∈ before, ∃ y, f p = .ok y) (h : f x = .error e) :
    (before ++ x :: rest).mapM f = .error e := by
  induction before with
  | nil =>
    rw [List.nil_append, List.mapM_cons, h]
    rfl
  | cons p before ih =>
    rcases hbefore p List.mem_cons_self with ⟨y, hy⟩
    rw [List.cons_append, List.mapM_cons, hy, ok_bind,
      ih fun q hq => hbefore q (List.mem_cons_of_mem p hq)]
    rfl

/-- A list is good throughout, or up to a first item that is not. -/
theorem first_failing (good : α → Prop) (xs : List α) :
    (∀ x ∈ xs, good x) ∨
      ∃ before x rest, xs = before ++ x :: rest ∧ (∀ p ∈ before, good p) ∧ ¬ good x := by
  induction xs with
  | nil => exact .inl fun x hx => absurd hx List.not_mem_nil
  | cons x xs ih =>
    by_cases hx : good x
    · rcases ih with hall | ⟨before, bad, rest, rfl, hbefore, hbad⟩
      · exact .inl (List.forall_mem_cons.mpr ⟨hx, hall⟩)
      · exact .inr ⟨x :: before, bad, rest, rfl, List.forall_mem_cons.mpr ⟨hx, hbefore⟩, hbad⟩
    · exact .inr ⟨[], x, xs, rfl, by simp, hx⟩

/-- A loop whose iterations follow those of a loop that returned returns as well. -/
theorem mapM_follows {γ : Type v} {f : α → Except ε β} {g : α → Except ε γ} {r : γ → β → Prop}
    {xs : List α} (hfollows : ∀ x ∈ xs, ∀ y, f x = .ok y → ∃ z, g x = .ok z ∧ r z y)
    {ys : List β} (h : xs.mapM f = .ok ys) : ∃ zs, xs.mapM g = .ok zs ∧ List.Forall₂ r zs ys := by
  induction xs generalizing ys with
  | nil =>
    cases h
    exact ⟨[], rfl, List.Forall₂.nil⟩
  | cons x xs ih =>
    rw [List.mapM_cons] at h
    obtain ⟨y, hy, hrest⟩ := bind_ok.mp h
    obtain ⟨rest, hmap, hys⟩ := bind_ok.mp hrest
    cases hys
    obtain ⟨z, hz, hzy⟩ := hfollows x List.mem_cons_self y hy
    obtain ⟨zs, hzs, hall⟩ := ih (fun x' hx' => hfollows x' (List.mem_cons_of_mem _ hx')) hmap
    refine ⟨z :: zs, ?_, List.Forall₂.cons hzy hall⟩
    rw [List.mapM_cons, hz, ok_bind, hzs]
    rfl

theorem exists_of_mapM_ok {f : α → Except ε β} {xs : List α} {ys : List β}
    (h : xs.mapM f = .ok ys) {x : α} (hx : x ∈ xs) : ∃ y ∈ ys, f x = .ok y :=
  exists_right (mapM_ok.mp h) hx

theorem exists_of_mem_mapM {f : α → Except ε β} {xs : List α} {ys : List β}
    (h : xs.mapM f = .ok ys) {y : β} (hy : y ∈ ys) : ∃ x ∈ xs, f x = .ok y :=
  exists_left (mapM_ok.mp h) hy

/-- A loop returns when every iteration does. -/
theorem exists_mapM_ok {f : α → Except ε β} {xs : List α} :
    (∃ ys, xs.mapM f = .ok ys) ↔ ∀ x ∈ xs, ∃ y, f x = .ok y := by
  constructor
  · rintro ⟨ys, h⟩ x hx
    obtain ⟨y, -, hxy⟩ := exists_of_mapM_ok h hx
    exact ⟨y, hxy⟩
  · intro h
    induction xs with
    | nil => exact ⟨[], rfl⟩
    | cons x xs ih =>
      obtain ⟨y, hy⟩ := h x List.mem_cons_self
      obtain ⟨ys, hys⟩ := ih fun other hother => h other (List.mem_cons_of_mem x hother)
      exact ⟨y :: ys, by rw [List.mapM_cons, hy, hys]; rfl⟩

theorem mapM_ok_map {f : α → Except ε β} {g : α → β} {xs : List α}
    (h : ∀ x ∈ xs, f x = .ok (g x)) : xs.mapM f = .ok (xs.map g) :=
  mapM_ok.mpr (List.forall₂_map_right_iff.mpr (List.forall₂_same.mpr h))

/-! ## Readers that may fail -/

/-- A map in `Option` gives a value for each element. -/
theorem mapM_some {f : α → Option β} {xs : List α} {ys : List β} :
    xs.mapM f = some ys ↔ List.Forall₂ (fun x y => f x = some y) xs ys := by
  induction xs generalizing ys with
  | nil => cases ys <;> simp
  | cons x xs ih =>
    rw [List.mapM_cons]
    constructor
    · intro h
      obtain ⟨y, hy, hrest⟩ := Option.bind_eq_some_iff.mp h
      obtain ⟨rest, hmap, hys⟩ := Option.bind_eq_some_iff.mp hrest
      cases hys
      exact List.Forall₂.cons hy (ih.mp hmap)
    · intro h
      cases h with
      | cons hy hrest => simp [hy, ih.mpr hrest]

theorem mapM_some_map {f : α → Option β} {g : α → β} {xs : List α}
    (h : ∀ x ∈ xs, f x = some (g x)) : xs.mapM f = some (xs.map g) :=
  mapM_some.mpr (List.forall₂_map_right_iff.mpr (List.forall₂_same.mpr h))

theorem exists_of_mem_mapM_some {f : α → Option β} {xs : List α} {ys : List β}
    (h : xs.mapM f = some ys) {y : β} (hy : y ∈ ys) : ∃ x ∈ xs, f x = some y :=
  exists_left (mapM_some.mp h) hy

theorem exists_of_mapM_some {f : α → Option β} {xs : List α} {ys : List β}
    (h : xs.mapM f = some ys) {x : α} (hx : x ∈ xs) : ∃ y ∈ ys, f x = some y :=
  exists_right (mapM_some.mp h) hx

end Raising
