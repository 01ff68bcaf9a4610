import Mathlib.Data.List.Nodup
import Mathlib.Data.List.Perm.Basic

/-! # The first value of a key wins

A loop that collects values by their keys. A key that is there keeps its value, and a value
that does not agree with it ends the loop.

* `kept_of_foldlM`: what the loop returns;
* `exists_foldlM_iff`: it returns exactly when the values agree;
* `Kept.perm`: nothing but the first values counts.
-/

namespace FirstWins

variable {σ : Type} (key : σ → Option String) (same : σ → σ → Bool)

/-- The first value of a key. -/
def first (xs : List σ) (k : String) : Option σ := xs.find? fun x => key x = some k

/-- One value. -/
def add (entries : List (String × σ)) (x : σ) : Option (List (String × σ)) := do
  let k ← key x
  match (entries.find? fun entry => entry.1 = k).map Prod.snd with
  | none => some (entries ++ [(k, x)])
  | some existing => if same existing x then some entries else none

/-- The entries are the first values. -/
structure Kept (xs : List σ) (entries : List (String × σ)) : Prop where
  keys : (entries.map Prod.fst).Nodup
  entries : ∀ k x, (k, x) ∈ entries ↔ first key xs k = some x

variable {key same} {xs ys : List σ} {entries after : List (String × σ)}

theorem first_some {k : String} {x : σ} (h : first key xs k = some x) : x ∈ xs ∧ key x = some k :=
  ⟨List.mem_of_find?_eq_some h, by simpa using List.find?_some h⟩

theorem exists_first {x : σ} (hx : x ∈ xs) {k : String} (hk : key x = some k) :
    ∃ y, first key xs k = some y := by
  cases h : first key xs k with
  | some y => exact ⟨y, rfl⟩
  | none => exact absurd hk (by simpa using List.find?_eq_none.mp h x hx)

theorem first_append (xs ys : List σ) (k : String) :
    first key (xs ++ ys) k = (first key xs k).or (first key ys k) := List.find?_append

theorem first_singleton {x : σ} {k : String} (hk : key x = some k) (k' : String) :
    first key [x] k' = if k = k' then some x else none := by
  unfold first
  by_cases hsame : k = k'
  · rw [if_pos hsame, List.find?_cons_of_pos (by simpa [hk] using hsame)]
  · rw [if_neg hsame, List.find?_cons_of_neg (by simpa [hk] using hsame), List.find?_nil]

/-- The entry of a key is the first value with it. -/
theorem Kept.find? (h : Kept key xs entries) (k : String) :
    (entries.find? fun entry => entry.1 = k).map Prod.snd = first key xs k := by
  cases hfind : entries.find? fun entry => entry.1 = k with
  | some entry =>
    have hk : entry.1 = k := by simpa using List.find?_some hfind
    have hmem : (k, entry.2) ∈ entries := by
      rw [← hk]
      exact List.mem_of_find?_eq_some hfind
    exact ((h.entries k entry.2).mp hmem).symm
  | none =>
    cases hfirst : first key xs k with
    | none => rfl
    | some x =>
      have hnone := List.find?_eq_none.mp hfind _ ((h.entries k x).mpr hfirst)
      exact absurd (decide_eq_true rfl) hnone

/-- The order of the entries is of no account. -/
theorem Kept.perm (h : Kept key xs entries) (hperm : after.Perm entries) :
    Kept key xs after :=
  ⟨(hperm.map Prod.fst).nodup_iff.mpr h.keys,
    fun k x => hperm.mem_iff.trans (h.entries k x)⟩

theorem Kept.mem_keys (h : Kept key xs entries) {k : String} :
    k ∈ entries.map Prod.fst ↔ ∃ x ∈ xs, key x = some k := by
  constructor
  · intro hk
    rcases List.mem_map.mp hk with ⟨⟨k', x⟩, hentry, rfl⟩
    exact ⟨x, first_some ((h.entries k' x).mp hentry)⟩
  · rintro ⟨x, hx, hk⟩
    rcases exists_first hx hk with ⟨y, hy⟩
    exact List.mem_map.mpr ⟨(k, y), (h.entries k y).mpr hy, rfl⟩

/-- The keys do not depend on the order of the values. -/
theorem Kept.keys_perm (h : Kept key xs entries) (hafter : Kept key ys after)
    (hperm : ys.Perm xs) : (after.map Prod.fst).Perm (entries.map Prod.fst) := by
  refine (List.perm_ext_iff_of_nodup hafter.keys h.keys).mpr fun k => ?_
  rw [hafter.mem_keys, h.mem_keys]
  simp only [hperm.mem_iff]

/-- A value that is added has a key, and agrees with the first of it. -/
theorem add_some (h : Kept key xs entries) {x : σ}
    (hadd : add key same entries x = some after) :
    Kept key (xs ++ [x]) after ∧
      ∃ k, key x = some k ∧ ∀ y, first key xs k = some y → same y x = true := by
  unfold add at hadd
  obtain ⟨k, hk, hrest⟩ := Option.bind_eq_some_iff.mp hadd
  rw [h.find? k] at hrest
  -- only the key of the new value can have another first value
  have hlast : ∀ k', first key (xs ++ [x]) k' =
      (first key xs k').or (if k = k' then some x else none) := by
    intro k'
    rw [first_append, first_singleton hk]
  cases hfirst : first key xs k with
  -- the key is new, so no entry has it
  | none =>
    rw [hfirst] at hrest
    cases hrest
    refine ⟨⟨?_, ?_⟩, k, hk, fun y hy => by rw [hfirst] at hy; cases hy⟩
    · rw [List.map_append, List.nodup_append]
      refine ⟨h.keys, by simp, ?_⟩
      intro a ha b hb hsame
      rw [hsame, List.mem_singleton.mp hb] at ha
      obtain ⟨⟨k', y⟩, hentry, hkey⟩ := List.mem_map.mp ha
      have hthere := (h.entries k' y).mp hentry
      rw [show k' = k from hkey, hfirst] at hthere
      cases hthere
    -- an entry is an old one or the new one
    · intro k' y
      rw [List.mem_append, h.entries, hlast, List.mem_singleton, Prod.mk.injEq]
      by_cases hsame : k = k'
      · subst hsame
        simp [hfirst, eq_comm]
      · simp [hsame, Ne.symm hsame]
  -- the key is there, and the entries stay as they are
  | some existing =>
    rw [hfirst] at hrest
    simp only at hrest
    split_ifs at hrest with hagrees
    cases hrest
    refine ⟨⟨h.keys, ?_⟩, k, hk, ?_⟩
    · intro k' y
      rw [h.entries, hlast]
      by_cases hsame : k = k'
      · subst hsame
        rw [hfirst, Option.some_or]
      · rw [if_neg hsame, Option.or_none]
    · intro y hy
      rw [hfirst] at hy
      cases hy
      exact hagrees

/-- A value with a key that agrees with the first of it is added. -/
theorem exists_add (h : Kept key xs entries) {x : σ} {k : String} (hk : key x = some k)
    (hagrees : ∀ y, first key xs k = some y → same y x = true) :
    ∃ after, add key same entries x = some after := by
  unfold add
  rw [hk]
  simp only [Option.bind_eq_bind, Option.bind_some]
  rw [h.find? k]
  cases hfirst : first key xs k with
  | none => exact ⟨_, rfl⟩
  | some y =>
    simp only
    rw [if_pos (hagrees y hfirst)]
    exact ⟨entries, rfl⟩

/-! ## The loop -/

/-- Every value has a key, and the values of a key agree. -/
structure Agreeing (key : σ → Option String) (same : σ → σ → Bool) (xs : List σ) : Prop where
  keyed : ∀ x ∈ xs, ∃ k, key x = some k
  agree : ∀ x ∈ xs, ∀ y ∈ xs, key x = key y → same x y = true

/-- `same` is an equivalence on the values. -/
structure Equivalence (same : σ → σ → Bool) (xs : List σ) : Prop where
  refl : ∀ x ∈ xs, same x x = true
  symm : ∀ x ∈ xs, ∀ y ∈ xs, same x y = true → same y x = true
  trans : ∀ x ∈ xs, ∀ y ∈ xs, ∀ z ∈ xs, same x y = true → same y z = true → same x z = true

/-- What a fold adds is kept, whatever was kept before. -/
theorem foldlM_kept (h : Kept key xs entries)
    (hfold : ys.foldlM (add key same) entries = some after) :
    Kept key (xs ++ ys) after := by
  induction ys generalizing xs entries with
  | nil =>
    cases hfold
    simpa using h
  | cons y ys ih =>
    rw [List.foldlM_cons] at hfold
    obtain ⟨next, hnext, hrest⟩ := Option.bind_eq_some_iff.mp hfold
    have hkept := ih (add_some h hnext).1 hrest
    simpa using hkept

theorem kept_nil : Kept key [] ([] : List (String × σ)) :=
  ⟨List.nodup_nil, by simp [first]⟩

/-- What the loop returns. -/
theorem kept_of_foldlM (h : xs.foldlM (add key same) [] = some entries) :
    Kept key xs entries := by
  simpa using foldlM_kept kept_nil h

/-- Every value that a fold has added agrees with the first of its key. -/
theorem foldlM_agrees (h : Kept key xs entries)
    (hfold : ys.foldlM (add key same) entries = some after) :
    ∀ y ∈ ys, ∃ k x, key y = some k ∧ first key (xs ++ ys) k = some x ∧
      (x = y ∨ same x y = true) := by
  -- induction on what is added
  induction ys generalizing xs entries with
  | nil => exact fun _ hy => absurd hy List.not_mem_nil
  | cons y ys ih =>
    rw [List.foldlM_cons] at hfold
    obtain ⟨next, hnext, hrest⟩ := Option.bind_eq_some_iff.mp hfold
    obtain ⟨hkept, k, hk, hagrees⟩ := add_some h hnext
    intro z hz
    rcases List.mem_cons.mp hz with rfl | hz
    -- the value itself: it agrees with the one before it, or is the first
    · cases hfirst : first key xs k with
      | some x =>
        refine ⟨k, x, hk, ?_, Or.inr (hagrees x hfirst)⟩
        rw [first_append, hfirst, Option.some_or]
      | none =>
        refine ⟨k, z, hk, ?_, Or.inl rfl⟩
        rw [first_append, hfirst, Option.none_or]
        unfold first
        rw [List.find?_cons_of_pos (by simpa using hk)]
    -- a later value
    · have hlater := ih hkept hrest z hz
      simpa using hlater

/-- The loop returns when the values agree. -/
theorem exists_foldlM_iff (hsame : Equivalence same xs) :
    (∃ entries, xs.foldlM (add key same) [] = some entries) ↔ Agreeing key same xs := by
  constructor
  · rintro ⟨entries, h⟩
    have hfirst := foldlM_agrees kept_nil h
    simp only [List.nil_append] at hfirst
    have hequal : ∀ y ∈ xs, ∃ k x, key y = some k ∧ first key xs k = some x ∧
        same x y = true := by
      intro y hy
      obtain ⟨k, x, hk, hx, rfl | hxy⟩ := hfirst y hy
      · exact ⟨k, x, hk, hx, hsame.refl x hy⟩
      · exact ⟨k, x, hk, hx, hxy⟩
    refine ⟨fun y hy => ?_, ?_⟩
    · obtain ⟨k, -, hk, -⟩ := hfirst y hy
      exact ⟨k, hk⟩
    · intro x hx y hy hkeys
      obtain ⟨k, f, hk, hf, hfx⟩ := hequal x hx
      obtain ⟨k', f', hk', hf', hfy⟩ := hequal y hy
      -- both agree with the first value of their key
      have hkk : k = k' := by
        rw [hk, hk', Option.some.injEq] at hkeys
        exact hkeys
      subst hkk
      rw [hf, Option.some.injEq] at hf'
      subst hf'
      have hmem := (first_some hf).1
      exact hsame.trans x hx f hmem y hy (hsame.symm f hmem x hx hfx) hfy
  · intro h
    have hloop : ∀ done entries rest, Kept key done entries → done ++ rest = xs →
        ∃ after, rest.foldlM (add key same) entries = some after := by
      intro done entries rest
      induction rest generalizing done entries with
      | nil => exact fun _ _ => ⟨entries, rfl⟩
      | cons x rest ih =>
        intro hkept hxs
        have hx : x ∈ xs := by
          rw [← hxs]
          exact List.mem_append_right _ List.mem_cons_self
        obtain ⟨k, hk⟩ := h.keyed x hx
        have hadds : ∃ next, add key same entries x = some next := by
          refine exists_add hkept hk ?_
          intro y hy
          obtain ⟨hmem, hkey⟩ := first_some hy
          refine h.agree y ?_ x hx (hkey.trans hk.symm)
          rw [← hxs]
          exact List.mem_append_left _ hmem
        obtain ⟨next, hnext⟩ := hadds
        obtain ⟨after, hafter⟩ := ih (done ++ [x]) next (add_some hkept hnext).1
          (by simpa using hxs)
        exact ⟨after, by rw [List.foldlM_cons, hnext]; exact hafter⟩
    exact hloop [] [] xs kept_nil rfl

theorem Agreeing.perm (h : Agreeing key same xs) (hperm : ys.Perm xs) : Agreeing key same ys :=
  ⟨fun y hy => h.keyed y (hperm.mem_iff.mp hy),
    fun x hx y hy => h.agree x (hperm.mem_iff.mp hx) y (hperm.mem_iff.mp hy)⟩

theorem Equivalence.perm (h : Equivalence same xs) (hperm : ys.Perm xs) : Equivalence same ys :=
  ⟨fun y hy => h.refl y (hperm.mem_iff.mp hy),
    fun x hx y hy => h.symm x (hperm.mem_iff.mp hx) y (hperm.mem_iff.mp hy),
    fun x hx y hy z hz => h.trans x (hperm.mem_iff.mp hx) y (hperm.mem_iff.mp hy) z
      (hperm.mem_iff.mp hz)⟩

end FirstWins
