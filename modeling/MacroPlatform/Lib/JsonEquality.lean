import Mathlib.Data.List.Forall2
import Mathlib.Data.List.Perm.Subperm
import Mathlib.Data.List.Sort
import MacroPlatform.Lib.Json

/-! # Equality of JSON values

`==` compares numbers by value and dicts without their order. On values whose dicts have every
key once it is an equivalence; two values with the same canonical text are equal by it, not the
other way round.

* `pyEq_refl`, `pyEq_symm`, `pyEq_trans`: the equivalence;
* `get_sortKeys`: sorting the keys keeps the values.
-/

namespace Json

/-- Every dict inside has distinct keys, as a Python dict has. -/
def KeysDistinct (j : Json) : Prop :=
  ∀ fields, Inside (.obj fields) j → (fields.map Prod.fst).Nodup

theorem KeysDistinct.keys {fields : List (String × Json)} (h : KeysDistinct (.obj fields)) :
    (fields.map Prod.fst).Nodup :=
  h fields .here

theorem KeysDistinct.item {items : List Json} (h : KeysDistinct (.arr items)) {item : Json}
    (hmem : item ∈ items) : KeysDistinct item :=
  fun fields hinside => h fields (.item hmem hinside)

theorem KeysDistinct.field {fields : List (String × Json)} (h : KeysDistinct (.obj fields))
    {field : String × Json} (hmem : field ∈ fields) : KeysDistinct field.2 :=
  fun inner hinside => h inner (.field hmem hinside)

/-! ## Induction -/

/-- Induction on the values inside. -/
theorem induct {p : Json → Prop}
    (scalar : ∀ j, j.toArr? = none → j.toObj? = none → p j)
    (arr : ∀ items, (∀ item ∈ items, p item) → p (.arr items))
    (obj : ∀ fields, (∀ field ∈ fields, p field.2) → p (.obj fields)) (j : Json) : p j := by
  refine @Json.rec p (fun items => ∀ item ∈ items, p item)
    (fun fields => ∀ field ∈ fields, p field.2) (fun field => p field.2) (scalar _ rfl rfl)
    (fun _ => scalar _ rfl rfl) (fun _ => scalar _ rfl rfl) (fun _ => scalar _ rfl rfl)
    (fun _ => scalar _ rfl rfl) arr obj ?_ ?_ ?_ ?_ (fun _ _ h => h) j
  · exact fun _ hmem => absurd hmem List.not_mem_nil
  · intro first items hfirst hitems item hmem
    rcases List.mem_cons.mp hmem with rfl | hrest
    · exact hfirst
    · exact hitems item hrest
  · exact fun _ hmem => absurd hmem List.not_mem_nil
  · intro first fields hfirst hfields field hmem
    rcases List.mem_cons.mp hmem with rfl | hrest
    · exact hfirst
    · exact hfields field hrest

/-! ## The equivalence -/

theorem pyEqItems_iff {lefts rights : List Json} :
    pyEqItems lefts rights = true ↔ List.Forall₂ (fun x y => pyEq x y = true) lefts rights := by
  induction lefts generalizing rights with
  | nil => cases rights <;> simp [pyEqItems]
  | cons left lefts ih => cases rights <;> simp [pyEqItems, ih]

theorem pyEqFields_iff {lefts rights : List (String × Json)} :
    pyEqFields lefts rights = true ↔ ∀ left ∈ lefts, ∃ right,
      rights.find? (fun right => right.1 = left.1) = some right ∧
        pyEq left.2 right.2 = true := by
  induction lefts with
  | nil => simp [pyEqFields]
  | cons left lefts ih =>
    rw [pyEqFields, Bool.and_eq_true, ih, List.forall_mem_cons]
    refine and_congr_left fun _ => ?_
    cases rights.find? fun right => right.1 = left.1 <;> simp

/-- The entry of a key among distinct keys. -/
theorem find?_key_of_mem {α : Type*} {fields : List (String × α)} {field : String × α}
    (hkeys : (fields.map Prod.fst).Nodup) (hmem : field ∈ fields) :
    fields.find? (fun f => f.1 = field.1) = some field := by
  induction fields with
  | nil => cases hmem
  | cons first fields ih =>
    obtain ⟨hnew, hrest⟩ := List.nodup_cons.mp hkeys
    rcases List.mem_cons.mp hmem with rfl | hmem
    · rw [List.find?_cons_of_pos (by simp)]
    · have hne : first.1 ≠ field.1 := by
        intro hsame
        exact hnew (hsame ▸ List.mem_map_of_mem hmem)
      rw [List.find?_cons_of_neg (by simpa using hne)]
      exact ih hrest hmem

/-- A value without repeated keys equals itself. -/
theorem pyEq_refl (j : Json) : KeysDistinct j → pyEq j j = true := by
  induction j using induct with
  | scalar j harr hobj =>
    intro _
    cases j with
    | arr items => cases harr
    | obj fields => cases hobj
    | _ => simp [pyEq, number?]
  | arr items ih =>
    intro h
    rw [pyEq, pyEqItems_iff]
    exact List.forall₂_same.mpr fun item hmem => ih item hmem (h.item hmem)
  | obj fields ih =>
    intro h
    rw [pyEq, Bool.and_eq_true, pyEqFields_iff]
    refine ⟨by simp, ?_⟩
    intro field hmem
    exact ⟨field, find?_key_of_mem h.keys hmem, ih field hmem (h.field hmem)⟩

theorem forall₂_flip {α β : Type*} {r : α → β → Prop} {s : β → α → Prop} {xs : List α}
    {ys : List β} (h : List.Forall₂ r xs ys) (himp : ∀ x ∈ xs, ∀ y ∈ ys, r x y → s y x) :
    List.Forall₂ s ys xs := by
  induction h with
  | nil => exact List.Forall₂.nil
  | @cons x y xs ys hxy _ ih =>
    refine List.Forall₂.cons (himp x List.mem_cons_self y List.mem_cons_self hxy) (ih ?_)
    exact fun x hx y hy => himp x (List.mem_cons_of_mem _ hx) y (List.mem_cons_of_mem _ hy)

/-- Transitivity item by item, where it holds for the items of the first list. -/
theorem forall₂_trans {α β γ : Type*} {r : α → β → Prop} {s : β → γ → Prop} {t : α → γ → Prop}
    {xs : List α} {ys : List β} {zs : List γ} (h : List.Forall₂ r xs ys)
    (hnext : List.Forall₂ s ys zs) (himp : ∀ x ∈ xs, ∀ y z, r x y → s y z → t x z) :
    List.Forall₂ t xs zs := by
  induction h generalizing zs with
  | nil =>
    cases hnext
    exact List.Forall₂.nil
  | @cons x y xs ys hxy _ ih =>
    rcases hnext with _ | ⟨hyz, hrest⟩
    refine List.Forall₂.cons (himp x List.mem_cons_self y _ hxy hyz) (ih hrest ?_)
    exact fun x hx => himp x (List.mem_cons_of_mem _ hx)

/-- Dicts of one size have the same keys when the one has those of the other. -/
theorem keys_subset_of_length {α β : Type*} {lefts : List (String × α)}
    {rights : List (String × β)} (hleft : (lefts.map Prod.fst).Nodup)
    (hlength : lefts.length = rights.length)
    (hsub : ∀ left ∈ lefts, ∃ right ∈ rights, right.1 = left.1) {right : String × β}
    (hright : right ∈ rights) : ∃ left ∈ lefts, left.1 = right.1 := by
  have hkeys : lefts.map Prod.fst ⊆ rights.map Prod.fst := by
    intro key hkey
    obtain ⟨left, hmem, rfl⟩ := List.mem_map.mp hkey
    obtain ⟨right, hmem, hsame⟩ := hsub left hmem
    exact List.mem_map.mpr ⟨right, hmem, hsame⟩
  have hperm : (lefts.map Prod.fst).Perm (rights.map Prod.fst) :=
    (List.subperm_of_subset hleft hkeys).perm_of_length_le (by simp [hlength])
  obtain ⟨left, hmem, hsame⟩ := List.mem_map.mp
    (hperm.mem_iff.mpr (List.mem_map_of_mem hright))
  exact ⟨left, hmem, hsame⟩

/-- Python's equality is symmetric on values without repeated keys. -/
theorem pyEq_symm (j : Json) : ∀ other, KeysDistinct j → KeysDistinct other →
    pyEq j other = true → pyEq other j = true := by
  induction j using induct with
  | scalar j harr hobj =>
    intro other _ _ heq
    cases j with
    | arr items => cases harr
    | obj fields => cases hobj
    | _ => cases other <;> simp_all [pyEq, number?]
  | arr items ih =>
    intro other h hother heq
    cases other with
    | arr others =>
      rw [pyEq, pyEqItems_iff] at heq ⊢
      exact forall₂_flip heq fun item hmem next hnext =>
        ih item hmem next (h.item hmem) (hother.item hnext)
    | _ => simp [pyEq, number?] at heq
  | obj fields ih =>
    intro other h hother heq
    cases other with
    | obj others =>
      rw [pyEq, Bool.and_eq_true, pyEqFields_iff] at heq ⊢
      obtain ⟨hlength, hfields⟩ := heq
      rw [decide_eq_true_eq] at hlength
      refine ⟨decide_eq_true hlength.symm, ?_⟩
      intro right hright
      have hsub : ∀ left ∈ fields, ∃ right ∈ others, right.1 = left.1 := by
        intro left hleft
        obtain ⟨found, hfound, -⟩ := hfields left hleft
        exact ⟨found, List.mem_of_find?_eq_some hfound, by simpa using List.find?_some hfound⟩
      obtain ⟨left, hleft, hsame⟩ := keys_subset_of_length h.keys hlength hsub hright
      obtain ⟨found, hfound, hequal⟩ := hfields left hleft
      -- the entry that the left found is this one
      have hthis : found = right := by
        rw [hsame, find?_key_of_mem hother.keys hright, Option.some.injEq] at hfound
        exact hfound.symm
      rw [hthis] at hequal
      refine ⟨left, ?_, ih left hleft _ (h.field hleft) (hother.field hright) hequal⟩
      rw [← hsame]
      exact find?_key_of_mem h.keys hleft
    | _ => simp [pyEq, number?] at heq

/-- It is transitive. -/
theorem pyEq_trans (j : Json) : ∀ next last, pyEq j next = true → pyEq next last = true →
    pyEq j last = true := by
  -- induction on the value; one that is equal has the same shape
  induction j using induct with
  | scalar j harr hobj =>
    intro next last hnext hlast
    cases j with
    | arr items => cases harr
    | obj fields => cases hobj
    | _ => cases next <;> cases last <;> simp_all [pyEq, number?]
  | arr items ih =>
    intro next last hnext hlast
    cases next with
    | arr nexts =>
      cases last with
      -- arrays, item by item
      | arr lasts =>
        rw [pyEq, pyEqItems_iff] at hnext hlast ⊢
        exact forall₂_trans hnext hlast fun item hmem next last => ih item hmem next last
      | _ => simp [pyEq, number?] at hlast
    | _ => simp [pyEq, number?] at hnext
  | obj fields ih =>
    intro next last hnext hlast
    cases next with
    | obj nexts =>
      cases last with
      -- objects of the same size, each field by the one of its key
      | obj lasts =>
        rw [pyEq, Bool.and_eq_true, pyEqFields_iff, decide_eq_true_eq] at hnext hlast ⊢
        refine ⟨hnext.1.trans hlast.1, ?_⟩
        intro left hleft
        obtain ⟨middle, hmiddle, hleftEq⟩ := hnext.2 left hleft
        obtain ⟨right, hright, hrightEq⟩ := hlast.2 middle (List.mem_of_find?_eq_some hmiddle)
        have hkey : middle.1 = left.1 := by simpa using List.find?_some hmiddle
        rw [hkey] at hright
        exact ⟨right, hright, ih left hleft _ _ hleftEq hrightEq⟩
      | _ => simp [pyEq, number?] at hlast
    | _ => simp [pyEq, number?] at hnext

/-! ## Canonical order -/

mutual

/-- `sort_keys=True`: the fields of every dict by their keys. -/
def sortKeys : Json → Json
  | .arr items => .arr (sortKeysItems items)
  | .obj fields => .obj ((sortKeysFields fields).insertionSort fun a b => a.1 ≤ b.1)
  | j => j

def sortKeysItems : List Json → List Json
  | [] => []
  | item :: items => sortKeys item :: sortKeysItems items

def sortKeysFields : List (String × Json) → List (String × Json)
  | [] => []
  | field :: fields => (field.1, sortKeys field.2) :: sortKeysFields fields

end

theorem sortKeys_arr (items : List Json) : sortKeys (.arr items) = .arr (items.map sortKeys) := by
  have hitems : ∀ items, sortKeysItems items = items.map sortKeys := by
    intro items
    induction items with
    | nil => rfl
    | cons item items ih => rw [sortKeysItems, ih, List.map_cons]
  rw [sortKeys, hitems]

theorem sortKeys_obj (fields : List (String × Json)) :
    sortKeys (.obj fields) =
      .obj ((fields.map fun field => (field.1, sortKeys field.2)).insertionSort
        fun a b => a.1 ≤ b.1) := by
  have hfields : ∀ fields, sortKeysFields fields =
      fields.map fun field => (field.1, sortKeys field.2) := by
    intro fields
    induction fields with
    | nil => rfl
    | cons field fields ih => rw [sortKeysFields, ih, List.map_cons]
  rw [sortKeys, hfields]

/-- The values keep their keys. -/
theorem get_sortKeys {fields : List (String × Json)} (hkeys : (fields.map Prod.fst).Nodup)
    (key : String) : (sortKeys (.obj fields)).get key = ((Json.obj fields).get key).sortKeys := by
  let sorted := (fields.map fun field => (field.1, sortKeys field.2)).insertionSort
    fun a b => a.1 ≤ b.1
  have hperm : sorted.Perm (fields.map fun field => (field.1, sortKeys field.2)) :=
    List.perm_insertionSort _ _
  have hsorted : (sorted.map Prod.fst).Nodup := by
    rw [(hperm.map Prod.fst).nodup_iff, List.map_map]
    exact hkeys
  rw [sortKeys_obj]
  show ((sorted.find? fun field => field.1 = key).map Prod.snd).getD .null =
    (((fields.find? fun field => field.1 = key).map Prod.snd).getD .null).sortKeys
  cases hfound : fields.find? fun field => field.1 = key with
  | some field =>
    have hkey : field.1 = key := by simpa using List.find?_some hfound
    have hmem : (field.1, sortKeys field.2) ∈ sorted :=
      hperm.mem_iff.mpr (List.mem_map_of_mem (List.mem_of_find?_eq_some hfound))
    have hentry := find?_key_of_mem hsorted hmem
    rw [← hkey, hentry]
    rfl
  | none =>
    have hnone : sorted.find? (fun field => field.1 = key) = none := by
      apply List.find?_eq_none.mpr
      intro entry hentry
      obtain ⟨field, hfield, rfl⟩ := List.mem_map.mp (hperm.mem_iff.mp hentry)
      exact List.find?_eq_none.mp hfound field hfield
    rw [hnone]
    rfl

end Json
