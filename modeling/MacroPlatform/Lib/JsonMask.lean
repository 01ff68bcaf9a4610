import MacroPlatform.Lib.JsonEquality

/-! # Masking the fields of some keys

Masking puts a fixed value in the place of whatever stands under a sensitive key, at any depth.
Two values have the same mask exactly when they differ under sensitive keys alone: nothing under
such a key can be told from the mask, and nothing else is lost by it.

* `mask_mask`: a masked value has nothing left to mask;
* `mask_eq_iff`: what the mask tells apart.
-/

namespace Json

variable {sensitive : String → Bool} {blank : Json}

mutual

def mask (sensitive : String → Bool) (blank : Json) : Json → Json
  | .arr items => .arr (maskItems sensitive blank items)
  | .obj fields => .obj (maskFields sensitive blank fields)
  | value => value

def maskItems (sensitive : String → Bool) (blank : Json) : List Json → List Json
  | [] => []
  | item :: items => mask sensitive blank item :: maskItems sensitive blank items

def maskFields (sensitive : String → Bool) (blank : Json) :
    List (String × Json) → List (String × Json)
  | [] => []
  | field :: fields =>
    (field.1, if sensitive field.1 then blank else mask sensitive blank field.2) ::
      maskFields sensitive blank fields

end

theorem maskItems_eq (items : List Json) :
    maskItems sensitive blank items = items.map (mask sensitive blank) := by
  induction items with
  | nil => rfl
  | cons item items ih => rw [maskItems, ih, List.map_cons]

theorem maskFields_eq (fields : List (String × Json)) :
    maskFields sensitive blank fields = fields.map fun field =>
      (field.1, if sensitive field.1 then blank else mask sensitive blank field.2) := by
  induction fields with
  | nil => rfl
  | cons field fields ih => rw [maskFields, ih, List.map_cons]

@[simp] theorem mask_arr (items : List Json) :
    mask sensitive blank (.arr items) = .arr (items.map (mask sensitive blank)) := by
  rw [mask, maskItems_eq]

@[simp] theorem mask_obj (fields : List (String × Json)) :
    mask sensitive blank (.obj fields) = .obj (fields.map fun field =>
      (field.1, if sensitive field.1 then blank else mask sensitive blank field.2)) := by
  rw [mask, maskFields_eq]

theorem mask_scalar {j : Json} (harr : j.toArr? = none) (hobj : j.toObj? = none) :
    mask sensitive blank j = j := by
  cases j with
  | arr items => cases harr
  | obj fields => cases hobj
  | _ => simp [mask]

/-- A masked value has nothing left to mask. -/
theorem mask_mask (j : Json) :
    mask sensitive blank (mask sensitive blank j) = mask sensitive blank j := by
  induction j using induct with
  | scalar j harr hobj => rw [mask_scalar harr hobj, mask_scalar harr hobj]
  | arr items ih =>
    rw [mask_arr, mask_arr, List.map_map]
    congr 1
    exact List.map_congr_left ih
  | obj fields ih =>
    rw [mask_obj, mask_obj, List.map_map]
    congr 1
    apply List.map_congr_left
    intro field hmem
    by_cases hkey : sensitive field.1 = true
    · simp [hkey]
    · simp [hkey, ih field hmem]

/-! ## What a mask hides -/

/-- The two values differ in nothing but what stands under sensitive keys. -/
inductive SameOutside (sensitive : String → Bool) : Json → Json → Prop
  | same (j : Json) : SameOutside sensitive j j
  | items {lefts rights : List Json} (hlength : lefts.length = rights.length)
      (hitems : ∀ pair ∈ lefts.zip rights, SameOutside sensitive pair.1 pair.2) :
      SameOutside sensitive (.arr lefts) (.arr rights)
  | fields {lefts rights : List (String × Json)}
      (hkeys : lefts.map Prod.fst = rights.map Prod.fst)
      (hfields : ∀ pair ∈ lefts.zip rights, sensitive pair.1.1 = false →
        SameOutside sensitive pair.1.2 pair.2.2) :
      SameOutside sensitive (.obj lefts) (.obj rights)

/-- Equal images of two lists are equal images of the pairs. -/
theorem map_eq_map_iff_zip {α β : Type*} {f : α → β} {lefts rights : List α} :
    lefts.map f = rights.map f ↔
      lefts.length = rights.length ∧ ∀ pair ∈ lefts.zip rights, f pair.1 = f pair.2 := by
  induction lefts generalizing rights with
  | nil => cases rights <;> simp
  | cons left lefts ih =>
    cases rights with
    | nil => simp
    | cons right rights =>
      simp only [List.map_cons, List.cons.injEq, ih, List.length_cons, Nat.add_right_cancel_iff,
        List.zip_cons_cons, List.forall_mem_cons]
      tauto

/-- Values that agree outside the sensitive keys have one mask. -/
theorem SameOutside.mask_eq {left right : Json} (h : SameOutside sensitive left right) :
    mask sensitive blank left = mask sensitive blank right := by
  induction h with
  | same j => rfl
  | items hlength _ ih =>
    rw [mask_arr, mask_arr]
    congr 1
    exact map_eq_map_iff_zip.mpr ⟨hlength, ih⟩
  | @fields lefts rights hkeys _ ih =>
    have hpairs := map_eq_map_iff_zip.mp hkeys
    rw [mask_obj, mask_obj]
    congr 1
    refine map_eq_map_iff_zip.mpr ⟨hpairs.1, ?_⟩
    intro pair hpair
    have hkey : pair.1.1 = pair.2.1 := hpairs.2 pair hpair
    -- under a sensitive key both sides hold the blank
    by_cases hsensitive : sensitive pair.1.1 = true
    · simp [← hkey, hsensitive]
    · rw [Bool.not_eq_true] at hsensitive
      simp [← hkey, hsensitive, ih pair hpair hsensitive]

/-- The mask tells nothing apart but what differs outside the sensitive keys. -/
theorem mask_eq_iff {left right : Json} :
    mask sensitive blank left = mask sensitive blank right ↔ SameOutside sensitive left right := by
  constructor
  · intro h
    -- induction on the left value; the mask keeps the shape, so the right one has the same
    induction left using induct generalizing right with
    | scalar j harr hobj =>
      rw [mask_scalar harr hobj] at h
      cases right with
      | arr rights =>
        rw [mask_arr] at h
        rw [h] at harr
        cases harr
      | obj rights =>
        rw [mask_obj] at h
        rw [h] at hobj
        cases hobj
      | _ =>
        rw [mask_scalar rfl rfl] at h
        rw [h]
        exact .same _
    | arr lefts ih =>
      rw [mask_arr] at h
      cases right with
      | arr rights =>
        -- equal maps pair the items
        rw [mask_arr, Json.arr.injEq, map_eq_map_iff_zip] at h
        refine .items h.1 ?_
        intro pair hpair
        exact ih pair.1 (List.of_mem_zip hpair).1 (h.2 pair hpair)
      | obj rights =>
        rw [mask_obj] at h
        cases h
      | _ =>
        rw [mask_scalar rfl rfl] at h
        cases h
    | obj lefts ih =>
      rw [mask_obj] at h
      cases right with
      | obj rights =>
        rw [mask_obj, Json.obj.injEq, map_eq_map_iff_zip] at h
        obtain ⟨hlength, hpairs⟩ := h
        -- the keys are not masked
        have hkeys : lefts.map Prod.fst = rights.map Prod.fst :=
          map_eq_map_iff_zip.mpr
            ⟨hlength, fun pair hpair => (Prod.mk.inj (hpairs pair hpair)).1⟩
        refine .fields hkeys ?_
        -- the value of a key that is not sensitive is compared behind the mask
        intro pair hpair hsensitive
        rcases Prod.mk.inj (hpairs pair hpair) with ⟨hkey, hvalue⟩
        rw [← hkey, hsensitive, if_neg Bool.false_ne_true, if_neg Bool.false_ne_true] at hvalue
        exact ih pair.1 (List.of_mem_zip hpair).1 hvalue
      | arr rights =>
        rw [mask_arr] at h
        cases h
      | _ =>
        rw [mask_scalar rfl rfl] at h
        cases h
  · exact SameOutside.mask_eq

end Json
