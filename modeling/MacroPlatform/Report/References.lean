import MacroPlatform.Report.FallbackSections

/-! # References inside a value

The walks of the contract and of the store collect the references of every nested dict. A value
refers only to what is known when each of its dicts does.

* `refersOnly_of_null`, `refersOnly_of_strings`: a dict without and with references of its own;
* `RefersOnly.nested`: the two walks.
-/

namespace MacroPlatform.Report

open Daily

/-- Every dict inside a value has only references that are taken, or none. -/
def RefersOnly (fieldName : String) (known : String → Prop) (j : Json) : Prop :=
  ∀ value, Json.Inside value j →
    ∃ ids ∈ references? fieldName value, ∀ id ∈ ids, known id

variable {fieldName : String} {known : String → Prop}

/-- The parts of a collection are collected when each part is. -/
theorem mapM_flatten {α : Type} {f : α → Option (List String)} {xs : List α} :
    (∃ parts ∈ xs.mapM f, ∀ id ∈ parts.flatten, known id) ↔
      ∀ x ∈ xs, ∃ ids ∈ f x, ∀ id ∈ ids, known id := by
  constructor
  · rintro ⟨parts, hparts, hknown⟩ x hx
    obtain ⟨ids, hmem, hids⟩ := Raising.exists_of_mapM_some hparts hx
    exact ⟨ids, hids, fun id hid => hknown id (List.mem_flatten.mpr ⟨ids, hmem, hid⟩)⟩
  · intro h
    have hsome : (xs.mapM f).isSome := by
      refine mapM_isSome.mpr ?_
      intro x hx
      obtain ⟨ids, hids, -⟩ := h x hx
      exact Option.isSome_iff_exists.mpr ⟨ids, hids⟩
    obtain ⟨parts, hparts⟩ := Option.isSome_iff_exists.mp hsome
    refine ⟨parts, hparts, ?_⟩
    intro id hid
    obtain ⟨ids, hmem, hid⟩ := List.mem_flatten.mp hid
    obtain ⟨x, hx, hfx⟩ := Raising.exists_of_mem_mapM_some hparts hmem
    obtain ⟨found, hfound, hknown⟩ := h x hx
    have hsame : found = ids := Option.some.inj (hfound.symm.trans hfx)
    exact hknown id (hsame ▸ hid)

/-- A value refers to known ids only when its walk does. -/
theorem refersOnly_iff {j : Json} : RefersOnly fieldName known j ↔
    ∃ ids ∈ strictReferenceIds fieldName j, ∀ id ∈ ids, known id := by
  have hwalk := @mapM_flatten known Json (references? fieldName) (Json.subvalues j)
  have hstrict : (∃ ids ∈ strictReferenceIds fieldName j, ∀ id ∈ ids, known id) ↔
      ∃ parts ∈ (Json.subvalues j).mapM (references? fieldName),
        ∀ id ∈ parts.flatten, known id := by
    rw [strictReferenceIds_eq]
    simp only [Option.mem_def, Option.map_eq_some_iff]
    constructor
    · rintro ⟨ids, ⟨parts, hparts, rfl⟩, hknown⟩
      exact ⟨parts, hparts, hknown⟩
    · rintro ⟨parts, hparts, hknown⟩
      exact ⟨_, ⟨parts, hparts, rfl⟩, hknown⟩
  rw [hstrict, hwalk]
  unfold RefersOnly
  simp only [Json.mem_subvalues]

/-- An object does when its own references and its fields do. -/
theorem refersOnly_obj {fields : List (String × Json)} :
    RefersOnly fieldName known (.obj fields) ↔
      (∃ ids ∈ references? fieldName (.obj fields), ∀ id ∈ ids, known id) ∧
        ∀ field ∈ fields, RefersOnly fieldName known field.2 := by
  constructor
  · intro h
    refine ⟨h _ Json.Inside.here, ?_⟩
    intro field hfield value hvalue
    exact h value (Json.Inside.field hfield hvalue)
  · rintro ⟨hown, hfields⟩ value hvalue
    cases hvalue with
    | here => exact hown
    | field hfield hinside => exact hfields _ hfield value hinside

/-- A dict without the references of its own. -/
theorem refersOnly_of_null {fields : List (String × Json)}
    (hnull : (Json.obj fields).get fieldName = .null)
    (h : ∀ field ∈ fields, RefersOnly fieldName known field.2) :
    RefersOnly fieldName known (.obj fields) := by
  refine refersOnly_obj.mpr ⟨⟨[], ?_, fun id hid => absurd hid List.not_mem_nil⟩, h⟩
  unfold references?
  rw [hnull]
  rfl

/-- A dict with references of its own. -/
theorem refersOnly_of_strings {fields : List (String × Json)} {ids : List String}
    (hids : (Json.obj fields).get fieldName = strings ids) (hknown : ∀ id ∈ ids, known id)
    (h : ∀ field ∈ fields, RefersOnly fieldName known field.2) :
    RefersOnly fieldName known (.obj fields) := by
  refine refersOnly_obj.mpr ⟨⟨ids, ?_, hknown⟩, h⟩
  unfold references?
  rw [hids]
  have hmap : (ids.map Json.str).mapM Json.toStr? = some ids :=
    Json.mapM_map (f := Json.str) (fun _ => rfl) ids
  exact hmap

theorem refersOnly_arr {items : List Json} : RefersOnly fieldName known (.arr items) ↔
    ∀ item ∈ items, RefersOnly fieldName known item := by
  constructor
  · intro h item hitem value hvalue
    exact h value (Json.Inside.item hitem hvalue)
  · intro h value hvalue
    cases hvalue with
    | here => exact ⟨[], rfl, fun id hid => absurd hid List.not_mem_nil⟩
    | item hitem hinside => exact h _ hitem value hinside

/-- A value that is no dict and no list. -/
def IsScalar (j : Json) : Prop := j.toArr? = none ∧ j.toObj? = none

theorem refersOnly_scalar {j : Json} (h : IsScalar j) : RefersOnly fieldName known j := by
  intro value hvalue
  cases hvalue with
  | here =>
    refine ⟨[], ?_, fun id hid => absurd hid List.not_mem_nil⟩
    cases j with
    | obj fields => cases h.2
    | arr items => cases h.1
    | _ => rfl
  | item hmem hinside => cases h.1
  | field hmem hinside => cases h.2

theorem scalar_str (s : String) : IsScalar (.str s) := ⟨rfl, rfl⟩

theorem scalar_int (n : ℤ) : IsScalar (.int n) := ⟨rfl, rfl⟩

theorem scalar_ofOption {α : Type} {f : α → Json} (hf : ∀ a, IsScalar (f a)) (o : Option α) :
    IsScalar (.ofOption f o) := by
  cases o with
  | none => exact ⟨rfl, rfl⟩
  | some a => exact hf a

theorem scalar_literalText {α : Type} [DecidableEq α] (values : List (String × α)) (value : α) :
    IsScalar (literalText values value) :=
  scalar_ofOption (fun _ => scalar_str _) _

theorem refersOnly_strings (values : List String) :
    RefersOnly fieldName known (strings values) := by
  refine refersOnly_arr.mpr ?_
  intro item hitem
  obtain ⟨value, -, rfl⟩ := List.mem_map.mp hitem
  exact refersOnly_scalar (scalar_str value)

theorem RefersOnly.mono {more : String → Prop} {j : Json} (h : RefersOnly fieldName known j)
    (hsub : ∀ id, known id → more id) : RefersOnly fieldName more j := by
  intro value hvalue
  obtain ⟨ids, hids, hknown⟩ := h value hvalue
  exact ⟨ids, hids, fun id hid => hsub id (hknown id hid)⟩

/-- The lenient walk of the validator finds no more than the strict one. -/
theorem RefersOnly.nested {j : Json} {id : String} (h : RefersOnly fieldName known j)
    (hid : id ∈ nestedReferenceIds fieldName j) : known id := by
  obtain ⟨value, references, hinside, hget, hmem⟩ := mem_nestedReferenceIds.mp hid
  obtain ⟨ids, hids, hknown⟩ := h value hinside
  unfold references? at hids
  rw [hget] at hids
  obtain ⟨found, hfound, hread⟩ := Raising.exists_of_mapM_some hids hmem
  have hsame : id = found := Option.some.inj hread
  exact hknown id (hsame ▸ hfound)

end MacroPlatform.Report
