import MacroPlatform.Lib.JsonEquality

/-! # Python values and what a JSON column makes of them

A value in memory may hold tuples; what a column gives back never does, as a tuple is written as
an array and read as a list. A list is never equal to a tuple in Python, so a value is equal to
its own image exactly when no tuple is inside.

* `equals_image_iff`: that criterion, at any depth.
-/

/-- A value in memory: JSON as it stands, or a list, a tuple or a dict of values. -/
inductive PyValue where
  | plain (value : Json)
  | list (items : List PyValue)
  | tuple (items : List PyValue)
  | dict (fields : List (String × PyValue))

namespace PyValue

/-! ## The image -/

mutual

/-- What a JSON column gives back of a value. -/
def image : PyValue → Json
  | .plain value => value
  | .list items => .arr (imageItems items)
  | .tuple items => .arr (imageItems items)
  | .dict fields => .obj (imageFields fields)

def imageItems : List PyValue → List Json
  | [] => []
  | item :: items => image item :: imageItems items

def imageFields : List (String × PyValue) → List (String × Json)
  | [] => []
  | field :: fields => (field.1, image field.2) :: imageFields fields

end

theorem imageItems_eq (items : List PyValue) : imageItems items = items.map image := by
  induction items with
  | nil => rfl
  | cons item items ih => rw [imageItems, ih, List.map_cons]

theorem imageFields_eq (fields : List (String × PyValue)) :
    imageFields fields = fields.map fun field => (field.1, image field.2) := by
  induction fields with
  | nil => rfl
  | cons field fields ih => rw [imageFields, ih, List.map_cons]

/-! ## Equality with what a column gives back -/

mutual

/-- `stored == value`. -/
def equals : Json → PyValue → Bool
  | stored, .plain value => stored.pyEq value
  | .arr stored, .list items => equalsItems stored items
  | .obj stored, .dict fields => stored.length = fields.length && equalsFields stored fields
  | _, _ => false

def equalsItems : List Json → List PyValue → Bool
  | [], [] => true
  | stored :: rest, item :: items => equals stored item && equalsItems rest items
  | _, _ => false

/-- Every field of the value has its equal in the column. -/
def equalsFields : List (String × Json) → List (String × PyValue) → Bool
  | _, [] => true
  | stored, field :: fields =>
    (match stored.find? fun entry => entry.1 = field.1 with
      | some entry => equals entry.2 field.2
      | none => false) && equalsFields stored fields

end

/-- No tuple is inside. -/
inductive TupleFree : PyValue → Prop
  | plain (value : Json) : TupleFree (.plain value)
  | list {items : List PyValue} (h : ∀ item ∈ items, TupleFree item) : TupleFree (.list items)
  | dict {fields : List (String × PyValue)} (h : ∀ field ∈ fields, TupleFree field.2) :
      TupleFree (.dict fields)

/-- Induction on the values inside. -/
theorem induct {p : PyValue → Prop} (plain : ∀ value, p (.plain value))
    (list : ∀ items, (∀ item ∈ items, p item) → p (.list items))
    (tuple : ∀ items, (∀ item ∈ items, p item) → p (.tuple items))
    (dict : ∀ fields, (∀ field ∈ fields, p field.2) → p (.dict fields)) (v : PyValue) : p v := by
  refine @PyValue.rec p (fun items => ∀ item ∈ items, p item)
    (fun fields => ∀ field ∈ fields, p field.2) (fun field => p field.2) plain list tuple dict
    ?_ ?_ ?_ ?_ (fun _ _ h => h) v
  · exact fun _ hmem => absurd hmem List.not_mem_nil
  · intro first items hfirst hitems item hmem
    rcases List.mem_cons.mp hmem with rfl | hrest
    · exact hfirst
    · exact hitems item hrest
  · exact fun _ hmem => absurd hmem List.not_mem_nil
  · intro first fields hfirst hfields field hmem
    rcases List.mem_cons.mp hmem with rfl | hrest
    · exact hfirst
    · exact hfields field hrest

theorem equalsItems_image (items : List PyValue) :
    equalsItems (items.map image) items = true ↔
      ∀ item ∈ items, equals (image item) item = true := by
  induction items with
  | nil => simp [equalsItems]
  | cons item items ih =>
    rw [List.map_cons, equalsItems, Bool.and_eq_true, ih, List.forall_mem_cons]

theorem equalsFields_iff {stored : List (String × Json)} {fields : List (String × PyValue)} :
    equalsFields stored fields = true ↔ ∀ field ∈ fields, ∃ entry,
      stored.find? (fun entry => entry.1 = field.1) = some entry ∧
        equals entry.2 field.2 = true := by
  induction fields with
  | nil => simp [equalsFields]
  | cons field fields ih =>
    rw [equalsFields, Bool.and_eq_true, ih, List.forall_mem_cons]
    refine and_congr_left fun _ => ?_
    cases stored.find? fun entry => entry.1 = field.1 <;> simp

/-- The fields of an image, found by their distinct keys. -/
theorem find?_imageFields {fields : List (String × PyValue)}
    (hkeys : (fields.map Prod.fst).Nodup) {field : String × PyValue} (hmem : field ∈ fields) :
    (fields.map fun field => (field.1, image field.2)).find? (fun entry => entry.1 = field.1) =
      some (field.1, image field.2) := by
  have hstored : ((fields.map fun field => (field.1, image field.2)).map Prod.fst).Nodup := by
    simpa [Function.comp_def] using hkeys
  have himage : (field.1, image field.2) ∈ fields.map fun field => (field.1, image field.2) :=
    List.mem_map_of_mem hmem
  exact Json.find?_key_of_mem hstored himage

/-- A dict is equal to what the column gives back of it exactly when each of its values is. -/
theorem equals_image_dict {fields : List (String × PyValue)}
    (hkeys : (fields.map Prod.fst).Nodup) :
    equals (image (.dict fields)) (.dict fields) = true ↔
      ∀ field ∈ fields, equals field.2.image field.2 = true := by
  rw [image, imageFields_eq, equals, Bool.and_eq_true, equalsFields_iff]
  constructor
  · rintro ⟨-, hall⟩ field hmem
    rcases hall field hmem with ⟨entry, hfind, hequal⟩
    rw [find?_imageFields hkeys hmem] at hfind
    rwa [← Option.some.inj hfind] at hequal
  · intro hall
    exact ⟨by simp, fun field hmem => ⟨_, find?_imageFields hkeys hmem, hall field hmem⟩⟩

/-- One value that is not equal to its image is enough. -/
theorem not_equals_image_dict (key : String) {fields : List (String × PyValue)} {value : PyValue}
    (hkeys : (fields.map Prod.fst).Nodup) (hmem : (key, value) ∈ fields)
    (hvalue : equals value.image value = false) :
    equals (image (.dict fields)) (.dict fields) = false := by
  rw [Bool.eq_false_iff]
  intro hequal
  have hsame := (equals_image_dict hkeys).mp hequal _ hmem
  rw [hvalue] at hsame
  cases hsame

/-- A tuple is not equal to what the column gives back of it. -/
theorem equals_image_tuple (items : List PyValue) :
    equals (image (.tuple items)) (.tuple items) = false := by
  rw [image, equals]
  all_goals nofun

/-- A value is equal to what the column gives back of it exactly when no tuple is inside. -/
theorem equals_image_iff (v : PyValue) : v.image.KeysDistinct →
    (equals v.image v = true ↔ v.TupleFree) := by
  -- induction on the value
  induction v using induct with
  | plain value =>
    intro h
    rw [image, equals]
    exact iff_of_true (Json.pyEq_refl value h) (.plain value)
  | list items ih =>
    intro h
    rw [image, imageItems_eq] at h
    have hitems : ∀ item ∈ items, (equals item.image item = true ↔ item.TupleFree) := by
      intro item hmem
      exact ih item hmem (h.item (List.mem_map_of_mem hmem))
    rw [image, imageItems_eq, equals, equalsItems_image]
    constructor
    · intro hall
      exact .list fun item hmem => (hitems item hmem).mp (hall item hmem)
    · rintro (_ | hall | _) item hmem
      exact (hitems item hmem).mpr (hall item hmem)
  -- a tuple comes back as a list, which is not equal to it
  | tuple items ih =>
    intro _
    rw [equals_image_tuple]
    constructor
    · nofun
    · nofun
  -- a field is compared with the one of its key, and there is one of each
  | dict fields ih =>
    intro h
    rw [image, imageFields_eq] at h
    have hkeys : (fields.map Prod.fst).Nodup := by
      simpa [Function.comp_def] using h.keys
    have hfields : ∀ field ∈ fields, (equals field.2.image field.2 = true ↔
        field.2.TupleFree) := by
      intro field hmem
      have hinside := h.field (List.mem_map_of_mem
        (f := fun field : String × PyValue => (field.1, image field.2)) hmem)
      exact ih field hmem hinside
    rw [equals_image_dict hkeys]
    constructor
    · intro hall
      exact .dict fun field hmem => (hfields field hmem).mp (hall field hmem)
    · rintro (_ | _ | hall) field hmem
      exact (hfields field hmem).mpr (hall field hmem)

end PyValue
