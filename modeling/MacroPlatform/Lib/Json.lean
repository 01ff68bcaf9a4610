import Mathlib.Data.List.Induction
import Mathlib.Data.Rat.Defs

/-! # JSON values

What a JSON column gives back. An object is the list of its fields in the order the
column keeps them; no key occurs twice in the objects the model builds.

* `find?_dict`: a dict holds the last pair of every key;
* `mem_subvalues`: the walk finds all that is nested.
-/

inductive Json where
  | null
  | bool (value : Bool)
  | int (value : ℤ)
  | float (value : ℚ)
  | str (value : String)
  | arr (items : List Json)
  | obj (fields : List (String × Json))
deriving Repr

namespace Json

/-- `dict.get(key, default)`; anything but an object has no keys. -/
def get (j : Json) (key : String) (default : Json := .null) : Json :=
  match j with
  | .obj fields => ((fields.find? fun f => f.1 = key).map Prod.snd).getD default
  | _ => default

def keys : Json → List String
  | .obj fields => fields.map Prod.fst
  | _ => []

def ofOption {α : Type*} (f : α → Json) : Option α → Json
  | none => .null
  | some a => f a

/-- A validated non-negative integer. -/
def toNat? : Json → Option ℕ
  | .int value => if 0 ≤ value then some value.toNat else none
  | _ => none

/-- `isinstance(value, int)`, with its value; a `bool` is one. -/
def pyInt? : Json → Option ℤ
  | .int value => some value
  | .bool value => some (if value then 1 else 0)
  | _ => none

def toStr? : Json → Option String
  | .str value => some value
  | _ => none

def toArr? : Json → Option (List Json)
  | .arr items => some items
  | _ => none

def toObj? : Json → Option (List (String × Json))
  | .obj fields => some fields
  | _ => none

/-- `value is True`. -/
def isTrue : Json → Bool
  | .bool value => value
  | _ => false

/-- `T | None`. -/
def toOption? {α : Type*} (f : Json → Option α) : Json → Option (Option α)
  | .null => some none
  | j => (f j).map some

/-- The default only stands for a key that is not there. -/
theorem get_default (j : Json) (key : String) (default : Json) :
    j.get key default = j.get key ∨ j.get key = .null ∧ j.get key default = default := by
  cases j with
  | obj fields =>
    show ((fields.find? fun field => field.1 = key).map Prod.snd).getD default =
        ((fields.find? fun field => field.1 = key).map Prod.snd).getD .null ∨
      ((fields.find? fun field => field.1 = key).map Prod.snd).getD .null = .null ∧
        ((fields.find? fun field => field.1 = key).map Prod.snd).getD default = default
    cases fields.find? fun field => field.1 = key with
    | none => exact Or.inr ⟨rfl, rfl⟩
    | some field => exact Or.inl rfl
  | _ => exact Or.inr ⟨rfl, rfl⟩

theorem toNat?_int (n : ℕ) : toNat? (.int n) = some n := by
  simp [toNat?]

/-- A nullable field comes back as it was written. -/
theorem toOption?_ofOption {α : Type*} {f : α → Json} {g : Json → Option α}
    (hnull : ∀ a, f a ≠ .null) (hfg : ∀ a, g (f a) = some a) (o : Option α) :
    toOption? g (ofOption f o) = some o := by
  cases o with
  | none => rfl
  | some a =>
    have hne := hnull a
    simp only [ofOption, toOption?, hfg, Option.map_some]

/-- A list comes back when each of its items does. -/
theorem mapM_map {α : Type*} {f : α → Json} {g : Json → Option α}
    (hfg : ∀ a, g (f a) = some a) (l : List α) : (l.map f).mapM g = some l := by
  induction l with
  | nil => rfl
  | cons a l ih => simp [List.mapM_cons, hfg, ih]

/-! ## Equality -/

/-- The number that a value is: a bool is an integer, a float is its exact value. -/
def number? : Json → Option ℚ
  | .bool value => some (if value then 1 else 0)
  | .int value => some value
  | .float value => some value
  | _ => none

mutual

/-- `left == right`: numbers by their values, dicts without an order. -/
def pyEq : Json → Json → Bool
  | .null, .null => true
  | .str left, .str right => left = right
  | .arr left, .arr right => pyEqItems left right
  | .obj left, .obj right => left.length = right.length && pyEqFields left right
  | left, right =>
    match number? left, number? right with
    | some x, some y => x = y
    | _, _ => false

def pyEqItems : List Json → List Json → Bool
  | [], [] => true
  | left :: lefts, right :: rights => pyEq left right && pyEqItems lefts rights
  | _, _ => false

/-- Every field of the left has its equal on the right. -/
def pyEqFields : List (String × Json) → List (String × Json) → Bool
  | [], _ => true
  | left :: lefts, rights =>
    (match rights.find? fun right => right.1 = left.1 with
      | some right => pyEq left.2 right.2
      | none => false) && pyEqFields lefts rights

end

/-! ## Assignment -/

/-- `d[key] = value`: a key that is there keeps its place. -/
def assign {α : Type*} (key : String) (value : α) : List (String × α) → List (String × α)
  | [] => [(key, value)]
  | field :: fields =>
    if field.1 = key then (key, value) :: fields else field :: assign key value fields

/-- `d[key] = value` of an object; anything else becomes one. -/
def set (j : Json) (key : String) (value : Json) : Json :=
  .obj (assign key value (j.toObj?.getD []))

/-- `d.update(...)`. -/
def update (j : Json) (fields : List (String × Json)) : Json :=
  fields.foldl (fun j field => j.set field.1 field.2) j

/-- The dict of a list of pairs: a later pair of a key replaces the earlier one. -/
def dict {α : Type*} (pairs : List (String × α)) : List (String × α) :=
  pairs.foldl (fun fields pair => assign pair.1 pair.2 fields) []

/-- An assignment is found under its key, and nothing else changes. -/
theorem find?_assign {α : Type*} {key other : String} {value : α} {fields : List (String × α)} :
    (assign key value fields).find? (fun f => f.1 = other) =
      if key = other then some (key, value) else fields.find? fun f => f.1 = other := by
  -- induction on the fields: the key is replaced where it is first met
  induction fields with
  | nil =>
    by_cases hkey : key = other
    · simp [assign, hkey]
    · simp [assign, hkey]
  | cons field fields ih =>
    unfold assign
    by_cases hfield : field.1 = key
    -- the field that is replaced
    · rw [if_pos hfield]
      by_cases hkey : key = other
      · simp [hkey]
      · have hne : field.1 ≠ other := by
          rw [hfield]
          exact hkey
        simp [hkey, hne]
    -- a field that stays
    · rw [if_neg hfield, List.find?_cons]
      by_cases hkey : key = other
      · have hne : field.1 ≠ other := by
          rw [← hkey]
          exact hfield
        simp only [hne, decide_false, ih, if_pos hkey]
      · rw [ih, if_neg hkey, if_neg hkey, List.find?_cons]

/-- The keys after an assignment. -/
theorem mem_keys_assign {α : Type*} {key other : String} {value : α}
    {fields : List (String × α)} :
    other ∈ (assign key value fields).map Prod.fst ↔
      other = key ∨ other ∈ fields.map Prod.fst := by
  induction fields with
  | nil => simp [assign]
  | cons field fields ih =>
    unfold assign
    by_cases hfield : field.1 = key
    · rw [if_pos hfield, List.map_cons, List.map_cons, List.mem_cons, List.mem_cons, hfield]
      tauto
    · rw [if_neg hfield, List.map_cons, List.map_cons, List.mem_cons, List.mem_cons, ih]
      tauto

/-- An assignment repeats no key. -/
theorem nodup_assign {α : Type*} {key : String} {value : α} {fields : List (String × α)}
    (h : (fields.map Prod.fst).Nodup) : ((assign key value fields).map Prod.fst).Nodup := by
  induction fields with
  | nil => simp [assign]
  | cons field fields ih =>
    rw [List.map_cons, List.nodup_cons] at h
    unfold assign
    by_cases hfield : field.1 = key
    · rw [if_pos hfield, List.map_cons, List.nodup_cons]
      exact ⟨hfield ▸ h.1, h.2⟩
    · rw [if_neg hfield, List.map_cons, List.nodup_cons]
      refine ⟨?_, ih h.2⟩
      rw [mem_keys_assign, not_or]
      exact ⟨hfield, h.1⟩

theorem dict_concat {α : Type*} (pairs : List (String × α)) (pair : String × α) :
    dict (pairs ++ [pair]) = assign pair.1 pair.2 (dict pairs) := by
  unfold dict
  rw [List.foldl_append]
  rfl

/-- A dict of pairs holds, of every key, the last pair. -/
theorem find?_dict {α : Type*} {key : String} {pairs : List (String × α)} :
    (dict pairs).find? (fun f => f.1 = key) = pairs.reverse.find? fun f => f.1 = key := by
  induction pairs using List.reverseRecOn with
  | nil => rfl
  | append_singleton pairs pair ih =>
    rw [dict_concat, find?_assign, ih, List.reverse_append, List.reverse_singleton,
      List.singleton_append, List.find?_cons]
    by_cases hkey : pair.1 = key
    · rw [if_pos hkey, decide_eq_true hkey]
    · rw [if_neg hkey, decide_eq_false hkey]

theorem mem_of_find?_dict {α : Type*} {key : String} {pairs : List (String × α)}
    {pair : String × α} (h : (dict pairs).find? (fun f => f.1 = key) = some pair) :
    pair ∈ pairs ∧ pair.1 = key := by
  rw [find?_dict] at h
  have hmem := List.mem_of_find?_eq_some h
  have hkey := List.find?_some h
  exact ⟨List.mem_reverse.mp hmem, of_decide_eq_true hkey⟩

theorem mem_keys_dict {α : Type*} {key : String} {pairs : List (String × α)} :
    key ∈ (dict pairs).map Prod.fst ↔ key ∈ pairs.map Prod.fst := by
  induction pairs using List.reverseRecOn with
  | nil => rfl
  | append_singleton pairs pair ih =>
    rw [dict_concat, mem_keys_assign, ih, List.map_append, List.mem_append, List.map_singleton,
      List.mem_singleton]
    exact or_comm

theorem get_set (j : Json) (key other : String) (value default : Json) :
    (j.set key value).get other default = if key = other then value else j.get other default := by
  have hget : ∀ fields : List (String × Json), (Json.obj fields).get other default =
      ((fields.find? fun f => f.1 = other).map Prod.snd).getD default := fun _ => rfl
  unfold set
  rw [hget, find?_assign]
  by_cases hkey : key = other
  · simp [hkey]
  · rw [if_neg hkey, if_neg hkey]
    cases j <;> rfl

theorem mem_keys_set (j : Json) (key other : String) (value : Json) :
    other ∈ (j.set key value).keys ↔ other = key ∨ other ∈ j.keys := by
  unfold set keys
  rw [mem_keys_assign]
  cases j <;> simp [toObj?]

theorem nodup_keys_set {j : Json} (h : j.keys.Nodup) (key : String) (value : Json) :
    (j.set key value).keys.Nodup := by
  unfold set keys
  refine nodup_assign ?_
  cases j with
  | obj fields => exact h
  | _ => exact List.nodup_nil

theorem nodup_keys_update {j : Json} (h : j.keys.Nodup) (fields : List (String × Json)) :
    (j.update fields).keys.Nodup := by
  unfold update
  induction fields generalizing j with
  | nil => exact h
  | cons field fields ih => exact ih (nodup_keys_set h field.1 field.2)

/-! ## Nested values -/

/-- A value that a walk through dicts and lists comes to. -/
inductive Inside (value : Json) : Json → Prop
  | here : Inside value value
  | item {items : List Json} {item : Json} (hmem : item ∈ items) (h : Inside value item) :
      Inside value (.arr items)
  | field {fields : List (String × Json)} {field : String × Json} (hmem : field ∈ fields)
      (h : Inside value field.2) : Inside value (.obj fields)

mutual

/-- A value and the values inside it, in the order of a walk. -/
def subvalues : Json → List Json
  | .arr items => .arr items :: subvaluesOfItems items
  | .obj fields => .obj fields :: subvaluesOfFields fields
  | j => [j]

def subvaluesOfItems : List Json → List Json
  | [] => []
  | item :: items => subvalues item ++ subvaluesOfItems items

def subvaluesOfFields : List (String × Json) → List Json
  | [] => []
  | field :: fields => subvalues field.2 ++ subvaluesOfFields fields

end

theorem subvaluesOfItems_eq (items : List Json) :
    subvaluesOfItems items = items.flatMap subvalues := by
  induction items with
  | nil => rfl
  | cons item items ih => rw [subvaluesOfItems, ih, List.flatMap_cons]

theorem subvaluesOfFields_eq (fields : List (String × Json)) :
    subvaluesOfFields fields = fields.flatMap fun field => subvalues field.2 := by
  induction fields with
  | nil => rfl
  | cons field fields ih => rw [subvaluesOfFields, ih, List.flatMap_cons]

theorem self_mem_subvalues (j : Json) : j ∈ subvalues j := by
  cases j <;> simp [subvalues]

theorem mem_subvalues_of_inside {value j : Json} (h : Inside value j) : value ∈ subvalues j := by
  induction h with
  | here => exact self_mem_subvalues value
  | item hmem _ ih =>
    rw [subvalues, subvaluesOfItems_eq]
    exact List.mem_cons_of_mem _ (List.mem_flatMap.mpr ⟨_, hmem, ih⟩)
  | field hmem _ ih =>
    rw [subvalues, subvaluesOfFields_eq]
    exact List.mem_cons_of_mem _ (List.mem_flatMap.mpr ⟨_, hmem, ih⟩)

mutual

/-- What the walk meets is inside the value. -/
theorem inside_of_mem_subvalues {value : Json} :
    ∀ {j : Json}, value ∈ subvalues j → Inside value j
  | .arr items, h => by
    rcases List.mem_cons.mp h with rfl | hitems
    · exact .here
    · obtain ⟨item, hmem, hinside⟩ := inside_of_mem_items hitems
      exact .item hmem hinside
  | .obj fields, h => by
    rcases List.mem_cons.mp h with rfl | hfields
    · exact .here
    · obtain ⟨field, hmem, hinside⟩ := inside_of_mem_fields hfields
      exact .field hmem hinside
  | .null, h => List.mem_singleton.mp h ▸ .here
  | .bool _, h => List.mem_singleton.mp h ▸ .here
  | .int _, h => List.mem_singleton.mp h ▸ .here
  | .float _, h => List.mem_singleton.mp h ▸ .here
  | .str _, h => List.mem_singleton.mp h ▸ .here

theorem inside_of_mem_items {value : Json} :
    ∀ {items : List Json}, value ∈ subvaluesOfItems items → ∃ item ∈ items, Inside value item
  | item :: items, h => by
    rcases List.mem_append.mp h with hitem | hitems
    · exact ⟨item, List.mem_cons_self, inside_of_mem_subvalues hitem⟩
    · obtain ⟨other, hmem, hinside⟩ := inside_of_mem_items hitems
      exact ⟨other, List.mem_cons_of_mem item hmem, hinside⟩

theorem inside_of_mem_fields {value : Json} :
    ∀ {fields : List (String × Json)}, value ∈ subvaluesOfFields fields →
      ∃ field ∈ fields, Inside value field.2
  | field :: fields, h => by
    rcases List.mem_append.mp h with hfield | hfields
    · exact ⟨field, List.mem_cons_self, inside_of_mem_subvalues hfield⟩
    · obtain ⟨other, hmem, hinside⟩ := inside_of_mem_fields hfields
      exact ⟨other, List.mem_cons_of_mem field hmem, hinside⟩

end

/-- The walk finds all that is nested, at any depth. -/
theorem mem_subvalues {value j : Json} : value ∈ subvalues j ↔ Inside value j :=
  ⟨inside_of_mem_subvalues, mem_subvalues_of_inside⟩

end Json
