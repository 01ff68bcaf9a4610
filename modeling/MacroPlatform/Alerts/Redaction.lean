import MacroPlatform.Contracts.Unicode
import MacroPlatform.Lib.JsonMask

/-! # What may be kept of a response

The delivery of a report and the alerts keep the response of Feishu with the values of sensitive
keys replaced. Each has a copy of the walk: the delivery looks at the key before it goes down,
the alerts pass the key along.

* `Delivery.redact_eq_mask`, `Alerts.redact_eq_mask`: either masks the values of the sensitive
  keys, and nothing else.
* `redactions_agree_and_hide`: the two are one function, which is idempotent, and tells responses
  apart only by what stands outside the sensitive keys.
-/

namespace MacroPlatform

variable (u : Unicode)

/-- `_REDACTED_KEY_NAMES`, the same set in both modules. -/
def redactedKeyNames : List String :=
  ["accesstoken", "appsecret", "authorization", "password", "secret", "tenantaccesstoken", "token"]

/-- `"".join(character for character in key.lower() if character.isalnum())`. -/
def normalizedKey (key : String) : String :=
  String.ofList ((u.lower key).toList.filter u.isAlnum)

namespace Delivery

/-- `_is_sensitive_key`. -/
def isSensitiveKey (key : String) : Bool :=
  redactedKeyNames.contains (normalizedKey u key)

-- capitals and separators do not hide a key, but a longer name is another key
example : isSensitiveKey Unicode.ascii "Tenant-Access_Token" = true := by decide +kernel

example : isSensitiveKey Unicode.ascii "token_type" = false := by decide +kernel

mutual

/-- `_redact` of the delivery. -/
def redact : Json → Json
  | .obj fields => .obj (redactFields fields)
  | .arr items => .arr (redactItems items)
  | value => value

def redactItems : List Json → List Json
  | [] => []
  | item :: items => redact item :: redactItems items

def redactFields : List (String × Json) → List (String × Json)
  | [] => []
  | (key, item) :: fields =>
    (key, if isSensitiveKey u key then .str "[REDACTED]" else redact item) :: redactFields fields

end

theorem redactItems_eq (items : List Json) : redactItems u items = items.map (redact u) := by
  induction items with
  | nil => rfl
  | cons item items ih => rw [redactItems, ih, List.map_cons]

theorem redactFields_eq (fields : List (String × Json)) :
    redactFields u fields = fields.map fun field =>
      (field.1, if isSensitiveKey u field.1 then .str "[REDACTED]" else redact u field.2) := by
  induction fields with
  | nil => rfl
  | cons field fields ih => rw [redactFields, ih, List.map_cons]

/-- The delivery masks the sensitive keys. -/
theorem redact_eq_mask (j : Json) :
    redact u j = Json.mask (isSensitiveKey u) (.str "[REDACTED]") j := by
  induction j using Json.induct with
  | scalar j harr hobj =>
    rw [Json.mask_scalar harr hobj]
    cases j with
    | arr items => cases harr
    | obj fields => cases hobj
    | _ => simp [redact]
  -- without a key of its own a list is walked item by item
  | arr items ih =>
    rw [redact, redactItems_eq, Json.mask_arr]
    congr 1
    exact List.map_congr_left ih
  | obj fields ih =>
    rw [redact, redactFields_eq, Json.mask_obj]
    congr 1
    apply List.map_congr_left
    intro field hmem
    rw [ih field hmem]

end Delivery

namespace Alerts

/-- The name that `_redact` compares. -/
def normalizedName : Option String → String
  | none => ""
  | some key => normalizedKey u key

mutual

/-- `_redact` of the alerts. -/
def redact (value : Json) (key : Option String) : Json :=
  if redactedKeyNames.contains (normalizedName u key) then .str "[REDACTED]"
  else match value with
    | .obj fields => .obj (redactFields fields)
    | .arr items => .arr (redactItems items)
    | value => value

def redactItems : List Json → List Json
  | [] => []
  | item :: items => redact item none :: redactItems items

def redactFields : List (String × Json) → List (String × Json)
  | [] => []
  | (key, item) :: fields => (key, redact item (some key)) :: redactFields fields

end

theorem redactItems_eq (items : List Json) :
    redactItems u items = items.map (redact u · none) := by
  induction items with
  | nil => rfl
  | cons item items ih => rw [redactItems, ih, List.map_cons]

theorem redactFields_eq (fields : List (String × Json)) :
    redactFields u fields = fields.map fun field => (field.1, redact u field.2 field.1) := by
  induction fields with
  | nil => rfl
  | cons field fields ih => rw [redactFields, ih, List.map_cons]

/-- Without a key nothing is replaced at the top. -/
theorem noKey_insensitive : redactedKeyNames.contains (normalizedName u none) = false := by
  simp [normalizedName, redactedKeyNames]

theorem redact_none_arr (items : List Json) :
    redact u (.arr items) none = .arr (items.map (redact u · none)) := by
  rw [redact, noKey_insensitive, if_neg Bool.false_ne_true, redactItems_eq]

theorem redact_none_obj (fields : List (String × Json)) :
    redact u (.obj fields) none =
      .obj (fields.map fun field => (field.1, redact u field.2 field.1)) := by
  rw [redact, noKey_insensitive, if_neg Bool.false_ne_true, redactFields_eq]

/-- The key that is passed along matters to the value right under it. -/
theorem redact_some (key : String) (j : Json) :
    redact u j (some key) =
      if Delivery.isSensitiveKey u key then .str "[REDACTED]" else redact u j none := by
  by_cases hkey : Delivery.isSensitiveKey u key = true
  · rw [if_pos hkey, redact.eq_def]
    exact if_pos hkey
  · rw [if_neg hkey, redact.eq_def, redact.eq_def u j none, noKey_insensitive,
      if_neg Bool.false_ne_true]
    exact if_neg hkey

/-- The alerts mask the same keys. -/
theorem redact_eq_mask (j : Json) :
    redact u j none = Json.mask (Delivery.isSensitiveKey u) (.str "[REDACTED]") j := by
  induction j using Json.induct with
  | scalar j harr hobj =>
    rw [Json.mask_scalar harr hobj]
    cases j with
    | arr items => cases harr
    | obj fields => cases hobj
    | _ => rw [redact.eq_def, noKey_insensitive, if_neg Bool.false_ne_true]
  | arr items ih =>
    rw [redact_none_arr, Json.mask_arr]
    congr 1
    exact List.map_congr_left ih
  -- the key of each field is passed along, and looked at right under it
  | obj fields ih =>
    rw [redact_none_obj, Json.mask_obj]
    congr 1
    apply List.map_congr_left
    intro field hmem
    rw [redact_some, ih field hmem]

end Alerts

/-- The two walks are one, a second walk finds nothing to do, and what either keeps tells two
responses apart only by what stands outside the sensitive keys. -/
theorem redactions_agree_and_hide :
    (∀ j, Delivery.redact u j = Alerts.redact u j none) ∧
      (∀ j, Delivery.redact u (Delivery.redact u j) = Delivery.redact u j) ∧
      (∀ j, Alerts.redact u (Alerts.redact u j none) none = Alerts.redact u j none) ∧
      ∀ left right,
        (Delivery.redact u left = Delivery.redact u right ↔
          Json.SameOutside (Delivery.isSensitiveKey u) left right) ∧
        (Alerts.redact u left none = Alerts.redact u right none ↔
          Json.SameOutside (Delivery.isSensitiveKey u) left right) := by
  refine ⟨?_, ?_, ?_, ?_⟩
  · intro j
    rw [Delivery.redact_eq_mask, Alerts.redact_eq_mask]
  · intro j
    rw [Delivery.redact_eq_mask, Delivery.redact_eq_mask, Json.mask_mask]
  · intro j
    rw [Alerts.redact_eq_mask, Alerts.redact_eq_mask, Json.mask_mask]
  -- what is kept is the mask, which tells apart what differs outside the sensitive keys
  · intro left right
    constructor
    · rw [Delivery.redact_eq_mask, Delivery.redact_eq_mask, Json.mask_eq_iff]
    · rw [Alerts.redact_eq_mask, Alerts.redact_eq_mask, Json.mask_eq_iff]

/-- A response with a secret inside a list, and another one beside it. -/
example : Alerts.redact Unicode.ascii
    (.obj [("code", .int 0), ("App-Secret", .obj [("kid", .int 1)]),
      ("data", .arr [.obj [("token", .str "t-1"), ("expire", .int 7200)]])]) none =
    .obj [("code", .int 0), ("App-Secret", .str "[REDACTED]"),
      ("data", .arr [.obj [("token", .str "[REDACTED]"), ("expire", .int 7200)]])] := by
  rfl

end MacroPlatform
