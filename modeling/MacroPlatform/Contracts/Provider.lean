import MacroPlatform.Contracts.Common
import MacroPlatform.Contracts.Text
import MacroPlatform.Lib.Json

/-! # Provider contracts

The request and the result of an ingest job, and the warnings a result carries. The
fields hold what validation leaves in them, so a value is a valid contract.
-/

namespace MacroPlatform

/-- `Region`. -/
inductive Region where
  | cn
  | hk
  | us
  | global
deriving DecidableEq, Repr

def Region.value : Region → String
  | .cn => "CN"
  | .hk => "HK"
  | .us => "US"
  | .global => "GLOBAL"

/-- `Region(value)`. -/
def Region.ofValue? (value : String) : Option Region :=
  [Region.cn, .hk, .us, .global].find? fun region => region.value = value

/-- `Dataset`. -/
inductive Dataset where
  | instruments
  | bars
  | marketObservations
  | macroSeries
  | macroObservations
  | macroReleases
  | news
deriving DecidableEq, Repr

def Dataset.value : Dataset → String
  | .instruments => "instruments"
  | .bars => "bars"
  | .marketObservations => "market_observations"
  | .macroSeries => "macro_series"
  | .macroObservations => "macro_observations"
  | .macroReleases => "macro_releases"
  | .news => "news"

/-- `Dataset(value)`. -/
def Dataset.ofValue? (value : String) : Option Dataset :=
  [Dataset.instruments, .bars, .marketObservations, .macroSeries, .macroObservations,
    .macroReleases, .news].find? fun dataset => dataset.value = value

theorem Dataset.ofValue?_value (dataset : Dataset) :
    Dataset.ofValue? dataset.value = some dataset := by
  cases dataset <;> rfl

/-- An `AwareDatetime` as it is serialized: the instant and the offset it is written in. -/
structure AwareDatetime where
  instant : Instant
  offsetMinutes : ℤ
deriving DecidableEq, Repr

/-- `WarningItem`. The details are the JSON objects that the providers and the handlers
build. -/
structure WarningItem where
  code : Text
  message : Text
  scope : Option Text
  details : List (String × Json)
  code_length : 2 ≤ code.value.length ∧ code.value.length ≤ 64
  message_length : 1 ≤ message.value.length ∧ message.value.length ≤ 500

/-- `IngestJobRequest`; `regions` is the set in the order `model_dump` lists it. Equal requests are
those with one dump, and so with one idempotency key. -/
structure IngestJobRequest where
  providerRole : Text
  dataset : Dataset
  regions : List Region
  start : AwareDatetime
  stop : AwareDatetime
  asOf : AwareDatetime
  cursor : Option Text := none
  dryRun : Bool := false
  force : Bool := false
deriving DecidableEq

/-- `IngestJobResult.status`. -/
inductive JobStatus where
  | succeeded
  | partially
  | failed
  | retryWait
deriving DecidableEq, Repr

/-- `IngestJobResult`. -/
structure IngestJobResult where
  runId : UUID
  status : JobStatus
  providerRole : Text
  dataset : Dataset
  startedAt : Instant
  finishedAt : Instant
  recordsFetched : ℕ
  recordsAccepted : ℕ
  recordsRejected : ℕ
  recordsInserted : ℕ
  recordsUpdated : ℕ
  nextCursor : Option Text := none
  sourceWatermark : Option Text := none
  errorCode : Option Text := none
  retryAfterSeconds : Option ℕ := none
  warnings : List WarningItem := []

/-! ## Warnings as JSON -/

def Text.dump (t : Text) : Json := .str t.value

def Text.validate (j : Json) : Option Text := j.toStr?.map .ofString

theorem Text.validate_dump (t : Text) : Text.validate t.dump = some t := by
  simp [Text.validate, Text.dump, Json.toStr?, Text.ofString_value]

theorem Text.dump_ne_null (t : Text) : t.dump ≠ .null := by
  simp [Text.dump]

/-- `warning.model_dump(mode="json")`. -/
def WarningItem.modelDump (warning : WarningItem) : Json :=
  .obj [("code", warning.code.dump), ("message", warning.message.dump),
    ("scope", .ofOption Text.dump warning.scope), ("details", .obj warning.details)]

/-- `WarningItem.model_validate(item)`: `none` is a `ValidationError`. -/
def WarningItem.modelValidate (item : Json) : Option WarningItem := do
  if item.keys.all (· ∈ ["code", "message", "scope", "details"]) then
    let code ← Text.validate (item.get "code")
    let message ← Text.validate (item.get "message")
    let scope ← (item.get "scope").toOption? Text.validate
    let details ← (item.get "details" (.obj [])).toObj?
    if h : (2 ≤ code.value.length ∧ code.value.length ≤ 64) ∧
        (1 ≤ message.value.length ∧ message.value.length ≤ 500) then
      some ⟨code, message, scope, details, h.1, h.2⟩
    else none
  else none

/-- A stored warning is read back as it was. -/
theorem WarningItem.modelValidate_modelDump (warning : WarningItem) :
    WarningItem.modelValidate warning.modelDump = some warning := by
  have hscope := Json.toOption?_ofOption Text.dump_ne_null Text.validate_dump warning.scope
  simp [WarningItem.modelValidate, WarningItem.modelDump, Json.get, Json.keys,
    Text.validate_dump, hscope, Json.toObj?, warning.code_length, warning.message_length]

end MacroPlatform
