import MacroPlatform.Contracts.Provider
import MacroPlatform.Lib.ConditionalUpdate

/-! # The `provider_runs` row

`uq_provider_runs_idempotency` leaves at most one run for an idempotency key. The
operations are those of `IngestionRunRepository`; a completed run is read back from
its columns and its JSON details.

* `heldBy_cases`: the guarded operations apply to the row that the lease holds, or not at all;
* `loadCompletedResult_completed`: a completed run gives its result back.
-/

namespace MacroPlatform.Ingestion

open ConditionalUpdate

/-- `ProviderRunRow.status`: `running`, or the status of a result. -/
inductive RunStatus where
  | running
  | ended (status : JobStatus)
deriving DecidableEq, Repr

def RunStatus.value : RunStatus → String
  | .running => "running"
  | .ended .succeeded => "succeeded"
  | .ended .partially => "partial"
  | .ended .failed => "failed"
  | .ended .retryWait => "retry_wait"

/-- `status in {"succeeded", "partial"}`. -/
def RunStatus.replayable (status : RunStatus) : Prop :=
  status = .ended .succeeded ∨ status = .ended .partially

instance (status : RunStatus) : Decidable status.replayable :=
  inferInstanceAs (Decidable (_ ∨ _))

/-- `ProviderRunRow`. -/
structure ProviderRun where
  runId : UUID
  providerRole : String
  dataset : String
  status : RunStatus
  attemptNo : ℕ
  leaseExpiresAt : Option Instant
  startedAt : Instant
  finishedAt : Option Instant := none
  recordsFetched : ℕ := 0
  recordsAccepted : ℕ := 0
  recordsRejected : ℕ := 0
  errorCode : Option String := none
  details : Json := .obj []
  requestPayload : IngestJobRequest

/-- `IngestionRunLease`. -/
structure IngestionRunLease where
  runId : UUID
  attemptNo : ℕ
deriving DecidableEq, Repr

abbrev RunRow := Option ProviderRun

/-! ## The conditional updates -/

/-- The run that `acquire_run` inserts. -/
def insertedRun (request : IngestJobRequest) (runId : UUID) (now leaseExpiresAt : Instant) :
    ProviderRun :=
  { runId := runId
    providerRole := request.providerRole.value
    dataset := request.dataset.value
    status := .running
    attemptNo := 1
    leaseExpiresAt := some leaseExpiresAt
    startedAt := now
    requestPayload := request }

/-- `acquire_run`: the lease of a fresh run, or the id of the existing one. The error is the
`ValueError` of a key reused for a different request. -/
def acquireRun (row : RunRow) (request : IngestJobRequest) (runId : UUID)
    (now leaseExpiresAt : Instant) :
    Except String (RunRow × Option IngestionRunLease × UUID) :=
  match row with
  | none =>
      .ok (some (insertedRun request runId now leaseExpiresAt), some ⟨runId, 1⟩, runId)
  | some existing =>
      if existing.requestPayload ≠ request then
        .error "ingestion-run idempotency key was reused for a different request"
      else .ok (some existing, none, existing.runId)

/-- The run may be taken over: it failed, or its lease has run out. -/
def ProviderRun.Recoverable (r : ProviderRun) (now : Instant) : Prop :=
  r.status = .ended .failed ∨ r.status = .ended .retryWait ∨
    (r.status = .running ∧ r.leaseExpiresAt.all (· ≤ now) = true)

instance (r : ProviderRun) (now : Instant) : Decidable (r.Recoverable now) :=
  inferInstanceAs (Decidable (_ ∨ _ ∨ _))

/-- The run under its next attempt. -/
def ProviderRun.claimed (r : ProviderRun) (now leaseExpiresAt : Instant) : ProviderRun :=
  { r with
    status := .running
    attemptNo := r.attemptNo + 1
    leaseExpiresAt := some leaseExpiresAt
    startedAt := now
    finishedAt := none
    errorCode := none }

/-- `claim_recoverable_run`. -/
def claimRecoverableRun (row : RunRow) (runId : UUID) (now leaseExpiresAt : Instant) :
    RunRow × Option IngestionRunLease :=
  let claimed := updateWhere (fun r : ProviderRun => r.runId = runId ∧ r.Recoverable now)
    (·.claimed now leaseExpiresAt) row
  (claimed.1, claimed.2.map fun r => ⟨r.runId, r.attemptNo⟩)

/-- The guard of the three operations that need the lease. -/
def ProviderRun.HeldBy (r : ProviderRun) (runId : UUID) (attemptNo : ℕ) : Prop :=
  r.runId = runId ∧ r.attemptNo = attemptNo ∧ r.status = .running

instance (r : ProviderRun) (runId : UUID) (attemptNo : ℕ) :
    Decidable (r.HeldBy runId attemptNo) :=
  inferInstanceAs (Decidable (_ ∧ _ ∧ _))

/-- `renew_lease`. -/
def renewLease (row : RunRow) (lease : IngestionRunLease) (leaseExpiresAt : Instant) :
    RunRow × Bool :=
  let renewed := updateWhere (fun r : ProviderRun => r.HeldBy lease.runId lease.attemptNo)
    (fun r => { r with leaseExpiresAt := some leaseExpiresAt }) row
  (renewed.1, renewed.2.isSome)

/-- The `details` of a completed run. -/
def completionDetails (result : IngestJobResult) : Json :=
  .obj [("records_inserted", .int result.recordsInserted),
    ("records_updated", .int result.recordsUpdated),
    ("next_cursor", .ofOption Text.dump result.nextCursor),
    ("source_watermark", .ofOption Text.dump result.sourceWatermark),
    ("retry_after_seconds", .ofOption (fun n : ℕ => .int n) result.retryAfterSeconds),
    ("warnings", .arr (result.warnings.map WarningItem.modelDump))]

/-- The run as its completion writes it. -/
def ProviderRun.completed (r : ProviderRun) (result : IngestJobResult) : ProviderRun :=
  { r with
    status := .ended result.status
    startedAt := result.startedAt
    finishedAt := some result.finishedAt
    recordsFetched := result.recordsFetched
    recordsAccepted := result.recordsAccepted
    recordsRejected := result.recordsRejected
    errorCode := result.errorCode.map (·.value)
    leaseExpiresAt := none
    details := completionDetails result }

/-- `complete_run`. -/
def completeRun (row : RunRow) (result : IngestJobResult) (lease : IngestionRunLease) :
    RunRow × Bool :=
  let completed := updateWhere (fun r : ProviderRun => r.HeldBy result.runId lease.attemptNo)
    (·.completed result) row
  (completed.1, completed.2.isSome)

/-- `fail_run`. -/
def failRun (row : RunRow) (lease : IngestionRunLease) (errorCode : String) : RunRow × Bool :=
  let failed := updateWhere (fun r : ProviderRun => r.HeldBy lease.runId lease.attemptNo)
    (fun r => { r with
      status := .ended .failed
      errorCode := some errorCode
      leaseExpiresAt := none }) row
  (failed.1, failed.2.isSome)

/-- `load_run`. -/
def loadRun (row : RunRow) (runId : UUID) : RunRow :=
  row.filter (·.runId = runId)

/-- The `IngestJobResult` that the columns and the details validate to. -/
def ProviderRun.replay (r : ProviderRun) (finishedAt : Instant) : Option IngestJobResult := do
  let status ← match r.status with
    | .running => none
    | .ended status => some status
  let dataset ← Dataset.ofValue? r.dataset
  let recordsInserted ← (r.details.get "records_inserted" (.int 0)).toNat?
  let recordsUpdated ← (r.details.get "records_updated" (.int 0)).toNat?
  let nextCursor ← (r.details.get "next_cursor").toOption? Text.validate
  let sourceWatermark ← (r.details.get "source_watermark").toOption? Text.validate
  let retryAfterSeconds ← (r.details.get "retry_after_seconds").toOption? Json.toNat?
  let items ← (r.details.get "warnings" (.arr [])).toArr?
  let warnings ← items.mapM WarningItem.modelValidate
  some {
    runId := r.runId
    status := status
    providerRole := .ofString r.providerRole
    dataset := dataset
    startedAt := r.startedAt
    finishedAt := finishedAt
    recordsFetched := r.recordsFetched
    recordsAccepted := r.recordsAccepted
    recordsRejected := r.recordsRejected
    recordsInserted := recordsInserted
    recordsUpdated := recordsUpdated
    nextCursor := nextCursor
    sourceWatermark := sourceWatermark
    errorCode := r.errorCode.map .ofString
    retryAfterSeconds := retryAfterSeconds
    warnings := warnings }

/-- `load_completed_result`; the error is the `ValidationError` of a row that does not
validate. -/
def loadCompletedResult (row : RunRow) (runId : UUID) :
    Except String (Option IngestJobResult) :=
  match loadRun row runId with
  | none => .ok none
  | some r =>
      if r.status.replayable then
        match r.finishedAt with
        | none => .ok none
        | some finishedAt =>
            match r.replay finishedAt with
            | none => .error "ValidationError"
            | some result => .ok (some result)
      else .ok none

/-! ## What each operation can do -/

/-- The three guarded operations apply to the row that the lease holds, or not at all. -/
theorem heldBy_cases (row : RunRow) (runId : UUID) (attemptNo : ℕ)
    (set : ProviderRun → ProviderRun) :
    (∃ r, row = some r ∧ r.HeldBy runId attemptNo ∧
      updateWhere (fun r : ProviderRun => r.HeldBy runId attemptNo) set row =
        (some (set r), some (set r))) ∨
    ((∀ r, row = some r → ¬ r.HeldBy runId attemptNo) ∧
      updateWhere (fun r : ProviderRun => r.HeldBy runId attemptNo) set row = (row, none)) :=
  updateWhere_cases _ set row

/-- A lease that does not hold the row is refused by all three, and changes nothing. -/
theorem refused_of_not_held {row : RunRow} {lease : IngestionRunLease}
    (h : ∀ r, row = some r → r.attemptNo ≠ lease.attemptNo) :
    (∀ leaseExpiresAt, renewLease row lease leaseExpiresAt = (row, false)) ∧
      (∀ errorCode, failRun row lease errorCode = (row, false)) ∧
      ∀ result, completeRun row result lease = (row, false) := by
  have hguard : ∀ runId r, row = some r → ¬ r.HeldBy runId lease.attemptNo :=
    fun runId r hr hheld => h r hr hheld.2.1
  refine ⟨?_, ?_, ?_⟩
  · intro leaseExpiresAt
    simp [renewLease, updateWhere_of_not_guard (hguard lease.runId)]
  · intro errorCode
    simp [failRun, updateWhere_of_not_guard (hguard lease.runId)]
  · intro result
    simp [completeRun, updateWhere_of_not_guard (hguard result.runId)]

/-- A run that can be recovered is claimed for the next attempt, any other stays. -/
theorem claimRecoverableRun_cases (row : RunRow) (runId : UUID)
    (now leaseExpiresAt : Instant) :
    (∃ r, row = some r ∧ r.runId = runId ∧ r.Recoverable now ∧
      claimRecoverableRun row runId now leaseExpiresAt =
        (some (r.claimed now leaseExpiresAt), some ⟨r.runId, r.attemptNo + 1⟩)) ∨
    ((∀ r, row = some r → ¬ (r.runId = runId ∧ r.Recoverable now)) ∧
      claimRecoverableRun row runId now leaseExpiresAt = (row, none)) := by
  rcases updateWhere_cases (fun r : ProviderRun => r.runId = runId ∧ r.Recoverable now)
    (·.claimed now leaseExpiresAt) row with ⟨r, hrow, hguard, heq⟩ | ⟨hguard, heq⟩
  · refine Or.inl ⟨r, hrow, hguard.1, hguard.2, ?_⟩
    rw [claimRecoverableRun, heq]
    rfl
  · refine Or.inr ⟨hguard, ?_⟩
    rw [claimRecoverableRun, heq]
    rfl

/-- A run that ended with a result to replay is not recoverable. -/
theorem not_recoverable_of_replayable {r : ProviderRun} {now : Instant}
    (h : r.status.replayable) : ¬ r.Recoverable now := by
  rintro (hs | hs | ⟨hs, -⟩) <;> rcases h with h | h <;> simp [hs] at h

theorem not_heldBy_of_replayable {r : ProviderRun} {runId : UUID} {attemptNo : ℕ}
    (h : r.status.replayable) : ¬ r.HeldBy runId attemptNo := by
  rintro ⟨-, -, hs⟩
  rcases h with h | h <;> simp [hs] at h

/-! ## Replay -/

/-- The columns and the details give back the result that completed the run. -/
theorem replay_completed {r : ProviderRun} {result : IngestJobResult}
    (hid : r.runId = result.runId) (hrole : r.providerRole = result.providerRole.value)
    (hdataset : r.dataset = result.dataset.value) :
    (r.completed result).replay result.finishedAt = some result := by
  have hcursor := Json.toOption?_ofOption Text.dump_ne_null Text.validate_dump result.nextCursor
  have hwatermark :=
    Json.toOption?_ofOption Text.dump_ne_null Text.validate_dump result.sourceWatermark
  have hretry := Json.toOption?_ofOption (f := fun n : ℕ => Json.int n) (by simp)
    Json.toNat?_int result.retryAfterSeconds
  have hwarnings := Json.mapM_map WarningItem.modelValidate_modelDump result.warnings
  have herror : (result.errorCode.map (·.value)).map Text.ofString = result.errorCode := by
    cases result.errorCode <;> simp [Text.ofString_value]
  simp [ProviderRun.replay, ProviderRun.completed, completionDetails, Json.get, Json.toNat?_int,
    Json.toArr?, hcursor, hwatermark, hretry, hwarnings, herror, hid, hrole, hdataset,
    Dataset.ofValue?_value, Text.ofString_value]

/-- The result of a completed run is read back as it was. -/
theorem loadCompletedResult_completed {r : ProviderRun} {result : IngestJobResult}
    (hid : r.runId = result.runId) (hrole : r.providerRole = result.providerRole.value)
    (hdataset : r.dataset = result.dataset.value)
    (hstatus : (RunStatus.ended result.status).replayable) :
    loadCompletedResult (some (r.completed result)) result.runId = .ok (some result) := by
  have hload : loadRun (some (r.completed result)) result.runId =
      some (r.completed result) := by
    simp [loadRun, ProviderRun.completed, hid]
  have hreplay := replay_completed hid hrole hdataset
  have hs : (r.completed result).status.replayable := hstatus
  rw [loadCompletedResult, hload]
  simp only [hs, if_true]
  have hfinished : (r.completed result).finishedAt = some result.finishedAt := rfl
  simp only [hfinished, hreplay]

end MacroPlatform.Ingestion
