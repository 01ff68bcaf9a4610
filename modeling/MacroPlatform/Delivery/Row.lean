import MacroPlatform.Contracts.Common
import MacroPlatform.Lib.ConditionalUpdate

/-! # The `delivery_attempts` row

`uq_delivery_attempt_idempotency` leaves at most one row for a
`(report_id, delivery_target, idempotency_key)`, so the table is that row or
nothing. The operations are the ones `ReportRepository` runs, each in a
transaction of its own. `response_payload` is written and never read on these
paths, and the report's own columns are the same for every caller; neither is
kept.

* `reserveDeliveryAttempt_cases`, `updateDeliveryAttempt_cases`, `retryDeliveryAttempt_cases`,
  `authorizeManualDeliveryRetry_cases`: everything the four writes can do.
-/

namespace MacroPlatform.Delivery

open ConditionalUpdate

/-- `DeliveryAttempt.status`. -/
inductive DeliveryStatus where
  | pending
  | succeeded
  | failed
  | retryWait
  | uncertain
deriving DecidableEq, Repr

/-- The stored text. -/
def DeliveryStatus.value : DeliveryStatus → String
  | .pending => "pending"
  | .succeeded => "succeeded"
  | .failed => "failed"
  | .retryWait => "retry_wait"
  | .uncertain => "uncertain"

/-- `DeliveryAttempt`; `requestPayload` is the audit payload of the request. -/
structure DeliveryAttempt (Payload : Type) where
  deliveryId : UUID
  attemptNo : ℕ := 1
  status : DeliveryStatus := .pending
  requestPayload : Payload
  messageId : Option String := none
  errorCode : Option String := none
deriving DecidableEq, Repr

/-- The rows of one idempotency key. -/
abbrev DeliveryRow (Payload : Type) := Option (DeliveryAttempt Payload)

variable {Payload : Type}

/-- The attempt number stored for the key, `0` before the reservation. -/
def storedAttemptNo (row : DeliveryRow Payload) : ℕ :=
  row.elim 0 (·.attemptNo)

/-- The attempt as every resume writes it: one attempt further, pending, with the last
outcome cleared. -/
def DeliveryAttempt.resumed (a : DeliveryAttempt Payload) : DeliveryAttempt Payload :=
  { a with
    attemptNo := a.attemptNo + 1
    status := .pending
    messageId := none
    errorCode := none }

/-- `ReportRepository.reserve_delivery_attempt`: insert, or leave an equal request's row
alone. The error is the `ValueError` of a key reused for a different request. -/
def reserveDeliveryAttempt [DecidableEq Payload] (row : DeliveryRow Payload)
    (attempt : DeliveryAttempt Payload) : Except String (DeliveryRow Payload × Bool) :=
  match row with
  | none => .ok (some attempt, true)
  | some existing =>
      if existing.requestPayload ≠ attempt.requestPayload then
        .error "delivery idempotency key was reused for a different request"
      else .ok (some existing, false)

/-- `ReportRepository.update_delivery_attempt`. -/
def updateDeliveryAttempt (row : DeliveryRow Payload) (deliveryId : UUID)
    (expectedAttemptNo : ℕ) (status : DeliveryStatus) (messageId errorCode : Option String) :
    Except String (DeliveryRow Payload × Bool) :=
  if expectedAttemptNo < 1 then
    .error "expected delivery attempt number must be positive"
  else
    let updated := updateWhere
      (fun r : DeliveryAttempt Payload =>
        r.deliveryId = deliveryId ∧ r.attemptNo = expectedAttemptNo ∧ r.status = .pending)
      (fun r => { r with status := status, messageId := messageId, errorCode := errorCode })
      row
    .ok (updated.1, updated.2.isSome)

/-- `ReportRepository.retry_delivery_attempt`: guarded by the status alone. -/
def retryDeliveryAttempt (row : DeliveryRow Payload) (deliveryId : UUID) :
    DeliveryRow Payload × Bool :=
  let resumed := updateWhere
    (fun r : DeliveryAttempt Payload =>
      r.deliveryId = deliveryId ∧ (r.status = .failed ∨ r.status = .retryWait))
    DeliveryAttempt.resumed row
  (resumed.1, resumed.2.isSome)

/-- `ReportRepository.authorize_manual_delivery_retry`. -/
def authorizeManualDeliveryRetry (row : DeliveryRow Payload) (deliveryId : UUID)
    (expectedAttemptNo : ℕ) (allowUncertain : Bool) : DeliveryRow Payload × Bool :=
  let resumed := updateWhere
    (fun r : DeliveryAttempt Payload =>
      r.deliveryId = deliveryId ∧ r.attemptNo = expectedAttemptNo ∧
        (r.status = .failed ∨ r.status = .retryWait ∨
          (allowUncertain = true ∧ r.status = .uncertain)))
    DeliveryAttempt.resumed row
  (resumed.1, resumed.2.isSome)

/-- `ReportRepository.load_delivery_attempt`. -/
def loadDeliveryAttempt (row : DeliveryRow Payload) (deliveryId : UUID) : DeliveryRow Payload :=
  row.filter (·.deliveryId = deliveryId)

/-! ## What each operation can do -/

/-- A reservation inserts the row, or leaves the one that is there. -/
theorem reserveDeliveryAttempt_cases [DecidableEq Payload] (row : DeliveryRow Payload)
    (attempt : DeliveryAttempt Payload) :
    (row = none ∧ reserveDeliveryAttempt row attempt = .ok (some attempt, true)) ∨
    (∃ existing, row = some existing ∧
      (reserveDeliveryAttempt row attempt = .ok (row, false) ∨
        ∃ message, reserveDeliveryAttempt row attempt = .error message)) := by
  cases row with
  | none => exact Or.inl ⟨rfl, rfl⟩
  | some existing =>
    refine Or.inr ⟨existing, rfl, ?_⟩
    by_cases h : existing.requestPayload = attempt.requestPayload
    · exact Or.inl (by simp [reserveDeliveryAttempt, h])
    · exact Or.inr ⟨_, if_pos h⟩

/-- An outcome is stored in the pending row of its attempt, or nowhere. -/
theorem updateDeliveryAttempt_cases (row : DeliveryRow Payload) (deliveryId : UUID)
    (expectedAttemptNo : ℕ) (status : DeliveryStatus) (messageId errorCode : Option String) :
    (expectedAttemptNo < 1 ∧ ∃ message,
      updateDeliveryAttempt row deliveryId expectedAttemptNo status messageId errorCode =
        .error message) ∨
    (∃ r, row = some r ∧
      (r.deliveryId = deliveryId ∧ r.attemptNo = expectedAttemptNo ∧ r.status = .pending) ∧
      updateDeliveryAttempt row deliveryId expectedAttemptNo status messageId errorCode =
        .ok (some { r with status, messageId, errorCode }, true)) ∨
    ((∀ r, row = some r → ¬ (r.deliveryId = deliveryId ∧ r.attemptNo = expectedAttemptNo ∧
        r.status = .pending)) ∧
      updateDeliveryAttempt row deliveryId expectedAttemptNo status messageId errorCode =
        .ok (row, false)) := by
  -- the check of the attempt number comes before the update
  by_cases hpos : expectedAttemptNo < 1
  · exact Or.inl ⟨hpos, _, by rw [updateDeliveryAttempt, if_pos hpos]⟩
  · right
    rw [updateDeliveryAttempt, if_neg hpos]
    rcases updateWhere_cases
      (fun r : DeliveryAttempt Payload =>
        r.deliveryId = deliveryId ∧ r.attemptNo = expectedAttemptNo ∧ r.status = .pending)
      (fun r => { r with status, messageId, errorCode }) row with
      ⟨r, hrow, hguard, heq⟩ | ⟨hguard, heq⟩
    · exact Or.inl ⟨r, hrow, hguard, by simp [heq]⟩
    · exact Or.inr ⟨hguard, by simp [heq]⟩

/-- A failed row is resumed, any other stays. -/
theorem retryDeliveryAttempt_cases (row : DeliveryRow Payload) (deliveryId : UUID) :
    (∃ r, row = some r ∧
      (r.deliveryId = deliveryId ∧ (r.status = .failed ∨ r.status = .retryWait)) ∧
      retryDeliveryAttempt row deliveryId = (some r.resumed, true)) ∨
    ((∀ r, row = some r →
        ¬ (r.deliveryId = deliveryId ∧ (r.status = .failed ∨ r.status = .retryWait))) ∧
      retryDeliveryAttempt row deliveryId = (row, false)) := by
  rcases updateWhere_cases
    (fun r : DeliveryAttempt Payload =>
      r.deliveryId = deliveryId ∧ (r.status = .failed ∨ r.status = .retryWait))
    DeliveryAttempt.resumed row with ⟨r, hrow, hguard, heq⟩ | ⟨hguard, heq⟩
  · exact Or.inl ⟨r, hrow, hguard, by simp [retryDeliveryAttempt, heq]⟩
  · exact Or.inr ⟨hguard, by simp [retryDeliveryAttempt, heq]⟩

/-- So with an operator, who may also resume an uncertain one. -/
theorem authorizeManualDeliveryRetry_cases (row : DeliveryRow Payload) (deliveryId : UUID)
    (expectedAttemptNo : ℕ) (allowUncertain : Bool) :
    (∃ r, row = some r ∧
      (r.deliveryId = deliveryId ∧ r.attemptNo = expectedAttemptNo ∧
        (r.status = .failed ∨ r.status = .retryWait ∨
          (allowUncertain = true ∧ r.status = .uncertain))) ∧
      authorizeManualDeliveryRetry row deliveryId expectedAttemptNo allowUncertain =
        (some r.resumed, true)) ∨
    authorizeManualDeliveryRetry row deliveryId expectedAttemptNo allowUncertain =
      (row, false) := by
  rcases updateWhere_cases
    (fun r : DeliveryAttempt Payload =>
      r.deliveryId = deliveryId ∧ r.attemptNo = expectedAttemptNo ∧
        (r.status = .failed ∨ r.status = .retryWait ∨
          (allowUncertain = true ∧ r.status = .uncertain)))
    DeliveryAttempt.resumed row with ⟨r, hrow, hguard, heq⟩ | ⟨_, heq⟩
  · exact Or.inl ⟨r, hrow, hguard, by simp [authorizeManualDeliveryRetry, heq]⟩
  · exact Or.inr (by simp [authorizeManualDeliveryRetry, heq])

end MacroPlatform.Delivery
