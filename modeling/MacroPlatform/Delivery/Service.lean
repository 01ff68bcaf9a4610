import Mathlib.Logic.Function.Basic
import MacroPlatform.Contracts.Text
import MacroPlatform.Delivery.Row
import MacroPlatform.Lib.Transition

/-! # `ReportDeliveryService` over one delivery row

Any number of `deliver` and `retry` calls for one idempotency key, one caller per
call. Every repository operation is one atomic step, as are the call of
`send_card` and its answer, and a caller may crash between any two of them. The
card and the audit payload of the response do not decide anything and are left
out; the backoff sleep is the gap between two steps.

* `store_step`: a transaction leaves the row, or is one of its four writes;
* `next_step`: everything a step can do.
-/

namespace MacroPlatform.Delivery

open Transition

variable {Payload : Type}

/-- The settings `ReportDeliveryService.__init__` accepts. -/
structure Service where
  maxAttempts : ℕ := 3
  maxTotalAttempts : ℕ := 10
  maxAttempts_pos : 1 ≤ maxAttempts := by decide
  maxTotal_covers : maxAttempts ≤ maxTotalAttempts := by decide

/-- `StoredDailyReport`, as far as a delivery reads it; `auditPayload` stands for the
`_request_audit_payload` of its card. -/
structure StoredReport (Payload : Type) where
  lifecycleStatus : String
  publicationDecision : String
  auditPayload : Payload

/-- What a call raises: `ReportDeliveryError`, `ManualDeliveryRetryError`, or the
`ValueError` of the repository. -/
inductive DeliveryError where
  | reportDelivery (message : String)
  | manualRetry (code message : String)
  | value (message : String)
deriving DecidableEq, Repr

/-- `ReportDeliveryResult`. -/
structure ReportDeliveryResult (Payload : Type) where
  dryRun : Bool
  deliveryAttempt : Option (DeliveryAttempt Payload)
deriving DecidableEq, Repr

/-- What `send_card` comes back with: a `FeishuSendResult`, or a `FeishuTransportError`. -/
inductive SendOutcome where
  | sent (messageId : String)
  | failed (errorCode : String) (retryable outcomeUnknown : Bool)
deriving DecidableEq, Repr

/-- The error that tells that Feishu did not accept the message. -/
def SendOutcome.refused : SendOutcome → Bool
  | .sent _ => false
  | .failed _ _ outcomeUnknown => !outcomeUnknown

/-- A call, with the report that its `load_report` returns; `deliveryId` is the `uuid4` of
the initial attempt. -/
inductive Call (Payload : Type) where
  | deliver (report : Option (StoredReport Payload)) (reportId chatId : String)
      (dryRun : Bool) (deliveryId : UUID)
  | retry (report : Option (StoredReport Payload)) (reportId chatId : String)
      (confirmedNotDelivered : Bool)

/-- Where a call stands: the store operation, or the transport event, that comes next, with
the call's local variables. -/
inductive Phase (Payload : Type) where
  | idle
  | reserving (deliveryId : UUID) (auditPayload : Payload)
  | loading
  | resuming (attempt : DeliveryAttempt Payload) (maxAttemptNo : ℕ) (disappeared : String)
  | reloading (deliveryId : UUID) (disappeared : String)
  | inspecting (confirmedNotDelivered : Bool)
  | authorizing (existing : DeliveryAttempt Payload) (confirmedNotDelivered : Bool)
  | sending (attempt : DeliveryAttempt Payload) (maxAttemptNo : ℕ)
  | awaiting (attempt : DeliveryAttempt Payload) (maxAttemptNo : ℕ) (send : ℕ)
  | storing (attempt : DeliveryAttempt Payload) (maxAttemptNo : ℕ) (send : ℕ)
      (outcome : SendOutcome)
  | returned (result : ReportDeliveryResult Payload)
  | raised (error : DeliveryError)
  | crashed
deriving DecidableEq, Repr

/-! ## The calls up to their first store operation on the row -/

/-- `deliver` before its reservation. -/
def beginDeliver (report : Option (StoredReport Payload)) (reportId chatId : String)
    (dryRun : Bool) (deliveryId : UUID) : Phase Payload :=
  match report with
  | none => .raised (.reportDelivery ("report does not exist: " ++ reportId))
  | some report =>
      if report.lifecycleStatus ≠ "validated" ∨ report.publicationDecision ≠ "published" then
        .raised (.reportDelivery "only validated published reports may be delivered")
      else if pyStrip chatId = "" then
        .raised (.reportDelivery "Feishu chat ID is required")
      else if dryRun then
        .returned ⟨true, none⟩
      else
        .reserving deliveryId report.auditPayload

/-- `retry` before it loads the attempt. -/
def beginRetry (report : Option (StoredReport Payload)) (reportId chatId : String)
    (confirmedNotDelivered : Bool) : Phase Payload :=
  match report with
  | none => .raised (.manualRetry "REPORT_NOT_FOUND" ("report does not exist: " ++ reportId))
  | some report =>
      if report.lifecycleStatus ≠ "validated" ∨ report.publicationDecision ≠ "published" then
        .raised (.manualRetry "REPORT_NOT_PUBLISHABLE"
          "only validated published reports may be retried")
      else if pyStrip chatId = "" then
        .raised (.manualRetry "DELIVERY_TARGET_NOT_CONFIGURED" "Feishu chat ID is required")
      else .inspecting confirmedNotDelivered

def Call.begin : Call Payload → Phase Payload
  | .deliver report reportId chatId dryRun deliveryId =>
      beginDeliver report reportId chatId dryRun deliveryId
  | .retry report reportId chatId confirmed => beginRetry report reportId chatId confirmed

/-- The attempt that `deliver` reserves: the first one, pending, without an outcome. -/
def initialAttempt (deliveryId : UUID) (auditPayload : Payload) : DeliveryAttempt Payload :=
  { deliveryId := deliveryId, requestPayload := auditPayload }

/-! ## What a call does with the answer of a store operation -/

/-- `deliver` with the attempt that `load_delivery_attempt_for_key` gives it. -/
def afterLoading (svc : Service) : DeliveryRow Payload → Phase Payload
  | none => .raised (.reportDelivery "delivery idempotency conflict has no stored attempt")
  | some existing =>
      if existing.status ≠ .retryWait ∨ svc.maxAttempts ≤ existing.attemptNo then
        .returned ⟨false, some existing⟩
      else .resuming existing svc.maxAttempts "resumed delivery attempt no longer exists"

/-- The re-read after a conditional update that did not apply. -/
def afterReloading (disappeared : String) : DeliveryRow Payload → Phase Payload
  | none => .raised (.reportDelivery disappeared)
  | some current => .returned ⟨false, some current⟩

/-- `retry` with the attempt that `load_delivery_attempt_for_key` gives it. -/
def afterInspecting (svc : Service) (confirmedNotDelivered : Bool) :
    DeliveryRow Payload → Phase Payload
  | none => .raised (.manualRetry "DELIVERY_ATTEMPT_NOT_FOUND"
      "the report has no delivery attempt to retry")
  | some existing =>
      if existing.status = .succeeded then .returned ⟨false, some existing⟩
      else if existing.status = .pending then
        .raised (.manualRetry "DELIVERY_ATTEMPT_IN_PROGRESS"
          "the existing delivery attempt is still pending")
      else if existing.status = .uncertain ∧ confirmedNotDelivered = false then
        .raised (.manualRetry "DELIVERY_ABSENCE_CONFIRMATION_REQUIRED"
          "confirm that the report is absent from the daily chat before retrying")
      else if svc.maxTotalAttempts ≤ existing.attemptNo then
        .raised (.manualRetry "DELIVERY_RETRY_LIMIT_EXHAUSTED"
          "the total delivery retry limit is exhausted")
      else if existing.status ∉ [DeliveryStatus.failed, .retryWait, .uncertain] then
        .raised (.manualRetry "DELIVERY_ATTEMPT_NOT_RETRYABLE"
          ("delivery status cannot be retried: " ++ existing.status.value))
      else .authorizing existing confirmedNotDelivered

/-- The status `_send` stores for an outcome. -/
def nextStatus (attempt : DeliveryAttempt Payload) (maxAttemptNo : ℕ) :
    SendOutcome → DeliveryStatus
  | .sent _ => .succeeded
  | .failed _ retryable outcomeUnknown =>
      if outcomeUnknown then .uncertain
      else if retryable ∧ attempt.attemptNo < maxAttemptNo then .retryWait
      else .failed

def SendOutcome.messageId : SendOutcome → Option String
  | .sent messageId => some messageId
  | .failed .. => none

def SendOutcome.errorCode : SendOutcome → Option String
  | .sent _ => none
  | .failed errorCode .. => some errorCode

/-- The local copy of the attempt after its outcome is stored. -/
def DeliveryAttempt.settled (attempt : DeliveryAttempt Payload) (maxAttemptNo : ℕ)
    (outcome : SendOutcome) : DeliveryAttempt Payload :=
  { attempt with
    status := nextStatus attempt maxAttemptNo outcome
    messageId := outcome.messageId
    errorCode := outcome.errorCode }

/-- `_send` after `update_delivery_attempt` has applied. -/
def afterStoring (attempt : DeliveryAttempt Payload) (maxAttemptNo : ℕ)
    (outcome : SendOutcome) : Phase Payload :=
  let settled := attempt.settled maxAttemptNo outcome
  if settled.status = .retryWait then
    .resuming settled maxAttemptNo "delivery attempt disappeared during retry"
  else .returned ⟨false, some settled⟩

/-- The text of the error when the attempt is gone after a lost update. -/
def disappearedDuring : SendOutcome → String
  | .sent _ => "delivery attempt disappeared during success update"
  | .failed .. => "delivery attempt disappeared during update"

/-! ## The store operations -/

/-- How a row came to `pending`. -/
inductive GrantKind where
  | reserved
  | resumed
  | authorized (confirmedNotDelivered : Bool)
deriving DecidableEq, Repr

/-- One store operation of a call: the row it leaves, where the call stands after it, and
the grant it made. -/
structure StoreEffect (Payload : Type) where
  row : DeliveryRow Payload
  phase : Phase Payload
  grant : Option GrantKind := none

def storeStep [DecidableEq Payload] (svc : Service) (row : DeliveryRow Payload) :
    Phase Payload → Option (StoreEffect Payload)
  | .reserving deliveryId auditPayload =>
      let attempt := initialAttempt deliveryId auditPayload
      match reserveDeliveryAttempt row attempt with
      | .error message => some { row := row, phase := .raised (.value message) }
      | .ok (row', true) =>
          some { row := row', phase := .sending attempt svc.maxAttempts,
                 grant := some .reserved }
      | .ok (row', false) => some { row := row', phase := .loading }
  | .loading => some { row := row, phase := afterLoading svc row }
  | .resuming attempt maxAttemptNo disappeared =>
      let (row', resumed) := retryDeliveryAttempt row attempt.deliveryId
      if resumed then
        some { row := row', phase := .sending attempt.resumed maxAttemptNo,
               grant := some .resumed }
      else some { row := row', phase := .reloading attempt.deliveryId disappeared }
  | .reloading deliveryId disappeared =>
      some { row := row,
             phase := afterReloading disappeared (loadDeliveryAttempt row deliveryId) }
  | .inspecting confirmed => some { row := row, phase := afterInspecting svc confirmed row }
  | .authorizing existing confirmed =>
      let (row', authorized) :=
        authorizeManualDeliveryRetry row existing.deliveryId existing.attemptNo confirmed
      if authorized then
        -- one manual send: the retry loop of `_send` stops at this attempt
        some { row := row', phase := .sending existing.resumed existing.resumed.attemptNo,
               grant := some (.authorized confirmed) }
      else
        some { row := row',
               phase := .raised (.manualRetry "DELIVERY_RETRY_CONFLICT"
                 "the delivery attempt changed while retry was being authorized") }
  | .storing attempt maxAttemptNo _ outcome =>
      match updateDeliveryAttempt row attempt.deliveryId attempt.attemptNo
          (nextStatus attempt maxAttemptNo outcome) outcome.messageId outcome.errorCode with
      | .error message => some { row := row, phase := .raised (.value message) }
      | .ok (row', true) =>
          some { row := row', phase := afterStoring attempt maxAttemptNo outcome }
      | .ok (row', false) =>
          some { row := row',
                 phase := .reloading attempt.deliveryId (disappearedDuring outcome) }
  | _ => none

/-! ## The system -/

/-- A transition of the row to `pending`, with the status it came from. -/
structure Grant where
  caller : ℕ
  kind : GrantKind
  prior : Option DeliveryStatus
deriving DecidableEq, Repr

/-- An operator confirmed that an uncertain delivery did not arrive. -/
def Grant.confirmed (g : Grant) : Prop :=
  g.kind = .authorized true ∧ g.prior = some .uncertain

/-- One call of `send_card`, with the attempt number its caller holds, the stored one, and
the number of grants made before it. -/
structure Send where
  caller : ℕ
  attemptNo : ℕ
  storedAttemptNo : ℕ
  grantsBefore : ℕ
  outcome : Option SendOutcome := none
  accepted : Bool := false
deriving DecidableEq, Repr

/-- The row, the callers, and the history of grants and sends. -/
structure System (Payload : Type) where
  row : DeliveryRow Payload
  callers : ℕ → Phase Payload
  grants : List Grant
  sends : List Send

/-- No row and no call yet. -/
def Init (s : System Payload) : Prop :=
  s.row = none ∧ (∀ c, s.callers c = .idle) ∧ s.grants = [] ∧ s.sends = []

def emptySystem : System Payload :=
  { row := none, callers := fun _ => .idle, grants := [], sends := [] }

inductive Act (Payload : Type) where
  | start (caller : ℕ) (call : Call Payload)
  | store (caller : ℕ)
  | send (caller : ℕ)
  | reply (caller : ℕ) (outcome : SendOutcome)
  | accept (send : ℕ)
  | crash (caller : ℕ)

def System.setCaller (s : System Payload) (c : ℕ) (p : Phase Payload) : System Payload :=
  { s with callers := Function.update s.callers c p }

/-- Feishu may accept a message from the moment it is sent until it has refused it. -/
def acceptSend (x : Send) : Option Send :=
  match x.outcome with
  | some outcome => if outcome.refused then none else some { x with accepted := true }
  | none => some { x with accepted := true }

/-- The answer to a send: a refusal tells that the message was not accepted, a result that
it was. -/
def replySend (x : Send) (outcome : SendOutcome) : Option Send :=
  if outcome.refused ∧ x.accepted then none
  else
    some { x with
      outcome := some outcome
      accepted := x.accepted || outcome.messageId.isSome }

/-- One step of the system. -/
def next [DecidableEq Payload] (svc : Service) (s : System Payload) :
    Act Payload → Option (System Payload)
  | .start c call =>
      match s.callers c with
      | .idle => some (s.setCaller c call.begin)
      | _ => none
  | .store c =>
      (storeStep svc s.row (s.callers c)).map fun e =>
        { s with
          row := e.row
          callers := Function.update s.callers c e.phase
          grants := s.grants ++
            (e.grant.map fun kind => ⟨c, kind, s.row.map (·.status)⟩).toList }
  | .send c =>
      match s.callers c with
      | .sending attempt maxAttemptNo =>
          some { s with
            callers := Function.update s.callers c
              (.awaiting attempt maxAttemptNo s.sends.length)
            sends := s.sends ++
              [{ caller := c, attemptNo := attempt.attemptNo,
                 storedAttemptNo := storedAttemptNo s.row,
                 grantsBefore := s.grants.length }] }
      | _ => none
  | .reply c outcome =>
      match s.callers c with
      | .awaiting attempt maxAttemptNo i =>
          (s.sends[i]?.bind (replySend · outcome)).map fun x =>
            { s with
              callers := Function.update s.callers c (.storing attempt maxAttemptNo i outcome)
              sends := s.sends.set i x }
      | _ => none
  | .accept i =>
      (s.sends[i]?.bind acceptSend).map fun x => { s with sends := s.sends.set i x }
  | .crash c => some (s.setCaller c .crashed)

/-- The steps of the system. -/
def Next [DecidableEq Payload] (svc : Service) : Action (System Payload) (Act Payload) :=
  ofNext (next svc)

/-! ## What a step can do -/

/-- A store operation that changes nothing: the reads, and the updates whose guard fails. -/
inductive Stays (svc : Service) (row : DeliveryRow Payload) :
    Phase Payload → Phase Payload → Prop
  | conflict {deliveryId : UUID} {auditPayload : Payload} {existing : DeliveryAttempt Payload} :
      row = some existing → Stays svc row (.reserving deliveryId auditPayload) .loading
  | reused {deliveryId : UUID} {auditPayload : Payload} {existing : DeliveryAttempt Payload}
      {error : DeliveryError} :
      row = some existing → Stays svc row (.reserving deliveryId auditPayload) (.raised error)
  | loaded : Stays svc row .loading (afterLoading svc row)
  | notResumed {attempt : DeliveryAttempt Payload} {maxAttemptNo : ℕ} {text : String} :
      (∀ r, row = some r → ¬ (r.deliveryId = attempt.deliveryId ∧
        (r.status = .failed ∨ r.status = .retryWait))) →
      Stays svc row (.resuming attempt maxAttemptNo text) (.reloading attempt.deliveryId text)
  | reloaded {deliveryId : UUID} {text : String} :
      Stays svc row (.reloading deliveryId text)
        (afterReloading text (loadDeliveryAttempt row deliveryId))
  | inspected {confirmed : Bool} :
      Stays svc row (.inspecting confirmed) (afterInspecting svc confirmed row)
  | notAuthorized {existing : DeliveryAttempt Payload} {confirmed : Bool}
      {error : DeliveryError} :
      Stays svc row (.authorizing existing confirmed) (.raised error)
  | unnumbered {attempt : DeliveryAttempt Payload} {maxAttemptNo i : ℕ}
      {outcome : SendOutcome} {error : DeliveryError} : attempt.attemptNo < 1 →
      Stays svc row (.storing attempt maxAttemptNo i outcome) (.raised error)
  | notStored {attempt : DeliveryAttempt Payload} {maxAttemptNo i : ℕ}
      {outcome : SendOutcome} {text : String} :
      (∀ r, row = some r → ¬ (r.deliveryId = attempt.deliveryId ∧
        r.attemptNo = attempt.attemptNo ∧ r.status = .pending)) →
      Stays svc row (.storing attempt maxAttemptNo i outcome)
        (.reloading attempt.deliveryId text)

/-- A caller's store operation that brings the row to `pending`. -/
def System.granted (s : System Payload) (c : ℕ) (kind : GrantKind)
    (row attempt : DeliveryAttempt Payload) (maxAttemptNo : ℕ) : System Payload :=
  { s with
    row := some row
    callers := Function.update s.callers c (.sending attempt maxAttemptNo)
    grants := s.grants ++ [⟨c, kind, s.row.map (·.status)⟩] }

theorem setCaller_callers_of_ne (s : System Payload) {c d : ℕ} (p : Phase Payload)
    (h : d ≠ c) : (s.setCaller c p).callers d = s.callers d :=
  Function.update_of_ne h _ _

theorem granted_callers_self (s : System Payload) (c : ℕ) (kind : GrantKind)
    (row attempt : DeliveryAttempt Payload) (m : ℕ) :
    (s.granted c kind row attempt m).callers c = .sending attempt m :=
  Function.update_self ..

/-- Everything one step can do, guards included; the invariants below are proved from
this. -/
inductive Step (svc : Service) (s : System Payload) :
    Act Payload → System Payload → Prop
  | start {c : ℕ} {call : Call Payload} : s.callers c = .idle →
      Step svc s (.start c call) (s.setCaller c call.begin)
  | crash {c : ℕ} : Step svc s (.crash c) (s.setCaller c .crashed)
  | accept {i : ℕ} {x y : Send} : s.sends[i]? = some x → acceptSend x = some y →
      Step svc s (.accept i) { s with sends := s.sends.set i y }
  | send {c : ℕ} {attempt : DeliveryAttempt Payload} {maxAttemptNo : ℕ} :
      s.callers c = .sending attempt maxAttemptNo →
      Step svc s (.send c)
        { s with
          callers := Function.update s.callers c
            (.awaiting attempt maxAttemptNo s.sends.length)
          sends := s.sends ++
            [{ caller := c, attemptNo := attempt.attemptNo,
               storedAttemptNo := storedAttemptNo s.row,
               grantsBefore := s.grants.length }] }
  | reply {c i : ℕ} {attempt : DeliveryAttempt Payload} {maxAttemptNo : ℕ}
      {outcome : SendOutcome} {x y : Send} :
      s.callers c = .awaiting attempt maxAttemptNo i → s.sends[i]? = some x →
      replySend x outcome = some y →
      Step svc s (.reply c outcome)
        { s with
          callers := Function.update s.callers c (.storing attempt maxAttemptNo i outcome)
          sends := s.sends.set i y }
  | stay {c : ℕ} {p : Phase Payload} : Stays svc s.row (s.callers c) p →
      Step svc s (.store c) (s.setCaller c p)
  | insert {c : ℕ} {deliveryId : UUID} {auditPayload : Payload} :
      s.callers c = .reserving deliveryId auditPayload → s.row = none →
      Step svc s (.store c)
        (s.granted c .reserved (initialAttempt deliveryId auditPayload)
          (initialAttempt deliveryId auditPayload) svc.maxAttempts)
  | resume {c : ℕ} {attempt r : DeliveryAttempt Payload} {maxAttemptNo : ℕ}
      {text : String} :
      s.callers c = .resuming attempt maxAttemptNo text → s.row = some r →
      r.deliveryId = attempt.deliveryId → r.status = .failed ∨ r.status = .retryWait →
      Step svc s (.store c) (s.granted c .resumed r.resumed attempt.resumed maxAttemptNo)
  | authorize {c : ℕ} {existing r : DeliveryAttempt Payload} {confirmed : Bool} :
      s.callers c = .authorizing existing confirmed → s.row = some r →
      r.deliveryId = existing.deliveryId → r.attemptNo = existing.attemptNo →
      r.status = .failed ∨ r.status = .retryWait ∨
        (confirmed = true ∧ r.status = .uncertain) →
      Step svc s (.store c) (s.granted c (.authorized confirmed) r.resumed existing.resumed
        existing.resumed.attemptNo)
  | settle {c i : ℕ} {attempt r : DeliveryAttempt Payload} {maxAttemptNo : ℕ}
      {outcome : SendOutcome} :
      s.callers c = .storing attempt maxAttemptNo i outcome → s.row = some r →
      r.deliveryId = attempt.deliveryId → r.attemptNo = attempt.attemptNo →
      r.status = .pending →
      Step svc s (.store c)
        { s with
          row := some (r.settled maxAttemptNo outcome)
          callers := Function.update s.callers c
            (afterStoring attempt maxAttemptNo outcome) }

theorem acceptSend_eq {x y : Send} (h : acceptSend x = some y) :
    y = { x with accepted := true } ∧ x.outcome.any SendOutcome.refused = false := by
  unfold acceptSend at h
  split at h
  · next outcome hout =>
    split_ifs at h with href
    cases h
    exact ⟨rfl, by simpa [hout] using href⟩
  · next hout =>
    cases h
    exact ⟨rfl, by simp [hout]⟩

theorem replySend_eq {x y : Send} {outcome : SendOutcome} (h : replySend x outcome = some y) :
    ¬ (outcome.refused ∧ x.accepted) ∧
      y = { x with
        outcome := some outcome
        accepted := x.accepted || outcome.messageId.isSome } := by
  unfold replySend at h
  split_ifs at h with hno
  exact ⟨hno, (Option.some.inj h).symm⟩

/-- A store step leaves the row as it is, or it is one of the four writes. -/
theorem store_step [DecidableEq Payload] {svc : Service} {s : System Payload} {c : ℕ}
    {e : StoreEffect Payload} (h : storeStep svc s.row (s.callers c) = some e) :
    Step svc s (.store c)
      { s with
        row := e.row
        callers := Function.update s.callers c e.phase
        grants := s.grants ++
          (e.grant.map fun kind => ⟨c, kind, s.row.map (·.status)⟩).toList } := by
  -- a read, or a write whose guard fails
  have stays : ∀ p, Stays svc s.row (s.callers c) p → e = { row := s.row, phase := p } →
      Step svc s (.store c)
        { s with
          row := e.row
          callers := Function.update s.callers c e.phase
          grants := s.grants ++
            (e.grant.map fun kind => ⟨c, kind, s.row.map (·.status)⟩).toList } := by
    rintro p hp rfl
    have hstay : Step svc s (.store c) (s.setCaller c p) := .stay hp
    simpa [System.setCaller] using hstay
  cases hp : s.callers c with
  | idle | sending | awaiting | returned | raised | crashed => simp [storeStep, hp] at h
  | reserving deliveryId auditPayload =>
    rw [hp] at stays h
    rcases reserveDeliveryAttempt_cases s.row (initialAttempt deliveryId auditPayload) with
      ⟨hrow, heq⟩ | ⟨existing, hrow, heq | ⟨message, heq⟩⟩ <;>
      simp only [storeStep, heq, Option.some.injEq] at h
    · subst h
      exact .insert hp hrow
    · exact stays _ (.conflict hrow) h.symm
    · exact stays _ (.reused hrow) h.symm
  | loading =>
    rw [hp] at stays h
    exact stays _ .loaded (by simpa [storeStep] using h.symm)
  | resuming attempt maxAttemptNo text =>
    rw [hp] at stays h
    rcases retryDeliveryAttempt_cases s.row attempt.deliveryId with
      ⟨r, hrow, hguard, heq⟩ | ⟨hguard, heq⟩ <;>
      simp only [storeStep, heq, if_true, Bool.false_eq_true, if_false,
        Option.some.injEq] at h
    · subst h
      exact .resume hp hrow hguard.1 hguard.2
    · exact stays _ (.notResumed hguard) h.symm
  | reloading deliveryId text =>
    rw [hp] at stays h
    exact stays _ .reloaded (by simpa [storeStep] using h.symm)
  | inspecting confirmed =>
    rw [hp] at stays h
    exact stays _ .inspected (by simpa [storeStep] using h.symm)
  | authorizing existing confirmed =>
    rw [hp] at stays h
    rcases authorizeManualDeliveryRetry_cases s.row existing.deliveryId existing.attemptNo
      confirmed with ⟨r, hrow, hguard, heq⟩ | heq <;>
      simp only [storeStep, heq, if_true, Bool.false_eq_true, if_false,
        Option.some.injEq] at h
    · subst h
      exact .authorize hp hrow hguard.1 hguard.2.1 hguard.2.2
    · exact stays _ .notAuthorized h.symm
  | storing attempt maxAttemptNo i outcome =>
    rw [hp] at stays h
    rcases updateDeliveryAttempt_cases s.row attempt.deliveryId attempt.attemptNo
      (nextStatus attempt maxAttemptNo outcome) outcome.messageId outcome.errorCode with
      ⟨hpos, message, heq⟩ | ⟨r, hrow, hguard, heq⟩ | ⟨hguard, heq⟩ <;>
      simp only [storeStep, heq, Option.some.injEq] at h
    · exact stays _ (.unnumbered hpos) h.symm
    · subst h
      have hsettled : Step svc s (.store c) _ :=
        .settle hp hrow hguard.1 hguard.2.1 hguard.2.2
      simpa [DeliveryAttempt.settled, nextStatus, hguard.2.1] using hsettled
    · exact stays _ (.notStored hguard) h.symm

/-- A resume that applies. -/
theorem next_resume [DecidableEq Payload] (svc : Service) {s : System Payload} {c m : ℕ}
    {attempt r : DeliveryAttempt Payload} {text : String}
    (hc : s.callers c = .resuming attempt m text) (hrow : s.row = some r)
    (hid : r.deliveryId = attempt.deliveryId)
    (hstatus : r.status = .failed ∨ r.status = .retryWait) :
    Next svc s (.store c) (s.granted c .resumed r.resumed attempt.resumed m) := by
  have hretry : retryDeliveryAttempt s.row attempt.deliveryId = (some r.resumed, true) := by
    rcases retryDeliveryAttempt_cases s.row attempt.deliveryId with
      ⟨r', hr', -, heq⟩ | ⟨hmiss, -⟩
    · rw [hrow] at hr'
      cases hr'
      exact heq
    · exact absurd ⟨hid, hstatus⟩ (hmiss r hrow)
  have hstore : storeStep svc s.row (s.callers c) =
      some { row := some r.resumed, phase := .sending attempt.resumed m,
             grant := some .resumed } := by
    rw [hc, storeStep, hretry]
    rfl
  exact (congrArg (Option.map _) hstore).trans rfl

/-- The executable step is a step of the relation. -/
theorem next_step [DecidableEq Payload] {svc : Service} {s s' : System Payload}
    {a : Act Payload} (h : Next svc s a s') : Step svc s a s' := by
  change next svc s a = some s' at h
  cases a with
  | start c call =>
    -- each step is defined at one phase alone
    cases hp : s.callers c <;> simp only [next, hp, Option.some.injEq, reduceCtorEq] at h
    subst h
    exact .start hp
  | store c =>
    obtain ⟨e, he, rfl⟩ := Option.map_eq_some_iff.mp h
    exact store_step he
  | send c =>
    cases hp : s.callers c <;> simp only [next, hp, Option.some.injEq, reduceCtorEq] at h
    subst h
    exact .send hp
  | reply c outcome =>
    cases hp : s.callers c <;> simp only [next, hp, reduceCtorEq] at h
    -- the send that is answered was not answered before
    obtain ⟨y, hy, rfl⟩ := Option.map_eq_some_iff.mp h
    obtain ⟨x, hx, hxy⟩ := Option.bind_eq_some_iff.mp hy
    exact .reply hp hx hxy
  | accept i =>
    obtain ⟨y, hy, rfl⟩ := Option.map_eq_some_iff.mp h
    obtain ⟨x, hx, hxy⟩ := Option.bind_eq_some_iff.mp hy
    exact .accept hx hxy
  | crash c =>
    cases h
    exact .crash

end MacroPlatform.Delivery
