import MacroPlatform.Contracts.Facts
import MacroPlatform.Contracts.Text
import MacroPlatform.Lib.ConditionalUpdate
import MacroPlatform.Lib.Json
import MacroPlatform.Lib.Transition

/-! # `WorkflowAlertDeliveryService` over one alert row

`uq_workflow_alert_idempotency` leaves at most one row for an idempotency key, so the table of
a key is that row or nothing. Any number of `deliver` calls for the key run at once, one caller
per call; every transaction and every `send_card` is a step of its own, and a caller may be
stopped between any two.
-/

namespace MacroPlatform.Alerts

open ConditionalUpdate Transition

/-! ## Alerts and their requests -/

/-- `WorkflowStage`. -/
inductive WorkflowStage where
  | scheduler
  | ingestion
  | qualityGate
  | generation
  | validation
  | delivery
deriving DecidableEq, Repr

def WorkflowStage.value : WorkflowStage → String
  | .scheduler => "scheduler"
  | .ingestion => "ingestion"
  | .qualityGate => "quality_gate"
  | .generation => "generation"
  | .validation => "validation"
  | .delivery => "delivery"

/-- `WorkflowAlert`. -/
structure WorkflowAlert where
  workflowRunId : UUID
  reportDate : Day
  stage : WorkflowStage
  errorCode : String
  summary : String
  safeRetry : String
  providerRunIds : List UUID := []
deriving DecidableEq, Repr

/-- `str(uuid)`. -/
def uuidText (id : UUID) : String :=
  let digits := (String.leftpad 32 '0' (String.ofList (Nat.toDigits 16 id))).toList
  let group := fun start length => String.ofList ((digits.drop start).take length)
  "-".intercalate [group 0 8, group 8 4, group 12 4, group 16 4, group 20 12]

/-- `FeishuWorkflowAlertRenderer.render`. -/
def render (alert : WorkflowAlert) : Json :=
  let providerRuns :=
    if alert.providerRunIds = [] then "无"
    else "、".intercalate (alert.providerRunIds.map uuidText)
  let markdown := fun content => Json.obj [("tag", .str "markdown"), ("content", .str content)]
  .obj [
    ("schema", .str "2.0"),
    ("header", .obj [
      ("title", .obj [
        ("tag", .str "plain_text"),
        ("content", .str ("宏观日报运行预警 · " ++ alert.reportDate.isoformat))]),
      ("template", .str "red")]),
    ("body", .obj [
      ("direction", .str "vertical"),
      ("padding", .str "12px 12px 12px 12px"),
      ("elements", .arr [
        markdown ("**阶段**：" ++ alert.stage.value ++ "\n**错误码**：" ++ alert.errorCode ++
          "\n**Workflow Run ID**：" ++ uuidText alert.workflowRunId ++
          "\n**Provider Run IDs**：" ++ providerRuns),
        .obj [("tag", .str "hr")],
        markdown ("**现象**\n" ++ alert.summary),
        markdown ("**安全处置**\n" ++ alert.safeRetry),
        markdown "请先核对运行审计和目标群，再执行按日期重试。"])])]

def deliveryTarget (chatId : String) : String := "feishu-alert:" ++ chatId

/-- `hashlib.sha256(text.encode()).hexdigest()`. -/
abbrev Sha256Hex := String → String

variable (sha256Hex : Sha256Hex)

/-- `_idempotency_key`. -/
def idempotencyKey (alert : WorkflowAlert) (target : String) : String :=
  sha256Hex (":".intercalate [uuidText alert.workflowRunId, alert.reportDate.isoformat,
    alert.stage.value, alert.errorCode, target])

/-- The `request_payload` of the initial attempt. -/
def requestPayload (alert : WorkflowAlert) (chatId : String) : Json :=
  let target := deliveryTarget chatId
  .obj [
    ("provider", .str "feishu"),
    ("kind", .str "workflow_alert"),
    ("workflow_run_id", .str (uuidText alert.workflowRunId)),
    ("report_date", .str alert.reportDate.isoformat),
    ("stage", .str alert.stage.value),
    ("workflow_error_code", .str alert.errorCode),
    ("delivery_target", .str target),
    ("request_uuid", .str (String.ofList
      ((sha256Hex (idempotencyKey sha256Hex alert target)).toList.take 50))),
    ("card", render alert)]

/-! ## The stored row -/

inductive AttemptStatus where
  | pending
  | succeeded
  | failed
  | retryWait
  | uncertain
deriving DecidableEq, Repr

/-- `WorkflowAlertAttempt`, less the columns that repeat the alert. -/
structure WorkflowAlertAttempt where
  alertId : UUID
  attemptNo : ℕ := 1
  status : AttemptStatus := .pending
  requestPayload : Json
  responsePayload : Option Json := none
  messageId : Option String := none
  errorCode : Option String := none

abbrev AlertRow := Option WorkflowAlertAttempt

/-- The attempt of a resume: one further, pending, without an outcome. -/
def WorkflowAlertAttempt.resumed (a : WorkflowAlertAttempt) : WorkflowAlertAttempt :=
  { a with
    attemptNo := a.attemptNo + 1
    status := .pending
    responsePayload := none
    messageId := none
    errorCode := none }

/-- What `send_card` comes back with; the response is what `_redact` leaves of it. -/
inductive SendOutcome where
  | sent (messageId : String) (response : Json)
  | failed (errorCode : String) (retryable outcomeUnknown : Bool) (response : Json)

/-- The attempt with the outcome that `deliver` stores. -/
def WorkflowAlertAttempt.settled (a : WorkflowAlertAttempt) (maxAttempts : ℕ) :
    SendOutcome → WorkflowAlertAttempt
  | .sent messageId response =>
      { a with
        status := .succeeded
        responsePayload := some (.obj [("provider", .str "feishu"), ("result", .str "succeeded"),
          ("response", response)])
        messageId := some messageId
        errorCode := none }
  | .failed errorCode retryable outcomeUnknown response =>
      { a with
        status :=
          if outcomeUnknown then .uncertain
          else if retryable ∧ a.attemptNo < maxAttempts then .retryWait
          else .failed
        responsePayload := some (.obj [("provider", .str "feishu"), ("result", .str "failed"),
          ("error_code", .str errorCode), ("response", response)])
        messageId := none
        errorCode := some errorCode }

/-- The insert of `PostgresWorkflowAlertStore.reserve`, `on_conflict_do_nothing`. -/
def insertAttempt (row : AlertRow) (attempt : WorkflowAlertAttempt) : AlertRow × Bool :=
  match row with
  | none => (some attempt, true)
  | some existing => (some existing, false)

/-- `PostgresWorkflowAlertStore.update`, with the attempt that holds the new values. -/
def updateAttempt (row : AlertRow) (attempt settled : WorkflowAlertAttempt) : AlertRow × Bool :=
  let updated := updateWhere
    (fun r : WorkflowAlertAttempt =>
      r.alertId = attempt.alertId ∧ r.attemptNo = attempt.attemptNo ∧ r.status = .pending)
    (fun r => { r with
      status := settled.status
      responsePayload := settled.responsePayload
      messageId := settled.messageId
      errorCode := settled.errorCode })
    row
  (updated.1, updated.2.isSome)

/-- `PostgresWorkflowAlertStore.retry`. -/
def retryAttempt (row : AlertRow) (alertId : UUID) : AlertRow × Bool :=
  let resumed := updateWhere
    (fun r : WorkflowAlertAttempt => r.alertId = alertId ∧ r.status = .retryWait)
    WorkflowAlertAttempt.resumed row
  (resumed.1, resumed.2.isSome)

/-- `PostgresWorkflowAlertStore.load`. -/
def loadAttempt (row : AlertRow) (alertId : UUID) : AlertRow :=
  row.filter (·.alertId = alertId)

/-! ## One `deliver` call -/

/-- The arguments of `deliver`, and the `uuid4` of its initial attempt. -/
structure DeliverCall where
  alert : WorkflowAlert
  chatId : String
  alertId : UUID

def DeliverCall.key (call : DeliverCall) : String :=
  idempotencyKey sha256Hex call.alert (deliveryTarget call.chatId)

def DeliverCall.request (call : DeliverCall) : Json :=
  requestPayload sha256Hex call.alert call.chatId

/-- Where a call stands: the transaction, or the transport event, that comes next. -/
inductive Phase where
  | idle
  | inserting (attempt : WorkflowAlertAttempt)
  | comparing (attempt : WorkflowAlertAttempt)
  | loading
  | resuming (attempt : WorkflowAlertAttempt)
  | reloading (alertId : UUID) (disappeared : String)
  | sending (attempt : WorkflowAlertAttempt)
  | awaiting (attempt : WorkflowAlertAttempt)
  | storing (attempt : WorkflowAlertAttempt) (outcome : SendOutcome)
  | returned (attempt : WorkflowAlertAttempt)
  | raised (error : String)
  | crashed

/-- `deliver` before its reservation; the contract model of the attempt bounds the target. -/
def DeliverCall.begin (call : DeliverCall) : Phase :=
  if pyStrip call.chatId = "" then .raised "Feishu alert chat ID is required"
  else if 128 < (modelStrip (deliveryTarget call.chatId)).length then
    .raised "validation error for WorkflowAlertAttempt"
  else .inserting { alertId := call.alertId, requestPayload := call.request sha256Hex }

def reusedKey : String := "workflow alert idempotency key was reused for a different request"

/-- The second half of `reserve`, when the insert did nothing. -/
def afterComparing (attempt : WorkflowAlertAttempt) : AlertRow → Phase
  | none => .raised "workflow alert idempotency conflict has no stored attempt"
  | some existing =>
      if existing.requestPayload.pyEq attempt.requestPayload then .loading else .raised reusedKey

/-- `deliver` with the attempt that `load_for_key` gives it. -/
def afterLoading (maxAttempts : ℕ) : AlertRow → Phase
  | none => .raised "workflow alert conflict has no stored attempt"
  | some existing =>
      if existing.status ≠ .retryWait ∨ maxAttempts ≤ existing.attemptNo then .returned existing
      else .resuming existing

def afterReloading (disappeared : String) : AlertRow → Phase
  | none => .raised disappeared
  | some current => .returned current

/-- `deliver` when the update of an outcome has applied. -/
def afterStoring (settled : WorkflowAlertAttempt) : Phase :=
  if settled.status = .retryWait then .resuming settled else .returned settled

def disappearedDuring : SendOutcome → String
  | .sent .. => "workflow alert disappeared during success update"
  | .failed .. => "workflow alert disappeared during failure update"

/-- A transaction of a call: the row it leaves, and where the call stands after it. -/
def storeStep (maxAttempts : ℕ) (row : AlertRow) : Phase → Option (AlertRow × Phase)
  | .inserting attempt =>
      let (row', inserted) := insertAttempt row attempt
      some (row', if inserted then .sending attempt else .comparing attempt)
  | .comparing attempt => some (row, afterComparing attempt row)
  | .loading => some (row, afterLoading maxAttempts row)
  | .resuming attempt =>
      let (row', resumed) := retryAttempt row attempt.alertId
      some (row', if resumed then .sending attempt.resumed
        else .reloading attempt.alertId "workflow alert disappeared during retry reservation")
  | .reloading alertId disappeared =>
      some (row, afterReloading disappeared (loadAttempt row alertId))
  | .storing attempt outcome =>
      let (row', updated) := updateAttempt row attempt (attempt.settled maxAttempts outcome)
      some (row', if updated then afterStoring (attempt.settled maxAttempts outcome)
        else .reloading attempt.alertId (disappearedDuring outcome))
  | _ => none

/-! ## The system -/

/-- The row of the key, its callers with their calls, and who has called `send_card`. -/
structure System where
  row : AlertRow := none
  calls : ℕ → Option DeliverCall := fun _ => none
  phases : ℕ → Phase := fun _ => .idle
  sends : List ℕ := []

inductive Act where
  | start (caller : ℕ) (call : DeliverCall)
  | store (caller : ℕ)
  | send (caller : ℕ)
  | reply (caller : ℕ) (outcome : SendOutcome)
  | crash (caller : ℕ)

def System.setPhase (s : System) (c : ℕ) (p : Phase) : System :=
  { s with phases := Function.update s.phases c p }

/-- One step of the callers of an idempotency key. -/
def next (maxAttempts : ℕ) (key : String) (s : System) : Act → Option System
  | .start c call =>
      match s.phases c with
      | .idle =>
          if call.key sha256Hex = key then
            some { s.setPhase c (call.begin sha256Hex) with
              calls := Function.update s.calls c (some call) }
          else none
      | _ => none
  | .store c =>
      (storeStep maxAttempts s.row (s.phases c)).map fun (row, phase) =>
        { s.setPhase c phase with row := row }
  | .send c =>
      match s.phases c with
      | .sending attempt => some { s.setPhase c (.awaiting attempt) with sends := s.sends ++ [c] }
      | _ => none
  | .reply c outcome =>
      match s.phases c with
      | .awaiting attempt => some (s.setPhase c (.storing attempt outcome))
      | _ => none
  | .crash c => some (s.setPhase c .crashed)

def Next (maxAttempts : ℕ) (key : String) : Action System Act :=
  ofNext (next sha256Hex maxAttempts key)

end MacroPlatform.Alerts
