import MacroPlatform.Contracts.Text
import MacroPlatform.Daily.Generation
import MacroPlatform.Lib.Query

/-! # `DailyReportWorkflow`

The path from a stored input snapshot to the delivery of the report. What the workflow is made
with (the stores, the generation service, the delivery and alert ports, the clock) are programs
that may raise, and that may be stopped.
-/

namespace MacroPlatform.Daily

open Delivery Process Schedule

/-! ## Results -/

/-- `ScheduledWorkerStatus`. -/
inductive ScheduledWorkerStatus where
  | succeeded
  | degraded
  | blocked
  | retryable
  | locked
deriving DecidableEq, Repr

/-- `WorkflowStage`, and the terminal stage of a run that is completed. -/
inductive WorkflowStage where
  | ingestion
  | qualityGate
  | generation
  | validation
  | delivery
  | scheduler
  | completed
deriving DecidableEq, Repr

/-- `ScheduledWorkerResult`. -/
structure ScheduledWorkerResult where
  reportDate : Day
  status : ScheduledWorkerStatus
  taskResults : List ScheduledTaskResult
  snapshotId : Option String := none
  qualityStatus : Option QualityGateStatus := none
  workflowRunId : Option UUID := none
  reportId : Option String := none
  deliveryStatus : Option String := none
  alertStatus : Option String := none
  terminalStage : Option WorkflowStage := none
  errorCode : Option String := none
deriving DecidableEq

/-- `WorkflowAlert`, without the texts for its reader. -/
structure WorkflowAlert where
  workflowRunId : UUID
  reportDate : Day
  stage : WorkflowStage
  errorCode : String
  providerRunIds : List UUID
deriving DecidableEq

/-! ## The workflow -/

/-- `DailyReportWorkflow`, by what it is made with. -/
structure DailyReportWorkflow (σ κ Content : Type) where
  reportVersion : String
  /-- `uuid5(NAMESPACE_URL, name)`. -/
  uuid5 : String → UUID
  /-- The publish time of a date in the workflow's time zone. -/
  publishAt : Day → Instant
  now : Program PythonError σ κ Instant
  sleeper : ℤ → Program PythonError σ κ PUnit
  loadReport : String → Program PythonError σ κ (Option (StoredDailyReport Content))
  loadGenerationAttempt : UUID → Program PythonError σ κ (Option ReportGenerationAttempt)
  /-- `generate` of a report id and version from a snapshot. -/
  generate : String → String → String → Program PythonError σ κ (ReportGenerationResult Content)
  deliver : String → Program PythonError σ κ (ReportDeliveryResult Content)
  deliverAlert : WorkflowAlert → Program PythonError σ κ String

variable {σ κ Content : Type}

/-- `_report_id`. -/
def reportIdOf (reportDate : Day) (reportVersion : String) : String :=
  "daily-report-" ++ reportDate.isoformat ++ "-" ++ reportVersion

/-- `code or default`. -/
def codeOr (code : Option String) (default : String) : String :=
  match code with
  | some code => if code = "" then default else code
  | none => default

/-- `_stable_error_code`. -/
def stableErrorCode (value : String) : String :=
  let normalized := String.ofList ((pyStrip value).toList.map fun c =>
    if c.isAlphanum ∨ c ∈ ['_', '.', '-'] then c else '_')
  String.ofList ((codeOr (some normalized) "WORKFLOW_ERROR").toList.take 64)

/-- `_worker_error_code`. -/
def workerErrorCode (result : ScheduledWorkerResult) : String :=
  ((result.taskResults.filterMap (·.errorCode)).mergeSort).headD "WORKFLOW_BLOCKED"

/-- `_provider_run_ids`. -/
def providerRunIds (result : ScheduledWorkerResult) : List UUID :=
  Query.distinct (result.taskResults.flatMap fun task =>
    Query.distinct (task.runIds ++ task.runId.toList))

/-- `ReportDeliveryResult.status`. -/
def deliveryStatus (result : ReportDeliveryResult Content) : String :=
  if result.dryRun then "dry_run"
  else
    match result.deliveryAttempt with
    | some attempt => attempt.status.value
    | none => ""

/-- The error code of a delivery that did not succeed. -/
def deliveryErrorCode (result : ReportDeliveryResult Content) : String :=
  (result.deliveryAttempt.bind (·.errorCode)).getD
    ("REPORT_DELIVERY_" ++ (deliveryStatus result).toUpper)

namespace DailyReportWorkflow

variable (w : DailyReportWorkflow σ κ Content)

/-- `_workflow_run_id`. -/
def workflowRunId (reportDate : Day) : UUID :=
  w.uuid5 ("macro-data-platform:daily-workflow:" ++ w.reportVersion ++ ":" ++
    reportDate.isoformat)

/-! ### Alerts -/

/-- `_alert_terminal`; a failure of the alert is not raised. -/
def alertTerminal (result : ScheduledWorkerResult) (stage : WorkflowStage)
    (errorCode : String) : Program PythonError σ κ ScheduledWorkerResult := do
  let workflowRunId := result.workflowRunId.getD (w.workflowRunId result.reportDate)
  let delivered ← trying (w.deliverAlert
    { workflowRunId := workflowRunId
      reportDate := result.reportDate
      stage := stage
      errorCode := stableErrorCode errorCode
      providerRunIds := providerRunIds result })
  pure { result with
    status := .blocked
    workflowRunId := some workflowRunId
    alertStatus :=
      match delivered with
      | .ok status => some status
      | .error _ => some "failed"
    terminalStage := some stage
    errorCode := some (stableErrorCode errorCode) }

/-- `notify_unhandled_failure`. -/
def notifyUnhandledFailure (result : ScheduledWorkerResult) (errorCode : String) :
    Program PythonError σ κ ScheduledWorkerResult :=
  w.alertTerminal
    { result with
      status := .blocked
      workflowRunId := some (result.workflowRunId.getD (w.workflowRunId result.reportDate)) }
    .scheduler errorCode

/-! ### Completion -/

/-- `_wait_until_publish`. -/
def waitUntilPublish (reportDate : Day) : Program PythonError σ κ PUnit := do
  let now ← w.now
  if now < w.publishAt reportDate then w.sleeper (w.publishAt reportDate - now) else pure ⟨⟩

/-- The report of the version, which is generated when there is none, and the error code of its
generation. -/
def prepareReport (reportId snapshotId : String) :
    Program PythonError σ κ (Option (StoredDailyReport Content) × Option String) := do
  match ← w.loadReport reportId with
  | none => do
      let generated ← w.generate reportId w.reportVersion snapshotId
      pure (generated.report, generated.attempt.errorCode)
  | some report =>
      match report.generationId with
      | none => pure (some report, none)
      | some generationId => do
          let attempt ← w.loadGenerationAttempt generationId
          pure (some report, attempt.bind (·.errorCode))

/-- `complete` from its delivery on. -/
def deliverReport (current : ScheduledWorkerResult) (report : StoredDailyReport Content)
    (generationErrorCode : Option String) : Program PythonError σ κ ScheduledWorkerResult := do
  let reported := { current with reportId := some report.reportId }
  match ← trying (w.deliver report.reportId) with
  | .error e => w.alertTerminal { reported with status := .blocked } .delivery e.name
  | .ok delivery =>
      let delivered := { reported with deliveryStatus := some (deliveryStatus delivery) }
      if deliveryStatus delivery ≠ "succeeded" then
        w.alertTerminal { delivered with status := .blocked } .delivery
          (deliveryErrorCode delivery)
      else
        pure { delivered with
          status :=
            if current.status = .degraded ∨ generationErrorCode ≠ none then .degraded
            else .succeeded
          terminalStage := some .completed
          errorCode := generationErrorCode }

/-- `complete` from its report on. -/
def publishReport (current : ScheduledWorkerResult) (report : StoredDailyReport Content)
    (generationErrorCode : Option String) : Program PythonError σ κ ScheduledWorkerResult :=
  if ¬ report.Publishable then
    w.alertTerminal
      { current with status := .blocked, reportId := some report.reportId } .validation
      (match report.validationErrors with
      | issue :: _ => issue.code
      | [] => codeOr generationErrorCode "REPORT_NOT_PUBLISHABLE")
  else do
    w.waitUntilPublish current.reportDate
    w.deliverReport current report generationErrorCode

/-- `complete` of a result that the gate lets through. -/
def completeSnapshot (current : ScheduledWorkerResult) :
    Program PythonError σ κ ScheduledWorkerResult := do
  let reportId := reportIdOf current.reportDate w.reportVersion
  let blocked := { current with status := .blocked }
  match current.snapshotId with
  | none => w.alertTerminal blocked .qualityGate "REPORT_INPUT_SNAPSHOT_MISSING"
  | some snapshotId =>
      match ← trying (w.prepareReport reportId snapshotId) with
      | .error e => w.alertTerminal { blocked with reportId := some reportId } .generation e.name
      | .ok (none, generationErrorCode) =>
          let stage :=
            if generationErrorCode = some "REPORT_INPUT_QUALITY_BLOCKED" ∨
                generationErrorCode = some "REPORT_INPUT_QUALITY_RETRYABLE" then
              WorkflowStage.qualityGate
            else .generation
          w.alertTerminal { blocked with reportId := some reportId } stage
            (codeOr generationErrorCode "REPORT_GENERATION_FAILED")
      | .ok (some report, generationErrorCode) =>
          w.publishReport current report generationErrorCode

/-- `complete`. -/
def complete (result : ScheduledWorkerResult) : Program PythonError σ κ ScheduledWorkerResult :=
  let current := { result with workflowRunId := some (w.workflowRunId result.reportDate) }
  match current.status with
  | .locked | .retryable => pure current
  | .blocked =>
      w.alertTerminal current (if current.snapshotId.isSome then .qualityGate else .ingestion)
        (codeOr current.errorCode (workerErrorCode current))
  | .succeeded | .degraded => w.completeSnapshot current

end DailyReportWorkflow

end MacroPlatform.Daily
