import Mathlib.Data.List.Nodup
import MacroPlatform.Daily.Workflow

/-! # `ScheduledIngestionWorker`

The run of a report date: every task with its retries, the input snapshot, and the workflow of
the report. Logs and metrics are left out, and the waits between two attempts.
-/

namespace MacroPlatform.Daily

open Process Schedule

/-- `ScheduledTask`; a run is told the number of its attempt, as its collaborators may answer
it differently each time. -/
structure ScheduledTask (σ κ : Type) where
  taskId : String
  required : Bool
  providerRole : Option String := none
  run : Day → ℕ → Program PythonError σ κ ScheduledTaskResult

/-- `ScheduledIngestionWorker` with a materializer and a workflow, by what it is made with. -/
structure ScheduledIngestionWorker (σ κ Content : Type) where
  tasks : List (ScheduledTask σ κ)
  taskIds_nodup : (tasks.map (·.taskId)).Nodup
  maxAttempts : ℕ := 3
  maxAttempts_pos : 1 ≤ maxAttempts := by decide
  /-- `ReportDateLock.hold`. -/
  hold : Day → Program PythonError σ κ Bool
  materialize : Day → List ScheduledTaskResult →
    Program PythonError σ κ (ReportInputSnapshot Content × QualityGateStatus)
  workflow : DailyReportWorkflow σ κ Content

variable {σ κ Content : Type}

/-- `_task_provider_role`. -/
def ScheduledTask.taskProviderRole (task : ScheduledTask σ κ) : String :=
  codeOr task.providerRole task.taskId

/-- A result of a task that the worker makes up itself. -/
def ScheduledTask.unfinished (task : ScheduledTask σ κ) (status : ScheduledTaskStatus)
    (attemptNo : ℕ) (errorCode : String) : ScheduledTaskResult :=
  { taskId := task.taskId
    providerRole := task.taskProviderRole
    status := status
    attemptNo := attemptNo
    errorCode := some errorCode }

/-- `required_by_task_id`. -/
def requiredTask (tasks : List (ScheduledTask σ κ)) (taskId : String) : Bool :=
  tasks.any fun task => task.taskId = taskId ∧ task.required

/-- `_worker_status`. -/
def workerStatus (results : List ScheduledTaskResult) (tasks : List (ScheduledTask σ κ)) :
    ScheduledWorkerStatus :=
  if tasks.isEmpty then .blocked
  else if results.any fun result =>
      result.status = .failed ∧ requiredTask tasks result.taskId then .blocked
  else if results.any fun result =>
      result.status = .retryable ∧ requiredTask tasks result.taskId then .retryable
  else if results.any fun result => result.status ≠ .succeeded then .degraded
  else .succeeded

/-- `_combine_worker_and_quality_status`. -/
def combineWorkerAndQualityStatus (workerStatus : ScheduledWorkerStatus)
    (qualityStatus : QualityGateStatus) : ScheduledWorkerStatus :=
  if workerStatus = .locked ∨ workerStatus = .blocked ∨ qualityStatus = .blocked then
    if workerStatus ≠ .locked then .blocked else .locked
  else if workerStatus = .retryable ∨ qualityStatus = .retryable then .retryable
  else if workerStatus = .degraded ∨ qualityStatus = .degraded then .degraded
  else .succeeded

namespace ScheduledIngestionWorker

variable (worker : ScheduledIngestionWorker σ κ Content)

/-! ### Tasks -/

/-- One attempt of `_run_task`: its result, or nothing when the task is tried again. -/
def attemptTask (task : ScheduledTask σ κ) (reportDate : Day) (attemptNo : ℕ) :
    Program PythonError σ κ (Option ScheduledTaskResult) :=
  catching
    (do
      let result ← task.run reportDate attemptNo
      if result.taskId ≠ task.taskId then
        raise (valueError "scheduled task returned a mismatched task ID")
      else if result.status = .retryable ∧ attemptNo < worker.maxAttempts then pure none
      else if result.status = .succeeded ∧ result.runId = none then
        pure (some { result with
          status := .failed
          attemptNo := attemptNo
          runId := none
          runIds := []
          errorCode := some "MISSING_DURABLE_RUN_ID" })
      else pure (some { result with attemptNo := attemptNo }))
    fun e =>
      if e.isInstance ["RetryableScheduledTaskError"] then
        if attemptNo < worker.maxAttempts then pure none
        else pure (some (task.unfinished .retryable attemptNo e.name))
      else pure (some (task.unfinished .failed attemptNo e.name))

/-- `_run_task`, with the number of the attempts that are left. -/
def runTask (task : ScheduledTask σ κ) (reportDate : Day) :
    ℕ → ℕ → Program PythonError σ κ ScheduledTaskResult
  | _, 0 => raise { name := "AssertionError", message := "retry loop must return a task result" }
  | attemptNo, left + 1 => do
      match ← worker.attemptTask task reportDate attemptNo with
      | some result => pure result
      | none => runTask task reportDate (attemptNo + 1) left

def runTasks (reportDate : Day) :
    List (ScheduledTask σ κ) → Program PythonError σ κ (List ScheduledTaskResult)
  | [] => pure []
  | task :: rest => do
      let result ← worker.runTask task reportDate 1 worker.maxAttempts
      let results ← runTasks reportDate rest
      pure (result :: results)

/-! ### The run of a report date -/

/-- The result that the workflow completes. -/
def ingest (reportDate : Day) : Program PythonError σ κ ScheduledWorkerResult := do
  let results ← worker.runTasks reportDate worker.tasks
  let status := workerStatus results worker.tasks
  match ← trying (worker.materialize reportDate results) with
  | .error e =>
      pure { reportDate := reportDate, status := .blocked, taskResults := results,
             errorCode := some e.name }
  | .ok (snapshot, quality) =>
      pure { reportDate := reportDate
             status := combineWorkerAndQualityStatus status quality
             taskResults := results
             snapshotId := some snapshot.snapshotId
             qualityStatus := some quality }

/-- The workflow of a result; a failure that it does not handle itself is alerted. -/
def completeResult (result : ScheduledWorkerResult) :
    Program PythonError σ κ ScheduledWorkerResult :=
  catching (worker.workflow.complete result) fun e => do
    let failed := { result with
      status := .blocked
      terminalStage := some .scheduler
      errorCode := some e.name }
    catching (worker.workflow.notifyUnhandledFailure failed e.name) fun _ =>
      pure { failed with alertStatus := some "failed" }

/-- `run_for_date`. -/
def runForDate (reportDate : Day) : Program PythonError σ κ ScheduledWorkerResult :=
  if worker.tasks.isEmpty then
    pure { reportDate := reportDate, status := .blocked, taskResults := [] }
  else do
    if ← worker.hold reportDate then
      let result ← worker.ingest reportDate
      worker.completeResult result
    else pure { reportDate := reportDate, status := .locked, taskResults := [] }

end ScheduledIngestionWorker

end MacroPlatform.Daily
