import Mathlib.Logic.Function.Basic
import MacroPlatform.Contracts.Facts
import MacroPlatform.Delivery.Service
import MacroPlatform.Schedule.Task

/-! # What a daily report leaves in the database

The rows of one report date and one report version. The keys of the tables leave at most one
generation attempt, one report and one delivery attempt to them, and one checkpoint to a
task. Every operation of a repository is a program on these rows that may raise.
-/

namespace MacroPlatform.Daily

open Delivery Schedule

/-- An exception: its class, the classes that one derives from, and its text. -/
structure PythonError where
  name : String
  bases : List String := []
  message : String

def PythonError.isInstance (e : PythonError) (names : List String) : Bool :=
  e.name ∈ names ∨ ∃ base ∈ e.bases, base ∈ names

def valueError (message : String) : PythonError := { name := "ValueError", message }

/-- What a checkpointed task raises itself: a `RuntimeError` where a stored row is wrong, else
a `ValueError`. -/
def taskError (message : String) : PythonError :=
  { name :=
      if message ∈ ["scheduled task checkpoint was not persisted",
          "scheduled task checkpoint was lost before it advanced",
          "scheduled task checkpoint has duplicate run IDs",
          "completed scheduled task checkpoint is missing its durable run ID"] then
        "RuntimeError"
      else "ValueError"
    message }

/-! ## Rows -/

/-- `ReportInputSnapshot`. -/
structure ReportInputSnapshot (Content : Type) where
  snapshotId : String
  snapshotVersion : String
  reportDate : Day
  asOf : Instant
  cutoffAt : Instant
  fingerprintSha256 : String
  factIds : List String
  payload : Content
deriving DecidableEq

/-- `ReportLifecycleStatus`. -/
inductive ReportLifecycleStatus where
  | draft
  | generated
  | failed
  | validated
  | superseded
deriving DecidableEq, Repr

/-- `ReportGenerationAttempt`; its parameters and the payload of its response are written
only. -/
structure ReportGenerationAttempt where
  generationId : UUID
  reportId : String
  reportVersion : String
  inputSnapshotId : String
  lifecycleStatus : ReportLifecycleStatus := .draft
  attemptNo : ℕ := 1
  promptVersion : String
  model : String
  inputFingerprintSha256 : String
  sourceRefIds : List String
  errorCode : Option String := none
deriving DecidableEq

/-- `StoredDailyReport.status`. -/
inductive ReportStatus where
  | complete
  | degraded
  | incomplete
deriving DecidableEq, Repr

/-- `StoredDailyReport.publication_decision`. -/
inductive PublicationDecision where
  | published
  | notPublished
deriving DecidableEq, Repr

/-- `ReportValidationIssue.severity`. -/
inductive IssueSeverity where
  | error
  | warning
deriving DecidableEq, Repr

/-- `ReportValidationIssue`. -/
structure ReportValidationIssue where
  code : String
  message : String
  severity : IssueSeverity := .error
  inputId : Option String := none
  factId : Option String := none
  sourceRefId : Option String := none
deriving DecidableEq, Repr

/-- `StoredDailyReport`. -/
structure StoredDailyReport (Content : Type) where
  reportId : String
  reportDate : Day
  reportVersion : String
  contractVersion : String
  inputSnapshotId : String
  status : ReportStatus
  publicationDecision : PublicationDecision
  generatedAt : Instant
  payload : Content
  lifecycleStatus : ReportLifecycleStatus := .generated
  generationId : Option UUID := none
  validationErrors : List ReportValidationIssue := []
deriving DecidableEq

/-- A report that may be delivered. -/
def StoredDailyReport.Publishable {Content : Type} (report : StoredDailyReport Content) : Prop :=
  report.lifecycleStatus = .validated ∧ report.publicationDecision = .published

instance {Content : Type} (report : StoredDailyReport Content) : Decidable report.Publishable :=
  inferInstanceAs (Decidable (_ ∧ _))

/-- The rows of a report date and a report version; checkpoints go by their task. -/
structure DailyStore (Content : Type) where
  checkpoints : String → CheckpointTable
  snapshots : List (ReportInputSnapshot Content)
  attempt : Option ReportGenerationAttempt
  report : Option (StoredDailyReport Content)
  delivery : DeliveryRow Content

variable {Content : Type}

/-- A store without rows. -/
def emptyStore : DailyStore Content :=
  { checkpoints := fun _ => none, snapshots := [], attempt := none, report := none,
    delivery := none }

/-! ## Operations -/

/-- An operation on the checkpoint of a task. -/
def onCheckpoint {α : Type} (taskId : String) (body : EStateM String CheckpointTable α) :
    EStateM PythonError (DailyStore Content) α := fun s =>
  match body (s.checkpoints taskId) with
  | .ok a row => .ok a { s with checkpoints := Function.update s.checkpoints taskId row }
  | .error message _ => .error (taskError message) s

/-- An operation of a delivery on its row. -/
def onDelivery [DecidableEq Content] (svc : Service) (phase : Phase Content) :
    EStateM PythonError (DailyStore Content) (Phase Content) := fun s =>
  match storeStep svc s.delivery phase with
  | some effect => .ok effect.phase { s with delivery := effect.row }
  | none => .ok phase s

def loadInputSnapshot (snapshotId : String) (s : DailyStore Content) :
    Option (ReportInputSnapshot Content) :=
  s.snapshots.find? (·.snapshotId = snapshotId)

/-- A JSONB column: what it gives back of a value, and `==` between that and a value. -/
structure JsonColumn (Held Content : Type) where
  image : Held → Content
  equal : Content → Held → Bool

/-- `put_input_snapshot`. -/
def putInputSnapshot {Held : Type} (column : JsonColumn Held Content)
    (snapshot : ReportInputSnapshot Held) : EStateM PythonError (DailyStore Content) Bool :=
  fun s =>
    match loadInputSnapshot snapshot.snapshotId s with
    | some existing =>
        if existing.snapshotVersion ≠ snapshot.snapshotVersion ∨
            existing.reportDate ≠ snapshot.reportDate ∨ existing.asOf ≠ snapshot.asOf ∨
            existing.cutoffAt ≠ snapshot.cutoffAt ∨
            existing.fingerprintSha256 ≠ snapshot.fingerprintSha256 ∨
            existing.factIds ≠ snapshot.factIds ∨
            column.equal existing.payload snapshot.payload = false then
          .error (valueError "report input snapshot is immutable") s
        else .ok false s
    | none =>
        if ∃ other ∈ s.snapshots, other.snapshotVersion = snapshot.snapshotVersion ∧
            other.reportDate = snapshot.reportDate ∧
            other.fingerprintSha256 = snapshot.fingerprintSha256 then
          .error (valueError
            "report input snapshot identity is already owned by another snapshot ID") s
        else
          .ok true { s with snapshots := s.snapshots ++
            [{ snapshot with payload := column.image snapshot.payload }] }

/-- `put_generation_attempt`. -/
def putGenerationAttempt (attempt : ReportGenerationAttempt) :
    EStateM PythonError (DailyStore Content) Bool := fun s =>
  match s.attempt with
  | none => .ok true { s with attempt := some attempt }
  | some existing =>
      if existing.generationId ≠ attempt.generationId then
        .error (valueError
          "generation attempt identity is already owned by another attempt") s
      else if existing ≠ attempt then
        .error (valueError "generation attempt is immutable") s
      else .ok false s

/-- `update_generation_attempt`. -/
def updateGenerationAttempt (attempt : ReportGenerationAttempt) :
    EStateM PythonError (DailyStore Content) PUnit := fun s =>
  match s.attempt with
  | some existing =>
      if existing.generationId ≠ attempt.generationId then
        .error (valueError "generation attempt does not exist") s
      else
        .ok ⟨⟩ { s with attempt := some { existing with
          lifecycleStatus := attempt.lifecycleStatus
          attemptNo := attempt.attemptNo
          errorCode := attempt.errorCode } }
  | none => .error (valueError "generation attempt does not exist") s

/-- `load_generation_attempt`. -/
def loadGenerationAttempt (generationId : UUID) (s : DailyStore Content) :
    Option ReportGenerationAttempt :=
  s.attempt.filter (·.generationId = generationId)

/-- `put_report`; `problem` is what its checks of the payload against the snapshot find. -/
def putReport [DecidableEq Content]
    (problem : ReportInputSnapshot Content → StoredDailyReport Content → Option String)
    (report : StoredDailyReport Content) : EStateM PythonError (DailyStore Content) Bool :=
  fun s =>
    match loadInputSnapshot report.inputSnapshotId s with
    | none => .error (valueError "daily report references an unknown input snapshot") s
    | some snapshot =>
        match problem snapshot report with
        | some message => .error (valueError message) s
        | none =>
            match s.report with
            | none => .ok true { s with report := some report }
            | some existing =>
                if existing.reportId ≠ report.reportId then
                  .error (valueError
                    "report date/version is already owned by another report ID") s
                else if existing ≠ report then
                  .error (valueError "daily report is immutable") s
                else .ok false s

/-- `update_report_validation`. -/
def updateReportValidation (report : StoredDailyReport Content)
    (expectedLifecycleStatus : ReportLifecycleStatus) :
    EStateM PythonError (DailyStore Content) Bool := fun s =>
  match s.report with
  | some existing =>
      if existing.reportId = report.reportId ∧
          existing.lifecycleStatus = expectedLifecycleStatus then
        .ok true { s with report := some { existing with
          status := report.status
          publicationDecision := report.publicationDecision
          lifecycleStatus := report.lifecycleStatus
          validationErrors := report.validationErrors
          payload := report.payload } }
      else .ok false s
  | none => .ok false s

/-- `load_report`. -/
def loadReport (reportId : String) (s : DailyStore Content) :
    Option (StoredDailyReport Content) :=
  s.report.filter (·.reportId = reportId)

end MacroPlatform.Daily
