import MacroPlatform.Daily.Store
import MacroPlatform.Lib.Process

/-! # `ReportGenerationService` and `ReportValidationService`

The programs of the two services over the rows of a report. The gate, the prompt builder, the
model, the validator and the fallback builder are the ones that the services are made with;
a run knows them by what they answer it.
-/

namespace MacroPlatform.Daily

open Process

/-- `QualityGateResult.status`. -/
inductive QualityGateStatus where
  | passed
  | degraded
  | blocked
  | retryable
deriving DecidableEq, Repr

/-- What a payload says of its report: `status`, `publication.decision`, `generated_at`. -/
structure ReportHead where
  status : ReportStatus
  publicationDecision : PublicationDecision
  generatedAt : Instant

/-- The collaborators of a generation. -/
structure Generation (Content : Type) where
  model : String
  promptVersion : String
  maxAttempts : ℕ := 2
  maxAttempts_pos : 1 ≤ maxAttempts := by decide
  /-- The `uuid4` of the attempt. -/
  generationId : UUID
  evaluate : ReportInputSnapshot Content → QualityGateStatus
  /-- The source references of the request that `ReportPromptBuilder.build` makes. -/
  buildPrompt : ReportInputSnapshot Content → Except PythonError (List String)
  /-- `_attempt_source_ref_ids`, stripped as the contract of an attempt does. -/
  attemptSourceRefIds : ReportInputSnapshot Content → List String
  /-- The answer of the model to an attempt, when it comes in time. -/
  generateDraft : ℕ → Except PythonError Content
  /-- `_materialize_report` and the contract of its payload. -/
  materializeReport : ReportInputSnapshot Content → Content → Except PythonError Content
  /-- The fields of `StoredDailyReport` from the payload, and its own checks. -/
  readPayload : Content → Except PythonError ReportHead
  /-- What the checks of `put_report` find in the payload. -/
  payloadProblem : ReportInputSnapshot Content → StoredDailyReport Content → Option String
  validate : StoredDailyReport Content → ReportInputSnapshot Content →
    List ReportValidationIssue
  /-- The payload that `_finalize_report` writes for a status. -/
  finalizePayload : StoredDailyReport Content → List ReportValidationIssue → ReportStatus →
    Content
  /-- The payload of the deterministic fallback. -/
  fallbackPayload : ReportInputSnapshot Content → Except PythonError (ReportHead × Content)

/-- `ReportGenerationResult`. -/
structure ReportGenerationResult (Content : Type) where
  report : Option (StoredDailyReport Content)
  attempt : ReportGenerationAttempt

variable {Content κ : Type} [DecidableEq Content]

def reportGenerationError (message : String) : PythonError :=
  { name := "ReportGenerationError", bases := ["RuntimeError"], message }

def reportValidationError (message : String) : PythonError :=
  { name := "ReportValidationError", bases := ["RuntimeError"], message }

/-- The error code of an attempt whose draft did not come; other exceptions go through. -/
def draftErrorCode (e : PythonError) : Option String :=
  if e.isInstance ["LlmTimeoutError", "TimeoutError"] then some "LLM_TIMEOUT"
  else if e.isInstance
      ["LlmStructuredOutputError", "ValidationError", "ValueError", "TypeError"] then
    some "MALFORMED_STRUCTURED_OUTPUT"
  else if e.isInstance ["LlmError"] then some "LLM_UNAVAILABLE"
  else none

/-! ## Validation -/

/-- A report without errors is published, unless it is incomplete. -/
def publishableWith (report : StoredDailyReport Content)
    (issues : List ReportValidationIssue) : Prop :=
  (∀ issue ∈ issues, issue.severity ≠ .error) ∧ report.status ≠ .incomplete

instance (report : StoredDailyReport Content) (issues : List ReportValidationIssue) :
    Decidable (publishableWith report issues) :=
  inferInstanceAs (Decidable (_ ∧ _))

/-- The status of `_finalize_report`. -/
def finalStatus (report : StoredDailyReport Content) (issues : List ReportValidationIssue) :
    ReportStatus :=
  if ¬ publishableWith report issues then .incomplete
  else if ∃ issue ∈ issues, issue.severity = .warning then .degraded
  else report.status

/-- `_finalize_report`. -/
def finalizeReport (g : Generation Content) (report : StoredDailyReport Content)
    (issues : List ReportValidationIssue) : StoredDailyReport Content :=
  { report with
    status := finalStatus report issues
    publicationDecision := if publishableWith report issues then .published else .notPublished
    payload := g.finalizePayload report issues (finalStatus report issues)
    lifecycleStatus := if publishableWith report issues then .validated else .failed
    validationErrors := issues }

/-- A report of the workflow with a payload and what it says. -/
def storedReport (reportId reportVersion : String) (snapshot : ReportInputSnapshot Content)
    (generationId : UUID) (head : ReportHead) (payload : Content) : StoredDailyReport Content :=
  { reportId := reportId
    reportDate := snapshot.reportDate
    reportVersion := reportVersion
    contractVersion := "1.0"
    inputSnapshotId := snapshot.snapshotId
    status := head.status
    publicationDecision := head.publicationDecision
    generatedAt := head.generatedAt
    payload := payload
    generationId := some generationId }

variable (g : Generation Content) (reportId reportVersion : String)

/-- `validate_or_fallback` with a candidate. -/
def validateCandidate (snapshotId : String) (report : StoredDailyReport Content) :
    Program PythonError (DailyStore Content) κ (StoredDailyReport Content) := do
  match ← read (loadInputSnapshot snapshotId) with
  | none => raise (reportValidationError ("input snapshot does not exist: " ++ snapshotId))
  | some snapshot => do
      let finalized := finalizeReport g report (g.validate report snapshot)
      if ← commit (updateReportValidation finalized report.lifecycleStatus) then
        pure finalized
      else
        raise (reportValidationError "report validation state was changed by another worker")

/-- `validate_or_fallback` without one. -/
def validateFallback (snapshotId : String) (generationId : UUID) :
    Program PythonError (DailyStore Content) κ (StoredDailyReport Content) := do
  match ← read (loadInputSnapshot snapshotId) with
  | none => raise (reportValidationError ("input snapshot does not exist: " ++ snapshotId))
  | some snapshot => do
      let (head, payload) ← ofExcept (g.fallbackPayload snapshot)
      let report := storedReport reportId reportVersion snapshot generationId head payload
      let finalized := finalizeReport g report (g.validate report snapshot)
      if ← commit (putReport g.payloadProblem finalized) then
        pure finalized
      else raise (reportValidationError "fallback report already exists")

/-- `except ReportValidationError`, with what is done before the error of the generation. -/
def onValidationError {α : Type} (text : String)
    (before : Program PythonError (DailyStore Content) κ PUnit)
    (body : Program PythonError (DailyStore Content) κ α) :
    Program PythonError (DailyStore Content) κ α :=
  catching body fun e =>
    if e.isInstance ["ReportValidationError"] then do
      before
      raise (reportGenerationError (text ++ e.message))
    else raise e

/-! ## Generation -/

/-- The attempt of a request. -/
def newAttempt (snapshot : ReportInputSnapshot Content) (sourceRefIds : List String) :
    ReportGenerationAttempt :=
  { generationId := g.generationId
    reportId := reportId
    reportVersion := reportVersion
    inputSnapshotId := snapshot.snapshotId
    promptVersion := g.promptVersion
    model := g.model
    inputFingerprintSha256 := snapshot.fingerprintSha256
    sourceRefIds := sourceRefIds }

/-- The attempt of a snapshot that the gate does not let through. -/
def refusedAttempt (snapshot : ReportInputSnapshot Content) (errorCode : String) :
    ReportGenerationAttempt :=
  { newAttempt g reportId reportVersion snapshot (g.attemptSourceRefIds snapshot) with
    lifecycleStatus := .failed
    errorCode := some errorCode }

/-- An attempt that is stored before it starts; a stored one is never taken up again. -/
def reserveGeneration (attempt : ReportGenerationAttempt) :
    Program PythonError (DailyStore Content) κ PUnit := do
  if ← commit (putGenerationAttempt attempt) then
    pure ⟨⟩
  else
    raise (reportGenerationError ("report generation already exists; use a new report ID, " ++
      "version, and input snapshot"))

/-- The end of an attempt without a report. -/
def failAttempt (attempt : ReportGenerationAttempt) (errorCode : String) :
    Program PythonError (DailyStore Content) κ ReportGenerationAttempt := do
  let failed := { attempt with lifecycleStatus := .failed, errorCode := some errorCode }
  commit (updateGenerationAttempt failed)
  pure failed

/-- The report of a draft when it is stored, or the error code of its attempt. -/
def storeDraft (snapshot : ReportInputSnapshot Content) (payload : Content) :
    Program PythonError (DailyStore Content) κ (Except String (StoredDailyReport Content)) :=
  catching
    (do
      let head ← ofExcept (g.readPayload payload)
      let report := storedReport reportId reportVersion snapshot g.generationId head payload
      if ← commit (putReport g.payloadProblem report) then
        pure (.ok report)
      else pure (.error "REPORT_ALREADY_EXISTS"))
    fun e =>
      if e.isInstance ["ValidationError", "ValueError", "TypeError"] then
        pure (.error "REPORT_VALIDATION_FAILED")
      else raise e

/-- An attempt that has a draft. -/
def finishDraft (snapshot : ReportInputSnapshot Content) (attempt : ReportGenerationAttempt)
    (payload : Content) :
    Program PythonError (DailyStore Content) κ (ReportGenerationResult Content) := do
  match ← storeDraft g reportId reportVersion snapshot payload with
  | .error errorCode => do
      let failed ← failAttempt attempt errorCode
      pure { report := none, attempt := failed }
  | .ok draft => do
      let report ← onValidationError "report validation could not be persisted: "
        (do
          let _ ← failAttempt attempt "REPORT_VALIDATION_PERSISTENCE_FAILED"
          pure ⟨⟩)
        (validateCandidate g snapshot.snapshotId draft)
      let generated := { attempt with
        lifecycleStatus := .generated
        errorCode :=
          if report.lifecycleStatus = .validated then none else some "REPORT_VALIDATION_FAILED" }
      commit (updateGenerationAttempt generated)
      pure { report := some report, attempt := generated }

/-- The last attempt without a draft. -/
def finishWithFallback (snapshot : ReportInputSnapshot Content)
    (attempt : ReportGenerationAttempt) (errorCode : String) :
    Program PythonError (DailyStore Content) κ (ReportGenerationResult Content) := do
  let failed ← failAttempt attempt errorCode
  let report ← onValidationError "report fallback could not be persisted: " (pure ⟨⟩)
    (validateFallback g reportId reportVersion snapshot.snapshotId failed.generationId)
  pure { report := some report, attempt := failed }

/-- The number of an attempt is stored when it is not the first. -/
def numberAttempt (attempt : ReportGenerationAttempt) (attemptNo : ℕ) :
    Program PythonError (DailyStore Content) κ ReportGenerationAttempt :=
  if 1 < attemptNo then do
    let numbered := { attempt with attemptNo := attemptNo }
    commit (updateGenerationAttempt numbered)
    pure numbered
  else pure attempt

/-- The draft of an attempt. -/
def Generation.draft (snapshot : ReportInputSnapshot Content) (attemptNo : ℕ) :
    Except PythonError Content := do
  let response ← g.generateDraft attemptNo
  g.materializeReport snapshot response

/-- The loop over the attempts, with the number of those that are left. -/
def attemptsFrom (snapshot : ReportInputSnapshot Content) :
    ℕ → ReportGenerationAttempt → ℕ →
      Program PythonError (DailyStore Content) κ (ReportGenerationResult Content)
  | _, _, 0 =>
      raise { name := "AssertionError", message := "report generation loop must return" }
  | attemptNo, attempt, left + 1 => do
      let attempt ← numberAttempt attempt attemptNo
      match g.draft snapshot attemptNo with
      | .ok payload => finishDraft g reportId reportVersion snapshot attempt payload
      | .error e =>
          match draftErrorCode e with
          | none => raise e
          | some errorCode =>
              if attemptNo = g.maxAttempts then
                finishWithFallback g reportId reportVersion snapshot attempt errorCode
              else attemptsFrom snapshot (attemptNo + 1) attempt left

/-- `generate`. -/
def generate (snapshotId : String) :
    Program PythonError (DailyStore Content) κ (ReportGenerationResult Content) := do
  match ← read (loadInputSnapshot snapshotId) with
  | none => raise (reportGenerationError ("input snapshot does not exist: " ++ snapshotId))
  | some snapshot =>
      match g.evaluate snapshot with
      | .blocked => refuse snapshot "REPORT_INPUT_QUALITY_BLOCKED"
      | .retryable => refuse snapshot "REPORT_INPUT_QUALITY_RETRYABLE"
      | .passed | .degraded => do
          let sourceRefIds ← ofExcept (g.buildPrompt snapshot)
          let attempt := newAttempt g reportId reportVersion snapshot sourceRefIds
          reserveGeneration attempt
          attemptsFrom g reportId reportVersion snapshot 1 attempt g.maxAttempts
where
  refuse (snapshot : ReportInputSnapshot Content) (errorCode : String) :
      Program PythonError (DailyStore Content) κ (ReportGenerationResult Content) := do
    let attempt := refusedAttempt g reportId reportVersion snapshot errorCode
    reserveGeneration attempt
    pure { report := none, attempt := attempt }

end MacroPlatform.Daily
