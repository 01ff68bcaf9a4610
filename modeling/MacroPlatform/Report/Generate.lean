import MacroPlatform.Daily.Generation
import MacroPlatform.Report.Candidate
import MacroPlatform.Report.Service

/-! # `ReportGenerationService`

The service builds a request from a stored snapshot, asks the language model for a draft, and
stores what it makes of the draft, or the fallback. A run knows the model by the answers that it
gives; an answer may depend on the answers before it.
-/

namespace MacroPlatform.Report

open Daily Process

variable (pydantic : Pydantic) (python : Python) (publishAt : Day → Instant)

/-! ## The model -/

/-- `LlmResponse`: its output is a dict, with every key once. -/
structure LlmResponse where
  structuredOutput : List (String × Json)
  keys : (structuredOutput.map Prod.fst).Nodup

/-- How a call of the model ends; a timeout is a `TimeoutError`. -/
abbrev LlmAnswer := Except PythonError LlmResponse

/-- The model: its next answer, after those it has given. -/
abbrev LlmClient := List LlmAnswer → LlmAnswer

/-! ## The prompt -/

def reportPromptVersion : String := "daily-report-v1.0"

/-- `_FORBIDDEN_PROMPT_KEYS`. -/
def forbiddenPromptKeys : List String :=
  ["api_key", "authorization", "cookie", "credential", "password", "secret", "token"]

/-- A key that no prompt may have; `lower` is `str.lower`. -/
def isRestricted (lower : String → String) (key : String) : Bool :=
  let normalized := String.ofList ((lower key).toList.map fun c => if c = '-' then '_' else c)
  normalized ∈ forbiddenPromptKeys ∨
    ∃ forbidden ∈ ["token", "secret", "password"], containsText forbidden normalized

mutual

/-- `_assert_prompt_safe`: the path of the first field that is restricted. -/
def restrictedField (lower : String → String) (path : String) : Json → Option String
  | .arr items => restrictedItem lower path 0 items
  | .obj fields => restrictedChild lower path fields
  | _ => none

def restrictedItem (lower : String → String) (path : String) (index : ℕ) :
    List Json → Option String
  | [] => none
  | item :: items =>
    match restrictedField lower (path ++ "[" ++ toString index ++ "]") item with
    | some found => some found
    | none => restrictedItem lower path (index + 1) items

def restrictedChild (lower : String → String) (path : String) :
    List (String × Json) → Option String
  | [] => none
  | field :: fields =>
    if isGiven field.2 && isRestricted lower field.1 then some (path ++ "." ++ field.1)
    else
      match restrictedField lower (path ++ "." ++ field.1) field.2 with
      | some found => some found
      | none => restrictedChild lower path fields

end

/-- `_assert_prompt_safe`. -/
def assertPromptSafe (lower : String → String) (path : String) (value : Json) :
    Except PythonError PUnit :=
  match restrictedField lower path value with
  | some found => .error (valueError ("restricted field cannot enter report prompt: " ++ found))
  | none => .ok ⟨⟩

/-- The arguments of `generate`, the `uuid4` of its attempt, and the readings of the clock: for
the answer of an attempt, and for the fallback. -/
structure GenerationRequest where
  snapshotId : String
  reportId : String
  reportVersion : String
  model : String
  parameters : List (String × Json)
  generationId : UUID
  generatedAt : ℕ → Instant
  fallbackAt : Instant

/-- The service: `str.lower` of its prompt builder, and how often it asks. -/
structure ReportGenerationService where
  lower : String → String
  maxAttempts : ℕ
  maxAttempts_pos : 1 ≤ maxAttempts

/-- A text of a contract, or its `ValidationError`. -/
def contractText (maxLength : ℕ) (value : String) : Except PythonError String :=
  match boundedText 1 maxLength (.str value) with
  | some stripped => .ok stripped
  | none => .error (validationError "string length")

/-- `ReportPromptBuilder.build`: the sources of the request. -/
def buildPrompt (service : ReportGenerationService) (request : GenerationRequest)
    (snapshot : ReportInputSnapshot Json) : Except PythonError (List String) :=
  match snapshot.payload.get "editor_context" with
  | .obj editorContext => do
    assertPromptSafe service.lower "input_payload" (.obj
      [("report_date", .str (Day.isoformat snapshot.reportDate)),
        ("as_of", .str (utcIsoformat snapshot.asOf)),
        ("cutoff_at", .str (utcIsoformat snapshot.cutoffAt)),
        ("editor_context", .obj editorContext)])
    assertPromptSafe service.lower "parameters" (.obj request.parameters)
    let references ← readSourceReferences pydantic snapshot
    let _ ← contractText 128 request.model
    .ok (references.map (·.sourceRefId))
  | _ => .error (reportGenerationError
      "input snapshot does not contain the fixed editor_context payload")

/-- `_attempt_source_ref_ids`. -/
def attemptSourceRefIds (snapshot : ReportInputSnapshot Json) : List String :=
  (strings? (snapshot.payload.get "source_ref_ids")).getD []

/-! ## The tables -/

/-- `report_input_snapshots`, `report_generation_attempts` and `daily_reports`. -/
structure GenerationTables where
  snapshots : List (ReportInputSnapshot Json)
  attempts : List ReportGenerationAttempt
  reports : List (StoredDailyReport Json)

/-- What the validation service sees of them. -/
def GenerationTables.reportTables (tables : GenerationTables) : ReportTables :=
  { snapshots := tables.snapshots
    generationIds := tables.attempts.map (·.generationId)
    reports := tables.reports }

/-- A transaction on the reports. -/
def onReports {α : Type} (body : ReportTables → Except PythonError (α × ReportTables)) :
    EStateM PythonError GenerationTables α := fun tables =>
  match body tables.reportTables with
  | .ok (a, after) => .ok a { tables with reports := after.reports }
  | .error e => .error e tables

/-- A row that keeps an attempt out: its id, or its report and version. -/
def attemptConflicts (attempt existing : ReportGenerationAttempt) : Bool :=
  existing.generationId = attempt.generationId ∨
    existing.reportId = attempt.reportId ∧ existing.reportVersion = attempt.reportVersion

/-- `put_generation_attempt`. -/
def insertAttempt (attempt : ReportGenerationAttempt) :
    EStateM PythonError GenerationTables Bool := fun tables =>
  if tables.attempts.any (attemptConflicts attempt) then
    match tables.attempts.find? (·.generationId = attempt.generationId) with
    | none => .error (valueError
        "generation attempt identity is already owned by another attempt") tables
    | some existing =>
      if existing ≠ attempt then .error (valueError "generation attempt is immutable") tables
      else .ok false tables
  else .ok true { tables with attempts := tables.attempts ++ [attempt] }

/-- One row of `update_generation_attempt`. -/
def updatedAttempt (attempt existing : ReportGenerationAttempt) : ReportGenerationAttempt :=
  if existing.generationId = attempt.generationId then
    { existing with
      lifecycleStatus := attempt.lifecycleStatus
      attemptNo := attempt.attemptNo
      errorCode := attempt.errorCode }
  else existing

/-- `update_generation_attempt`. -/
def updateAttempt (attempt : ReportGenerationAttempt) :
    EStateM PythonError GenerationTables PUnit := fun tables =>
  if tables.attempts.any (·.generationId = attempt.generationId) then
    .ok ⟨⟩ { tables with attempts := tables.attempts.map (updatedAttempt attempt) }
  else .error (valueError "generation attempt does not exist") tables

/-! ## The service -/

/-- A run of the service. -/
abbrev Generating := Program PythonError GenerationTables LlmAnswer

/-- `ReportGenerationAttempt(...)`. -/
def newGenerationAttempt (request : GenerationRequest) (snapshot : ReportInputSnapshot Json)
    (sourceRefIds : List String) : Except PythonError ReportGenerationAttempt := do
  let reportId ← contractText 128 request.reportId
  let reportVersion ← contractText 64 request.reportVersion
  let model ← contractText 128 request.model
  .ok
    { generationId := request.generationId
      reportId
      reportVersion
      inputSnapshotId := snapshot.snapshotId
      promptVersion := reportPromptVersion
      model
      inputFingerprintSha256 := snapshot.fingerprintSha256
      sourceRefIds := sourceRefIds.map modelStrip }

/-- An attempt that is stored before it starts. -/
def reserveAttempt (attempt : ReportGenerationAttempt) : Generating PUnit := do
  if ← commit (insertAttempt attempt) then pure ⟨⟩
  else
    raise (reportGenerationError ("report generation already exists; use a new report ID, " ++
      "version, and input snapshot"))

/-- The end of an attempt without a report. -/
def failGeneration (attempt : ReportGenerationAttempt) (errorCode : String) :
    Generating ReportGenerationAttempt := do
  let failed := { attempt with lifecycleStatus := .failed, errorCode := some errorCode }
  commit (updateAttempt failed)
  pure failed

/-- The payload of an answer that satisfies the contract. -/
def draftPayload (request : GenerationRequest) (snapshot : ReportInputSnapshot Json)
    (attemptNo : ℕ) (answer : LlmAnswer) : Except PythonError Json := do
  let response ← answer
  match materializeReport pydantic python publishAt snapshot (.obj response.structuredOutput)
      request.reportId (request.generatedAt attemptNo) with
  | none => .error (reportGenerationError "input snapshot source_references")
  | some payload =>
    match DailyReport.modelValidate pydantic payload with
    | none => .error (validationError "DailyReport")
    | some _ => .ok payload

/-- `StoredDailyReport(...)` of a payload. -/
def draftReport (request : GenerationRequest) (snapshot : ReportInputSnapshot Json)
    (payload : Json) : Option (StoredDailyReport Json) := do
  let status ← literal reportStatuses (payload.get "status")
  let decision ← literal publicationDecisions ((payload.get "publication").get "decision")
  let generated ← pydantic.datetime (payload.get "generated_at")
  storedReport pydantic
    { reportId := request.reportId
      reportDate := snapshot.reportDate
      reportVersion := request.reportVersion
      contractVersion := "1.0"
      inputSnapshotId := snapshot.snapshotId
      status
      publicationDecision := decision
      generatedAt := generated.instant
      payload
      generationId := some request.generationId }

/-- A draft that is stored, or the error code of its attempt. -/
def storeDraftReport (request : GenerationRequest) (snapshot : ReportInputSnapshot Json)
    (payload : Json) : Generating (Except String (StoredDailyReport Json)) :=
  catching
    (match draftReport pydantic request snapshot payload with
      | none => raise (validationError "StoredDailyReport")
      | some report => do
        if ← commit (onReports (putReport pydantic report)) then pure (.ok report)
        else pure (.error "REPORT_ALREADY_EXISTS"))
    fun e =>
      if e.isInstance ["ValidationError", "ValueError", "TypeError"] then
        pure (.error "REPORT_VALIDATION_FAILED")
      else raise e

/-- The arguments of the validation service. -/
def validationRequest (request : GenerationRequest) (snapshot : ReportInputSnapshot Json) :
    ValidationRequest where
  snapshotId := snapshot.snapshotId
  reportId := request.reportId
  reportVersion := request.reportVersion
  generatedAt := request.fallbackAt
  generationId := some request.generationId

/-- `validate_or_fallback`, with what is done of its `ReportValidationError`. -/
def validating (request : GenerationRequest) (snapshot : ReportInputSnapshot Json)
    (candidate : Option (StoredDailyReport Json)) (before : Generating PUnit) (text : String) :
    Generating ReportValidationServiceResult :=
  catching
    (commit (onReports (validateOrFallback pydantic python publishAt
      (validationRequest request snapshot) candidate)))
    fun e =>
      if e.isInstance ["ReportValidationError"] then do
        before
        raise (reportGenerationError (text ++ e.message))
      else raise e

/-- An attempt that has a draft. -/
def finishDraftReport (request : GenerationRequest) (snapshot : ReportInputSnapshot Json)
    (attempt : ReportGenerationAttempt) (payload : Json) :
    Generating (ReportGenerationResult Json) := do
  match ← storeDraftReport pydantic request snapshot payload with
  | .error errorCode => do
    let failed ← failGeneration attempt errorCode
    pure { report := none, attempt := failed }
  | .ok draft => do
    let validation ← validating pydantic python publishAt request snapshot (some draft)
      (do
        let _ ← failGeneration attempt "REPORT_VALIDATION_PERSISTENCE_FAILED"
        pure ⟨⟩)
      "report validation could not be persisted: "
    let generated := { attempt with
      lifecycleStatus := .generated
      errorCode :=
        if validation.report.lifecycleStatus = .validated then none
        else some "REPORT_VALIDATION_FAILED" }
    commit (updateAttempt generated)
    pure { report := some validation.report, attempt := generated }

/-- The last attempt without a draft. -/
def finishFallback (request : GenerationRequest) (snapshot : ReportInputSnapshot Json)
    (attempt : ReportGenerationAttempt) (errorCode : String) :
    Generating (ReportGenerationResult Json) := do
  let failed ← failGeneration attempt errorCode
  let fallback ← validating pydantic python publishAt request snapshot none (pure ⟨⟩)
    "report fallback could not be persisted: "
  pure { report := some fallback.report, attempt := failed }

/-- The number of an attempt is stored when it is not the first. -/
def numberGeneration (attempt : ReportGenerationAttempt) (attemptNo : ℕ) :
    Generating ReportGenerationAttempt :=
  if 1 < attemptNo then do
    let numbered := { attempt with attemptNo := attemptNo }
    commit (updateAttempt numbered)
    pure numbered
  else pure attempt

/-- The loop over the attempts, with the number of those that are left. -/
def generationAttempts (service : ReportGenerationService) (llm : LlmClient)
    (request : GenerationRequest) (snapshot : ReportInputSnapshot Json) :
    ℕ → ReportGenerationAttempt → ℕ → Generating (ReportGenerationResult Json)
  | _, _, 0 => raise { name := "AssertionError", message := "report generation loop must return" }
  | attemptNo, attempt, left + 1 => do
    let attempt ← numberGeneration attempt attemptNo
    let answer ← trying (ask llm id)
    match draftPayload pydantic python publishAt request snapshot attemptNo answer with
    | .ok payload => finishDraftReport pydantic python publishAt request snapshot attempt payload
    | .error e =>
      match draftErrorCode e with
      | none => raise e
      | some errorCode =>
        if attemptNo = service.maxAttempts then
          finishFallback pydantic python publishAt request snapshot attempt errorCode
        else generationAttempts service llm request snapshot (attemptNo + 1) attempt left

/-- The attempt of a snapshot that the gate does not let through. -/
def refuseGeneration (request : GenerationRequest) (snapshot : ReportInputSnapshot Json)
    (errorCode : String) : Generating (ReportGenerationResult Json) := do
  let attempt ← ofExcept (newGenerationAttempt request snapshot (attemptSourceRefIds snapshot))
  let failed := { attempt with lifecycleStatus := .failed, errorCode := some errorCode }
  reserveAttempt failed
  pure { report := none, attempt := failed }

/-- The attempts of a snapshot that the gate lets through. -/
def startGeneration (service : ReportGenerationService) (llm : LlmClient)
    (request : GenerationRequest) (snapshot : ReportInputSnapshot Json) :
    Generating (ReportGenerationResult Json) := do
  let sourceRefIds ← ofExcept (buildPrompt pydantic service request snapshot)
  let attempt ← ofExcept (newGenerationAttempt request snapshot sourceRefIds)
  reserveAttempt attempt
  generationAttempts pydantic python publishAt service llm request snapshot 1 attempt
    service.maxAttempts

/-- `ReportGenerationService.generate`. -/
def generateReport (service : ReportGenerationService) (llm : LlmClient)
    (request : GenerationRequest) : Generating (ReportGenerationResult Json) := do
  match ← read (fun tables => tables.reportTables.loadInputSnapshot request.snapshotId) with
  | none =>
    raise (reportGenerationError ("input snapshot does not exist: " ++ request.snapshotId))
  | some snapshot => do
    let quality ← ofExcept (evaluate snapshot python.str)
    match quality.status with
    | .blocked => refuseGeneration request snapshot "REPORT_INPUT_QUALITY_BLOCKED"
    | .retryable => refuseGeneration request snapshot "REPORT_INPUT_QUALITY_RETRYABLE"
    | .passed => startGeneration pydantic python publishAt service llm request snapshot
    | .degraded => startGeneration pydantic python publishAt service llm request snapshot

end MacroPlatform.Report
