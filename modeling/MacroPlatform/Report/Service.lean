import MacroPlatform.Report.FallbackValidated

/-! # `ReportValidationService`

The service loads the snapshot, takes the candidate or builds the fallback, validates it and
stores what `_finalize_report` makes of it.

* `addIssues_ok`: the issues find their lists in a valid data quality;
* `finalNotice_refers`: the notice that is written refers to nothing new.
-/

namespace MacroPlatform.Report

open Daily

variable (pydantic : Pydantic) (python : Python) (publishAt : Day → Instant)

/-! ## The tables -/

/-- `report_input_snapshots`, the ids of `report_generation_attempts`, and `daily_reports`. -/
structure ReportTables where
  snapshots : List (ReportInputSnapshot Json)
  generationIds : List UUID
  reports : List (StoredDailyReport Json)

/-- `load_input_snapshot`. -/
def ReportTables.loadInputSnapshot (tables : ReportTables) (snapshotId : String) :
    Option (ReportInputSnapshot Json) :=
  tables.snapshots.find? (·.snapshotId = snapshotId)

/-- `validate_fact_references`. -/
def validateFactReferences (report : StoredDailyReport Json) (availableFactIds : List String) :
    Except PythonError PUnit :=
  match report.payload.get "sections" with
  | .obj sections =>
    match strictReferenceIds "fact_ids" (.obj sections) with
    | none => .error (valueError "report payload fact_ids must be a list of strings")
    | some factIds =>
      if ∀ factId ∈ factIds, factId ∈ availableFactIds then .ok ⟨⟩
      else .error (valueError "report payload fact_ids must resolve to input snapshot facts")
  | _ => .error (valueError "report payload sections is required")

/-- The columns of a report that is there are those of the report. -/
def sameReport (existing report : StoredDailyReport Json) : Bool :=
  existing.reportDate = report.reportDate ∧ existing.reportVersion = report.reportVersion ∧
    existing.contractVersion = report.contractVersion ∧
    existing.inputSnapshotId = report.inputSnapshotId ∧ existing.status = report.status ∧
    existing.publicationDecision = report.publicationDecision ∧
    existing.lifecycleStatus = report.lifecycleStatus ∧
    existing.generatedAt = report.generatedAt ∧ existing.generationId = report.generationId ∧
    existing.validationErrors = report.validationErrors ∧
    existing.payload.pyEq report.payload = true

/-- A row that keeps a report out: its id, or its date and version. -/
def conflicts (report existing : StoredDailyReport Json) : Bool :=
  existing.reportId = report.reportId ∨
    existing.reportDate = report.reportDate ∧ existing.reportVersion = report.reportVersion

/-- `put_report`. -/
def putReport (report : StoredDailyReport Json) (tables : ReportTables) :
    Except PythonError (Bool × ReportTables) :=
  match tables.loadInputSnapshot report.inputSnapshotId with
  | none => .error (valueError "daily report references an unknown input snapshot")
  | some snapshot =>
    if (report.payload.get "input_snapshot").pyEq (inputSnapshotPayload snapshot) = false then
      .error (valueError "daily report payload input_snapshot must match stored snapshot")
    else do
      validateFactReferences report snapshot.factIds
      if tables.reports.any (conflicts report) then
        match tables.reports.find? (·.reportId = report.reportId) with
        | none => .error (valueError "report date/version is already owned by another report ID")
        | some existing =>
          if sameReport existing report then .ok (false, tables)
          else .error (valueError "daily report is immutable")
      else if ∃ generationId ∈ report.generationId, generationId ∉ tables.generationIds then
        .error { name := "IntegrityError", message := "generation_id is not present" }
      else
        match storedSources pydantic report.payload with
        | none => .error (validationError "report payload source_references")
        | some _ => .ok (true, { tables with reports := tables.reports ++ [report] })

/-- One row of `update_report_validation`. -/
def validatedRow (report : StoredDailyReport Json)
    (expectedLifecycleStatus : ReportLifecycleStatus) (existing : StoredDailyReport Json) :
    StoredDailyReport Json :=
  if existing.reportId = report.reportId ∧
      existing.lifecycleStatus = expectedLifecycleStatus then
    { existing with
      status := report.status
      publicationDecision := report.publicationDecision
      lifecycleStatus := report.lifecycleStatus
      validationErrors := report.validationErrors
      payload := report.payload }
  else existing

/-- `update_report_validation`. -/
def updateReportValidation (report : StoredDailyReport Json)
    (expectedLifecycleStatus : ReportLifecycleStatus) (tables : ReportTables) :
    Bool × ReportTables :=
  (tables.reports.any fun existing => existing.reportId = report.reportId ∧
      existing.lifecycleStatus = expectedLifecycleStatus,
    { tables with
      reports := tables.reports.map (validatedRow report expectedLifecycleStatus) })

/-! ## The service -/

/-- `ReportValidationServiceResult`. -/
structure ReportValidationServiceResult where
  report : StoredDailyReport Json
  issues : List ReportValidationIssue
  usedFallback : Bool

/-- The arguments of `validate_or_fallback` besides its candidate. -/
structure ValidationRequest where
  snapshotId : String
  reportId : String
  reportVersion : String
  generatedAt : Instant
  generationId : Option UUID := none

/-- `candidate or self._fallback_builder.build(...)`. -/
def reportOf (request : ValidationRequest) (snapshot : ReportInputSnapshot Json) :
    Option (StoredDailyReport Json) → Except PythonError (StoredDailyReport Json)
  | some report => .ok report
  | none => build pydantic python publishAt snapshot request.reportId request.reportVersion
      request.generatedAt request.generationId

/-- The statement that stores a finalized report. -/
def storeFinalized (finalized : StoredDailyReport Json) (tables : ReportTables) :
    Option (StoredDailyReport Json) → Except PythonError (Bool × ReportTables)
  | some report => .ok (updateReportValidation finalized report.lifecycleStatus tables)
  | none => putReport pydantic finalized tables

/-- `validate_or_fallback`. -/
def validateOrFallback (request : ValidationRequest)
    (candidate : Option (StoredDailyReport Json)) (tables : ReportTables) :
    Except PythonError (ReportValidationServiceResult × ReportTables) :=
  match tables.loadInputSnapshot request.snapshotId with
  | none =>
    .error (reportValidationError ("input snapshot does not exist: " ++ request.snapshotId))
  | some snapshot => do
    let report ← reportOf pydantic python publishAt request snapshot candidate
    let issues ← validate pydantic python snapshot report
    let finalized ← finalizeReport report issues
    let (stored, after) ← storeFinalized pydantic finalized tables candidate
    if stored then
      .ok ({ report := finalized, issues, usedFallback := candidate.isNone }, after)
    else if candidate.isNone then .error (reportValidationError "fallback report already exists")
    else .error (reportValidationError "report validation state was changed by another worker")

/-! ## Finalizing the fallback -/

section

variable {pydantic : Pydantic} {python : Python} {publishAt : Day → Instant}
variable {w : Writing} {snapshot : ReportInputSnapshot Json} {body : SnapshotBody}
variable {policy : ReportDayPolicyResult}
variable {generatedAt : Instant} {issues : List ReportValidationIssue}
variable {contentOf : String → SectionContent} {reportId reportVersion : String}
variable {generationId : Option UUID}

/-- The columns of a finalized report. -/
theorem finalizeReport_columns {report finalized : StoredDailyReport Json}
    {issues : List ReportValidationIssue} (h : finalizeReport report issues = .ok finalized) :
    finalized.lifecycleStatus =
        (if isPublishable report issues then .validated else .failed) ∧
      finalized.reportDate = report.reportDate ∧
      finalized.reportVersion = report.reportVersion ∧
      finalized.inputSnapshotId = report.inputSnapshotId ∧
      finalized.generationId = report.generationId := by
  unfold finalizeReport at h
  obtain ⟨publication, -, h⟩ := Raising.bind_ok.mp h
  obtain ⟨start, -, h⟩ := Raising.bind_ok.mp h
  obtain ⟨quality, -, h⟩ := Raising.bind_ok.mp h
  obtain ⟨notice, -, h⟩ := Raising.bind_ok.mp h
  cases h
  exact ⟨rfl, rfl, rfl, rfl, rfl⟩

/-- Every issue finds a list in a valid data quality. -/
theorem addIssues_ok {issues : List ReportValidationIssue} {quality : Json}
    (hissues : ∀ issue ∈ issues, IssueTexts issue)
    (hquality : (ReportDataQuality.modelValidate quality).isSome) :
    ∃ after, issues.foldlM addIssue quality = .ok after := by
  induction issues generalizing quality with
  | nil => exact ⟨quality, rfl⟩
  | cons issue issues ih =>
    obtain ⟨-, -, hbuckets⟩ := dataQuality_isSome.mp hquality
    obtain ⟨items, hitems, -⟩ := listOf_isSome.mp (hbuckets _ (qualityBucket_mem issue.code))
    have hnext : ∃ next, addIssue quality issue = .ok next := by
      have hlist : pyList (quality.get (qualityBucket issue.code) (.arr [])) = .ok items := by
        rw [hitems]
        rfl
      unfold addIssue
      exact ⟨_, Raising.bind_ok.mpr ⟨items, hlist, rfl⟩⟩
    obtain ⟨next, hnext⟩ := hnext
    have hvalid := addIssue_valid (hissues issue List.mem_cons_self) hquality hnext
    obtain ⟨after, hafter⟩ := ih
      (fun other hother => hissues other (List.mem_cons_of_mem _ hother)) hvalid
    refine ⟨after, ?_⟩
    rw [List.foldlM_cons]
    exact Raising.bind_ok.mpr ⟨next, hnext, hafter⟩

/-- A fallback that can be read is finalized. -/
theorem Readable.finalize (h : Readable w pydantic python publishAt snapshot body policy
    generatedAt issues contentOf) :
    ∃ finalized, finalizeReport (fallbackReport python publishAt snapshot reportId reportVersion
      generatedAt generationId issues contentOf) issues = .ok finalized := by
  obtain ⟨quality, hquality⟩ := dataQuality_read h.texts (fallbackStatus issues)
  have hvalid := setStatus_valid (finalStatus (fallbackReport python publishAt snapshot reportId
    reportVersion generatedAt generationId issues contentOf) issues)
      (Option.isSome_iff_exists.mpr ⟨quality, hquality⟩)
  obtain ⟨after, hafter⟩ := addIssues_ok h.texts hvalid
  unfold finalizeReport
  simp only
  exact ⟨_, Raising.bind_ok.mpr ⟨_, rfl, Raising.bind_ok.mpr ⟨_, rfl, Raising.bind_ok.mpr
    ⟨after, hafter, Raising.bind_ok.mpr ⟨_, rfl, rfl⟩⟩⟩⟩⟩

/-- Writing a value into a dict adds no references but those of the value. -/
theorem RefersOnly.set {fieldName key : String} {known : String → Prop}
    {fields : List (String × Json)} {value : Json} (h : RefersOnly fieldName known (.obj fields))
    (hvalue : RefersOnly fieldName known value) (hkey : key ≠ fieldName) :
    RefersOnly fieldName known ((Json.obj fields).set key value) := by
  obtain ⟨hown, hfields⟩ := refersOnly_obj.mp h
  refine refersOnly_obj.mpr ⟨?_, ?_⟩
  · have hget : ((Json.obj fields).set key value).get fieldName = (Json.obj fields).get fieldName := by
      rw [Json.get_set, if_neg hkey]
    have hsame : references? fieldName ((Json.obj fields).set key value) =
        references? fieldName (.obj fields) := by
      unfold references?
      rw [hget]
    obtain ⟨ids, hids, hknown⟩ := hown
    exact ⟨ids, hsame.trans hids, hknown⟩
  · intro field hfield
    rcases mem_of_mem_assign hfield with rfl | hold
    · exact hvalue
    · exact hfields field hold

/-- The notice that is written refers to what the notice referred to. -/
theorem finalNotice_refers {fieldName : String} {known : String → Prop} {status : ReportStatus}
    {notice : List (String × Json)} (h : RefersOnly fieldName known (.obj notice))
    (hfield : fieldName ∉ ["status", "text", "character_count", "issue_codes"]) :
    RefersOnly fieldName known (finalNotice status issues (.obj notice)) := by
  simp only [List.mem_cons, List.not_mem_nil, or_false, not_or] at hfield
  obtain ⟨hstatus, htext, hcount, hcodes⟩ := hfield
  unfold finalNotice
  exact RefersOnly.set (RefersOnly.set (RefersOnly.set
    (h.set (refersOnly_scalar (scalar_str _)) (Ne.symm hstatus))
    (refersOnly_scalar (scalar_str _)) (Ne.symm htext))
    (refersOnly_scalar (scalar_int _)) (Ne.symm hcount)) (refersOnly_strings _) (Ne.symm hcodes)

end

end MacroPlatform.Report
