import MacroPlatform.Report.Card
import MacroPlatform.Report.Fallback

/-! # The candidates of a report

A candidate is what the generation service makes of an answer of the language model, or what the
fallback builder makes of the facts. The answer brings the sections; the rest is written over.

* `validated_deliverable_iff`: which candidates can be delivered once validated.
-/

namespace MacroPlatform.Report

open Daily

variable (pydantic : Pydantic) (python : Python) (publishAt : Day → Instant)
variable (snapshot : ReportInputSnapshot Json)

/-- `_complete_quality`. -/
def completeQuality : Json :=
  .obj (("status", .str "complete") :: qualityBuckets.map fun bucket => (bucket, .arr []))

/-- `_source_references` of the generation service. -/
def readSourceReferences : Except PythonError (List ReportSourceReference) :=
  match (snapshot.payload.get "source_references").toArr? with
  | none => .error (reportGenerationError "input snapshot source_references must be a list")
  | some rawReferences =>
    match rawReferences.mapM (ReportSourceReference.modelValidate pydantic) with
    | none => .error (validationError "ReportSourceReference")
    | some references =>
      match strings? (snapshot.payload.get "source_ref_ids") with
      | none => .error (reportGenerationError "input snapshot source_ref_ids must be strings")
      | some sourceRefIds =>
        if sourceRefIds ≠ references.map (·.sourceRefId) then
          .error (reportGenerationError
            "input snapshot source_ref_ids must exactly match source_references")
        else if ¬ sourceRefIds.Nodup then
          .error (reportGenerationError "input snapshot source_ref_ids must be unique")
        else .ok references

/-- The sources, when there is nothing to raise. -/
def sourceReferences : Option (List ReportSourceReference) :=
  (readSourceReferences pydantic snapshot).toOption

/-- The answer under the defaults, when it has no contract name. -/
def withDefaults (output : Json) : Json :=
  if "contract_name" ∈ output.keys then output
  else
    (Json.obj
      [("contract_name", .str "DailyReport"), ("contract_version", .str "1.0"),
        ("timezone", .str "Asia/Shanghai"), ("schedule", defaultSchedule),
        ("calendar", reportCalendarPayload python (snapshot.payload.get "report_day_policy")
          snapshot.reportDate),
        ("status", output.get "status" (.str "complete")),
        ("data_quality", output.get "data_quality" completeQuality),
        ("sections", output.get "sections" (.obj []))]).update (output.toObj?.getD [])

/-- The fields that are written over those of the answer. -/
def approvedFields (reportId : String) (generatedAt : Instant) : List (String × Json) :=
  [("contract_name", .str "DailyReport"), ("contract_version", .str "1.0"),
    ("report_id", .str reportId), ("report_date", .str (Day.isoformat snapshot.reportDate)),
    ("timezone", .str "Asia/Shanghai"),
    ("calendar", reportCalendarPayload python (snapshot.payload.get "report_day_policy")
      snapshot.reportDate),
    ("generated_at", .str (utcIsoformat generatedAt)),
    ("input_snapshot", inputSnapshotPayload snapshot),
    ("publication", .obj
      [("decision", .str "not_published"), ("reason_code", .str "PENDING_VALIDATION"),
        ("scheduled_publish_at", .str (utcIsoformat (publishAt snapshot.reportDate))),
        ("published_at", .null)])]

/-- The section of the sources of the snapshot. -/
def sourcesSection (sources : List ReportSourceReference) : Json :=
  .obj
    [("section_id", .str "source_references"), ("status", .str "complete"),
      ("character_count", .int 0), ("max_characters", .int 4000), ("text", .null),
      ("fact_ids", .arr []), ("source_ref_ids", .arr []),
      ("items", .arr (sources.map fun source => .obj (source.modelDump pydantic)))]

/-- `_materialize_report`; `none` is an error. -/
def materializeReport (output : Json) (reportId : String) (generatedAt : Instant) :
    Option Json :=
  let output := (withDefaults python snapshot output).update
    (approvedFields python publishAt snapshot reportId generatedAt)
  match output.get "sections" with
  | .obj sections => do
    let sources ← sourceReferences pydantic snapshot
    some (output.set "sections"
      ((Json.obj sections).set "source_references" (sourcesSection pydantic sources)))
  | _ => some output

/-- The candidate of `generate`: the payload satisfies the contract before it is stored. -/
def generatedReport (output : Json) (reportId reportVersion : String) (generatedAt : Instant)
    (generationId : UUID) : Option (StoredDailyReport Json) := do
  let payload ← materializeReport pydantic python publishAt snapshot output reportId generatedAt
  let _ ← DailyReport.modelValidate pydantic payload
  let status ← literal reportStatuses (payload.get "status")
  let decision ← literal publicationDecisions ((payload.get "publication").get "decision")
  let generated ← pydantic.datetime (payload.get "generated_at")
  storedReport pydantic
    { reportId
      reportDate := snapshot.reportDate
      reportVersion
      contractVersion := "1.0"
      inputSnapshotId := snapshot.snapshotId
      status
      publicationDecision := decision
      generatedAt := generated.instant
      payload
      generationId := some generationId }

/-- The candidates of a snapshot. -/
inductive Candidate : StoredDailyReport Json → Prop
  | generated {output reportId reportVersion generatedAt generationId report}
      (h : generatedReport pydantic python publishAt snapshot output reportId reportVersion
        generatedAt generationId = some report) : Candidate report
  | fallback {reportId reportVersion generatedAt generationId report}
      (h : build pydantic python publishAt snapshot reportId reportVersion generatedAt
        generationId = .ok report) : Candidate report

variable {pydantic : Pydantic} {python : Python} {publishAt : Day → Instant}
variable {snapshot : ReportInputSnapshot Json}

/-- A candidate is stored under the identity of its payload. -/
theorem Candidate.identity {report : StoredDailyReport Json}
    (h : Candidate pydantic python publishAt snapshot report) : StoredIdentity report := by
  cases h with
  | generated h =>
    unfold generatedReport at h
    simp only [Option.bind_eq_bind, Option.bind_eq_some_iff] at h
    obtain ⟨payload, -, typed, -, status, -, decision, -, generated, -, hstored⟩ := h
    exact storedReport_identity hstored
  | fallback h =>
    unfold build at h
    obtain ⟨issues, -, h⟩ := Raising.bind_ok.mp h
    obtain ⟨sections, -, h⟩ := Raising.bind_ok.mp h
    exact storedReport_identity (stored_ok.mp h)

/-- A validated report can be delivered exactly when the notice of its candidate has no labels
and room for the new text, and the times of its calendar can be shown. -/
theorem validated_deliverable_iff {report finalized : StoredDailyReport Json}
    {issues : List ReportValidationIssue}
    (hcandidate : Candidate pydantic python publishAt snapshot report)
    (hvalidate : validate pydantic python snapshot report = .ok issues)
    (hfinal : finalizeReport report issues = .ok finalized)
    (hvalidated : finalized.lifecycleStatus = .validated) :
    Deliverable pydantic python finalized ↔ LeavesRoom pydantic python report issues :=
  deliverable_iff hcandidate.identity hvalidate hfinal hvalidated

/-! ### The index with a labelled notice -/

/-- 08:30 of a day in `Asia/Shanghai`. -/
def samplePublishAt (day : Day) : Instant := day * dayMicroseconds + 1800000000

/-- An answer of the sections alone, with this notice. -/
def sampleOutput (notice : String × Json) : Json :=
  .obj [("sections", (samplePayload ["fact-csi300"] indexHighlights notice).get "sections")]

/-- The candidate of that answer. -/
def sampleCandidate (notice : String × Json) : Option (StoredDailyReport Json) :=
  generatedReport .plain .plain samplePublishAt indexSnapshot (sampleOutput notice) "report-1" "v1"
    (20635 * dayMicroseconds + 1200000000) 7

/-- What becomes of a candidate that is found clean. -/
def sampleFinalized (notice : String × Json) :
    Option (StoredDailyReport Json × StoredDailyReport Json) := do
  let report ← sampleCandidate notice
  let issues ← (validate .plain .plain indexSnapshot report).toOption
  guard (issues = [])
  some (report, ← (finalizeReport report []).toOption)

/-- The sample candidate is finalized without an issue. -/
theorem sampleFinalized_some {notice : String × Json} {report finalized : StoredDailyReport Json}
    (h : sampleFinalized notice = some (report, finalized)) :
    Candidate .plain .plain samplePublishAt indexSnapshot report ∧
      validate .plain .plain indexSnapshot report = .ok [] ∧
      finalizeReport report [] = .ok finalized := by
  unfold sampleFinalized at h
  simp only [Option.bind_eq_bind, Option.bind_eq_some_iff, Option.guard_eq_some',
    exists_const] at h
  obtain ⟨candidate, hcandidate, issues, hissues, rfl, after, hafter, heq⟩ := h
  cases heq
  exact ⟨.generated hcandidate, Raising.eq_ok_of_toOption hissues,
    Raising.eq_ok_of_toOption hafter⟩

/-- A notice of a text and a labelled item. -/
def labelledNotice : String × Json :=
  ("data_quality_notice", .obj (textFields
    [("section_id", "data_quality_notice"), ("status", "complete"), ("text", "ok")] ++
    [("character_count", .int 6), ("max_characters", .int 600),
      ("items", .arr [texts [("label", "note")]])]))

/-- The label is counted, and the new notice counts its text alone. -/
theorem labelled_notice_undeliverable : ∃ report issues finalized,
    Candidate .plain .plain samplePublishAt indexSnapshot report ∧
      validate .plain .plain indexSnapshot report = .ok issues ∧
      finalizeReport report issues = .ok finalized ∧ finalized.lifecycleStatus = .validated ∧
      ¬ Deliverable .plain .plain finalized := by
  have hrun : ∃ run ∈ sampleFinalized labelledNotice,
      run.2.lifecycleStatus = .validated ∧
        (DailyReport.modelValidate .plain run.2.payload).isNone = true := by
    decide +kernel
  obtain ⟨⟨report, finalized⟩, hsome, hvalidated, hnone⟩ := hrun
  obtain ⟨hcandidate, hvalidate, hfinal⟩ := sampleFinalized_some hsome
  refine ⟨report, [], finalized, hcandidate, hvalidate, hfinal, hvalidated, ?_⟩
  intro hdeliverable
  obtain ⟨typed, htyped⟩ := hdeliverable.contract
  rw [htyped] at hnone
  cases hnone

/-- The candidate about an index is deliverable. -/
theorem validated_deliverable_iff_index : ∃ report finalized,
    Candidate .plain .plain samplePublishAt indexSnapshot report ∧
      finalizeReport report [] = .ok finalized ∧ Deliverable .plain .plain finalized := by
  have hrun : ∃ run ∈ sampleFinalized (sampleSection "data_quality_notice" "ok" 600),
      run.2.lifecycleStatus = .validated ∧
        (∃ notice ∈ noticeOf .plain run.1.payload,
          NoticeFits (qualityNotice .degraded []) notice) ∧
        ∀ typed ∈ DailyReport.modelValidate .plain run.1.payload,
          CalendarFits .plain typed.calendarItems := by
    decide +kernel
  obtain ⟨⟨report, finalized⟩, hsome, hvalidated, hnotice, hcalendar⟩ := hrun
  obtain ⟨hcandidate, hvalidate, hfinal⟩ := sampleFinalized_some hsome
  exact ⟨report, finalized, hcandidate, hfinal,
    (validated_deliverable_iff hcandidate hvalidate hfinal hvalidated).mpr ⟨hnotice, hcalendar⟩⟩

end MacroPlatform.Report
