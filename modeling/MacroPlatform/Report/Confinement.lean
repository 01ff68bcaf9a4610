import MacroPlatform.Report.Generate

/-! # What the language model cannot decide

Of the payload that is stored, the id, the date, the snapshot, the calendar, the publication and
the sources are written by the services, whatever the model answers; and only a report that
validation finds no error in is published.

* `Confined`: what of a stored report the services alone have written;
* `triple_generationAttempts`: the attempts ask the model as often as they may;
* `generateReport_safe`: over every behaviour of the model.
-/

namespace MacroPlatform.Report

open Daily Process

variable {pydantic : Pydantic} {python : Python} {publishAt : Day → Instant}
variable {snapshot : ReportInputSnapshot Json} {request : GenerationRequest}

/-! ## The fields of the services -/

/-- A publication with the times of the snapshot. -/
def publicationWith (publishAt : Day → Instant) (snapshot : ReportInputSnapshot Json)
    (decision reasonCode : Json) : Json :=
  .obj [("decision", decision), ("reason_code", reasonCode),
    ("scheduled_publish_at", .str (utcIsoformat (publishAt snapshot.reportDate))),
    ("published_at", .null)]

/-- The publication of a report, by its lifecycle. -/
def publicationOf (publishAt : Day → Instant) (snapshot : ReportInputSnapshot Json) :
    ReportLifecycleStatus → Json
  | .validated => publicationWith publishAt snapshot (.str "published") .null
  | .failed => publicationWith publishAt snapshot (.str "not_published") (.str "VALIDATION_FAILED")
  | _ => publicationWith publishAt snapshot (.str "not_published") (.str "PENDING_VALIDATION")

/-- The section of the sources in the fallback of a snapshot. -/
def fallbackSources (python : Python) (snapshot : ReportInputSnapshot Json) : Json :=
  match (do
    let issues ← qualityIssues python snapshot
    fallbackSections python snapshot (fallbackStatus issues) issues) with
  | .ok sections => (Json.obj sections).get "source_references"
  | .error _ => .null

/-- The section of the sources that the services write. -/
def approvedSources (pydantic : Pydantic) (python : Python) (snapshot : ReportInputSnapshot Json)
    (usedFallback : Bool) : Json :=
  if usedFallback then fallbackSources python snapshot
  else sourcesSection pydantic ((sourceReferences pydantic snapshot).getD [])

/-- A payload whose fields are those of the services. -/
structure Approved (pydantic : Pydantic) (python : Python) (publishAt : Day → Instant)
    (snapshot : ReportInputSnapshot Json) (request : GenerationRequest) (usedFallback : Bool)
    (payload : Json) : Prop where
  reportId : payload.get "report_id" = .str request.reportId
  reportDate : payload.get "report_date" = .str (Day.isoformat snapshot.reportDate)
  inputSnapshot : payload.get "input_snapshot" = inputSnapshotPayload snapshot
  calendar : payload.get "calendar" =
    reportCalendarPayload python (snapshot.payload.get "report_day_policy") snapshot.reportDate
  publication : ∃ decision reasonCode,
    payload.get "publication" = publicationWith publishAt snapshot decision reasonCode
  sources : (payload.get "sections").get "source_references" =
    approvedSources pydantic python snapshot usedFallback

/-- A report that says what the services say. -/
structure Confined (pydantic : Pydantic) (python : Python) (publishAt : Day → Instant)
    (snapshot : ReportInputSnapshot Json) (request : GenerationRequest) (usedFallback : Bool)
    (report : StoredDailyReport Json) : Prop where
  approved : Approved pydantic python publishAt snapshot request usedFallback report.payload
  reportId : report.reportId = request.reportId
  reportDate : report.reportDate = snapshot.reportDate
  inputSnapshotId : report.inputSnapshotId = snapshot.snapshotId
  publication : report.payload.get "publication" =
    publicationOf publishAt snapshot report.lifecycleStatus
  decision : report.publicationDecision =
    if report.lifecycleStatus = .validated then .published else .notPublished

/-! ### A draft -/

/-- What is written over an answer. -/
theorem approvedFields_get (output : Json) (reportId : String) (generatedAt : Instant) :
    let payload := output.update (approvedFields python publishAt snapshot reportId generatedAt)
    payload.get "report_id" = .str reportId ∧
      payload.get "report_date" = .str (Day.isoformat snapshot.reportDate) ∧
      payload.get "input_snapshot" = inputSnapshotPayload snapshot ∧
      payload.get "calendar" = reportCalendarPayload python
        (snapshot.payload.get "report_day_policy") snapshot.reportDate ∧
      payload.get "publication" = publicationOf publishAt snapshot .generated := by
  simp only [approvedFields, Json.update, List.foldl_cons, List.foldl_nil, Json.get_set]
  exact ⟨rfl, rfl, rfl, rfl, rfl⟩

theorem nodup_keys_withDefaults {output : List (String × Json)}
    (h : (output.map Prod.fst).Nodup) :
    (withDefaults python snapshot (.obj output)).keys.Nodup := by
  unfold withDefaults
  split
  · exact h
  · refine Json.nodup_keys_update ?_ _
    show ["contract_name", "contract_version", "timezone", "schedule", "calendar", "status",
      "data_quality", "sections"].Nodup
    decide

/-- The draft of an answer is approved, when it satisfies the contract. -/
theorem materializeReport_approved {response : LlmResponse} {generatedAt : Instant}
    {payload : Json} {typed : DailyReport pydantic}
    (h : materializeReport pydantic python publishAt snapshot (.obj response.structuredOutput)
      request.reportId generatedAt = some payload)
    (htyped : DailyReport.modelValidate pydantic payload = some typed) :
    Approved pydantic python publishAt snapshot request false payload ∧
      payload.get "publication" = publicationOf publishAt snapshot .generated ∧
      payload.keys.Nodup := by
  have hgets := @approvedFields_get python publishAt snapshot
    (withDefaults python snapshot (.obj response.structuredOutput)) request.reportId generatedAt
  have hnodup := Json.nodup_keys_update
    (@nodup_keys_withDefaults python snapshot _ response.keys)
    (approvedFields python publishAt snapshot request.reportId generatedAt)
  rcases ReportFields.read_some.mp (DailyReport.modelValidate_some.mp htyped) with
    ⟨-, -, -, -, -, -, -, -, -, -, -, -, -, hsections⟩
  unfold materializeReport at h
  simp only at h hgets
  generalize (withDefaults python snapshot (.obj response.structuredOutput)).update
    (approvedFields python publishAt snapshot request.reportId generatedAt) = written at *
  rcases hgets with ⟨hid, hdate, hsnapshot, hcalendar, hpublication⟩
  cases hwritten : written.get "sections" with
  | obj sections =>
    rw [hwritten] at h
    rcases Option.bind_eq_some_iff.mp h with ⟨sources, hsources, hpayload⟩
    cases hpayload
    have hkept : ∀ key, "sections" ≠ key →
        (written.set "sections" ((Json.obj sections).set "source_references"
          (sourcesSection pydantic sources))).get key = written.get key := by
      intro key hkey
      rw [Json.get_set, if_neg hkey]
    have hdecided := (hkept "publication" (by decide)).trans hpublication
    refine ⟨⟨?_, ?_, ?_, ?_, ⟨_, _, hdecided⟩, ?_⟩, hdecided, Json.nodup_keys_set hnodup _ _⟩
    · exact (hkept "report_id" (by decide)).trans hid
    · exact (hkept "report_date" (by decide)).trans hdate
    · exact (hkept "input_snapshot" (by decide)).trans hsnapshot
    · exact (hkept "calendar" (by decide)).trans hcalendar
    · rw [Json.get_set, if_pos rfl, Json.get_set, if_pos rfl]
      unfold approvedSources
      rw [if_neg Bool.false_ne_true, hsources, Option.getD_some]
  | _ =>
    -- sections that are no dict do not satisfy the contract
    rw [hwritten] at h
    cases h
    rw [hwritten] at hsections
    cases hsections

/-- What the stored contract keeps of a report. -/
theorem storedReport_fields {given report : StoredDailyReport Json}
    (h : storedReport pydantic given = some report) :
    strippedDict given.payload = some report.payload ∧ PayloadIdentity pydantic report ∧
      report.reportDate = given.reportDate ∧ report.lifecycleStatus = given.lifecycleStatus ∧
      report.publicationDecision = given.publicationDecision := by
  unfold storedReport at h
  simp only [Option.bind_eq_bind, Option.bind_eq_some_iff] at h
  rcases h with ⟨reportId, -, version, -, contract, -, snapshotId, -, payload, hpayload, hreport⟩
  split at hreport
  · rename_i hidentity
    cases hreport
    exact ⟨hpayload, hidentity, rfl, rfl, rfl⟩
  · cases hreport

/-- The keys of a valid payload have no space around them. -/
theorem strippedDict_valid {payload : Json} {typed : DailyReport pydantic}
    (htyped : DailyReport.modelValidate pydantic payload = some typed)
    (hnodup : payload.keys.Nodup) : strippedDict payload = some payload := by
  rcases ReportFields.read_some.mp (DailyReport.modelValidate_some.mp htyped) with
    ⟨hkeys, hname, -, -, -, -, -, -, -, -, -, -, -, -⟩
  have hstripped : ∀ key ∈ ["contract_name", "contract_version", "report_id", "report_date",
      "timezone", "schedule", "calendar", "generated_at", "input_snapshot", "status",
      "publication", "data_quality", "sections"], modelStrip key = key := by
    decide +kernel
  cases payload with
  | obj fields => exact strippedDict_obj hnodup fun key hkey => hstripped key (hkeys key hkey)
  | _ => cases hname

/-- The columns of a report repeat its payload. -/
theorem confined_of_stored {given report : StoredDailyReport Json} {usedFallback : Bool}
    (h : storedReport pydantic given = some report)
    (hstripped : strippedDict given.payload = some given.payload)
    (happroved : Approved pydantic python publishAt snapshot request usedFallback given.payload)
    (hdate : given.reportDate = snapshot.reportDate) :
    Approved pydantic python publishAt snapshot request usedFallback report.payload ∧
      report.reportId = request.reportId ∧ report.reportDate = snapshot.reportDate ∧
      report.inputSnapshotId = snapshot.snapshotId := by
  rcases storedReport_fields h with ⟨hpayload, hidentity, hreportDate, -, -⟩
  rw [hstripped, Option.some.injEq] at hpayload
  rw [hpayload] at happroved
  have hid := hidentity.reportId
  have hsnapshotId := hidentity.snapshotId
  rw [happroved.reportId] at hid
  rw [happroved.inputSnapshot] at hsnapshotId
  exact ⟨happroved, (Option.some.inj hid).symm, hreportDate.trans hdate,
    (Option.some.inj hsnapshotId).symm⟩

/-- A draft that can be stored is confined. -/
theorem draftReport_confined {attemptNo : ℕ} {answer : LlmAnswer} {payload : Json}
    {report : StoredDailyReport Json}
    (hpayload : draftPayload pydantic python publishAt request snapshot attemptNo answer =
      .ok payload)
    (h : draftReport pydantic request snapshot payload = some report) :
    Confined pydantic python publishAt snapshot request false report ∧
      report.lifecycleStatus = .generated ∧
      Candidate pydantic python publishAt snapshot report := by
  -- an answer that does not satisfy its schema or its contract is no draft
  unfold draftPayload at hpayload
  rcases Raising.bind_ok.mp hpayload with ⟨response, -, hpayload⟩
  split at hpayload
  · cases hpayload
  · rename_i materialized hmaterialized
    split at hpayload
    · cases hpayload
    · rename_i typed htyped
      cases hpayload
      rcases materializeReport_approved hmaterialized htyped with
        ⟨happroved, hpublication, hnodup⟩
      have hgenerated : generatedReport pydantic python publishAt snapshot
          (.obj response.structuredOutput) request.reportId request.reportVersion
            (request.generatedAt attemptNo) request.generationId = some report := by
        unfold generatedReport
        rw [hmaterialized]
        simp only [Option.bind_eq_bind, Option.bind_some, htyped]
        exact h
      unfold draftReport at h
      simp only [Option.bind_eq_bind, Option.bind_eq_some_iff] at h
      -- the columns of the stored draft are those of its payload
      rcases h with ⟨status, -, decision, hdecision, generated, -, hstored⟩
      have hstripped := strippedDict_valid htyped hnodup
      rcases confined_of_stored hstored hstripped happroved rfl with
        ⟨happroved', hid, hdate, hsnapshotId⟩
      rcases storedReport_fields hstored with ⟨hsame, hidentity, -, hlifecycle, hdecided⟩
      rw [hstripped, Option.some.injEq] at hsame
      have hnot : decision = .notPublished := by
        rw [hpublication] at hdecision
        exact (Option.some.inj hdecision).symm
      refine ⟨⟨happroved', hid, hdate, hsnapshotId, ?_, ?_⟩, hlifecycle, .generated hgenerated⟩
      · rw [← hsame, hlifecycle]
        exact hpublication
      · rw [hdecided, hlifecycle]
        exact hnot

/-! ### After validation -/

theorem pyDict_ok {value dict : Json} (h : pyDict value = .ok dict) : dict = value := by
  unfold pyDict at h
  split at h
  · cases h
    rfl
  · cases h

/-- What finalization leaves of a payload. -/
theorem finalizeReport_payload {report finalized : StoredDailyReport Json}
    {issues : List ReportValidationIssue} (h : finalizeReport report issues = .ok finalized) :
    (∀ key, key ∉ ["status", "publication", "data_quality", "sections"] →
      finalized.payload.get key = report.payload.get key) ∧
    finalized.payload.get "publication" = finalPublication (isPublishable report issues)
      (report.payload.get "publication" (.obj [])) ∧
    (∃ notice, finalized.payload.get "sections" =
      (report.payload.get "sections" (.obj [])).set "data_quality_notice" notice) ∧
    finalized.reportId = report.reportId ∧ finalized.publicationDecision =
      if isPublishable report issues then .published else .notPublished := by
  -- the payload is updated under four keys, one after another
  unfold finalizeReport at h
  rcases Raising.bind_ok.mp h with ⟨publication, hpublication, h⟩
  rcases Raising.bind_ok.mp h with ⟨start, -, h⟩
  rcases Raising.bind_ok.mp h with ⟨quality, -, h⟩
  rcases Raising.bind_ok.mp h with ⟨notice, -, h⟩
  cases h
  refine ⟨?_, ?_, ⟨finalNotice (finalStatus report issues) issues notice, ?_⟩, rfl, rfl⟩
  -- the other keys are not touched
  · intro key hkey
    simp only [List.mem_cons, List.not_mem_nil, or_false, not_or] at hkey
    rcases hkey with ⟨hstatus, hpublished, hquality, hsections⟩
    rw [Json.get_set, if_neg (Ne.symm hsections), Json.get_set, if_neg (Ne.symm hquality),
      Json.get_set, if_neg (Ne.symm hpublished), Json.get_set, if_neg (Ne.symm hstatus)]
  · rw [Json.get_set, if_neg (by decide), Json.get_set, if_neg (by decide), Json.get_set,
      if_pos rfl, pyDict_ok hpublication]
  · rw [Json.get_set, if_pos rfl]

/-- Finalization decides the publication, and nothing else that is approved. -/
theorem finalizeReport_confined {report finalized : StoredDailyReport Json}
    {issues : List ReportValidationIssue} {usedFallback : Bool}
    (h : finalizeReport report issues = .ok finalized)
    (happroved : Approved pydantic python publishAt snapshot request usedFallback report.payload)
    (hid : report.reportId = request.reportId) (hdate : report.reportDate = snapshot.reportDate)
    (hsnapshotId : report.inputSnapshotId = snapshot.snapshotId) :
    Confined pydantic python publishAt snapshot request usedFallback finalized := by
  rcases finalizeReport_payload h with ⟨hkept, hpublication, ⟨notice, hsections⟩, hid', hdecision⟩
  rcases finalizeReport_columns h with ⟨hlifecycle, hdate', -, hsnapshotId', -⟩
  rcases happroved.publication with ⟨decision, reasonCode, hwas⟩
  have hpublicationNull : report.payload.get "publication" ≠ .null := by
    rw [hwas]
    nofun
  rw [get_default_of_ne_null hpublicationNull, hwas] at hpublication
  have hdecided : finalized.payload.get "publication" =
      publicationOf publishAt snapshot finalized.lifecycleStatus := by
    rw [hpublication, hlifecycle]
    cases isPublishable report issues <;> rfl
  have hsources : (finalized.payload.get "sections").get "source_references" =
      approvedSources pydantic python snapshot usedFallback := by
    rw [hsections, Json.get_set, if_neg (by decide), ← happroved.sources]
    rcases report.payload.get_default "sections" (.obj []) with hsame | ⟨hnull, hempty⟩
    · rw [hsame]
    · rw [hnull, hempty]
      rfl
  exact
    { approved :=
        { reportId := (hkept _ (by decide)).trans happroved.reportId
          reportDate := (hkept _ (by decide)).trans happroved.reportDate
          inputSnapshot := (hkept _ (by decide)).trans happroved.inputSnapshot
          calendar := (hkept _ (by decide)).trans happroved.calendar
          publication := by
            rw [hdecided]
            cases finalized.lifecycleStatus <;> exact ⟨_, _, rfl⟩
          sources := hsources }
      reportId := hid'.trans hid
      reportDate := hdate'.trans hdate
      inputSnapshotId := hsnapshotId'.trans hsnapshotId
      publication := hdecided
      decision := by
        rw [hdecision, hlifecycle]
        cases isPublishable report issues <;> rfl }

/-- The fallback does not depend on the model at all. -/
theorem build_approved {generatedAt : Instant} {generationId : Option UUID}
    {report : StoredDailyReport Json}
    (h : build pydantic python publishAt snapshot request.reportId request.reportVersion
      generatedAt generationId = .ok report) :
    Approved pydantic python publishAt snapshot request true report.payload ∧
      report.reportId = request.reportId ∧ report.reportDate = snapshot.reportDate ∧
      report.inputSnapshotId = snapshot.snapshotId := by
  unfold build at h
  rcases Raising.bind_ok.mp h with ⟨issues, hissues, h⟩
  rcases Raising.bind_ok.mp h with ⟨sections, hsections, h⟩
  have hstored := stored_ok.mp h
  refine confined_of_stored hstored (strippedDict_payload _ _ _ _) ?_ rfl
  have hsources : fallbackSources python snapshot = (Json.obj sections).get "source_references" := by
    have hrun : (do
        let issues ← qualityIssues python snapshot
        fallbackSections python snapshot (fallbackStatus issues) issues) = .ok sections :=
      Raising.bind_ok.mpr ⟨issues, hissues, hsections⟩
    unfold fallbackSources
    rw [hrun]
  exact
    { reportId := rfl
      reportDate := rfl
      inputSnapshot := rfl
      calendar := rfl
      publication := ⟨_, _, rfl⟩
      sources := hsources.symm }

/-! ## The rows -/

/-- A report that is put is added, or was there. -/
theorem putReport_ok {report : StoredDailyReport Json} {tables after : ReportTables}
    {inserted : Bool} (h : putReport pydantic report tables = .ok (inserted, after)) :
    (inserted = true ∧ after.reports = tables.reports ++ [report] ∧
      ∀ existing ∈ tables.reports, conflicts report existing = false) ∨
    inserted = false ∧ after = tables := by
  unfold putReport at h
  split at h
  -- a snapshot that is not there, or a payload that is not valid, raises
  · cases h
  · split at h
    · cases h
    · rcases Raising.bind_ok.mp h with ⟨-, -, h⟩
      split at h
      -- a report that conflicts is compared with the stored one
      · split at h
        · cases h
        · split at h
          · cases h
            exact Or.inr ⟨rfl, rfl⟩
          · cases h
      -- a report that does not is inserted
      · rename_i hfree
        split at h
        · cases h
        · split at h
          · cases h
          · cases h
            refine Or.inl ⟨rfl, rfl, ?_⟩
            intro existing hexisting
            by_contra hconflict
            exact hfree (List.any_eq_true.mpr ⟨existing, hexisting, by simpa using hconflict⟩)

/-- The parts of a validation that returns. -/
theorem validateOrFallback_ok {validation : ValidationRequest}
    {candidate : Option (StoredDailyReport Json)} {tables after : ReportTables}
    {result : ReportValidationServiceResult}
    (h : validateOrFallback pydantic python publishAt validation candidate tables =
      .ok (result, after)) :
    ∃ loaded report issues, tables.loadInputSnapshot validation.snapshotId = some loaded ∧
      reportOf pydantic python publishAt validation loaded candidate = .ok report ∧
      validate pydantic python loaded report = .ok issues ∧
      finalizeReport report issues = .ok result.report ∧
      storeFinalized pydantic result.report tables candidate = .ok (true, after) := by
  -- every exception of the service leaves no result
  unfold validateOrFallback at h
  split at h
  · cases h
  · rename_i loaded hloaded
    rcases Raising.bind_ok.mp h with ⟨report, hreport, h⟩
    rcases Raising.bind_ok.mp h with ⟨issues, hissues, h⟩
    rcases Raising.bind_ok.mp h with ⟨finalized, hfinal, h⟩
    rcases Raising.bind_ok.mp h with ⟨⟨stored, written⟩, hstored, h⟩
    simp only at h
    split at h
    · rename_i htrue
      cases h
      rw [htrue] at hstored
      exact ⟨loaded, report, issues, hloaded, hreport, hissues, hfinal, hstored⟩
    · split at h <;> cases h

/-- The row of a report becomes what finalization returns. -/
theorem validatedRow_finalized {report finalized : StoredDailyReport Json}
    {issues : List ReportValidationIssue} (h : finalizeReport report issues = .ok finalized) :
    validatedRow finalized report.lifecycleStatus report = finalized := by
  unfold finalizeReport at h
  rcases Raising.bind_ok.mp h with ⟨publication, -, h⟩
  rcases Raising.bind_ok.mp h with ⟨start, -, h⟩
  rcases Raising.bind_ok.mp h with ⟨quality, -, h⟩
  rcases Raising.bind_ok.mp h with ⟨notice, -, h⟩
  cases h
  unfold validatedRow
  rw [if_pos ⟨rfl, rfl⟩]

/-- The other rows stay. -/
theorem validatedRow_other {report finalized existing : StoredDailyReport Json}
    {expected : ReportLifecycleStatus} (hid : finalized.reportId = report.reportId)
    (h : conflicts report existing = false) :
    validatedRow finalized expected existing = existing := by
  unfold validatedRow
  refine if_neg ?_
  rintro ⟨hsame, -⟩
  unfold conflicts at h
  rw [decide_eq_false_iff_not, not_or] at h
  exact h.1 (hsame.trans hid)

/-- An attempt that is inserted leaves the snapshots and the reports. -/
theorem insertAttempt_ok {attempt : ReportGenerationAttempt} {tables after : GenerationTables}
    {inserted : Bool} (h : insertAttempt attempt tables = .ok inserted after) :
    after.snapshots = tables.snapshots ∧ after.reports = tables.reports := by
  unfold insertAttempt at h
  split at h
  · split at h
    · cases h
    · split at h
      · cases h
      · cases h
        exact ⟨rfl, rfl⟩
  · cases h
    exact ⟨rfl, rfl⟩

theorem updateAttempt_ok {attempt : ReportGenerationAttempt} {tables after : GenerationTables}
    (h : updateAttempt attempt tables = .ok ⟨⟩ after) :
    after.snapshots = tables.snapshots ∧ after.reports = tables.reports := by
  unfold updateAttempt at h
  split at h
  · cases h
    exact ⟨rfl, rfl⟩
  · cases h

theorem onReports_ok {α : Type} {body : ReportTables → Except PythonError (α × ReportTables)}
    {tables after : GenerationTables} {a : α} (h : onReports body tables = .ok a after) :
    ∃ written, body tables.reportTables = .ok (a, written) ∧
      after.snapshots = tables.snapshots ∧ after.reports = written.reports := by
  unfold onReports at h
  split at h
  · rename_i b written hbody
    cases h
    exact ⟨written, hbody, rfl, rfl⟩
  · cases h

/-! ## A run -/

/-- A property of the reports, whatever the attempts are. -/
def OfReports (P : GenerationTables → List LlmAnswer → Prop) : Prop :=
  ∀ tables after calls, after.snapshots = tables.snapshots → after.reports = tables.reports →
    P tables calls → P after calls

variable {before : GenerationTables} {asked : List LlmAnswer}

/-- The model was asked this often at most. -/
def AskedAtMost (asked : List LlmAnswer) (k : ℕ) (calls : List LlmAnswer) : Prop :=
  ∃ answers, calls = asked ++ answers ∧ answers.length ≤ k

theorem AskedAtMost.mono {k n : ℕ} {calls : List LlmAnswer} (h : AskedAtMost asked k calls)
    (hle : k ≤ n) : AskedAtMost asked n calls := by
  rcases h with ⟨answers, hcalls, hlength⟩
  exact ⟨answers, hcalls, hlength.trans hle⟩

theorem AskedAtMost.next {k : ℕ} {calls : List LlmAnswer} (h : AskedAtMost asked k calls)
    (answer : LlmAnswer) : AskedAtMost asked (k + 1) (calls ++ [answer]) := by
  rcases h with ⟨answers, rfl, hlength⟩
  refine ⟨answers ++ [answer], List.append_assoc _ _ _, ?_⟩
  rw [List.length_append, List.length_singleton]
  omega

/-- No report is stored yet. -/
def Asking (before : GenerationTables) (asked : List LlmAnswer) (k : ℕ)
    (tables : GenerationTables) (calls : List LlmAnswer) : Prop :=
  (tables.snapshots = before.snapshots ∧ tables.reports = before.reports) ∧
    AskedAtMost asked k calls

/-- One report is stored. -/
def Inserted (before : GenerationTables) (asked : List LlmAnswer) (k : ℕ)
    (row : StoredDailyReport Json) (tables : GenerationTables) (calls : List LlmAnswer) : Prop :=
  (tables.snapshots = before.snapshots ∧ tables.reports = before.reports ++ [row]) ∧
    AskedAtMost asked k calls

theorem ofReports_asking {k : ℕ} : OfReports (Asking before asked k) := by
  rintro tables after calls hsnapshots hreports ⟨⟨hsame, hrows⟩, hasked⟩
  exact ⟨⟨hsnapshots.trans hsame, hreports.trans hrows⟩, hasked⟩

theorem ofReports_inserted {k : ℕ} {row : StoredDailyReport Json} :
    OfReports (Inserted before asked k row) := by
  rintro tables after calls hsnapshots hreports ⟨⟨hsame, hrows⟩, hasked⟩
  exact ⟨⟨hsnapshots.trans hsame, hreports.trans hrows⟩, hasked⟩

/-- A report that the validation service returns for a candidate. -/
def PassedThrough (pydantic : Pydantic) (python : Python) (publishAt : Day → Instant)
    (snapshot : ReportInputSnapshot Json) (report : StoredDailyReport Json) : Prop :=
  ∃ candidate issues, Candidate pydantic python publishAt snapshot candidate ∧
    validate pydantic python snapshot candidate = .ok issues ∧
    finalizeReport candidate issues = .ok report ∧
    (report.publicationDecision = .published →
      (∀ issue ∈ issues, issue.severity ≠ .error) ∧ report.lifecycleStatus = .validated)

/-- A candidate that is finalized has passed through the validator. -/
theorem passedThrough_of_finalized {candidate report : StoredDailyReport Json}
    {issues : List ReportValidationIssue}
    (hcandidate : Candidate pydantic python publishAt snapshot candidate)
    (hissues : validate pydantic python snapshot candidate = .ok issues)
    (hfinal : finalizeReport candidate issues = .ok report) :
    PassedThrough pydantic python publishAt snapshot report := by
  refine ⟨candidate, issues, hcandidate, hissues, hfinal, ?_⟩
  intro hpublished
  rcases finalizeReport_payload hfinal with ⟨-, -, -, -, hdecision⟩
  rcases finalizeReport_columns hfinal with ⟨hlifecycle, -, -, -, -⟩
  cases hpublishable : isPublishable candidate issues with
  | false =>
    rw [hdecision, hpublishable] at hpublished
    cases hpublished
  | true =>
    unfold isPublishable at hpublishable
    rw [hlifecycle]
    unfold isPublishable
    exact ⟨(of_decide_eq_true hpublishable).1, if_pos hpublishable⟩

/-- What a run leaves when it does not return: at most one report more. -/
def Left (pydantic : Pydantic) (python : Python) (publishAt : Day → Instant)
    (snapshot : ReportInputSnapshot Json) (request : GenerationRequest)
    (before : GenerationTables) (asked : List LlmAnswer) (k : ℕ)
    (tables : GenerationTables) (calls : List LlmAnswer) : Prop :=
  Asking before asked k tables calls ∨ ∃ usedFallback row,
    Confined pydantic python publishAt snapshot request usedFallback row ∧
      Inserted before asked k row tables calls

/-- What a run returns. -/
def Returned (pydantic : Pydantic) (python : Python) (publishAt : Day → Instant)
    (snapshot : ReportInputSnapshot Json) (request : GenerationRequest)
    (before : GenerationTables) (asked : List LlmAnswer) (k : ℕ)
    (result : ReportGenerationResult Json) (tables : GenerationTables)
    (calls : List LlmAnswer) : Prop :=
  (result.attempt.lifecycleStatus = .generated ∨ result.attempt.lifecycleStatus = .failed) ∧
  match result.report with
  | none => Asking before asked k tables calls
  | some report => ∃ usedFallback,
    Confined pydantic python publishAt snapshot request usedFallback report ∧
      PassedThrough pydantic python publishAt snapshot report ∧
      Inserted before asked k report tables calls

section

variable {P E : GenerationTables → List LlmAnswer → Prop} {attempt : ReportGenerationAttempt}

theorem triple_updateAttempt (hP : OfReports P) :
    Triple P (commit (updateAttempt attempt) : Generating PUnit) (fun _ => P) P := by
  refine triple_commit ?_ fun _ _ h => h
  intro tables calls _ after hkeep hok
  rcases updateAttempt_ok hok with ⟨hsnapshots, hreports⟩
  exact hP tables after calls hsnapshots hreports hkeep

theorem triple_failGeneration (hP : OfReports P) (errorCode : String) :
    Triple P (failGeneration attempt errorCode)
      (fun failed tables calls => P tables calls ∧ failed.lifecycleStatus = .failed) P := by
  unfold failGeneration
  exact triple_bind (triple_updateAttempt hP) fun _ => triple_pure fun _ _ h => ⟨h, rfl⟩

theorem triple_numberGeneration (hP : OfReports P) (attemptNo : ℕ) :
    Triple P (numberGeneration attempt attemptNo) (fun _ => P) P := by
  unfold numberGeneration
  split
  · exact triple_bind (triple_updateAttempt hP) fun _ => triple_pure fun _ _ h => h
  · exact triple_pure fun _ _ h => h

theorem triple_reserveAttempt (hP : OfReports P) :
    Triple P (reserveAttempt attempt) (fun _ => P) P := by
  unfold reserveAttempt
  refine triple_bind (Q := fun _ => P) (triple_commit ?_ fun _ _ h => h) ?_
  · intro tables calls _ after hkeep hok
    rcases insertAttempt_ok hok with ⟨hsnapshots, hreports⟩
    exact hP tables after calls hsnapshots hreports hkeep
  · intro inserted
    cases inserted with
    | true => exact triple_pure fun _ _ h => h
    | false => exact triple_raise fun _ _ h => h

/-- The validation service, from what it finds to what it returns. -/
theorem triple_validating {candidate : Option (StoredDailyReport Json)} {first : Generating PUnit}
    {text : String} {Q : ReportValidationServiceResult → GenerationTables → List LlmAnswer → Prop}
    (hbody : ∀ tables calls result after, P tables calls →
      onReports (validateOrFallback pydantic python publishAt (validationRequest request snapshot)
        candidate) tables = .ok result after → Q result after calls)
    (hfirst : Triple P first (fun _ => P) P) :
    Triple P (validating pydantic python publishAt request snapshot candidate first text) Q P := by
  unfold validating
  refine triple_catching (triple_commit hbody fun _ _ h => h) ?_
  intro e
  split
  · exact triple_bind hfirst fun _ => triple_raise fun _ _ h => h
  · exact triple_raise fun _ _ h => h

end

/-- A stored draft, with the rows that it did not meet. -/
structure Drafted (pydantic : Pydantic) (python : Python) (publishAt : Day → Instant)
    (snapshot : ReportInputSnapshot Json) (request : GenerationRequest)
    (before : GenerationTables) (draft : StoredDailyReport Json) : Prop where
  confined : Confined pydantic python publishAt snapshot request false draft
  lifecycle : draft.lifecycleStatus = .generated
  candidate : Candidate pydantic python publishAt snapshot draft
  free : ∀ existing ∈ before.reports, conflicts draft existing = false

variable {k : ℕ}

/-- Storing a draft adds the draft, and asks the model nothing. -/
theorem triple_storeDraftReport {payload : Json} {attemptNo : ℕ} {answer : LlmAnswer}
    (hpayload : draftPayload pydantic python publishAt request snapshot attemptNo answer =
      .ok payload) :
    Triple (Asking before asked k) (storeDraftReport pydantic request snapshot payload)
      (fun result tables calls => match result with
        | .ok draft => Drafted pydantic python publishAt snapshot request before draft ∧
            Inserted before asked k draft tables calls
        | .error _ => Asking before asked k tables calls)
      (Asking before asked k) := by
  -- a draft that is stored, one that is not, or an exception that is caught
  unfold storeDraftReport
  refine triple_catching ?_ ?_
  · cases hdraft : draftReport pydantic request snapshot payload with
    | none => exact triple_raise fun _ _ h => h
    | some draft =>
      rcases draftReport_confined hpayload hdraft with ⟨hconfined, hlifecycle, hcandidate⟩
      refine triple_bind (Q := fun inserted tables calls =>
        if inserted then Drafted pydantic python publishAt snapshot request before draft ∧
          Inserted before asked k draft tables calls
        else Asking before asked k tables calls) (triple_commit ?_ fun _ _ h => h) ?_
      -- the commit inserts the row, or finds it there
      · rintro tables calls inserted after ⟨⟨hsnapshots, hreports⟩, hasked⟩ hok
        rcases onReports_ok hok with ⟨written, hput, hsnapshots', hreports'⟩
        rcases putReport_ok hput with ⟨rfl, hrows, hfree⟩ | ⟨rfl, hsame⟩
        · rw [if_pos rfl]
          refine ⟨⟨hconfined, hlifecycle, hcandidate, ?_⟩,
            ⟨hsnapshots'.trans hsnapshots, ?_⟩, hasked⟩
          · intro existing hexisting
            refine hfree existing ?_
            show existing ∈ tables.reports
            rw [hreports]
            exact hexisting
          · rw [hreports', hrows]
            show tables.reports ++ [draft] = _
            rw [hreports]
        · rw [if_neg Bool.false_ne_true]
          refine ⟨⟨hsnapshots'.trans hsnapshots, ?_⟩, hasked⟩
          rw [hreports', hsame]
          exact hreports
      · intro inserted
        cases inserted with
        | true => exact triple_pure fun _ _ h => h
        | false => exact triple_pure fun _ _ h => h
  · intro e
    split
    -- only the error of a draft is caught
    · exact triple_pure fun _ _ h => h
    · exact triple_raise fun _ _ h => h

/-- The snapshot is found again. -/
theorem loadInputSnapshot_again {tables : GenerationTables} {loaded : ReportInputSnapshot Json}
    (hloaded : before.reportTables.loadInputSnapshot snapshot.snapshotId = some snapshot)
    (hsnapshots : tables.snapshots = before.snapshots)
    (h : tables.reportTables.loadInputSnapshot snapshot.snapshotId = some loaded) :
    loaded = snapshot := by
  have hsame : tables.reportTables.loadInputSnapshot snapshot.snapshotId =
      before.reportTables.loadInputSnapshot snapshot.snapshotId := by
    show List.find? _ tables.snapshots = List.find? _ before.snapshots
    rw [hsnapshots]
  rw [hsame, hloaded] at h
  exact (Option.some.inj h).symm

/-- The validator returns the draft as it passed through, or its fallback. -/
theorem validate_draft {draft : StoredDailyReport Json} {tables after : GenerationTables}
    {calls : List LlmAnswer} {result : ReportValidationServiceResult}
    (hloaded : before.reportTables.loadInputSnapshot snapshot.snapshotId = some snapshot)
    (hdraft : Drafted pydantic python publishAt snapshot request before draft)
    (htables : Inserted before asked k draft tables calls)
    (h : onReports (validateOrFallback pydantic python publishAt
      (validationRequest request snapshot) (some draft)) tables = .ok result after) :
    Confined pydantic python publishAt snapshot request false result.report ∧
      PassedThrough pydantic python publishAt snapshot result.report ∧
      Inserted before asked k result.report after calls := by
  rcases htables with ⟨⟨hsnapshots, hreports⟩, hasked⟩
  rcases onReports_ok h with ⟨written, hvalidated, hsnapshots', hreports'⟩
  rcases validateOrFallback_ok hvalidated with
    ⟨loaded, report, issues, hload, hreport, hissues, hfinal, hstored⟩
  cases hreport
  have hsame := loadInputSnapshot_again hloaded hsnapshots hload
  subst hsame
  have hconfined := finalizeReport_confined hfinal hdraft.confined.approved
    hdraft.confined.reportId hdraft.confined.reportDate hdraft.confined.inputSnapshotId
  refine ⟨hconfined, passedThrough_of_finalized hdraft.candidate hissues hfinal,
    ⟨hsnapshots'.trans hsnapshots, ?_⟩, hasked⟩
  have hid : result.report.reportId = draft.reportId :=
    hconfined.reportId.trans hdraft.confined.reportId.symm
  have hupdated : updateReportValidation result.report draft.lifecycleStatus tables.reportTables =
      (true, written) := Except.ok.inj hstored
  have hrows : written.reports =
      tables.reports.map (validatedRow result.report draft.lifecycleStatus) :=
    (congrArg (fun update => update.2.reports) hupdated).symm
  -- the row of the draft, and only that row, is rewritten
  rw [hreports', hrows, hreports, List.map_append, List.map_singleton, validatedRow_finalized hfinal]
  congr 1
  exact (List.map_congr_left fun existing hexisting =>
    validatedRow_other hid (hdraft.free existing hexisting)).trans (List.map_id _)

/-- Without a draft it returns the fallback. -/
theorem validate_fallback {tables after : GenerationTables} {calls : List LlmAnswer}
    {result : ReportValidationServiceResult}
    (hloaded : before.reportTables.loadInputSnapshot snapshot.snapshotId = some snapshot)
    (htables : Asking before asked k tables calls)
    (h : onReports (validateOrFallback pydantic python publishAt
      (validationRequest request snapshot) none) tables = .ok result after) :
    Confined pydantic python publishAt snapshot request true result.report ∧
      PassedThrough pydantic python publishAt snapshot result.report ∧
      Inserted before asked k result.report after calls := by
  rcases htables with ⟨⟨hsnapshots, hreports⟩, hasked⟩
  rcases onReports_ok h with ⟨written, hvalidated, hsnapshots', hreports'⟩
  rcases validateOrFallback_ok hvalidated with
    ⟨loaded, report, issues, hload, hreport, hissues, hfinal, hstored⟩
  have hsame := loadInputSnapshot_again hloaded hsnapshots hload
  subst hsame
  rcases build_approved hreport with ⟨happroved, hid, hdate, hsnapshotId⟩
  refine ⟨finalizeReport_confined hfinal happroved hid hdate hsnapshotId,
    passedThrough_of_finalized (.fallback hreport) hissues hfinal,
    ⟨hsnapshots'.trans hsnapshots, ?_⟩, hasked⟩
  rcases putReport_ok hstored with ⟨-, hrows, -⟩ | ⟨hfalse, -⟩
  · rw [hreports', hrows]
    show tables.reports ++ [result.report] = _
    rw [hreports]
  · cases hfalse

variable {attempt : ReportGenerationAttempt}

/-- A draft is stored, validated and returned. -/
theorem triple_finishDraftReport {payload : Json} {attemptNo : ℕ} {answer : LlmAnswer}
    (hloaded : before.reportTables.loadInputSnapshot snapshot.snapshotId = some snapshot)
    (hpayload : draftPayload pydantic python publishAt request snapshot attemptNo answer =
      .ok payload) :
    Triple (Asking before asked k)
      (finishDraftReport pydantic python publishAt request snapshot attempt payload)
      (Returned pydantic python publishAt snapshot request before asked k)
      (Left pydantic python publishAt snapshot request before asked k) := by
  unfold finishDraftReport
  refine triple_bind (triple_errors (triple_storeDraftReport hpayload) fun _ _ => Or.inl) ?_
  intro stored
  cases stored with
  -- without a draft the attempt has failed, and the rows are those of before
  | error errorCode =>
    refine triple_bind (triple_errors (triple_failGeneration ofReports_asking errorCode)
      fun _ _ => Or.inl) fun failed => triple_pure ?_
    rintro tables calls ⟨hasking, hfailed⟩
    exact ⟨Or.inr hfailed, hasking⟩
  -- the draft is in the table from here on, whatever comes next
  | ok draft =>
    have hleft : ∀ tables calls, (Drafted pydantic python publishAt snapshot request before draft ∧
        Inserted before asked k draft tables calls) →
          Left pydantic python publishAt snapshot request before asked k tables calls :=
      fun tables calls h => Or.inr ⟨false, draft, h.1.confined, h.2⟩
    have hkeeps : OfReports fun tables calls =>
        Drafted pydantic python publishAt snapshot request before draft ∧
          Inserted before asked k draft tables calls :=
      fun tables after calls hsnapshots hreports h =>
        ⟨h.1, ofReports_inserted tables after calls hsnapshots hreports h.2⟩
    refine triple_bind (triple_errors (triple_validating (Q := fun result tables calls =>
      Confined pydantic python publishAt snapshot request false result.report ∧
        PassedThrough pydantic python publishAt snapshot result.report ∧
        Inserted before asked k result.report tables calls) ?_ ?_) hleft) ?_
    · rintro tables calls result after ⟨hdraft, htables⟩ hok
      exact validate_draft hloaded hdraft htables hok
    · exact triple_bind (triple_failGeneration hkeeps _) fun _ => triple_pure fun _ _ h => h.1
    · intro validation
      have hkeeps' : OfReports fun tables calls =>
          Confined pydantic python publishAt snapshot request false validation.report ∧
            PassedThrough pydantic python publishAt snapshot validation.report ∧
            Inserted before asked k validation.report tables calls :=
        fun tables after calls hsnapshots hreports h =>
          ⟨h.1, h.2.1, ofReports_inserted tables after calls hsnapshots hreports h.2.2⟩
      refine triple_bind (triple_errors (triple_updateAttempt hkeeps') ?_)
        fun _ => triple_pure ?_
      · rintro tables calls ⟨hconfined, -, htables⟩
        exact Or.inr ⟨false, _, hconfined, htables⟩
      · rintro tables calls ⟨hconfined, hpassed, htables⟩
        exact ⟨Or.inl rfl, false, hconfined, hpassed, htables⟩

/-- The fallback is validated and returned. -/
theorem triple_finishFallback {errorCode : String}
    (hloaded : before.reportTables.loadInputSnapshot snapshot.snapshotId = some snapshot) :
    Triple (Asking before asked k)
      (finishFallback pydantic python publishAt request snapshot attempt errorCode)
      (Returned pydantic python publishAt snapshot request before asked k)
      (Left pydantic python publishAt snapshot request before asked k) := by
  -- the attempt is failed first; then the fallback is built and validated
  unfold finishFallback
  refine triple_bind (triple_errors (triple_failGeneration ofReports_asking errorCode)
    fun _ _ => Or.inl) ?_
  intro failed
  have hkeeps : OfReports fun tables calls =>
      Asking before asked k tables calls ∧ failed.lifecycleStatus = .failed :=
    fun tables after calls hsnapshots hreports h =>
      ⟨ofReports_asking tables after calls hsnapshots hreports h.1, h.2⟩
  refine triple_bind (triple_errors (triple_validating (Q := fun result tables calls =>
    failed.lifecycleStatus = .failed ∧
      Confined pydantic python publishAt snapshot request true result.report ∧
      PassedThrough pydantic python publishAt snapshot result.report ∧
      Inserted before asked k result.report tables calls) ?_ ?_) ?_) ?_
  · rintro tables calls result after ⟨hasking, hfailed⟩ hok
    exact ⟨hfailed, validate_fallback hloaded hasking hok⟩
  · exact triple_pure fun _ _ h => h
  · exact fun tables calls h => Or.inl h.1
  · intro fallback
    refine triple_pure ?_
    rintro tables calls ⟨hfailed, hconfined, hpassed, htables⟩
    exact ⟨Or.inr hfailed, true, hconfined, hpassed, htables⟩

/-! ### The loop -/

variable {service : ReportGenerationService} {llm : LlmClient}

theorem triple_askModel : Triple (Asking before asked k) (trying (ask llm id) : Generating LlmAnswer)
    (fun _ => Asking before asked (k + 1)) (Asking before asked (k + 1)) := by
  refine triple_trying (triple_ask ?_ ?_ ?_) fun _ _ _ h => h
  · intro tables calls response h _
    exact ⟨h.1, h.2.next _⟩
  · intro tables calls e h _
    exact ⟨h.1, h.2.next _⟩
  · intro tables calls h
    exact ⟨h.1, h.2.mono (Nat.le_succ k)⟩

/-- The bound may be raised. -/
theorem Left.mono {n : ℕ} {tables : GenerationTables} {calls : List LlmAnswer}
    (h : Left pydantic python publishAt snapshot request before asked k tables calls)
    (hle : k ≤ n) : Left pydantic python publishAt snapshot request before asked n tables calls := by
  rcases h with ⟨hrows, hasked⟩ | ⟨usedFallback, row, hconfined, hrows, hasked⟩
  · exact Or.inl ⟨hrows, hasked.mono hle⟩
  · exact Or.inr ⟨usedFallback, row, hconfined, hrows, hasked.mono hle⟩

/-- A bound on the calls may be raised. -/
theorem Returned.mono {n : ℕ} {result : ReportGenerationResult Json} {tables : GenerationTables}
    {calls : List LlmAnswer}
    (h : Returned pydantic python publishAt snapshot request before asked k result tables calls)
    (hle : k ≤ n) :
    Returned pydantic python publishAt snapshot request before asked n result tables calls := by
  unfold Returned at h ⊢
  rcases h with ⟨hlifecycle, hreport⟩
  refine ⟨hlifecycle, ?_⟩
  cases hreturned : result.report with
  | none =>
    rw [hreturned] at hreport
    exact ⟨hreport.1, hreport.2.mono hle⟩
  | some report =>
    rw [hreturned] at hreport
    rcases hreport with ⟨usedFallback, hconfined, hpassed, hrows, hasked⟩
    exact ⟨usedFallback, hconfined, hpassed, hrows, hasked.mono hle⟩

/-- Every attempt asks once, and the last one ends the loop. -/
theorem triple_generationAttempts
    (hloaded : before.reportTables.loadInputSnapshot snapshot.snapshotId = some snapshot)
    {left n : ℕ} (hn : k + left = n) (attemptNo : ℕ) (attempt : ReportGenerationAttempt) :
    Triple (Asking before asked k)
      (generationAttempts pydantic python publishAt service llm request snapshot attemptNo attempt
        left)
      (Returned pydantic python publishAt snapshot request before asked n)
      (Left pydantic python publishAt snapshot request before asked n) := by
  -- by the attempts that are left, each of which asks the model once
  induction left generalizing k attemptNo attempt with
  | zero => exact triple_raise fun tables calls h => Or.inl ⟨h.1, h.2.mono (by omega)⟩
  | succ left ih =>
    have hle : k + 1 ≤ n := by omega
    unfold generationAttempts
    refine triple_bind (triple_errors (triple_numberGeneration ofReports_asking attemptNo)
      fun tables calls h => Or.inl ⟨h.1, h.2.mono (by omega)⟩) fun numbered => ?_
    refine triple_bind (triple_errors triple_askModel
      fun tables calls h => Or.inl ⟨h.1, h.2.mono hle⟩) fun answer => ?_
    split
    · -- a draft ends the loop
      rename_i payload hpayload
      exact triple_errors (triple_weaken (triple_finishDraftReport hloaded hpayload)
        (fun _ _ h => h) fun _ _ _ h => h.mono hle) fun _ _ h => h.mono hle
    -- an error that is not tried again ends the loop
    · split
      · exact triple_raise fun tables calls h => Or.inl ⟨h.1, h.2.mono hle⟩
      · split
        · exact triple_errors (triple_weaken (triple_finishFallback hloaded)
            (fun _ _ h => h) fun _ _ _ h => h.mono hle) fun _ _ h => h.mono hle
        · -- another attempt
          exact ih (by omega) (attemptNo + 1) numbered

theorem triple_refuseGeneration {errorCode : String} :
    Triple (Asking before asked 0) (refuseGeneration request snapshot errorCode)
      (Returned pydantic python publishAt snapshot request before asked 0)
      (Left pydantic python publishAt snapshot request before asked 0) := by
  unfold refuseGeneration
  refine triple_bind (triple_ofExcept (Q := fun _ => Asking before asked 0) (fun _ _ _ h => h)
    fun _ _ h => Or.inl h) fun attempt => ?_
  refine triple_bind (triple_errors (triple_reserveAttempt ofReports_asking)
    fun _ _ h => Or.inl h) fun _ => triple_pure ?_
  exact fun tables calls h => ⟨Or.inr rfl, h⟩

/-- A generation from its first attempt. -/
theorem triple_startGeneration
    (hloaded : before.reportTables.loadInputSnapshot snapshot.snapshotId = some snapshot) :
    Triple (Asking before asked 0)
      (startGeneration pydantic python publishAt service llm request snapshot)
      (Returned pydantic python publishAt snapshot request before asked service.maxAttempts)
      (Left pydantic python publishAt snapshot request before asked service.maxAttempts) := by
  have hleft : ∀ tables calls, Asking before asked 0 tables calls →
      Left pydantic python publishAt snapshot request before asked service.maxAttempts tables
        calls :=
    fun tables calls h => Or.inl ⟨h.1, h.2.mono (Nat.zero_le _)⟩
  unfold startGeneration
  refine triple_bind (triple_ofExcept (Q := fun _ => Asking before asked 0)
    (fun _ _ _ h => h) hleft) fun sourceRefIds => ?_
  refine triple_bind (triple_ofExcept (Q := fun _ => Asking before asked 0)
    (fun _ _ _ h => h) hleft) fun attempt => ?_
  exact triple_bind (triple_errors (triple_reserveAttempt ofReports_asking) hleft)
    fun _ => triple_generationAttempts hloaded (Nat.zero_add _) 1 attempt

/-- The calls that the gate allows. -/
def allowedCalls (python : Python) (service : ReportGenerationService)
    (snapshot : ReportInputSnapshot Json) : ℕ :=
  match evaluate snapshot python.str with
  | .error _ => 0
  | .ok quality =>
    if quality.status = .blocked ∨ quality.status = .retryable then 0 else service.maxAttempts

/-- A request for a stored snapshot. -/
theorem triple_generateReport
    (hfound : before.reportTables.loadInputSnapshot request.snapshotId = some snapshot) :
    Triple (fun tables calls => tables = before ∧ calls = asked)
      (generateReport pydantic python publishAt service llm request)
      (Returned pydantic python publishAt snapshot request before asked
        (allowedCalls python service snapshot))
      (Left pydantic python publishAt snapshot request before asked
        (allowedCalls python service snapshot)) := by
  have hstart : ∀ tables calls, tables = before ∧ calls = asked →
      Asking before asked 0 tables calls := by
    rintro tables calls ⟨rfl, rfl⟩
    exact ⟨⟨rfl, rfl⟩, [], (List.append_nil _).symm, Nat.le_refl 0⟩
  have hid : snapshot.snapshotId = request.snapshotId := by
    simpa using List.find?_some hfound
  have hloaded : before.reportTables.loadInputSnapshot snapshot.snapshotId = some snapshot := by
    rw [hid]
    exact hfound
  unfold generateReport
  -- the snapshot that the run reads is the one of the request
  refine triple_bind (Q := fun loaded tables calls =>
    Asking before asked 0 tables calls ∧ loaded = some snapshot) (triple_read ?_) ?_
  · rintro tables calls ⟨rfl, rfl⟩
    exact ⟨hstart _ _ ⟨rfl, rfl⟩, hfound⟩
  intro loaded
  refine triple_known ?_
  rintro rfl
  simp only
  cases hquality : evaluate snapshot python.str with
  | error e =>
    exact triple_bind (Q := fun _ _ _ => False)
      (triple_raise fun tables calls h => Or.inl ⟨h.1, h.2.mono (Nat.zero_le _)⟩)
      fun _ _ hfalse => hfalse.elim
  | ok quality =>
    have hallowed : allowedCalls python service snapshot =
        if quality.status = .blocked ∨ quality.status = .retryable then 0
        else service.maxAttempts := by
      unfold allowedCalls
      rw [hquality]
    rw [hallowed]
    refine triple_bind (Q := fun found tables calls =>
      Asking before asked 0 tables calls ∧ found = quality)
      (triple_pure fun _ _ h => ⟨h, rfl⟩) fun found => triple_known ?_
    rintro rfl
    -- a gate that does not let the snapshot pass leaves no call of the model
    cases hstatus : found.status with
    | blocked =>
      rw [if_pos (Or.inl rfl)]
      exact triple_refuseGeneration
    | retryable =>
      rw [if_pos (Or.inr rfl)]
      exact triple_refuseGeneration
    | passed =>
      rw [if_neg (by decide)]
      exact triple_startGeneration hloaded
    | degraded =>
      rw [if_neg (by decide)]
      exact triple_startGeneration hloaded

/-- What a run of the service leaves of the tables it starts from. -/
structure GenerationSafe (pydantic : Pydantic) (python : Python) (publishAt : Day → Instant)
    (service : ReportGenerationService) (request : GenerationRequest)
    (start after : World GenerationTables LlmAnswer)
    (result : Option (ReportGenerationResult Json)) : Prop where
  unknown : start.durable.reportTables.loadInputSnapshot request.snapshotId = none →
    result = none ∧ after.calls = start.calls ∧ after.durable.reports = start.durable.reports
  asked : ∀ snapshot ∈ start.durable.reportTables.loadInputSnapshot request.snapshotId,
    AskedAtMost start.calls (allowedCalls python service snapshot) after.calls
  stored : ∀ snapshot ∈ start.durable.reportTables.loadInputSnapshot request.snapshotId,
    after.durable.reports = start.durable.reports ∨ ∃ usedFallback row,
      after.durable.reports = start.durable.reports ++ [row] ∧
        Confined pydantic python publishAt snapshot request usedFallback row
  lifecycle : ∀ returned ∈ result, returned.attempt.lifecycleStatus = .generated ∨
    returned.attempt.lifecycleStatus = .failed
  returned : ∀ snapshot ∈ start.durable.reportTables.loadInputSnapshot request.snapshotId,
    ∀ returned ∈ result, ∀ report ∈ returned.report,
      after.durable.reports = start.durable.reports ++ [report] ∧
        PassedThrough pydantic python publishAt snapshot report

variable {start after : World GenerationTables LlmAnswer}

/-- A request for an unknown snapshot raises, and does nothing else. -/
theorem triple_generateReport_unknown
    (hunknown : before.reportTables.loadInputSnapshot request.snapshotId = none) :
    Triple (fun tables calls => tables = before ∧ calls = asked)
      (generateReport pydantic python publishAt service llm request) (fun _ _ _ => False)
      (fun tables calls => tables = before ∧ calls = asked) := by
  unfold generateReport
  refine triple_bind (Q := fun loaded tables calls =>
    (tables = before ∧ calls = asked) ∧ loaded = none) (triple_read ?_) ?_
  · rintro tables calls ⟨rfl, rfl⟩
    exact ⟨⟨rfl, rfl⟩, hunknown⟩
  · intro loaded
    refine triple_known ?_
    rintro rfl
    exact triple_raise fun _ _ h => h

/-- A generation that raises is safe. -/
theorem safe_of_left
    (hload : start.durable.reportTables.loadInputSnapshot request.snapshotId = some snapshot)
    (h : Left pydantic python publishAt snapshot request start.durable start.calls
      (allowedCalls python service snapshot) after.durable after.calls) :
    GenerationSafe pydantic python publishAt service request start after none where
  unknown hnone := by
    rw [hload] at hnone
    cases hnone
  asked found hfound := by
    rw [hload, Option.mem_some_iff] at hfound
    subst hfound
    -- the rows are those of before, or one report more
    rcases h with ⟨-, hasked⟩ | ⟨-, -, -, -, hasked⟩
    · exact hasked
    · exact hasked
  stored found hfound := by
    rw [hload, Option.mem_some_iff] at hfound
    subst hfound
    rcases h with ⟨⟨-, hrows⟩, -⟩ | ⟨usedFallback, row, hconfined, ⟨-, hrows⟩, -⟩
    · exact Or.inl hrows
    · exact Or.inr ⟨usedFallback, row, hrows, hconfined⟩
  lifecycle returned hmem := absurd hmem (Option.not_mem_none returned)
  returned _ _ returned hmem := absurd hmem (Option.not_mem_none returned)

/-- One that returns is safe. -/
theorem safe_of_returned {result : ReportGenerationResult Json}
    (hload : start.durable.reportTables.loadInputSnapshot request.snapshotId = some snapshot)
    (h : Returned pydantic python publishAt snapshot request start.durable start.calls
      (allowedCalls python service snapshot) result after.durable after.calls) :
    GenerationSafe pydantic python publishAt service request start after (some result) := by
  rcases h with ⟨hlifecycle, hreport⟩
  have hleft : Left pydantic python publishAt snapshot request start.durable start.calls
      (allowedCalls python service snapshot) after.durable after.calls := by
    -- a report that is returned is the one that was stored
    cases hreturned : result.report with
    | none =>
      rw [hreturned] at hreport
      exact Or.inl hreport
    | some report =>
      rw [hreturned] at hreport
      rcases hreport with ⟨usedFallback, hconfined, -, htables⟩
      exact Or.inr ⟨usedFallback, report, hconfined, htables⟩
  have hsafe : GenerationSafe pydantic python publishAt service request start after none :=
    safe_of_left hload hleft
  refine ⟨?_, hsafe.asked, hsafe.stored, ?_, ?_⟩
  · intro hnone
    rw [hload] at hnone
    cases hnone
  · intro returned hmem
    rw [Option.mem_some_iff] at hmem
    subst hmem
    exact hlifecycle
  · intro found hfound returned hmem report hpublished
    rw [hload, Option.mem_some_iff] at hfound
    rw [Option.mem_some_iff] at hmem
    subst hfound hmem
    rw [Option.mem_def.mp hpublished] at hreport
    rcases hreport with ⟨-, -, hpassed, ⟨-, hrows⟩, -⟩
    exact ⟨hrows, hpassed⟩

/-- Whatever the model answers, a run asks it as often as the gate and the service allow, stores at
most one report, with the fields of the services, and publishes only what validation passes. -/
theorem generateReport_safe (pydantic : Pydantic) (python : Python) (publishAt : Day → Instant)
    (service : ReportGenerationService) (llm : LlmClient) (request : GenerationRequest)
    (start : World GenerationTables LlmAnswer) :
    match generateReport pydantic python publishAt service llm request start with
    | .ok result after =>
      GenerationSafe pydantic python publishAt service request start after (some result)
    | .error _ after =>
      GenerationSafe pydantic python publishAt service request start after none := by
  -- without a snapshot the run ends before it asks
  cases hload : start.durable.reportTables.loadInputSnapshot request.snapshotId with
  | none =>
    have hrun := @triple_generateReport_unknown pydantic python publishAt request start.durable
      start.calls service llm hload start ⟨rfl, rfl⟩
    generalize generateReport pydantic python publishAt service llm request start = outcome at hrun ⊢
    cases outcome with
    | ok result after => exact hrun.elim
    | error halt after =>
      rcases hrun with ⟨htables, hcalls⟩
      exact
        { unknown := fun _ => ⟨rfl, hcalls, by rw [htables]⟩
          asked := by simp [hload]
          stored := by simp [hload]
          lifecycle := fun returned hmem => absurd hmem (Option.not_mem_none returned)
          returned := by simp [hload] }
  | some snapshot =>
    have hrun := @triple_generateReport pydantic python publishAt snapshot request start.durable
      start.calls service llm hload start ⟨rfl, rfl⟩
    generalize generateReport pydantic python publishAt service llm request start = outcome at hrun ⊢
    cases outcome with
    | ok result after => exact safe_of_returned hload hrun
    | error halt after => exact safe_of_left hload hrun

end MacroPlatform.Report
