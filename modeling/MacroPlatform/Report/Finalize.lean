import MacroPlatform.Report.Validation

/-! # `_finalize_report`

After the validation the payload gets its status, its decision, the issues in its data quality
and a new notice. The contract was checked before that; what follows says when the payload
still satisfies it.

* `finalizeReport_publishable`: what finalization makes of a publishable report;
* `finalized_valid`, `notice_of_finalized`: it satisfies the contract exactly when the notice
  fits.
-/

namespace MacroPlatform.Report

open Daily

/-! ## The finalized report -/

/-- `_quality_bucket`. -/
def qualityBucket (code : String) : String :=
  if code = "REQUIRED_INPUT_UNAVAILABLE" then "missing_required_inputs"
  else if containsText "STALE" code then "stale_inputs"
  else if containsText "LATE" code then "late_inputs"
  else if containsText "REVISED" code then "revised_inputs"
  else "unavailable_inputs"

/-- `_quality_notice`. -/
def qualityNotice (status : ReportStatus) (issues : List ReportValidationIssue) : String :=
  if issues = [] then "必需数据均已通过质量校验。"
  else if status = .incomplete then "日报未发布：必需数据未满足质量校验。"
  else "部分可选数据不可用，日报已降级。"

/-- `dict(value)` of a dict; the contract has no other value there. -/
def pyDict (value : Json) : Except PythonError Json :=
  match value with
  | .obj fields => .ok (.obj fields)
  | _ => .error { name := "TypeError", message := "cannot convert to a dict" }

/-- `list(value)` of a list. -/
def pyList (value : Json) : Except PythonError (List Json) :=
  match value with
  | .arr items => .ok items
  | _ => .error { name := "TypeError", message := "cannot convert to a list" }

/-- The first of the values that is not empty. -/
def firstGiven (values : List (Option String)) (default : String) : String :=
  ((values.filterMap id).find? (· ≠ "")).getD default

/-- `entry["input_id"]`. -/
def entryInputId (issue : ReportValidationIssue) : String :=
  firstGiven [issue.inputId, issue.factId, issue.sourceRefId] issue.code

/-- `entry`. -/
def qualityEntry (issue : ReportValidationIssue) : Json :=
  texts [("input_id", entryInputId issue), ("reason_code", issue.code),
    ("reason", issue.message)]

/-- The loop over the issues for one of them. -/
def addIssue (quality : Json) (issue : ReportValidationIssue) : Except PythonError Json := do
  let bucket := qualityBucket issue.code
  let entries ← pyList (quality.get bucket (.arr []))
  let known := entries.any fun item =>
    (item.get "input_id").toStr? = some (entryInputId issue) &&
      (item.get "reason_code").toStr? = some issue.code
  .ok (quality.set bucket (.arr (if known then entries else entries ++ [qualityEntry issue])))

/-- The notice after its update. -/
def finalNotice (status : ReportStatus) (issues : List ReportValidationIssue) (notice : Json) :
    Json :=
  (((notice.set "status" (.str "complete")).set "text" (.str (qualityNotice status issues))).set
    "character_count" (.int (qualityNotice status issues).length)).set
    "issue_codes" (strings (sortedSet (issues.map (·.code))))

/-- `publishable`. -/
def isPublishable (report : StoredDailyReport Json) (issues : List ReportValidationIssue) : Bool :=
  (∀ issue ∈ issues, issue.severity ≠ .error) ∧ report.status ≠ .incomplete

/-- `status`. -/
def finalStatus (report : StoredDailyReport Json) (issues : List ReportValidationIssue) :
    ReportStatus :=
  if isPublishable report issues = false then .incomplete
  else if ∃ issue ∈ issues, issue.severity = .warning then .degraded
  else report.status

/-- The publication after its update. -/
def finalPublication (publishable : Bool) (publication : Json) : Json :=
  (publication.set "decision"
    (literalText publicationDecisions (if publishable then .published else .notPublished))).set
    "reason_code" (if publishable then .null else .str "VALIDATION_FAILED")

/-- `_finalize_report`. -/
def finalizeReport (report : StoredDailyReport Json) (issues : List ReportValidationIssue) :
    Except PythonError (StoredDailyReport Json) := do
  let publishable := isPublishable report issues
  let status := finalStatus report issues
  let publication ← pyDict (report.payload.get "publication" (.obj []))
  let quality ← pyDict (report.payload.get "data_quality" (.obj []))
  let quality ← issues.foldlM addIssue (quality.set "status" (literalText reportStatuses status))
  let sections := report.payload.get "sections" (.obj [])
  let notice ← pyDict (sections.get "data_quality_notice" (.obj []))
  let payload := (((report.payload.set "status" (literalText reportStatuses status)).set
    "publication" (finalPublication publishable publication)).set "data_quality" quality).set
    "sections" (sections.set "data_quality_notice" (finalNotice status issues notice))
  .ok { report with
    status
    publicationDecision := if publishable then .published else .notPublished
    payload
    lifecycleStatus := if publishable then .validated else .failed
    validationErrors := issues }

/-! ## The parts of the contract -/

variable {pydantic : Pydantic} {python : Python} {snapshot : ReportInputSnapshot Json}

/-- The fields of a report, read one by one. -/
theorem ReportFields.read_some {j : Json} {fields : ReportFields} :
    ReportFields.read pydantic j = some fields ↔
      KnowsKeys ["contract_name", "contract_version", "report_id", "report_date", "timezone",
        "schedule", "calendar", "generated_at", "input_snapshot", "status", "publication",
        "data_quality", "sections"] j ∧
      (j.get "contract_name").toStr? = some "DailyReport" ∧
      (j.get "contract_version").toStr? = some "1.0" ∧
      (j.get "timezone").toStr? = some "Asia/Shanghai" ∧
      text 1 (j.get "report_id") = some fields.reportId ∧
      pydantic.date (j.get "report_date") = some fields.reportDate ∧
      ReportSchedule.modelValidate pydantic (j.get "schedule") = some fields.schedule ∧
      ReportCalendar.modelValidate (j.get "calendar") = some fields.calendar ∧
      pydantic.datetime (j.get "generated_at") = some fields.generatedAt ∧
      ReportInputSnapshotRef.modelValidate pydantic (j.get "input_snapshot") =
        some fields.inputSnapshot ∧
      literal reportStatuses (j.get "status") = some fields.status ∧
      ReportPublication.modelValidate pydantic (j.get "publication") = some fields.publication ∧
      ReportDataQuality.modelValidate (j.get "data_quality") = some fields.dataQuality ∧
      readSections pydantic (j.get "sections") = some fields.sections := by
  unfold ReportFields.read
  simp only [Option.bind_eq_bind, Option.bind_eq_some_iff, Option.guard_eq_some',
    exists_const]
  constructor
  · rintro ⟨hkeys, hname, hversion, hzone, id, hid, date, hdate, schedule, hschedule, calendar,
      hcalendar, generated, hgenerated, snapshot, hsnapshot, status, hstatus, publication,
      hpublication, quality, hquality, sections, hsections, hfields⟩
    cases hfields
    exact ⟨hkeys, hname, hversion, hzone, hid, hdate, hschedule, hcalendar, hgenerated, hsnapshot,
      hstatus, hpublication, hquality, hsections⟩
  · rintro ⟨hkeys, hname, hversion, hzone, hid, hdate, hschedule, hcalendar, hgenerated,
      hsnapshot, hstatus, hpublication, hquality, hsections⟩
    exact ⟨hkeys, hname, hversion, hzone, _, hid, _, hdate, _, hschedule, _, hcalendar, _,
      hgenerated, _, hsnapshot, _, hstatus, _, hpublication, _, hquality, _, hsections, rfl⟩

/-- The fields of a section, read one by one. -/
theorem SectionFields.read_some {j : Json} {fields : SectionFields} :
    SectionFields.read pydantic j = some fields ↔
      KnowsKeys ["section_id", "status", "character_count", "max_characters", "text",
        "fact_ids", "source_ref_ids", "items", "claims", "lookahead_days", "issue_codes",
        "reason_code"] j ∧
      Report.text 1 (j.get "section_id") = some fields.sectionId ∧
      literal sectionStatuses (j.get "status") = some fields.status ∧
      natural pydantic 0 (j.get "character_count") = some fields.characterCount ∧
      natural pydantic 1 (j.get "max_characters") = some fields.maxCharacters ∧
      (j.get "text").toOption? (Report.text 0) = some fields.text ∧
      listOf (Report.text 0) (j.get "fact_ids" (.arr [])) = some fields.factIds ∧
      listOf (Report.text 0) (j.get "source_ref_ids" (.arr [])) = some fields.sourceRefIds ∧
      listOf strippedDict (j.get "items" (.arr [])) = some fields.items ∧
      listOf (ReportClaim.modelValidate pydantic) (j.get "claims" (.arr [])) =
        some fields.claims ∧
      (j.get "lookahead_days").toOption? (natural pydantic 0) = some fields.lookaheadDays ∧
      listOf (Report.text 0) (j.get "issue_codes" (.arr [])) = some fields.issueCodes ∧
      (j.get "reason_code").toOption? (Report.text 0) = some fields.reasonCode := by
  unfold SectionFields.read
  simp only [Option.bind_eq_bind, Option.bind_eq_some_iff, Option.guard_eq_some',
    exists_const]
  constructor
  · rintro ⟨hkeys, id, hid, status, hstatus, count, hcount, limit, hlimit, text, htext, factIds,
      hfactIds, sourceIds, hsourceIds, items, hitems, claims, hclaims, days, hdays, codes,
      hcodes, reason, hreason, hfields⟩
    cases hfields
    exact ⟨hkeys, hid, hstatus, hcount, hlimit, htext, hfactIds, hsourceIds, hitems, hclaims,
      hdays, hcodes, hreason⟩
  · rintro ⟨hkeys, hid, hstatus, hcount, hlimit, htext, hfactIds, hsourceIds, hitems, hclaims,
      hdays, hcodes, hreason⟩
    exact ⟨hkeys, _, hid, _, hstatus, _, hcount, _, hlimit, _, htext, _, hfactIds, _, hsourceIds,
      _, hitems, _, hclaims, _, hdays, _, hcodes, _, hreason, rfl⟩

/-- A section is valid when its fields are read. -/
theorem ReportSection.modelValidate_some {j : Json} {sect : ReportSection} :
    ReportSection.modelValidate pydantic j = some sect ↔
      SectionFields.read pydantic j = some sect.toSectionFields := by
  unfold ReportSection.modelValidate
  simp only [Option.bind_eq_bind, Option.bind_eq_some_iff]
  constructor
  · rintro ⟨fields, hfields, hsection⟩
    split at hsection
    · cases hsection
      exact hfields
    · cases hsection
  · intro hfields
    exact ⟨_, hfields, by rw [dif_pos sect.visibleText]⟩

/-- A report is valid when its fields are read. -/
theorem DailyReport.modelValidate_some {payload : Json} {typed : DailyReport pydantic} :
    DailyReport.modelValidate pydantic payload = some typed ↔
      ReportFields.read pydantic payload = some typed.toReportFields := by
  unfold DailyReport.modelValidate
  simp only [Option.bind_eq_bind, Option.bind_eq_some_iff]
  constructor
  · rintro ⟨fields, hfields, htyped⟩
    split at htyped
    · cases htyped
      exact hfields
    · cases htyped
  · intro hfields
    exact ⟨_, hfields, by rw [dif_pos typed.references]⟩

theorem KnowsKeys.set {known : List String} {j : Json} {key : String} {value : Json}
    (h : KnowsKeys known j) (hkey : key ∈ known) : KnowsKeys known (j.set key value) := by
  intro other hother
  rcases (Json.mem_keys_set j key other value).mp hother with rfl | hold
  · exact hkey
  · exact h other hold

theorem literal_status (status : ReportStatus) :
    literal reportStatuses (literalText reportStatuses status) = some status := by
  cases status <;> rfl

/-- A value that a reader takes is not null. -/
theorem get_default_of_ne_null {j default : Json} {key : String} (h : j.get key ≠ .null) :
    j.get key default = j.get key := by
  rcases j.get_default key default with hkey | ⟨hnull, -⟩
  · exact hkey
  · exact absurd hnull h

/-! ## The publication and the data quality -/

/-- The publication of a finalized report is valid. -/
theorem finalPublication_valid {publication : Json} {before : ReportPublication}
    (h : ReportPublication.modelValidate pydantic publication = some before) :
    ReportPublication.modelValidate pydantic (finalPublication true publication) =
      some { before with decision := .published, reasonCode := none } := by
  unfold ReportPublication.modelValidate at h ⊢
  simp only [Option.bind_eq_bind, Option.bind_eq_some_iff, Option.guard_eq_some',
    exists_const] at h ⊢
  obtain ⟨hkeys, decision, -, reason, -, scheduled, hscheduled, published, hpublished, hbefore⟩ := h
  cases hbefore
  refine ⟨KnowsKeys.set (KnowsKeys.set hkeys (by simp)) (by simp), .published, ?_, none, ?_,
    scheduled, ?_, published, ?_, rfl⟩
  · simp [finalPublication, Json.get_set, literalText, publicationDecisions, literal,
      Json.ofOption, Json.toStr?]
  · simp [finalPublication, Json.get_set, Json.toOption?]
  · simpa [finalPublication, Json.get_set] using hscheduled
  · simpa [finalPublication, Json.get_set] using hpublished

theorem mapM_isSome {α β : Type} {f : α → Option β} {xs : List α} :
    (xs.mapM f).isSome ↔ ∀ x ∈ xs, (f x).isSome := by
  induction xs with
  | nil => simp
  | cons x xs ih =>
    rw [List.mapM_cons, List.forall_mem_cons, ← ih]
    cases f x with
    | none => simp
    | some y => cases xs.mapM f <;> simp

/-- What `data_quality` has to be. -/
theorem dataQuality_isSome {j : Json} :
    (ReportDataQuality.modelValidate j).isSome ↔
      KnowsKeys ("status" :: qualityBuckets) j ∧
      (literal reportStatuses (j.get "status")).isSome ∧ ∀ bucket ∈ qualityBuckets,
        (listOf ReportQualityIssue.modelValidate (j.get bucket (.arr []))).isSome := by
  rw [← mapM_isSome]
  unfold ReportDataQuality.modelValidate
  simp only [Option.isSome_iff_exists, Option.bind_eq_bind, Option.bind_eq_some_iff,
    Option.guard_eq_some', exists_const]
  constructor
  · rintro ⟨quality, hkeys, status, hstatus, issues, hissues, -⟩
    exact ⟨hkeys, ⟨status, hstatus⟩, issues, hissues⟩
  · rintro ⟨hkeys, ⟨status, hstatus⟩, issues, hissues⟩
    exact ⟨_, hkeys, status, hstatus, issues, hissues, rfl⟩

/-- An issue of a `ReportValidationIssue`: its texts are stripped, and two are not empty. -/
structure IssueTexts (issue : ReportValidationIssue) : Prop where
  code : modelStrip issue.code = issue.code ∧ issue.code ≠ ""
  message : modelStrip issue.message = issue.message ∧ issue.message ≠ ""
  ids : ∀ id ∈ [issue.inputId, issue.factId, issue.sourceRefId].filterMap (fun id => id),
    modelStrip id = id

theorem modelStrip_idem (s : String) : modelStrip (modelStrip s) = modelStrip s :=
  stripWhere_idem isWhiteSpace s

/-- An issue of the gate that is accepted has texts. -/
theorem validationIssue_texts {issue : QualityGateIssue} {found : ReportValidationIssue}
    (h : validationIssue issue = .ok found) : IssueTexts found := by
  unfold validationIssue at h
  split at h
  · cases h
  · rename_i hempty
    rw [not_or] at hempty
    cases h
    refine ⟨⟨modelStrip_idem _, hempty.1⟩, ⟨modelStrip_idem _, hempty.2⟩, ?_⟩
    intro id hid
    simp only [List.filterMap_cons, List.filterMap_nil, List.mem_singleton] at hid
    rw [hid]
    exact modelStrip_idem _

/-- Besides errors, the findings are those that were there. -/
def Checks.OnlyErrorsBesides (known : List ReportValidationIssue) (checks : Checks) : Prop :=
  ∀ issue ∈ checks.issues, issue.severity = .error ∨ issue ∈ known

theorem unless_besides {known : List ReportValidationIssue} {checks : Checks} {ok : Bool}
    {issue : ReportValidationIssue} (hissue : issue.severity = .error)
    (h : checks.OnlyErrorsBesides known) : (checks.unless ok issue).OnlyErrorsBesides known := by
  unfold Checks.unless
  split
  · exact h
  · intro other hother
    rcases List.mem_append.mp hother with hold | hnew
    · exact h other hold
    · rw [List.mem_singleton.mp hnew]
      exact Or.inl hissue

theorem appendSourceIssues_besides {known : List ReportValidationIssue} {checks : Checks}
    (sourceIds sourceRefIds : List String) (h : checks.OnlyErrorsBesides known) :
    (appendSourceIssues sourceIds checks sourceRefIds).OnlyErrorsBesides known := by
  unfold appendSourceIssues
  refine List.foldlRecOn _ _ h ?_
  intro checks hchecks sourceRefId _
  exact unless_besides rfl hchecks

theorem checkFact_besides {known : List ReportValidationIssue} {checks : Checks}
    (sectionSources : List String) (factId : String) (h : checks.OnlyErrorsBesides known) :
    (checkFact python snapshot sectionSources checks factId).OnlyErrorsBesides known := by
  unfold checkFact
  split
  · exact unless_besides rfl h
  · exact unless_besides rfl (unless_besides rfl (unless_besides rfl (unless_besides rfl
      (unless_besides rfl (appendSourceIssues_besides _ _ h)))))

theorem checkClaim_besides {known : List ReportValidationIssue} {checks : Checks}
    (claim : ReportClaim) (h : checks.OnlyErrorsBesides known) :
    (checkClaim python snapshot checks claim).OnlyErrorsBesides known := by
  unfold checkClaim
  split
  · exact unless_besides rfl h
  · exact unless_besides rfl (unless_besides rfl (unless_besides rfl (unless_besides rfl h)))

theorem checkSection_besides {known : List ReportValidationIssue} {checks : Checks}
    (sect : SectionFields) (h : checks.OnlyErrorsBesides known) :
    (checkSection python snapshot checks sect).OnlyErrorsBesides known := by
  unfold checkSection
  refine List.foldlRecOn _ _ (List.foldlRecOn _ _ (appendSourceIssues_besides _ _ h) ?_) ?_
  · intro checks hchecks factId _
    exact checkFact_besides _ factId hchecks
  · intro checks hchecks claim _
    exact checkClaim_besides claim hchecks

theorem checkSource_besides {known : List ReportValidationIssue} {checks : Checks}
    (source : ReportSourceReference) (h : checks.OnlyErrorsBesides known) :
    (checkSource pydantic snapshot checks source).OnlyErrorsBesides known := by
  unfold checkSource
  split
  · exact unless_besides rfl h
  · exact unless_besides rfl h

theorem checkIdentity_besides {known : List ReportValidationIssue}
    (report : StoredDailyReport Json) (typed : ReportFields) :
    (checkIdentity snapshot report typed).OnlyErrorsBesides known := by
  unfold checkIdentity
  have hstart : Checks.OnlyErrorsBesides known {} := fun issue hissue =>
    absurd hissue List.not_mem_nil
  exact unless_besides rfl (unless_besides rfl (unless_besides rfl (unless_besides rfl hstart)))

/-- The issues of a report without errors are those of the gate. -/
theorem validate_issue_texts {report : StoredDailyReport Json}
    {issues : List ReportValidationIssue}
    (h : validate pydantic python snapshot report = .ok issues)
    (hclean : ∀ issue ∈ issues, issue.severity ≠ .error) :
    ∀ issue ∈ issues, IssueTexts issue := by
  intro issue hissue
  unfold validate at h
  split at h
  -- a payload that is refused has an error
  · cases h
    exact absurd rfl (hclean _ List.mem_cons_self)
  · rename_i typed _
    obtain ⟨quality, hquality, hissues⟩ := Raising.bind_ok.mp h
    -- the checks only add errors to the issues of the gate
    have hend := Except.ok.inj hissues
    have hstart : Checks.OnlyErrorsBesides quality
        { checkIdentity snapshot report typed.toReportFields with
          issues := (checkIdentity snapshot report typed.toReportFields).issues ++ quality } := by
      intro other hother
      rcases List.mem_append.mp hother with hfirst | hgate
      · exact checkIdentity_besides report typed.toReportFields other hfirst
      · exact Or.inr hgate
    have hsources := List.foldlRecOn ((typed.sources? pydantic).getD [])
      (checkSource pydantic snapshot) hstart fun checks hchecks source _ =>
        checkSource_besides source hchecks
    have hsections := List.foldlRecOn (typed.sections.map fun entry => entry.2.toSectionFields)
      (checkSection python snapshot) hsources fun checks hchecks sect _ =>
        checkSection_besides sect hchecks
    rw [← hend] at hissue
    -- so what is no error came from the gate
    rcases hsections issue hissue with herror | hgate
    · rw [hend] at hissue
      exact absurd herror (hclean issue hissue)
    · obtain ⟨result, -, hmap⟩ := Raising.bind_ok.mp hquality
      obtain ⟨gateIssue, -, hfound⟩ := Raising.exists_of_mem_mapM hmap hgate
      exact validationIssue_texts hfound

theorem text_str {minLength : ℕ} {value : String} (hstrip : modelStrip value = value)
    (hlength : minLength ≤ value.length) : text minLength (.str value) = some value := by
  unfold text
  simp [Json.toStr?, hstrip, hlength]

theorem one_le_length {value : String} (h : value ≠ "") : 1 ≤ value.length := by
  rw [Nat.one_le_iff_ne_zero]
  intro hzero
  exact h (String.length_eq_zero_iff.mp hzero)

theorem entryInputId_text {issue : ReportValidationIssue} (h : IssueTexts issue) :
    modelStrip (entryInputId issue) = entryInputId issue ∧ entryInputId issue ≠ "" := by
  unfold entryInputId firstGiven
  cases hfound : ([issue.inputId, issue.factId, issue.sourceRefId].filterMap id).find?
      (· ≠ "") with
  | none => exact h.code
  | some given =>
    have hgiven := List.find?_some hfound
    exact ⟨h.ids given (List.mem_of_find?_eq_some hfound), of_decide_eq_true hgiven⟩

/-- An issue with texts makes an entry of the data quality. -/
theorem qualityEntry_valid {issue : ReportValidationIssue} (h : IssueTexts issue) :
    (ReportQualityIssue.modelValidate (qualityEntry issue)).isSome := by
  obtain ⟨hid, hidNe⟩ := entryInputId_text h
  have hinput := text_str hid (one_le_length hidNe)
  have hcode := text_str h.code.1 (one_le_length h.code.2)
  have hmessage := text_str h.message.1 (one_le_length h.message.2)
  have hkeys : KnowsKeys ["input_id", "reason_code", "reason"] (qualityEntry issue) := by
    intro key hkey
    exact hkey
  have hgetId : (qualityEntry issue).get "input_id" = .str (entryInputId issue) := by
    simp [qualityEntry, texts, textFields, Json.get]
  have hgetCode : (qualityEntry issue).get "reason_code" = .str issue.code := by
    simp [qualityEntry, texts, textFields, Json.get]
  have hgetReason : (qualityEntry issue).get "reason" = .str issue.message := by
    simp [qualityEntry, texts, textFields, Json.get]
  unfold ReportQualityIssue.modelValidate
  rw [guard, if_pos hkeys, hgetId, hgetCode, hgetReason, hinput, hcode, hmessage]
  rfl

/-- A list is read when each of its values is. -/
theorem listOf_isSome {α : Type} {item : Json → Option α} {j : Json} :
    (listOf item j).isSome ↔ ∃ items, j = .arr items ∧ ∀ value ∈ items, (item value).isSome := by
  unfold listOf
  cases j with
  | arr items =>
    simp only [Json.toArr?, Option.bind_eq_bind, Option.bind_some, mapM_isSome]
    constructor
    · intro h
      exact ⟨items, rfl, h⟩
    · rintro ⟨_, heq, h⟩
      cases heq
      exact h
  | _ => simp [Json.toArr?]

theorem qualityBucket_mem (code : String) : qualityBucket code ∈ qualityBuckets := by
  unfold qualityBucket qualityBuckets
  split_ifs <;> simp

/-- One more issue leaves the data quality valid. -/
theorem addIssue_valid {quality after : Json} {issue : ReportValidationIssue}
    (hissue : IssueTexts issue) (hquality : (ReportDataQuality.modelValidate quality).isSome)
    (h : addIssue quality issue = .ok after) :
    (ReportDataQuality.modelValidate after).isSome := by
  obtain ⟨entries, hentries, hafter⟩ := Raising.bind_ok.mp h
  -- the three conditions of the contract: keys, status, buckets
  obtain ⟨hkeys, hstatus, hbuckets⟩ := dataQuality_isSome.mp hquality
  have hbucket := qualityBucket_mem issue.code
  have hne : qualityBucket issue.code ≠ "status" := by
    -- a bucket is never the status
    intro heq
    rw [heq] at hbucket
    exact absurd hbucket (by decide)
  cases hafter
  refine dataQuality_isSome.mpr ⟨hkeys.set (List.mem_cons_of_mem _ hbucket), ?_, ?_⟩
  · rw [Json.get_set, if_neg hne]
    exact hstatus
  · intro bucket hmem
    rw [Json.get_set]
    -- the bucket that the issue goes to keeps its entries, and may get one more
    by_cases hsame : qualityBucket issue.code = bucket
    · rw [if_pos hsame]
      subst hsame
      obtain ⟨items, hitems, hvalid⟩ := listOf_isSome.mp (hbuckets _ hmem)
      have hold : items = entries := by
        rw [hitems] at hentries
        cases hentries
        rfl
      subst hold
      refine listOf_isSome.mpr ⟨_, rfl, ?_⟩
      intro value hvalue
      split at hvalue
      · exact hvalid value hvalue
      · rcases List.mem_append.mp hvalue with hin | hnew
        · exact hvalid value hin
        · rw [List.mem_singleton.mp hnew]
          exact qualityEntry_valid hissue
    -- the other buckets are as before
    · rw [if_neg hsame]
      exact hbuckets bucket hmem

/-- After all issues the data quality is valid. -/
theorem addIssues_valid {issues : List ReportValidationIssue} {quality after : Json}
    (hissues : ∀ issue ∈ issues, IssueTexts issue)
    (hquality : (ReportDataQuality.modelValidate quality).isSome)
    (h : issues.foldlM addIssue quality = .ok after) :
    (ReportDataQuality.modelValidate after).isSome := by
  induction issues generalizing quality with
  | nil =>
    cases h
    exact hquality
  | cons issue issues ih =>
    rw [List.foldlM_cons] at h
    obtain ⟨next, hnext, hrest⟩ := Raising.bind_ok.mp h
    have hvalid := addIssue_valid (hissues issue List.mem_cons_self) hquality hnext
    exact ih (fun other hother => hissues other (List.mem_cons_of_mem _ hother)) hvalid hrest

/-- A new status leaves the data quality valid. -/
theorem setStatus_valid {quality : Json} (status : ReportStatus)
    (h : (ReportDataQuality.modelValidate quality).isSome) :
    (ReportDataQuality.modelValidate
      (quality.set "status" (literalText reportStatuses status))).isSome := by
  obtain ⟨hkeys, -, hbuckets⟩ := dataQuality_isSome.mp h
  refine dataQuality_isSome.mpr ⟨hkeys.set List.mem_cons_self, ?_, ?_⟩
  · rw [Json.get_set, if_pos rfl, literal_status]
    rfl
  · intro bucket hmem
    have hne : "status" ≠ bucket := by
      rintro rfl
      exact absurd hmem (by decide)
    rw [Json.get_set, if_neg hne]
    exact hbuckets bucket hmem

/-! ## The notice -/

/-- What two sections have in common that differ in their text alone. -/
structure SameReferences (before after : SectionFields) : Prop where
  sectionId : after.sectionId = before.sectionId
  factIds : after.factIds = before.factIds
  sourceRefIds : after.sourceRefIds = before.sourceRefIds
  items : after.items = before.items
  claims : after.claims = before.claims

/-- The fields of the notice after its update. -/
def SectionFields.withNotice (notice : SectionFields) (noticeText : String)
    (issueCodes : List String) : SectionFields :=
  { notice with
    status := .complete
    text := some noticeText
    characterCount := noticeText.length
    issueCodes }

theorem qualityNotice_stripped (status : ReportStatus) (issues : List ReportValidationIssue) :
    modelStrip (qualityNotice status issues) = qualityNotice status issues := by
  unfold qualityNotice
  split_ifs <;> decide +kernel

theorem listOf_strings (values : List String) :
    listOf (text 0) (strings values) = some (values.map modelStrip) := by
  have hmap : (values.map Json.str).mapM (text 0) = some (values.map modelStrip) := by
    induction values with
    | nil => rfl
    | cons value values ih =>
      rw [List.map_cons, List.mapM_cons, ih]
      simp [text, Json.toStr?]
  unfold listOf strings
  rw [Json.toArr?]
  exact hmap

/-- The update of the notice leaves its other keys. -/
theorem finalNotice_get {status : ReportStatus} {issues : List ReportValidationIssue}
    {notice default : Json} {key : String}
    (h : key ∉ ["status", "text", "character_count", "issue_codes"]) :
    (finalNotice status issues notice).get key default = notice.get key default := by
  simp only [List.mem_cons, List.not_mem_nil, or_false, not_or] at h
  obtain ⟨hstatus, htext, hcount, hcodes⟩ := h
  unfold finalNotice
  rw [Json.get_set, if_neg (Ne.symm hcodes), Json.get_set, if_neg (Ne.symm hcount), Json.get_set,
    if_neg (Ne.symm htext), Json.get_set, if_neg (Ne.symm hstatus)]

/-- The final notice is the old one with the new text and codes. -/
theorem finalNotice_read {notice : Json} {before : SectionFields} (status : ReportStatus)
    (issues : List ReportValidationIssue)
    (h : SectionFields.read pydantic notice = some before) :
    SectionFields.read pydantic (finalNotice status issues notice) =
      some (before.withNotice (qualityNotice status issues)
        ((sortedSet (issues.map (·.code))).map modelStrip)) := by
  obtain ⟨hkeys, hid, -, -, hlimit, -, hfactIds, hsourceIds, hitems, hclaims, hdays, -,
    hreason⟩ := SectionFields.read_some.mp h
  -- the four fields of the notice are written, the others read as before
  refine SectionFields.read_some.mpr ⟨?_, ?_, ?_, ?_, ?_, ?_, ?_, ?_, ?_, ?_, ?_, ?_, ?_⟩
  · exact KnowsKeys.set (KnowsKeys.set (KnowsKeys.set (KnowsKeys.set hkeys (by simp)) (by simp))
      (by simp)) (by simp)
  · rw [finalNotice_get (by simp)]
    exact hid
  · simp [finalNotice, Json.get_set, literal, sectionStatuses, Json.toStr?,
      SectionFields.withNotice]
  · simp [finalNotice, Json.get_set, natural, SectionFields.withNotice]
  · rw [finalNotice_get (by simp)]
    exact hlimit
  · have hstrip := qualityNotice_stripped status issues
    simp [finalNotice, Json.get_set, Json.toOption?, SectionFields.withNotice,
      text_str hstrip (Nat.zero_le _)]
  · rw [finalNotice_get (by simp)]
    exact hfactIds
  · rw [finalNotice_get (by simp)]
    exact hsourceIds
  · rw [finalNotice_get (by simp)]
    exact hitems
  · rw [finalNotice_get (by simp)]
    exact hclaims
  · rw [finalNotice_get (by simp)]
    exact hdays
  · simp [finalNotice, Json.get_set, listOf_strings, SectionFields.withNotice]
  · rw [finalNotice_get (by simp)]
    exact hreason

/-- The visible text of the items alone. -/
theorem visibleLength_eq (sectionText : Option String) (items : List Json) :
    visibleLength sectionText items =
      (sectionText.getD "").length + visibleLength none items := by
  unfold visibleLength visibleTexts
  simp

/-- The notice still fits its section. -/
structure NoticeFits (noticeText : String) (notice : SectionFields) : Prop where
  noLabels : visibleLength none notice.items = 0
  room : noticeText.length ≤ notice.maxCharacters

instance (noticeText : String) (notice : SectionFields) :
    Decidable (NoticeFits noticeText notice) :=
  decidable_of_iff (visibleLength none notice.items = 0 ∧
    noticeText.length ≤ notice.maxCharacters) ⟨fun h => ⟨h.1, h.2⟩, fun h => ⟨h.1, h.2⟩⟩

/-- The new text is valid when it fits. -/
theorem withNotice_visibleText {notice : SectionFields} {noticeText : String}
    {issueCodes : List String} (h : notice.VisibleText) :
    (notice.withNotice noticeText issueCodes).VisibleText ↔ NoticeFits noticeText notice := by
  have hlength : visibleLength (some noticeText) notice.items =
      noticeText.length + visibleLength none notice.items :=
    visibleLength_eq (some noticeText) notice.items
  constructor
  · intro hafter
    have hcount : visibleLength (some noticeText) notice.items = noticeText.length := hafter.count
    exact ⟨by omega, hafter.within⟩
  · intro hfits
    have hnone := hfits.noLabels
    refine ⟨?_, h.limit, hfits.room⟩
    show visibleLength (some noticeText) notice.items = noticeText.length
    omega

theorem withNotice_sameReferences (notice : SectionFields) (noticeText : String)
    (issueCodes : List String) : SameReferences notice (notice.withNotice noticeText issueCodes) :=
  ⟨rfl, rfl, rfl, rfl, rfl⟩

/-! ## References -/

theorem mapM_congr_map {α β : Type} {f : α → Option β} {xs ys : List α}
    (h : xs.map f = ys.map f) : xs.mapM f = ys.mapM f := by
  have hid : ∀ zs : List α, zs.mapM f = (zs.map f).mapM id := by
    intro zs
    rw [List.mapM_map]
    rfl
  rw [hid xs, hid ys, h]

/-- A walk through a flattened list, part by part. -/
theorem mapM_flatMap_flatten {α β γ : Type} {f : β → Option (List γ)} {g : α → List β}
    {xs : List α} :
    (((xs.flatMap g).mapM f).map List.flatten) =
      ((xs.mapM fun x => ((g x).mapM f).map List.flatten).map List.flatten) := by
  -- induction on the outer list, by what the first part and the rest give
  induction xs with
  | nil => rfl
  | cons x xs ih =>
    rw [List.flatMap_cons, List.mapM_append, List.mapM_cons]
    cases hx : (g x).mapM f with
    | none => rfl
    | some first =>
      cases hrest : (xs.flatMap g).mapM f with
      | none =>
        rw [hrest] at ih
        cases hparts : xs.mapM fun x => ((g x).mapM f).map List.flatten with
        | none => rfl
        | some parts =>
          rw [hparts] at ih
          cases ih
      | some rest =>
        rw [hrest] at ih
        cases hparts : xs.mapM fun x => ((g x).mapM f).map List.flatten with
        | none =>
          rw [hparts] at ih
          cases ih
        | some parts =>
          rw [hparts] at ih
          have hflatten : rest.flatten = parts.flatten := Option.some.inj ih
          simp [hflatten]

theorem strictReferenceIds_eq (fieldName : String) (j : Json) :
    strictReferenceIds fieldName j =
      ((Json.subvalues j).mapM (references? fieldName)).map List.flatten := by
  unfold strictReferenceIds
  cases (Json.subvalues j).mapM (references? fieldName) <;> rfl

/-- The references of an object are its own, then those of its fields. -/
theorem strictReferenceIds_obj (fieldName : String) (fields : List (String × Json)) :
    strictReferenceIds fieldName (.obj fields) =
      (references? fieldName (.obj fields)).bind fun own =>
        ((fields.mapM fun field => strictReferenceIds fieldName field.2).map List.flatten).map
          (own ++ ·) := by
  have hfields : ((Json.subvaluesOfFields fields).mapM (references? fieldName)).map List.flatten =
      (fields.mapM fun field => strictReferenceIds fieldName field.2).map List.flatten := by
    simp only [strictReferenceIds_eq]
    rw [Json.subvaluesOfFields_eq, mapM_flatMap_flatten]
  rw [strictReferenceIds_eq, Json.subvalues, List.mapM_cons, ← hfields]
  cases references? fieldName (.obj fields) with
  | none => rfl
  | some own =>
    cases (Json.subvaluesOfFields fields).mapM (references? fieldName) with
    | none => rfl
    | some rest => rfl

theorem strictReferenceIds_str (fieldName value : String) :
    strictReferenceIds fieldName (.str value) = some [] := rfl

theorem strictReferenceIds_ofOption_str (fieldName : String) (value : Option String) :
    strictReferenceIds fieldName (.ofOption .str value) = some [] := by
  cases value <;> rfl

theorem strictReferenceIds_int (fieldName : String) (n : ℤ) :
    strictReferenceIds fieldName (.int n) = some [] := rfl

theorem strictReferenceIds_ofOption_int (fieldName : String) (value : Option ℕ) :
    strictReferenceIds fieldName (.ofOption (fun n : ℕ => .int n) value) = some [] := by
  cases value <;> rfl

theorem strictReferenceIds_literalText {α : Type} [DecidableEq α] (fieldName : String)
    (values : List (String × α)) (value : α) :
    strictReferenceIds fieldName (literalText values value) = some [] := by
  unfold literalText
  cases values.find? fun entry => entry.2 = value <;> rfl

/-- A list of texts has no references inside. -/
theorem strictReferenceIds_strs (fieldName : String) (values : List String) :
    strictReferenceIds fieldName (.arr (values.map .str)) = some [] := by
  -- a text has no parts, so the walk meets nothing
  have hitems : Json.subvaluesOfItems (values.map .str) = values.map .str := by
    induction values with
    | nil => rfl
    | cons value values ih =>
      rw [List.map_cons, Json.subvaluesOfItems, ih]
      rfl
  have hnone : ∀ items : List String,
      ((items.map Json.str).mapM (references? fieldName)).map List.flatten = some [] := by
    intro items
    induction items with
    | nil => rfl
    | cons item items ih =>
      rw [List.map_cons, List.mapM_cons]
      cases hrest : (items.map Json.str).mapM (references? fieldName) with
      | none =>
        rw [hrest] at ih
        cases ih
      | some rest =>
        rw [hrest] at ih
        exact ih
  rw [strictReferenceIds_eq, Json.subvalues, hitems, List.mapM_cons]
  have hrest := hnone values
  cases hvalues : (values.map Json.str).mapM (references? fieldName) with
  | none =>
    rw [hvalues] at hrest
    cases hrest
  | some rest =>
    rw [hvalues] at hrest
    exact hrest

/-- The text of a section has no part in its references. -/
theorem strictReferenceIds_modelDump {fieldName : String} {before after : SectionFields}
    (hname : fieldName = "fact_ids" ∨ fieldName = "source_ref_ids")
    (h : SameReferences before after) :
    strictReferenceIds fieldName after.modelDump = strictReferenceIds fieldName before.modelDump := by
  have hown : references? fieldName after.modelDump = references? fieldName before.modelDump := by
    rcases hname with rfl | rfl
    · simp [references?, SectionFields.modelDump, Json.get, h.factIds]
    · simp [references?, SectionFields.modelDump, Json.get, h.sourceRefIds]
  unfold SectionFields.modelDump at hown ⊢
  rw [strictReferenceIds_obj, strictReferenceIds_obj, hown]
  congr 1
  funext own
  congr 2
  refine mapM_congr_map ?_
  simp only [List.map_cons, List.map_nil, strictReferenceIds_str, strictReferenceIds_int,
    strictReferenceIds_ofOption_str, strictReferenceIds_ofOption_int,
    strictReferenceIds_literalText, strictReferenceIds_strs, h.items, h.claims]

/-! ## The sections -/

/-- Sections that differ in their texts alone. -/
def SameSections (before after : List (String × ReportSection)) : Prop :=
  List.Forall₂ (fun b a => a.1 = b.1 ∧ SameReferences b.2.toSectionFields a.2.toSectionFields)
    before after

theorem SameSections.refl (sections : List (String × ReportSection)) :
    SameSections sections sections := by
  unfold SameSections
  rw [List.forall₂_same]
  intro entry _
  exact ⟨rfl, rfl, rfl, rfl, rfl, rfl⟩

theorem SameSections.map_eq {β : Type} {before after : List (String × ReportSection)}
    (h : SameSections before after) {f : String × ReportSection → β}
    (hf : ∀ b a : String × ReportSection, a.1 = b.1 →
      SameReferences b.2.toSectionFields a.2.toSectionFields → f a = f b) :
    after.map f = before.map f := by
  induction h with
  | nil => rfl
  | cons hhead _ ih => rw [List.map_cons, List.map_cons, ih, hf _ _ hhead.1 hhead.2]

/-- A section is replaced by one with its references. -/
theorem SameSections.assign {before after : List (String × ReportSection)} {key : String}
    {b a : ReportSection} (h : SameSections before after)
    (hvalue : SameReferences b.toSectionFields a.toSectionFields) :
    SameSections (Json.assign key b before) (Json.assign key a after) := by
  induction h with
  | nil => exact List.Forall₂.cons ⟨rfl, hvalue⟩ List.Forall₂.nil
  | cons hhead htail ih =>
    rename_i entry other _ _
    unfold Json.assign
    by_cases hkey : entry.1 = key
    · rw [if_pos hkey, if_pos (hhead.1.trans hkey)]
      exact List.Forall₂.cons ⟨rfl, hvalue⟩ htail
    · rw [if_neg hkey, if_neg (by rw [hhead.1]; exact hkey)]
      exact List.Forall₂.cons hhead ih

/-- Repeated keys are dropped on both sides alike. -/
theorem SameSections.dict {before after : List (String × ReportSection)}
    (h : SameSections before after) : SameSections (Json.dict before) (Json.dict after) := by
  have hfold : ∀ (starts ends : List (String × ReportSection)), SameSections starts ends →
      SameSections (before.foldl (fun fields pair => Json.assign pair.1 pair.2 fields) starts)
        (after.foldl (fun fields pair => Json.assign pair.1 pair.2 fields) ends) := by
    induction h with
    | nil => exact fun _ _ hstart => hstart
    | cons hhead _ ih =>
      intro starts ends hstart
      rw [List.foldl_cons, List.foldl_cons, hhead.1]
      exact ih _ _ (hstart.assign hhead.2)
  exact hfold [] [] List.Forall₂.nil

/-- One section of the dict of sections. -/
def readEntry (pydantic : Pydantic) (field : String × Json) : Option (String × ReportSection) := do
  some (modelStrip field.1, ← ReportSection.modelValidate pydantic field.2)

theorem readSections_eq (fields : List (String × Json)) :
    readSections pydantic (.obj fields) = (fields.mapM (readEntry pydantic)).map Json.dict := by
  unfold readSections readEntry
  rw [Json.toObj?]
  simp only [Option.bind_eq_bind, Option.bind_some]
  cases fields.mapM fun field => (ReportSection.modelValidate pydantic field.2).bind fun sect =>
    some (modelStrip field.1, sect) <;> rfl

/-- A new value of a key, with the same references. -/
theorem readSections_assign {key : String} {old new : Json} {b a : ReportSection}
    (hold : ReportSection.modelValidate pydantic old = some b)
    (hnew : ReportSection.modelValidate pydantic new = some a)
    (hsame : SameReferences b.toSectionFields a.toSectionFields) :
    ∀ {fields : List (String × Json)} {entries : List (String × ReportSection)},
      (fields.find? fun field => field.1 = key) = some (key, old) →
      fields.mapM (readEntry pydantic) = some entries →
      ∃ after, (Json.assign key new fields).mapM (readEntry pydantic) = some after ∧
        SameSections entries after := by
  intro fields
  -- induction on the fields: the key is at the head or further on
  induction fields with
  | nil =>
    intro entries hfind
    cases hfind
  | cons field fields ih =>
    intro entries hfind hread
    rw [List.mapM_cons] at hread
    obtain ⟨entry, hentry, hrest⟩ := Option.bind_eq_some_iff.mp hread
    obtain ⟨rest, hfields, hentries⟩ := Option.bind_eq_some_iff.mp hrest
    cases hentries
    unfold Json.assign
    rw [List.find?_cons] at hfind
    by_cases hkey : field.1 = key
    · -- the field that is replaced
      rw [decide_eq_true hkey] at hfind
      cases hfind
      have hb : entry = (modelStrip key, b) := by
        unfold readEntry at hentry
        rw [hold] at hentry
        exact (Option.some.inj hentry).symm
      have ha : readEntry pydantic (key, new) = some (modelStrip key, a) := by
        unfold readEntry
        rw [hnew]
        rfl
      rw [if_pos rfl, List.mapM_cons, ha, hfields, hb]
      exact ⟨_, rfl, List.Forall₂.cons ⟨rfl, hsame⟩ (SameSections.refl rest)⟩
    -- a field before it stays
    · rw [decide_eq_false hkey] at hfind
      obtain ⟨after, hafter, hsections⟩ := ih hfind hfields
      rw [if_neg hkey, List.mapM_cons, hentry, hafter]
      refine ⟨_, rfl, List.Forall₂.cons ⟨rfl, ?_⟩ hsections⟩
      exact ⟨rfl, rfl, rfl, rfl, rfl⟩

theorem mem_assign {α : Type} (key : String) (value : α) (fields : List (String × α)) :
    (key, value) ∈ Json.assign key value fields := by
  have hfind := @Json.find?_assign α key key value fields
  rw [if_pos rfl] at hfind
  exact List.mem_of_find?_eq_some hfind

/-- A field after an assignment is the new one or an old one. -/
theorem mem_of_mem_assign {α : Type} {key : String} {value : α} {fields : List (String × α)}
    {field : String × α} (h : field ∈ Json.assign key value fields) :
    field = (key, value) ∨ field ∈ fields := by
  induction fields with
  | nil => exact Or.inl (List.mem_singleton.mp h)
  | cons first fields ih =>
    unfold Json.assign at h
    by_cases hkey : first.1 = key
    · rw [if_pos hkey] at h
      rcases List.mem_cons.mp h with hnew | hold
      · exact Or.inl hnew
      · exact Or.inr (List.mem_cons_of_mem first hold)
    · rw [if_neg hkey] at h
      rcases List.mem_cons.mp h with rfl | hrest
      · exact Or.inr List.mem_cons_self
      · rcases ih hrest with hnew | hold
        · exact Or.inl hnew
        · exact Or.inr (List.mem_cons_of_mem first hold)

/-- Sections are not read when one of them is not valid. -/
theorem readSections_assign_none {key : String} {new : Json} {fields : List (String × Json)}
    (hnew : ReportSection.modelValidate pydantic new = none) :
    readSections pydantic (.obj (Json.assign key new fields)) = none := by
  rw [readSections_eq]
  have hnone : ¬ ((Json.assign key new fields).mapM (readEntry pydantic)).isSome := by
    intro hsome
    have hentry := mapM_isSome.mp hsome (key, new) (mem_assign key new fields)
    unfold readEntry at hentry
    rw [hnew] at hentry
    cases hentry
  rw [Option.not_isSome_iff_eq_none.mp hnone]
  rfl

/-! ## The references of the report -/

theorem SameSections.find? {before after : List (String × ReportSection)} (sectionId : String)
    (h : SameSections before after) :
    ((after.find? fun entry => entry.1 = sectionId).map fun entry => entry.2.items) =
      (before.find? fun entry => entry.1 = sectionId).map fun entry => entry.2.items := by
  induction h with
  | nil => rfl
  | cons hhead _ ih =>
    rw [List.find?_cons, List.find?_cons, hhead.1]
    split
    · simp [hhead.2.items]
    · exact ih

theorem ReportFields.sources?_eq (fields : ReportFields) : fields.sources? pydantic =
    ((fields.sections.find? fun entry => entry.1 = "source_references").map fun entry =>
      entry.2.items).bind fun items =>
        items.mapM (ReportSourceReference.modelValidate pydantic) := by
  unfold ReportFields.sources? ReportFields.section?
  cases fields.sections.find? fun entry => entry.1 = "source_references" <;> rfl

/-- The references of a report stay valid when the texts of its sections change. -/
theorem References.of_sameSections {before after : ReportFields}
    (h : before.References pydantic) (hsections : SameSections before.sections after.sections)
    (hsnapshot : after.inputSnapshot = before.inputSnapshot)
    (hdecision : after.status = .incomplete → after.publication.decision = .notPublished) :
    after.References pydantic := by
  -- keys, claims and the walks are functions of what the sections agree on
  have hkeys : after.sections.map Prod.fst = before.sections.map Prod.fst :=
    hsections.map_eq fun b a hkey _ => hkey
  have hclaims : after.claimFactIds = before.claimFactIds := by
    have hmap : after.sections.map (fun entry => entry.2.claims.map (·.factId)) =
        before.sections.map fun entry => entry.2.claims.map (·.factId) :=
      hsections.map_eq fun b a _ hsame => by rw [hsame.claims]
    unfold ReportFields.claimFactIds
    rw [List.flatMap_def, List.flatMap_def, hmap]
  have hreferences : ∀ fieldName, fieldName = "fact_ids" ∨ fieldName = "source_ref_ids" →
      after.references? fieldName = before.references? fieldName := by
    intro fieldName hname
    have hmap := mapM_congr_map (hsections.map_eq (f := fun entry =>
      strictReferenceIds fieldName entry.2.modelDump) fun b a _ hsame =>
        strictReferenceIds_modelDump hname hsame)
    unfold ReportFields.references?
    rw [hmap]
  have hsources : after.sources? pydantic = before.sources? pydantic := by
    rw [ReportFields.sources?_eq, ReportFields.sources?_eq, hsections.find?]
  have hids : after.sections.map (fun entry => (entry.1, entry.2.sectionId)) =
      before.sections.map fun entry => (entry.1, entry.2.sectionId) :=
    hsections.map_eq fun b a hkey hsame => by rw [hkey, hsame.sectionId]
  -- the four conditions of the contract
  refine ⟨?_, ?_, hdecision, ?_, ?_⟩
  · rw [hkeys]
    exact h.sections
  · have hbefore : ∀ pair ∈ before.sections.map fun entry => (entry.1, entry.2.sectionId),
        pair.2 = pair.1 := by
      rw [List.forall_mem_map]
      exact h.keys
    rw [← hids, List.forall_mem_map] at hbefore
    exact hbefore
  · rw [hreferences "fact_ids" (Or.inl rfl), hclaims, hsnapshot]
    exact h.facts
  · rw [hsources, hreferences "source_ref_ids" (Or.inr rfl)]
    exact h.sources

/-! ## The finalized payload -/

/-- The notice of a payload, as it is read. -/
def noticeOf (pydantic : Pydantic) (payload : Json) : Option SectionFields :=
  SectionFields.read pydantic ((payload.get "sections").get "data_quality_notice")

/-- What `_finalize_report` of a publishable report comes to. -/
theorem finalizeReport_publishable {report finalized : StoredDailyReport Json}
    {issues : List ReportValidationIssue} (h : finalizeReport report issues = .ok finalized)
    (hpublishable : isPublishable report issues = true) :
    ∃ quality, issues.foldlM addIssue ((report.payload.get "data_quality" (.obj [])).set "status"
        (literalText reportStatuses (finalStatus report issues))) = .ok quality ∧
      finalized.publicationDecision = .published ∧ finalized.reportId = report.reportId ∧
      finalized.payload = (((report.payload.set "status"
        (literalText reportStatuses (finalStatus report issues))).set "publication"
          (finalPublication true (report.payload.get "publication" (.obj [])))).set "data_quality"
          quality).set "sections" ((report.payload.get "sections" (.obj [])).set
            "data_quality_notice" (finalNotice (finalStatus report issues) issues
              ((report.payload.get "sections" (.obj [])).get "data_quality_notice" (.obj [])))) := by
  unfold finalizeReport at h
  rw [hpublishable] at h
  obtain ⟨publication, hpublication, h⟩ := Raising.bind_ok.mp h
  obtain ⟨start, hstart, h⟩ := Raising.bind_ok.mp h
  obtain ⟨quality, hquality, h⟩ := Raising.bind_ok.mp h
  obtain ⟨notice, hnotice, h⟩ := Raising.bind_ok.mp h
  have hdict : ∀ {value dict : Json}, pyDict value = .ok dict → dict = value := by
    intro value dict hvalue
    unfold pyDict at hvalue
    split at hvalue
    · cases hvalue
      rfl
    · cases hvalue
  rw [hdict hpublication, hdict hnotice] at h
  rw [hdict hstart] at hquality
  cases h
  exact ⟨quality, hquality, rfl, rfl, rfl⟩

theorem finalStatus_publishable {report : StoredDailyReport Json}
    {issues : List ReportValidationIssue} (h : isPublishable report issues = true) :
    finalStatus report issues ≠ .incomplete := by
  unfold finalStatus
  rw [if_neg (by simp [h])]
  split
  · simp
  · exact (of_decide_eq_true h).2

theorem readSections_obj {j : Json} {sections : List (String × ReportSection)}
    (h : readSections pydantic j = some sections) : ∃ fields entries, j = .obj fields ∧
      fields.mapM (readEntry pydantic) = some entries ∧ sections = Json.dict entries := by
  cases j with
  | obj fields =>
    rw [readSections_eq] at h
    obtain ⟨entries, hentries, hdict⟩ := Option.map_eq_some_iff.mp h
    exact ⟨fields, entries, rfl, hentries, hdict.symm⟩
  | _ => simp [readSections, Json.toObj?] at h

/-- A key that is there with another value than null. -/
theorem find?_of_get_ne_null {fields : List (String × Json)} {key : String}
    (h : (Json.obj fields).get key ≠ .null) :
    (fields.find? fun field => field.1 = key) = some (key, (Json.obj fields).get key) := by
  have hget : (Json.obj fields).get key =
      ((fields.find? fun field => field.1 = key).map Prod.snd).getD .null := rfl
  cases hfind : fields.find? fun field => field.1 = key with
  | none =>
    rw [hget, hfind] at h
    exact absurd rfl h
  | some field =>
    have hfound := List.find?_some hfind
    have hkey : field.1 = key := of_decide_eq_true hfound
    rw [hget, hfind, ← hkey]
    rfl

theorem SectionFields.read_ne_null {j : Json} {fields : SectionFields}
    (h : SectionFields.read pydantic j = some fields) : j ≠ .null := by
  rintro rfl
  obtain ⟨-, hid, -⟩ := SectionFields.read_some.mp h
  have hnone : Report.text 1 (Json.null.get "section_id") = none := rfl
  rw [hnone] at hid
  cases hid

theorem readEntry_isSome {field : String × Json} (h : (readEntry pydantic field).isSome) :
    ∃ sect, ReportSection.modelValidate pydantic field.2 = some sect := by
  unfold readEntry at h
  cases hread : ReportSection.modelValidate pydantic field.2 with
  | none =>
    rw [hread] at h
    cases h
  | some sect => exact ⟨sect, rfl⟩

/-- The sections of the finalized payload, when the notice fits. -/
theorem finalSections_valid {sections : Json} {before : List (String × ReportSection)}
    {notice : SectionFields} {status : ReportStatus} {issues : List ReportValidationIssue}
    (hbefore : readSections pydantic sections = some before)
    (hnotice : SectionFields.read pydantic (sections.get "data_quality_notice") = some notice)
    (hfits : NoticeFits (qualityNotice status issues) notice) :
    ∃ after, readSections pydantic (sections.set "data_quality_notice" (finalNotice status issues
        (sections.get "data_quality_notice" (.obj [])))) = some after ∧
      SameSections before after := by
  obtain ⟨fields, entries, rfl, hentries, rfl⟩ := readSections_obj hbefore
  have hnull := SectionFields.read_ne_null hnotice
  have hfind := find?_of_get_ne_null hnull
  rw [get_default_of_ne_null hnull]
  -- the section was valid, and what is new in it is its text
  have hentry : (readEntry pydantic
      ("data_quality_notice", (Json.obj fields).get "data_quality_notice")).isSome :=
    mapM_isSome.mp (Option.isSome_iff_exists.mpr ⟨entries, hentries⟩) _
      (List.mem_of_find?_eq_some hfind)
  obtain ⟨b, hb⟩ := readEntry_isSome hentry
  have hfieldsOf := ReportSection.modelValidate_some.mp hb
  have hsame : notice = b.toSectionFields := by
    rw [hnotice] at hfieldsOf
    exact Option.some.inj hfieldsOf
  subst hsame
  have hnew : ReportSection.modelValidate pydantic (finalNotice status issues
      ((Json.obj fields).get "data_quality_notice")) =
        some ⟨_, (withNotice_visibleText b.visibleText).mpr hfits⟩ :=
    ReportSection.modelValidate_some.mpr (finalNotice_read status issues hnotice)
  obtain ⟨after, hafter, hsections⟩ := readSections_assign hb hnew
    (withNotice_sameReferences _ _ _) hfind hentries
  refine ⟨Json.dict after, ?_, hsections.dict⟩
  show readSections pydantic (.obj (Json.assign "data_quality_notice" _ fields)) = _
  rw [readSections_eq, hafter]
  rfl

/-- When the finalized sections are read, the notice fits. -/
theorem finalSections_fits {sections : Json} {before after : List (String × ReportSection)}
    {status : ReportStatus} {issues : List ReportValidationIssue}
    (hbefore : readSections pydantic sections = some before)
    (hafter : readSections pydantic (sections.set "data_quality_notice" (finalNotice status issues
        (sections.get "data_quality_notice" (.obj [])))) = some after) :
    ∃ notice, SectionFields.read pydantic (sections.get "data_quality_notice") = some notice ∧
      NoticeFits (qualityNotice status issues) notice := by
  obtain ⟨fields, entries, rfl, hentries, rfl⟩ := readSections_obj hbefore
  obtain ⟨a, ha⟩ : ∃ a, ReportSection.modelValidate pydantic (finalNotice status issues
      ((Json.obj fields).get "data_quality_notice" (.obj []))) = some a := by
    -- a notice that is refused would have made the walk over the sections fail
    cases hnew : ReportSection.modelValidate pydantic (finalNotice status issues
        ((Json.obj fields).get "data_quality_notice" (.obj []))) with
    | none =>
      have hnone := @readSections_assign_none pydantic "data_quality_notice" _ fields hnew
      have hafter : readSections pydantic (.obj (Json.assign "data_quality_notice"
          (finalNotice status issues ((Json.obj fields).get "data_quality_notice" (.obj [])))
            fields)) = some after := hafter
      rw [hnone] at hafter
      cases hafter
    | some a => exact ⟨a, rfl⟩
  have hread := ReportSection.modelValidate_some.mp ha
  by_cases hnull : (Json.obj fields).get "data_quality_notice" = .null
  · -- a notice that is made from nothing has no section id
    obtain ⟨-, hid, -⟩ := SectionFields.read_some.mp hread
    rw [finalNotice_get (by simp)] at hid
    have hnone : ((Json.obj fields).get "data_quality_notice" (.obj [])).get "section_id" =
        .null := by
      rcases (Json.obj fields).get_default "data_quality_notice" (.obj []) with hkey | ⟨-, hkey⟩
      · rw [hkey, hnull]
        rfl
      · rw [hkey]
        rfl
    rw [hnone] at hid
    cases hid
  · have hfind := find?_of_get_ne_null hnull
    rw [get_default_of_ne_null hnull] at hread
    have hentry : (readEntry pydantic
        ("data_quality_notice", (Json.obj fields).get "data_quality_notice")).isSome :=
      mapM_isSome.mp (Option.isSome_iff_exists.mpr ⟨entries, hentries⟩) _
        (List.mem_of_find?_eq_some hfind)
    obtain ⟨b, hb⟩ := readEntry_isSome hentry
    have hold := ReportSection.modelValidate_some.mp hb
    refine ⟨b.toSectionFields, hold, ?_⟩
    -- the notice that is read is the old one with the new text, so its length fits
    have hnew := finalNotice_read status issues hold
    rw [hread] at hnew
    have hvisible := a.visibleText
    rw [Option.some.inj hnew] at hvisible
    exact (withNotice_visibleText b.visibleText).mp hvisible

/-- A finalized payload whose notice fits satisfies the contract. -/
theorem finalized_valid {report finalized : StoredDailyReport Json}
    {issues : List ReportValidationIssue} {typed : DailyReport pydantic} {notice : SectionFields}
    (htyped : DailyReport.modelValidate pydantic report.payload = some typed)
    (hissues : ∀ issue ∈ issues, IssueTexts issue)
    (h : finalizeReport report issues = .ok finalized)
    (hpublishable : isPublishable report issues = true)
    (hnotice : noticeOf pydantic report.payload = some notice)
    (hfits : NoticeFits (qualityNotice (finalStatus report issues) issues) notice) :
    ∃ after : DailyReport pydantic, DailyReport.modelValidate pydantic finalized.payload =
        some after ∧ after.reportId = typed.reportId ∧
      after.publication.decision = .published ∧ SameSections typed.sections after.sections := by
  obtain ⟨hkeys, hname, hversion, hzone, hid, hdate, hschedule, hcalendar, hgenerated, hsnapshot,
    -, hpublication, hquality, hsections⟩ :=
      ReportFields.read_some.mp (DailyReport.modelValidate_some.mp htyped)
  obtain ⟨quality, hadded, -, -, hpayload⟩ := finalizeReport_publishable h hpublishable
  -- none of the three parts is missing, for the contract read each of them
  have hpublicationNull : report.payload.get "publication" ≠ .null := by
    intro hnull
    rw [hnull] at hpublication
    cases hpublication
  have hqualityNull : report.payload.get "data_quality" ≠ .null := by
    intro hnull
    rw [hnull] at hquality
    cases hquality
  have hsectionsNull : report.payload.get "sections" ≠ .null := by
    intro hnull
    rw [hnull] at hsections
    cases hsections
  rw [get_default_of_ne_null hpublicationNull, get_default_of_ne_null hsectionsNull] at hpayload
  rw [get_default_of_ne_null hqualityNull] at hadded
  obtain ⟨sections, hread, hsame⟩ := finalSections_valid hsections hnotice hfits
  obtain ⟨dataQuality, hdata⟩ := Option.isSome_iff_exists.mp (addIssues_valid hissues
    (setStatus_valid (finalStatus report issues)
      (Option.isSome_iff_exists.mpr ⟨typed.dataQuality, hquality⟩)) hadded)
  have hstatus := finalStatus_publishable hpublishable
  have hread : ReportFields.read pydantic finalized.payload = some
      { typed.toReportFields with
        status := finalStatus report issues
        publication := { typed.publication with decision := .published, reasonCode := none }
        dataQuality
        sections } := by
    -- the keys, then each field: four are new, the rest as before
    refine ReportFields.read_some.mpr ⟨?_, ?_, ?_, ?_, ?_, ?_, ?_, ?_, ?_, ?_, ?_, ?_, ?_, ?_⟩
    · rw [hpayload]
      exact KnowsKeys.set (KnowsKeys.set (KnowsKeys.set (KnowsKeys.set hkeys (by simp)) (by simp))
        (by simp)) (by simp)
    · simpa [hpayload, Json.get_set] using hname
    · simpa [hpayload, Json.get_set] using hversion
    · simpa [hpayload, Json.get_set] using hzone
    · simpa [hpayload, Json.get_set] using hid
    · simpa [hpayload, Json.get_set] using hdate
    · simpa [hpayload, Json.get_set] using hschedule
    · simpa [hpayload, Json.get_set] using hcalendar
    · simpa [hpayload, Json.get_set] using hgenerated
    · simpa [hpayload, Json.get_set] using hsnapshot
    · simpa [hpayload, Json.get_set] using literal_status (finalStatus report issues)
    · simpa [hpayload, Json.get_set] using finalPublication_valid hpublication
    · simpa [hpayload, Json.get_set] using hdata
    · simpa [hpayload, Json.get_set] using hread
  have hreferences : ReportFields.References pydantic
      { typed.toReportFields with
        status := finalStatus report issues
        publication := { typed.publication with decision := .published, reasonCode := none }
        dataQuality
        sections } :=
    References.of_sameSections typed.references hsame rfl fun hincomplete =>
      absurd hincomplete hstatus
  exact ⟨⟨_, hreferences⟩, DailyReport.modelValidate_some.mpr hread, rfl, rfl, hsame⟩

/-- A finalized payload that satisfies the contract had room for the notice. -/
theorem notice_of_finalized {report finalized : StoredDailyReport Json}
    {issues : List ReportValidationIssue} {typed after : DailyReport pydantic}
    (htyped : DailyReport.modelValidate pydantic report.payload = some typed)
    (h : finalizeReport report issues = .ok finalized)
    (hpublishable : isPublishable report issues = true)
    (hafter : DailyReport.modelValidate pydantic finalized.payload = some after) :
    ∃ notice, noticeOf pydantic report.payload = some notice ∧
      NoticeFits (qualityNotice (finalStatus report issues) issues) notice := by
  obtain ⟨-, -, -, -, -, -, -, -, -, -, -, -, -, hsections⟩ :=
    ReportFields.read_some.mp (DailyReport.modelValidate_some.mp htyped)
  obtain ⟨-, -, -, -, -, -, -, -, -, -, -, -, -, hread⟩ :=
    ReportFields.read_some.mp (DailyReport.modelValidate_some.mp hafter)
  obtain ⟨quality, -, -, -, hpayload⟩ := finalizeReport_publishable h hpublishable
  have hsectionsNull : report.payload.get "sections" ≠ .null := by
    intro hnull
    rw [hnull] at hsections
    cases hsections
  rw [hpayload, get_default_of_ne_null hsectionsNull, Json.get_set, if_pos rfl] at hread
  exact finalSections_fits hsections hread

end MacroPlatform.Report
