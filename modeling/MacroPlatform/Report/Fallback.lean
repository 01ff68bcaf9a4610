import MacroPlatform.Report.Stored

/-! # `ReportFallbackBuilder`

Without a candidate the report is built from the facts of the snapshot alone: every fact of a
section is an item with its label and its display text, and what is shown there is counted.
-/

namespace MacroPlatform.Report

open Daily

variable (pydantic : Pydantic) (python : Python) (publishAt : Day → Instant)
variable (snapshot : ReportInputSnapshot Json)

/-! ## Items and claims -/

/-- `for x in value`. -/
def pyIter (value : Json) : Except PythonError (List Json) :=
  match value with
  | .arr items => .ok items
  | .obj fields => .ok (fields.map fun field => .str field.1)
  | .str s => .ok (s.toList.map fun c => .str (String.singleton c))
  | _ => .error { name := "TypeError", message := "object is not iterable" }

/-- `raw[key]`. -/
def pyItem (raw : Json) (key : String) : Except PythonError Json :=
  if key ∈ raw.keys then .ok (raw.get key)
  else .error { name := "KeyError", bases := ["LookupError"], message := key }

/-- `_fact_item`. -/
def factItem (raw : Json) : Except PythonError Json := do
  let factId ← pyItem raw "fact_id"
  let sourceRefIds ← pyIter (raw.get "source_ref_ids" (.arr []))
  .ok (.obj
    [("label", .str (pyString python (raw.get "label" factId))),
      ("text", .str (pyString python (raw.get "display_text" factId))),
      ("fact_ids", .arr [factId]),
      ("source_ref_ids", .arr (sourceRefIds.filter fun id => id.toStr?.isSome))])

/-- `_fact_claim`. -/
def factClaim (raw : Json) : Except PythonError Json := do
  let claimType ← memberOf (raw.get "claim_type" (.str "text")) (claimTypes.map Prod.fst)
  let factId ← pyItem raw "fact_id"
  .ok (.obj
    [("claim_type", .str (claimType.getD "text")), ("fact_id", factId),
      ("value", raw.get "value"), ("unit", raw.get "unit"), ("direction", raw.get "direction"),
      ("period_start", raw.get "period_start"), ("period_end", raw.get "period_end")])

/-- `_source_item`. -/
def sourceItem (raw : Json) : Json :=
  .obj ((["source_ref_id", "provider_id", "provider_record_id", "source_name", "source_url",
    "retrieved_at", "checksum_sha256", "external_llm_allowed"].filter fun key =>
      key ∈ raw.keys).map fun key => (key, raw.get key))

/-! ## Sections -/

/-- The arguments of `_section` besides its id and its limit. -/
structure SectionContent where
  status : ReportSectionStatus
  text : Option String := none
  items : List Json := []
  claims : List Json := []
  lookaheadDays : Option ℕ := none
  issueCodes : List String := []
  reasonCode : Option String := none

/-- `len(visible)`: the text, or what the items show. -/
def SectionContent.visibleLength (content : SectionContent) : ℕ :=
  match content.text with
  | some sectionText => sectionText.length
  | none => ((content.items.flatMap fun item => ["label", "text", "name"].map fun fieldName =>
      (pyString python (item.get fieldName (.str ""))).length)).sum

/-- A field of a dict that is only there when it is given. -/
def whenGiven (given : Bool) (key : String) (value : Json) : List (String × Json) :=
  if given then [(key, value)] else []

/-- `_section`. -/
def sectionPayload (sectionId : String) (maxCharacters : ℕ) (content : SectionContent) : Json :=
  let factIds := sortedSet (content.items.flatMap (nestedReferenceIds "fact_ids"))
  let sourceRefIds := sortedSet (content.items.flatMap (nestedReferenceIds "source_ref_ids"))
  .obj
    ([("section_id", .str sectionId), ("status", literalText sectionStatuses content.status),
      ("character_count", .int (content.visibleLength python)),
      ("max_characters", .int maxCharacters), ("items", .arr content.items)] ++
    whenGiven (factIds ≠ []) "fact_ids" (strings factIds) ++
    whenGiven (sourceRefIds ≠ []) "source_ref_ids" (strings sourceRefIds) ++
    whenGiven content.text.isSome "text" (.ofOption .str content.text) ++
    whenGiven (content.claims.length ≠ 0) "claims" (.arr content.claims) ++
    whenGiven content.lookaheadDays.isSome "lookahead_days"
      (.ofOption (fun days : ℕ => .int days) content.lookaheadDays) ++
    whenGiven (content.issueCodes ≠ []) "issue_codes" (strings content.issueCodes) ++
    whenGiven content.reasonCode.isSome "reason_code" (.ofOption .str content.reasonCode))

/-- The section of the facts of a section id. -/
def factsContent (blocking : Bool) (sectionId : String) (items claims : List Json) :
    SectionContent :=
  if sectionId = "upcoming_calendar" ∧ items.length = 0 then
    { status := if blocking then .unavailable else .complete, lookaheadDays := some 7 }
  else if sectionId = "key_movements" ∧ items.length = 0 then
    { status := if blocking then .incomplete else .complete
      reasonCode := some (if blocking then "REQUIRED_INPUT_UNAVAILABLE"
        else "NO_VERIFIED_MOVEMENTS") }
  else if items.length ≠ 0 then
    { status := if blocking then .incomplete else .complete, items, claims }
  else
    { status := if blocking then .unavailable else .degraded
      text := some (if blocking then "数据不可用。" else "暂无已验证事实。")
      reasonCode := some (if blocking then "REQUIRED_INPUT_UNAVAILABLE"
        else "NO_VERIFIED_FACTS") }

/-- `section_facts`. -/
def sectionFacts (sectionId : String) : List Json :=
  (rawFacts snapshot).filter fun raw => (raw.get "section_id").toStr? = some sectionId

/-- The content of one section in the loop of `build`. -/
def sectionContent (status : ReportStatus) (issues : List ReportValidationIssue)
    (sectionId : String) : Except PythonError SectionContent :=
  if sectionId = "source_references" then
    let items := (rawSources snapshot).map sourceItem
    .ok { status := if items.length = 0 then .unavailable else .complete, items }
  else if sectionId = "data_quality_notice" then
    .ok
      { status := .complete
        text := some (qualityNotice status issues)
        issueCodes := issues.map (·.code) }
  else do
    let facts := sectionFacts snapshot sectionId
    let items ← facts.mapM (factItem python)
    let claims ← (facts.filter fun raw => isGiven (raw.get "value")).mapM factClaim
    .ok (factsContent (issues.any fun issue => issue.severity = .error) sectionId items claims)

/-- `sections`; its limits are those of the contract. -/
def fallbackSections (status : ReportStatus) (issues : List ReportValidationIssue) :
    Except PythonError (List (String × Json)) :=
  sectionLimits.mapM fun (sectionId, maxCharacters) => do
    let content ← sectionContent python snapshot status issues sectionId
    .ok (sectionId, sectionPayload python sectionId maxCharacters content)

/-! ## The report -/

/-- An entry of `_data_quality`. -/
def dataQualityEntry (issue : ReportValidationIssue) : Json :=
  texts [("input_id", firstGiven [issue.inputId] issue.code), ("reason_code", issue.code),
    ("reason", issue.message)]

/-- The codes that `_data_quality` does not count as unavailable. -/
def otherBucketCodes : List String :=
  ["REQUIRED_INPUT_UNAVAILABLE", "STALE_REQUIRED_INPUT", "STALE_OPTIONAL_INPUT",
    "LATE_REQUIRED_INPUT", "LATE_OPTIONAL_INPUT", "REVISED_REQUIRED_INPUT",
    "REVISED_OPTIONAL_INPUT"]

/-- `_data_quality`; an entry may be in several lists. -/
def dataQuality (issues : List ReportValidationIssue) (status : ReportStatus) : Json :=
  let entriesOf (takes : String → Bool) : Json :=
    .arr ((issues.filter fun issue => takes issue.code).map dataQualityEntry)
  .obj
    [("status", literalText reportStatuses status),
      ("missing_required_inputs", entriesOf fun code => code = "REQUIRED_INPUT_UNAVAILABLE"),
      ("stale_inputs", entriesOf (containsText "STALE")),
      ("late_inputs", entriesOf (containsText "LATE")),
      ("revised_inputs", entriesOf (containsText "REVISED")),
      ("unavailable_inputs", entriesOf fun code => code ∉ otherBucketCodes)]

/-- `status` of the fallback. -/
def fallbackStatus (issues : List ReportValidationIssue) : ReportStatus :=
  if issues.any fun issue => issue.severity = .error then .incomplete
  else if issues = [] then .complete else .degraded

/-- The payload of the fallback. -/
def fallbackPayload (reportId : String) (generatedAt : Instant)
    (issues : List ReportValidationIssue) (sections : List (String × Json)) : Json :=
  let blocking := issues.any fun issue => issue.severity = .error
  .obj
    [("contract_name", .str "DailyReport"), ("contract_version", .str "1.0"),
      ("report_id", .str reportId), ("report_date", .str (Day.isoformat snapshot.reportDate)),
      ("timezone", .str "Asia/Shanghai"), ("schedule", defaultSchedule),
      ("calendar", reportCalendarPayload python (snapshot.payload.get "report_day_policy")
        snapshot.reportDate),
      ("generated_at", .str (utcIsoformat generatedAt)),
      ("input_snapshot", inputSnapshotPayload snapshot),
      ("status", literalText reportStatuses (fallbackStatus issues)),
      ("publication", .obj
        [("decision", literalText publicationDecisions
            (if blocking then .notPublished else .published)),
          ("reason_code", if blocking then .str "REQUIRED_INPUT_UNAVAILABLE" else .null),
          ("scheduled_publish_at", .str (utcIsoformat (publishAt snapshot.reportDate))),
          ("published_at", .null)]),
      ("data_quality", dataQuality issues (fallbackStatus issues)),
      ("sections", .obj sections)]

/-- The report, or the error of its constructor. -/
def stored (given : StoredDailyReport Json) : Except PythonError (StoredDailyReport Json) :=
  match storedReport pydantic given with
  | some report => .ok report
  | none => .error (validationError "report payload must match storage identity")

/-- `ReportFallbackBuilder.build`. -/
def build (reportId reportVersion : String) (generatedAt : Instant)
    (generationId : Option UUID) : Except PythonError (StoredDailyReport Json) := do
  let issues ← qualityIssues python snapshot
  let sections ← fallbackSections python snapshot (fallbackStatus issues) issues
  let report : StoredDailyReport Json :=
    { reportId
      reportDate := snapshot.reportDate
      reportVersion
      contractVersion := "1.0"
      inputSnapshotId := snapshot.snapshotId
      status := fallbackStatus issues
      publicationDecision :=
        if issues.any fun issue => issue.severity = .error then .notPublished else .published
      generatedAt
      payload := fallbackPayload python publishAt snapshot reportId generatedAt issues sections
      generationId }
  stored pydantic report

theorem stored_ok {pydantic : Pydantic} {given report : StoredDailyReport Json} :
    stored pydantic given = .ok report ↔ storedReport pydantic given = some report := by
  unfold stored
  cases storedReport pydantic given <;> simp

end MacroPlatform.Report
