import MacroPlatform.Report.Finalize

/-! # `StoredDailyReport`

A candidate is stored with a payload that repeats its identity and resolves its own sources.
The generation service and the fallback builder write the same parts of that payload.
-/

namespace MacroPlatform.Report

open Daily

variable (pydantic : Pydantic) (python : Python)

/-! ## The parts of a payload -/

/-- `value.isoformat().replace("+00:00", "Z")` of a datetime in UTC. -/
def utcIsoformat (at_ : Instant) : String :=
  let time := at_ % dayMicroseconds
  let seconds := time / 1000000
  Day.isoformat (at_ / dayMicroseconds) ++ "T" ++ zeroPadded 2 (seconds / 3600) ++ ":" ++
    zeroPadded 2 (seconds / 60 % 60) ++ ":" ++ zeroPadded 2 (seconds % 60) ++
    (if time % 1000000 = 0 then "" else "." ++ zeroPadded 6 (time % 1000000)) ++ "Z"

example : utcIsoformat 1709164800000500 = "2024-02-29T00:00:00.000500Z" := by decide +kernel

/-- `_default_schedule`. -/
def defaultSchedule : Json :=
  .obj (textFields
    [("publish_time_local", "08:30:00"), ("late_data_cutoff_local", "08:15:00"),
      ("run_policy", "every_calendar_day"), ("holiday_policy", "publish_with_notice"),
      ("calendar_id", "cn_hk_report_calendar_v1")] ++
    [("calendar_lookahead_days", .int 7),
      ("freshness", .obj
        [("market_close_max_age_hours", .int 36), ("official_news_max_age_hours", .int 24),
          ("macro_observation_max_age_days", .int 45)])])

/-- `str(value)`. -/
def pyString (value : Json) : String := value.toStr?.getD (python.str value)

/-- `closed_regions`. -/
def closedRegions (regions : Json) : List String :=
  match regions with
  | .arr items => ((items.filter fun item =>
      (item.get "status").toStr? = some "exchange_holiday").map fun item =>
        pyString python (item.get "region")).insertionSort (· ≤ ·)
  | _ => []

/-- The calendar of a day and its notice. -/
def calendarPayload (dayType : String) (holidayNotice : Option String) : Json :=
  .obj [("day_type", .str dayType), ("holiday_notice", .ofOption .str holidayNotice)]

/-- `report_calendar_payload`. -/
def reportCalendarPayload (rawPolicy : Json) (reportDate : Day) : Json :=
  if (rawPolicy.get "report_date").toStr? ≠ some (Day.isoformat reportDate) then
    calendarPayload (if 5 ≤ Day.weekday reportDate then "weekend" else "business_day") none
  else if (rawPolicy.get "day_type").toStr? = some "weekend" then
    calendarPayload "weekend"
      (some "周末，CN/HK/US 市场休市；本期发布宏观消息、日历和分析。")
  else
    let closed := closedRegions python (rawPolicy.get "regions")
    if (rawPolicy.get "day_type").toStr? = some "regional_holiday" ∧ closed ≠ [] then
      calendarPayload "holiday" (some (", ".intercalate closed ++
        " 市场因交易所节假日休市；其他地区按正常输入门禁。"))
    else calendarPayload "business_day" none

/-- The identity of a snapshot in the payload of a report. -/
def inputSnapshotPayload (snapshot : ReportInputSnapshot Json) : Json :=
  .obj
    [("snapshot_id", .str snapshot.snapshotId), ("snapshot_version", .str snapshot.snapshotVersion),
      ("as_of", .str (utcIsoformat snapshot.asOf)),
      ("cutoff_at", .str (utcIsoformat snapshot.cutoffAt)),
      ("fingerprint_sha256", .str snapshot.fingerprintSha256),
      ("fact_ids", .arr (snapshot.factIds.map .str))]

/-! ## The constructor -/

/-- `str = Field(min_length=..., max_length=...)`. -/
def boundedText (minLength maxLength : ℕ) (j : Json) : Option String := do
  let s ← text minLength j
  if s.length ≤ maxLength then some s else none

/-- `DailyReportSourceRef`: the id of a source that it takes. -/
def storedSourceRef (item : Json) : Option String := do
  guard (KnowsKeys ["source_ref_id", "provider_id", "provider_record_id", "source_name",
    "source_url", "retrieved_at", "checksum_sha256", "external_llm_allowed"] item)
  let sourceRefId ← boundedText 1 128 (item.get "source_ref_id")
  let _ ← boundedText 2 64 (item.get "provider_id")
  let _ ← boundedText 1 256 (item.get "provider_record_id")
  let _ ← boundedText 1 256 (item.get "source_name")
  let _ ← (item.get "source_url").toOption? (text 0)
  let _ ← pydantic.datetime (item.get "retrieved_at")
  let _ ← sha256 (item.get "checksum_sha256")
  let _ ← (item.get "external_llm_allowed").toOption? pydantic.bool
  some sourceRefId

/-- `source_references`. -/
def storedSources (payload : Json) : Option (List String) :=
  listOf (storedSourceRef pydantic) (((payload.get "sections").get "source_references").get "items")

/-- `validate_payload_identity`. -/
structure PayloadIdentity (report : StoredDailyReport Json) : Prop where
  reportId : (report.payload.get "report_id").toStr? = some report.reportId
  reportDate : (report.payload.get "report_date").toStr? = some (Day.isoformat report.reportDate)
  contractVersion : (report.payload.get "contract_version").toStr? = some report.contractVersion
  status : literal reportStatuses (report.payload.get "status") = some report.status
  decision : literal publicationDecisions ((report.payload.get "publication").get "decision") =
    some report.publicationDecision
  snapshotId : ((report.payload.get "input_snapshot").get "snapshot_id").toStr? =
    some report.inputSnapshotId
  sources : ∃ sources ∈ storedSources pydantic report.payload, sources.Nodup ∧
    ∃ sourceRefIds ∈ strictReferenceIds "source_ref_ids" (report.payload.get "sections"),
      ∀ sourceRefId ∈ sourceRefIds, sourceRefId ∈ sources

instance (report : StoredDailyReport Json) : Decidable (PayloadIdentity pydantic report) :=
  decidable_of_iff ((report.payload.get "report_id").toStr? = some report.reportId ∧
      (report.payload.get "report_date").toStr? = some (Day.isoformat report.reportDate) ∧
      (report.payload.get "contract_version").toStr? = some report.contractVersion ∧
      literal reportStatuses (report.payload.get "status") = some report.status ∧
      literal publicationDecisions ((report.payload.get "publication").get "decision") =
        some report.publicationDecision ∧
      ((report.payload.get "input_snapshot").get "snapshot_id").toStr? =
        some report.inputSnapshotId ∧
      ∃ sources ∈ storedSources pydantic report.payload, sources.Nodup ∧
        ∃ sourceRefIds ∈ strictReferenceIds "source_ref_ids" (report.payload.get "sections"),
          ∀ sourceRefId ∈ sourceRefIds, sourceRefId ∈ sources)
    ⟨fun h => ⟨h.1, h.2.1, h.2.2.1, h.2.2.2.1, h.2.2.2.2.1, h.2.2.2.2.2.1, h.2.2.2.2.2.2⟩,
      fun h => ⟨h.1, h.2, h.3, h.4, h.5, h.6, h.7⟩⟩

/-- `StoredDailyReport(...)`: the texts and the keys of the payload are stripped. -/
def storedReport (given : StoredDailyReport Json) : Option (StoredDailyReport Json) := do
  let reportId ← boundedText 1 128 (.str given.reportId)
  let reportVersion ← boundedText 1 64 (.str given.reportVersion)
  let contractVersion ← boundedText 1 32 (.str given.contractVersion)
  let inputSnapshotId ← boundedText 1 128 (.str given.inputSnapshotId)
  let payload ← strippedDict given.payload
  let report := { given with reportId, reportVersion, contractVersion, inputSnapshotId, payload }
  if PayloadIdentity pydantic report then some report else none

variable {pydantic : Pydantic} {python : Python}

/-- What the constructor leaves: the id is stripped, and the payload repeats it. -/
structure StoredIdentity (report : StoredDailyReport Json) : Prop where
  stripped : modelStrip report.reportId = report.reportId
  reportId : report.payload.get "report_id" = .str report.reportId

/-- A bounded text is stripped, and its length is within the bounds. -/
theorem boundedText_some {minLength maxLength : ℕ} {value stripped : String} :
    boundedText minLength maxLength (.str value) = some stripped ↔
      modelStrip value = stripped ∧ minLength ≤ stripped.length ∧
        stripped.length ≤ maxLength := by
  have htext : text minLength (.str value) =
      if minLength ≤ (modelStrip value).length then some (modelStrip value) else none := rfl
  unfold boundedText
  rw [htext]
  -- the lower bound is tested first, then the upper
  by_cases hmin : minLength ≤ (modelStrip value).length
  · simp only [if_pos hmin, Option.bind_eq_bind, Option.bind_some]
    by_cases hmax : (modelStrip value).length ≤ maxLength
    · rw [if_pos hmax]
      constructor
      · intro h
        rw [← Option.some.inj h]
        exact ⟨rfl, hmin, hmax⟩
      · rintro ⟨rfl, -, -⟩
        rfl
    · rw [if_neg hmax]
      constructor
      · intro h
        cases h
      · rintro ⟨rfl, -, h⟩
        exact absurd h hmax
  -- the contract refuses it before the length of the row is asked
  · simp only [if_neg hmin, Option.bind_eq_bind, Option.bind_none]
    constructor
    · intro h
      cases h
    · rintro ⟨rfl, h, -⟩
      exact absurd h hmin

/-- A stored report has the identity of its payload. -/
theorem storedReport_identity {given report : StoredDailyReport Json}
    (h : storedReport pydantic given = some report) : StoredIdentity report := by
  unfold storedReport at h
  simp only [Option.bind_eq_bind, Option.bind_eq_some_iff] at h
  obtain ⟨reportId, hid, version, -, contract, -, snapshotId, -, payload, -, hreport⟩ := h
  obtain ⟨hstrip, -, -⟩ := boundedText_some.mp hid
  split at hreport
  · rename_i hidentity
    cases hreport
    refine ⟨?_, toStr?_eq_some.mp hidentity.reportId⟩
    show modelStrip reportId = reportId
    rw [← hstrip]
    exact modelStrip_idem _
  · cases hreport

end MacroPlatform.Report
