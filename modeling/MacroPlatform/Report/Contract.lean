import Mathlib.Algebra.GroupWithZero.Nat
import MacroPlatform.Contracts.Provider
import MacroPlatform.Report.Quality

/-! # The `DailyReport` contract

What `DailyReport.model_validate` makes of the payload of a report. A field with a default may
be absent, a key that a model does not know is an error, and the strings are stripped, the
keys of `sections` and of `items` among them. `none` is a `ValidationError`.
-/

namespace MacroPlatform.Report

open Daily

/-- The scalar fields that pydantic reads, and how it writes them again. -/
structure Pydantic where
  /-- An `int` from another value than an integer. -/
  int : Json → Option ℤ
  bool : Json → Option Bool
  time : Json → Option ℤ
  date : Json → Option Day
  datetime : Json → Option AwareDatetime
  httpUrl : Json → Option String
  writeDatetime : AwareDatetime → String
  /-- `str(error)` of the error that a payload has. -/
  errorText : Json → String

/-! ## Fields -/

/-- `extra="forbid"`. -/
def KnowsKeys (known : List String) (j : Json) : Prop := ∀ key ∈ j.keys, key ∈ known

instance (known : List String) (j : Json) : Decidable (KnowsKeys known j) :=
  inferInstanceAs (Decidable (∀ key ∈ j.keys, key ∈ known))

/-- `str = Field(min_length=...)`. -/
def text (minLength : ℕ) (j : Json) : Option String := do
  let s ← j.toStr?
  if minLength ≤ (modelStrip s).length then some (modelStrip s) else none

/-- `list[...]`. -/
def listOf {α : Type} (item : Json → Option α) (j : Json) : Option (List α) := do
  (← j.toArr?).mapM item

/-- `Literal[...]`. -/
def literal {α : Type} (values : List (String × α)) (j : Json) : Option α := do
  List.lookup (← j.toStr?) values

/-- `str = Field(pattern=r"^[a-f0-9]{64}$")`. -/
def sha256 (j : Json) : Option String := do
  let s ← text 0 j
  if s.length = 64 ∧ ∀ c ∈ s.toList, c ∈ "0123456789abcdef".toList then some s else none

/-- `int = Field(ge=...)`. -/
def natural (pydantic : Pydantic) (minimum : ℕ) (j : Json) : Option ℕ := do
  let n ← match j with
    | .int n => some n
    | other => pydantic.int other
  if (minimum : ℤ) ≤ n then some n.toNat else none

variable (pydantic : Pydantic)

/-! ## Schedule, calendar and data quality -/

/-- `ReportFreshness`. -/
structure ReportFreshness where
  marketCloseMaxAgeHours : ℕ
  officialNewsMaxAgeHours : ℕ
  macroObservationMaxAgeDays : ℕ
deriving DecidableEq

def ReportFreshness.modelValidate (j : Json) : Option ReportFreshness := do
  guard (KnowsKeys ["market_close_max_age_hours", "official_news_max_age_hours",
    "macro_observation_max_age_days"] j)
  let market ← natural pydantic 0 (j.get "market_close_max_age_hours")
  let news ← natural pydantic 0 (j.get "official_news_max_age_hours")
  let macroAge ← natural pydantic 0 (j.get "macro_observation_max_age_days")
  some ⟨market, news, macroAge⟩

/-- `ReportSchedule`. -/
structure ReportSchedule where
  publishTimeLocal : ℤ
  lateDataCutoffLocal : ℤ
  runPolicy : String
  holidayPolicy : String
  calendarId : String
  calendarLookaheadDays : ℕ
  freshness : ReportFreshness
deriving DecidableEq

def ReportSchedule.modelValidate (j : Json) : Option ReportSchedule := do
  guard (KnowsKeys ["publish_time_local", "late_data_cutoff_local", "run_policy",
    "holiday_policy", "calendar_id", "calendar_lookahead_days", "freshness"] j)
  let publishTime ← pydantic.time (j.get "publish_time_local")
  let cutoff ← pydantic.time (j.get "late_data_cutoff_local")
  let runPolicy ← text 1 (j.get "run_policy")
  let holidayPolicy ← text 1 (j.get "holiday_policy")
  let calendarId ← text 1 (j.get "calendar_id")
  let lookahead ← natural pydantic 0 (j.get "calendar_lookahead_days")
  let freshness ← ReportFreshness.modelValidate pydantic (j.get "freshness")
  some ⟨publishTime, cutoff, runPolicy, holidayPolicy, calendarId, lookahead, freshness⟩

/-- `ReportCalendar.day_type`. -/
inductive ReportDayType where
  | businessDay
  | holiday
  | weekend
deriving DecidableEq, Repr

/-- `ReportCalendar`. -/
structure ReportCalendar where
  dayType : ReportDayType
  holidayNotice : Option String
deriving DecidableEq

def ReportCalendar.modelValidate (j : Json) : Option ReportCalendar := do
  guard (KnowsKeys ["day_type", "holiday_notice"] j)
  let dayType ← literal
    [("business_day", ReportDayType.businessDay), ("holiday", .holiday), ("weekend", .weekend)]
    (j.get "day_type")
  let holidayNotice ← (j.get "holiday_notice").toOption? (text 0)
  some ⟨dayType, holidayNotice⟩

/-- `ReportStatus`. -/
def reportStatuses : List (String × ReportStatus) :=
  [("complete", .complete), ("degraded", .degraded), ("incomplete", .incomplete)]

/-- `PublicationDecision`. -/
def publicationDecisions : List (String × PublicationDecision) :=
  [("published", .published), ("not_published", .notPublished)]

/-- `ReportPublication`. -/
structure ReportPublication where
  decision : PublicationDecision
  reasonCode : Option String
  scheduledPublishAt : AwareDatetime
  publishedAt : Option AwareDatetime
deriving DecidableEq

def ReportPublication.modelValidate (j : Json) : Option ReportPublication := do
  guard (KnowsKeys ["decision", "reason_code", "scheduled_publish_at", "published_at"] j)
  let decision ← literal publicationDecisions (j.get "decision")
  let reasonCode ← (j.get "reason_code").toOption? (text 0)
  let scheduled ← pydantic.datetime (j.get "scheduled_publish_at")
  let published ← (j.get "published_at").toOption? pydantic.datetime
  some ⟨decision, reasonCode, scheduled, published⟩

/-- `ReportQualityIssue`. -/
structure ReportQualityIssue where
  inputId : String
  reasonCode : String
  reason : String
deriving DecidableEq

def ReportQualityIssue.modelValidate (j : Json) : Option ReportQualityIssue := do
  guard (KnowsKeys ["input_id", "reason_code", "reason"] j)
  let inputId ← text 1 (j.get "input_id")
  let reasonCode ← text 1 (j.get "reason_code")
  let reason ← text 1 (j.get "reason")
  some ⟨inputId, reasonCode, reason⟩

/-- The lists of issues of `ReportDataQuality`. -/
def qualityBuckets : List String :=
  ["missing_required_inputs", "stale_inputs", "late_inputs", "revised_inputs",
    "unavailable_inputs"]

/-- `ReportDataQuality`; its lists of issues go by their names. -/
structure ReportDataQuality where
  status : ReportStatus
  issues : List (List ReportQualityIssue)
deriving DecidableEq

def ReportDataQuality.modelValidate (j : Json) : Option ReportDataQuality := do
  guard (KnowsKeys ("status" :: qualityBuckets) j)
  let status ← literal reportStatuses (j.get "status")
  let issues ← qualityBuckets.mapM fun bucket =>
    listOf ReportQualityIssue.modelValidate (j.get bucket (.arr []))
  some ⟨status, issues⟩

/-- `ReportInputSnapshotRef`. -/
structure ReportInputSnapshotRef where
  snapshotId : String
  snapshotVersion : String
  asOf : AwareDatetime
  cutoffAt : AwareDatetime
  fingerprintSha256 : String
  factIds : List String
deriving DecidableEq

def ReportInputSnapshotRef.modelValidate (j : Json) : Option ReportInputSnapshotRef := do
  guard (KnowsKeys ["snapshot_id", "snapshot_version", "as_of", "cutoff_at",
    "fingerprint_sha256", "fact_ids"] j)
  let snapshotId ← text 1 (j.get "snapshot_id")
  let snapshotVersion ← text 1 (j.get "snapshot_version")
  let asOf ← pydantic.datetime (j.get "as_of")
  let cutoffAt ← pydantic.datetime (j.get "cutoff_at")
  let fingerprint ← sha256 (j.get "fingerprint_sha256")
  let factIds ← listOf (text 0) (j.get "fact_ids" (.arr []))
  some ⟨snapshotId, snapshotVersion, asOf, cutoffAt, fingerprint, factIds⟩

/-- `ReportSourceReference`. -/
structure ReportSourceReference where
  sourceRefId : String
  providerId : String
  providerRecordId : String
  sourceName : String
  sourceUrl : Option String
  retrievedAt : AwareDatetime
  checksumSha256 : String
  externalLlmAllowed : Option Bool
deriving DecidableEq

def ReportSourceReference.modelValidate (j : Json) : Option ReportSourceReference := do
  guard (KnowsKeys ["source_ref_id", "provider_id", "provider_record_id", "source_name",
    "source_url", "retrieved_at", "checksum_sha256", "external_llm_allowed"] j)
  let sourceRefId ← text 1 (j.get "source_ref_id")
  let providerId ← text 2 (j.get "provider_id")
  let providerRecordId ← text 1 (j.get "provider_record_id")
  let sourceName ← text 1 (j.get "source_name")
  let sourceUrl ← (j.get "source_url").toOption? pydantic.httpUrl
  let retrievedAt ← pydantic.datetime (j.get "retrieved_at")
  let checksum ← sha256 (j.get "checksum_sha256")
  let allowed ← (j.get "external_llm_allowed").toOption? pydantic.bool
  some ⟨sourceRefId, providerId, providerRecordId, sourceName, sourceUrl, retrievedAt, checksum,
    allowed⟩

/-- `source.model_dump(mode="json")`. -/
def ReportSourceReference.modelDump (source : ReportSourceReference) : List (String × Json) :=
  [("source_ref_id", .str source.sourceRefId), ("provider_id", .str source.providerId),
    ("provider_record_id", .str source.providerRecordId),
    ("source_name", .str source.sourceName), ("source_url", .ofOption .str source.sourceUrl),
    ("retrieved_at", .str (pydantic.writeDatetime source.retrievedAt)),
    ("checksum_sha256", .str source.checksumSha256),
    ("external_llm_allowed", .ofOption .bool source.externalLlmAllowed)]

/-! ## Sections -/

/-- `SECTION_LIMITS`. -/
def sectionLimits : List (String × ℕ) :=
  [("executive_summary", 800), ("cn_highlights", 1000), ("hk_highlights", 1000),
    ("us_highlights", 1000), ("key_movements", 1200), ("upcoming_calendar", 1600),
    ("data_quality_notice", 600), ("source_references", 4000)]

/-- `REQUIRED_SECTION_IDS`. -/
def requiredSectionIds : List String := sectionLimits.map Prod.fst

/-- `ReportClaim.claim_type`. -/
inductive ClaimType where
  | number
  | date
  | direction
  | text
deriving DecidableEq, Repr

/-- `ReportClaim`. -/
structure ReportClaim where
  claimType : ClaimType
  factId : String
  value : Json
  unit : Option String
  direction : Option String
  periodStart : Option Day
  periodEnd : Option Day

def claimTypes : List (String × ClaimType) :=
  [("number", .number), ("date", .date), ("direction", .direction), ("text", .text)]

def ReportClaim.modelValidate (j : Json) : Option ReportClaim := do
  guard (KnowsKeys ["claim_type", "fact_id", "value", "unit", "direction", "period_start",
    "period_end"] j)
  let claimType ← literal claimTypes (j.get "claim_type")
  let factId ← text 1 (j.get "fact_id")
  -- `value` may be null but not absent
  guard ("value" ∈ j.keys)
  let unit ← (j.get "unit").toOption? (text 0)
  let direction ← (j.get "direction").toOption? (text 0)
  let periodStart ← (j.get "period_start").toOption? pydantic.date
  let periodEnd ← (j.get "period_end").toOption? pydantic.date
  some ⟨claimType, factId, j.get "value", unit, direction, periodStart, periodEnd⟩

/-- `ReportSectionStatus`. -/
inductive ReportSectionStatus where
  | complete
  | degraded
  | incomplete
  | unavailable
deriving DecidableEq, Repr

def sectionStatuses : List (String × ReportSectionStatus) :=
  [("complete", .complete), ("degraded", .degraded), ("incomplete", .incomplete),
    ("unavailable", .unavailable)]

/-- A `dict[str, Any]`: of keys that are stripped to one, the last counts. -/
def strippedDict (j : Json) : Option Json := do
  some (.obj (Json.dict ((← j.toObj?).map fun field => (modelStrip field.1, field.2))))

/-- The fields of `ReportSection`. -/
structure SectionFields where
  sectionId : String
  status : ReportSectionStatus
  characterCount : ℕ
  maxCharacters : ℕ
  text : Option String
  factIds : List String
  sourceRefIds : List String
  items : List Json
  claims : List ReportClaim
  lookaheadDays : Option ℕ
  issueCodes : List String
  reasonCode : Option String

def SectionFields.read (j : Json) : Option SectionFields := do
  guard (KnowsKeys ["section_id", "status", "character_count", "max_characters", "text",
    "fact_ids", "source_ref_ids", "items", "claims", "lookahead_days", "issue_codes",
    "reason_code"] j)
  let sectionId ← Report.text 1 (j.get "section_id")
  let status ← literal sectionStatuses (j.get "status")
  let characterCount ← natural pydantic 0 (j.get "character_count")
  let maxCharacters ← natural pydantic 1 (j.get "max_characters")
  let text ← (j.get "text").toOption? (Report.text 0)
  let factIds ← listOf (Report.text 0) (j.get "fact_ids" (.arr []))
  let sourceRefIds ← listOf (Report.text 0) (j.get "source_ref_ids" (.arr []))
  let items ← listOf strippedDict (j.get "items" (.arr []))
  let claims ← listOf (ReportClaim.modelValidate pydantic) (j.get "claims" (.arr []))
  let lookaheadDays ← (j.get "lookahead_days").toOption? (natural pydantic 0)
  let issueCodes ← listOf (Report.text 0) (j.get "issue_codes" (.arr []))
  let reasonCode ← (j.get "reason_code").toOption? (Report.text 0)
  some ⟨sectionId, status, characterCount, maxCharacters, text, factIds, sourceRefIds, items,
    claims, lookaheadDays, issueCodes, reasonCode⟩

/-- The visible strings of an item. -/
def itemTexts (item : Json) : List String :=
  ["label", "text", "name"].filterMap fun fieldName => (item.get fieldName).toStr?

/-- `visible`, in its parts. -/
def visibleTexts (text : Option String) (items : List Json) : List String :=
  text.getD "" :: items.flatMap itemTexts

/-- `len(visible)`. -/
def visibleLength (text : Option String) (items : List Json) : ℕ :=
  ((visibleTexts text items).map String.length).sum

/-- `validate_visible_text`. -/
structure SectionFields.VisibleText (fields : SectionFields) : Prop where
  count : visibleLength fields.text fields.items = fields.characterCount
  limit : ∀ limit ∈ sectionLimits.lookup fields.sectionId, fields.maxCharacters ≤ limit
  within : fields.characterCount ≤ fields.maxCharacters

instance (fields : SectionFields) : Decidable fields.VisibleText :=
  decidable_of_iff (visibleLength fields.text fields.items = fields.characterCount ∧
      (∀ limit ∈ sectionLimits.lookup fields.sectionId, fields.maxCharacters ≤ limit) ∧
      fields.characterCount ≤ fields.maxCharacters)
    ⟨fun h => ⟨h.1, h.2.1, h.2.2⟩, fun h => ⟨h.1, h.2, h.3⟩⟩

/-- `ReportSection`. -/
structure ReportSection extends SectionFields where
  visibleText : toSectionFields.VisibleText

def ReportSection.modelValidate (j : Json) : Option ReportSection := do
  let fields ← SectionFields.read pydantic j
  if h : fields.VisibleText then some ⟨fields, h⟩ else none

/-- The text of a literal's value. -/
def literalText {α : Type} [DecidableEq α] (values : List (String × α)) (value : α) : Json :=
  .ofOption (fun entry => .str entry.1) (values.find? fun entry => entry.2 = value)

/-- `claim.model_dump(mode="python")`; a date is no container, and stands as its text. -/
def ReportClaim.modelDump (claim : ReportClaim) : Json :=
  .obj [("claim_type", literalText claimTypes claim.claimType), ("fact_id", .str claim.factId),
    ("value", claim.value), ("unit", .ofOption .str claim.unit),
    ("direction", .ofOption .str claim.direction),
    ("period_start", .ofOption (fun day => .str (Day.isoformat day)) claim.periodStart),
    ("period_end", .ofOption (fun day => .str (Day.isoformat day)) claim.periodEnd)]

/-- `section.model_dump(mode="python")`. -/
def SectionFields.modelDump (fields : SectionFields) : Json :=
  .obj [("section_id", .str fields.sectionId),
    ("status", literalText sectionStatuses fields.status),
    ("character_count", .int fields.characterCount),
    ("max_characters", .int fields.maxCharacters), ("text", .ofOption .str fields.text),
    ("fact_ids", .arr (fields.factIds.map .str)),
    ("source_ref_ids", .arr (fields.sourceRefIds.map .str)), ("items", .arr fields.items),
    ("claims", .arr (fields.claims.map ReportClaim.modelDump)),
    ("lookahead_days", .ofOption (fun days : ℕ => .int days) fields.lookaheadDays),
    ("issue_codes", .arr (fields.issueCodes.map .str)),
    ("reason_code", .ofOption .str fields.reasonCode)]

/-! ## The report -/

/-- The references of one dict that `visit` comes to; `none` is its `ValueError`. -/
def references? (fieldName : String) (value : Json) : Option (List String) :=
  match value.get fieldName with
  | .null => some []
  | references => listOf Json.toStr? references

/-- `_nested_reference_ids` of the contract. -/
def strictReferenceIds (fieldName : String) (j : Json) : Option (List String) := do
  some (← (Json.subvalues j).mapM (references? fieldName)).flatten

/-- The fields of `DailyReport`; the others are literals of one value. -/
structure ReportFields where
  reportId : String
  reportDate : Day
  schedule : ReportSchedule
  calendar : ReportCalendar
  generatedAt : AwareDatetime
  inputSnapshot : ReportInputSnapshotRef
  status : ReportStatus
  publication : ReportPublication
  dataQuality : ReportDataQuality
  sections : List (String × ReportSection)

/-- `dict[str, ReportSection]`. -/
def readSections (j : Json) : Option (List (String × ReportSection)) := do
  let entries ← (← j.toObj?).mapM fun field => do
    some (modelStrip field.1, ← ReportSection.modelValidate pydantic field.2)
  some (Json.dict entries)

def ReportFields.read (j : Json) : Option ReportFields := do
  guard (KnowsKeys ["contract_name", "contract_version", "report_id", "report_date", "timezone",
    "schedule", "calendar", "generated_at", "input_snapshot", "status", "publication",
    "data_quality", "sections"] j)
  guard ((j.get "contract_name").toStr? = some "DailyReport")
  guard ((j.get "contract_version").toStr? = some "1.0")
  guard ((j.get "timezone").toStr? = some "Asia/Shanghai")
  let reportId ← text 1 (j.get "report_id")
  let reportDate ← pydantic.date (j.get "report_date")
  let schedule ← ReportSchedule.modelValidate pydantic (j.get "schedule")
  let calendar ← ReportCalendar.modelValidate (j.get "calendar")
  let generatedAt ← pydantic.datetime (j.get "generated_at")
  let inputSnapshot ← ReportInputSnapshotRef.modelValidate pydantic (j.get "input_snapshot")
  let status ← literal reportStatuses (j.get "status")
  let publication ← ReportPublication.modelValidate pydantic (j.get "publication")
  let dataQuality ← ReportDataQuality.modelValidate (j.get "data_quality")
  let sections ← readSections pydantic (j.get "sections")
  some ⟨reportId, reportDate, schedule, calendar, generatedAt, inputSnapshot, status,
    publication, dataQuality, sections⟩

/-- `report.sections[section_id]`. -/
def ReportFields.section? (fields : ReportFields) (sectionId : String) : Option ReportSection :=
  (fields.sections.find? fun entry => entry.1 = sectionId).map Prod.snd

/-- `_nested_reference_ids(self.sections, field_name)`. -/
def ReportFields.references? (fields : ReportFields) (fieldName : String) :
    Option (List String) := do
  some (← fields.sections.mapM fun entry =>
    strictReferenceIds fieldName entry.2.modelDump).flatten

/-- The validated items of the section of the sources. -/
def ReportFields.sources? (fields : ReportFields) : Option (List ReportSourceReference) := do
  (← fields.section? "source_references").items.mapM (ReportSourceReference.modelValidate pydantic)

/-- The facts of the claims. -/
def ReportFields.claimFactIds (fields : ReportFields) : List String :=
  fields.sections.flatMap fun entry => entry.2.claims.map (·.factId)

/-- `validate_references`. -/
structure ReportFields.References (fields : ReportFields) : Prop where
  sections : SameSet (fields.sections.map Prod.fst) requiredSectionIds
  keys : ∀ entry ∈ fields.sections, entry.2.sectionId = entry.1
  decision : fields.status = .incomplete → fields.publication.decision = .notPublished
  facts : ∃ factIds ∈ fields.references? "fact_ids",
    ∀ factId ∈ factIds ++ fields.claimFactIds, factId ∈ fields.inputSnapshot.factIds
  sources : ∃ sources ∈ fields.sources? pydantic, (sources.map (·.sourceRefId)).Nodup ∧
    ∃ sourceRefIds ∈ fields.references? "source_ref_ids",
      ∀ sourceRefId ∈ sourceRefIds, sourceRefId ∈ sources.map (·.sourceRefId)

instance (fields : ReportFields) : Decidable (fields.References pydantic) :=
  decidable_of_iff (SameSet (fields.sections.map Prod.fst) requiredSectionIds ∧
      (∀ entry ∈ fields.sections, entry.2.sectionId = entry.1) ∧
      (fields.status = .incomplete → fields.publication.decision = .notPublished) ∧
      (∃ factIds ∈ fields.references? "fact_ids",
        ∀ factId ∈ factIds ++ fields.claimFactIds, factId ∈ fields.inputSnapshot.factIds) ∧
      ∃ sources ∈ fields.sources? pydantic, (sources.map (·.sourceRefId)).Nodup ∧
        ∃ sourceRefIds ∈ fields.references? "source_ref_ids",
          ∀ sourceRefId ∈ sourceRefIds, sourceRefId ∈ sources.map (·.sourceRefId))
    ⟨fun h => ⟨h.1, h.2.1, h.2.2.1, h.2.2.2.1, h.2.2.2.2⟩,
      fun h => ⟨h.1, h.2, h.3, h.4, h.5⟩⟩

/-- `DailyReport`. -/
structure DailyReport extends ReportFields where
  references : toReportFields.References pydantic

/-- `DailyReport.model_validate(payload)`. -/
def DailyReport.modelValidate (payload : Json) : Option (DailyReport pydantic) := do
  let fields ← ReportFields.read pydantic payload
  if h : fields.References pydantic then some ⟨fields, h⟩ else none

/-! ## Plain readers

The fields as reports write them: dates as `2026-07-01`, times as `08:30:00`, and datetimes in
UTC. -/

def digits? (cs : List Char) : Option ℕ :=
  cs.foldlM (fun n c => if c.isDigit then some (10 * n + (c.toNat - '0'.toNat)) else none) 0

/-- The day number of a civil date, by years that start in March. -/
def civilDay (year month day : ℕ) : Day :=
  let shifted : ℤ := if month ≤ 2 then year - 1 else year
  let monthFromMarch : ℤ := if month ≤ 2 then month + 9 else month - 3
  let era := shifted / 400
  let yearOfEra := shifted - era * 400
  let dayOfYear := (153 * monthFromMarch + 2) / 5 + day - 1
  era * 146097 + (yearOfEra * 365 + yearOfEra / 4 - yearOfEra / 100 + dayOfYear) - 719468

def isoDate? (cs : List Char) : Option Day :=
  match cs with
  | [y₁, y₂, y₃, y₄, '-', m₁, m₂, '-', d₁, d₂] => do
    some (civilDay (← digits? [y₁, y₂, y₃, y₄]) (← digits? [m₁, m₂]) (← digits? [d₁, d₂]))
  | _ => none

example : isoDate? "2024-02-29".toList = some 19782 := by decide

def isoTime? (cs : List Char) : Option ℤ :=
  match cs with
  | [h₁, h₂, ':', m₁, m₂, ':', s₁, s₂] => do
    let seconds := (← digits? [h₁, h₂]) * 3600 + (← digits? [m₁, m₂]) * 60 + (← digits? [s₁, s₂])
    some (seconds * 1000000)
  | _ => none

/-- A local time, with what is written after it. -/
def isoLocal? (cs : List Char) : Option (Instant × List Char) := do
  let day ← isoDate? (cs.take 10)
  let time ← isoTime? ((cs.drop 11).take 8)
  some (day * dayMicroseconds + time, cs.drop 19)

def writeUtc (at_ : Instant) : String :=
  let seconds := at_ % dayMicroseconds / 1000000
  Day.isoformat (at_ / dayMicroseconds) ++ "T" ++ zeroPadded 2 (seconds / 3600) ++ ":" ++
    zeroPadded 2 (seconds / 60 % 60) ++ ":" ++ zeroPadded 2 (seconds % 60) ++ "Z"

def Pydantic.plain : Pydantic where
  int _ := none
  bool
    | .bool value => some value
    | _ => none
  time value := do isoTime? (← value.toStr?).toList
  date value := do isoDate? (← value.toStr?).toList
  datetime value := do
    match ← isoLocal? (← value.toStr?).toList with
    | (time, ['Z']) => some ⟨time, 0⟩
    | _ => none
  httpUrl := Json.toStr?
  writeDatetime value := writeUtc value.instant
  errorText _ := "validation error for DailyReport"

end MacroPlatform.Report
