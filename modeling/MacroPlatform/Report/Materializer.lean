import MacroPlatform.Evidence.Market
import MacroPlatform.Report.References

/-! # `ReportInputSnapshotMaterializer`

The evidence of the inputs is what the queries found, as dicts. The materializer applies the
policy of the day to it, drops what came after the cutoff, and writes one snapshot.
-/

namespace MacroPlatform.Report

open Daily

/-- `re.fullmatch("[a-f0-9]{64}", text)`. -/
def IsSha256 (s : String) : Prop :=
  s.length = 64 ∧ ∀ c ∈ s.toList, c ∈ "0123456789abcdef".toList

/-- What the materializer writes numbers and hashes with. -/
structure Writing where
  /-- `str(value)` of a `Decimal`. -/
  decimal : DecimalValue → String
  /-- `json.dumps(parts, ...)` of the parts of an id. -/
  dumpsParts : List String → String
  /-- `json.dumps(payload, sort_keys=True, ...)`. -/
  dumpsPayload : Json → String
  /-- `hashlib.sha256(text.encode("utf-8")).hexdigest()`. -/
  sha256Hex : String → String
  hexdigest : ∀ text, IsSha256 (sha256Hex text)

variable (w : Writing) (python : Python)

/-- `stable_id`. -/
def stableId (idNamespace : String) (parts : List String) : String :=
  idNamespace ++ "_" ++ w.sha256Hex (w.dumpsParts parts)

/-! ## Evidence -/

/-- A `str` field of a contract, validated. -/
structure FitsText (minLength maxLength : ℕ) (s : String) : Prop where
  stripped : modelStrip s = s
  atLeast : minLength ≤ s.length
  atMost : s.length ≤ maxLength

/-- A validated `SourceRef`, with what a report cites of it. -/
structure CitedSource extends SourceRef where
  sourceUrl : Option String
  retrievedAt : Instant
  provider : FitsText 2 64 providerId
  record : FitsText 1 256 providerRecordId
  name : FitsText 1 256 sourceName
  checksum : IsSha256 checksumSha256

/-- A bar with its source. -/
structure CitedBar extends MarketBar where
  cited : CitedSource
  same : cited.toSourceRef = source

/-- A news event with its source. -/
structure CitedNews extends NewsEvent where
  contentHashSha256 : String
  cited : CitedSource
  same : cited.toSourceRef = source
  regions_ne : regions ≠ []

/-- A release with its source. -/
structure CitedRelease extends MacroRelease where
  releaseName : String
  consensus : Option DecimalValue
  previous : Option DecimalValue
  unit : String
  cited : CitedSource
  same : cited.toSourceRef = source

/-- `_source_ref_id`. -/
def sourceRefId (source : SourceRef) : String :=
  stableId w "report-source" [source.providerId, source.providerRecordId, source.checksumSha256]

/-- `source_reference`. -/
def sourceReference (source : CitedSource) : Json :=
  .obj
    [("source_ref_id", .str (sourceRefId w source.toSourceRef)),
      ("provider_id", .str source.providerId),
      ("provider_record_id", .str source.providerRecordId),
      ("source_name", .str source.sourceName), ("source_url", .ofOption .str source.sourceUrl),
      ("retrieved_at", .str (utcIsoformat source.retrievedAt)),
      ("checksum_sha256", .str source.checksumSha256)]

/-- `str(value)` of an optional `Decimal`. -/
def decimalOrNone (value : Option DecimalValue) : Json :=
  .ofOption (fun x => .str (w.decimal x)) value

/-- The section of the highlights of a region. -/
def highlightsOf (region : Region) : String := region.value.toLower ++ "_highlights"

/-- `market_bar_fact`. -/
def marketBarFact (inputId : String) (reportDate : Day) (bar : CitedBar) : Json :=
  .obj
    [("fact_id", .str (stableId w "report-fact" [inputId, bar.barId, bar.cited.checksumSha256])),
      ("input_id", .str inputId), ("fact_type", .str "market_bar"),
      ("section_id", .str (highlightsOf bar.region)), ("instrument_id", .str bar.instrumentId),
      ("canonical_symbol", .str bar.canonicalSymbol),
      ("trading_date", .str (Day.isoformat bar.tradingDate)),
      ("open", .str (w.decimal bar.open)), ("high", .str (w.decimal bar.high)),
      ("low", .str (w.decimal bar.low)), ("close", .str (w.decimal bar.close)),
      ("volume", decimalOrNone w bar.volume), ("currency", .str bar.currency),
      ("label", .str (bar.canonicalSymbol ++ " close")),
      ("display_text", .str (bar.canonicalSymbol ++ " closed at " ++ w.decimal bar.close ++ " " ++
        bar.currency ++ ".")),
      ("value", .str (w.decimal bar.close)), ("unit", .str bar.currency),
      ("available_at", .str (utcIsoformat bar.availableAt)),
      ("report_date", .str (Day.isoformat reportDate)),
      ("source_ref_ids", strings [sourceRefId w bar.cited.toSourceRef])]

/-- The value of a `ContentMode`. -/
def contentModeValue : ContentMode → String
  | .headline => "headline"
  | .snippet => "snippet"
  | .fullText => "full_text"

/-- `news_event_fact`. -/
def newsEventFact (inputId : String) (reportDate : Day) (event : CitedNews) : Json :=
  .obj
    [("fact_id", .str (stableId w "report-fact" [inputId, event.newsId, event.contentHashSha256])),
      ("input_id", .str inputId), ("fact_type", .str "news_event"),
      ("section_id", .str (highlightsOf (event.regions.head event.regions_ne))),
      ("news_id", .str event.newsId), ("title", .str event.title),
      ("summary", .ofOption .str event.summary),
      ("published_at", .ofOption (fun t => .str (utcIsoformat t)) event.publishedAt),
      ("published_date", .ofOption (fun day => .str (Day.isoformat day)) event.publishedDate),
      ("content_mode", .str (contentModeValue event.contentMode)), ("label", .str event.title),
      ("display_text", .str (match event.summary with
        | none => event.title
        | some summary => event.title ++ ": " ++ summary)),
      ("value", .null), ("available_at", .str (utcIsoformat event.availableAt)),
      ("report_date", .str (Day.isoformat reportDate)),
      ("source_ref_ids", strings [sourceRefId w event.cited.toSourceRef])]

/-- `macro_release_fact`. -/
def macroReleaseFact (inputId : String) (reportDate : Day) (release : CitedRelease) : Json :=
  .obj
    [("fact_id", .str
        (stableId w "report-fact" [inputId, release.releaseId, release.cited.checksumSha256])),
      ("input_id", .str inputId), ("fact_type", .str "macro_release"),
      ("section_id", .str "upcoming_calendar"), ("release_id", .str release.releaseId),
      ("series_id", .str release.seriesId), ("region", .str release.region.value),
      ("release_name", .str release.releaseName),
      ("scheduled_at", .ofOption (fun t => .str (utcIsoformat t)) release.scheduledAt),
      ("scheduled_date", .ofOption (fun day => .str (Day.isoformat day)) release.scheduledDate),
      ("status", .str release.status), ("actual", decimalOrNone w release.actual),
      ("consensus", decimalOrNone w release.consensus),
      ("previous", decimalOrNone w release.previous), ("label", .str release.releaseName),
      ("display_text", .str (release.releaseName ++ " is " ++ release.status ++ ".")),
      ("value", decimalOrNone w release.actual), ("unit", .str release.unit),
      ("available_at", .str (utcIsoformat release.availableAt)),
      ("report_date", .str (Day.isoformat reportDate)),
      ("source_ref_ids", strings [sourceRefId w release.cited.toSourceRef])]

def calendarInputId : String := "calendar.macro_releases_7d"

/-- The fact of a calendar without releases. -/
def noReleasesFact (reportDate : Day) (cutoffAt : Instant) (region : Region) : Json :=
  .obj
    [("fact_id", .str ("fact." ++ calendarInputId ++ "." ++ region.value.toLower ++ ".empty")),
      ("input_id", .str calendarInputId), ("fact_type", .str "macro_release_calendar"),
      ("label", .str (region.value ++ " macro releases in next seven days")),
      ("display_text", .str "No macro releases are scheduled in the next seven days."),
      ("value", .int 0), ("unit", .str "events"),
      ("available_at", .str (utcIsoformat cutoffAt)),
      ("report_date", .str (Day.isoformat reportDate)), ("source_ref_ids", .arr [])]

/-- `InputQualityEvidence`, with the dicts of its facts and sources. -/
structure ReportInputEvidence where
  inputId : String
  status : Evidence.InputEvidenceStatus
  required : Bool := true
  reason : String
  facts : List Json := []
  sourceReferences : List Json := []

/-- `status in {"available", "revised"}`. -/
def ReportInputEvidence.Usable (evidence : ReportInputEvidence) : Prop :=
  evidence.status = .available ∨ evidence.status = .revised

instance (evidence : ReportInputEvidence) : Decidable evidence.Usable :=
  inferInstanceAs (Decidable (_ ∨ _))

/-- The evidence of one region's calendar: a status, a reason, and the releases. -/
structure RegionalCalendar where
  region : Region
  status : Evidence.InputEvidenceStatus
  reason : String
  releases : List CitedRelease

/-- The facts of a regional calendar that is usable. -/
def RegionalCalendar.facts (reportDate : Day) (cutoffAt : Instant) (calendar : RegionalCalendar) :
    List Json :=
  if calendar.releases.length = 0 then [noReleasesFact reportDate cutoffAt calendar.region]
  else calendar.releases.map (macroReleaseFact w calendarInputId reportDate)

/-- `_global_calendar_evidence`. -/
def globalCalendarEvidence (reportDate : Day) (cutoffAt : Instant)
    (regional : List RegionalCalendar) : ReportInputEvidence :=
  match regional.find? fun calendar => calendar.status ∉ [.available, .revised] with
  | some calendar =>
    { inputId := calendarInputId
      status := calendar.status
      reason := calendar.region.value ++ " calendar: " ++ calendar.reason }
  | none =>
    let revised := regional.any fun calendar => calendar.status = .revised
    { inputId := calendarInputId
      status := if revised then .revised else .available
      reason := if revised then "one or more regional calendars have a later source revision"
        else "CN, HK, and US calendar coverage is materialized before cutoff"
      facts := regional.flatMap (RegionalCalendar.facts w reportDate cutoffAt)
      sourceReferences := (Json.dict (regional.flatMap fun calendar =>
        calendar.releases.map fun release =>
          (sourceRefId w release.cited.toSourceRef, sourceReference w release.cited))).map
            Prod.snd }

/-- The evidence that `collect` returns of an input: a problem, or what the queries found. -/
inductive Collected (reportDate : Day) (cutoffAt : Instant) : ReportInputEvidence → Prop
  | problem {inputId status reason} (hstatus : status ∉ [.available, .revised])
      (hreason : modelStrip reason ≠ "") :
      Collected reportDate cutoffAt { inputId, status, reason }
  | market {inputId status reason} (bars : List CitedBar) (hreason : modelStrip reason ≠ "") :
      Collected reportDate cutoffAt
        { inputId, status, reason
          facts := bars.map (marketBarFact w inputId reportDate)
          sourceReferences := bars.map fun bar => sourceReference w bar.cited }
  | news {inputId status reason} (events : List CitedNews) (hreason : modelStrip reason ≠ "") :
      Collected reportDate cutoffAt
        { inputId, status, reason
          facts := events.map (newsEventFact w inputId reportDate)
          sourceReferences := events.map fun event => sourceReference w event.cited }
  | calendar (regional : List RegionalCalendar) :
      Collected reportDate cutoffAt (globalCalendarEvidence w reportDate cutoffAt regional)

/-! ## The policy of the day -/

/-- `RegionMarketDayPolicy`. -/
structure RegionMarketDayPolicy where
  region : String
  calendarName : String
  status : String
  marketInputId : String
  marketInputRequired : Bool
  previousSession : String

/-- `ReportDayPolicyResult`. -/
structure ReportDayPolicyResult where
  policyId : String
  calendarVersion : String
  reportDate : String
  dayType : String
  requiredInputIds : List String
  optionalInputIds : List String
  regions : List RegionMarketDayPolicy

/-- `to_payload`. -/
def ReportDayPolicyResult.toPayload (policy : ReportDayPolicyResult) : Json :=
  .obj
    [("policy_id", .str policy.policyId), ("calendar_version", .str policy.calendarVersion),
      ("report_date", .str policy.reportDate), ("day_type", .str policy.dayType),
      ("required_input_ids", strings policy.requiredInputIds),
      ("optional_input_ids", strings policy.optionalInputIds),
      ("regions", .arr (policy.regions.map fun region => .obj
        [("region", .str region.region), ("calendar_name", .str region.calendarName),
          ("status", .str region.status), ("market_input_id", .str region.marketInputId),
          ("market_input_required", .bool region.marketInputRequired),
          ("previous_session", .str region.previousSession)]))]

/-- `_closed_market_reason`. -/
def closedMarketReason (region : RegionMarketDayPolicy) : String :=
  region.region ++ " market is closed (" ++ region.status ++ "); " ++
    "current-session market input is optional for this report date"

/-- `closed_market_inputs`: of the regions with one input, the last counts. -/
def closedMarketInputs (policy : ReportDayPolicyResult) : List (String × RegionMarketDayPolicy) :=
  Json.dict ((policy.regions.filter fun region => !region.marketInputRequired).map fun region =>
    (region.marketInputId, region))

/-- One item of `_apply_report_day_policy`. -/
def applyPolicy (policy : ReportDayPolicyResult) (item : ReportInputEvidence) :
    ReportInputEvidence :=
  if item.inputId ∈ policy.requiredInputIds then { item with required := true }
  else match lookup? (closedMarketInputs policy) item.inputId with
    | none => item
    | some closed =>
      if item.Usable then { item with required := false }
      else
        { inputId := item.inputId
          status := .unavailable
          required := false
          reason := closedMarketReason closed }

/-- `_apply_report_day_policy`. -/
def applyReportDayPolicy (policy : ReportDayPolicyResult) (evidence : List ReportInputEvidence) :
    List ReportInputEvidence :=
  evidence.map (applyPolicy policy) ++
    (((closedMarketInputs policy).insertionSort fun a b => a.1 ≤ b.1).filter fun closed =>
      closed.1 ∉ evidence.map (·.inputId)).map fun closed =>
        { inputId := closed.1
          status := .unavailable
          required := false
          reason := closedMarketReason closed.2 }

/-! ## The snapshot -/

/-- The evidence without its facts. -/
def ReportInputEvidence.dropped (evidence : ReportInputEvidence)
    (status : Evidence.InputEvidenceStatus) (reason : String) : ReportInputEvidence :=
  { evidence with status, reason, facts := [], sourceReferences := [] }

/-- The first fact that is not available at the cutoff decides. -/
def afterCutoff (cutoffAt : Instant) (evidence : ReportInputEvidence) :
    List Json → ReportInputEvidence
  | [] => evidence
  | fact :: facts =>
    match parseDatetime python (fact.get "available_at") with
    | none => evidence.dropped .invalid
        "materialized fact is missing a valid available_at audit timestamp"
    | some availableAt =>
      if cutoffAt < availableAt then evidence.dropped .late
        "materialized fact became available after the report cutoff"
      else afterCutoff cutoffAt evidence facts

/-- `_exclude_after_cutoff_evidence`. -/
def excludeAfterCutoff (cutoffAt : Instant) (evidence : ReportInputEvidence) :
    ReportInputEvidence :=
  if evidence.Usable then afterCutoff python cutoffAt evidence evidence.facts else evidence

/-- The value of an `InputEvidenceStatus`. -/
def evidenceStatusValue : Evidence.InputEvidenceStatus → String
  | .available => "available"
  | .revised => "revised"
  | .retryable => "retryable"
  | .missing => "missing"
  | .stale => "stale"
  | .late => "late"
  | .unavailable => "unavailable"
  | .quarantined => "quarantined"
  | .invalid => "invalid"

/-- One source of `source_by_id`; `none` is its `ValueError`. -/
def addSource (sourceById : List (String × Json)) (source : Json) :
    Option (List (String × Json)) := do
  let id ← (source.get "source_ref_id").toStr?
  match lookup? sourceById id with
  | none => some (sourceById ++ [(id, source)])
  | some existing => if existing.pyEq source then some sourceById else none

/-- The key that the facts are sorted by. -/
def factKey (fact : Json) : String := pyString python (fact.get "fact_id" (.str ""))

/-- `facts`, `source_references` and `input_quality` of a snapshot. -/
structure SnapshotBody where
  facts : List Json
  factIds : List String
  sourceReferences : List (String × Json)
  inputQuality : List (String × Json)

/-- The entry of an input in `input_quality`. -/
def inputQualityEntry (item : ReportInputEvidence) : String × Json :=
  (item.inputId, .obj
    [("status", .str (evidenceStatusValue item.status)), ("required", .bool item.required),
      ("reason", .str item.reason)])

/-- `usable_evidence`. -/
def usableEvidence (cutoffAt : Instant) (evidence : List ReportInputEvidence) :
    List ReportInputEvidence :=
  (evidence.map (excludeAfterCutoff python cutoffAt)).filter fun item => item.Usable

/-- `facts`, sorted. -/
def sortedFacts (evidence : List ReportInputEvidence) : List Json :=
  (evidence.flatMap (·.facts)).insertionSort fun a b => factKey python a ≤ factKey python b

/-- `fact_ids`. -/
def stringFactIds (facts : List Json) : List String :=
  facts.filterMap fun fact => (fact.get "fact_id").toStr?

/-- The first part of `_snapshot_from_evidence`; `none` is a `ValueError`. -/
def snapshotBody (cutoffAt : Instant) (evidence : List ReportInputEvidence) :
    Option SnapshotBody := do
  guard (evidence.map (·.inputId)).Nodup
  let usable := usableEvidence python cutoffAt evidence
  let facts := sortedFacts python usable
  guard ((stringFactIds facts).length = facts.length ∧ (stringFactIds facts).Nodup)
  let sourceById ← (usable.flatMap (·.sourceReferences)).foldlM addSource []
  some
    { facts
      factIds := stringFactIds facts
      sourceReferences := sourceById.insertionSort fun a b => a.1 ≤ b.1
      inputQuality := ((evidence.map (excludeAfterCutoff python cutoffAt)).map
        inputQualityEntry).insertionSort fun a b => a.1 ≤ b.1 }

/-- The fields that the body and the payload of a snapshot share. -/
def SnapshotBody.payloadFields (body : SnapshotBody) (policy : ReportDayPolicyResult) :
    List (String × Json) :=
  let facts := Json.arr body.facts
  let sourceReferences := Json.arr (body.sourceReferences.map Prod.snd)
  let inputQuality := Json.obj body.inputQuality
  [("fact_ids", strings body.factIds), ("facts", facts),
    ("source_ref_ids", strings (body.sourceReferences.map Prod.fst)),
    ("source_references", sourceReferences), ("input_quality", inputQuality),
    ("report_day_policy", policy.toPayload),
    ("editor_context", .obj
      [("facts", facts), ("source_references", sourceReferences),
        ("input_quality", inputQuality), ("report_day_policy", policy.toPayload)])]

/-- `canonical_json_checksum(body)`. -/
def snapshotFingerprint (reportDate : Day) (asOf cutoffAt : Instant) (snapshotVersion : String)
    (body : SnapshotBody) (policy : ReportDayPolicyResult) : String :=
  w.sha256Hex (w.dumpsPayload (.obj
    ([("report_date", .str (Day.isoformat reportDate)), ("as_of", .str (utcIsoformat asOf)),
      ("cutoff_at", .str (utcIsoformat cutoffAt)),
      ("snapshot_version", .str snapshotVersion)] ++ body.payloadFields policy)))

/-- `ReportInputSnapshot(...)` of a body. -/
def snapshotOf (reportDate : Day) (asOf cutoffAt : Instant) (snapshotVersion fingerprint : String)
    (body : SnapshotBody) (policy : ReportDayPolicyResult) : ReportInputSnapshot Json :=
  let snapshotId := stableId w "report-input"
    [snapshotVersion, Day.isoformat reportDate, fingerprint]
  { snapshotId
    snapshotVersion
    reportDate
    asOf
    cutoffAt
    fingerprintSha256 := fingerprint
    factIds := body.factIds
    payload := .obj
      ([("snapshot_id", .str snapshotId), ("snapshot_version", .str snapshotVersion),
        ("as_of", .str (utcIsoformat asOf)), ("cutoff_at", .str (utcIsoformat cutoffAt)),
        ("fingerprint_sha256", .str fingerprint)] ++ body.payloadFields policy) }

/-- `_snapshot_from_evidence`; the version and the ids of the facts are texts of a contract, as
`ReportInputSnapshot` checks them against its payload. -/
def snapshotFromEvidence (reportDate : Day) (asOf cutoffAt : Instant) (snapshotVersion : String)
    (evidence : List ReportInputEvidence) (policy : ReportDayPolicyResult) :
    Option (ReportInputSnapshot Json) := do
  let body ← snapshotBody python cutoffAt evidence
  if modelStrip snapshotVersion = snapshotVersion ∧ 1 ≤ snapshotVersion.length ∧
      snapshotVersion.length ≤ 32 ∧ ∀ id ∈ body.factIds, modelStrip id = id then
    some (snapshotOf w reportDate asOf cutoffAt snapshotVersion
      (snapshotFingerprint w reportDate asOf cutoffAt snapshotVersion body policy) body policy)
  else none

/-- A snapshot that `materialize` stores. -/
def Materialized (snapshot : ReportInputSnapshot Json) : Prop :=
  ∃ asOf cutoffAt snapshotVersion evidence policy,
    (∀ item ∈ evidence, Collected w snapshot.reportDate cutoffAt item) ∧
      snapshotFromEvidence w python snapshot.reportDate asOf cutoffAt snapshotVersion
        (applyReportDayPolicy policy evidence) policy = some snapshot

end MacroPlatform.Report
