import MacroPlatform.Ingestion.PageCommit
import MacroPlatform.Schedule.Task
import MacroPlatform.Store.Tables

/-! # Market evidence for a report

`PostgresReportInputEvidenceStore._market_evidence`, the queries it makes and the helpers it
shares with the other inputs.
-/

namespace MacroPlatform.Evidence

open Query Schedule Store

/-! ## Evidence -/

/-- `InputEvidenceStatus`. -/
inductive InputEvidenceStatus where
  | available
  | revised
  | retryable
  | missing
  | stale
  | late
  | unavailable
  | quarantined
  | invalid
deriving DecidableEq, Repr

/-- `InputQualityEvidence`, with the facts and the sources that its fields project. -/
structure InputQualityEvidence where
  inputId : String
  status : InputEvidenceStatus
  required : Bool
  reason : String
  facts : List Fact := []
  sourceReferences : List SourceRef := []

/-- Required evidence without facts. -/
def InputQualityEvidence.without (inputId : String) (status : InputEvidenceStatus)
    (reason : String) : InputQualityEvidence :=
  { inputId, status, required := true, reason }

/-- `_unavailable_evidence`. -/
def unavailableEvidence (inputId reason : String) : InputQualityEvidence :=
  .without inputId .unavailable reason

/-- The tables that the evidence is read from; of a rejection its run is. -/
structure EvidenceTables where
  facts : FactTables
  pages : List Ingestion.IngestPageCommit
  rejections : List UUID

/-! ## Calendars -/

/-- What a venue's calendar says, of the session before a date as well; `none` is a
`CalendarError` or a `ValueError`. -/
structure ExchangeCalendar where
  isSession : Day → Option Bool
  previousSession : Day → Option Day
  dateToSession : Day → Option Day
  sessionClose : Day → Instant

/-- `_VENUE_CALENDAR_BY_REGION`. -/
def venueCalendarByRegion : Region → Option String
  | .cn => some "XSHG"
  | .hk => some "XHKG"
  | .us => some "XNYS"
  | .global => none

/-- What `previous_session` raises. -/
inductive SessionError where
  | keyError (key : String)
  | unavailable (message : String)

/-- `ExchangeMarketSessionCalendar.previous_session`, over `get_calendar`. -/
def previousSession (getCalendar : String → Option ExchangeCalendar) (region : Region)
    (reportDate : Day) : Except SessionError Day :=
  match venueCalendarByRegion region with
  | none => .error (.keyError region.value)
  | some calendarName =>
      let previous := do
        let calendar ← getCalendar calendarName
        if ← calendar.isSession reportDate then calendar.previousSession reportDate
        else calendar.dateToSession reportDate
      match previous with
      | some session => .ok session
      | none => .error (.unavailable
          (calendarName ++ " cannot resolve a previous session for " ++ reportDate.isoformat))

/-- `PostgresReportInputEvidenceStore`; the windows are in microseconds. -/
structure PostgresReportInputEvidenceStore where
  marketMaxAge : ℤ := 36 * 3600000000
  newsMaxAge : ℤ := 24 * 3600000000
  getCalendar : String → Option ExchangeCalendar
  positive : 0 < min marketMaxAge newsMaxAge := by decide

theorem defaultAges_positive : (0 : ℤ) < min (36 * 3600000000) (24 * 3600000000) := by
  decide

/-! ## The task -/

/-- `MarketInputSpec`. -/
structure MarketInputSpec where
  inputId : String
  taskId : String
  region : Region
  expectedInstrumentIds : List String

/-- `MARKET_INPUT_SPECS`. -/
def marketInputSpecs : List MarketInputSpec :=
  [{ inputId := "market.cn.core_indices.previous_close"
     taskId := "cn.daily-bars"
     region := .cn
     expectedInstrumentIds := ["ins_cn_index_sse_composite", "ins_cn_index_csi300",
       "ins_cn_index_szse_component"] },
   { inputId := "market.hk.core_indices.previous_close"
     taskId := "hk.core-index-bars"
     region := .hk
     expectedInstrumentIds := ["ins_hk_index_hsi", "ins_hk_index_hscei",
       "ins_hk_index_hstech"] },
   { inputId := "market.us.core_indices.previous_close"
     taskId := "us.daily-bars"
     region := .us
     expectedInstrumentIds := ["ins_us_etf_spy", "ins_us_etf_qqq", "ins_us_etf_dia"] }]

/-- `evidence_run_ids`. -/
def evidenceRunIds (taskResult : ScheduledTaskResult) : List UUID :=
  distinct (taskResult.runIds ++ taskResult.runId.toList)

/-- The value of a `ScheduledTaskStatus`. -/
def statusValue : ScheduledTaskStatus → String
  | .succeeded => "succeeded"
  | .failed => "failed"
  | .retryable => "retryable"

/-- `task_problem`. -/
def taskProblem (inputId : String) (taskResult : Option ScheduledTaskResult)
    (rejectionCount : ℕ) : Option InputQualityEvidence :=
  match taskResult with
  | none => some (unavailableEvidence inputId "scheduled task did not produce a durable result")
  | some task =>
      if rejectionCount > 0 then
        some (.without inputId .quarantined
          ("scheduled task quarantined " ++ toString rejectionCount ++ " records"))
      else if task.status = .succeeded then
        if evidenceRunIds task = [] then
          some (unavailableEvidence inputId
            "scheduled task succeeded without durable run evidence")
        else none
      else
        let code := task.errorCode.getD ""
        some (.without inputId (if task.status = .retryable then .retryable else .unavailable)
          ("scheduled task " ++ task.taskId ++ " ended as " ++ statusValue task.status ++
            if code = "" then "" else " (" ++ code ++ ")"))

/-- `task_rejection_count`, over the rejections by run. -/
def taskRejectionCount (taskResult : Option ScheduledTaskResult) (rejections : List UUID) : ℕ :=
  match taskResult with
  | none => 0
  | some task =>
      max task.recordsRejected ((evidenceRunIds task).map fun runId => rejections.count runId).sum

/-- `TaskCommitEvidence`. -/
structure TaskCommitEvidence where
  pageCount : ℕ
  providerRecordIds : List String

/-- `committed_task_pages`. -/
def committedTaskPages (pages : List Ingestion.IngestPageCommit)
    (taskResult : ScheduledTaskResult) : TaskCommitEvidence :=
  match taskResult.dataset, taskResult.region with
  | some dataset, some region =>
      let committed := pages.filter fun row =>
        row.ingestionRunId.any (· ∈ evidenceRunIds taskResult) ∧
          row.page.providerRole = taskResult.providerRole ∧ row.page.dataset = dataset ∧
          row.page.region = region.value
      ⟨committed.length, distinct (committed.flatMap (·.page.acceptedRecordIds))⟩
  | _, _ => ⟨0, []⟩

/-! ## Versions of bars -/

/-- A row of `_market_bar_versions`: the evidence rank of a version that one of the runs
wrote is 1. -/
structure EvidenceVersion where
  barId : String
  instrumentId : String
  region : Region
  tradingDate : Day
  availableAt : Instant
  providerRecordId : String
  revisionRank : ℕ
  evidenceRank : ℕ
  sourceChecksum : String
  payload : MarketBar

def evidenceRank (runIds : List UUID) (ingestionRunId : Option UUID) : ℕ :=
  if ingestionRunId.any (· ∈ runIds) then 1 else 0

def baseVersion (runIds : List UUID) (row : MarketBarRow) : EvidenceVersion :=
  { barId := row.barId
    instrumentId := row.instrumentId
    region := row.region
    tradingDate := row.tradingDate
    availableAt := row.availableAt
    providerRecordId := row.providerRecordId
    revisionRank := 0
    evidenceRank := evidenceRank runIds row.ingestionRunId
    sourceChecksum := row.payload.source.checksumSha256
    payload := row.payload }

def revisionVersion (runIds : List UUID) (revision : MarketBarRevisionRow)
    (row : MarketBarRow) : EvidenceVersion :=
  { barId := row.barId
    instrumentId := row.instrumentId
    region := row.region
    tradingDate := row.tradingDate
    availableAt := revision.availableAt
    providerRecordId := revision.payload.source.providerRecordId
    revisionRank := 1
    evidenceRank := evidenceRank runIds revision.ingestionRunId
    sourceChecksum := revision.sourceChecksumSha256
    payload := revision.payload }

/-- The versions that were available: `base_versions` and `revision_versions`. -/
def evidenceVersions (t : FactTables) (runIds : List UUID) (availableAt : Instant) :
    List EvidenceVersion :=
  (t.bars.filter (·.availableAt ≤ availableAt)).map (baseVersion runIds) ++
    (t.barRevisions.filter (·.availableAt ≤ availableAt)).flatMap fun revision =>
      (t.bars.filter (·.barId = revision.barId)).map (revisionVersion runIds revision)

/-- The order of the versions of a bar: those of the evidence runs first, then the latest. -/
def EvidenceVersion.order (engine : Engine) : SortKey EvidenceVersion :=
  lexicographic [desc compare (·.evidenceRank), desc compare (·.availableAt),
    desc compare (·.revisionRank), desc engine.collate (·.sourceChecksum)]

variable (engine : Engine) (t : FactTables)

/-- `_market_bar_versions`. -/
def marketBarVersions (runIds : List UUID) (availableAt : Instant) : List EvidenceVersion :=
  engine.rankedFirst (·.barId) (EvidenceVersion.order engine)
    (evidenceVersions t runIds availableAt)

/-- The conditions of `market_bars_as_of`. -/
def EvidenceVersion.Eligible (spec : MarketInputSpec) (providerRecordIds : List String)
    (reportDate : Day) (version : EvidenceVersion) : Prop :=
  version.region = spec.region ∧ version.instrumentId ∈ spec.expectedInstrumentIds ∧
    version.providerRecordId ∈ providerRecordIds ∧ version.tradingDate < reportDate

instance (spec : MarketInputSpec) (providerRecordIds : List String) (reportDate : Day)
    (version : EvidenceVersion) : Decidable (version.Eligible spec providerRecordIds reportDate) :=
  inferInstanceAs (Decidable (_ ∧ _ ∧ _ ∧ _))

/-- The order of the bars of an instrument: the latest session first. -/
def EvidenceVersion.sessionOrder (engine : Engine) : SortKey EvidenceVersion :=
  lexicographic [asc engine.collate (·.instrumentId), desc compare (·.tradingDate),
    desc compare (·.availableAt), desc engine.collate (·.barId)]

/-- `market_bars_as_of`. -/
def marketBarsAsOf (spec : MarketInputSpec) (providerRecordIds : List String)
    (runIds : List UUID) (availableAt : Instant) (reportDate : Day) : List MarketBar :=
  if providerRecordIds = [] ∨ runIds = [] then []
  else
    (engine.orderBy (EvidenceVersion.sessionOrder engine)
      ((marketBarVersions engine t runIds availableAt).filter
        (·.Eligible spec providerRecordIds reportDate))).map (·.payload)

/-- `late_market_instruments`. -/
def lateMarketInstruments (region : Region) (providerRecordIds : List String)
    (runIds : List UUID) (cutoffAt asOf : Instant) (expectedTradingDate : Day) : List String :=
  if providerRecordIds = [] ∨ runIds = [] then []
  else
    ((marketBarVersions engine t runIds asOf).filter fun version =>
      version.region = region ∧ version.providerRecordId ∈ providerRecordIds ∧
        version.tradingDate = expectedTradingDate ∧ cutoffAt < version.availableAt).map
      (·.instrumentId)

/-- `market_has_revision_before_cutoff`. -/
def marketHasRevisionBeforeCutoff (selectedVersions : List (String × String))
    (cutoffAt : Instant) : Bool :=
  t.barRevisions.any fun revision =>
    (revision.barId, revision.sourceChecksumSha256) ∈ selectedVersions ∧
      revision.availableAt ≤ cutoffAt

/-! ## The evidence -/

/-- `sorted` of text: by code points. -/
def sortedText (texts : List String) : List String := texts.insertionSort (· ≤ ·)

/-- `unexpected_trading_dates`. -/
def unexpectedTradingDates (tradingDates : List Day) (expectedTradingDate : Day) : List Day :=
  (distinct (tradingDates.filter (· ≠ expectedTradingDate))).insertionSort (· ≤ ·)

/-- `source_status`. -/
def sourceStatus (availableAts : List Instant) (cutoffAt : Instant) (maxAge : ℤ)
    (revised : Bool) : InputEvidenceStatus × String :=
  if ∃ availableAt ∈ availableAts, cutoffAt < availableAt then
    (.late, "a required fact became available after the report cutoff")
  else if ∃ availableAt ∈ availableAts, maxAge < cutoffAt - availableAt then
    (.stale, "a required fact exceeds the configured freshness window")
  else if revised then (.revised, "a later source revision exists for this report input")
  else (.available, "all required facts are materialized before cutoff")

/-- The evidence when instruments are missing. -/
def missingEvidence (spec : MarketInputSpec) (missing lateInstruments : List String) :
    InputQualityEvidence :=
  if ∀ instrumentId ∈ missing, instrumentId ∈ lateInstruments then
    .without spec.inputId .late
      ("required market bars were committed after the report cutoff: " ++
        ", ".intercalate missing)
  else
    .without spec.inputId .missing ("missing expected instruments: " ++ ", ".intercalate missing)

/-- The evidence of a bar for every expected instrument. -/
def barsEvidence (spec : MarketInputSpec) (bars : List MarketBar) (expected : Day)
    (cutoffAt : Instant) (maxAge : ℤ) : InputQualityEvidence :=
  let staleDates := unexpectedTradingDates (bars.map (·.tradingDate)) expected
  if staleDates ≠ [] then
    .without spec.inputId .stale
      ("expected previous market session " ++ expected.isoformat ++ ", found " ++
        ", ".intercalate (staleDates.map (·.isoformat)))
  else
    let revised := marketHasRevisionBeforeCutoff t
      (bars.map fun bar => (bar.barId, bar.source.checksumSha256)) cutoffAt
    let status := sourceStatus (bars.map (·.availableAt)) cutoffAt maxAge revised
    { inputId := spec.inputId
      status := status.1
      required := true
      reason := status.2
      facts := bars.map .bar
      sourceReferences := bars.map (·.source) }

/-- The first bar of every instrument, by instrument. -/
def selectedBars (rows : List MarketBar) : List MarketBar :=
  (firstPerKey (·.instrumentId) rows).insertionSort fun a b => a.instrumentId ≤ b.instrumentId

/-- The expected instruments without a bar. -/
def missingInstruments (spec : MarketInputSpec) (bars : List MarketBar) : List String :=
  sortedText (spec.expectedInstrumentIds.filter fun instrumentId =>
    instrumentId ∉ bars.map (·.instrumentId))

/-- `_market_evidence`; `.error` is an exception. -/
def marketEvidence (store : PostgresReportInputEvidenceStore) (t : EvidenceTables)
    (spec : MarketInputSpec) (reportDate : Day) (asOf cutoffAt : Instant)
    (taskResult : Option ScheduledTaskResult) (rejectionCount : ℕ) :
    Except String InputQualityEvidence :=
  match taskProblem spec.inputId taskResult rejectionCount, taskResult with
  | some problem, _ => .ok problem
  | none, none => .error "a successful task result is required after task_problem"
  | none, some task =>
      let commits := committedTaskPages t.pages task
      let runIds := evidenceRunIds task
      if commits.pageCount = 0 then
        .ok (unavailableEvidence spec.inputId
          "scheduled task has no committed provider pages for its durable run evidence")
      else if commits.providerRecordIds = [] then
        .ok (.without spec.inputId .missing
          "scheduled task committed no market-bar provider records")
      else
        let bars := selectedBars
          (marketBarsAsOf engine t.facts spec commits.providerRecordIds runIds cutoffAt reportDate)
        let missing := missingInstruments spec bars
        match previousSession store.getCalendar spec.region reportDate with
        | .error (.keyError key) => .error key
        | .error (.unavailable message) => .ok (unavailableEvidence spec.inputId message)
        | .ok expected =>
            if missing ≠ [] then
              .ok (missingEvidence spec missing
                (lateMarketInstruments engine t.facts spec.region commits.providerRecordIds runIds
                  cutoffAt asOf expected))
            else .ok (barsEvidence t.facts spec bars expected cutoffAt store.marketMaxAge)

end MacroPlatform.Evidence
