import MacroPlatform.Providers.Resumption

/-! # `UsTwelveDataIngestHandler`

One execution fetches one page of bars. A cursor that the provider refuses is replaced once by the
one of the last committed page. The result counts the bars of the page, and the warnings that came
with it as rejected records.

* `runCheckpointed_ok`: what an execution serves and counts, on an unchanged source.
-/

namespace MacroPlatform.Ingestion

open Paging
open Providers (Reading RowWarning ValidBar Web)
open Providers.TwelveData
open Raising (bind_ok ok_bind)
open Report (Writing)

/-- `_PAGE_SIZE`. -/
def twelveDataPageSize : ℕ := 1000

/-- `_PIT_CLOCK_SKEW`, in microseconds. -/
def pitClockSkew : ℤ := 5000000

/-- `TWELVE_DATA_PRIMARY_ROLE`. -/
def twelveDataPrimaryRole : String := "us.market.primary"

/-- `UsTwelveDataIngestHandler`; the timeout of a request is in microseconds. -/
structure UsTwelveDataIngestHandler where
  provider : TwelveDataDailyBarsProvider
  supportsPointInTime : Bool := false
  requestTimeout : ℤ := 30000000

/-- What one execution meets: its run, the clocks, what the source answers to it and to the fetch
after a refused cursor, the watermark and the cursor that are committed, and whether its page is
new. -/
structure Visit where
  runId : UUID
  now : Instant
  fetchedAt : Instant
  upstream : Upstream
  recovered : Option (Text × Text)
  refetchedAt : Instant
  reUpstream : Upstream
  committed : Bool
  finishedAt : Instant

variable (w : Writing) (r : Reading) (web : Web) (handler : UsTwelveDataIngestHandler)

/-- `_validate_request`. -/
def validateRequest (request : IngestJobRequest) : Except FetchError Unit :=
  if request.providerRole.value ≠ twelveDataPrimaryRole then
    .error (.reading (.value "Twelve Data ingestion requires the us.market.primary role"))
  else if request.dataset ≠ .bars then
    .error (.reading (.value "Twelve Data ingestion supports bars only"))
  else if request.regions ≠ [.us] then
    .error (.reading (.value "Twelve Data ingestion requires the US region"))
  else .ok ()

/-- `reject_unsupported_historical_pit`. -/
def rejectHistorical (request : IngestJobRequest) (now : Instant) : Except FetchError Unit :=
  if request.asOf.instant < now - pitClockSkew ∧ handler.supportsPointInTime = false then
    .error (unsupported (Providers.TwelveData.providerId ++
      " does not support historical point-in-time"))
  else .ok ()

/-- `live_as_of`. -/
def UsTwelveDataIngestHandler.liveAsOf (request : IngestJobRequest) : Instant :=
  request.asOf.instant + handler.requestTimeout + pitClockSkew

/-- The query of a request, without its cursor. -/
def UsTwelveDataIngestHandler.barQuery (request : IngestJobRequest) : BarQuery where
  instrumentIds := handler.provider.instruments.map (·.instrumentId)
  interval := .d1
  start := request.start.instant
  stop := request.stop.instant
  asOf := handler.liveAsOf request
  limit := twelveDataPageSize

/-- `fetch_page`. -/
def UsTwelveDataIngestHandler.fetchPage (request : IngestJobRequest) (upstream : Upstream)
    (fetchedAt : Instant) (cursor : Option Text) : Except FetchError (ProviderPage r web) :=
  fetchBars w r web handler.provider upstream fetchedAt (handler.liveAsOf request)
    (handler.barQuery request) cursor

/-- The warning of a page that was fetched with the committed cursor. -/
def recoveryWarning (committedWatermark : Text) : WarningItem where
  code := .ofString "CURSOR_RECOVERED"
  message := .ofString "expired Twelve Data cursor resumed from committed checkpoint cursor"
  scope := some (.ofString "US")
  details := [("committed_watermark", committedWatermark.dump)]
  code_length := by decide
  message_length := by decide

/-- The page of a request, and the warning of its recovery. -/
def UsTwelveDataIngestHandler.page (request : IngestJobRequest) (visit : Visit) :
    Except FetchError (ProviderPage r web × Option WarningItem) :=
  match handler.fetchPage w r web request visit.upstream visit.fetchedAt request.cursor with
  | .ok page => .ok (page, none)
  | .error error =>
      if error.isCursor then
        match visit.recovered with
        | none => .error error
        | some (recoveredWatermark, recoveredCursor) =>
            handler.fetchPage w r web request visit.reUpstream visit.refetchedAt
                (some recoveredCursor) >>= fun page =>
            if page.sourceWatermark ≠ some recoveredWatermark then
              .error (cursorError
                ("Twelve Data cursor recovery returned a different source watermark: expected " ++
                  recoveredWatermark.value ++ ", got " ++
                  page.sourceWatermark.elim "None" (·.value)) "CURSOR_RECOVERY_MISMATCH")
            else .ok (page, some (recoveryWarning recoveredWatermark))
      else .error error

/-- `sum(warning.code == "PROVIDER_RECORD_QUARANTINED" for warning in page.warnings)`. -/
def rejectedRecords (warnings : List RowWarning) : ℕ :=
  (warnings.map (·.warningItem r)).countP (·.code.value = "PROVIDER_RECORD_QUARANTINED")

/-- The result of a page. -/
def pageResult (request : IngestJobRequest) (visit : Visit) (page : ProviderPage r web)
    (recovery : Option WarningItem) : IngestJobResult where
  runId := visit.runId
  status := if rejectedRecords r page.warnings = 0 then .succeeded else .partially
  providerRole := request.providerRole
  dataset := request.dataset
  startedAt := visit.now
  finishedAt := visit.finishedAt
  recordsFetched := page.items.length + rejectedRecords r page.warnings
  recordsAccepted := page.items.length
  recordsRejected := rejectedRecords r page.warnings
  recordsInserted := if visit.committed then page.items.length else 0
  recordsUpdated := 0
  nextCursor := page.nextCursor
  sourceWatermark := page.sourceWatermark
  warnings := page.warnings.map (·.warningItem r) ++ recovery.toList

/-- `run_checkpointed`. -/
def UsTwelveDataIngestHandler.runCheckpointed (request : IngestJobRequest) (visit : Visit) :
    Except FetchError IngestJobResult :=
  validateRequest request >>= fun _ =>
  rejectHistorical handler request visit.now >>= fun _ =>
  (handler.page w r web request visit).map fun (page, recovery) =>
    pageResult r web request visit page recovery

variable {w} {r} {web} {handler}

/-! ## On an unchanged source -/

/-- The source answers an execution with the snapshot. -/
def Visit.Sees (visit : Visit) (snapshot : Snapshot) : Prop :=
  visit.upstream.Serves snapshot ∧ visit.reUpstream.Serves snapshot

/-- Every warning of a page is counted. -/
theorem rejectedRecords_eq (warnings : List RowWarning) :
    rejectedRecords r warnings = warnings.length := by
  have hcode : (Text.ofString "PROVIDER_RECORD_QUARANTINED").value =
      "PROVIDER_RECORD_QUARANTINED" := by decide +kernel
  have hall : ∀ item ∈ warnings.map (·.warningItem r),
      decide (item.code.value = "PROVIDER_RECORD_QUARANTINED") = true := by
    intro item hitem
    obtain ⟨warning, -, rfl⟩ := List.mem_map.mp hitem
    exact decide_eq_true hcode
  rw [rejectedRecords, List.countP_eq_length.mpr hall, List.length_map]

/-- On an unchanged source an execution serves the page of its cursor, and counts the warnings of
the whole source. -/
theorem runCheckpointed_ok {snapshot : Snapshot} {request : IngestJobRequest} {visit : Visit}
    (hsees : visit.Sees snapshot) {items : List (ValidBar r web)} {warnings : List RowWarning}
    (hread : snapshotRead w r web handler.provider snapshot (handler.barQuery request) =
      .ok (items, warnings))
    {offset : ℕ} (hoffset : offset ≤ items.length) (hmax : offset ≤ maxCursorOffset)
    (hcursor : request.cursor = cursorAt w handler.provider.codec
      (handler.provider.fingerprint (handler.barQuery request) (handler.liveAsOf request)) items
      offset)
    {result : IngestJobResult}
    (h : handler.runCheckpointed w r web request visit = .ok result) :
    result.recordsRejected = warnings.length ∧
      result.recordsAccepted = (pageAt twelveDataPageSize offset items).length ∧
      (result.nextCursor =
        if offset + twelveDataPageSize < items.length then
          cursorAt w handler.provider.codec
            (handler.provider.fingerprint (handler.barQuery request) (handler.liveAsOf request))
            items (offset + twelveDataPageSize)
        else none) ∧
      (offset + twelveDataPageSize < items.length →
        offset + twelveDataPageSize ≤ maxCursorOffset) := by
  have hlimit : 0 < twelveDataPageSize := by decide
  obtain ⟨_, -, h⟩ := bind_ok.mp h
  obtain ⟨_, -, h⟩ := bind_ok.mp h
  obtain ⟨⟨page, recovery⟩, hpage, rfl⟩ := RowLoop.map_ok.mp h
  have houtcome : (items.map fun item => item.val.barId).Nodup →
      PageOutcome w handler.provider.codec
        (handler.provider.fingerprint (handler.barQuery request) (handler.liveAsOf request))
        twelveDataPageSize offset items warnings
        (handler.fetchPage w r web request visit.upstream visit.fetchedAt request.cursor) := by
    intro hids
    rw [hcursor]
    exact fetchBars_outcome hsees.1 hlimit hread hids hoffset hmax
  unfold UsTwelveDataIngestHandler.page at hpage
  cases hfetched : handler.fetchPage w r web request visit.upstream visit.fetchedAt
      request.cursor with
  | ok fetched =>
    rw [hfetched] at hpage
    cases hpage
    have hmatches := houtcome (nodup_of_fetchBars hsees.1 hread hfetched)
    rw [hfetched] at hmatches
    refine ⟨?_, ?_, hmatches.next_eq, hmatches.next_le⟩
    · show rejectedRecords r page.warnings = _
      rw [rejectedRecords_eq, hmatches.warnings_eq]
    · show page.items.length = _
      rw [← hmatches.items_eq, List.length_map]
  | error error =>
    rw [hfetched] at hpage
    simp only at hpage
    split_ifs at hpage with hcursorError
    cases hrecovered : visit.recovered with
    | none =>
      rw [hrecovered] at hpage
      cases hpage
    | some recovered =>
      -- a page after a refused cursor shows that the source was readable, and then the cursor
      -- would not have been refused
      rw [hrecovered] at hpage
      obtain ⟨refetched, hrefetched, -⟩ := bind_ok.mp hpage
      have hmatches := houtcome (nodup_of_fetchBars hsees.2 hread hrefetched)
      rw [hfetched] at hmatches
      have hno : error.isCursor = false := hmatches
      rw [hno] at hcursorError
      cases hcursorError

/-! ## Executions that are served -/

/-- The request and the times of an execution pass the checks that come before the bars are read. -/
structure Visit.Passes (handler : UsTwelveDataIngestHandler) (request : IngestJobRequest)
    (visit : Visit) : Prop where
  valid : validateRequest request = .ok ()
  current : rejectHistorical handler request visit.now = .ok ()
  query : checkQuery handler.provider (handler.barQuery request) visit.fetchedAt = .ok ()
  window : ∀ startDate endDate,
    queryDates handler.provider (handler.barQuery request) = .ok (startDate, endDate) →
      ¬ (¬ endDate < startDate ∧ maxQueryWindow < endDate - startDate)

/-- On an unchanged source such an execution has a result. -/
theorem runCheckpointed_served {snapshot : Snapshot} {request : IngestJobRequest} {visit : Visit}
    (hsees : visit.Sees snapshot) (hpasses : visit.Passes handler request)
    {items : List (ValidBar r web)} {warnings : List RowWarning}
    (hread : snapshotRead w r web handler.provider snapshot (handler.barQuery request) =
      .ok (items, warnings))
    (hids : (items.map fun item => item.val.barId).Nodup) {offset : ℕ}
    (hoffset : offset ≤ items.length) (hmax : items.length ≤ maxCursorOffset)
    (hcursor : request.cursor = cursorAt w handler.provider.codec
      (handler.provider.fingerprint (handler.barQuery request) (handler.liveAsOf request)) items
      offset) :
    ∃ result, handler.runCheckpointed w r web request visit = .ok result := by
  have hlimit : 0 < twelveDataPageSize := by decide
  obtain ⟨⟨startDate, endDate⟩, hdates, -⟩ := bind_ok.mp hread
  have hserved := (@fetchBars_passed w r web handler.provider _ _ hsees.1 (handler.barQuery request) _
    (handler.liveAsOf request) _ _ _ hlimit hread hids hoffset (hoffset.trans hmax) hpasses.query _ _
    hdates (hpasses.window startDate endDate hdates)).2
  obtain ⟨page, hpage⟩ := hserved fun hmore => by omega
  have hfetched : handler.fetchPage w r web request visit.upstream visit.fetchedAt
      request.cursor = .ok page := by
    rw [hcursor]
    exact hpage
  refine ⟨pageResult r web request visit page none, ?_⟩
  rw [UsTwelveDataIngestHandler.runCheckpointed, hpasses.valid, ok_bind, hpasses.current, ok_bind,
    UsTwelveDataIngestHandler.page, hfetched]
  rfl

end MacroPlatform.Ingestion
