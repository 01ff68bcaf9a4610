import MacroPlatform.Store.Tables

/-! # The point-in-time queries

`PostgresDataRepository`. A query selects versions that were available at its `as_of`,
keeps the current one of every fact, and orders what is left.
-/

namespace MacroPlatform.Store

open Query

/-- A database session: its engine, and the instant at which it lets a day begin. -/
structure Session extends Engine where
  midnight : Day → Instant

variable (session : Session) (t : FactTables)

/-! ## Bars -/

/-- A version of a bar: its first row, or a revision joined with that row. -/
structure BarVersion where
  barId : String
  instrumentId : String
  interval : Interval
  adjustment : Adjustment
  barStart : Instant
  barEnd : Instant
  availableAt : Instant
  revisionRank : ℕ
  sourceChecksum : String
  payload : MarketBar

def MarketBarRow.version (row : MarketBarRow) : BarVersion :=
  { barId := row.barId
    instrumentId := row.instrumentId
    interval := row.interval
    adjustment := row.adjustment
    barStart := row.barStart
    barEnd := row.barEnd
    availableAt := row.availableAt
    revisionRank := 0
    sourceChecksum := row.payload.source.checksumSha256
    payload := row.payload }

def MarketBarRevisionRow.version (revision : MarketBarRevisionRow) (row : MarketBarRow) :
    BarVersion :=
  { barId := row.barId
    instrumentId := row.instrumentId
    interval := row.interval
    adjustment := row.adjustment
    barStart := row.barStart
    barEnd := row.barEnd
    availableAt := revision.availableAt
    revisionRank := 1
    sourceChecksum := revision.sourceChecksumSha256
    payload := revision.payload }

/-- `base_versions` and `revision_versions`. -/
def barVersions (asOf : Instant) : List BarVersion :=
  (t.bars.filter (·.availableAt ≤ asOf)).map (·.version) ++
    (t.barRevisions.filter (·.availableAt ≤ asOf)).flatMap fun revision =>
      (t.bars.filter (·.barId = revision.barId)).map (revision.version ·)

/-- The latest version first. -/
def BarVersion.order (engine : Engine) : SortKey BarVersion :=
  lexicographic [desc compare (·.availableAt), desc compare (·.revisionRank),
    desc engine.collate (·.sourceChecksum)]

/-- `_current_market_bar_versions`. -/
def currentMarketBarVersions (asOf : Instant) : List BarVersion :=
  session.rankedFirst (·.barId) (BarVersion.order session.toEngine) (barVersions t asOf)

/-- `list_bars`. -/
def listBars (query : BarQuery) : List MarketBar :=
  let selected := (currentMarketBarVersions session t query.asOf).filter fun version =>
    version.instrumentId ∈ query.instrumentIds ∧ version.interval = query.interval ∧
      version.adjustment = query.adjustment ∧ query.start ≤ version.barStart ∧
      version.barStart < query.stop
  let ordered := session.orderBy (lexicographic [asc session.collate (·.instrumentId),
    asc compare (·.barStart), asc session.collate (·.barId)]) selected
  (ordered.take query.limit).map (·.payload)

/-- The snapshot of a bar. -/
def MarketBar.snapshot (bar : MarketBar) : MarketSnapshot :=
  { instrumentId := bar.instrumentId
    canonicalSymbol := bar.canonicalSymbol
    region := bar.region
    priceTime := bar.barEnd
    last := bar.close
    currency := bar.currency
    availableAt := bar.availableAt
    sourceRecords := [bar.source] }

/-- `list_snapshots`. -/
def listSnapshots (query : MarketSnapshotQuery) : List MarketSnapshot :=
  let selected := (currentMarketBarVersions session t query.asOf).filter fun version =>
    version.instrumentId ∈ query.instrumentIds ∧ version.interval = .d1 ∧
      version.adjustment = .raw
  let latestBars := session.rankedFirst (fun version : BarVersion => version.instrumentId)
    (lexicographic [desc compare (·.barEnd), desc compare (·.availableAt)]) selected
  let ordered := session.orderBy (asc session.collate (·.instrumentId)) latestBars
  ordered.map (MarketBar.snapshot ·.payload)

/-! ## Macro observations -/

/-- The conditions of `list_macro_observations`. -/
def observationRows (query : MacroObservationQuery) : List MacroObservationRow :=
  t.observations.filter fun row =>
    row.seriesId ∈ query.seriesIds ∧ query.periodFrom ≤ row.periodEnd ∧
      row.periodEnd ≤ query.periodTo ∧ row.availableAt ≤ query.asOf

/-- Which vintage of a period comes first under a policy that keeps one. -/
def MacroObservationRow.order (engine : Engine) (descending : Bool) :
    SortKey MacroObservationRow :=
  if descending then lexicographic [desc compare (·.availableAt), desc compare (·.revisionNo),
    desc engine.collate (·.observationId)]
  else lexicographic [asc compare (·.availableAt), asc compare (·.revisionNo),
    asc engine.collate (·.observationId)]

/-- `list_macro_observations`. -/
def listMacroObservations (query : MacroObservationQuery) : List MacroObservation :=
  let rows := observationRows t query
  let ordered : List MacroObservationRow :=
    if query.revisionPolicy = .allVintages then
      session.orderBy (lexicographic [asc session.collate (·.seriesId),
        asc compare (·.periodEnd), asc compare (·.availableAt), asc compare (·.revisionNo)]) rows
    else
      let descending : Bool := query.revisionPolicy = .latestAsOf
      let ranked := session.rankedFirst
        (fun row : MacroObservationRow => (row.seriesId, row.periodEnd))
        (MacroObservationRow.order session.toEngine descending) rows
      session.orderBy (lexicographic [asc session.collate (·.seriesId),
        asc compare (·.periodEnd)]) ranked
  (ordered.take query.limit).map (·.payload)

/-! ## Macro releases -/

/-- A version of a release: its first row, or a revision joined with that row. -/
structure ReleaseVersion where
  releaseId : String
  scheduledAt : Option Instant
  scheduledDate : Option Day
  availableAt : Instant
  revisionRank : ℕ
  sourceChecksum : String
  payload : MacroRelease

def MacroReleaseRow.version (row : MacroReleaseRow) : ReleaseVersion :=
  { releaseId := row.releaseId
    scheduledAt := row.scheduledAt
    scheduledDate := row.scheduledDate
    availableAt := row.availableAt
    revisionRank := 0
    sourceChecksum := row.sourceChecksumSha256.getD ""
    payload := row.payload }

def MacroReleaseRevisionRow.version (revision : MacroReleaseRevisionRow)
    (row : MacroReleaseRow) : ReleaseVersion :=
  { releaseId := row.releaseId
    scheduledAt := row.scheduledAt
    scheduledDate := row.scheduledDate
    availableAt := revision.availableAt
    revisionRank := 1
    sourceChecksum := revision.sourceChecksumSha256
    payload := revision.payload }

/-- The window of a release or of an event, which has an instant or a date. A comparison with
a null does not hold. -/
def inWindow (start stop : Instant) (instant : Option Instant) (date : Option Day) : Bool :=
  let window := dateOnlyWindow start stop
  instant.any (fun i => start ≤ i ∧ i < stop) || date.any fun d => window.1 ≤ d ∧ d ≤ window.2

/-- `base_conditions`. -/
def MacroReleaseRow.scheduledIn (row : MacroReleaseRow) (query : MacroReleaseQuery) : Bool :=
  row.region ∈ query.regions ∧
    inWindow query.scheduledFrom query.scheduledTo row.scheduledAt row.scheduledDate

/-- `base_versions` and `revision_versions`. -/
def releaseVersions (query : MacroReleaseQuery) : List ReleaseVersion :=
  (t.releases.filter fun row => row.scheduledIn query ∧ row.availableAt ≤ query.asOf).map
      (·.version) ++
    (t.releaseRevisions.filter (·.availableAt ≤ query.asOf)).flatMap fun revision =>
      (t.releases.filter fun row =>
        row.releaseId = revision.releaseId ∧ row.scheduledIn query).map (revision.version ·)

/-- The latest version first. -/
def ReleaseVersion.order (engine : Engine) : SortKey ReleaseVersion :=
  lexicographic [desc compare (·.availableAt), desc compare (·.revisionRank),
    desc engine.collate (·.sourceChecksum)]

/-- `list_macro_releases`. -/
def listMacroReleases (query : MacroReleaseQuery) : List MacroRelease :=
  let ranked := session.rankedFirst (fun version : ReleaseVersion => version.releaseId)
    (ReleaseVersion.order session.toEngine) (releaseVersions t query)
  let ordered := session.orderBy (lexicographic [
    asc (nullsLast compare) fun version =>
      version.scheduledAt.or (version.scheduledDate.map session.midnight),
    asc session.collate (·.releaseId)]) ranked
  (ordered.take query.limit).map (·.payload)

/-! ## News -/

/-- The conditions on the event itself. -/
def NewsEventRow.matchesQuery (row : NewsEventRow) (query : NewsQuery) : Bool :=
  inWindow query.publishedFrom query.publishedTo row.publishedAt row.publishedDate &&
    row.availableAt ≤ query.asOf &&
    (query.languages.isEmpty || row.payload.language ∈ query.languages) &&
    (query.sourceTiers.isEmpty || row.payload.sourceTier ∈ query.sourceTiers)

/-- The rows that the joins give for one event: a copy for every match of its regions, and of
its entities and its topics when the query names some. -/
def newsJoin (query : NewsQuery) (row : NewsEventRow) : List NewsEventRow :=
  let regions := t.newsRegions.filter fun r => r.newsId = row.newsId ∧ r.region ∈ query.regions
  let entities := t.newsEntities.filter fun e =>
    e.newsId = row.newsId ∧ e.entityId ∈ query.entityIds
  let topics := t.newsTopics.filter fun c => c.newsId = row.newsId ∧ c.topic ∈ query.topics
  let copies := regions.length *
    (if query.entityIds.isEmpty then 1 else entities.length) *
    (if query.topics.isEmpty then 1 else topics.length)
  List.replicate copies row

/-- The rows of the joins. -/
def newsRows (query : NewsQuery) : List NewsEventRow :=
  (t.news.filter (·.matchesQuery query)).flatMap (newsJoin t query)

/-- The columns that `list_news` selects. -/
structure NewsSelection where
  payload : NewsEvent
  publishedAt : Option Instant
  newsId : String
  publishedSortAt : Option Instant
deriving DecidableEq

/-- `_limit_news_content`. -/
def limitNewsContent (query : NewsQuery) (event : NewsEvent) : NewsEvent :=
  match query.contentMode with
  | .headline => { event with summary := none, body := none, contentMode := .headline }
  | .snippet => { event with body := none, contentMode := .snippet }
  | .fullText => event

/-- `list_news`. -/
def listNews (query : NewsQuery) : List NewsEvent :=
  let selected := distinct ((newsRows t query).map fun row =>
    ({ payload := row.payload
       publishedAt := row.publishedAt
       newsId := row.newsId
       publishedSortAt := row.publishedAt.or (row.publishedDate.map session.midnight) } :
      NewsSelection))
  let ordered := session.orderBy (lexicographic [
    desc (nullsLast compare) (·.publishedSortAt), asc session.collate (·.newsId)]) selected
  let events := (ordered.take query.limit).map (·.payload)
  let superseded := events.filterMap (·.supersedesNewsId)
  let kept := if query.includeSuperseded then events
    else events.filter (·.newsId ∉ superseded)
  kept.map (limitNewsContent query)

end MacroPlatform.Store
