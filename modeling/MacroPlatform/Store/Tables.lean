import MacroPlatform.Contracts.Facts
import MacroPlatform.Lib.Query

/-! # The fact tables and their upserts

Every row carries the payload it was written with. An upsert that violates a constraint
raises, and the transaction it is in leaves the tables as they were; `FactStore` is the
tables with the constraints that the database keeps.
-/

namespace MacroPlatform.Store

open Query

/-- `MarketBarRow`. -/
structure MarketBarRow where
  barId : String
  instrumentId : String
  canonicalSymbol : String
  region : Region
  interval : Interval
  barStart : Instant
  barEnd : Instant
  tradingDate : Day
  «open» : DecimalValue
  high : DecimalValue
  low : DecimalValue
  close : DecimalValue
  volume : Option DecimalValue
  availableAt : Instant
  adjustment : Adjustment
  providerId : String
  providerRecordId : String
  ingestionRunId : Option UUID
  payload : MarketBar

/-- `MarketBarRevisionRow`. -/
structure MarketBarRevisionRow where
  barId : String
  availableAt : Instant
  sourceChecksumSha256 : String
  ingestionRunId : Option UUID
  payload : MarketBar

/-- `MacroObservationRow`. -/
structure MacroObservationRow where
  observationId : String
  seriesId : String
  region : Region
  periodEnd : Day
  availableAt : Instant
  vintageId : String
  revisionNo : ℕ
  providerId : String
  ingestionRunId : Option UUID
  payload : MacroObservation

/-- `MacroReleaseRow`. -/
structure MacroReleaseRow where
  releaseId : String
  seriesId : String
  region : Region
  scheduledAt : Option Instant
  scheduledDate : Option Day
  availableAt : Instant
  sourceChecksumSha256 : Option String
  ingestionRunId : Option UUID
  payload : MacroRelease

/-- `MacroReleaseRevisionRow`. -/
structure MacroReleaseRevisionRow where
  releaseId : String
  availableAt : Instant
  sourceChecksumSha256 : String
  ingestionRunId : Option UUID
  payload : MacroRelease

/-- `NewsEventRow`. -/
structure NewsEventRow where
  newsId : String
  clusterId : Option String
  providerId : String
  providerRecordId : String
  publishedAt : Option Instant
  publishedDate : Option Day
  availableAt : Instant
  status : NewsStatus
  ingestionRunId : Option UUID
  payload : NewsEvent

/-- `NewsEventRegionRow`. -/
structure NewsEventRegionRow where
  newsId : String
  region : Region

/-- `NewsEventEntityRow`. -/
structure NewsEventEntityRow where
  newsId : String
  entityId : String
  entityType : String

/-- `NewsEventTopicRow`. -/
structure NewsEventTopicRow where
  newsId : String
  topic : String

/-- The tables of facts, and the keys of the two they refer to. -/
structure FactTables where
  instruments : List String
  series : List String
  bars : List MarketBarRow
  barRevisions : List MarketBarRevisionRow
  observations : List MacroObservationRow
  releases : List MacroReleaseRow
  releaseRevisions : List MacroReleaseRevisionRow
  news : List NewsEventRow
  newsRegions : List NewsEventRegionRow
  newsEntities : List NewsEventEntityRow
  newsTopics : List NewsEventTopicRow

/-! ## Upserts -/

/-- The row that `upsert_bar` inserts. -/
def MarketBarRow.ofBar (bar : MarketBar) (ingestionRunId : UUID) : MarketBarRow :=
  { barId := bar.barId
    instrumentId := bar.instrumentId
    canonicalSymbol := bar.canonicalSymbol
    region := bar.region
    interval := bar.interval
    barStart := bar.barStart
    barEnd := bar.barEnd
    tradingDate := bar.tradingDate
    «open» := bar.open
    high := bar.high
    low := bar.low
    close := bar.close
    volume := bar.volume
    availableAt := bar.availableAt
    adjustment := bar.adjustment
    providerId := bar.source.providerId
    providerRecordId := bar.source.providerRecordId
    ingestionRunId := some ingestionRunId
    payload := bar }

/-- `uq_market_bar_source`. -/
def MarketBarRow.SameSource (a b : MarketBarRow) : Prop :=
  a.instrumentId = b.instrumentId ∧ a.interval = b.interval ∧ a.barStart = b.barStart ∧
    a.adjustment = b.adjustment ∧ a.providerId = b.providerId

instance (a b : MarketBarRow) : Decidable (a.SameSource b) :=
  inferInstanceAs (Decidable (_ ∧ _ ∧ _ ∧ _ ∧ _))

/-- The row of a revised bar; its id is a hash of the three columns of its key. -/
def MarketBarRevisionRow.ofBar (bar : MarketBar) (ingestionRunId : UUID) :
    MarketBarRevisionRow :=
  { barId := bar.barId
    availableAt := bar.availableAt
    sourceChecksumSha256 := bar.source.checksumSha256
    ingestionRunId := some ingestionRunId
    payload := bar }

/-- `uq_market_bar_revision`. -/
def MarketBarRevisionRow.SameKey (a b : MarketBarRevisionRow) : Prop :=
  a.barId = b.barId ∧ a.availableAt = b.availableAt ∧
    a.sourceChecksumSha256 = b.sourceChecksumSha256

instance (a b : MarketBarRevisionRow) : Decidable (a.SameKey b) :=
  inferInstanceAs (Decidable (_ ∧ _ ∧ _))

/-- A version of one bar, as `_current_bar_checksum_statement` selects it. -/
structure ChecksumVersion where
  availableAt : Instant
  revisionRank : ℕ
  checksum : String

/-- The order of the versions of a bar, the latest first. -/
def ChecksumVersion.order (engine : Engine) : SortKey ChecksumVersion :=
  lexicographic [desc compare (·.availableAt), desc compare (·.revisionRank),
    desc engine.collate (·.checksum)]

/-- `_current_bar_checksum_statement`. -/
def currentBarChecksum (engine : Engine) (t : FactTables) (barId : String) : Option String :=
  let baseVersion := (t.bars.filter (·.barId = barId)).map fun row =>
    (⟨row.availableAt, 0, row.payload.source.checksumSha256⟩ : ChecksumVersion)
  let revisionVersions := (t.barRevisions.filter (·.barId = barId)).map fun row =>
    (⟨row.availableAt, 1, row.sourceChecksumSha256⟩ : ChecksumVersion)
  ((engine.orderBy (ChecksumVersion.order engine)
    (baseVersion ++ revisionVersions)).head?).map (·.checksum)

/-- `upsert_bar`. -/
def upsertBar (engine : Engine) (t : FactTables) (ingestionRunId : UUID) (bar : MarketBar) :
    Except String FactTables :=
  if ∃ other ∈ t.bars, other.barId = bar.barId then
    match currentBarChecksum engine t bar.barId with
    | none => .error "persisted market bar is missing its source checksum"
    | some checksum =>
        if checksum = bar.source.checksumSha256 then .ok t
        else if ∃ other ∈ t.barRevisions,
            other.SameKey (MarketBarRevisionRow.ofBar bar ingestionRunId) then .ok t
        else .ok { t with
          barRevisions := t.barRevisions ++ [MarketBarRevisionRow.ofBar bar ingestionRunId] }
  else if ∃ other ∈ t.bars, other.SameSource (MarketBarRow.ofBar bar ingestionRunId) then
    .error "uq_market_bar_source"
  else if bar.instrumentId ∉ t.instruments then .error "market_bars_instrument_id_fkey"
  else .ok { t with bars := t.bars ++ [MarketBarRow.ofBar bar ingestionRunId] }

/-- The row that `upsert_macro_observation` inserts. -/
def MacroObservationRow.ofObservation (observation : MacroObservation) (ingestionRunId : UUID) :
    MacroObservationRow :=
  { observationId := observation.observationId
    seriesId := observation.seriesId
    region := observation.region
    periodEnd := observation.periodEnd
    availableAt := observation.availableAt
    vintageId := observation.vintageId
    revisionNo := observation.revisionNo
    providerId := observation.source.providerId
    ingestionRunId := some ingestionRunId
    payload := observation }

/-- The primary key, or `uq_macro_observation_vintage`. -/
def MacroObservationRow.Conflicts (a b : MacroObservationRow) : Prop :=
  a.observationId = b.observationId ∨
    (a.seriesId = b.seriesId ∧ a.periodEnd = b.periodEnd ∧ a.vintageId = b.vintageId ∧
      a.providerId = b.providerId)

instance (a b : MacroObservationRow) : Decidable (a.Conflicts b) :=
  inferInstanceAs (Decidable (_ ∨ _))

/-- `upsert_macro_observation`. -/
def upsertMacroObservation (t : FactTables) (ingestionRunId : UUID)
    (observation : MacroObservation) : Except String FactTables :=
  if ∃ other ∈ t.observations,
      other.Conflicts (MacroObservationRow.ofObservation observation ingestionRunId) then .ok t
  else if observation.seriesId ∉ t.series then .error "macro_observations_series_id_fkey"
  else .ok { t with
    observations := t.observations ++
      [MacroObservationRow.ofObservation observation ingestionRunId] }

/-- The row that `upsert_macro_release` inserts. -/
def MacroReleaseRow.ofRelease (release : MacroRelease) (ingestionRunId : UUID) :
    MacroReleaseRow :=
  { releaseId := release.releaseId
    seriesId := release.seriesId
    region := release.region
    scheduledAt := release.scheduledAt
    scheduledDate := release.scheduledDate
    availableAt := release.availableAt
    sourceChecksumSha256 := some release.source.checksumSha256
    ingestionRunId := some ingestionRunId
    payload := release }

/-- The row of a revised release; its id is a hash of the two columns of its key. -/
def MacroReleaseRevisionRow.ofRelease (release : MacroRelease) (ingestionRunId : UUID) :
    MacroReleaseRevisionRow :=
  { releaseId := release.releaseId
    availableAt := release.availableAt
    sourceChecksumSha256 := release.source.checksumSha256
    ingestionRunId := some ingestionRunId
    payload := release }

/-- `uq_macro_release_revision`. -/
def MacroReleaseRevisionRow.SameKey (a b : MacroReleaseRevisionRow) : Prop :=
  a.releaseId = b.releaseId ∧ a.sourceChecksumSha256 = b.sourceChecksumSha256

instance (a b : MacroReleaseRevisionRow) : Decidable (a.SameKey b) :=
  inferInstanceAs (Decidable (_ ∧ _))

/-- `upsert_macro_release`; the checksum it compares is that of the first version. -/
def upsertMacroRelease (t : FactTables) (ingestionRunId : UUID) (release : MacroRelease) :
    Except String FactTables :=
  match t.releases.find? (·.releaseId = release.releaseId) with
  | some existing =>
      if existing.sourceChecksumSha256 = some release.source.checksumSha256 then .ok t
      else if ∃ other ∈ t.releaseRevisions,
          other.SameKey (MacroReleaseRevisionRow.ofRelease release ingestionRunId) then .ok t
      else .ok { t with
        releaseRevisions := t.releaseRevisions ++
          [MacroReleaseRevisionRow.ofRelease release ingestionRunId] }
  | none =>
      if release.seriesId ∉ t.series then .error "macro_releases_series_id_fkey"
      else .ok { t with
        releases := t.releases ++ [MacroReleaseRow.ofRelease release ingestionRunId] }

/-- The row that `upsert_news_event` inserts. -/
def NewsEventRow.ofEvent (event : NewsEvent) (ingestionRunId : UUID) : NewsEventRow :=
  { newsId := event.newsId
    clusterId := event.clusterId
    providerId := event.source.providerId
    providerRecordId := event.source.providerRecordId
    publishedAt := event.publishedAt
    publishedDate := event.publishedDate
    availableAt := event.availableAt
    status := event.status
    ingestionRunId := some ingestionRunId
    payload := event }

/-- `upsert_news_event`. A region, an entity or a topic that is listed twice violates the
primary key of its table. -/
def upsertNewsEvent (t : FactTables) (ingestionRunId : UUID) (event : NewsEvent) :
    Except String FactTables :=
  if ∃ other ∈ t.news, other.newsId = event.newsId then .ok t
  else if ¬ event.regions.Nodup then .error "news_event_regions_pkey"
  else if ¬ (event.entities.map (·.entityId)).Nodup then .error "news_event_entities_pkey"
  else if ¬ event.topics.Nodup then .error "news_event_topics_pkey"
  else .ok { t with
    news := t.news ++ [NewsEventRow.ofEvent event ingestionRunId]
    newsRegions := t.newsRegions.filter (·.newsId ≠ event.newsId) ++
      event.regions.map fun region => ⟨event.newsId, region⟩
    newsEntities := t.newsEntities.filter (·.newsId ≠ event.newsId) ++
      event.entities.map fun entity => ⟨event.newsId, entity.entityId, entity.entityType⟩
    newsTopics := t.newsTopics.filter (·.newsId ≠ event.newsId) ++
      event.topics.map fun topic => ⟨event.newsId, topic⟩ }

/-! ## What an upsert can do -/

/-- A fact to be written. -/
inductive Fact where
  | bar (bar : MarketBar)
  | observation (observation : MacroObservation)
  | release (release : MacroRelease)
  | news (event : NewsEvent)

def Fact.availableAt : Fact → Instant
  | .bar b => b.availableAt
  | .observation o => o.availableAt
  | .release r => r.availableAt
  | .news event => event.availableAt

/-- A fact and the run of the repository that writes it. -/
structure FactUpsert where
  ingestionRunId : UUID
  fact : Fact

def FactTables.upsert (engine : Engine) (t : FactTables) (u : FactUpsert) :
    Except String FactTables :=
  match u.fact with
  | .bar bar => upsertBar engine t u.ingestionRunId bar
  | .observation observation => upsertMacroObservation t u.ingestionRunId observation
  | .release release => upsertMacroRelease t u.ingestionRunId release
  | .news event => upsertNewsEvent t u.ingestionRunId event

/-- The tables after an upsert that does not raise. -/
inductive Upserted (t : FactTables) (u : FactUpsert) : FactTables → Prop
  | same : Upserted t u t
  | bar {bar : MarketBar} : u.fact = .bar bar → (∀ other ∈ t.bars, other.barId ≠ bar.barId) →
      Upserted t u { t with bars := t.bars ++ [MarketBarRow.ofBar bar u.ingestionRunId] }
  | barRevision {bar : MarketBar} : u.fact = .bar bar →
      (∃ other ∈ t.bars, other.barId = bar.barId) →
      (∀ other ∈ t.barRevisions,
        ¬ other.SameKey (MarketBarRevisionRow.ofBar bar u.ingestionRunId)) →
      Upserted t u { t with
        barRevisions := t.barRevisions ++ [MarketBarRevisionRow.ofBar bar u.ingestionRunId] }
  | observation {observation : MacroObservation} : u.fact = .observation observation →
      Upserted t u { t with
        observations := t.observations ++
          [MacroObservationRow.ofObservation observation u.ingestionRunId] }
  | release {release : MacroRelease} : u.fact = .release release →
      (∀ other ∈ t.releases, other.releaseId ≠ release.releaseId) →
      Upserted t u { t with
        releases := t.releases ++ [MacroReleaseRow.ofRelease release u.ingestionRunId] }
  | releaseRevision {release : MacroRelease} : u.fact = .release release →
      (∃ other ∈ t.releases, other.releaseId = release.releaseId) →
      Upserted t u { t with
        releaseRevisions := t.releaseRevisions ++
          [MacroReleaseRevisionRow.ofRelease release u.ingestionRunId] }
  | news {event : NewsEvent} : u.fact = .news event →
      (∀ other ∈ t.news, other.newsId ≠ event.newsId) →
      Upserted t u { t with
        news := t.news ++ [NewsEventRow.ofEvent event u.ingestionRunId]
        newsRegions := t.newsRegions.filter (·.newsId ≠ event.newsId) ++
          event.regions.map fun region => ⟨event.newsId, region⟩
        newsEntities := t.newsEntities.filter (·.newsId ≠ event.newsId) ++
          event.entities.map fun entity => ⟨event.newsId, entity.entityId, entity.entityType⟩
        newsTopics := t.newsTopics.filter (·.newsId ≠ event.newsId) ++
          event.topics.map fun topic => ⟨event.newsId, topic⟩ }

/-- An upsert of a bar is one of the steps of the tables. -/
theorem upsertBar_ok {engine : Engine} {t t' : FactTables} {u : FactUpsert} {bar : MarketBar}
    (hu : u.fact = .bar bar) (h : upsertBar engine t u.ingestionRunId bar = .ok t') :
    Upserted t u t' := by
  unfold upsertBar at h
  -- a bar that is there gets a revision, unless its checksum or its key is known
  by_cases hexists : ∃ other ∈ t.bars, other.barId = bar.barId
  · rw [if_pos hexists] at h
    cases hchecksum : currentBarChecksum engine t bar.barId with
    | none => simp [hchecksum] at h
    | some checksum =>
      simp only [hchecksum] at h
      by_cases hrevision : ∃ other ∈ t.barRevisions,
          other.SameKey (MarketBarRevisionRow.ofBar bar u.ingestionRunId)
      · rw [if_pos hrevision, ite_self, Except.ok.injEq] at h
        subst h
        exact .same
      · rw [if_neg hrevision] at h
        split_ifs at h with hsame
        · cases h
          exact .same
        · cases h
          exact .barRevision hu hexists fun other hother hkey => hrevision ⟨other, hother, hkey⟩
  -- a bar that is new gets a row
  · rw [if_neg hexists] at h
    split_ifs at h
    cases h
    exact .bar hu fun other hother hid => hexists ⟨other, hother, hid⟩

theorem upsertMacroObservation_ok {t t' : FactTables} {u : FactUpsert}
    {observation : MacroObservation} (hu : u.fact = .observation observation)
    (h : upsertMacroObservation t u.ingestionRunId observation = .ok t') : Upserted t u t' := by
  unfold upsertMacroObservation at h
  split_ifs at h with hconflict hseries
  · cases h
    exact .same
  · cases h
    exact .observation hu

/-- So is that of a release. -/
theorem upsertMacroRelease_ok {t t' : FactTables} {u : FactUpsert} {release : MacroRelease}
    (hu : u.fact = .release release)
    (h : upsertMacroRelease t u.ingestionRunId release = .ok t') : Upserted t u t' := by
  unfold upsertMacroRelease at h
  -- the row of the release decides in the same way
  cases hfind : t.releases.find? (·.releaseId = release.releaseId) with
  | some existing =>
    simp only [hfind] at h
    have hexists : ∃ other ∈ t.releases, other.releaseId = release.releaseId :=
      ⟨existing, List.mem_of_find?_eq_some hfind, by simpa using List.find?_some hfind⟩
    split_ifs at h with hsame hrevision
    · cases h
      exact .same
    · cases h
      exact .same
    · cases h
      exact .releaseRevision hu hexists
  | none =>
    simp only [hfind] at h
    split_ifs at h with hseries
    cases h
    refine .release hu ?_
    intro other hother hid
    have hnone := List.find?_eq_none.mp hfind other hother
    simp [hid] at hnone

theorem upsertNewsEvent_ok {t t' : FactTables} {u : FactUpsert} {event : NewsEvent}
    (hu : u.fact = .news event) (h : upsertNewsEvent t u.ingestionRunId event = .ok t') :
    Upserted t u t' := by
  unfold upsertNewsEvent at h
  split_ifs at h with hexists hregions hentities htopics
  · cases h
    exact .same
  · cases h
    refine .news hu ?_
    intro other hother hid
    exact hexists ⟨other, hother, hid⟩

theorem upsert_ok {engine : Engine} {t t' : FactTables} {u : FactUpsert}
    (h : t.upsert engine u = .ok t') : Upserted t u t' := by
  unfold FactTables.upsert at h
  cases hfact : u.fact with
  | bar bar => exact upsertBar_ok hfact (by simpa only [hfact] using h)
  | observation observation =>
    exact upsertMacroObservation_ok hfact (by simpa only [hfact] using h)
  | release release => exact upsertMacroRelease_ok hfact (by simpa only [hfact] using h)
  | news event => exact upsertNewsEvent_ok hfact (by simpa only [hfact] using h)

/-! ## The constraints -/

/-- The keys of bars and of their revisions, and the references of revisions. -/
structure FactTables.Consistent (t : FactTables) : Prop where
  bars_pkey : (t.bars.map (·.barId)).Nodup
  bar_revision_key : t.barRevisions.Pairwise fun a b => ¬ a.SameKey b
  bar_revision_fkey : ∀ revision ∈ t.barRevisions, ∃ row ∈ t.bars, row.barId = revision.barId
  release_revision_fkey : ∀ revision ∈ t.releaseRevisions,
    ∃ row ∈ t.releases, row.releaseId = revision.releaseId

/-- Each step keeps the tables consistent. -/
theorem upserted_consistent {t t' : FactTables} {u : FactUpsert} (h : t.Consistent)
    (hu : Upserted t u t') : t'.Consistent := by
  cases hu with
  -- an upsert keeps the keys of the tables that it does not write
  | same => exact h
  -- a new bar has an id that no other row has
  | @bar bar _ hnew =>
    refine ⟨?_, h.bar_revision_key, ?_, h.release_revision_fkey⟩
    · rw [List.map_append, List.nodup_append]
      refine ⟨h.bars_pkey, by simp, ?_⟩
      intro id hid id' hid'
      obtain ⟨other, hother, rfl⟩ := List.mem_map.mp hid
      simp only [List.map_singleton, List.mem_singleton] at hid'
      rw [hid']
      exact hnew other hother
    · intro revision hrevision
      obtain ⟨row, hrow, hid⟩ := h.bar_revision_fkey revision hrevision
      exact ⟨row, List.mem_append_left _ hrow, hid⟩
  -- a new revision has a key of its own, and the row it refers to
  | @barRevision bar _ hexists hkey =>
    refine ⟨h.bars_pkey, ?_, ?_, h.release_revision_fkey⟩
    · rw [List.pairwise_append]
      refine ⟨h.bar_revision_key, by simp, ?_⟩
      intro a ha b hb
      rw [List.mem_singleton.mp hb]
      exact hkey a ha
    · intro revision hrevision
      rcases List.mem_append.mp hrevision with hold | hnew
      · exact h.bar_revision_fkey revision hold
      · rw [List.mem_singleton.mp hnew]
        exact hexists
  | observation => exact ⟨h.bars_pkey, h.bar_revision_key, h.bar_revision_fkey,
      h.release_revision_fkey⟩
  | release =>
    refine ⟨h.bars_pkey, h.bar_revision_key, h.bar_revision_fkey, ?_⟩
    intro revision hrevision
    obtain ⟨row, hrow, hid⟩ := h.release_revision_fkey revision hrevision
    exact ⟨row, List.mem_append_left _ hrow, hid⟩
  -- the row that a revision refers to is there
  | releaseRevision _ hexists =>
    refine ⟨h.bars_pkey, h.bar_revision_key, h.bar_revision_fkey, ?_⟩
    intro revision hrevision
    rcases List.mem_append.mp hrevision with hold | hnew
    · exact h.release_revision_fkey revision hold
    · rw [List.mem_singleton.mp hnew]
      exact hexists
  | news => exact ⟨h.bars_pkey, h.bar_revision_key, h.bar_revision_fkey,
      h.release_revision_fkey⟩

/-- Fact tables that keep their constraints. -/
structure FactStore where
  tables : FactTables
  consistent : tables.Consistent

/-- An upsert in a transaction: when it raises, nothing is written. -/
def FactStore.upsert (engine : Engine) (s : FactStore) (u : FactUpsert) : FactStore :=
  match h : s.tables.upsert engine u with
  | .ok tables => ⟨tables, upserted_consistent s.consistent (upsert_ok h)⟩
  | .error _ => s

theorem FactStore.upsert_cases (engine : Engine) (s : FactStore) (u : FactUpsert) :
    Upserted s.tables u (s.upsert engine u).tables := by
  unfold FactStore.upsert
  split
  · rename_i tables h
    exact upsert_ok h
  · exact .same

end MacroPlatform.Store
