import Mathlib.Data.List.Pairwise
import MacroPlatform.Evidence.Market

/-! # When the previous close is fresh

The session that the market evidence expects comes from the venue's calendar, the age of a
bar from the clock: which of the two decides over a closed day.

* `selectedBars_latest`, `evidenceBars_latest`: which bars the evidence is made of;
* `market_evidence_usable_iff_fresh`: when it can be used;
* `weekend_makes_stale`: two closed days.
-/

namespace MacroPlatform.Evidence

open Query Schedule Store

/-! ## Stores of identified bars -/

/-- A bar id is a hash of the instrument and of the session, among others: it stands for one
instrument and one trading date. -/
abbrev BarIdentity := String → String × Day

def Identified (identity : BarIdentity) (bar : MarketBar) : Prop :=
  identity bar.barId = (bar.instrumentId, bar.tradingDate)

/-- Every bar and every revision was written by `upsert_bar`, and its id identifies it. -/
structure BarsWritten (identity : BarIdentity) (t : FactTables) : Prop where
  bars : ∀ row ∈ t.bars, ∃ bar runId,
    row = MarketBarRow.ofBar bar runId ∧ Identified identity bar
  revisions : ∀ revision ∈ t.barRevisions, ∃ bar runId,
    revision = MarketBarRevisionRow.ofBar bar runId ∧ Identified identity bar

variable {identity : BarIdentity}

/-- An upsert of a bar that its id identifies leaves such bars only. -/
theorem upserted_barsWritten {t t' : FactTables} {u : FactUpsert} (h : BarsWritten identity t)
    (hbar : ∀ bar, u.fact = .bar bar → Identified identity bar) (hu : Upserted t u t') :
    BarsWritten identity t' := by
  cases hu with
  | @bar bar hfact _ =>
    refine ⟨?_, h.revisions⟩
    intro row hrow
    rcases List.mem_append.mp hrow with hold | hnew
    · exact h.bars row hold
    · exact ⟨bar, u.ingestionRunId, List.mem_singleton.mp hnew, hbar bar hfact⟩
  | @barRevision bar hfact _ _ =>
    refine ⟨h.bars, ?_⟩
    intro revision hrevision
    rcases List.mem_append.mp hrevision with hold | hnew
    · exact h.revisions revision hold
    · exact ⟨bar, u.ingestionRunId, List.mem_singleton.mp hnew, hbar bar hfact⟩
  | same | observation | release | releaseRevision | news => exact ⟨h.bars, h.revisions⟩

/-- A fact store whose bars are identified. -/
structure MarketStore (identity : BarIdentity) extends FactStore where
  written : BarsWritten identity tables

def MarketStore.upsert (engine : Engine) (s : MarketStore identity) (u : FactUpsert)
    (hbar : ∀ bar, u.fact = .bar bar → Identified identity bar) : MarketStore identity where
  toFactStore := s.toFactStore.upsert engine u
  written := upserted_barsWritten s.written hbar (s.toFactStore.upsert_cases engine u)

/-! ## The current version of a bar -/

section

variable {engine : Engine} {t : FactTables} {runIds : List UUID} {bound : Instant}
  {version other : EvidenceVersion}

/-- A version is a row or a revision, available by the bound. -/
theorem mem_evidenceVersions : version ∈ evidenceVersions t runIds bound ↔
    (∃ row ∈ t.bars, row.availableAt ≤ bound ∧ version = baseVersion runIds row) ∨
      ∃ revision ∈ t.barRevisions, revision.availableAt ≤ bound ∧ ∃ row ∈ t.bars,
        row.barId = revision.barId ∧ version = revisionVersion runIds revision row := by
  unfold evidenceVersions
  simp only [List.mem_append, List.mem_map, List.mem_flatMap, List.mem_filter, decide_eq_true_eq]
  constructor
  · rintro (⟨row, ⟨hrow, hle⟩, rfl⟩ | ⟨revision, ⟨hrevision, hle⟩, row, ⟨hrow, hid⟩, rfl⟩)
    · exact Or.inl ⟨row, hrow, hle, rfl⟩
    · exact Or.inr ⟨revision, hrevision, hle, row, hrow, hid, rfl⟩
  · rintro (⟨row, hrow, hle, rfl⟩ | ⟨revision, hrevision, hle, row, hrow, hid, rfl⟩)
    · exact Or.inl ⟨row, ⟨hrow, hle⟩, rfl⟩
    · exact Or.inr ⟨revision, ⟨hrevision, hle⟩, row, ⟨hrow, hid⟩, rfl⟩

/-- No two versions of a bar tie: the keys of the tables keep them apart. -/
theorem evidenceVersions_ties (h : t.Consistent)
    (hversion : version ∈ evidenceVersions t runIds bound)
    (hother : other ∈ evidenceVersions t runIds bound) (hid : version.barId = other.barId)
    (htie : EvidenceVersion.order engine version other = .eq) : version = other := by
  have := engine.collate_eq
  simp only [EvidenceVersion.order, lexicographic_cons_eq, desc,
    Std.LawfulEqCmp.compare_eq_iff_eq] at htie
  -- a tie leaves the times, the ranks and the checksums equal
  obtain ⟨-, hat, hrank, hchecksum, -⟩ := htie
  have hrows := List.inj_on_of_nodup_map h.bars_pkey
  -- a row has one rank, a revision the other, so both are of one kind
  rcases mem_evidenceVersions.mp hversion with ⟨row, hrow, -, rfl⟩ |
    ⟨revision, hrevision, -, row, hrow, hrowId, rfl⟩
  · rcases mem_evidenceVersions.mp hother with ⟨row', hrow', -, rfl⟩ |
      ⟨revision', hrevision', -, row', hrow', hrowId', rfl⟩
    · rw [hrows hrow hrow' hid]
    · cases hrank
  · rcases mem_evidenceVersions.mp hother with ⟨row', hrow', -, rfl⟩ |
      ⟨revision', hrevision', -, row', hrow', hrowId', rfl⟩
    · cases hrank
    -- the key of the revisions keeps two of one bar, time and checksum apart
    · have hkey : revision.SameKey revision' := by
        refine ⟨?_, hat.symm, hchecksum.symm⟩
        calc revision.barId = row.barId := hrowId.symm
          _ = row'.barId := hid
          _ = revision'.barId := hrowId'
      have hsymm : Std.Symm fun a b : MarketBarRevisionRow => ¬ a.SameKey b :=
        ⟨fun a b hab hba => hab ⟨hba.1.symm, hba.2.1.symm, hba.2.2.symm⟩⟩
      have hsame : revision = revision' := by
        by_contra hne
        exact h.bar_revision_key.forall hrevision hrevision' hne hkey
      rw [hsame, hrows hrow hrow' hid]

/-- A version that no available version of its bar comes before. -/
def CurrentVersion (engine : Engine) (t : FactTables) (runIds : List UUID) (bound : Instant)
    (version : EvidenceVersion) : Prop :=
  version ∈ evidenceVersions t runIds bound ∧
    ∀ other ∈ evidenceVersions t runIds bound, other.barId = version.barId →
      (EvidenceVersion.order engine version other).isLE

theorem mem_marketBarVersions (h : t.Consistent) :
    version ∈ marketBarVersions engine t runIds bound ↔
      CurrentVersion engine t runIds bound version := by
  have := engine.collate_trans
  have htrans : Std.TransCmp (EvidenceVersion.order engine) := by
    unfold EvidenceVersion.order
    infer_instance
  exact engine.mem_rankedFirst_iff fun a ha b hb => evidenceVersions_ties h ha hb

/-- The payload of a version repeats its columns. -/
theorem payload_of_version (h : BarsWritten identity t)
    (hversion : version ∈ evidenceVersions t runIds bound) :
    version.payload.instrumentId = version.instrumentId ∧
      version.payload.tradingDate = version.tradingDate ∧
      version.payload.availableAt = version.availableAt ∧ version.availableAt ≤ bound := by
  rcases mem_evidenceVersions.mp hversion with ⟨row, hrow, hle, rfl⟩ |
    ⟨revision, hrevision, hle, row, hrow, hid, rfl⟩
  · obtain ⟨bar, runId, rfl, -⟩ := h.bars row hrow
    exact ⟨rfl, rfl, rfl, hle⟩
  · obtain ⟨bar, runId, rfl, hbar⟩ := h.bars row hrow
    obtain ⟨bar', runId', rfl, hbar'⟩ := h.revisions revision hrevision
    -- the revision is of the same bar id, which is of one instrument and one date
    have hsame : (bar'.instrumentId, bar'.tradingDate) = (bar.instrumentId, bar.tradingDate) := by
      rw [← hbar, ← hbar']
      exact congrArg identity hid.symm
    obtain ⟨hinstrument, hdate⟩ := Prod.mk.inj hsame
    exact ⟨hinstrument, hdate, rfl, hle⟩

end

/-! ## The bars of an instrument -/

section

variable {engine : Engine} {versions : List EvidenceVersion}

theorem mem_selectedBars {rows : List MarketBar} {bar : MarketBar} :
    bar ∈ selectedBars rows ↔ bar ∈ firstPerKey (·.instrumentId) rows :=
  (List.perm_insertionSort _ _).mem_iff

/-- The order of sessions compares the days, and on one day the times of availability. -/
theorem sessionOrder_isLE {version other : EvidenceVersion}
    (hinstrument : other.instrumentId = version.instrumentId)
    (h : (EvidenceVersion.sessionOrder engine version other).isLE) :
    other.tradingDate < version.tradingDate ∨
      other.tradingDate = version.tradingDate ∧ other.availableAt ≤ version.availableAt := by
  have := engine.collate_trans
  have := engine.collate_eq
  have hsame : engine.collate version.instrumentId other.instrumentId = .eq := by
    rw [hinstrument]
    exact Std.ReflCmp.compare_self
  simp only [EvidenceVersion.sessionOrder, lexicographic_cons_isLE, asc, desc, hsame,
    reduceCtorEq, false_or, true_and, compare_lt_iff_lt, compare_eq_iff_eq] at h
  rcases h with hday | ⟨hday, hat | ⟨hat, -⟩⟩
  · exact Or.inl hday
  · exact Or.inr ⟨hday, hat.le⟩
  · exact Or.inr ⟨hday, hat.le⟩

/-- A selected bar is the payload of a version of the latest session of its instrument, and of
the latest such version. -/
theorem selectedBars_latest
    (hpayload : ∀ version ∈ versions, version.payload.instrumentId = version.instrumentId)
    {bar : MarketBar} (h : bar ∈ selectedBars
      ((engine.orderBy (EvidenceVersion.sessionOrder engine) versions).map (·.payload))) :
    ∃ version ∈ versions, version.payload = bar ∧ ∀ other ∈ versions,
      other.instrumentId = version.instrumentId →
      other.tradingDate < version.tradingDate ∨
        other.tradingDate = version.tradingDate ∧ other.availableAt ≤ version.availableAt := by
  have := engine.collate_trans
  have htrans : Std.TransCmp (EvidenceVersion.sessionOrder engine) := by
    unfold EvidenceVersion.sessionOrder
    infer_instance
  rw [mem_selectedBars, firstPerKey_map] at h
  obtain ⟨version, hfirst, rfl⟩ := List.mem_map.mp h
  obtain ⟨hversion, hleast⟩ := engine.mem_of_mem_rankedFirst hfirst
  refine ⟨version, hversion, rfl, ?_⟩
  intro other hother hinstrument
  refine sessionOrder_isLE hinstrument (hleast other hother ?_)
  rw [Function.comp_apply, Function.comp_apply, hpayload other hother, hpayload version hversion,
    hinstrument]

/-- Every instrument that has a version has a bar. -/
theorem exists_selectedBar
    (hpayload : ∀ version ∈ versions, version.payload.instrumentId = version.instrumentId)
    {version : EvidenceVersion} (h : version ∈ versions) :
    ∃ bar ∈ selectedBars
      ((engine.orderBy (EvidenceVersion.sessionOrder engine) versions).map (·.payload)),
      bar.instrumentId = version.instrumentId := by
  have hrow : version.payload ∈
      (engine.orderBy (EvidenceVersion.sessionOrder engine) versions).map (·.payload) :=
    List.mem_map.mpr ⟨version, (engine.mem_orderBy _).mpr h, rfl⟩
  have hexists : ∃ bar ∈ firstPerKey (fun bar : MarketBar => bar.instrumentId)
      ((engine.orderBy (EvidenceVersion.sessionOrder engine) versions).map (·.payload)),
      bar.instrumentId = version.payload.instrumentId := exists_mem_firstPerKey hrow
  obtain ⟨bar, hbar, hkey⟩ := hexists
  exact ⟨bar, mem_selectedBars.mpr hbar, hkey.trans (hpayload version h)⟩

end

/-! ## The status -/

/-- The statuses of evidence that a report can use. -/
def InputEvidenceStatus.Usable (status : InputEvidenceStatus) : Prop :=
  status = .available ∨ status = .revised

/-- A source is usable when none of its times is too old. -/
theorem sourceStatus_usable {availableAts : List Instant} {cutoffAt : Instant} {maxAge : ℤ}
    {revised : Bool} (hcutoff : ∀ availableAt ∈ availableAts, availableAt ≤ cutoffAt) :
    (sourceStatus availableAts cutoffAt maxAge revised).1.Usable ↔
      ∀ availableAt ∈ availableAts, cutoffAt - availableAt ≤ maxAge := by
  -- nothing is late, so age is what is left to decide
  have hlate : ¬ ∃ availableAt ∈ availableAts, cutoffAt < availableAt := by
    rintro ⟨availableAt, hmem, hlt⟩
    exact absurd hlt (not_lt.mpr (hcutoff availableAt hmem))
  unfold sourceStatus InputEvidenceStatus.Usable
  rw [if_neg hlate]
  by_cases hstale : ∃ availableAt ∈ availableAts, maxAge < cutoffAt - availableAt
  · rw [if_pos hstale]
    obtain ⟨availableAt, hmem, hlt⟩ := hstale
    constructor
    · intro h
      simp at h
    · intro h
      exact absurd hlt (not_lt.mpr (h availableAt hmem))
  · rw [if_neg hstale]
    constructor
    · intro _ availableAt hmem
      by_contra hlt
      exact hstale ⟨availableAt, hmem, not_le.mp hlt⟩
    · intro _
      cases revised
      · exact Or.inl rfl
      · exact Or.inr rfl

/-- No date is unexpected when all are the expected one. -/
theorem unexpectedTradingDates_eq_nil {dates : List Day} {expected : Day} :
    unexpectedTradingDates dates expected = [] ↔ ∀ date ∈ dates, date = expected := by
  have hmem : ∀ date, date ∈ unexpectedTradingDates dates expected ↔
      date ∈ dates ∧ date ≠ expected := by
    intro date
    unfold unexpectedTradingDates
    rw [(List.perm_insertionSort _ _).mem_iff, mem_distinct, List.mem_filter, decide_eq_true_eq]
  rw [List.eq_nil_iff_forall_not_mem]
  constructor
  · intro h date hdate
    by_contra hne
    exact h date ((hmem date).mpr ⟨hdate, hne⟩)
  · intro h date hdate
    obtain ⟨hin, hne⟩ := (hmem date).mp hdate
    exact hne (h date hin)

/-- No instrument is missing when each has a bar. -/
theorem missingInstruments_eq_nil {spec : MarketInputSpec} {bars : List MarketBar} :
    missingInstruments spec bars = [] ↔ ∀ instrumentId ∈ spec.expectedInstrumentIds,
      ∃ bar ∈ bars, bar.instrumentId = instrumentId := by
  have hmem : ∀ instrumentId, instrumentId ∈ missingInstruments spec bars ↔
      instrumentId ∈ spec.expectedInstrumentIds ∧
        ¬ ∃ bar ∈ bars, bar.instrumentId = instrumentId := by
    intro instrumentId
    unfold missingInstruments sortedText
    rw [(List.perm_insertionSort _ _).mem_iff, List.mem_filter, decide_eq_true_eq, List.mem_map]
  rw [List.eq_nil_iff_forall_not_mem]
  constructor
  · intro h instrumentId hid
    by_contra hbar
    exact h instrumentId ((hmem instrumentId).mpr ⟨hid, hbar⟩)
  · intro h instrumentId hid
    obtain ⟨hin, hbar⟩ := (hmem instrumentId).mp hid
    exact hbar (h instrumentId hin)

theorem missingEvidence_not_usable {spec : MarketInputSpec} {missing late : List String} :
    ¬ (missingEvidence spec missing late).status.Usable := by
  unfold missingEvidence InputEvidenceStatus.Usable
  split <;> simp [InputQualityEvidence.without]

/-- The bars are usable when each is of the session and none is too old. -/
theorem barsEvidence_usable {t : FactTables} {spec : MarketInputSpec} {bars : List MarketBar}
    {expected : Day} {cutoffAt : Instant} {maxAge : ℤ}
    (hcutoff : ∀ bar ∈ bars, bar.availableAt ≤ cutoffAt) :
    (barsEvidence t spec bars expected cutoffAt maxAge).status.Usable ↔
      ∀ bar ∈ bars, bar.tradingDate = expected ∧ cutoffAt - bar.availableAt ≤ maxAge := by
  have hdates : unexpectedTradingDates (bars.map (·.tradingDate)) expected = [] ↔
      ∀ bar ∈ bars, bar.tradingDate = expected := by
    rw [unexpectedTradingDates_eq_nil, List.forall_mem_map]
  unfold barsEvidence
  -- the session is looked at before the age
  by_cases hstale : unexpectedTradingDates (bars.map (·.tradingDate)) expected = []
  · rw [if_neg (not_not.mpr hstale)]
    rw [sourceStatus_usable (List.forall_mem_map.mpr hcutoff), List.forall_mem_map]
    constructor
    · intro h bar hbar
      exact ⟨hdates.mp hstale bar hbar, h bar hbar⟩
    · intro h bar hbar
      exact (h bar hbar).2
  · rw [if_pos hstale]
    constructor
    · rintro (h | h) <;> cases h
    · intro h
      exact absurd (hdates.mpr fun bar hbar => (h bar hbar).1) hstale

/-! ## The previous close -/

/-- The tables of an evidence store over a store of identified bars. -/
structure EvidenceData (identity : BarIdentity) extends EvidenceTables where
  consistent : facts.Consistent
  written : BarsWritten identity facts

def MarketStore.evidence (s : MarketStore identity) (pages : List Ingestion.IngestPageCommit)
    (rejections : List UUID) : EvidenceData identity where
  toEvidenceTables := ⟨s.tables, pages, rejections⟩
  consistent := s.consistent
  written := s.written

/-- A task that succeeded without rejections, and for every expected instrument a bar of the
previous session that it committed, first available between the close and the cutoff. -/
structure PreviousCloseCommitted (store : PostgresReportInputEvidenceStore) (t : EvidenceTables)
    (spec : MarketInputSpec) (reportDate : Day) (cutoffAt : Instant) (task : ScheduledTaskResult)
    (calendar : ExchangeCalendar) (expected : Day) : Prop where
  succeeded : task.status = .succeeded
  accepted : taskRejectionCount (some task) t.rejections = 0
  venue : (venueCalendarByRegion spec.region).bind store.getCalendar = some calendar
  session : previousSession store.getCalendar spec.region reportDate = .ok expected
  bars : ∀ instrumentId ∈ spec.expectedInstrumentIds, ∃ row ∈ t.facts.bars,
    row.instrumentId = instrumentId ∧ row.region = spec.region ∧ row.tradingDate = expected ∧
      calendar.sessionClose expected ≤ row.availableAt ∧ row.availableAt ≤ cutoffAt ∧
      row.providerRecordId ∈ (committedTaskPages t.pages task).providerRecordIds

/-- A current version that the evidence may be drawn from. -/
def CurrentBar (engine : Engine) (t : EvidenceTables) (spec : MarketInputSpec) (reportDate : Day)
    (cutoffAt : Instant) (task : ScheduledTaskResult) (version : EvidenceVersion) : Prop :=
  CurrentVersion engine t.facts (evidenceRunIds task) cutoffAt version ∧
    version.Eligible spec (committedTaskPages t.pages task).providerRecordIds reportDate

/-- The session has a young enough version of every instrument, and no version is of a later
day. -/
structure FreshBars (engine : Engine) (maxAge : ℤ) (t : EvidenceTables) (spec : MarketInputSpec)
    (reportDate : Day) (cutoffAt : Instant) (task : ScheduledTaskResult) (expected : Day) :
    Prop where
  young : ∀ instrumentId ∈ spec.expectedInstrumentIds, ∃ version,
    CurrentBar engine t spec reportDate cutoffAt task version ∧
      version.instrumentId = instrumentId ∧ version.tradingDate = expected ∧
      cutoffAt - version.availableAt ≤ maxAge
  last : ∀ version, CurrentBar engine t spec reportDate cutoffAt task version →
    version.tradingDate ≤ expected

section

variable {engine : Engine} {store : PostgresReportInputEvidenceStore}
  {data : EvidenceData identity} {spec : MarketInputSpec} {reportDate expected : Day}
  {asOf cutoffAt : Instant} {task : ScheduledTaskResult} {calendar : ExchangeCalendar}

/-- Committed records come from a page of one of the runs. -/
theorem committed_of_record {pages : List Ingestion.IngestPageCommit} {recordId : String}
    (h : recordId ∈ (committedTaskPages pages task).providerRecordIds) :
    (committedTaskPages pages task).pageCount ≠ 0 ∧ evidenceRunIds task ≠ [] := by
  unfold committedTaskPages at h ⊢
  split at h
  · rename_i dataset region hdataset hregion
    simp only [mem_distinct, List.mem_flatMap, List.mem_filter, decide_eq_true_eq] at h
    obtain ⟨row, ⟨hrow, hcommitted⟩, -⟩ := h
    constructor
    · simp only [ne_eq, List.length_eq_zero_iff]
      exact List.ne_nil_of_mem (List.mem_filter.mpr ⟨hrow, by simpa using hcommitted⟩)
    · intro hnil
      simp [hnil] at hcommitted
  · cases h

/-- The bars that the evidence is made of. -/
def evidenceBars (engine : Engine) (t : EvidenceTables) (spec : MarketInputSpec)
    (reportDate : Day) (cutoffAt : Instant) (task : ScheduledTaskResult) : List MarketBar :=
  selectedBars (marketBarsAsOf engine t.facts spec
    (committedTaskPages t.pages task).providerRecordIds (evidenceRunIds task) cutoffAt reportDate)

/-- Nothing but the bars decides the evidence of a previous close that was committed. -/
theorem marketEvidence_committed (hspec : spec ∈ marketInputSpecs) {t : EvidenceTables}
    (h : PreviousCloseCommitted store t spec reportDate cutoffAt task calendar expected) :
    (committedTaskPages t.pages task).providerRecordIds ≠ [] ∧ evidenceRunIds task ≠ [] ∧
      ∀ (engine : Engine) (asOf : Instant), ∃ late,
        marketEvidence engine store t spec reportDate asOf cutoffAt (some task)
            (taskRejectionCount (some task) t.rejections) =
          .ok (if missingInstruments spec
              (evidenceBars engine t spec reportDate cutoffAt task) ≠ []
            then missingEvidence spec
              (missingInstruments spec (evidenceBars engine t spec reportDate cutoffAt task)) late
            else barsEvidence t.facts spec (evidenceBars engine t spec reportDate cutoffAt task)
              expected cutoffAt store.marketMaxAge) := by
  have hinstruments : ∃ instrumentId, instrumentId ∈ spec.expectedInstrumentIds := by
    simp only [marketInputSpecs, List.mem_cons, List.not_mem_nil, or_false] at hspec
    rcases hspec with rfl | rfl | rfl <;> exact ⟨_, List.mem_cons_self⟩
  obtain ⟨instrumentId, hinstrument⟩ := hinstruments
  obtain ⟨row, -, -, -, -, -, -, hrecord⟩ := h.bars instrumentId hinstrument
  obtain ⟨hpages, hruns⟩ := committed_of_record hrecord
  have hrecords := List.ne_nil_of_mem hrecord
  refine ⟨hrecords, hruns, fun engine asOf => ⟨lateMarketInstruments engine t.facts spec.region
    (committedTaskPages t.pages task).providerRecordIds (evidenceRunIds task) cutoffAt asOf
    expected, ?_⟩⟩
  have hproblem : taskProblem spec.inputId (some task)
      (taskRejectionCount (some task) t.rejections) = none := by
    rw [h.accepted]
    simp only [taskProblem, gt_iff_lt, lt_self_iff_false, if_false, h.succeeded, if_true,
      if_neg hruns]
  unfold marketEvidence
  simp only [hproblem, if_neg hpages, if_neg hrecords, h.session]
  unfold evidenceBars
  split <;> rfl

/-- The evidence of one instrument after another is read from its current versions. -/
theorem evidenceBars_eq {t : EvidenceTables}
    (hrecords : (committedTaskPages t.pages task).providerRecordIds ≠ [])
    (hruns : evidenceRunIds task ≠ []) :
    evidenceBars engine t spec reportDate cutoffAt task =
      selectedBars ((engine.orderBy (EvidenceVersion.sessionOrder engine)
        ((marketBarVersions engine t.facts (evidenceRunIds task) cutoffAt).filter
          (·.Eligible spec (committedTaskPages t.pages task).providerRecordIds reportDate))).map
        (·.payload)) := by
  unfold evidenceBars marketBarsAsOf
  rw [if_neg (not_or.mpr ⟨hrecords, hruns⟩)]

theorem mem_currentBars {version : EvidenceVersion} :
    version ∈ (marketBarVersions engine data.facts (evidenceRunIds task) cutoffAt).filter
        (·.Eligible spec (committedTaskPages data.pages task).providerRecordIds
          reportDate) ↔
      CurrentBar engine data.toEvidenceTables spec reportDate cutoffAt task version := by
  unfold CurrentBar
  rw [List.mem_filter, mem_marketBarVersions data.consistent, decide_eq_true_eq]

theorem payload_of_currentBar {version : EvidenceVersion}
    (h : CurrentBar engine data.toEvidenceTables spec reportDate cutoffAt task version) :
    version.payload.instrumentId = version.instrumentId ∧
      version.payload.tradingDate = version.tradingDate ∧
      version.payload.availableAt = version.availableAt ∧ version.availableAt ≤ cutoffAt :=
  payload_of_version data.written h.1.1

/-- A bar of the evidence is the payload of a current version of the latest session of its
instrument, and of the latest such version. -/
theorem evidenceBars_latest
    (hrecords : (committedTaskPages data.pages task).providerRecordIds ≠ [])
    (hruns : evidenceRunIds task ≠ []) {bar : MarketBar}
    (hbar : bar ∈ evidenceBars engine data.toEvidenceTables spec reportDate cutoffAt task) :
    ∃ version, CurrentBar engine data.toEvidenceTables spec reportDate cutoffAt task version ∧
      version.payload = bar ∧
      ∀ other, CurrentBar engine data.toEvidenceTables spec reportDate cutoffAt task other →
        other.instrumentId = version.instrumentId →
        other.tradingDate < version.tradingDate ∨
          other.tradingDate = version.tradingDate ∧ other.availableAt ≤ version.availableAt := by
  rw [evidenceBars_eq hrecords hruns] at hbar
  obtain ⟨version, hversion, hpayload, hlatest⟩ := selectedBars_latest
    (fun version hversion => (payload_of_currentBar (mem_currentBars.mp hversion)).1) hbar
  refine ⟨version, mem_currentBars.mp hversion, hpayload, ?_⟩
  intro other hother hinstrument
  exact hlatest other (mem_currentBars.mpr hother) hinstrument

theorem exists_evidenceBar
    (hrecords : (committedTaskPages data.pages task).providerRecordIds ≠ [])
    (hruns : evidenceRunIds task ≠ []) {version : EvidenceVersion}
    (h : CurrentBar engine data.toEvidenceTables spec reportDate cutoffAt task version) :
    ∃ bar ∈ evidenceBars engine data.toEvidenceTables spec reportDate cutoffAt task,
      bar.instrumentId = version.instrumentId := by
  rw [evidenceBars_eq hrecords hruns]
  exact exists_selectedBar
    (fun version hversion => (payload_of_currentBar (mem_currentBars.mp hversion)).1)
    (mem_currentBars.mpr h)

/-- The bars of the evidence are of the session and young exactly when every instrument has a
fresh version. -/
theorem evidenceBars_fresh_iff
    (hrecords : (committedTaskPages data.pages task).providerRecordIds ≠ [])
    (hruns : evidenceRunIds task ≠ []) {maxAge : ℤ} :
    (missingInstruments spec
          (evidenceBars engine data.toEvidenceTables spec reportDate cutoffAt task) = [] ∧
        ∀ bar ∈ evidenceBars engine data.toEvidenceTables spec reportDate cutoffAt task,
          bar.tradingDate = expected ∧ cutoffAt - bar.availableAt ≤ maxAge) ↔
      FreshBars engine maxAge data.toEvidenceTables spec reportDate cutoffAt task expected := by
  rw [missingInstruments_eq_nil]
  constructor
  · rintro ⟨hbars, hgood⟩
    constructor
    · intro instrumentId hid
      obtain ⟨bar, hbar, rfl⟩ := hbars instrumentId hid
      obtain ⟨version, hcurrent, rfl, -⟩ := evidenceBars_latest hrecords hruns hbar
      obtain ⟨hinstrument, hdate, hat, -⟩ := payload_of_currentBar hcurrent
      obtain ⟨hsession, hage⟩ := hgood version.payload hbar
      rw [hdate] at hsession
      rw [hat] at hage
      exact ⟨version, hcurrent, hinstrument.symm, hsession, hage⟩
    · intro version hcurrent
      -- its instrument is expected, and the bar of that instrument is of the latest session
      obtain ⟨bar, hbar, hid⟩ := hbars version.instrumentId hcurrent.2.2.1
      obtain ⟨best, hbest, rfl, hlatest⟩ := evidenceBars_latest hrecords hruns hbar
      obtain ⟨hinstrument, hdate, -, -⟩ := payload_of_currentBar hbest
      have hsession : best.tradingDate = expected := hdate.symm.trans (hgood best.payload hbar).1
      rcases hlatest version hcurrent (hid.symm.trans hinstrument) with hlt | ⟨heq, -⟩
      · exact hsession ▸ hlt.le
      · exact hsession ▸ heq.le
  · intro hfresh
    constructor
    · intro instrumentId hid
      obtain ⟨version, hcurrent, hinstrument, -, -⟩ := hfresh.young instrumentId hid
      obtain ⟨bar, hbar, hbarId⟩ := exists_evidenceBar hrecords hruns hcurrent
      exact ⟨bar, hbar, hbarId.trans hinstrument⟩
    · intro bar hbar
      obtain ⟨best, hbest, rfl, hlatest⟩ := evidenceBars_latest hrecords hruns hbar
      obtain ⟨-, hdate, hat, -⟩ := payload_of_currentBar hbest
      obtain ⟨version, hcurrent, hinstrument, hsession, hage⟩ :=
        hfresh.young best.instrumentId hbest.2.2.1
      have hlast : best.tradingDate ≤ expected := hfresh.last best hbest
      rw [hdate, hat]
      rcases hlatest version hcurrent hinstrument with hlt | ⟨heq, hle⟩
      · exact absurd hlt (not_lt.mpr (hsession ▸ hlast))
      · constructor
        · exact heq.symm.trans hsession
        · exact le_trans (sub_le_sub_left hle cutoffAt) hage

/-- Under a committed previous close, the evidence can be used exactly when its bars are
fresh. How many closed days lie in between does not matter, only when the bars were first
available. -/
theorem market_evidence_usable_iff_fresh (hspec : spec ∈ marketInputSpecs)
    (h : PreviousCloseCommitted store data.toEvidenceTables spec reportDate cutoffAt task calendar
      expected) :
    (∃ evidence, marketEvidence engine store data.toEvidenceTables spec reportDate asOf cutoffAt
        (some task) (taskRejectionCount (some task) data.rejections) = .ok evidence ∧
        evidence.status.Usable) ↔
      FreshBars engine store.marketMaxAge data.toEvidenceTables spec reportDate cutoffAt task
        expected := by
  obtain ⟨hrecords, hruns, hlate⟩ := marketEvidence_committed hspec h
  obtain ⟨late, heq⟩ := hlate engine asOf
  -- the bars of the evidence were available at the cutoff
  have hcutoff : ∀ bar ∈ evidenceBars engine data.toEvidenceTables spec reportDate cutoffAt task,
      bar.availableAt ≤ cutoffAt := by
    intro bar hbar
    obtain ⟨version, hcurrent, rfl, -⟩ := evidenceBars_latest hrecords hruns hbar
    obtain ⟨-, -, hat, hle⟩ := payload_of_currentBar hcurrent
    exact hat.trans_le hle
  rw [← evidenceBars_fresh_iff hrecords hruns]
  -- an instrument without a bar makes the evidence unusable, and is not fresh
  by_cases hmissing : missingInstruments spec
      (evidenceBars engine data.toEvidenceTables spec reportDate cutoffAt task) = []
  · rw [if_neg (not_not.mpr hmissing)] at heq
    rw [← barsEvidence_usable hcutoff]
    constructor
    · rintro ⟨evidence, hok, husable⟩
      rw [heq] at hok
      exact ⟨hmissing, Except.ok.inj hok ▸ husable⟩
    · rintro ⟨-, husable⟩
      exact ⟨_, heq, husable⟩
  · rw [if_pos hmissing] at heq
    constructor
    · rintro ⟨evidence, hok, husable⟩
      rw [heq] at hok
      exact absurd (Except.ok.inj hok ▸ husable) missingEvidence_not_usable
    · rintro ⟨hnone, -⟩
      exact absurd hnone hmissing

end

/-! ## A weekend -/

/-- A time of a day of UTC. -/
def utc (day : Day) (hour minute : ℤ) : Instant :=
  day * dayMicroseconds + (hour * 60 + minute) * 60000000

/-- Sessions from Monday to Friday. -/
def weekdayCalendar : ExchangeCalendar where
  isSession day := some ((day + 3) % 7 < 5)
  previousSession day :=
    some (if (day + 3) % 7 = 0 then day - 3 else if (day + 3) % 7 = 6 then day - 2 else day - 1)
  dateToSession day := some (if (day + 3) % 7 = 6 then day - 2 else day - 1)
  sessionClose day := utc day 20 0

/-- The store as it is configured by default. -/
def weekdayStore : PostgresReportInputEvidenceStore where
  getCalendar _ := some weekdayCalendar

/-- The bar of Friday 2026-07-31, as it is fetched at a given time. -/
def fridayBar (symbol : String) (availableAt : Instant) : MarketBar :=
  { barId := "bar_us_" ++ symbol
    instrumentId := "ins_us_etf_" ++ symbol
    canonicalSymbol := symbol
    region := .us
    interval := .d1
    barStart := utc 20665 13 30
    barEnd := utc 20665 20 0
    tradingDate := 20665
    «open» := 1
    high := 3
    low := 1
    close := 2
    volume := none
    currency := "USD"
    adjustment := .raw
    availableAt := availableAt
    source := ⟨"twelve_data", symbol, "Twelve Data", "checksum_" ++ symbol⟩ }

def fridayIdentity : BarIdentity := fun barId =>
  if barId = "bar_us_spy" then ("ins_us_etf_spy", 20665)
  else if barId = "bar_us_qqq" then ("ins_us_etf_qqq", 20665)
  else ("ins_us_etf_dia", 20665)

/-- A store without facts. -/
def noBars : MarketStore fridayIdentity where
  tables := ⟨["ins_us_etf_spy", "ins_us_etf_qqq", "ins_us_etf_dia"], [], [], [], [], [], [], [],
    [], [], []⟩
  consistent := ⟨.nil, .nil, by simp, by simp⟩
  written := ⟨by simp, by simp⟩

theorem fridayBar_identified {symbol : String} (hsymbol : symbol ∈ ["spy", "qqq", "dia"])
    (availableAt : Instant) : Identified fridayIdentity (fridayBar symbol availableAt) := by
  simp only [List.mem_cons, List.not_mem_nil, or_false] at hsymbol
  rcases hsymbol with rfl | rfl | rfl <;> rfl

/-- The upsert of one symbol by a run. -/
def fetchSymbol (symbol : String) (hsymbol : symbol ∈ ["spy", "qqq", "dia"]) (runId : UUID)
    (availableAt : Instant) (s : MarketStore fridayIdentity) : MarketStore fridayIdentity :=
  s.upsert .plain ⟨runId, .bar (fridayBar symbol availableAt)⟩ (by
    intro bar hbar
    cases hbar
    exact fridayBar_identified hsymbol availableAt)

/-- A run that fetches the three bars. -/
def fetchFriday (runId : UUID) (availableAt : Instant) (s : MarketStore fridayIdentity) :
    MarketStore fridayIdentity :=
  fetchSymbol "dia" (by simp) runId availableAt
    (fetchSymbol "qqq" (by simp) runId availableAt
      (fetchSymbol "spy" (by simp) runId availableAt s))

/-- The task of Monday 2026-08-03, with run 2 as its evidence. -/
def mondayTask : ScheduledTaskResult :=
  { taskId := "us.daily-bars"
    providerRole := "us.market.primary"
    status := .succeeded
    dataset := some .bars
    region := some .us
    recordCount := 3
    runId := some 2
    runIds := [2] }

/-- The page that run 2 committed. -/
def mondayPage : Ingestion.IngestPageCommit :=
  { page :=
      { providerRole := "us.market.primary"
        dataset := .bars
        region := "US"
        pageFingerprint := "monday"
        sourceWatermark := none
        nextCursor := none
        acceptedRecordIds := ["spy", "qqq", "dia"] }
    ingestionRunId := some 2 }

def usSpec : MarketInputSpec :=
  { inputId := "market.us.core_indices.previous_close"
    taskId := "us.daily-bars"
    region := .us
    expectedInstrumentIds := ["ins_us_etf_spy", "ins_us_etf_qqq", "ins_us_etf_dia"] }

/-- The bars were fetched for Saturday's report, at 07:50 of Shanghai, and again unchanged for
Monday's. -/
def fetchedOnSaturday : EvidenceData fridayIdentity :=
  (fetchFriday 2 (utc 20667 23 50) (fetchFriday 1 (utc 20665 23 50) noBars)).evidence [mondayPage]
    []

/-- The bars were first fetched for Monday's report. -/
def fetchedOnMonday : EvidenceData fridayIdentity :=
  (fetchFriday 2 (utc 20667 23 50) noBars).evidence [mondayPage] []

theorem previousCloseCommitted_saturday : PreviousCloseCommitted weekdayStore
    fetchedOnSaturday.toEvidenceTables usSpec 20668 (utc 20668 0 15) mondayTask weekdayCalendar
    20665 where
  succeeded := rfl
  accepted := rfl
  venue := rfl
  session := rfl
  bars := by decide +kernel

/-- By Monday's cutoff the bars of Friday are 48 hours and 25 minutes old. -/
theorem weekend_makes_stale :
    ¬ ∀ (identity : BarIdentity) (engine : Engine) (store : PostgresReportInputEvidenceStore)
      (data : EvidenceData identity) (spec : MarketInputSpec) (reportDate expected : Day)
      (asOf cutoffAt : Instant) (task : ScheduledTaskResult) (calendar : ExchangeCalendar),
      store.marketMaxAge = 36 * 3600000000 → spec ∈ marketInputSpecs →
      PreviousCloseCommitted store data.toEvidenceTables spec reportDate cutoffAt task calendar
        expected →
      ∃ evidence, marketEvidence engine store data.toEvidenceTables spec reportDate asOf cutoffAt
        (some task) (taskRejectionCount (some task) data.rejections) = .ok evidence ∧
        evidence.status.Usable := by
  intro h
  obtain ⟨evidence, hok, husable⟩ := h fridayIdentity .plain weekdayStore fetchedOnSaturday usSpec
    20668 20665 (utc 20668 0 15) (utc 20668 0 15) mondayTask weekdayCalendar rfl
    (by simp [marketInputSpecs, usSpec]) previousCloseCommitted_saturday
  have hstale : (marketEvidence .plain weekdayStore fetchedOnSaturday.toEvidenceTables usSpec 20668
      (utc 20668 0 15) (utc 20668 0 15) (some mondayTask)
      (taskRejectionCount (some mondayTask) fetchedOnSaturday.rejections)).map (·.status) =
        .ok .stale := by
    decide +kernel
  rw [hok] at hstale
  have hstatus : evidence.status = .stale := Except.ok.inj hstale
  rcases husable with hother | hother <;> rw [hstatus] at hother <;> cases hother

/-- Bars that are first fetched after the weekend are fresh. -/
theorem market_evidence_usable_iff_fresh_monday :
    FreshBars .plain weekdayStore.marketMaxAge fetchedOnMonday.toEvidenceTables usSpec 20668
      (utc 20668 0 15) mondayTask 20665 := by
  have hcommitted : PreviousCloseCommitted weekdayStore fetchedOnMonday.toEvidenceTables usSpec
      20668 (utc 20668 0 15) mondayTask weekdayCalendar 20665 :=
    ⟨rfl, rfl, rfl, rfl, by decide +kernel⟩
  have hspec : usSpec ∈ marketInputSpecs := by simp [marketInputSpecs, usSpec]
  have husable : ∃ evidence, marketEvidence .plain weekdayStore fetchedOnMonday.toEvidenceTables
      usSpec 20668 (utc 20668 0 15) (utc 20668 0 15) (some mondayTask)
      (taskRejectionCount (some mondayTask) fetchedOnMonday.rejections) = .ok evidence ∧
      evidence.status.Usable := ⟨_, rfl, Or.inl rfl⟩
  exact (market_evidence_usable_iff_fresh hspec hcommitted).mp husable

end MacroPlatform.Evidence
