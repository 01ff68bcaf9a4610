import MacroPlatform.Evidence.Freshness

/-! # What usable market evidence says

The other direction of the market evidence: a status that a report may use is never given
without a bar of the previous session for each instrument, known at the cutoff and committed by
the task itself.

* `taskProblem_eq_none`: which tasks are without a problem;
* `market_evidence_sound`: what such a status says, part by part.
-/

namespace MacroPlatform.Evidence

open Query Schedule Store

/-! ## Stores of written bars -/

/-- Every bar and every revision was written by `upsert_bar`. -/
structure RowsOfBars (t : FactTables) : Prop where
  bars : ∀ row ∈ t.bars, ∃ bar runId, row = MarketBarRow.ofBar bar runId
  revisions : ∀ revision ∈ t.barRevisions, ∃ bar runId,
    revision = MarketBarRevisionRow.ofBar bar runId

/-- An upsert writes its row or revision from a bar. -/
theorem upserted_rowsOfBars {t t' : FactTables} {u : FactUpsert} (h : RowsOfBars t)
    (hu : Upserted t u t') : RowsOfBars t' := by
  cases hu with
  | @bar bar hfact _ =>
    refine ⟨?_, h.revisions⟩
    intro row hrow
    rcases List.mem_append.mp hrow with hold | hnew
    · exact h.bars row hold
    · exact ⟨bar, u.ingestionRunId, List.mem_singleton.mp hnew⟩
  | @barRevision bar hfact _ _ =>
    refine ⟨h.bars, ?_⟩
    intro revision hrevision
    rcases List.mem_append.mp hrevision with hold | hnew
    · exact h.revisions revision hold
    · exact ⟨bar, u.ingestionRunId, List.mem_singleton.mp hnew⟩
  | same | observation | release | releaseRevision | news => exact ⟨h.bars, h.revisions⟩

/-- A fact store that only upserts have written. -/
structure BarStore extends FactStore where
  written : RowsOfBars tables

def BarStore.upsert (engine : Engine) (s : BarStore) (u : FactUpsert) : BarStore where
  toFactStore := s.toFactStore.upsert engine u
  written := upserted_rowsOfBars s.written (s.toFactStore.upsert_cases engine u)

/-- The tables that the evidence is read from, over such a store. -/
def BarStore.evidence (s : BarStore) (pages : List Ingestion.IngestPageCommit)
    (rejections : List UUID) : EvidenceTables :=
  ⟨s.tables, pages, rejections⟩

/-- The columns of a version repeat its payload. -/
theorem payload_of_written {t : FactTables} {runIds : List UUID} {bound : Instant}
    {version : EvidenceVersion} (h : RowsOfBars t)
    (hversion : version ∈ evidenceVersions t runIds bound) :
    version.payload.availableAt = version.availableAt ∧
      version.payload.source.providerRecordId = version.providerRecordId ∧
      version.availableAt ≤ bound := by
  rcases mem_evidenceVersions.mp hversion with ⟨row, hrow, hle, rfl⟩ |
    ⟨revision, hrevision, hle, row, hrow, hid, rfl⟩
  · rcases h.bars row hrow with ⟨bar, runId, rfl⟩
    exact ⟨rfl, rfl, hle⟩
  · rcases h.revisions revision hrevision with ⟨bar, runId, rfl⟩
    exact ⟨rfl, rfl, hle⟩

/-! ## Sound evidence -/

/-- A page that a run of the task committed, with the role, the dataset and the region of the
task. -/
structure CommittedByTask (task : ScheduledTaskResult) (row : Ingestion.IngestPageCommit) :
    Prop where
  run : ∃ runId ∈ row.ingestionRunId, runId ∈ evidenceRunIds task
  providerRole : row.page.providerRole = task.providerRole
  dataset : task.dataset = some row.page.dataset
  region : task.region.map (·.value) = some row.page.region

/-- The facts of an instrument. -/
def factsOf (evidence : InputQualityEvidence) (instrumentId : String) : List Fact :=
  evidence.facts.filter fun
    | .bar bar => bar.instrumentId = instrumentId
    | _ => false

/-- A bar that the evidence of a session may show. -/
structure SoundBar (engine : Engine) (maxAge : ℤ) (t : EvidenceTables) (cutoffAt : Instant)
    (task : ScheduledTaskResult) (expected : Day) (bar : MarketBar) : Prop where
  selected : ∃ version ∈ marketBarVersions engine t.facts (evidenceRunIds task) cutoffAt,
    version.payload = bar ∧ version.availableAt = bar.availableAt
  session : bar.tradingDate = expected
  known : bar.availableAt ≤ cutoffAt
  young : cutoffAt - bar.availableAt ≤ maxAge
  committed : ∃ row ∈ t.pages, CommittedByTask task row ∧
    bar.source.providerRecordId ∈ row.page.acceptedRecordIds

/-- Evidence of the previous session that a report may use, by the task it comes from. -/
structure SoundEvidence (engine : Engine) (store : PostgresReportInputEvidenceStore)
    (t : EvidenceTables) (spec : MarketInputSpec) (reportDate : Day) (cutoffAt : Instant)
    (task : ScheduledTaskResult) (evidence : InputQualityEvidence) : Prop where
  succeeded : task.status = .succeeded
  unrejected : task.recordsRejected = 0 ∧ ∀ runId ∈ evidenceRunIds task, runId ∉ t.rejections
  bars : ∃ expected, previousSession store.getCalendar spec.region reportDate = .ok expected ∧
    ∀ instrumentId ∈ spec.expectedInstrumentIds, ∃ bar,
      factsOf evidence instrumentId = [.bar bar] ∧
        SoundBar engine store.marketMaxAge t cutoffAt task expected bar

/-! ## The cases of the evidence -/

variable {engine : Engine} {store : PostgresReportInputEvidenceStore} {t : EvidenceTables}
  {spec : MarketInputSpec} {reportDate expected : Day} {asOf cutoffAt : Instant}
  {taskResult : Option ScheduledTaskResult} {task : ScheduledTaskResult}
  {evidence : InputQualityEvidence}

/-- A task has no problem exactly when it succeeded with runs and without rejections. -/
theorem taskProblem_eq_none {inputId : String} {rejectionCount : ℕ} :
    taskProblem inputId taskResult rejectionCount = none ↔
      rejectionCount = 0 ∧ ∃ task, taskResult = some task ∧ task.status = .succeeded ∧
        evidenceRunIds task ≠ [] := by
  unfold taskProblem
  cases taskResult with
  | none => simp
  | some task =>
    by_cases hcount : rejectionCount > 0
    · simp only [if_pos hcount, reduceCtorEq, false_iff]
      omega
    · by_cases hstatus : task.status = .succeeded
      · by_cases hruns : evidenceRunIds task = []
        · simp [hcount, hstatus, hruns]
        · simp only [if_neg hcount, if_pos hstatus, if_neg hruns, true_iff]
          exact ⟨by omega, task, rfl, hstatus, hruns⟩
      · simp [hcount, hstatus]

/-- A task with a problem is no usable evidence. -/
theorem taskProblem_not_usable {inputId : String} {rejectionCount : ℕ}
    {problem : InputQualityEvidence}
    (h : taskProblem inputId taskResult rejectionCount = some problem) :
    ¬ problem.status.Usable := by
  unfold taskProblem at h
  cases taskResult with
  | none =>
    cases h
    simp [unavailableEvidence, InputQualityEvidence.without, InputEvidenceStatus.Usable]
  | some task =>
    simp only at h
    split_ifs at h <;> cases h <;>
      simp [unavailableEvidence, InputQualityEvidence.without, InputEvidenceStatus.Usable]

/-- Usable evidence is the evidence of the bars of a task without a problem, none missing. -/
theorem marketEvidence_usable {rejectionCount : ℕ}
    (hok : marketEvidence engine store t spec reportDate asOf cutoffAt taskResult
      rejectionCount = .ok evidence) (husable : evidence.status.Usable) :
    taskProblem spec.inputId taskResult rejectionCount = none ∧ ∃ task expected,
      taskResult = some task ∧
      (committedTaskPages t.pages task).providerRecordIds ≠ [] ∧
      previousSession store.getCalendar spec.region reportDate = .ok expected ∧
      missingInstruments spec (evidenceBars engine t spec reportDate cutoffAt task) = [] ∧
      evidence = barsEvidence t.facts spec (evidenceBars engine t spec reportDate cutoffAt task)
        expected cutoffAt store.marketMaxAge := by
  unfold marketEvidence at hok
  -- a task with a problem gives no usable evidence
  cases hproblem : taskProblem spec.inputId taskResult rejectionCount with
  | some problem =>
    simp only [hproblem] at hok
    cases hok
    exact absurd husable (taskProblem_not_usable hproblem)
  | none =>
    refine ⟨rfl, ?_⟩
    cases taskResult with
    | none =>
      simp only [hproblem] at hok
      cases hok
    | some task =>
      simp only [hproblem] at hok
      -- nor does evidence without bars
      have hwithout : ∀ inputId status reason, ¬ InputEvidenceStatus.Usable status →
          evidence ≠ .without inputId status reason := by
        rintro inputId status reason hnot rfl
        exact hnot husable
      -- the checks in the order of the source: pages, records, the session, the instruments
      by_cases hpages : (committedTaskPages t.pages task).pageCount = 0
      · rw [if_pos hpages] at hok
        cases hok
        exact absurd rfl (hwithout _ _ _ (by simp [InputEvidenceStatus.Usable]))
      rw [if_neg hpages] at hok
      by_cases hrecords : (committedTaskPages t.pages task).providerRecordIds = []
      · rw [if_pos hrecords] at hok
        cases hok
        exact absurd rfl (hwithout _ _ _ (by simp [InputEvidenceStatus.Usable]))
      rw [if_neg hrecords] at hok
      cases hsession : previousSession store.getCalendar spec.region reportDate with
      | error error =>
        rw [hsession] at hok
        cases error with
        | keyError key => cases hok
        | unavailable message =>
          cases hok
          exact absurd rfl (hwithout _ _ _ (by simp [InputEvidenceStatus.Usable]))
      | ok expected =>
        rw [hsession] at hok
        simp only at hok
        split_ifs at hok with hmissing
        · rw [← Except.ok.inj hok] at husable
          exact absurd husable missingEvidence_not_usable
        · exact ⟨task, expected, rfl, hrecords, rfl, not_not.mp hmissing,
            (Except.ok.inj hok).symm⟩

/-- Usable evidence of bars is all of the session and in time. -/
theorem barsEvidence_sound {facts : FactTables} {bars : List MarketBar} {maxAge : ℤ}
    (husable : (barsEvidence facts spec bars expected cutoffAt maxAge).status.Usable) :
    (barsEvidence facts spec bars expected cutoffAt maxAge).facts = bars.map .bar ∧
      ∀ bar ∈ bars, bar.tradingDate = expected ∧ bar.availableAt ≤ cutoffAt ∧
        cutoffAt - bar.availableAt ≤ maxAge := by
  by_cases hstale : unexpectedTradingDates (bars.map (·.tradingDate)) expected = []
  · have heq : barsEvidence facts spec bars expected cutoffAt maxAge = _ :=
      if_neg (not_not.mpr hstale)
    rw [heq] at husable ⊢
    have hdates := List.forall_mem_map.mp (unexpectedTradingDates_eq_nil.mp hstale)
    have hcutoff : ∀ bar ∈ bars, bar.availableAt ≤ cutoffAt := by
      intro bar hbar
      by_contra hlate
      have hstatus : ∃ availableAt ∈ bars.map (·.availableAt), cutoffAt < availableAt :=
        ⟨_, List.mem_map_of_mem hbar, not_le.mp hlate⟩
      unfold sourceStatus at husable
      rw [if_pos hstatus] at husable
      simp [InputEvidenceStatus.Usable] at husable
    have hages := List.forall_mem_map.mp
      ((sourceStatus_usable (List.forall_mem_map.mpr hcutoff)).mp husable)
    exact ⟨rfl, fun bar hbar => ⟨hdates bar hbar, hcutoff bar hbar, hages bar hbar⟩⟩
  · have heq : barsEvidence facts spec bars expected cutoffAt maxAge = _ := if_pos hstale
    rw [heq] at husable
    simp [InputQualityEvidence.without, InputEvidenceStatus.Usable] at husable

/-- The bars of the evidence are payloads of current versions that the task committed. -/
theorem evidenceBars_versions
    (hrecords : (committedTaskPages t.pages task).providerRecordIds ≠ [])
    (hruns : evidenceRunIds task ≠ []) {bar : MarketBar}
    (hbar : bar ∈ evidenceBars engine t spec reportDate cutoffAt task) :
    ∃ version ∈ marketBarVersions engine t.facts (evidenceRunIds task) cutoffAt,
      version.payload = bar ∧
      version.Eligible spec (committedTaskPages t.pages task).providerRecordIds reportDate := by
  rw [evidenceBars_eq hrecords hruns, mem_selectedBars] at hbar
  rcases List.mem_map.mp (mem_of_mem_firstPerKey hbar) with ⟨version, hversion, hpayload⟩
  have hmem := (engine.mem_orderBy _).mp hversion
  rw [List.mem_filter, decide_eq_true_eq] at hmem
  exact ⟨version, hmem.1, hpayload, hmem.2⟩

/-- A record that the task committed stands in a page of one of its runs. -/
theorem page_of_record {pages : List Ingestion.IngestPageCommit} {recordId : String}
    (h : recordId ∈ (committedTaskPages pages task).providerRecordIds) :
    ∃ row ∈ pages, CommittedByTask task row ∧ recordId ∈ row.page.acceptedRecordIds := by
  unfold committedTaskPages at h
  split at h
  · next dataset region hdataset hregion =>
    simp only [mem_distinct, List.mem_flatMap, List.mem_filter, decide_eq_true_eq] at h
    rcases h with ⟨row, ⟨hrow, hrun, hrole, hsame, hregionSame⟩, hrecord⟩
    rw [Option.any_eq_true] at hrun
    rcases hrun with ⟨runId, hrunId, hmem⟩
    refine ⟨row, hrow, ?_, hrecord⟩
    exact
      { run := ⟨runId, hrunId, by simpa using hmem⟩
        providerRole := hrole
        dataset := by rw [hdataset, hsame]
        region := by rw [hregion, hregionSame, Option.map_some] }
  · cases h

/-- Among bars of distinct instruments, an instrument has one fact. -/
theorem factsOf_bars {bars : List MarketBar} {bar : MarketBar}
    (hdistinct : bars.Pairwise fun a b => a.instrumentId ≠ b.instrumentId) (hbar : bar ∈ bars)
    (hfacts : evidence.facts = bars.map .bar) :
    factsOf evidence bar.instrumentId = [.bar bar] := by
  have honly : bars.filter (fun other => other.instrumentId = bar.instrumentId) = [bar] :=
    filter_key_eq hdistinct hbar
  unfold factsOf
  rw [hfacts, List.filter_map]
  exact congrArg (List.map Fact.bar) honly

/-- Without rejections counted, none is stored of the runs of the task. -/
theorem unrejected_of_count {rejections : List UUID}
    (h : taskRejectionCount (some task) rejections = 0) :
    task.recordsRejected = 0 ∧ ∀ runId ∈ evidenceRunIds task, runId ∉ rejections := by
  unfold taskRejectionCount at h
  rw [Nat.max_eq_zero_iff, List.sum_eq_zero_iff_forall_eq_nat] at h
  refine ⟨h.1, fun runId hrun => List.count_eq_zero.mp ?_⟩
  exact h.2 _ (List.mem_map_of_mem (f := fun runId => rejections.count runId) hrun)

/-- Market evidence that a report may use is sound. -/
theorem market_evidence_sound (engine : Engine) (store : PostgresReportInputEvidenceStore)
    (s : BarStore) (pages : List Ingestion.IngestPageCommit) (rejections : List UUID)
    (spec : MarketInputSpec) (reportDate : Day) (asOf cutoffAt : Instant)
    (taskResult : Option ScheduledTaskResult) (evidence : InputQualityEvidence)
    (hok : marketEvidence engine store (s.evidence pages rejections) spec reportDate asOf cutoffAt
      taskResult (taskRejectionCount taskResult rejections) = .ok evidence)
    (husable : evidence.status = .available ∨ evidence.status = .revised) :
    ∃ task, taskResult = some task ∧
      SoundEvidence engine store (s.evidence pages rejections) spec reportDate cutoffAt task
        evidence := by
  rcases marketEvidence_usable hok husable with
    ⟨hproblem, task, expected, rfl, hrecords, hsession, hmissing, rfl⟩
  rcases taskProblem_eq_none.mp hproblem with ⟨hcount, task', htask, hsucceeded, hruns⟩
  cases htask
  rcases barsEvidence_sound husable with ⟨hfacts, hbars⟩
  refine ⟨task, rfl, hsucceeded, unrejected_of_count hcount, expected, hsession, ?_⟩
  intro instrumentId hinstrument
  rcases missingInstruments_eq_nil.mp hmissing instrumentId hinstrument with ⟨bar, hbar, rfl⟩
  have hdistinct : (evidenceBars engine (s.evidence pages rejections) spec reportDate cutoffAt
      task).Pairwise fun a b => a.instrumentId ≠ b.instrumentId :=
    ((List.perm_insertionSort _ _).pairwise_iff fun h => h.symm).mpr (firstPerKey_pairwise _ _)
  refine ⟨bar, factsOf_bars hdistinct hbar hfacts, ?_⟩
  rcases hbars bar hbar with ⟨hdate, hknown, hage⟩
  rcases evidenceBars_versions hrecords hruns hbar with ⟨version, hversion, rfl, heligible⟩
  have hrow : version ∈ evidenceVersions s.tables (evidenceRunIds task) cutoffAt :=
    (engine.mem_orderBy _).mp (mem_of_mem_firstPerKey hversion)
  rcases payload_of_written s.written hrow with ⟨hat, hrecord, -⟩
  exact
    { selected := ⟨version, hversion, rfl, hat.symm⟩
      session := hdate
      known := hknown
      young := hage
      committed := by
        rw [hrecord]
        exact page_of_record heligible.2.2.1 }

theorem noBars_written : RowsOfBars noBars.tables :=
  ⟨by simp [noBars], by simp [noBars]⟩

/-- The bars of Friday, as run 2 fetched them for Monday's report. -/
def fridayBars : BarStore :=
  let fetch (symbol : String) (s : BarStore) : BarStore :=
    s.upsert .plain ⟨2, .bar (fridayBar symbol (utc 20667 23 50))⟩
  fetch "dia" (fetch "qqq" (fetch "spy" ⟨noBars.toFactStore, noBars_written⟩))

theorem market_evidence_sound_monday : ∃ evidence,
    evidence.status = .available ∧ ∃ task, some mondayTask = some task ∧
      SoundEvidence .plain weekdayStore (fridayBars.evidence [mondayPage] []) usSpec 20668
        (utc 20668 0 15) task evidence := by
  have hrun : ∃ evidence, marketEvidence .plain weekdayStore (fridayBars.evidence [mondayPage] [])
      usSpec 20668 (utc 20668 0 15) (utc 20668 0 15) (some mondayTask)
      (taskRejectionCount (some mondayTask) []) = .ok evidence ∧
        evidence.status = .available := ⟨_, rfl, rfl⟩
  rcases hrun with ⟨evidence, hok, hstatus⟩
  exact ⟨evidence, hstatus, market_evidence_sound .plain weekdayStore fridayBars [mondayPage] []
    usSpec 20668 (utc 20668 0 15) (utc 20668 0 15) (some mondayTask) evidence hok (Or.inl hstatus)⟩

end MacroPlatform.Evidence
