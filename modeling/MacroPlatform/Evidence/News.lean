import MacroPlatform.Evidence.Market
import MacroPlatform.Store.NewsLinks

/-! # News evidence for a report

`PostgresReportInputEvidenceStore._news_evidence`: the headlines that the task committed. Its
query does not follow the links of corrections, which `list_news` follows within its page.

* `newsEvidence_facts`: the facts of the evidence are the collected headlines;
* `superseded_news_hidden_iff`: when neither reader shows superseded news;
* `superseded_news_shown`: an event that both show.
-/

namespace MacroPlatform.Evidence

open Query Schedule Store

/-! ## The queries -/

/-- The region and the provider records of the task. -/
structure NewsRequest where
  region : Region
  providerRecordIds : List String
  cutoffAt : Instant

/-- `window_start`. -/
def NewsRequest.windowStart (request : NewsRequest) : Instant :=
  request.cutoffAt - 24 * 3600000000

/-- The conditions on the event, besides its availability. -/
def NewsRequest.selects (request : NewsRequest) (row : NewsEventRow) : Prop :=
  (row.status = .active ∨ row.status = .corrected) ∧
    row.providerRecordId ∈ request.providerRecordIds ∧
    (row.publishedAt.any (request.windowStart ≤ ·) ∨
      row.publishedDate.any (request.windowStart.date ≤ ·))

instance (request : NewsRequest) (row : NewsEventRow) : Decidable (request.selects row) :=
  inferInstanceAs (Decidable (_ ∧ _ ∧ _))

variable (engine : Engine) (t : FactTables)

/-- The join with the regions of the events. -/
def newsOfRegion (request : NewsRequest) (available : Instant → Bool) : List NewsEventRow :=
  (t.news.filter fun row => request.selects row ∧ available row.availableAt).flatMap fun row =>
    (t.newsRegions.filter fun r => r.newsId = row.newsId ∧ r.region = request.region).map
      fun _ => row

/-- The events that were available by the cutoff, the latest first. -/
def newsByCutoff (request : NewsRequest) : List NewsEventRow :=
  engine.orderBy (lexicographic [desc compare (·.availableAt), asc engine.collate (·.newsId)])
    (newsOfRegion t request (· ≤ request.cutoffAt))

/-- `late_rows`. -/
def lateNews (request : NewsRequest) (asOf : Instant) : List String :=
  (newsOfRegion t request fun availableAt => request.cutoffAt < availableAt ∧
    availableAt ≤ asOf).map (·.newsId)

/-! ## The evidence -/

/-- The evidence of the selected events. -/
def eventsEvidence (store : PostgresReportInputEvidenceStore) (inputId : String)
    (cutoffAt : Instant) (events : List NewsEvent) : InputQualityEvidence :=
  let status := sourceStatus (events.map (·.availableAt)) cutoffAt store.newsMaxAge
    (events.any (·.status = .corrected))
  { inputId := inputId
    status := status.1
    required := true
    reason := status.2
    facts := events.map .news
    sourceReferences := events.map (·.source) }

/-- `_news_evidence`; `.error` is an exception. -/
def newsEvidence (store : PostgresReportInputEvidenceStore) (t : EvidenceTables)
    (inputId : String) (region : Region) (asOf cutoffAt : Instant)
    (taskResult : Option ScheduledTaskResult) (rejectionCount : ℕ) :
    Except String InputQualityEvidence :=
  match taskProblem inputId taskResult rejectionCount, taskResult with
  | some problem, _ => .ok problem
  | none, none => .error "a successful task result is required after task_problem"
  | none, some task =>
      let commits := committedTaskPages t.pages task
      if commits.pageCount = 0 then
        .ok (unavailableEvidence inputId
          "scheduled task has no committed provider pages for its durable run evidence")
      else
        let request : NewsRequest := ⟨region, commits.providerRecordIds, cutoffAt⟩
        let rows := newsByCutoff engine t.facts request
        if rows = [] then
          if lateNews t.facts request asOf ≠ [] then
            .ok (.without inputId .late
              "official headlines were committed after the report cutoff")
          else
            .ok (.without inputId .missing
              "no official headline materialized in the last 24 hours")
        else .ok (eventsEvidence store inputId cutoffAt (rows.map (·.payload)))

/-! ## Which events it shows -/

/-- Another persisted event that is available by the cutoff supersedes the event. -/
def SupersededByAnother (cutoffAt : Instant) (newsId : String) : Prop :=
  ∃ newer ∈ t.news, newer.newsId ≠ newsId ∧ newer.availableAt ≤ cutoffAt ∧
    newer.Supersedes newsId

instance (cutoffAt : Instant) (newsId : String) :
    Decidable (SupersededByAnother t cutoffAt newsId) :=
  inferInstanceAs (Decidable (∃ newer ∈ t.news, _ ∧ _ ∧ _))

/-- A persisted headline of the region that a page of the task committed, that was published in
the last 24 hours and that was available by the cutoff. -/
def Collected (t : EvidenceTables) (region : Region) (cutoffAt : Instant)
    (task : ScheduledTaskResult) (row : NewsEventRow) : Prop :=
  row ∈ t.facts.news ∧ row.availableAt ≤ cutoffAt ∧ region ∈ row.payload.regions ∧
    NewsRequest.selects ⟨region, (committedTaskPages t.pages task).providerRecordIds, cutoffAt⟩ row

variable {engine t}

/-- The news of a region by the cutoff, from the rows as they are. -/
theorem mem_newsByCutoff (h : NewsWritten t) {request : NewsRequest} {row : NewsEventRow} :
    row ∈ newsByCutoff engine t request ↔ row ∈ t.news ∧ row.availableAt ≤ request.cutoffAt ∧
      request.region ∈ row.payload.regions ∧ request.selects row := by
  unfold newsByCutoff newsOfRegion
  rw [engine.mem_orderBy, List.mem_flatMap]
  constructor
  · rintro ⟨event, hevent, hcopy⟩
    obtain ⟨hmem, hcond⟩ := List.mem_filter.mp hevent
    obtain ⟨r, hr, rfl⟩ := List.mem_map.mp hcopy
    obtain ⟨hr, hmatch⟩ := List.mem_filter.mp hr
    simp only [decide_eq_true_eq] at hcond hmatch
    have hlisted := (h.regions event hmem request.region).mp ⟨r, hr, hmatch⟩
    exact ⟨hmem, hcond.2, hlisted, hcond.1⟩
  · rintro ⟨hmem, havailable, hlisted, hselects⟩
    obtain ⟨r, hr, hmatch⟩ := (h.regions row hmem request.region).mpr hlisted
    refine ⟨row, List.mem_filter.mpr ⟨hmem, ?_⟩, List.mem_map.mpr ⟨r, ?_, rfl⟩⟩
    · simp [hselects, havailable]
    · exact List.mem_filter.mpr ⟨hr, decide_eq_true hmatch⟩

theorem taskProblem_facts {inputId : String} {taskResult : Option ScheduledTaskResult}
    {rejectionCount : ℕ} {problem : InputQualityEvidence}
    (h : taskProblem inputId taskResult rejectionCount = some problem) : problem.facts = [] := by
  unfold taskProblem at h
  cases taskResult with
  | none =>
    cases h
    rfl
  | some task =>
    simp only at h
    split_ifs at h <;> cases h <;> rfl

/-- Without committed pages there are no records. -/
theorem committedTaskPages_empty {pages : List Ingestion.IngestPageCommit}
    {task : ScheduledTaskResult} (h : (committedTaskPages pages task).pageCount = 0) :
    (committedTaskPages pages task).providerRecordIds = [] := by
  unfold committedTaskPages at h ⊢
  split
  · rename_i dataset region hdataset hregion
    simp only [hdataset, hregion, List.length_eq_zero_iff] at h
    simp only [h]
    rfl
  · rfl

variable {store : PostgresReportInputEvidenceStore} {inputId : String} {region : Region}
  {asOf cutoffAt : Instant} {taskResult : Option ScheduledTaskResult} {rejectionCount : ℕ}

/-- The facts of the evidence of a task without a problem are the collected headlines. -/
theorem newsEvidence_facts {t : EvidenceTables} (h : NewsWritten t.facts)
    {evidence : InputQualityEvidence}
    (hok : newsEvidence engine store t inputId region asOf cutoffAt taskResult rejectionCount =
      .ok evidence) {event : NewsEvent} :
    Fact.news event ∈ evidence.facts ↔
      ∃ task, taskResult = some task ∧ taskProblem inputId taskResult rejectionCount = none ∧
        ∃ row, Collected t region cutoffAt task row ∧ row.payload = event := by
  unfold newsEvidence at hok
  -- a problem of the task is reported without facts
  cases hproblem : taskProblem inputId taskResult rejectionCount with
  | some problem =>
    simp only [hproblem] at hok
    cases hok
    rw [taskProblem_facts hproblem]
    simp
  | none =>
    cases taskResult with
    | none => simp only [hproblem] at hok; cases hok
    | some task =>
      simp only [hproblem] at hok
      -- the query by cutoff takes the collected headlines
      have hcollected : ∀ row, row ∈ newsByCutoff engine t.facts
          ⟨region, (committedTaskPages t.pages task).providerRecordIds, cutoffAt⟩ ↔
            Collected t region cutoffAt task row := fun row => mem_newsByCutoff h
      have hfacts : evidence.facts = (newsByCutoff engine t.facts
          ⟨region, (committedTaskPages t.pages task).providerRecordIds, cutoffAt⟩).map
            (Fact.news ·.payload) := by
        -- no pages, no headlines, a late one, or the headlines themselves
        split_ifs at hok with hpages hrows hlate
        · -- without pages the query has no records to select
          cases hok
          have hnone : ∀ row, ¬ Collected t region cutoffAt task row := by
            rintro row ⟨-, -, -, -, hrecord, -⟩
            rw [committedTaskPages_empty hpages] at hrecord
            cases hrecord
          rw [List.eq_nil_iff_forall_not_mem.mpr fun row hrow =>
            hnone row ((hcollected row).mp hrow)]
          rfl
        · cases hok
          rw [hrows]
          rfl
        · cases hok
          rw [hrows]
          rfl
        · cases hok
          exact List.map_map
      rw [hfacts, List.mem_map]
      constructor
      · rintro ⟨row, hrow, hevent⟩
        exact ⟨task, rfl, rfl, row, (hcollected row).mp hrow, Fact.news.inj hevent⟩
      · rintro ⟨_, htask, -, row, hrow, rfl⟩
        cases htask
        exact ⟨row, (hcollected row).mpr hrow, rfl⟩

/-- `_news_evidence` always answers. -/
theorem newsEvidence_answers (t : EvidenceTables) :
    ∃ evidence, newsEvidence engine store t inputId region asOf cutoffAt taskResult
      rejectionCount = .ok evidence := by
  unfold newsEvidence
  cases hproblem : taskProblem inputId taskResult rejectionCount with
  | some problem => exact ⟨problem, rfl⟩
  | none =>
    cases taskResult with
    | none => cases hproblem
    | some task =>
      simp only
      split_ifs <;> exact ⟨_, rfl⟩

/-- The evidence shows no superseded event exactly when no headline that it collects is
superseded by then. -/
theorem newsEvidence_hides_iff {t : EvidenceTables} (h : NewsWritten t.facts) :
    (∀ evidence, newsEvidence engine store t inputId region asOf cutoffAt taskResult
        rejectionCount = .ok evidence →
      ∀ event, Fact.news event ∈ evidence.facts →
        ¬ SupersededByAnother t.facts cutoffAt event.newsId) ↔
      ∀ task, taskResult = some task → taskProblem inputId taskResult rejectionCount = none →
        ∀ row, Collected t region cutoffAt task row →
          ¬ SupersededByAnother t.facts cutoffAt row.newsId := by
  constructor
  · intro hhides task htask hproblem row hrow
    have hanswers : ∃ evidence, newsEvidence engine store t inputId region asOf cutoffAt taskResult
      rejectionCount = .ok evidence := newsEvidence_answers t
    obtain ⟨evidence, hok⟩ := hanswers
    have hshown : Fact.news row.payload ∈ evidence.facts :=
      (newsEvidence_facts h hok).mpr ⟨task, htask, hproblem, row, hrow, rfl⟩
    rw [← payload_newsId h hrow.1]
    exact hhides evidence hok row.payload hshown
  · intro hcollected evidence hok event hevent
    obtain ⟨task, htask, hproblem, row, hrow, rfl⟩ := (newsEvidence_facts h hok).mp hevent
    rw [payload_newsId h hrow.1]
    exact hcollected task htask hproblem row hrow

/-- When the two readers show no superseded news. -/
theorem superseded_news_hidden_iff (session : Session) (s : NewsStore) {query : NewsQuery}
    (hquery : query.includeSuperseded = false) (pages : List Ingestion.IngestPageCommit)
    (rejections : List UUID) :
    ((∀ event ∈ listNews session s.tables query,
        ¬ SupersededAt s.tables query.asOf event.newsId) ↔
      ∀ row, InPage session s.tables query row → SupersededAt s.tables query.asOf row.newsId →
        ∃ newer, InPage session s.tables query newer ∧ newer.Supersedes row.newsId) ∧
    ((∀ evidence, newsEvidence session.toEngine store ⟨s.tables, pages, rejections⟩ inputId region
        asOf cutoffAt taskResult rejectionCount = .ok evidence →
      ∀ event, Fact.news event ∈ evidence.facts →
        ¬ SupersededByAnother s.tables cutoffAt event.newsId) ↔
      ∀ task, taskResult = some task → taskProblem inputId taskResult rejectionCount = none →
        ∀ row, Collected ⟨s.tables, pages, rejections⟩ region cutoffAt task row →
          ¬ SupersededByAnother s.tables cutoffAt row.newsId) :=
  ⟨listNews_hides_iff s.written hquery, newsEvidence_hides_iff s.written⟩

/-! ## A correction -/

/-- A headline of 2026-08-03 in Hong Kong, and its correction two hours later. -/
def headline (newsId : String) (supersedes : Option String) (publishedAt : Instant) : NewsEvent :=
  { newsId := newsId
    clusterId := none
    supersedesNewsId := supersedes
    status := .active
    title := newsId
    summary := none
    body := none
    contentMode := .headline
    language := "en"
    sourceTier := .official
    publishedAt := some publishedAt
    publishedDate := none
    availableAt := publishedAt
    regions := [.hk]
    entities := []
    topics := []
    source := ⟨"hk.news", newsId, "HKSAR", "checksum_" ++ newsId⟩ }

/-- Nothing is persisted. -/
def emptyNews : NewsStore where
  tables := ⟨[], [], [], [], [], [], [], [], [], [], []⟩
  consistent := ⟨.nil, .nil, by simp, by simp⟩
  written := ⟨by simp, .nil, by simp [Store.Lists], by simp [Store.Lists], by simp [Store.Lists]⟩

/-- Both events are persisted by run 1. -/
def correctedNews : NewsStore :=
  (emptyNews.upsert .plain ⟨1, .news (headline "first" none (20668 * dayMicroseconds))⟩).upsert
    .plain ⟨1, .news (headline "second" (some "first")
      (20668 * dayMicroseconds + 2 * 3600000000))⟩

/-- The events of the first `hours` of the day, as of its end. -/
def newsOfHours (hours : ℤ) : NewsQuery :=
  { regions := [.hk]
    publishedFrom := 20668 * dayMicroseconds
    publishedTo := 20668 * dayMicroseconds + hours * 3600000000
    asOf := 20669 * dayMicroseconds }

def plainSession : Session where
  toEngine := .plain
  midnight day := day * dayMicroseconds

def evidenceStore : PostgresReportInputEvidenceStore where
  getCalendar _ := none
  positive := defaultAges_positive

/-- The task whose run 1 committed both records. -/
def newsTask : ScheduledTaskResult :=
  { taskId := "hk.official-headlines"
    providerRole := "hk.news.primary"
    status := .succeeded
    dataset := some .news
    region := some .hk
    recordCount := 2
    runId := some 1
    runIds := [1] }

def newsPageCommit : Ingestion.IngestPageCommit :=
  { page :=
      { providerRole := "hk.news.primary"
        dataset := .news
        region := "HK"
        pageFingerprint := "monday"
        sourceWatermark := none
        nextCursor := none
        acceptedRecordIds := ["first", "second"] }
    ingestionRunId := some 1 }

/-- The query of the first hour shows the event whose correction follows in the second, and the
evidence shows both. -/
theorem superseded_news_shown :
    (∃ event ∈ listNews plainSession correctedNews.tables (newsOfHours 1),
      SupersededAt correctedNews.tables (newsOfHours 1).asOf event.newsId) ∧
    ∃ evidence, newsEvidence .plain evidenceStore ⟨correctedNews.tables, [newsPageCommit], []⟩
        "news.hk.official_headlines_24h" .hk (20669 * dayMicroseconds) (20669 * dayMicroseconds)
        (some newsTask) 0 = .ok evidence ∧
      ∃ event, Fact.news event ∈ evidence.facts ∧
        SupersededByAnother correctedNews.tables (20669 * dayMicroseconds) event.newsId := by
  constructor
  · decide +kernel
  · have hanswers : ∃ evidence, newsEvidence .plain evidenceStore
        ⟨correctedNews.tables, [newsPageCommit], []⟩ "news.hk.official_headlines_24h" .hk
        (20669 * dayMicroseconds) (20669 * dayMicroseconds) (some newsTask) 0 = .ok evidence :=
      newsEvidence_answers _
    obtain ⟨evidence, hok⟩ := hanswers
    have hcollected : Collected ⟨correctedNews.tables, [newsPageCommit], []⟩ .hk
        (20669 * dayMicroseconds) newsTask
        (.ofEvent (headline "first" none (20668 * dayMicroseconds)) 1) := by
      refine ⟨?_, by decide +kernel, by decide +kernel, by decide +kernel⟩
      exact List.mem_cons_self
    exact ⟨evidence, hok, _, (newsEvidence_facts correctedNews.written hok).mpr
      ⟨newsTask, rfl, rfl, _, hcollected, rfl⟩, by decide +kernel⟩

/-- The page of the whole day has the correction of the event that it drops. -/
theorem superseded_news_hidden_iff_whole_day :
    (listNews plainSession correctedNews.tables (newsOfHours 24)).map (·.newsId) = ["second"] ∧
      ∀ row, InPage plainSession correctedNews.tables (newsOfHours 24) row →
        SupersededAt correctedNews.tables (newsOfHours 24).asOf row.newsId →
        ∃ newer, InPage plainSession correctedNews.tables (newsOfHours 24) newer ∧
          newer.Supersedes row.newsId := by
  have hshown : (listNews plainSession correctedNews.tables (newsOfHours 24)).map (·.newsId) =
        ["second"] ∧
      ∀ event ∈ listNews plainSession correctedNews.tables (newsOfHours 24),
        ¬ SupersededAt correctedNews.tables (newsOfHours 24).asOf event.newsId := by
    decide +kernel
  refine ⟨hshown.1, ?_⟩
  exact (@superseded_news_hidden_iff evidenceStore "" .hk 0 0 none 0 plainSession correctedNews _
    rfl [] []).1.mp hshown.2

end MacroPlatform.Evidence
