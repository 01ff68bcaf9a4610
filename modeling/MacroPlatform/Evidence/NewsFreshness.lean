import MacroPlatform.Evidence.News
import MacroPlatform.Evidence.Soundness

/-! # When the news evidence is fresh

Headlines are selected by when they were published, on the day for those without a time, and
they age from when they were first seen. Every selected headline counts.

* `news_evidence_usable_iff_fresh`: when collected headlines can be used;
* `old_headline_makes_stale`: one old headline.
-/

namespace MacroPlatform.Evidence

open Query Schedule Store

/-- A row of an event repeats its columns. -/
theorem payload_availableAt {t : FactTables} (h : NewsWritten t) {row : NewsEventRow}
    (hrow : row ∈ t.news) : row.payload.availableAt = row.availableAt := by
  rcases h.rows row hrow with ⟨event, runId, rfl⟩
  rfl

variable {engine : Engine} {store : PostgresReportInputEvidenceStore} {t : EvidenceTables}
  {inputId : String} {region : Region} {asOf cutoffAt : Instant} {task : ScheduledTaskResult}

/-- With a headline collected, the evidence is made of the headlines. -/
theorem newsEvidence_collected (h : NewsWritten t.facts)
    (hsucceeded : task.status = .succeeded)
    (hunrejected : taskRejectionCount (some task) t.rejections = 0)
    (hcollected : ∃ row, Collected t region cutoffAt task row) :
    newsEvidence engine store t inputId region asOf cutoffAt (some task)
        (taskRejectionCount (some task) t.rejections) =
      .ok (eventsEvidence store inputId cutoffAt ((newsByCutoff engine t.facts
        ⟨region, (committedTaskPages t.pages task).providerRecordIds, cutoffAt⟩).map
          (·.payload))) := by
  rcases hcollected with ⟨row, hrow⟩
  have hrecord := hrow.2.2.2.2.1
  rcases committed_of_record hrecord with ⟨hpages, hruns⟩
  have hproblem : taskProblem inputId (some task)
      (taskRejectionCount (some task) t.rejections) = none :=
    taskProblem_eq_none.mpr ⟨hunrejected, task, rfl, hsucceeded, hruns⟩
  have hmem : row ∈ newsByCutoff engine t.facts
      ⟨region, (committedTaskPages t.pages task).providerRecordIds, cutoffAt⟩ :=
    (mem_newsByCutoff h).mpr hrow
  unfold newsEvidence
  simp only [hproblem, if_neg hpages, if_neg (List.ne_nil_of_mem hmem)]

/-- News evidence with a headline collected can be used exactly when every headline that it
collects was first seen within the freshness window before the cutoff. -/
theorem news_evidence_usable_iff_fresh (engine : Engine)
    (store : PostgresReportInputEvidenceStore) (s : NewsStore)
    (pages : List Ingestion.IngestPageCommit) (rejections : List UUID) (inputId : String)
    (region : Region) (asOf cutoffAt : Instant) (task : ScheduledTaskResult)
    (hsucceeded : task.status = .succeeded)
    (hunrejected : taskRejectionCount (some task) rejections = 0)
    (hfresh : ∃ row, Collected ⟨s.tables, pages, rejections⟩ region cutoffAt task row ∧
      cutoffAt - row.availableAt ≤ store.newsMaxAge) :
    (∃ evidence, newsEvidence engine store ⟨s.tables, pages, rejections⟩ inputId region asOf
        cutoffAt (some task) (taskRejectionCount (some task) rejections) = .ok evidence ∧
        (evidence.status = .available ∨ evidence.status = .revised)) ↔
      ∀ row, Collected ⟨s.tables, pages, rejections⟩ region cutoffAt task row →
        cutoffAt - row.availableAt ≤ store.newsMaxAge := by
  rcases hfresh with ⟨fresh, hfresh, -⟩
  have hok : newsEvidence engine store ⟨s.tables, pages, rejections⟩ inputId region asOf cutoffAt
      (some task) (taskRejectionCount (some task) rejections) = .ok _ :=
    newsEvidence_collected s.written hsucceeded hunrejected ⟨fresh, hfresh⟩
  have hmem : ∀ row, row ∈ newsByCutoff engine s.tables
      ⟨region, (committedTaskPages pages task).providerRecordIds, cutoffAt⟩ ↔
        Collected ⟨s.tables, pages, rejections⟩ region cutoffAt task row :=
    fun row => mem_newsByCutoff s.written
  -- the events are those of the rows, with the times of the rows
  have hevents : ∀ p : Instant → Prop, (∀ availableAt ∈ ((newsByCutoff engine s.tables
      ⟨region, (committedTaskPages pages task).providerRecordIds, cutoffAt⟩).map
        (·.payload)).map (·.availableAt), p availableAt) ↔
      ∀ row, Collected ⟨s.tables, pages, rejections⟩ region cutoffAt task row →
        p row.availableAt := by
    intro p
    simp only [List.map_map, List.forall_mem_map, Function.comp_apply]
    constructor
    · intro hall row hrow
      rw [← payload_availableAt s.written hrow.1]
      exact hall row ((hmem row).mpr hrow)
    · intro hall row hrow
      have hcollected := (hmem row).mp hrow
      rw [payload_availableAt s.written hcollected.1]
      exact hall row hcollected
  have hcutoff := (hevents (· ≤ cutoffAt)).mpr fun row hrow => hrow.2.1
  have hstatus : (eventsEvidence store inputId cutoffAt ((newsByCutoff engine s.tables
      ⟨region, (committedTaskPages pages task).providerRecordIds, cutoffAt⟩).map
        (·.payload))).status.Usable ↔ _ := sourceStatus_usable hcutoff
  rw [← hevents fun availableAt => cutoffAt - availableAt ≤ store.newsMaxAge, ← hstatus]
  constructor
  · rintro ⟨evidence, hevidence, husable⟩
    rw [hok] at hevidence
    rw [Except.ok.inj hevidence]
    exact husable
  · intro husable
    exact ⟨_, hok, husable⟩

/-! ## A headline of the day before -/

/-- A headline of 2026-08-03 without a time, as it is first seen at a given time. -/
def datedHeadline (newsId : String) (availableAt : Instant) : NewsEvent :=
  { headline newsId none availableAt with
    publishedAt := none
    publishedDate := some 20668 }

/-- Monday's run at 08:05 of Shanghai saw the first, Tuesday's at 07:50 the second as well. -/
def datedNews : NewsStore :=
  (emptyNews.upsert .plain ⟨1, .news (datedHeadline "first" (utc 20668 0 5))⟩).upsert .plain
    ⟨2, .news (datedHeadline "second" (utc 20668 23 50))⟩

/-- At Tuesday's cutoff of 08:15 the first is 24 hours and 10 minutes old. -/
theorem old_headline_makes_stale :
    (∃ row, Collected ⟨datedNews.tables, [newsPageCommit], []⟩ .hk (utc 20669 0 15) newsTask
      row ∧ utc 20669 0 15 - row.availableAt ≤ evidenceStore.newsMaxAge) ∧
    ∃ evidence, newsEvidence .plain evidenceStore ⟨datedNews.tables, [newsPageCommit], []⟩
        "news.hk.official_headlines_24h" .hk (utc 20669 0 15) (utc 20669 0 15) (some newsTask)
        (taskRejectionCount (some newsTask) []) = .ok evidence ∧ evidence.status = .stale := by
  constructor
  · refine ⟨.ofEvent (datedHeadline "second" (utc 20668 23 50)) 2,
      ⟨?_, by decide +kernel, by decide +kernel, by decide +kernel⟩, by decide +kernel⟩
    exact List.mem_cons_of_mem _ List.mem_cons_self
  · have hstatus : (newsEvidence .plain evidenceStore
        ⟨datedNews.tables, [newsPageCommit], []⟩ "news.hk.official_headlines_24h" .hk
        (utc 20669 0 15) (utc 20669 0 15) (some newsTask)
        (taskRejectionCount (some newsTask) [])).map (·.status) = .ok .stale := by
      decide +kernel
    have hanswers : ∃ evidence, newsEvidence .plain evidenceStore
        ⟨datedNews.tables, [newsPageCommit], []⟩ "news.hk.official_headlines_24h" .hk
        (utc 20669 0 15) (utc 20669 0 15) (some newsTask)
        (taskRejectionCount (some newsTask) []) = .ok evidence := newsEvidence_answers _
    rcases hanswers with ⟨evidence, hok⟩
    rw [hok] at hstatus
    exact ⟨evidence, hok, Except.ok.inj hstatus⟩

/-- At the cutoff of Tuesday 00:05 the first is a day old, which is in time. -/
theorem news_evidence_usable_iff_fresh_in_time :
    ∃ evidence, newsEvidence .plain evidenceStore ⟨datedNews.tables, [newsPageCommit], []⟩
      "news.hk.official_headlines_24h" .hk (utc 20669 0 5) (utc 20669 0 5) (some newsTask)
      (taskRejectionCount (some newsTask) []) = .ok evidence ∧
      (evidence.status = .available ∨ evidence.status = .revised) := by
  have hfresh : ∃ row, Collected ⟨datedNews.tables, [newsPageCommit], []⟩ .hk (utc 20669 0 5)
      newsTask row ∧ utc 20669 0 5 - row.availableAt ≤ evidenceStore.newsMaxAge := by
    refine ⟨.ofEvent (datedHeadline "first" (utc 20668 0 5)) 1,
      ⟨?_, by decide +kernel, by decide +kernel, by decide +kernel⟩, by decide +kernel⟩
    exact List.mem_cons_self
  refine (news_evidence_usable_iff_fresh .plain evidenceStore datedNews [newsPageCommit] []
    "news.hk.official_headlines_24h" .hk (utc 20669 0 5) (utc 20669 0 5) newsTask rfl rfl
    hfresh).mpr ?_
  intro row hrow
  have hages : ∀ row ∈ datedNews.tables.news,
      utc 20669 0 5 - row.availableAt ≤ evidenceStore.newsMaxAge := by
    decide +kernel
  exact hages row hrow.1

end MacroPlatform.Evidence
