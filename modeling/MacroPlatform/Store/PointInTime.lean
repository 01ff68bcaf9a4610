import MacroPlatform.Lib.Transition
import MacroPlatform.Store.Queries

/-! # No look-ahead

What a query at `asOf` selects does not depend on facts that become available later. A
late upsert appends rows that no selection takes, and cannot give a row to a revision that
was there before it, for that revision had its row already.

* `upserted_sameAnswers`: a late upsert changes no answer;
* `no_look_ahead`: no run of late upserts does.
-/

namespace MacroPlatform.Store

open Query Transition

/-- Rows that a selection does not take may be appended. -/
theorem filter_append_of_not {α : Type} {l more : List α} {p : α → Bool}
    (h : ∀ x ∈ more, p x = false) : (l ++ more).filter p = l.filter p := by
  have hmore : more.filter p = [] := by
    apply List.filter_eq_nil_iff.mpr
    intro x hx
    simp [h x hx]
  rw [List.filter_append, hmore, List.append_nil]

/-! ## The selections -/

variable {t t' : FactTables} {u : FactUpsert} {asOf : Instant}

/-- A later upsert is not seen among the bars. -/
theorem barVersions_upserted (h : t.Consistent) (hu : Upserted t u t')
    (hlate : asOf < u.fact.availableAt) : barVersions t' asOf = barVersions t asOf := by
  cases hu with
  | same | observation | release | releaseRevision | news => rfl
  | @bar bar hfact hnew =>
    rw [hfact] at hlate
    have hbase : (t.bars ++ [MarketBarRow.ofBar bar u.ingestionRunId]).filter
        (·.availableAt ≤ asOf) = t.bars.filter (·.availableAt ≤ asOf) := by
      apply filter_append_of_not
      intro row hrow
      rw [List.mem_singleton.mp hrow]
      exact decide_eq_false (not_le_of_gt hlate)
    -- the new row has a key of its own, and every revision has its row already
    have hjoin : ∀ revision ∈ t.barRevisions,
        (t.bars ++ [MarketBarRow.ofBar bar u.ingestionRunId]).filter
            (·.barId = revision.barId) = t.bars.filter (·.barId = revision.barId) := by
      intro revision hrevision
      obtain ⟨row, hrow, hid⟩ := h.bar_revision_fkey revision hrevision
      apply filter_append_of_not
      intro other hother
      rw [List.mem_singleton.mp hother]
      refine decide_eq_false ?_
      intro hsame
      exact hnew row hrow (hid.trans hsame.symm)
    unfold barVersions
    rw [hbase]
    congr 1
    apply List.flatMap_congr
    intro revision hrevision
    rw [hjoin revision (List.mem_of_mem_filter hrevision)]
  | @barRevision bar hfact _ _ =>
    rw [hfact] at hlate
    unfold barVersions
    rw [filter_append_of_not]
    intro row hrow
    rw [List.mem_singleton.mp hrow]
    exact decide_eq_false (not_le_of_gt hlate)

/-- Nor among the observations. -/
theorem observationRows_upserted (hu : Upserted t u t') {query : MacroObservationQuery}
    (hlate : query.asOf < u.fact.availableAt) :
    observationRows t' query = observationRows t query := by
  cases hu with
  | same | bar | barRevision | release | releaseRevision | news => rfl
  | @observation observation hfact =>
    rw [hfact] at hlate
    apply filter_append_of_not
    intro row hrow
    rw [List.mem_singleton.mp hrow]
    refine decide_eq_false ?_
    rintro ⟨-, -, -, havailable⟩
    exact not_le_of_gt hlate havailable

/-- Nor among the releases. -/
theorem releaseVersions_upserted (h : t.Consistent) (hu : Upserted t u t')
    {query : MacroReleaseQuery} (hlate : query.asOf < u.fact.availableAt) :
    releaseVersions t' query = releaseVersions t query := by
  cases hu with
  | same | bar | barRevision | observation | news => rfl
  -- a new row is not available yet
  | @release release hfact hnew =>
    rw [hfact] at hlate
    have hbase : (t.releases ++ [MacroReleaseRow.ofRelease release u.ingestionRunId]).filter
        (fun row => row.scheduledIn query ∧ row.availableAt ≤ query.asOf) =
        t.releases.filter fun row => row.scheduledIn query ∧ row.availableAt ≤ query.asOf := by
      apply filter_append_of_not
      intro row hrow
      rw [List.mem_singleton.mp hrow]
      refine decide_eq_false ?_
      rintro ⟨-, havailable⟩
      exact not_le_of_gt hlate havailable
    -- it is of a release of its own, so no revision is joined with it
    have hjoin : ∀ revision ∈ t.releaseRevisions,
        (t.releases ++ [MacroReleaseRow.ofRelease release u.ingestionRunId]).filter
            (fun row => row.releaseId = revision.releaseId ∧ row.scheduledIn query) =
          t.releases.filter fun row =>
            row.releaseId = revision.releaseId ∧ row.scheduledIn query := by
      intro revision hrevision
      obtain ⟨row, hrow, hid⟩ := h.release_revision_fkey revision hrevision
      apply filter_append_of_not
      intro other hother
      rw [List.mem_singleton.mp hother]
      refine decide_eq_false ?_
      rintro ⟨hsame, -⟩
      exact hnew row hrow (hid.trans hsame.symm)
    unfold releaseVersions
    rw [hbase]
    congr 1
    apply List.flatMap_congr
    intro revision hrevision
    rw [hjoin revision (List.mem_of_mem_filter hrevision)]
  -- a revision that was added is not available yet
  | @releaseRevision release hfact _ =>
    rw [hfact] at hlate
    unfold releaseVersions
    rw [filter_append_of_not]
    intro row hrow
    rw [List.mem_singleton.mp hrow]
    exact decide_eq_false (not_le_of_gt hlate)

/-- The tags of an event are neither deleted nor added with another event. -/
theorem filter_tags {α : Type} (l more : List α) (newsId : α → String) (p : α → Prop)
    [DecidablePred p] {id id' : String} (hid : id ≠ id') (hmore : ∀ x ∈ more, newsId x = id') :
    (l.filter (fun x => newsId x ≠ id') ++ more).filter (fun x => newsId x = id ∧ p x) =
      l.filter fun x => newsId x = id ∧ p x := by
  rw [filter_append_of_not, List.filter_filter]
  · apply List.filter_congr
    intro x _
    by_cases hx : newsId x = id
    · simp [hx, hid]
    · simp [hx]
  · intro x hx
    refine decide_eq_false ?_
    rintro ⟨hsame, -⟩
    exact hid (hsame.symm.trans (hmore x hx))

/-- A new event does not touch the row of another one. -/
theorem newsJoin_upserted {event : NewsEvent} {row : NewsEventRow}
    (hrow : row.newsId ≠ event.newsId) (query : NewsQuery) (ingestionRunId : UUID) :
    newsJoin { t with
      news := t.news ++ [NewsEventRow.ofEvent event ingestionRunId]
      newsRegions := t.newsRegions.filter (·.newsId ≠ event.newsId) ++
        event.regions.map fun region => ⟨event.newsId, region⟩
      newsEntities := t.newsEntities.filter (·.newsId ≠ event.newsId) ++
        event.entities.map fun entity => ⟨event.newsId, entity.entityId, entity.entityType⟩
      newsTopics := t.newsTopics.filter (·.newsId ≠ event.newsId) ++
        event.topics.map fun topic => ⟨event.newsId, topic⟩ } query row =
      newsJoin t query row := by
  have hregions := filter_tags t.newsRegions
    (event.regions.map fun region => ⟨event.newsId, region⟩) (·.newsId)
    (fun r => r.region ∈ query.regions) hrow (by simp)
  have hentities := filter_tags t.newsEntities
    (event.entities.map fun entity => ⟨event.newsId, entity.entityId, entity.entityType⟩)
    (·.newsId) (fun e => e.entityId ∈ query.entityIds) hrow (by simp)
  have htopics := filter_tags t.newsTopics
    (event.topics.map fun topic => ⟨event.newsId, topic⟩) (·.newsId)
    (fun c => c.topic ∈ query.topics) hrow (by simp)
  simp only [newsJoin, hregions, hentities, htopics]

/-- A later upsert is not seen among the news. -/
theorem newsRows_upserted (hu : Upserted t u t') {query : NewsQuery}
    (hlate : query.asOf < u.fact.availableAt) : newsRows t' query = newsRows t query := by
  cases hu with
  | same | bar | barRevision | observation | release | releaseRevision => rfl
  | @news event hfact hnew =>
    rw [hfact] at hlate
    unfold newsRows
    rw [filter_append_of_not]
    · apply List.flatMap_congr
      intro row hrow
      exact newsJoin_upserted (hnew row (List.mem_of_mem_filter hrow)) query u.ingestionRunId
    · intro row hrow
      rw [List.mem_singleton.mp hrow]
      have havailable : ¬ event.availableAt ≤ query.asOf := not_le_of_gt hlate
      simp [NewsEventRow.matchesQuery, NewsEventRow.ofEvent, havailable]

/-! ## The answers -/

/-- Two stores that no query at `asOf` tells apart. -/
structure SameAnswers (session : Session) (asOf : Instant) (t t' : FactTables) : Prop where
  bars : ∀ query : BarQuery, query.asOf = asOf →
    listBars session t' query = listBars session t query
  snapshots : ∀ query : MarketSnapshotQuery, query.asOf = asOf →
    listSnapshots session t' query = listSnapshots session t query
  observations : ∀ query : MacroObservationQuery, query.asOf = asOf →
    listMacroObservations session t' query = listMacroObservations session t query
  releases : ∀ query : MacroReleaseQuery, query.asOf = asOf →
    listMacroReleases session t' query = listMacroReleases session t query
  news : ∀ query : NewsQuery, query.asOf = asOf →
    listNews session t' query = listNews session t query

theorem SameAnswers.refl (session : Session) (asOf : Instant) (t : FactTables) :
    SameAnswers session asOf t t :=
  ⟨fun _ _ => rfl, fun _ _ => rfl, fun _ _ => rfl, fun _ _ => rfl, fun _ _ => rfl⟩

theorem SameAnswers.trans {session : Session} {t'' : FactTables}
    (h : SameAnswers session asOf t t') (h' : SameAnswers session asOf t' t'') :
    SameAnswers session asOf t t'' :=
  ⟨fun query hquery => (h'.bars query hquery).trans (h.bars query hquery),
    fun query hquery => (h'.snapshots query hquery).trans (h.snapshots query hquery),
    fun query hquery => (h'.observations query hquery).trans (h.observations query hquery),
    fun query hquery => (h'.releases query hquery).trans (h.releases query hquery),
    fun query hquery => (h'.news query hquery).trans (h.news query hquery)⟩

/-- A query sees the store through its selection only. -/
theorem upserted_sameAnswers (session : Session) (h : t.Consistent) (hu : Upserted t u t')
    (hlate : asOf < u.fact.availableAt) : SameAnswers session asOf t t' := by
  -- bars and snapshots select from the current versions
  have hcurrent : currentMarketBarVersions session t' asOf =
      currentMarketBarVersions session t asOf := by
    unfold currentMarketBarVersions
    rw [barVersions_upserted h hu hlate]
  constructor
  · rintro query rfl
    unfold listBars
    rw [hcurrent]
  · rintro query rfl
    unfold listSnapshots
    rw [hcurrent]
  · rintro query rfl
    unfold listMacroObservations
    rw [observationRows_upserted hu hlate]
  · rintro query rfl
    unfold listMacroReleases
    rw [releaseVersions_upserted h hu hlate]
  · rintro query rfl
    unfold listNews
    rw [newsRows_upserted hu hlate]

/-- The upserts, one after another. -/
def UpsertNext (engine : Engine) : Action FactStore FactUpsert :=
  ofNext fun s u => some (s.upsert engine u)

/-- No run of upserts that become available after `asOf` changes an answer at `asOf`. -/
theorem no_look_ahead (session : Session) (engine : Engine) (asOf : Instant) {s s' : FactStore}
    {us : List FactUpsert} (hrun : Run (UpsertNext engine) s us s')
    (hlate : ∀ u ∈ us, asOf < u.fact.availableAt) :
    SameAnswers session asOf s.tables s'.tables := by
  have hstep : ∀ (s₁ : FactStore) (u : FactUpsert) (s₂ : FactStore),
      guarded (UpsertNext engine) (fun _ u => asOf < u.fact.availableAt) s₁ u s₂ →
      True → SameAnswers session asOf s₁.tables s₂.tables := by
    rintro s₁ u s₂ ⟨hu, ⟨⟩⟩ -
    exact upserted_sameAnswers session s₁.consistent (s₁.upsert_cases engine u) hu
  have htrans : ∀ s₁ s₂ s₃ : FactStore, SameAnswers session asOf s₁.tables s₂.tables →
      SameAnswers session asOf s₂.tables s₃.tables →
      SameAnswers session asOf s₁.tables s₃.tables := by
    intro s₁ s₂ s₃ h h'
    exact h.trans h'
  exact run_rel (fun _ => True)
    (fun s₁ s₂ : FactStore => SameAnswers session asOf s₁.tables s₂.tables)
    (fun _ _ _ _ _ => trivial) (fun s₁ => SameAnswers.refl session asOf s₁.tables) htrans hstep
    (run_guarded_of_labels hrun hlate) trivial

/-- A daily bar with the given checksum. -/
def spyBar (availableAt : Instant) (close : DecimalValue) (checksum : String) : MarketBar :=
  { barId := "bar_spy"
    instrumentId := "ins_us_etf_spy"
    canonicalSymbol := "ARCX:SPY"
    region := .us
    interval := .d1
    barStart := 0
    barEnd := 4
    tradingDate := 0
    «open» := 1
    high := 3
    low := 1
    close := close
    volume := none
    currency := "USD"
    adjustment := .raw
    availableAt := availableAt
    source := ⟨"twelve_data", "spy-0", "Twelve Data", checksum⟩ }

def emptyFacts : FactStore where
  tables := ⟨["ins_us_etf_spy"], [], [], [], [], [], [], [], [], [], []⟩
  consistent := ⟨.nil, .nil, by simp, by simp⟩

def plainSession : Session := { Engine.plain with midnight := fun day => day * dayMicroseconds }

def spySnapshots : MarketSnapshotQuery := { instrumentIds := ["ins_us_etf_spy"], asOf := 10 }

/-- A bar, and after the time of the query its revision. -/
def spyRevised : FactStore :=
  (emptyFacts.upsert .plain ⟨1, .bar (spyBar 5 2 "a")⟩).upsert .plain ⟨2, .bar (spyBar 20 3 "b")⟩

theorem no_look_ahead_spyRevised :
    SameAnswers plainSession 10 (emptyFacts.upsert .plain ⟨1, .bar (spyBar 5 2 "a")⟩).tables
        spyRevised.tables ∧
      (listSnapshots plainSession spyRevised.tables spySnapshots).map (·.last) = [2] ∧
      (listSnapshots plainSession spyRevised.tables { spySnapshots with asOf := 20 }).map (·.last) =
        [3] := by
  have hrun : Run (UpsertNext .plain) (emptyFacts.upsert .plain ⟨1, .bar (spyBar 5 2 "a")⟩)
      [⟨2, .bar (spyBar 20 3 "b")⟩] spyRevised := .cons rfl (.nil _)
  refine ⟨no_look_ahead plainSession .plain 10 hrun ?_, rfl, rfl⟩
  decide

end MacroPlatform.Store
