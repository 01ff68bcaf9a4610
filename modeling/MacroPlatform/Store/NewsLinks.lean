import MacroPlatform.Store.Queries

/-! # Superseded news in `list_news`

A correction of an event is an event of its own that names the one it supersedes. The query
drops what the events of its own page supersede.

* `mem_listNews`: which events of a page are shown;
* `listNews_hides_iff`: when no superseded event is.
-/

namespace MacroPlatform

/-- The regions, entities and topics of the event match the query. -/
def NewsEvent.Tagged (event : NewsEvent) (query : NewsQuery) : Prop :=
  (∃ region ∈ event.regions, region ∈ query.regions) ∧
    (query.entityIds = [] ∨ ∃ entity ∈ event.entities, entity.entityId ∈ query.entityIds) ∧
    (query.topics = [] ∨ ∃ topic ∈ event.topics, topic ∈ query.topics)

instance (event : NewsEvent) (query : NewsQuery) : Decidable (event.Tagged query) :=
  inferInstanceAs (Decidable (_ ∧ _ ∧ _))

namespace Store

open Query

/-! ## Stores of news -/

section

variable {ρ β : Type} {key : ρ → String} {value : ρ → β} {listed : NewsEvent → List β}

/-- A side table has the rows of what each event lists. -/
def Lists (news : List NewsEventRow) (side : List ρ) (key : ρ → String) (value : ρ → β)
    (listed : NewsEvent → List β) : Prop :=
  ∀ row ∈ news, ∀ v, (∃ r ∈ side, key r = row.newsId ∧ value r = v) ↔ v ∈ listed row.payload

/-- The rows of a new event replace those of its id. -/
theorem lists_insert {news : List NewsEventRow} {side more : List ρ} {event : NewsEvent}
    {runId : UUID} (h : Lists news side key value listed)
    (hnew : ∀ other ∈ news, other.newsId ≠ event.newsId)
    (hkey : ∀ r ∈ more, key r = event.newsId) (hmore : more.map value = listed event) :
    Lists (news ++ [NewsEventRow.ofEvent event runId])
      (side.filter (key · ≠ event.newsId) ++ more) key value listed := by
  intro row hrow v
  -- an event that was there keeps its rows, which bear another id
  rcases List.mem_append.mp hrow with hold | hlast
  · have hne : row.newsId ≠ event.newsId := hnew row hold
    rw [← h row hold v]
    constructor
    · rintro ⟨r, hr, hid, hv⟩
      rcases List.mem_append.mp hr with hkept | hadded
      · exact ⟨r, List.mem_of_mem_filter hkept, hid, hv⟩
      · exact absurd (hid.symm.trans (hkey r hadded)) hne
    · rintro ⟨r, hr, hid, hv⟩
      have hkeep : decide (key r ≠ event.newsId) = true := by
        rw [decide_eq_true_eq, hid]
        exact hne
      exact ⟨r, List.mem_append_left _ (List.mem_filter.mpr ⟨hr, hkeep⟩), hid, hv⟩
  -- of the new event the old rows are gone, and the added ones are what it lists
  · rw [List.mem_singleton.mp hlast]
    show _ ↔ v ∈ listed event
    rw [← hmore, List.mem_map]
    constructor
    · rintro ⟨r, hr, hid, hv⟩
      rcases List.mem_append.mp hr with hkept | hadded
      · have hne := (List.mem_filter.mp hkept).2
        rw [decide_eq_true_eq] at hne
        exact absurd hid hne
      · exact ⟨r, hadded, hv⟩
    · rintro ⟨r, hr, hv⟩
      exact ⟨r, List.mem_append_right _ hr, hkey r hr, hv⟩

end

/-- News that `upsert_news_event` wrote: one row for every id, and in the side tables what its
event lists. -/
structure NewsWritten (t : FactTables) : Prop where
  rows : ∀ row ∈ t.news, ∃ event runId, row = NewsEventRow.ofEvent event runId
  news_pkey : (t.news.map (·.newsId)).Nodup
  regions : Lists t.news t.newsRegions (·.newsId) (·.region) (·.regions)
  entities : Lists t.news t.newsEntities (·.newsId) (·.entityId) (·.entities.map (·.entityId))
  topics : Lists t.news t.newsTopics (·.newsId) (·.topic) (·.topics)

/-- An upsert leaves only news that was written. -/
theorem upserted_newsWritten {t t' : FactTables} {u : FactUpsert} (h : NewsWritten t)
    (hu : Upserted t u t') : NewsWritten t' := by
  cases hu with
  -- the facts that are no news write none of these tables
  | same | bar | barRevision | observation | release | releaseRevision =>
    exact ⟨h.rows, h.news_pkey, h.regions, h.entities, h.topics⟩
  | @news event hfact hnew =>
    -- rows, key, and the three side tables
    refine ⟨?_, ?_, ?_, ?_, ?_⟩
    · intro row hrow
      rcases List.mem_append.mp hrow with hold | hlast
      · exact h.rows row hold
      · exact ⟨event, u.ingestionRunId, List.mem_singleton.mp hlast⟩
    · rw [List.map_append, List.nodup_append]
      refine ⟨h.news_pkey, by simp, ?_⟩
      intro id hid id' hid'
      rcases List.mem_map.mp hid with ⟨other, hother, rfl⟩
      simp only [List.map_singleton, List.mem_singleton] at hid'
      rw [hid']
      exact hnew other hother
    · exact lists_insert h.regions hnew (by simp) (by simp [Function.comp_def])
    · exact lists_insert h.entities hnew (by simp) (by simp [Function.comp_def])
    · exact lists_insert h.topics hnew (by simp) (by simp [Function.comp_def])

/-- A fact store whose news was written by its upserts. -/
structure NewsStore extends FactStore where
  written : NewsWritten tables

def NewsStore.upsert (engine : Engine) (s : NewsStore) (u : FactUpsert) : NewsStore where
  toFactStore := s.toFactStore.upsert engine u
  written := upserted_newsWritten s.written (s.toFactStore.upsert_cases engine u)

/-! ## What supersedes an event -/

/-- The row is a correction of the event. -/
def NewsEventRow.Supersedes (newer : NewsEventRow) (newsId : String) : Prop :=
  newer.payload.supersedesNewsId = some newsId

instance (newer : NewsEventRow) (newsId : String) : Decidable (newer.Supersedes newsId) :=
  inferInstanceAs (Decidable (_ = _))

/-- A persisted event that is visible at `asOf` supersedes the event. -/
def SupersededAt (t : FactTables) (asOf : Instant) (newsId : String) : Prop :=
  ∃ newer ∈ t.news, newer.availableAt ≤ asOf ∧ newer.Supersedes newsId

instance (t : FactTables) (asOf : Instant) (newsId : String) :
    Decidable (SupersededAt t asOf newsId) :=
  inferInstanceAs (Decidable (∃ newer ∈ t.news, _ ∧ _))

/-! ## The page of a query -/

/-- The query selects the row, if its limit allows. -/
def NewsEventRow.Selected (row : NewsEventRow) (query : NewsQuery) : Prop :=
  row.matchesQuery query ∧ row.payload.Tagged query

instance (row : NewsEventRow) (query : NewsQuery) : Decidable (row.Selected query) :=
  inferInstanceAs (Decidable (_ ∧ _))

variable (session : Session)

/-- `published_sort_at`. -/
def NewsEventRow.publishedSortAt (row : NewsEventRow) : Option Instant :=
  row.publishedAt.or (row.publishedDate.map session.midnight)

/-- The latest publication first. -/
def newsOrder : SortKey NewsEventRow :=
  lexicographic [desc (nullsLast compare) (·.publishedSortAt session),
    asc session.collate (·.newsId)]

variable (t : FactTables)

/-- The row is selected, and fewer selected rows than the limit come before it. -/
def InPage (query : NewsQuery) (row : NewsEventRow) : Prop :=
  row ∈ t.news ∧ row.Selected query ∧
    (t.news.filter fun other =>
      other.Selected query ∧ newsOrder session other row = .lt).length < query.limit

variable {session t}

/-- A join with a side table finds what the event lists. -/
theorem listed_iff {ρ β : Type} [DecidableEq β] {key : ρ → String} {value : ρ → β}
    {listed : NewsEvent → List β} {side : List ρ} (h : Lists t.news side key value listed)
    {row : NewsEventRow} (hrow : row ∈ t.news) (wanted : List β) :
    (side.filter fun r => key r = row.newsId ∧ value r ∈ wanted).length ≠ 0 ↔
      ∃ v ∈ listed row.payload, v ∈ wanted := by
  rw [← Nat.pos_iff_ne_zero, List.length_pos_iff_exists_mem]
  constructor
  · rintro ⟨r, hr⟩
    obtain ⟨hr, hmatch⟩ := List.mem_filter.mp hr
    rw [decide_eq_true_eq] at hmatch
    exact ⟨value r, (h row hrow (value r)).mp ⟨r, hr, hmatch.1, rfl⟩, hmatch.2⟩
  · rintro ⟨v, hv, hwanted⟩
    obtain ⟨r, hr, hkey, rfl⟩ := (h row hrow v).mpr hv
    exact ⟨r, List.mem_filter.mpr ⟨hr, decide_eq_true ⟨hkey, hwanted⟩⟩⟩

/-- A filter that the query may leave open. -/
theorem openFilter_iff {α : Type} {wanted : List α} {n : ℕ} {p : Prop} (h : n ≠ 0 ↔ p) :
    (if wanted.isEmpty then 1 else n) ≠ 0 ↔ wanted = [] ∨ p := by
  cases wanted with
  | nil => simp
  | cons first rest => simpa using h

/-- The joins keep the events whose tags match. -/
theorem mem_newsRows (h : NewsWritten t) {query : NewsQuery} {row : NewsEventRow} :
    row ∈ newsRows t query ↔ row ∈ t.news ∧ row.Selected query := by
  have hjoin : ∀ event ∈ t.news, ∀ copy, copy ∈ newsJoin t query event ↔
      event.payload.Tagged query ∧ copy = event := by
    intro event hevent copy
    have hregions := listed_iff h.regions hevent query.regions
    have hentities := listed_iff h.entities hevent query.entityIds
    have htopics := listed_iff h.topics hevent query.topics
    simp only [List.mem_map, exists_exists_and_eq_and] at hentities
    unfold newsJoin NewsEvent.Tagged
    rw [List.mem_replicate, Nat.mul_ne_zero_iff, Nat.mul_ne_zero_iff, hregions,
      openFilter_iff hentities, openFilter_iff htopics]
    simp only [and_assoc]
  unfold newsRows NewsEventRow.Selected
  rw [List.mem_flatMap]
  constructor
  · rintro ⟨event, hevent, hcopy⟩
    rcases List.mem_filter.mp hevent with ⟨hmem, hmatches⟩
    rcases (hjoin event hmem row).mp hcopy with ⟨htagged, rfl⟩
    exact ⟨hmem, hmatches, htagged⟩
  · rintro ⟨hmem, hmatches, htagged⟩
    exact ⟨row, List.mem_filter.mpr ⟨hmem, hmatches⟩, (hjoin row hmem row).mpr ⟨htagged, rfl⟩⟩

variable (session) in
/-- The columns that the query reads of a row. -/
def NewsEventRow.selection (row : NewsEventRow) : NewsSelection :=
  { payload := row.payload
    publishedAt := row.publishedAt
    newsId := row.newsId
    publishedSortAt := row.publishedSortAt session }

variable (session t) in
/-- The events of the page. -/
def newsPage (query : NewsQuery) : List NewsSelection :=
  (session.orderBy (lexicographic [desc (nullsLast compare) (·.publishedSortAt),
    asc session.collate (·.newsId)])
      (distinct ((newsRows t query).map (·.selection session)))).take query.limit

/-- The page has the selected rows that fewer than the limit come before. -/
theorem mem_newsPage (h : NewsWritten t) {query : NewsQuery} {selection : NewsSelection} :
    selection ∈ newsPage session t query ↔
      ∃ row, InPage session t query row ∧ row.selection session = selection := by
  have := session.collate_eq
  have := session.collate_trans
  let order : SortKey NewsSelection := lexicographic
    [desc (nullsLast compare) (·.publishedSortAt), asc session.collate (·.newsId)]
  let rows := distinct ((newsRows t query).map (·.selection session))
  let selected := t.news.filter (·.Selected query)
  have hinj : ∀ a ∈ t.news, ∀ b ∈ t.news, a.newsId = b.newsId → a = b :=
    fun a ha b hb hid => List.inj_on_of_nodup_map h.news_pkey ha hb hid
  -- the selected rows, each once
  have hmem : ∀ selection, selection ∈ rows ↔
      ∃ row, (row ∈ t.news ∧ row.Selected query) ∧ row.selection session = selection := by
    intro selection
    rw [mem_distinct, List.mem_map]
    simp only [mem_newsRows h]
  have hperm : rows.Perm (selected.map (·.selection session)) := by
    refine (List.perm_ext_iff_of_nodup (distinct_nodup _) ?_).mpr ?_
    · refine List.Nodup.map_on ?_ ((List.Nodup.of_map _ h.news_pkey).filter _)
      intro a ha b hb hab
      exact hinj a (List.mem_of_mem_filter ha) b (List.mem_of_mem_filter hb)
        (congrArg NewsSelection.newsId hab)
    · intro selection
      rw [hmem, List.mem_map]
      simp [selected]
  have hties : ∀ a ∈ rows, ∀ b ∈ rows, order a b = .eq → a = b := by
    intro a ha b hb htie
    obtain ⟨rowA, ⟨hrowA, -⟩, rfl⟩ := (hmem a).mp ha
    obtain ⟨rowB, ⟨hrowB, -⟩, rfl⟩ := (hmem b).mp hb
    have hid := (lexicographic_cons_eq.mp (lexicographic_cons_eq.mp htie).2).1
    have hsame : rowA.newsId = rowB.newsId := Std.LawfulEqCmp.compare_eq_iff_eq.mp hid
    rw [hinj rowA hrowA rowB hrowB hsame]
  have hstrict := session.orderBy_strict (distinct_nodup _) hties
  have hcount : ∀ row : NewsEventRow,
      ((session.orderBy order rows).filter fun other =>
        order other (row.selection session) = .lt).length =
      (t.news.filter fun other =>
        other.Selected query ∧ newsOrder session other row = .lt).length := by
    intro row
    have hall := (session.orderBy_perm order rows).trans hperm
    rw [(hall.filter _).length_eq, List.filter_map, List.length_map, List.filter_filter]
    congr 1
    apply List.filter_congr
    intro other _
    exact (Bool.decide_and _ _).symm.trans (decide_eq_decide.mpr and_comm)
  constructor
  · intro hselection
    have hordered := List.mem_of_mem_take hselection
    obtain ⟨row, hrow, rfl⟩ := (hmem selection).mp ((session.mem_orderBy order).mp hordered)
    have hlt := (mem_take_iff hstrict hordered query.limit).mp hselection
    rw [hcount row] at hlt
    exact ⟨row, ⟨hrow.1, hrow.2, hlt⟩, rfl⟩
  · rintro ⟨row, ⟨hmemRow, hselected, hlt⟩, rfl⟩
    have hordered : row.selection session ∈ session.orderBy order rows :=
      (session.mem_orderBy order).mpr ((hmem _).mpr ⟨row, ⟨hmemRow, hselected⟩, rfl⟩)
    refine (mem_take_iff hstrict hordered query.limit).mpr ?_
    rw [hcount row]
    exact hlt

/-! ## The query -/

theorem limitNewsContent_newsId (query : NewsQuery) (event : NewsEvent) :
    (limitNewsContent query event).newsId = event.newsId := by
  unfold limitNewsContent
  cases query.contentMode <;> rfl

theorem payload_newsId (h : NewsWritten t) {row : NewsEventRow} (hrow : row ∈ t.news) :
    row.payload.newsId = row.newsId := by
  rcases h.rows row hrow with ⟨event, runId, rfl⟩
  rfl

/-- An event of the page is dropped when another event of the page supersedes it. -/
theorem mem_listNews (h : NewsWritten t) {query : NewsQuery}
    (hquery : query.includeSuperseded = false) {event : NewsEvent} :
    event ∈ listNews session t query ↔
      ∃ row, InPage session t query row ∧
        (¬ ∃ newer, InPage session t query newer ∧ newer.Supersedes row.newsId) ∧
        limitNewsContent query row.payload = event := by
  -- the query works on payloads, each of which is that of a row of the page
  have hpage : ∀ payload, payload ∈ (newsPage session t query).map (·.payload) ↔
      ∃ row, InPage session t query row ∧ row.payload = payload := by
    intro payload
    rw [List.mem_map]
    constructor
    · rintro ⟨selection, hselection, rfl⟩
      obtain ⟨row, hrow, rfl⟩ := (mem_newsPage h).mp hselection
      exact ⟨row, hrow, rfl⟩
    · rintro ⟨row, hrow, rfl⟩
      exact ⟨row.selection session, (mem_newsPage h).mpr ⟨row, hrow, rfl⟩, rfl⟩
  have hsuperseded : ∀ newsId,
      newsId ∈ ((newsPage session t query).map (·.payload)).filterMap (·.supersedesNewsId) ↔
        ∃ newer, InPage session t query newer ∧ newer.Supersedes newsId := by
    intro newsId
    rw [List.mem_filterMap]
    constructor
    · rintro ⟨payload, hpayload, hlink⟩
      obtain ⟨newer, hnewer, rfl⟩ := (hpage payload).mp hpayload
      exact ⟨newer, hnewer, hlink⟩
    · rintro ⟨newer, hnewer, hlink⟩
      exact ⟨newer.payload, (hpage _).mpr ⟨newer, hnewer, rfl⟩, hlink⟩
  have hlist : listNews session t query =
      (((newsPage session t query).map (·.payload)).filter (·.newsId ∉
        ((newsPage session t query).map (·.payload)).filterMap (·.supersedesNewsId))).map
        (limitNewsContent query) := by
    unfold listNews
    rw [hquery]
    rfl
  -- dropped are the payloads that are superseded within the page
  rw [hlist, List.mem_map]
  constructor
  · rintro ⟨payload, hpayload, rfl⟩
    obtain ⟨hmem, hkept⟩ := List.mem_filter.mp hpayload
    obtain ⟨row, hrow, rfl⟩ := (hpage payload).mp hmem
    rw [decide_eq_true_eq, hsuperseded, payload_newsId h hrow.1] at hkept
    exact ⟨row, hrow, hkept, rfl⟩
  · rintro ⟨row, hrow, hkept, rfl⟩
    refine ⟨row.payload, List.mem_filter.mpr ⟨(hpage _).mpr ⟨row, hrow, rfl⟩, ?_⟩, rfl⟩
    rw [decide_eq_true_eq, hsuperseded, payload_newsId h hrow.1]
    exact hkept

/-- No superseded event is shown exactly when the page has a correction of each of its events
that a visible event supersedes. -/
theorem listNews_hides_iff (h : NewsWritten t) {query : NewsQuery}
    (hquery : query.includeSuperseded = false) :
    (∀ event ∈ listNews session t query, ¬ SupersededAt t query.asOf event.newsId) ↔
      ∀ row, InPage session t query row → SupersededAt t query.asOf row.newsId →
        ∃ newer, InPage session t query newer ∧ newer.Supersedes row.newsId := by
  constructor
  · intro hhides row hrow hsuperseded
    by_contra hnone
    have hshown : limitNewsContent query row.payload ∈ listNews session t query :=
      (mem_listNews h hquery).mpr ⟨row, hrow, hnone, rfl⟩
    have hid : (limitNewsContent query row.payload).newsId = row.newsId := by
      rw [limitNewsContent_newsId, payload_newsId h hrow.1]
    exact hhides _ hshown (hid ▸ hsuperseded)
  · intro hpage event hevent hsuperseded
    obtain ⟨row, hrow, hkept, rfl⟩ := (mem_listNews h hquery).mp hevent
    rw [limitNewsContent_newsId, payload_newsId h hrow.1] at hsuperseded
    exact hkept (hpage row hrow hsuperseded)

end Store

end MacroPlatform
