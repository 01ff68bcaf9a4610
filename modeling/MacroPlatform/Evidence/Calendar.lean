import Mathlib.Data.List.Pairwise
import MacroPlatform.Evidence.Market
import MacroPlatform.Store.ReleaseHistory

/-! # Releases where they are scheduled

A release can be rescheduled: its identity stays and a revision carries the new schedule. The
queries look for releases in a window of time, `list_macro_releases` and the calendar query of
the report, and compare the window with the columns of the release's row.

* `releaseVersion_row`: the columns of a version are those of its row;
* `rescheduled_found_iff`: when both queries find the releases where they now are;
* `movedRelease_not_found`: a release that neither finds.
-/

namespace MacroPlatform.Evidence

open History Query Store

/-! ## The calendar query -/

/-- A row of `_macro_release_versions`. -/
structure ReleaseEvidenceVersion where
  releaseId : String
  region : Region
  scheduledAt : Option Instant
  scheduledDate : Option Day
  availableAt : Instant
  providerRecordId : String
  revisionRank : ℕ
  evidenceRank : ℕ
  sourceChecksum : Option String
  payload : MacroRelease

def releaseBaseVersion (runIds : List UUID) (row : MacroReleaseRow) : ReleaseEvidenceVersion :=
  { releaseId := row.releaseId
    region := row.region
    scheduledAt := row.scheduledAt
    scheduledDate := row.scheduledDate
    availableAt := row.availableAt
    providerRecordId := row.payload.source.providerRecordId
    revisionRank := 0
    evidenceRank := evidenceRank runIds row.ingestionRunId
    sourceChecksum := row.sourceChecksumSha256
    payload := row.payload }

def releaseRevisionVersion (runIds : List UUID) (revision : MacroReleaseRevisionRow)
    (row : MacroReleaseRow) : ReleaseEvidenceVersion :=
  { releaseId := row.releaseId
    region := row.region
    scheduledAt := row.scheduledAt
    scheduledDate := row.scheduledDate
    availableAt := revision.availableAt
    providerRecordId := revision.payload.source.providerRecordId
    revisionRank := 1
    evidenceRank := evidenceRank runIds revision.ingestionRunId
    sourceChecksum := some revision.sourceChecksumSha256
    payload := revision.payload }

/-- The versions that were available: `base_versions` and `revision_versions`. -/
def releaseEvidenceVersions (t : FactTables) (runIds : List UUID) (availableAt : Instant) :
    List ReleaseEvidenceVersion :=
  (t.releases.filter (·.availableAt ≤ availableAt)).map (releaseBaseVersion runIds) ++
    (t.releaseRevisions.filter (·.availableAt ≤ availableAt)).flatMap fun revision =>
      (t.releases.filter (·.releaseId = revision.releaseId)).map
        (releaseRevisionVersion runIds revision)

/-- The order of the versions of a release: those of the evidence runs first, then the
latest. A null comes before every checksum. -/
def ReleaseEvidenceVersion.order (engine : Engine) : SortKey ReleaseEvidenceVersion :=
  lexicographic [desc compare (·.evidenceRank), desc compare (·.availableAt),
    desc compare (·.revisionRank), desc (nullsLast engine.collate) (·.sourceChecksum)]

/-- `_macro_release_versions`. -/
def macroReleaseVersions (engine : Engine) (t : FactTables) (runIds : List UUID)
    (availableAt : Instant) : List ReleaseEvidenceVersion :=
  engine.rankedFirst (·.releaseId) (ReleaseEvidenceVersion.order engine)
    (releaseEvidenceVersions t runIds availableAt)

/-- The arguments of the calendar query. -/
structure CalendarRequest where
  region : Region
  providerRecordIds : List String
  runIds : List UUID
  reportDate : Day
  cutoffAt : Instant

/-- `_calendar_window`. -/
def calendarWindow (request : CalendarRequest) (scheduledAt : Option Instant)
    (scheduledDate : Option Day) : Bool :=
  scheduledAt.any (fun i =>
      request.cutoffAt ≤ i ∧ i < request.cutoffAt + 7 * dayMicroseconds) ||
    scheduledDate.any fun d => request.reportDate ≤ d ∧ d < request.reportDate + 7

/-- The conditions of the query besides the window. -/
def CalendarRequest.takes (request : CalendarRequest) (version : ReleaseEvidenceVersion) : Prop :=
  version.region = request.region ∧ version.providerRecordId ∈ request.providerRecordIds

instance (request : CalendarRequest) (version : ReleaseEvidenceVersion) :
    Decidable (request.takes version) :=
  inferInstanceAs (Decidable (_ ∧ _))

/-- `macro_releases_as_of`. -/
def macroReleasesAsOf (engine : Engine) (t : FactTables) (request : CalendarRequest) :
    List MacroRelease :=
  if request.providerRecordIds = [] ∨ request.runIds = [] then []
  else
    let versions := macroReleaseVersions engine t request.runIds request.cutoffAt
    let selected := versions.filter fun version => request.takes version ∧
      calendarWindow request version.scheduledAt version.scheduledDate
    (engine.orderBy (lexicographic [asc (nullsLast compare) (·.scheduledAt),
      asc (nullsLast compare) (·.scheduledDate), asc engine.collate (·.releaseId)])
      selected).map (·.payload)

/-! ## Histories of distinct contents -/

/-- The upserts of every release have distinct contents. -/
def DistinctContents (us : List FactUpsert) : Prop :=
  ∀ releaseId, ((releaseUpserts releaseId us).map ReleaseUpsert.checksum).Nodup

/-- What the tables of releases are after such a history. -/
structure ReleasesKeyed (t : FactTables) : Prop where
  row : ∀ row ∈ t.releases, ∀ other ∈ t.releases, row.releaseId = other.releaseId → row = other
  revision : ∀ revision ∈ t.releaseRevisions, ∀ other ∈ t.releaseRevisions,
    revision.releaseId = other.releaseId →
      revision.sourceChecksumSha256 = other.sourceChecksumSha256 → revision = other
  row_payload : ∀ row ∈ t.releases, row.payload.releaseId = row.releaseId
  revision_payload : ∀ revision ∈ t.releaseRevisions,
    revision.payload.releaseId = revision.releaseId

variable {engine : Engine} {session : Session} {t t' : FactTables}

/-- Releases stored one by one, with contents that differ, have one row and revisions apart. -/
theorem releasesKeyed_of_stored {kept : String → List ReleaseUpsert}
    (hstored : ∀ releaseId, StoredRelease t releaseId (kept releaseId))
    (hdistinct : ∀ releaseId, ((kept releaseId).map ReleaseUpsert.checksum).Nodup) :
    ReleasesKeyed t := by
  -- every row is that of a first upsert, every revision that of a later one
  have hrow : ∀ row ∈ t.releases, ∃ first later, kept row.releaseId = first :: later ∧
      row = first.row := by
    intro row hrow
    have hmem : row ∈ t.releases.filter (·.releaseId = row.releaseId) :=
      List.mem_filter.mpr ⟨hrow, decide_eq_true rfl⟩
    have hkept := hstored row.releaseId
    cases hupserts : kept row.releaseId with
    | nil =>
      rw [hupserts] at hkept
      rw [hkept.1] at hmem
      cases hmem
    | cons first later =>
      rw [hupserts] at hkept
      rw [hkept.1] at hmem
      exact ⟨first, later, rfl, List.mem_singleton.mp hmem⟩
  have hrevision : ∀ revision ∈ t.releaseRevisions, ∃ first later,
      kept revision.releaseId = first :: later ∧ ∃ u ∈ later, revision = u.revision := by
    intro revision hrevision
    have hmem : revision ∈ t.releaseRevisions.filter (·.releaseId = revision.releaseId) :=
      List.mem_filter.mpr ⟨hrevision, decide_eq_true rfl⟩
    have hkept := hstored revision.releaseId
    cases hupserts : kept revision.releaseId with
    | nil =>
      rw [hupserts] at hkept
      rw [hkept.2] at hmem
      cases hmem
    | cons first later =>
      rw [hupserts] at hkept
      rw [hkept.2] at hmem
      rcases List.mem_map.mp hmem with ⟨u, hu, heq⟩
      exact ⟨first, later, rfl, u, hu, heq.symm⟩
  constructor
  · intro row hmem other hother hid
    rcases hrow row hmem with ⟨first, later, hkept, heq⟩
    rcases hrow other hother with ⟨first', later', hkept', heq'⟩
    rw [hid, hkept'] at hkept
    rw [heq, heq', (List.cons.inj hkept).1]
  · intro revision hmem other hother hid hchecksum
    rcases hrevision revision hmem with ⟨first, later, hkept, u, hu, heq⟩
    rcases hrevision other hother with ⟨first', later', hkept', u', hu', heq'⟩
    have hnodup := hdistinct revision.releaseId
    rw [hid, hkept'] at hkept
    rcases List.cons.inj hkept with ⟨-, hlater⟩
    rw [hid, hkept', List.map_cons, List.nodup_cons] at hnodup
    rw [heq, heq'] at hchecksum ⊢
    have hsame := List.inj_on_of_nodup_map hnodup.2 (hlater ▸ hu) hu' hchecksum
    rw [hsame]
  · intro row hmem
    rcases hrow row hmem with ⟨first, later, -, heq⟩
    rw [heq]
    rfl
  · intro revision hmem
    rcases hrevision revision hmem with ⟨first, later, -, u, -, heq⟩
    rw [heq]
    rfl

/-- Any upserts of distinct contents keep the keys. -/
theorem releasesKeyed_upsertAll {us : List FactUpsert} (hconsistent : t.Consistent)
    (hempty : t.releases = []) (hdistinct : DistinctContents us)
    (h : t.upsertAll engine us = .ok t') : ReleasesKeyed t' := by
  have hstored : ∀ releaseId, StoredRelease t' releaseId (releaseUpserts releaseId us) := by
    intro releaseId
    have hnew : ∀ row ∈ t.releases, row.releaseId ≠ releaseId := by
      rw [hempty]
      intro row hrow
      cases hrow
    have hkept := storedRelease_upsertAll hconsistent hnew h
    rwa [new_of_nodup (hdistinct releaseId)] at hkept
  exact releasesKeyed_of_stored hstored hdistinct

/-! ## Releases in a window -/

/-- The current version of every release that was known: what `list_macro_releases` ranks
first where no condition is made on the row. -/
def currentMacroReleaseVersions (session : Session) (t : FactTables) (asOf : Instant) :
    List ReleaseVersion :=
  session.rankedFirst (·.releaseId) (ReleaseVersion.order session.toEngine)
    (releaseVersionsWhere t (fun _ => true) asOf)

/-- The release is of the query's regions. -/
def InRegions (t : FactTables) (query : MacroReleaseQuery) (releaseId : String) : Prop :=
  ∃ row ∈ t.releases, row.releaseId = releaseId ∧ row.region ∈ query.regions

/-- The query returns exactly the releases whose current version has its own schedule inside
the window. -/
def ListsOwnSchedules (session : Session) (t : FactTables) (query : MacroReleaseQuery) : Prop :=
  ∀ release, release ∈ listMacroReleases session t query ↔
    ∃ version ∈ currentMacroReleaseVersions session t query.asOf,
      InRegions t query version.releaseId ∧
      inWindow query.scheduledFrom query.scheduledTo version.payload.scheduledAt
        version.payload.scheduledDate ∧
      version.payload = release

/-- The schedule on a release's row is in the window when the current version's is. -/
def RowsAgree (session : Session) (t : FactTables) (query : MacroReleaseQuery) : Prop :=
  ∀ version ∈ currentMacroReleaseVersions session t query.asOf,
    InRegions t query version.releaseId →
      (inWindow query.scheduledFrom query.scheduledTo version.scheduledAt version.scheduledDate ↔
        inWindow query.scheduledFrom query.scheduledTo version.payload.scheduledAt
          version.payload.scheduledDate)

theorem mem_releaseVersionsWhere {p : MacroReleaseRow → Bool} {asOf : Instant}
    {version : ReleaseVersion} : version ∈ releaseVersionsWhere t p asOf ↔
      (∃ row ∈ t.releases, p row ∧ row.availableAt ≤ asOf ∧ row.version = version) ∨
      ∃ revision ∈ t.releaseRevisions, revision.availableAt ≤ asOf ∧ ∃ row ∈ t.releases,
        row.releaseId = revision.releaseId ∧ p row ∧ revision.version row = version := by
  unfold releaseVersionsWhere
  simp only [List.mem_append, List.mem_map, List.mem_flatMap, List.mem_filter, decide_eq_true_eq,
    and_assoc]

/-- Versions of one release that tie are one version. -/
theorem releaseVersions_ties (h : ReleasesKeyed t) {p : MacroReleaseRow → Bool} {asOf : Instant}
    {version other : ReleaseVersion} (hversion : version ∈ releaseVersionsWhere t p asOf)
    (hother : other ∈ releaseVersionsWhere t p asOf) (hid : version.releaseId = other.releaseId)
    (htie : ReleaseVersion.order engine version other = .eq) : version = other := by
  have := engine.collate_eq
  simp only [ReleaseVersion.order, lexicographic_cons_eq, desc,
    Std.LawfulEqCmp.compare_eq_iff_eq] at htie
  -- a tie leaves the rank and the checksum equal
  rcases htie with ⟨-, hrank, hchecksum, -⟩
  -- a row has one rank, a revision the other, so both are of one kind
  rcases mem_releaseVersionsWhere.mp hversion with ⟨row, hrow, -, -, rfl⟩ |
    ⟨revision, hrevision, -, row, hrow, hrowId, -, rfl⟩
  · rcases mem_releaseVersionsWhere.mp hother with ⟨row', hrow', -, -, rfl⟩ |
      ⟨revision', hrevision', -, row', hrow', hrowId', -, rfl⟩
    · rw [h.row row hrow row' hrow' hid]
    · cases hrank
  · rcases mem_releaseVersionsWhere.mp hother with ⟨row', hrow', -, -, rfl⟩ |
      ⟨revision', hrevision', -, row', hrow', hrowId', -, rfl⟩
    · cases hrank
    · have hsame : row = row' := h.row row hrow row' hrow' hid
      have hrevisionId : revision.releaseId = revision'.releaseId := by
        rw [← hrowId, ← hrowId', hsame]
      rw [h.revision revision hrevision revision' hrevision' hrevisionId hchecksum.symm, hsame]

/-- The version of first rank is the latest of its release. -/
theorem mem_rankedFirst_releases (h : ReleasesKeyed t) {p : MacroReleaseRow → Bool}
    {asOf : Instant} {version : ReleaseVersion} :
    version ∈ session.rankedFirst (·.releaseId) (ReleaseVersion.order session.toEngine)
        (releaseVersionsWhere t p asOf) ↔
      version ∈ releaseVersionsWhere t p asOf ∧ ∀ other ∈ releaseVersionsWhere t p asOf,
        other.releaseId = version.releaseId →
          (ReleaseVersion.order session.toEngine version other).isLE := by
  have := session.collate_trans
  have htrans : Std.TransCmp (ReleaseVersion.order session.toEngine) := by
    unfold ReleaseVersion.order
    infer_instance
  exact session.mem_rankedFirst_iff fun a ha b hb => releaseVersions_ties h ha hb

/-- The columns of a version are those of its release's row. -/
theorem releaseVersion_row {p : MacroReleaseRow → Bool} {asOf : Instant}
    {version : ReleaseVersion} (hversion : version ∈ releaseVersionsWhere t p asOf) :
    ∃ row ∈ t.releases, row.releaseId = version.releaseId ∧ p row ∧
      row.scheduledAt = version.scheduledAt ∧ row.scheduledDate = version.scheduledDate := by
  rcases mem_releaseVersionsWhere.mp hversion with ⟨row, hrow, hp, -, rfl⟩ |
    ⟨revision, -, -, row, hrow, -, hp, rfl⟩
  · exact ⟨row, hrow, rfl, hp, rfl, rfl⟩
  · exact ⟨row, hrow, rfl, hp, rfl, rfl⟩

/-- A condition on the rows leaves out whole releases. -/
theorem mem_releaseVersionsWhere_iff (h : ReleasesKeyed t) {p : MacroReleaseRow → Bool}
    {asOf : Instant} {version : ReleaseVersion} {row : MacroReleaseRow} (hrow : row ∈ t.releases)
    (hid : row.releaseId = version.releaseId) :
    version ∈ releaseVersionsWhere t p asOf ↔
      version ∈ releaseVersionsWhere t (fun _ => true) asOf ∧ p row := by
  constructor
  -- a version keeps the columns of its row, and the row of a release is unique
  · intro hversion
    rcases releaseVersion_row hversion with ⟨row', hrow', hid', hp, -, -⟩
    rw [h.row row hrow row' hrow' (hid.trans hid'.symm)]
    refine ⟨?_, hp⟩
    rcases mem_releaseVersionsWhere.mp hversion with ⟨base, hbase, -, hle, heq⟩ |
      ⟨revision, hrevision, hle, base, hbase, hbaseId, -, heq⟩
    · exact mem_releaseVersionsWhere.mpr (Or.inl ⟨base, hbase, rfl, hle, heq⟩)
    · exact mem_releaseVersionsWhere.mpr
        (Or.inr ⟨revision, hrevision, hle, base, hbase, hbaseId, rfl, heq⟩)
  -- the version stands where it stood, in the smaller selection
  · rintro ⟨hversion, hp⟩
    rcases mem_releaseVersionsWhere.mp hversion with ⟨base, hbase, -, hle, rfl⟩ |
      ⟨revision, hrevision, hle, base, hbase, hbaseId, -, rfl⟩
    · have hsame : row = base := h.row row hrow base hbase hid
      exact mem_releaseVersionsWhere.mpr (Or.inl ⟨base, hbase, hsame ▸ hp, hle, rfl⟩)
    · have hsame : row = base := h.row row hrow base hbase hid
      exact mem_releaseVersionsWhere.mpr
        (Or.inr ⟨revision, hrevision, hle, base, hbase, hbaseId, hsame ▸ hp, rfl⟩)

/-- The query ranks the current versions of the releases whose row it takes. -/
theorem mem_rankedMacroReleases (h : ReleasesKeyed t) {query : MacroReleaseQuery}
    {version : ReleaseVersion} : version ∈ rankedMacroReleases session t query ↔
      version ∈ currentMacroReleaseVersions session t query.asOf ∧
      InRegions t query version.releaseId ∧
      inWindow query.scheduledFrom query.scheduledTo version.scheduledAt
        version.scheduledDate := by
  unfold rankedMacroReleases currentMacroReleaseVersions
  rw [releaseVersions_eq, mem_rankedFirst_releases h, mem_rankedFirst_releases h]
  constructor
  · rintro ⟨hversion, hleast⟩
    rcases releaseVersion_row hversion with ⟨row, hrow, hid, hscheduled, hat, hdate⟩
    have hall := (mem_releaseVersionsWhere_iff h hrow hid).mp hversion
    unfold MacroReleaseRow.scheduledIn at hscheduled
    rw [decide_eq_true_eq, hat, hdate] at hscheduled
    refine ⟨⟨hall.1, ?_⟩, ⟨row, hrow, hid, hscheduled.1⟩, hscheduled.2⟩
    intro other hother hsame
    have hotherRow : row.releaseId = other.releaseId := hid.trans hsame.symm
    exact hleast other ((mem_releaseVersionsWhere_iff h hrow hotherRow).mpr ⟨hother, hall.2⟩) hsame
  · rintro ⟨⟨hversion, hleast⟩, ⟨row, hrow, hid, hregion⟩, hwindow⟩
    rcases releaseVersion_row hversion with ⟨row', hrow', hid', -, hat, hdate⟩
    have hsameRow : row' = row := h.row row' hrow' row hrow (hid'.trans hid.symm)
    subst hsameRow
    have hscheduled : row'.scheduledIn query := by
      unfold MacroReleaseRow.scheduledIn
      rw [decide_eq_true_eq, hat, hdate]
      exact ⟨hregion, hwindow⟩
    refine ⟨(mem_releaseVersionsWhere_iff h hrow hid).mpr ⟨hversion, hscheduled⟩, ?_⟩
    intro other hother hsame
    have hotherRow : row'.releaseId = other.releaseId := hid.trans hsame.symm
    exact hleast other ((mem_releaseVersionsWhere_iff h hrow hotherRow).mp hother).1 hsame

/-- Nothing is left out but by the limit. -/
theorem mem_listMacroReleases {query : MacroReleaseQuery}
    (hlimit : (rankedMacroReleases session t query).length ≤ query.limit)
    {release : MacroRelease} : release ∈ listMacroReleases session t query ↔
      ∃ version ∈ rankedMacroReleases session t query, version.payload = release := by
  rw [listMacroReleases_ranked, List.take_of_length_le]
  · simp only [List.mem_map, session.mem_orderBy]
  · rw [(session.orderBy_perm _ _).length_eq]
    exact hlimit

/-- A release has one current version. -/
theorem currentMacroReleaseVersions_unique {asOf : Instant} {version other : ReleaseVersion}
    (hversion : version ∈ currentMacroReleaseVersions session t asOf)
    (hother : other ∈ currentMacroReleaseVersions session t asOf)
    (hid : version.releaseId = other.releaseId) : version = other := by
  by_contra hne
  have hpairwise := firstPerKey_pairwise (fun v : ReleaseVersion => v.releaseId)
    (session.orderBy (ReleaseVersion.order session.toEngine)
      (releaseVersionsWhere t (fun _ => true) asOf))
  have hsymm : Std.Symm fun a b : ReleaseVersion => a.releaseId ≠ b.releaseId :=
    ⟨fun a b hab => hab.symm⟩
  exact hpairwise.forall hversion hother hne hid

theorem releaseVersion_payload (h : ReleasesKeyed t) {p : MacroReleaseRow → Bool}
    {asOf : Instant} {version : ReleaseVersion}
    (hversion : version ∈ releaseVersionsWhere t p asOf) :
    version.payload.releaseId = version.releaseId := by
  rcases mem_releaseVersionsWhere.mp hversion with ⟨row, hrow, -, -, rfl⟩ |
    ⟨revision, hrevision, -, row, hrow, hid, -, rfl⟩
  · exact h.row_payload row hrow
  · exact (h.revision_payload revision hrevision).trans hid.symm

/-- The query lists a release under the schedule of its version when the rows agree. -/
theorem listsOwnSchedules_iff (h : ReleasesKeyed t) {query : MacroReleaseQuery}
    (hlimit : (rankedMacroReleases session t query).length ≤ query.limit) :
    ListsOwnSchedules session t query ↔ RowsAgree session t query := by
  constructor
  · intro hlists version hversion hregions
    have hcurrent : version ∈ releaseVersionsWhere t (fun _ => true) query.asOf :=
      ((mem_rankedFirst_releases h).mp hversion).1
    constructor
    · intro hwindow
      -- it is listed, and what is listed is where the window is
      have hlisted : version.payload ∈ listMacroReleases session t query :=
        (mem_listMacroReleases hlimit).mpr
          ⟨version, (mem_rankedMacroReleases h).mpr ⟨hversion, hregions, hwindow⟩, rfl⟩
      rcases (hlists version.payload).mp hlisted with ⟨other, -, -, hother, hsame⟩
      rwa [hsame] at hother
    · intro hown
      have hlisted : version.payload ∈ listMacroReleases session t query :=
        (hlists version.payload).mpr ⟨version, hversion, hregions, hown, rfl⟩
      rcases (mem_listMacroReleases hlimit).mp hlisted with ⟨other, hother, hsame⟩
      rcases (mem_rankedMacroReleases h).mp hother with ⟨hotherCurrent, -, hwindow⟩
      have hotherVersion : other ∈ releaseVersionsWhere t (fun _ => true) query.asOf :=
        ((mem_rankedFirst_releases h).mp hotherCurrent).1
      have hid : other.releaseId = version.releaseId := by
        rw [← releaseVersion_payload h hotherVersion, ← releaseVersion_payload h hcurrent, hsame]
      rwa [currentMacroReleaseVersions_unique hotherCurrent hversion hid] at hwindow
  · intro hagree release
    rw [mem_listMacroReleases hlimit]
    constructor
    · rintro ⟨version, hversion, rfl⟩
      rcases (mem_rankedMacroReleases h).mp hversion with ⟨hcurrent, hregions, hwindow⟩
      exact ⟨version, hcurrent, hregions, (hagree version hcurrent hregions).mp hwindow, rfl⟩
    · rintro ⟨version, hcurrent, hregions, hown, rfl⟩
      have hwindow := (hagree version hcurrent hregions).mpr hown
      exact ⟨version, (mem_rankedMacroReleases h).mpr ⟨hcurrent, hregions, hwindow⟩, rfl⟩

/-! ## The report's upcoming releases -/

/-- The query selects exactly the releases whose current version has its own schedule inside
the window of the report. -/
def SelectsOwnSchedules (engine : Engine) (t : FactTables) (request : CalendarRequest) : Prop :=
  ∀ release, release ∈ macroReleasesAsOf engine t request ↔
    request.runIds ≠ [] ∧
    ∃ version ∈ macroReleaseVersions engine t request.runIds request.cutoffAt,
      request.takes version ∧
      calendarWindow request version.payload.scheduledAt version.payload.scheduledDate ∧
      version.payload = release

/-- The schedule on a release's row is in the report's window when the current version's is. -/
def CalendarRowsAgree (engine : Engine) (t : FactTables) (request : CalendarRequest) : Prop :=
  request.runIds ≠ [] →
    ∀ version ∈ macroReleaseVersions engine t request.runIds request.cutoffAt,
      request.takes version →
        (calendarWindow request version.scheduledAt version.scheduledDate ↔
          calendarWindow request version.payload.scheduledAt version.payload.scheduledDate)

/-- What the report sees: the versions of its runs that lie in its window. -/
theorem mem_macroReleasesAsOf {request : CalendarRequest} {release : MacroRelease} :
    release ∈ macroReleasesAsOf engine t request ↔
      request.runIds ≠ [] ∧
      ∃ version ∈ macroReleaseVersions engine t request.runIds request.cutoffAt,
        request.takes version ∧
        calendarWindow request version.scheduledAt version.scheduledDate ∧
        version.payload = release := by
  unfold macroReleasesAsOf
  by_cases hruns : request.runIds = []
  · simp [hruns]
  · by_cases hrecords : request.providerRecordIds = []
    · simp [hrecords, CalendarRequest.takes]
    · rw [if_neg (by simp [hruns, hrecords])]
      simp only [List.mem_map, engine.mem_orderBy, List.mem_filter, decide_eq_true_eq, ne_eq,
        hruns, not_false_eq_true, true_and, and_assoc]

/-- A version carries the id of its release. -/
theorem releaseEvidenceVersion_payload (h : ReleasesKeyed t) {runIds : List UUID}
    {availableAt : Instant} {version : ReleaseEvidenceVersion}
    (hversion : version ∈ macroReleaseVersions engine t runIds availableAt) :
    version.payload.releaseId = version.releaseId := by
  have := engine.collate_trans
  have hmem := (engine.mem_orderBy _).mp (mem_of_mem_firstPerKey hversion)
  unfold releaseEvidenceVersions at hmem
  rcases List.mem_append.mp hmem with hbase | hrevision
  · rcases List.mem_map.mp hbase with ⟨row, hrow, rfl⟩
    exact h.row_payload row (List.mem_of_mem_filter hrow)
  · rcases List.mem_flatMap.mp hrevision with ⟨revision, hmemRevision, hjoin⟩
    rcases List.mem_map.mp hjoin with ⟨row, hrow, rfl⟩
    have hid : row.releaseId = revision.releaseId := by
      simpa using (List.mem_filter.mp hrow).2
    have hpayload := h.revision_payload revision (List.mem_of_mem_filter hmemRevision)
    exact hpayload.trans hid.symm

/-- One version of a release at most. -/
theorem macroReleaseVersions_unique {runIds : List UUID} {availableAt : Instant}
    {version other : ReleaseEvidenceVersion}
    (hversion : version ∈ macroReleaseVersions engine t runIds availableAt)
    (hother : other ∈ macroReleaseVersions engine t runIds availableAt)
    (hid : version.releaseId = other.releaseId) : version = other := by
  by_contra hne
  have hpairwise := firstPerKey_pairwise (fun v : ReleaseEvidenceVersion => v.releaseId)
    (engine.orderBy (ReleaseEvidenceVersion.order engine)
      (releaseEvidenceVersions t runIds availableAt))
  have hsymm : Std.Symm fun a b : ReleaseEvidenceVersion => a.releaseId ≠ b.releaseId :=
    ⟨fun a b hab => hab.symm⟩
  exact hpairwise.forall hversion hother hne hid

/-- So for the calendar of the report. -/
theorem selectsOwnSchedules_iff (h : ReleasesKeyed t) {request : CalendarRequest} :
    SelectsOwnSchedules engine t request ↔ CalendarRowsAgree engine t request := by
  constructor
  -- the window is compared with the columns of the row, the claim is about the schedule
  · intro hselects hruns version hversion htakes
    constructor
    · intro hwindow
      have hselected := mem_macroReleasesAsOf.mpr ⟨hruns, version, hversion, htakes, hwindow, rfl⟩
      rcases (hselects version.payload).mp hselected with ⟨-, other, -, -, hother, hsame⟩
      rwa [hsame] at hother
    · intro hown
      have hselected := (hselects version.payload).mpr
        ⟨hruns, version, hversion, htakes, hown, rfl⟩
      rcases mem_macroReleasesAsOf.mp hselected with ⟨-, other, hother, -, hwindow, hsame⟩
      -- two versions of one payload are of one release, which has one current version
      have hid : other.releaseId = version.releaseId := by
        rw [← releaseEvidenceVersion_payload h hother,
          ← releaseEvidenceVersion_payload h hversion, hsame]
      rwa [macroReleaseVersions_unique hother hversion hid] at hwindow
  -- where the two agree the query takes the same releases
  · intro hagree release
    rw [mem_macroReleasesAsOf]
    constructor
    · rintro ⟨hruns, version, hversion, htakes, hwindow, rfl⟩
      have hown := (hagree hruns version hversion htakes).mp hwindow
      exact ⟨hruns, version, hversion, htakes, hown, rfl⟩
    · rintro ⟨hruns, version, hversion, htakes, hown, rfl⟩
      have hwindow := (hagree hruns version hversion htakes).mpr hown
      exact ⟨hruns, version, hversion, htakes, hwindow, rfl⟩

/-- Both queries find the releases where they now are if and only if the row of every release
they look at is in the window when the current version is. -/
theorem rescheduled_found_iff (session : Session) {us : List FactUpsert}
    (hconsistent : t.Consistent) (hempty : t.releases = []) (hdistinct : DistinctContents us)
    (h : t.upsertAll session.toEngine us = .ok t') (query : MacroReleaseQuery)
    (hlimit : (rankedMacroReleases session t' query).length ≤ query.limit)
    (request : CalendarRequest) :
    (ListsOwnSchedules session t' query ↔ RowsAgree session t' query) ∧
      (SelectsOwnSchedules session.toEngine t' request ↔
        CalendarRowsAgree session.toEngine t' request) := by
  have hkeyed : ReleasesKeyed t' := releasesKeyed_upsertAll hconsistent hempty hdistinct h
  exact ⟨listsOwnSchedules_iff hkeyed hlimit, selectsOwnSchedules_iff hkeyed⟩

/-- A release that is moved from day 0 to day 20. -/
def movedRelease : List FactUpsert :=
  [⟨1, .release (cpiRelease 5 "a" none (some 0))⟩,
    ⟨2, .release (cpiRelease 10 "b" none (some 20))⟩]

/-- The week of the report that begins on day 18. -/
def movedRequest : CalendarRequest :=
  { region := .us
    providerRecordIds := ["us-bls-release-cpi"]
    runIds := [2]
    reportDate := 18
    cutoffAt := 18 * dayMicroseconds }

/-- A release that is moved by a week. -/
theorem rescheduled_found_iff_moved :
    ∃ t, emptyCalendar.tables.upsertAll .plain movedRelease = .ok t ∧
      (ListsOwnSchedules Store.plainSession t
          (calendarQuery (18 * dayMicroseconds) (25 * dayMicroseconds) 20) ↔
        RowsAgree Store.plainSession t
          (calendarQuery (18 * dayMicroseconds) (25 * dayMicroseconds) 20)) ∧
      (SelectsOwnSchedules .plain t movedRequest ↔ CalendarRowsAgree .plain t movedRequest) := by
  have hdistinct : DistinctContents movedRelease := by
    intro releaseId
    by_cases hid : "rel_cpi" = releaseId
    · rw [← hid]
      decide
    · simp [releaseUpserts, releaseUpsert?, movedRelease, cpiRelease, hid]
  refine ⟨_, rfl, ?_⟩
  refine rescheduled_found_iff Store.plainSession emptyCalendar.consistent rfl hdistinct rfl _ ?_
    movedRequest
  decide +kernel

/-- The release is in the week, and neither query finds it. -/
theorem movedRelease_not_found :
    ∃ t, emptyCalendar.tables.upsertAll .plain movedRelease = .ok t ∧
      listMacroReleases Store.plainSession t
        (calendarQuery (18 * dayMicroseconds) (25 * dayMicroseconds) 20) = [] ∧
      (currentMacroReleaseVersions Store.plainSession t 20).map (·.payload.scheduledDate) = [some 20] ∧
      macroReleasesAsOf .plain t movedRequest = [] ∧
      (macroReleaseVersions .plain t movedRequest.runIds movedRequest.cutoffAt).map
        (fun version => (version.payload.scheduledDate, calendarWindow movedRequest
          version.payload.scheduledAt version.payload.scheduledDate)) = [(some 20, true)] :=
  ⟨_, rfl, rfl, rfl, rfl, rfl⟩

end MacroPlatform.Evidence
