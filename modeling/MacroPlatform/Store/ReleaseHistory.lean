import MacroPlatform.Store.BarHistory

/-! # The versions of a macro release

The first upsert of a release is its row. A later one is a revision when its checksum is new:
it is compared with the checksum of the row, and the key of the revisions leaves no room for
a second revision with the same checksum.

* `storedRelease_upsertAll`: the rows of a release after a history of upserts;
* `rankedMacroReleases_latest_iff`: when the version that is read is the last one known;
* `restoredRelease_not_read`: content that returns.
-/

namespace MacroPlatform.Store

open History Query

/-- An upsert of a release, and the run it is for. -/
structure ReleaseUpsert where
  release : MacroRelease
  ingestionRunId : UUID

def ReleaseUpsert.availableAt (u : ReleaseUpsert) : Instant := u.release.availableAt

def ReleaseUpsert.checksum (u : ReleaseUpsert) : String := u.release.source.checksumSha256

/-- The row of a first upsert. -/
def ReleaseUpsert.row (u : ReleaseUpsert) : MacroReleaseRow :=
  .ofRelease u.release u.ingestionRunId

/-- The row of a later one. -/
def ReleaseUpsert.revision (u : ReleaseUpsert) : MacroReleaseRevisionRow :=
  .ofRelease u.release u.ingestionRunId

/-- The upsert of a fact, if the fact is a version of the release. -/
def releaseUpsert? (releaseId : String) (u : FactUpsert) : Option ReleaseUpsert :=
  match u.fact with
  | .release release =>
      if release.releaseId = releaseId then some ⟨release, u.ingestionRunId⟩ else none
  | _ => none

/-- The upserts of one release. -/
def releaseUpserts (releaseId : String) (us : List FactUpsert) : List ReleaseUpsert :=
  us.filterMap (releaseUpsert? releaseId)

/-- The upserts of one release. -/
theorem releaseUpsert?_eq_some {releaseId : String} {u : FactUpsert} {r : ReleaseUpsert} :
    releaseUpsert? releaseId u = some r ↔ u.fact = .release r.release ∧
      u.ingestionRunId = r.ingestionRunId ∧ r.release.releaseId = releaseId := by
  unfold releaseUpsert?
  -- an upsert of another fact, or of another release, is none of this release
  cases hfact : u.fact with
  | release release =>
    by_cases hid : release.releaseId = releaseId
    · simp only [if_pos hid, Option.some.injEq, Fact.release.injEq]
      constructor
      · rintro rfl
        exact ⟨rfl, rfl, hid⟩
      · rintro ⟨rfl, hrun, -⟩
        rw [hrun]
    · simp only [if_neg hid, Fact.release.injEq]
      constructor
      · intro h
        cases h
      · rintro ⟨rfl, -, hrelease⟩
        exact absurd hrelease hid
  | bar _ | observation _ | news _ => simp

/-! ## The rows of a release -/

/-- The rows of a release are the given versions of it. -/
def StoredRelease (t : FactTables) (releaseId : String) : List ReleaseUpsert → Prop
  | [] => t.releases.filter (·.releaseId = releaseId) = [] ∧
      t.releaseRevisions.filter (·.releaseId = releaseId) = []
  | first :: later => t.releases.filter (·.releaseId = releaseId) = [first.row] ∧
      t.releaseRevisions.filter (·.releaseId = releaseId) = later.map (·.revision)

variable {engine : Engine} {t t' : FactTables} {releaseId : String} {kept : List ReleaseUpsert}

/-- Facts other than the release leave its rows as they are. -/
theorem storedRelease_other {u : FactUpsert} (hstored : StoredRelease t releaseId kept)
    (hother : releaseUpsert? releaseId u = none) (hu : Upserted t u t') :
    StoredRelease t' releaseId kept := by
  have hne : ∀ release, u.fact = .release release → release.releaseId ≠ releaseId := by
    intro release hfact hid
    simp [releaseUpsert?, hfact, hid] at hother
  -- what is written bears the id of another release
  have hsame : t'.releases.filter (·.releaseId = releaseId) =
        t.releases.filter (·.releaseId = releaseId) ∧
      t'.releaseRevisions.filter (·.releaseId = releaseId) =
        t.releaseRevisions.filter (·.releaseId = releaseId) := by
    cases hu with
    | same | bar | barRevision | observation | news => exact ⟨rfl, rfl⟩
    | @release release hfact _ =>
      have hid : ¬ (MacroReleaseRow.ofRelease release u.ingestionRunId).releaseId = releaseId :=
        hne release hfact
      simp [List.filter_append, hid]
    | @releaseRevision release hfact _ =>
      have hid : ¬ (MacroReleaseRevisionRow.ofRelease release u.ingestionRunId).releaseId =
          releaseId := hne release hfact
      simp [List.filter_append, hid]
  cases kept with
  | nil => exact ⟨hsame.1.trans hstored.1, hsame.2.trans hstored.2⟩
  | cons first later => exact ⟨hsame.1.trans hstored.1, hsame.2.trans hstored.2⟩

/-- An upsert of the release is stored when its checksum is new. -/
theorem storedRelease_upsertMacroRelease {r : ReleaseUpsert}
    (hid : r.release.releaseId = releaseId) (hstored : StoredRelease t releaseId kept)
    (h : upsertMacroRelease t r.ingestionRunId r.release = .ok t') :
    StoredRelease t' releaseId (storeNew ReleaseUpsert.checksum kept r) := by
  unfold upsertMacroRelease at h
  rw [hid, ← List.head?_filter] at h
  -- a first upsert is the row, a later one is compared with it
  cases kept with
  | nil =>
    rw [hstored.1] at h
    simp only [List.head?_nil] at h
    split_ifs at h with hseries
    simp only [Except.ok.injEq] at h
    subst h
    constructor
    · have hrow : (MacroReleaseRow.ofRelease r.release r.ingestionRunId).releaseId = releaseId :=
        hid
      simp [List.filter_append, hstored.1, hrow, ReleaseUpsert.row]
    · exact hstored.2
  | cons first later =>
    rw [hstored.1] at h
    simp only [List.head?_cons] at h
    -- the row stands for the first checksum, the revisions for the later ones
    have hsameBase : first.row.sourceChecksumSha256 = some r.release.source.checksumSha256 ↔
        r.checksum = first.checksum := by
      constructor
      · intro heq
        exact (Option.some.inj heq).symm
      · intro heq
        exact congrArg some heq.symm
    have hsameRevision : (∃ other ∈ t.releaseRevisions,
        other.SameKey (MacroReleaseRevisionRow.ofRelease r.release r.ingestionRunId)) ↔
          r.checksum ∈ later.map (·.checksum) := by
      constructor
      · rintro ⟨other, hother, hsame, hchecksum⟩
        have hmem : other ∈ t.releaseRevisions.filter (·.releaseId = releaseId) :=
          List.mem_filter.mpr ⟨hother, decide_eq_true (hsame.trans hid)⟩
        rw [hstored.2] at hmem
        rcases List.mem_map.mp hmem with ⟨u, hu, rfl⟩
        exact List.mem_map.mpr ⟨u, hu, hchecksum⟩
      · intro hmem
        rcases List.mem_map.mp hmem with ⟨u, hu, hchecksum⟩
        have hrevision : u.revision ∈ t.releaseRevisions.filter (·.releaseId = releaseId) := by
          rw [hstored.2]
          exact List.mem_map_of_mem hu
        rcases List.mem_filter.mp hrevision with ⟨hmem', hsame⟩
        rw [decide_eq_true_eq] at hsame
        exact ⟨u.revision, hmem', hsame.trans hid.symm, hchecksum⟩
    unfold storeNew
    rw [List.map_cons]
    -- a known checksum leaves the rows, whichever of the two has it
    by_cases hbase : r.checksum = first.checksum
    · rw [if_pos (hsameBase.mpr hbase), Except.ok.injEq] at h
      rw [if_pos (hbase ▸ List.mem_cons_self), ← h]
      exact hstored
    · rw [if_neg (hsameBase.not.mpr hbase)] at h
      by_cases hlater : r.checksum ∈ later.map (·.checksum)
      · rw [if_pos (hsameRevision.mpr hlater), Except.ok.injEq] at h
        rw [if_pos (List.mem_cons_of_mem _ hlater), ← h]
        exact hstored
      · have hnew : r.checksum ∉ first.checksum :: later.map (·.checksum) := by
          rw [List.mem_cons, not_or]
          exact ⟨hbase, hlater⟩
        rw [if_neg (hsameRevision.not.mpr hlater), Except.ok.injEq] at h
        rw [if_neg hnew]
        subst h
        constructor
        · exact hstored.1
        · have hrevision : (MacroReleaseRevisionRow.ofRelease r.release
              r.ingestionRunId).releaseId = releaseId := hid
          simp [List.filter_append, hstored.2, hrevision, ReleaseUpsert.revision]

/-- The rows of a release after a history of upserts. -/
theorem storedRelease_upsertAll {us : List FactUpsert} (hconsistent : t.Consistent)
    (hnew : ∀ row ∈ t.releases, row.releaseId ≠ releaseId)
    (h : t.upsertAll engine us = .ok t') :
    StoredRelease t' releaseId (new ReleaseUpsert.checksum (releaseUpserts releaseId us)) := by
  -- the history grows at its end
  induction us using List.reverseRecOn generalizing t' with
  | nil =>
    have hsame : t = t' := Except.ok.inj h
    subst hsame
    constructor
    · apply List.filter_eq_nil_iff.mpr
      intro row hrow
      simpa using hnew row hrow
    · apply List.filter_eq_nil_iff.mpr
      intro revision hrevision
      rcases hconsistent.release_revision_fkey revision hrevision with ⟨row, hrow, hid⟩
      simpa [← hid] using hnew row hrow
  | append_singleton us u ih =>
    rcases upsertAll_append_ok h with ⟨before, hbefore, hupsert⟩
    have hstored := ih hbefore
    unfold releaseUpserts at hstored ⊢
    rw [List.filterMap_append]
    -- the last upsert is of the release, or leaves its rows
    cases hu : releaseUpsert? releaseId u with
    | none =>
      have hnone : [u].filterMap (releaseUpsert? releaseId) = [] := by simp [hu]
      rw [hnone, List.append_nil]
      exact storedRelease_other hstored hu (upsert_ok hupsert)
    | some r =>
      have hsome : [u].filterMap (releaseUpsert? releaseId) = [r] := by simp [hu]
      rcases releaseUpsert?_eq_some.mp hu with ⟨hfact, hrun, hid⟩
      rw [hsome, new_append]
      apply storedRelease_upsertMacroRelease hid hstored
      unfold FactTables.upsert at hupsert
      rw [hfact, hrun] at hupsert
      exact hupsert

/-! ## What a query sees -/

/-- The versions of the releases whose row meets a condition, of those that were available. -/
def releaseVersionsWhere (t : FactTables) (p : MacroReleaseRow → Bool) (asOf : Instant) :
    List ReleaseVersion :=
  (t.releases.filter fun row => p row ∧ row.availableAt ≤ asOf).map (·.version) ++
    (t.releaseRevisions.filter (·.availableAt ≤ asOf)).flatMap fun revision =>
      (t.releases.filter fun row => row.releaseId = revision.releaseId ∧ p row).map
        (revision.version ·)

theorem releaseVersions_eq (t : FactTables) (query : MacroReleaseQuery) :
    releaseVersions t query = releaseVersionsWhere t (·.scheduledIn query) query.asOf := rfl

/-- The rows of rank 1 that `list_macro_releases` orders and limits. -/
def rankedMacroReleases (session : Session) (t : FactTables) (query : MacroReleaseQuery) :
    List ReleaseVersion :=
  session.rankedFirst (·.releaseId) (ReleaseVersion.order session.toEngine)
    (releaseVersions t query)

theorem listMacroReleases_ranked (session : Session) (t : FactTables)
    (query : MacroReleaseQuery) : listMacroReleases session t query =
      ((session.orderBy (lexicographic [
        asc (nullsLast compare) fun version =>
          version.scheduledAt.or (version.scheduledDate.map session.midnight),
        asc session.collate (·.releaseId)])
        (rankedMacroReleases session t query)).take query.limit).map (·.payload) := rfl

/-- The versions of a release as a query ranks them. -/
def releaseVersionsOf (kept : List ReleaseUpsert) : List ReleaseVersion :=
  versionsOf (·.row.version) (fun first u => u.revision.version first.row) kept

/-- A revision is joined with the row of its release. -/
theorem releaseRevision_join (t : FactTables) (p : MacroReleaseRow → Bool) (releaseId : String)
    (revision : MacroReleaseRevisionRow) :
    ((t.releases.filter fun row => row.releaseId = revision.releaseId ∧ p row).map
        (revision.version ·)).filter (·.releaseId = releaseId) =
      if revision.releaseId = releaseId then
        ((t.releases.filter (·.releaseId = releaseId)).filter p).map (revision.version ·)
      else [] := by
  have hfilter : ((t.releases.filter fun row => row.releaseId = revision.releaseId ∧ p row).map
      (revision.version ·)).filter (·.releaseId = releaseId) =
        ((t.releases.filter (·.releaseId = releaseId)).filter fun row =>
          row.releaseId = revision.releaseId ∧ p row).map (revision.version ·) := by
    rw [List.filter_map, List.filter_comm]
    rfl
  rw [hfilter]
  split_ifs with hid
  · congr 1
    apply List.filter_congr
    intro row hrow
    have hrowId : row.releaseId = revision.releaseId := by
      rw [hid]
      simpa using (List.mem_filter.mp hrow).2
    simp [hrowId]
  · apply List.map_eq_nil_iff.mpr
    apply List.filter_eq_nil_iff.mpr
    intro row hrow hsame
    have hrowId : row.releaseId = releaseId := by simpa using (List.mem_filter.mp hrow).2
    rw [decide_eq_true_eq] at hsame
    exact hid (hsame.1.symm.trans hrowId)

/-- Which of them a query takes: those available at its time, if it takes the row. -/
theorem releaseVersionsWhere_stored (hstored : StoredRelease t releaseId kept)
    (p : MacroReleaseRow → Bool) (hrow : ∀ first ∈ kept.head?, p first.row) (asOf : Instant) :
    (releaseVersionsWhere t p asOf).filter (·.releaseId = releaseId) =
      known (·.availableAt) asOf (releaseVersionsOf kept) := by
  have hbase : ((t.releases.filter fun row => p row ∧ row.availableAt ≤ asOf).map
      (·.version)).filter (·.releaseId = releaseId) =
        ((t.releases.filter (·.releaseId = releaseId)).filter fun row =>
          p row ∧ row.availableAt ≤ asOf).map (·.version) := by
    rw [List.filter_map, List.filter_comm]
    rfl
  unfold releaseVersionsWhere
  rw [List.filter_append, hbase]
  -- a revision is joined with the row of its release, as far as the query takes that row
  cases kept with
  | nil =>
    have hnone : ((t.releaseRevisions.filter (·.availableAt ≤ asOf)).flatMap fun revision =>
        (t.releases.filter fun row => row.releaseId = revision.releaseId ∧ p row).map
          (revision.version ·)).filter (·.releaseId = releaseId) = [] := by
      rw [List.filter_flatMap]
      apply List.flatMap_eq_nil_iff.mpr
      intro revision _
      rw [releaseRevision_join, hstored.1, List.filter_nil, List.map_nil, ite_self]
    rw [hstored.1, hnone]
    rfl
  | cons first later =>
    have hp : p first.row := hrow first rfl
    have hjoin : ((t.releaseRevisions.filter (·.availableAt ≤ asOf)).flatMap fun revision =>
        (t.releases.filter fun row => row.releaseId = revision.releaseId ∧ p row).map
          (revision.version ·)).filter (·.releaseId = releaseId) =
        ((t.releaseRevisions.filter (·.availableAt ≤ asOf)).filter
          (·.releaseId = releaseId)).map (·.version first.row) := by
      apply filter_join
      · intro revision _ hid
        rw [decide_eq_true_eq] at hid
        rw [releaseRevision_join, if_pos hid, hstored.1, List.filter_cons, if_pos hp]
        rfl
      · intro revision _ hid
        rw [decide_eq_false_iff_not] at hid
        rw [releaseRevision_join, if_neg hid]
    have hlater : ((t.releaseRevisions.filter (·.availableAt ≤ asOf)).filter
        (·.releaseId = releaseId)).map (·.version first.row) =
          (later.map fun u => u.revision.version first.row).filter (·.availableAt ≤ asOf) := by
      rw [List.filter_comm, hstored.2, List.filter_map, List.map_map, List.filter_map]
      rfl
    -- the query takes the row, so the schedule of a revision decides nothing
    have htaken : ([first.row].filter fun row => p row ∧ row.availableAt ≤ asOf) =
        [first.row].filter (·.availableAt ≤ asOf) := by
      apply List.filter_congr
      intro row hmem
      rw [List.mem_singleton.mp hmem]
      simp [hp]
    have hfirst : ([first.row].filter fun row => p row ∧ row.availableAt ≤ asOf).map
        (·.version) = ([first.row].map (·.version)).filter (·.availableAt ≤ asOf) := by
      rw [htaken, List.filter_map]
      rfl
    rw [hstored.1, hjoin, hlater, hfirst, ← List.filter_append]
    rfl

/-- The row of a release among the versions of rank 1. -/
theorem rankedReleases_stored (session : Session) (hstored : StoredRelease t releaseId kept)
    (hincreasing : Increasing ReleaseUpsert.availableAt kept) (p : MacroReleaseRow → Bool)
    (hrow : ∀ first ∈ kept.head?, p first.row) (asOf : Instant) :
    (session.rankedFirst (·.releaseId) (ReleaseVersion.order session.toEngine)
        (releaseVersionsWhere t p asOf)).filter (·.releaseId = releaseId) =
      (releaseVersionsOf (known ReleaseUpsert.availableAt asOf kept)).getLast?.toList := by
  have := session.collate_trans
  have htrans : Std.TransCmp (ReleaseVersion.order session.toEngine) := by
    unfold ReleaseVersion.order
    infer_instance
  -- known among the versions as they are read is known among the stored
  have hversions : known (·.availableAt) asOf (releaseVersionsOf kept) =
      releaseVersionsOf (known ReleaseUpsert.availableAt asOf kept) := by
    refine versionsOf_known ?_ ?_ hincreasing asOf
    · exact fun _ => rfl
    · exact fun _ _ => rfl
  have havailable : Increasing (·.availableAt)
      (releaseVersionsOf (known ReleaseUpsert.availableAt asOf kept)) := by
    refine versionsOf_increasing ?_ ?_ (hincreasing.sublist List.filter_sublist)
    · exact fun _ => rfl
    · exact fun _ _ => rfl
  apply session.rankedFirst_filter
  · rw [releaseVersionsWhere_stored hstored p hrow, hversions]
  · exact descending_of_increasing havailable

/-- The version that a query reads of a release whose row it takes has the checksum of the
last upsert known, at every time, as long as no content returns, and only as long. -/
theorem rankedMacroReleases_latest_iff (session : Session) {us : List FactUpsert}
    (hconsistent : t.Consistent) (hnew : ∀ row ∈ t.releases, row.releaseId ≠ releaseId)
    (hincreasing : Increasing ReleaseUpsert.availableAt (releaseUpserts releaseId us))
    (h : t.upsertAll session.toEngine us = .ok t') (query : MacroReleaseQuery)
    (hquery : ∀ first ∈ (releaseUpserts releaseId us).head?, first.row.scheduledIn query) :
    (∀ asOf : Instant,
      ((rankedMacroReleases session t' { query with asOf }).filter
          (·.releaseId = releaseId)).map (·.payload.source.checksumSha256) =
        ((known ReleaseUpsert.availableAt asOf (releaseUpserts releaseId us)).getLast?.map
          ReleaseUpsert.checksum).toList) ↔
      NeverReturns ReleaseUpsert.checksum (releaseUpserts releaseId us) := by
  have hstored := storedRelease_upsertAll hconsistent hnew h
  have hsublist := stored_sublist (storeNew_appends ReleaseUpsert.checksum)
    (releaseUpserts releaseId us)
  have hfirst : ∀ first ∈ (new ReleaseUpsert.checksum (releaseUpserts releaseId us)).head?,
      first.row.scheduledIn query := by
    rw [new_head?]
    exact hquery
  -- what the query reads, as the last of the distinct contents that were known
  have hread : ∀ asOf : Instant,
      ((rankedMacroReleases session t' { query with asOf }).filter
          (·.releaseId = releaseId)).map (·.payload.source.checksumSha256) =
        ((new ReleaseUpsert.checksum (known ReleaseUpsert.availableAt asOf
          (releaseUpserts releaseId us))).getLast?.map ReleaseUpsert.checksum).toList := by
    intro asOf
    have hlookback : known ReleaseUpsert.availableAt asOf
        (new ReleaseUpsert.checksum (releaseUpserts releaseId us)) =
          new ReleaseUpsert.checksum
            (known ReleaseUpsert.availableAt asOf (releaseUpserts releaseId us)) :=
      known_stored (storeNew_appends ReleaseUpsert.checksum) hincreasing asOf
    have hranked := rankedReleases_stored session hstored (hincreasing.sublist hsublist)
      (·.scheduledIn { query with asOf }) hfirst asOf
    have hchecksums : ∀ versions : List ReleaseUpsert,
        (releaseVersionsOf versions).map (·.payload.source.checksumSha256) =
          versions.map (·.checksum) := by
      refine versionsOf_map ?_ ?_
      · exact fun _ => rfl
      · exact fun _ _ => rfl
    unfold rankedMacroReleases
    rw [releaseVersions_eq, hranked, hlookback, ← Option.toList_map, ← List.getLast?_map,
      hchecksums, List.getLast?_map]
  rw [neverReturns_iff hincreasing]
  -- both sides say that the last of them is the last of all
  constructor
  · intro hlatest asOf
    have hequal := congrArg List.head? ((hread asOf).symm.trans (hlatest asOf))
    rwa [Option.head?_toList, Option.head?_toList] at hequal
  · intro hlatest asOf
    rw [hread asOf, hlatest asOf]

/-- A version of a release, which has an instant or a date. -/
def cpiRelease (availableAt : Instant) (checksum : String) (scheduledAt : Option Instant)
    (scheduledDate : Option Day) : MacroRelease :=
  { releaseId := "rel_cpi"
    seriesId := "us_calendar"
    region := .us
    scheduledAt := scheduledAt
    scheduledDate := scheduledDate
    availableAt := availableAt
    actual := none
    status := "scheduled"
    source := ⟨"us.official.release-calendar.v1", "us-bls-release-cpi", "OMB", checksum⟩ }

def emptyCalendar : FactStore where
  tables := ⟨[], ["us_calendar"], [], [], [], [], [], [], [], [], []⟩
  consistent := ⟨.nil, .nil, by simp, by simp⟩

def calendarQuery (scheduledFrom scheduledTo asOf : Instant) : MacroReleaseQuery :=
  { regions := [.us], scheduledFrom, scheduledTo, asOf }

/-- A release that is corrected twice. -/
def correctedRelease : List FactUpsert :=
  [⟨1, .release (cpiRelease 5 "a" (some 100) none)⟩,
    ⟨2, .release (cpiRelease 10 "b" (some 100) none)⟩,
    ⟨3, .release (cpiRelease 20 "c" (some 100) none)⟩]

/-- A release that is corrected once. -/
theorem rankedMacroReleases_latest_iff_corrected :
    ∃ t, emptyCalendar.tables.upsertAll .plain correctedRelease = .ok t ∧
      ∀ asOf : Instant,
        ((rankedMacroReleases plainSession t (calendarQuery 90 110 asOf)).filter
            (·.releaseId = "rel_cpi")).map (·.payload.source.checksumSha256) =
          ((known ReleaseUpsert.availableAt asOf
            (releaseUpserts "rel_cpi" correctedRelease)).getLast?.map
              ReleaseUpsert.checksum).toList := by
  have hnew : ∀ row ∈ emptyCalendar.tables.releases, row.releaseId ≠ "rel_cpi" := by decide
  have hincreasing : Increasing ReleaseUpsert.availableAt
      (releaseUpserts "rel_cpi" correctedRelease) := by
    unfold Increasing
    decide
  have hquery : ∀ first ∈ (releaseUpserts "rel_cpi" correctedRelease).head?,
      first.row.scheduledIn (calendarQuery 90 110 0) := by decide
  have hcontents : NeverReturns ReleaseUpsert.checksum
      (releaseUpserts "rel_cpi" correctedRelease) := neverReturns_of_nodup (by decide)
  refine ⟨_, rfl, ?_⟩
  have hiff := rankedMacroReleases_latest_iff plainSession emptyCalendar.consistent hnew
    hincreasing rfl (calendarQuery 90 110 0) hquery
  exact hiff.mpr hcontents

/-- A release that is corrected, and then published as it was first. -/
def restoredRelease : List FactUpsert :=
  [⟨1, .release (cpiRelease 5 "a" (some 100) none)⟩,
    ⟨2, .release (cpiRelease 10 "b" (some 100) none)⟩,
    ⟨3, .release (cpiRelease 20 "a" (some 100) none)⟩]

/-- The correction is still read after it was withdrawn. -/
theorem restoredRelease_not_read :
    ∃ t, emptyCalendar.tables.upsertAll .plain restoredRelease = .ok t ∧
      (listMacroReleases plainSession t (calendarQuery 90 110 20)).map
        (·.source.checksumSha256) = ["b"] ∧
      (known ReleaseUpsert.availableAt 20 (releaseUpserts "rel_cpi" restoredRelease)).getLast?.map
        ReleaseUpsert.checksum = some "a" :=
  ⟨_, rfl, rfl, rfl⟩

end MacroPlatform.Store
