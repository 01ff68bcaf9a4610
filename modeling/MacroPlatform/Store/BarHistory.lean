import MacroPlatform.Lib.History
import MacroPlatform.Store.PointInTime

/-! # The versions of a bar

A bar is upserted again and again, among other facts. Its first upsert is its row, and a
later one is a revision when its checksum differs from the latest version's, whether or not
an earlier version had it.

* `storedBar_upsertAll`: the rows of a bar after a history of upserts;
* `barVersions_stored`: the versions that a query takes of them;
* `currentMarketBarVersions_history`: the current one, at any time.
-/

namespace MacroPlatform.Store

open History Query

/-- The upserts one after another, all of which return. -/
def FactTables.upsertAll (engine : Engine) (t : FactTables) (us : List FactUpsert) :
    Except String FactTables :=
  us.foldlM (FactTables.upsert engine) t

/-- The last of a list of upserts comes after the others. -/
theorem upsertAll_append_ok {engine : Engine} {t t' : FactTables} {us : List FactUpsert}
    {u : FactUpsert} (h : t.upsertAll engine (us ++ [u]) = .ok t') :
    ∃ before, t.upsertAll engine us = .ok before ∧ before.upsert engine u = .ok t' := by
  unfold FactTables.upsertAll at h ⊢
  rw [List.foldlM_append] at h
  cases hbefore : us.foldlM (FactTables.upsert engine) t with
  | error message =>
    rw [hbefore] at h
    cases h
  | ok before =>
    rw [hbefore] at h
    refine ⟨before, rfl, ?_⟩
    cases hafter : before.upsert engine u with
    | error message => simp [bind, Except.bind, hafter] at h
    | ok after => simpa [bind, Except.bind, hafter, pure, Except.pure] using h

/-- An upsert of a bar, and the run it is for. -/
structure BarUpsert where
  bar : MarketBar
  ingestionRunId : UUID

def BarUpsert.availableAt (u : BarUpsert) : Instant := u.bar.availableAt

def BarUpsert.checksum (u : BarUpsert) : String := u.bar.source.checksumSha256

/-- The row of a first upsert. -/
def BarUpsert.row (u : BarUpsert) : MarketBarRow := .ofBar u.bar u.ingestionRunId

/-- The row of a later one. -/
def BarUpsert.revision (u : BarUpsert) : MarketBarRevisionRow := .ofBar u.bar u.ingestionRunId

/-- The upsert of a fact, if the fact is a version of the bar. -/
def barUpsert? (barId : String) (u : FactUpsert) : Option BarUpsert :=
  match u.fact with
  | .bar bar => if bar.barId = barId then some ⟨bar, u.ingestionRunId⟩ else none
  | _ => none

/-- The upserts of one bar. -/
def barUpserts (barId : String) (us : List FactUpsert) : List BarUpsert :=
  us.filterMap (barUpsert? barId)

/-- The upserts of one bar. -/
theorem barUpsert?_eq_some {barId : String} {u : FactUpsert} {b : BarUpsert} :
    barUpsert? barId u = some b ↔
      u.fact = .bar b.bar ∧ u.ingestionRunId = b.ingestionRunId ∧ b.bar.barId = barId := by
  unfold barUpsert?
  -- an upsert of another fact, or of another bar, is none of this bar
  cases hfact : u.fact with
  | bar bar =>
    by_cases hid : bar.barId = barId
    · simp only [if_pos hid, Option.some.injEq, Fact.bar.injEq]
      constructor
      · rintro rfl
        exact ⟨rfl, rfl, hid⟩
      · rintro ⟨rfl, hrun, -⟩
        rw [hrun]
    · simp only [if_neg hid, Fact.bar.injEq]
      constructor
      · intro h
        cases h
      · rintro ⟨rfl, -, hbar⟩
        exact absurd hbar hid
  | observation _ | release _ | news _ => simp

/-! ## The rows of a bar -/

/-- The rows of a bar are the given versions of it. -/
def StoredBar (t : FactTables) (barId : String) : List BarUpsert → Prop
  | [] => t.bars.filter (·.barId = barId) = [] ∧ t.barRevisions.filter (·.barId = barId) = []
  | first :: later => t.bars.filter (·.barId = barId) = [first.row] ∧
      t.barRevisions.filter (·.barId = barId) = later.map (·.revision)

variable {engine : Engine} {t t' : FactTables} {barId : String} {kept : List BarUpsert}

/-- Facts other than the bar leave its rows as they are. -/
theorem storedBar_other {u : FactUpsert} (hstored : StoredBar t barId kept)
    (hother : barUpsert? barId u = none) (hu : Upserted t u t') : StoredBar t' barId kept := by
  have hne : ∀ bar, u.fact = .bar bar → bar.barId ≠ barId := by
    intro bar hfact hid
    simp [barUpsert?, hfact, hid] at hother
  -- what is written bears the id of another bar, which the filter leaves out
  have hsame : t'.bars.filter (·.barId = barId) = t.bars.filter (·.barId = barId) ∧
      t'.barRevisions.filter (·.barId = barId) = t.barRevisions.filter (·.barId = barId) := by
    cases hu with
    | same | observation | release | releaseRevision | news => exact ⟨rfl, rfl⟩
    | @bar bar hfact _ =>
      have hid : ¬ (MarketBarRow.ofBar bar u.ingestionRunId).barId = barId := hne bar hfact
      simp [List.filter_append, hid]
    | @barRevision bar hfact _ _ =>
      have hid : ¬ (MarketBarRevisionRow.ofBar bar u.ingestionRunId).barId = barId :=
        hne bar hfact
      simp [List.filter_append, hid]
  cases kept with
  | nil => exact ⟨hsame.1.trans hstored.1, hsame.2.trans hstored.2⟩
  | cons first later => exact ⟨hsame.1.trans hstored.1, hsame.2.trans hstored.2⟩

theorem exists_bar_iff (hstored : StoredBar t barId kept) :
    (∃ row ∈ t.bars, row.barId = barId) ↔ kept ≠ [] := by
  have hfilter : (∃ row ∈ t.bars, row.barId = barId) ↔
      t.bars.filter (·.barId = barId) ≠ [] := by
    rw [Ne, List.filter_eq_nil_iff]
    push Not
    simp
  rw [hfilter]
  cases kept with
  | nil => simp [hstored.1]
  | cons first later => simp [hstored.1]

/-- Versions that became available one after another are in descending order. -/
theorem descending_of_increasing {ρ : Type} {availableAt : ρ → Instant}
    {keys : List (SortKey ρ)} {versions : List ρ} (h : Increasing availableAt versions) :
    versions.Pairwise fun a b =>
      lexicographic (desc compare availableAt :: keys) b a = .lt := by
  refine h.imp ?_
  intro a b hlt
  exact lexicographic_lt_of_lt (compare_lt_iff_lt.mpr hlt)

/-- The versions of a bar as they are compared with an upsert. -/
def checksumVersions (kept : List BarUpsert) : List ChecksumVersion :=
  versionsOf (fun u => ⟨u.availableAt, 0, u.checksum⟩) (fun _ u => ⟨u.availableAt, 1, u.checksum⟩)
    kept

/-- The checksum that an upsert compares its own with is that of the latest version. -/
theorem currentBarChecksum_stored (engine : Engine) (hstored : StoredBar t barId kept)
    (hincreasing : Increasing BarUpsert.availableAt kept) :
    currentBarChecksum engine t barId = kept.getLast?.map BarUpsert.checksum := by
  have := engine.collate_trans
  have htrans : Std.TransCmp (ChecksumVersion.order engine) := by
    unfold ChecksumVersion.order
    infer_instance
  -- without a row there is no version, otherwise the row is the first of them
  have hversions : currentBarChecksum engine t barId =
      ((engine.orderBy (ChecksumVersion.order engine) (checksumVersions kept)).head?).map
        (·.checksum) := by
    unfold currentBarChecksum
    cases kept with
    | nil =>
      rw [hstored.1, hstored.2]
      rfl
    | cons first later =>
      rw [hstored.1, hstored.2, List.map_map]
      rfl
  have havailable : Increasing (·.availableAt) (checksumVersions kept) := by
    refine versionsOf_increasing ?_ ?_ hincreasing
    · exact fun _ => rfl
    · exact fun _ _ => rfl
  have hchecksums : (checksumVersions kept).map (·.checksum) = kept.map (·.checksum) := by
    refine versionsOf_map ?_ ?_ kept
    · exact fun _ => rfl
    · exact fun _ _ => rfl
  have hhead : (engine.orderBy (ChecksumVersion.order engine) (checksumVersions kept)).head? =
      (checksumVersions kept).getLast? :=
    engine.orderBy_head? (descending_of_increasing havailable)
  rw [hversions, hhead, ← List.getLast?_map, hchecksums, List.getLast?_map]

/-- An upsert of the bar. -/
theorem storedBar_upsertBar {b : BarUpsert} (hid : b.bar.barId = barId)
    (hstored : StoredBar t barId kept) (hincreasing : Increasing BarUpsert.availableAt kept)
    (hlater : ∀ u ∈ kept, u.availableAt < b.availableAt)
    (h : upsertBar engine t b.ingestionRunId b.bar = .ok t') :
    StoredBar t' barId (storeChanged BarUpsert.checksum kept b) := by
  have hexists := exists_bar_iff hstored
  have hchecksum := currentBarChecksum_stored engine hstored hincreasing
  unfold upsertBar at h
  rw [hid] at h
  cases kept with
  | nil =>
    -- the bar is new
    rw [if_neg (by rw [hexists]; simp)] at h
    split_ifs at h with hsource hinstrument
    simp only [Except.ok.injEq] at h
    subst h
    constructor
    · have hrow : (MarketBarRow.ofBar b.bar b.ingestionRunId).barId = barId := hid
      simp [List.filter_append, hstored.1, hrow, BarUpsert.row]
    · exact hstored.2
  | cons first later =>
    rw [if_pos (hexists.mpr (by simp)), hchecksum] at h
    have hfree : ¬ ∃ other ∈ t.barRevisions,
        other.SameKey (MarketBarRevisionRow.ofBar b.bar b.ingestionRunId) := by
      -- a revision of the bar with the upsert's time is an upsert that is not earlier
      rintro ⟨other, hother, hsame, havailable, -⟩
      have hmem : other ∈ t.barRevisions.filter (·.barId = barId) :=
        List.mem_filter.mpr ⟨hother, decide_eq_true (hsame.trans hid)⟩
      rw [hstored.2] at hmem
      rcases List.mem_map.mp hmem with ⟨u, hu, rfl⟩
      have hlt := hlater u (List.mem_cons_of_mem first hu)
      exact absurd havailable hlt.ne
    have hlast : ∃ latest, (first :: later).getLast? = some latest :=
      ⟨_, List.getLast?_eq_some_getLast (by simp)⟩
    rcases hlast with ⟨latest, hlast⟩
    rw [hlast, Option.map_some] at h
    unfold storeChanged
    simp only [hlast, Option.map_some, Option.some.injEq]
    by_cases hsame : latest.checksum = b.checksum
    · -- the latest version has the content already
      have hequal : latest.checksum = b.bar.source.checksumSha256 := hsame
      simp only [if_pos hequal, Except.ok.injEq] at h
      rw [if_pos hsame, ← h]
      exact hstored
    · have hne : ¬ latest.checksum = b.bar.source.checksumSha256 := hsame
      simp only [if_neg hne] at h
      rw [if_neg hfree, Except.ok.injEq] at h
      rw [if_neg hsame]
      subst h
      constructor
      · exact hstored.1
      · have hrevision : (MarketBarRevisionRow.ofBar b.bar b.ingestionRunId).barId = barId := hid
        simp [List.filter_append, hstored.2, hrevision, BarUpsert.revision]

/-- The rows of a bar after a history of upserts. -/
theorem storedBar_upsertAll {us : List FactUpsert} (hconsistent : t.Consistent)
    (hnew : ∀ row ∈ t.bars, row.barId ≠ barId)
    (hincreasing : Increasing BarUpsert.availableAt (barUpserts barId us))
    (h : t.upsertAll engine us = .ok t') :
    StoredBar t' barId (changed BarUpsert.checksum (barUpserts barId us)) := by
  -- the history grows at its end
  induction us using List.reverseRecOn generalizing t' with
  | nil =>
    have hsame : t = t' := Except.ok.inj h
    subst hsame
    -- at the start neither table has the bar
    constructor
    · apply List.filter_eq_nil_iff.mpr
      intro row hrow
      simpa using hnew row hrow
    · apply List.filter_eq_nil_iff.mpr
      intro revision hrevision
      rcases hconsistent.bar_revision_fkey revision hrevision with ⟨row, hrow, hid⟩
      simpa [← hid] using hnew row hrow
  | append_singleton us u ih =>
    rcases upsertAll_append_ok h with ⟨before, hbefore, hupsert⟩
    unfold barUpserts at hincreasing ⊢
    rw [List.filterMap_append] at hincreasing ⊢
    have hstored := ih (List.pairwise_append.mp hincreasing).1 hbefore
    -- the last upsert is of the bar, or leaves its rows
    cases hu : barUpsert? barId u with
    | none =>
      have hnone : [u].filterMap (barUpsert? barId) = [] := by simp [hu]
      rw [hnone, List.append_nil]
      exact storedBar_other hstored hu (upsert_ok hupsert)
    | some b =>
      have hsome : [u].filterMap (barUpsert? barId) = [b] := by simp [hu]
      rw [hsome] at hincreasing ⊢
      rw [changed_append]
      rcases barUpsert?_eq_some.mp hu with ⟨hfact, hrun, hid⟩
      rcases List.pairwise_append.mp hincreasing with ⟨hbefore', -, hcross⟩
      have hsublist := stored_sublist (storeChanged_appends BarUpsert.checksum)
        (us.filterMap (barUpsert? barId))
      -- the bar's later upserts become available later than what is stored
      apply storedBar_upsertBar hid hstored (hbefore'.sublist hsublist)
      · intro v hv
        exact hcross v (hsublist.subset hv) b List.mem_cons_self
      · unfold FactTables.upsert at hupsert
        rw [hfact, hrun] at hupsert
        exact hupsert

/-! ## What a query sees -/

/-- The versions of a bar as a query ranks them. -/
def barVersionsOf (kept : List BarUpsert) : List BarVersion :=
  versionsOf (·.row.version) (fun first u => u.revision.version first.row) kept

/-- A revision is joined with the row of its bar. -/
theorem revision_join (t : FactTables) (barId : String) (revision : MarketBarRevisionRow) :
    ((t.bars.filter (·.barId = revision.barId)).map (revision.version ·)).filter
        (·.barId = barId) =
      if revision.barId = barId then (t.bars.filter (·.barId = barId)).map (revision.version ·)
      else [] := by
  have hfilter : ((t.bars.filter (·.barId = revision.barId)).map (revision.version ·)).filter
      (·.barId = barId) =
        ((t.bars.filter (·.barId = barId)).filter (·.barId = revision.barId)).map
          (revision.version ·) := by
    rw [List.filter_map, List.filter_comm]
    rfl
  rw [hfilter]
  split_ifs with hid
  · congr 1
    apply List.filter_eq_self.mpr
    intro row hrow
    rw [hid]
    exact (List.mem_filter.mp hrow).2
  · apply List.map_eq_nil_iff.mpr
    apply List.filter_eq_nil_iff.mpr
    intro row hrow hsame
    have hrowId : row.barId = barId := by simpa using (List.mem_filter.mp hrow).2
    have hrevisionId : row.barId = revision.barId := by simpa using hsame
    exact hid (hrevisionId.symm.trans hrowId)

/-- Which of them a query at `asOf` takes. -/
theorem barVersions_stored (hstored : StoredBar t barId kept) (asOf : Instant) :
    (barVersions t asOf).filter (·.barId = barId) =
      known (·.availableAt) asOf (barVersionsOf kept) := by
  -- the two filters commute with the map to versions
  have hbase : ((t.bars.filter (·.availableAt ≤ asOf)).map (·.version)).filter
      (·.barId = barId) =
        ((t.bars.filter (·.barId = barId)).filter (·.availableAt ≤ asOf)).map (·.version) := by
    rw [List.filter_map, List.filter_comm]
    rfl
  unfold barVersions
  rw [List.filter_append, hbase]
  -- a revision is joined with the one row that has its id
  cases kept with
  | nil =>
    have hnone : ((t.barRevisions.filter (·.availableAt ≤ asOf)).flatMap fun revision =>
        (t.bars.filter (·.barId = revision.barId)).map (revision.version ·)).filter
          (·.barId = barId) = [] := by
      rw [List.filter_flatMap]
      apply List.flatMap_eq_nil_iff.mpr
      intro revision _
      rw [revision_join, hstored.1, List.map_nil, ite_self]
    rw [hstored.1, hnone]
    rfl
  | cons first later =>
    have hjoin : ((t.barRevisions.filter (·.availableAt ≤ asOf)).flatMap fun revision =>
        (t.bars.filter (·.barId = revision.barId)).map (revision.version ·)).filter
          (·.barId = barId) =
        ((t.barRevisions.filter (·.availableAt ≤ asOf)).filter (·.barId = barId)).map
          (·.version first.row) := by
      -- revisions of other bars are left out before or after the join
      apply filter_join
      · intro revision _ hid
        rw [decide_eq_true_eq] at hid
        rw [revision_join, if_pos hid, hstored.1]
        rfl
      · intro revision _ hid
        rw [decide_eq_false_iff_not] at hid
        rw [revision_join, if_neg hid]
    have hlater : ((t.barRevisions.filter (·.availableAt ≤ asOf)).filter (·.barId = barId)).map
        (·.version first.row) =
          (later.map fun u => u.revision.version first.row).filter (·.availableAt ≤ asOf) := by
      rw [List.filter_comm, hstored.2, List.filter_map, List.map_map, List.filter_map]
      rfl
    have hfirst : ([first.row].filter (·.availableAt ≤ asOf)).map (·.version) =
        ([first.row].map (·.version)).filter (·.availableAt ≤ asOf) := by
      rw [List.filter_map]
      rfl
    rw [hstored.1, hjoin, hlater, hfirst, ← List.filter_append]
    rfl

/-- The row of a bar among the current versions. -/
theorem currentMarketBarVersions_stored (session : Session) (hstored : StoredBar t barId kept)
    (hincreasing : Increasing BarUpsert.availableAt kept) (asOf : Instant) :
    (currentMarketBarVersions session t asOf).filter (·.barId = barId) =
      (barVersionsOf (known BarUpsert.availableAt asOf kept)).getLast?.toList := by
  have := session.collate_trans
  have htrans : Std.TransCmp (BarVersion.order session.toEngine) := by
    unfold BarVersion.order
    infer_instance
  -- known among the versions as they are read is known among the stored
  have hversions : known (·.availableAt) asOf (barVersionsOf kept) =
      barVersionsOf (known BarUpsert.availableAt asOf kept) := by
    refine versionsOf_known ?_ ?_ hincreasing asOf
    · exact fun _ => rfl
    · exact fun _ _ => rfl
  have havailable : Increasing (·.availableAt)
      (barVersionsOf (known BarUpsert.availableAt asOf kept)) := by
    refine versionsOf_increasing ?_ ?_ (hincreasing.sublist List.filter_sublist)
    · exact fun _ => rfl
    · exact fun _ _ => rfl
  unfold currentMarketBarVersions
  apply session.rankedFirst_filter
  · rw [barVersions_stored hstored, hversions]
  · exact descending_of_increasing havailable

/-- The current version of a bar, at any time and after any history of its upserts: it has the
checksum of the last upsert known, and shows the first upsert of that one's run. -/
theorem currentMarketBarVersions_history (session : Session) {us : List FactUpsert}
    (hconsistent : t.Consistent) (hnew : ∀ row ∈ t.bars, row.barId ≠ barId)
    (hincreasing : Increasing BarUpsert.availableAt (barUpserts barId us))
    (h : t.upsertAll session.toEngine us = .ok t') (asOf : Instant) :
    (known BarUpsert.availableAt asOf (barUpserts barId us) = [] →
      (currentMarketBarVersions session t' asOf).filter (·.barId = barId) = []) ∧
    ∀ last, (known BarUpsert.availableAt asOf (barUpserts barId us)).getLast? = some last →
      ∃ version first,
        (currentMarketBarVersions session t' asOf).filter (·.barId = barId) = [version] ∧
        version.sourceChecksum = last.checksum ∧
        IsRunStart BarUpsert.checksum (known BarUpsert.availableAt asOf (barUpserts barId us))
          first ∧
        version.payload = first.bar ∧ version.availableAt = first.availableAt := by
  have hstored := storedBar_upsertAll hconsistent hnew hincreasing h
  have hsublist := stored_sublist (storeChanged_appends BarUpsert.checksum)
    (barUpserts barId us)
  have hcurrent := currentMarketBarVersions_stored session hstored
    (hincreasing.sublist hsublist) asOf
  have hlookback : known BarUpsert.availableAt asOf
      (changed BarUpsert.checksum (barUpserts barId us)) =
        changed BarUpsert.checksum (known BarUpsert.availableAt asOf (barUpserts barId us)) :=
    known_stored (storeChanged_appends BarUpsert.checksum) hincreasing asOf
  rw [hcurrent, hlookback]
  constructor
  · intro hnone
    rw [hnone]
    rfl
  · intro last hlast
    have hlatest : (changed BarUpsert.checksum
        (known BarUpsert.availableAt asOf (barUpserts barId us))).getLast?.map
          BarUpsert.checksum = some last.checksum := by
      rw [changed_latest, hlast, Option.map_some]
    rcases Option.map_eq_some_iff.mp hlatest with ⟨first, hfirst, hchecksum⟩
    -- a version shows the upsert that it stores
    have hfields : ∀ versions : List BarUpsert, (barVersionsOf versions).map
        (fun v => (v.availableAt, v.sourceChecksum, v.payload)) =
          versions.map fun u => (u.availableAt, u.checksum, u.bar) := by
      refine versionsOf_map ?_ ?_
      · exact fun _ => rfl
      · exact fun _ _ => rfl
    have hshown : ((barVersionsOf (changed BarUpsert.checksum
        (known BarUpsert.availableAt asOf (barUpserts barId us)))).getLast?).map
          (fun v => (v.availableAt, v.sourceChecksum, v.payload)) =
            some (first.availableAt, first.checksum, first.bar) := by
      rw [← List.getLast?_map, hfields, List.getLast?_map, hfirst, Option.map_some]
    rcases Option.map_eq_some_iff.mp hshown with ⟨version, hversion, hequal⟩
    simp only [Prod.mk.injEq] at hequal
    rcases hequal with ⟨havailable, hsource, hpayload⟩
    rw [hversion]
    exact ⟨version, first, rfl, hsource.trans hchecksum, changed_isRunStart hfirst, hpayload,
      havailable⟩

/-- A close that is revised and then restored. -/
def restoredBar : List FactUpsert :=
  [⟨1, .bar (spyBar 5 2 "a")⟩, ⟨2, .bar (spyBar 6 2 "a")⟩, ⟨3, .bar (spyBar 20 3 "b")⟩,
    ⟨4, .bar (spyBar 30 2 "a")⟩]

/-- A content that returns is not stored again. -/
theorem currentMarketBarVersions_history_restored :
    ∃ t, emptyFacts.tables.upsertAll .plain restoredBar = .ok t ∧
      ∃ version first, (currentMarketBarVersions plainSession t 40).filter
          (·.barId = "bar_spy") = [version] ∧
        version.sourceChecksum = "a" ∧
        IsRunStart BarUpsert.checksum
          (known BarUpsert.availableAt 40 (barUpserts "bar_spy" restoredBar)) first ∧
        version.payload = first.bar ∧ version.availableAt = first.availableAt := by
  refine ⟨_, rfl, ?_⟩
  have hnew : ∀ row ∈ emptyFacts.tables.bars, row.barId ≠ "bar_spy" := by decide
  have hincreasing : Increasing BarUpsert.availableAt (barUpserts "bar_spy" restoredBar) := by
    unfold Increasing
    decide
  have hhistory := currentMarketBarVersions_history plainSession emptyFacts.consistent hnew
    hincreasing rfl 40
  exact hhistory.2 ⟨spyBar 30 2 "a", 4⟩ rfl

end MacroPlatform.Store
