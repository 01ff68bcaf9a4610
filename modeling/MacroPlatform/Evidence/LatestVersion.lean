import MacroPlatform.Evidence.Calendar
import MacroPlatform.Evidence.Soundness

/-! # Which version the evidence takes

`_market_bar_versions` and `_macro_release_versions` rank the versions of a fact by whether one
of the evidence runs wrote them before they rank them by time.

* `rankedFirst_latestOfRuns`: the version that is ranked first;
* `evidence_selects_latest_of_runs`: the same of bars and of releases.
-/

namespace MacroPlatform.Evidence

open Query Store

/-- Of the versions of a fact, the latest that the runs wrote, and when they wrote none the
latest of all. -/
structure LatestOfRuns {ρ : Type} (ofRuns : ρ → Prop) (availableAt : ρ → Instant)
    (versions : List ρ) (version : ρ) : Prop where
  known : version ∈ versions
  preferred : (∃ other ∈ versions, ofRuns other) → ofRuns version
  latest : ∀ other ∈ versions, (ofRuns version → ofRuns other) →
    availableAt other ≤ availableAt version

/-- The first version of a key, by whether the runs wrote it and then by time. -/
theorem rankedFirst_latestOfRuns (engine : Engine) {ρ : Type} {key : ρ → String} {rank : ρ → ℕ}
    {availableAt : ρ → Instant} {rest : List (SortKey ρ)} {versions : List ρ}
    (hrank : ∀ version ∈ versions, rank version ≤ 1)
    [Std.TransCmp (lexicographic (desc compare rank :: desc compare availableAt :: rest))]
    {fact : String} (h : ∃ version ∈ versions, key version = fact) :
    ∃ version, (engine.rankedFirst key
          (lexicographic (desc compare rank :: desc compare availableAt :: rest)) versions).filter
        (fun v => key v = fact) = [version] ∧
      LatestOfRuns (fun v => rank v = 1) availableAt (versions.filter fun v => key v = fact)
        version := by
  rcases h with ⟨known, hknown, rfl⟩
  have hsingle : ∃ first ∈ versions, (engine.rankedFirst key
      (lexicographic (desc compare rank :: desc compare availableAt :: rest)) versions).filter
        (fun v => key v = key known) = [first] ∧ key first = key known ∧
      ∀ v ∈ versions, key v = key known →
        (lexicographic (desc compare rank :: desc compare availableAt :: rest) first v).isLE :=
    engine.rankedFirst_of_key hknown
  rcases hsingle with ⟨first, hmem, hfilter, hkey, hleast⟩
  -- no version of the fact has a greater rank, and none of the same rank is later
  have horder : ∀ v ∈ versions, key v = key known →
      rank v < rank first ∨ rank v = rank first ∧ availableAt v ≤ availableAt first := by
    intro v hv hvkey
    have hle := hleast v hv hvkey
    simp only [lexicographic_cons_isLE, desc, compare_lt_iff_lt, compare_eq_iff_eq] at hle
    rcases hle with hlt | ⟨hsame, hlt | ⟨heq, -⟩⟩
    · exact Or.inl hlt
    · exact Or.inr ⟨hsame, hlt.le⟩
    · exact Or.inr ⟨hsame, heq.le⟩
  refine ⟨first, hfilter, ?_, ?_, ?_⟩
  · exact List.mem_filter.mpr ⟨hmem, decide_eq_true hkey⟩
  · rintro ⟨other, hother, hofRuns⟩
    rw [List.mem_filter, decide_eq_true_eq] at hother
    have hbound := hrank first hmem
    rcases horder other hother.1 hother.2 with hlt | ⟨hsame, -⟩
    · omega
    · omega
  · intro other hother hruns
    rw [List.mem_filter, decide_eq_true_eq] at hother
    have hbound := hrank first hmem
    rcases horder other hother.1 hother.2 with hlt | ⟨-, hle⟩
    · -- a lesser rank is that of a version that the runs did not write
      have hother1 := hruns (by omega)
      omega
    · exact hle

theorem evidenceRank_le_one (runIds : List UUID) (ingestionRunId : Option UUID) :
    evidenceRank runIds ingestionRunId ≤ 1 := by
  unfold evidenceRank
  split <;> omega

/-- The version of a bar or of a release that the evidence takes is the latest that the evidence
runs wrote, or the latest of all when they wrote none. -/
theorem evidence_selects_latest_of_runs (engine : Engine) (t : FactTables) (runIds : List UUID)
    (cutoffAt : Instant) :
    (∀ barId, (∃ version ∈ evidenceVersions t runIds cutoffAt, version.barId = barId) →
      ∃ version, (marketBarVersions engine t runIds cutoffAt).filter
          (fun v => v.barId = barId) = [version] ∧
        LatestOfRuns (fun v => v.evidenceRank = 1) (·.availableAt)
          ((evidenceVersions t runIds cutoffAt).filter fun v => v.barId = barId) version) ∧
    (∀ releaseId, (∃ version ∈ releaseEvidenceVersions t runIds cutoffAt,
        version.releaseId = releaseId) →
      ∃ version, (macroReleaseVersions engine t runIds cutoffAt).filter
          (fun v => v.releaseId = releaseId) = [version] ∧
        LatestOfRuns (fun v => v.evidenceRank = 1) (·.availableAt)
          ((releaseEvidenceVersions t runIds cutoffAt).filter fun v => v.releaseId = releaseId)
          version) := by
  have := engine.collate_trans
  constructor
  · intro barId hknown
    -- the rank of a version is 0 or 1
    have hrank : ∀ version ∈ evidenceVersions t runIds cutoffAt, version.evidenceRank ≤ 1 := by
      intro version hversion
      rcases mem_evidenceVersions.mp hversion with ⟨row, -, -, rfl⟩ |
        ⟨revision, -, -, row, -, -, rfl⟩
      · exact evidenceRank_le_one _ _
      · exact evidenceRank_le_one _ _
    exact rankedFirst_latestOfRuns engine hrank hknown
  · intro releaseId hknown
    have hrank : ∀ version ∈ releaseEvidenceVersions t runIds cutoffAt,
        version.evidenceRank ≤ 1 := by
      intro version hversion
      unfold releaseEvidenceVersions at hversion
      simp only [List.mem_append, List.mem_map, List.mem_flatMap] at hversion
      rcases hversion with ⟨row, -, rfl⟩ | ⟨revision, -, row, -, rfl⟩
      · exact evidenceRank_le_one _ _
      · exact evidenceRank_le_one _ _
    exact rankedFirst_latestOfRuns engine hrank hknown

/-! ## A correction by another run -/

/-- The bar of Friday with a close of its own. -/
def correctedBar (availableAt : Instant) : MarketBar :=
  { fridayBar "spy" availableAt with
    close := 5 / 2
    source := ⟨"twelve_data", "spy", "Twelve Data", "checksum_corrected"⟩ }

/-- Run 1 writes the bar, run 2 its correction ten minutes later. -/
def correctedByOther : BarStore :=
  ((BarStore.mk noBars.toFactStore noBars_written).upsert .plain
    ⟨1, .bar (fridayBar "spy" (utc 20667 23 50))⟩).upsert .plain
      ⟨2, .bar (correctedBar (utc 20668 0 0))⟩

/-- With run 1 as its evidence, the report of 00:15 takes the bar that was corrected at 00:00. -/
theorem corrected_value_selected :
    ∃ version ∈ marketBarVersions .plain correctedByOther.tables [1] (utc 20668 0 15),
      ∃ other ∈ evidenceVersions correctedByOther.tables [1] (utc 20668 0 15),
        other.barId = version.barId ∧ version.availableAt < other.availableAt ∧
          other.payload.close ≠ version.payload.close := by
  decide +kernel

end MacroPlatform.Evidence
