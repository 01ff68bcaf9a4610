import MacroPlatform.Report.Validation

/-! # Reports without findings

A report that passes every test of the validator gets no issue but those of the gate.

* `validate_passes`: where every test is passed, only the gate is heard.
-/

namespace MacroPlatform.Report

open Daily

variable {pydantic : Pydantic} {python : Python} {snapshot : ReportInputSnapshot Json}

/-! ## Tests that are passed -/

theorem unless_issues {checks : Checks} {ok : Bool} {issue : ReportValidationIssue}
    (h : ok = true) : (checks.unless ok issue).issues = checks.issues := by
  unfold Checks.unless
  rw [if_pos h]

/-- Sources that are known add no issue. -/
theorem appendSourceIssues_issues {sourceIds sourceRefIds : List String} {checks : Checks}
    (h : ∀ id ∈ sourceRefIds, id ∈ sourceIds) :
    (appendSourceIssues sourceIds checks sourceRefIds).issues = checks.issues := by
  unfold appendSourceIssues
  refine List.foldlRecOn (motive := fun after : Checks => after.issues = checks.issues) _ _ rfl ?_
  intro after hafter sourceRefId hmem
  have hsource := h sourceRefId (List.mem_filter.mp (mem_sortedSet.mp hmem)).1
  have htest := @unless_issues { after with checked := after.checked ++ [sourceRefId] }
    (sourceRefId ∈ sourceIds) (sourceIssue
      "source reference is not present in the approved input snapshot" sourceRefId)
    (decide_eq_true hsource)
  exact htest.trans hafter

theorem checkFact_issues {sectionSources : List String} {checks : Checks} {factId : String}
    {fact : Fact} (hfact : lookup? (loadFacts python snapshot) factId = some fact)
    (h : FactPasses snapshot sectionSources fact) :
    (checkFact python snapshot sectionSources checks factId).issues = checks.issues := by
  unfold checkFact
  rw [hfact]
  simp only
  rw [unless_issues (decide_eq_true h.cited), unless_issues (decide_eq_true h.reportDate),
    unless_issues (decide_eq_true h.availableAt), unless_issues (by simp [h.validReportDate]),
    unless_issues (by simp [h.validAvailableAt]), appendSourceIssues_issues h.sources]

/-- A claim that passes adds none. -/
theorem checkClaim_issues {checks : Checks} {claim : ReportClaim} {fact : Fact}
    (hfact : lookup? (loadFacts python snapshot) claim.factId = some fact)
    (h : ClaimPasses python claim fact) :
    (checkClaim python snapshot checks claim).issues = checks.issues := by
  have hunit : claim.claimType ≠ .number ∨ claim.unit = fact.unit := by
    by_cases htype : claim.claimType = .number
    · exact Or.inr (h.unit htype)
    · exact Or.inl htype
  have hdirection : claim.claimType ≠ .direction ∨ claim.direction = fact.direction := by
    by_cases htype : claim.claimType = .direction
    · exact Or.inr (h.direction htype)
    · exact Or.inl htype
  unfold checkClaim
  rw [hfact]
  simp only
  rw [unless_issues (decide_eq_true (Prod.ext h.period.1 h.period.2)),
    unless_issues (decide_eq_true hdirection), unless_issues (decide_eq_true hunit),
    unless_issues h.value]

/-- A loop of passed tests finds nothing. -/
theorem foldl_issues {α : Type} {step : Checks → α → Checks} {xs : List α} (checks : Checks)
    (h : ∀ x ∈ xs, ∀ before : Checks, (step before x).issues = before.issues) :
    (xs.foldl step checks).issues = checks.issues := by
  refine List.foldlRecOn (motive := fun after : Checks => after.issues = checks.issues) _ _ rfl ?_
  intro after hafter x hx
  exact (h x hx after).trans hafter

/-- Nor does a section that passes. -/
theorem checkSection_issues {checks : Checks} {sect : SectionFields}
    (hsources : ∀ id, CitesSource sect id → id ∈ snapshotSourceIds snapshot)
    (h : SectionPasses python snapshot sect) :
    (checkSection python snapshot checks sect).issues = checks.issues := by
  unfold checkSection
  simp only
  rw [foldl_issues, foldl_issues, appendSourceIssues_issues]
  · intro id hid
    exact hsources id (mem_sectionSourceIds.mp hid)
  · intro factId hmem before
    rw [python.mem_setOrder] at hmem
    obtain ⟨fact, hfact, hpasses⟩ := h.facts factId (mem_sectionFactIds.mp hmem)
    exact checkFact_issues hfact hpasses
  · intro claim hclaim before
    obtain ⟨fact, hfact, hpasses⟩ := h.claims claim hclaim
    exact checkClaim_issues hfact hpasses

theorem checkSource_issues {checks : Checks} {source : ReportSourceReference} {record : Json}
    (hrecord : lookup? (loadSourceRecords snapshot) source.sourceRefId = some record)
    (h : (typedRecord pydantic source).pyEq record = true) :
    (checkSource pydantic snapshot checks source).issues = checks.issues := by
  unfold checkSource
  rw [hrecord]
  exact unless_issues h

theorem checkIdentity_issues {report : StoredDailyReport Json} {typed : ReportFields}
    (hdate : report.reportDate = snapshot.reportDate)
    (hid : report.inputSnapshotId = snapshot.snapshotId)
    (hidentity : identityMismatches snapshot typed.inputSnapshot = [])
    (hstatus : typed.status ≠ .incomplete) :
    (checkIdentity snapshot report typed).issues = [] := by
  unfold checkIdentity
  simp only
  rw [unless_issues (decide_eq_true hstatus), unless_issues (decide_eq_true hidentity),
    unless_issues (decide_eq_true hid), unless_issues (decide_eq_true hdate)]

/-! ## The whole report -/

/-- What the tests of the validator ask of a report. -/
structure Passes (pydantic : Pydantic) (python : Python) (snapshot : ReportInputSnapshot Json)
    (report : StoredDailyReport Json) (typed : DailyReport pydantic) : Prop where
  reportDate : report.reportDate = snapshot.reportDate
  inputSnapshotId : report.inputSnapshotId = snapshot.snapshotId
  identity : identityMismatches snapshot typed.inputSnapshot = []
  complete : typed.status ≠ .incomplete
  sources : ∃ sources, typed.sources? pydantic = some sources ∧ ∀ source ∈ sources,
    ∃ record, lookup? (loadSourceRecords snapshot) source.sourceRefId = some record ∧
      (typedRecord pydantic source).pyEq record = true
  cited : ∀ entry ∈ typed.sections, ∀ id, CitesSource entry.2.toSectionFields id →
    id ∈ snapshotSourceIds snapshot
  sections : ∀ entry ∈ typed.sections, SectionPasses python snapshot entry.2.toSectionFields

/-- Where every test is passed, only the gate is heard. -/
theorem validate_passes {report : StoredDailyReport Json} {typed : DailyReport pydantic}
    {quality : List ReportValidationIssue}
    (htyped : DailyReport.modelValidate pydantic report.payload = some typed)
    (hquality : qualityIssues python snapshot = .ok quality)
    (h : Passes pydantic python snapshot report typed) :
    validate pydantic python snapshot report = .ok quality := by
  obtain ⟨sources, hsources, hrecords⟩ := h.sources
  unfold validate
  rw [htyped]
  refine Raising.bind_ok.mpr ⟨quality, hquality, ?_⟩
  rw [hsources]
  simp only [Option.getD_some]
  -- no check adds an issue, so both folds leave the list of the gate
  have hsections := @foldl_issues SectionFields (checkSection python snapshot)
    (typed.sections.map fun entry => entry.2.toSectionFields)
  have hsourcesIssues := @foldl_issues ReportSourceReference (checkSource pydantic snapshot) sources
  rw [hsections, hsourcesIssues]
  · simp only [checkIdentity_issues h.reportDate h.inputSnapshotId h.identity h.complete,
      List.nil_append]
  -- a source whose record is the snapshot's
  · intro source hsource before
    obtain ⟨record, hrecord, hsame⟩ := hrecords source hsource
    exact checkSource_issues hrecord hsame
  -- a section whose facts and claims pass
  · intro sect hsect before
    obtain ⟨entry, hentry, rfl⟩ := List.mem_map.mp hsect
    exact checkSection_issues (h.cited entry hentry) (h.sections entry hentry)

/-! ## Loading -/

/-- The value of a key in a list of distinct keys. -/
theorem lookup?_of_nodup {α : Type} {fields : List (String × α)} {field : String × α}
    (hnodup : (fields.map Prod.fst).Nodup) (hmem : field ∈ fields) :
    lookup? fields field.1 = some field.2 := by
  unfold lookup?
  have hsome : (fields.find? fun other => other.1 = field.1).isSome :=
    List.find?_isSome.mpr ⟨field, hmem, decide_eq_true rfl⟩
  obtain ⟨found, hfound⟩ := Option.isSome_iff_exists.mp hsome
  have hkey : found.1 = field.1 := by simpa using List.find?_some hfound
  have hsame : found = field :=
    List.inj_on_of_nodup_map hnodup (List.mem_of_find?_eq_some hfound) hmem hkey
  rw [hfound, hsame]
  rfl

end MacroPlatform.Report
