import MacroPlatform.Report.FallbackReferences
import MacroPlatform.Report.ValidationComplete

/-! # The fallback report is stored and passes its validation

The constructor takes the payload that the builder wrote, and the validator finds nothing in it
but the warnings of the gate.

* `Readable.build`: the builder returns its report;
* `Readable.validate`: the validator finds what the gate found.
-/

namespace MacroPlatform.Report

open Daily

variable {w : Writing} {pydantic : Pydantic} {python : Python} {publishAt : Day → Instant}
variable {snapshot : ReportInputSnapshot Json} {body : SnapshotBody}
variable {policy : ReportDayPolicyResult}
variable {generatedAt : Instant} {issues : List ReportValidationIssue}
variable {contentOf : String → SectionContent} {reportId reportVersion : String}
variable {generationId : Option UUID}

/-! ## The stored report -/

/-- The report that the builder makes of some contents. -/
def fallbackReport (python : Python) (publishAt : Day → Instant)
    (snapshot : ReportInputSnapshot Json) (reportId reportVersion : String) (generatedAt : Instant)
    (generationId : Option UUID) (issues : List ReportValidationIssue)
    (contentOf : String → SectionContent) : StoredDailyReport Json where
  reportId
  reportDate := snapshot.reportDate
  reportVersion
  contractVersion := "1.0"
  inputSnapshotId := snapshot.snapshotId
  status := fallbackStatus issues
  publicationDecision :=
    if issues.any fun issue => issue.severity = .error then .notPublished else .published
  generatedAt
  payload := fallbackPayload python publishAt snapshot reportId generatedAt issues
    (writtenSections python contentOf)
  generationId

/-- A source of the snapshot is read from the stored report. -/
theorem storedSourceRef_read {cited : CitedSource}
    (h : SourceReads pydantic (sourceReference w cited)) :
    storedSourceRef pydantic (sourceReference w cited) =
      some (sourceRefId w cited.toSourceRef) := by
  obtain ⟨retrievedAt, hretrieved, -⟩ := h.retrievedAt
  have hkeys : KnowsKeys ["source_ref_id", "provider_id", "provider_record_id", "source_name",
      "source_url", "retrieved_at", "checksum_sha256", "external_llm_allowed"]
        (sourceReference w cited) := by
    have hsub : ∀ key ∈ ["source_ref_id", "provider_id", "provider_record_id", "source_name",
        "source_url", "retrieved_at", "checksum_sha256"],
          key ∈ ["source_ref_id", "provider_id", "provider_record_id", "source_name",
            "source_url", "retrieved_at", "checksum_sha256", "external_llm_allowed"] := by
      decide
    exact fun key hkey => hsub key hkey
  have hfits : FitsText 1 128 (sourceRefId w cited.toSourceRef) :=
    stableId_fits (by decide) (by decide)
  have hurl : ∃ url, ((sourceReference w cited).get "source_url").toOption? (text 0) =
      some url := by
    show ∃ url, (Json.ofOption .str cited.sourceUrl).toOption? (text 0) = some url
    cases cited.sourceUrl with
    | none => exact ⟨_, rfl⟩
    | some s => exact ⟨_, rfl⟩
  obtain ⟨url, hurl⟩ := hurl
  unfold storedSourceRef
  simp only [Option.bind_eq_bind, Option.bind_eq_some_iff, Option.guard_eq_some', exists_const]
  exact ⟨hkeys, _, hfits.read, _, cited.provider.read, _, cited.record.read, _, cited.name.read, _,
    hurl, _, hretrieved, _, cited.checksum.read, none, rfl, rfl⟩

/-- The sources of the payload are those of the snapshot. -/
theorem Readable.storedSources (h : Readable w pydantic python publishAt snapshot body policy
    generatedAt issues contentOf) :
    storedSources pydantic (fallbackPayload python publishAt snapshot reportId generatedAt issues
      (writtenSections python contentOf)) = some (body.sourceReferences.map Prod.fst) := by
  have hget : (((fallbackPayload python publishAt snapshot reportId generatedAt issues
      (writtenSections python contentOf)).get "sections").get "source_references").get "items" =
        .arr (contentOf "source_references").items := rfl
  have hids : body.sourceReferences.mapM (fun entry => storedSourceRef pydantic entry.2) =
      some (body.sourceReferences.map Prod.fst) := by
    refine Raising.mapM_some_map ?_
    intro entry hentry
    obtain ⟨cited, rfl⟩ := h.snapshotOf.material.sources.cited entry hentry
    refine storedSourceRef_read (h.reads.sources _ ?_)
    rw [h.snapshotOf.rawSources]
    exact List.mem_map_of_mem hentry
  unfold Report.storedSources
  rw [hget, h.sourceItems]
  show (body.sourceReferences.map Prod.snd).mapM (storedSourceRef pydantic) = _
  rw [List.mapM_map]
  exact hids

/-- What the payload refers to is known when it is in each of its sections. -/
theorem writtenSections_refers {fieldName : String} {known : String → Prop}
    (hfield : fieldName ∈ ["fact_ids", "source_ref_ids"])
    (h : ∀ limit ∈ sectionLimits, RefersOnly fieldName known
      (sectionPayload python limit.1 limit.2 (contentOf limit.1))) :
    RefersOnly fieldName known (.obj (writtenSections python contentOf)) := by
  refine refersOnly_of_null ?_ ?_
  · rcases List.mem_cons.mp hfield with rfl | hsource
    · rfl
    · rw [List.mem_singleton.mp hsource]
      rfl
  · intro field hmem
    obtain ⟨limit, hlimit, rfl⟩ := List.mem_map.mp hmem
    exact h limit hlimit

theorem Readable.sections_factIds (h : Readable w pydantic python publishAt snapshot body policy
    generatedAt issues contentOf) :
    RefersOnly "fact_ids" (· ∈ snapshot.factIds) (.obj (writtenSections python contentOf)) := by
  refine writtenSections_refers (by simp) ?_
  intro limit _
  have hcontent := h.contents.content limit.1
  refine (hcontent.payload_factIds h.snapshotOf limit.1 limit.2).mono ?_
  rintro id ⟨raw, hraw, rfl⟩
  exact (hcontent.shown raw hraw).factId_mem h.snapshotOf

theorem Readable.sections_sourceIds (h : Readable w pydantic python publishAt snapshot body
    policy generatedAt issues contentOf) :
    RefersOnly "source_ref_ids" (· ∈ body.sourceReferences.map Prod.fst)
      (.obj (writtenSections python contentOf)) := by
  refine writtenSections_refers (by simp) ?_
  intro limit _
  exact (h.contents.content limit.1).payload_sourceIds h.snapshotOf limit.1 limit.2

/-- The payload repeats the identity of the report. -/
theorem Readable.payloadIdentity (h : Readable w pydantic python publishAt snapshot body policy
    generatedAt issues contentOf) :
    PayloadIdentity pydantic (fallbackReport python publishAt snapshot reportId reportVersion
      generatedAt generationId issues contentOf) where
  reportId := rfl
  reportDate := rfl
  contractVersion := rfl
  status := literal_status (fallbackStatus issues)
  decision := by
    unfold fallbackReport fallbackPayload
    rw [not_blocking h.warnings]
    rfl
  snapshotId := rfl
  sources := by
    obtain ⟨sourceRefIds, hread, hknown⟩ := refersOnly_iff.mp h.sections_sourceIds
    exact ⟨_, h.storedSources, h.snapshotOf.material.sources.distinct, sourceRefIds, hread, hknown⟩

/-- The builder returns its report. -/
theorem Readable.build (h : Readable w pydantic python publishAt snapshot body policy
    generatedAt issues contentOf) (hquality : qualityIssues python snapshot = .ok issues)
    (hid : FitsText 1 128 reportId) (hversion : FitsText 1 64 reportVersion) :
    build pydantic python publishAt snapshot reportId reportVersion generatedAt generationId =
      .ok (fallbackReport python publishAt snapshot reportId reportVersion generatedAt generationId
        issues contentOf) := by
  refine Raising.bind_ok.mpr ⟨issues, hquality, Raising.bind_ok.mpr
    ⟨_, h.contents.fallbackSections, stored_ok.mpr ?_⟩⟩
  have hcontract : boundedText 1 32 (.str "1.0") = some "1.0" := by decide +kernel
  unfold storedReport
  simp only [Option.bind_eq_bind, Option.bind_eq_some_iff]
  refine ⟨reportId, hid.read, reportVersion, hversion.read, "1.0", hcontract,
    snapshot.snapshotId, h.snapshotOf.snapshotId.read, _, strippedDict_payload _ _ _ _, ?_⟩
  exact if_pos h.payloadIdentity

/-! ## The tests of the validator -/

/-- The validator finds a fact of the body under its id. -/
theorem SnapshotOf.loadFacts (h : SnapshotOf w python snapshot body policy) {raw : Json}
    (hraw : raw ∈ body.facts) {factId : String} (hid : raw.get "fact_id" = .str factId) :
    lookup? (loadFacts python snapshot) factId = some (Fact.ofRaw python factId raw) := by
  have hkeys : (body.facts.filterMap fun raw => (raw.get "fact_id").toStr?.map fun factId =>
      (factId, Fact.ofRaw python factId raw)).map Prod.fst = body.factIds := by
    have hstrings : (body.facts.map (·.get "fact_id")).filterMap Json.toStr? = body.factIds := by
      rw [h.material.factIds]
      exact stringsOf_strings body.factIds
    rw [List.filterMap_map] at hstrings
    rw [List.map_filterMap, ← hstrings]
    refine List.filterMap_congr ?_
    intro raw _
    show ((raw.get "fact_id").toStr?.map _).map Prod.fst = (raw.get "fact_id").toStr?
    cases (raw.get "fact_id").toStr? <;> rfl
  have hnodup := h.material.distinct
  rw [← hkeys] at hnodup
  unfold Report.loadFacts
  rw [h.rawFacts, dict_of_nodup hnodup]
  have hmem : (factId, Fact.ofRaw python factId raw) ∈ body.facts.filterMap fun raw =>
      (raw.get "fact_id").toStr?.map fun factId => (factId, Fact.ofRaw python factId raw) := by
    refine List.mem_filterMap.mpr ⟨raw, hraw, ?_⟩
    rw [hid]
    rfl
  exact lookup?_of_nodup hnodup hmem

/-- It loads the records of the body's sources. -/
theorem SnapshotOf.loadSourceRecords (h : SnapshotOf w python snapshot body policy) :
    loadSourceRecords snapshot =
      body.sourceReferences.map fun entry => (entry.1, rawRecord entry.2) := by
  have hpairs : ∀ entries : List (String × Json), (∀ entry ∈ entries, ∃ cited : CitedSource,
      entry = (sourceRefId w cited.toSourceRef, sourceReference w cited)) →
        (entries.map Prod.snd).filterMap (fun raw => (raw.get "source_ref_id").toStr?.map
          fun sourceRefId => (sourceRefId, rawRecord raw)) =
            entries.map fun entry => (entry.1, rawRecord entry.2) := by
    intro entries hcited
    induction entries with
    | nil => rfl
    | cons entry entries ih =>
      obtain ⟨cited, rfl⟩ := hcited entry List.mem_cons_self
      have hrest := ih fun other hother => hcited other (List.mem_cons_of_mem _ hother)
      rw [List.map_cons, List.map_cons, ← hrest]
      rfl
  have hkeys : (body.sourceReferences.map fun entry =>
      (entry.1, rawRecord entry.2)).map Prod.fst = body.sourceReferences.map Prod.fst := by
    rw [List.map_map]
    rfl
  unfold Report.loadSourceRecords
  rw [h.rawSources, hpairs _ h.material.sources.cited, dict_of_nodup]
  rw [hkeys]
  exact h.material.sources.distinct

theorem SnapshotOf.snapshotSourceIds (h : SnapshotOf w python snapshot body policy) :
    snapshotSourceIds snapshot = body.sourceReferences.map Prod.fst := by
  unfold Report.snapshotSourceIds
  rw [h.loadSourceRecords, List.map_map]
  rfl

/-- A fact that a section shows passes its tests. -/
theorem ContentOf.factPasses {content : SectionContent} {facts sources : List Json}
    (h : ContentOf snapshot body content facts sources)
    (hsnapshot : SnapshotOf w python snapshot body policy)
    (hdate : python.dateFromIsoformat (Day.isoformat snapshot.reportDate) =
      some snapshot.reportDate) {sectionId : String} {maxCharacters : ℕ} {raw : Json}
    (hraw : raw ∈ facts) :
    FactPasses snapshot
      (sectionSourceIds (typedSection python sectionId maxCharacters content facts))
      (Fact.ofRaw python (shownText raw "fact_id") raw) := by
  have hshown := h.shown raw hraw
  obtain ⟨id, hid, hsource⟩ := hshown.source
  obtain ⟨availableAt, hparsed, hbefore⟩ := hsnapshot.material.available raw hshown.mem
  have hsources : (Fact.ofRaw python (shownText raw "fact_id") raw).sourceRefIds = [id] := by
    show stringsOf (raw.get "source_ref_ids" (.arr [])) = [id]
    rw [hsource, stringsOf_strings]
  have hparsedDate : parseDate python (raw.get "report_date") = some snapshot.reportDate := by
    rw [hshown.reportDate]
    exact hdate
  refine ⟨?_, ?_, ?_, ?_, ?_, ?_⟩
  -- its source is one of the snapshot
  · intro other hother
    rw [hsources] at hother
    rw [List.mem_singleton.mp hother, hsnapshot.snapshotSourceIds]
    exact hid
  -- its times are read, so neither is refused
  · show (isGiven (raw.get "available_at") &&
      (parseDatetime python (raw.get "available_at")).isNone) = false
    rw [hparsed]
    exact Bool.and_false _
  · show (isGiven (raw.get "report_date") &&
      (parseDate python (raw.get "report_date")).isNone) = false
    rw [hparsedDate]
    exact Bool.and_false _
  -- it was available by the cutoff
  · intro found hfound
    have hfound : parseDatetime python (raw.get "available_at") = some found := hfound
    rw [hparsed] at hfound
    rw [← Option.some.inj hfound]
    exact hbefore
  -- it is of the report's date
  · intro found hfound
    have hfound : parseDate python (raw.get "report_date") = some found := hfound
    rw [hparsedDate] at hfound
    exact (Option.some.inj hfound).symm
  -- its source is named by the item that shows it
  · rw [hsources]
    refine ⟨id, List.mem_singleton_self id, mem_sectionSourceIds.mpr (Or.inr ?_)⟩
    have hitem : shownItem raw ∈ content.items := by
      rw [h.items]
      exact List.mem_append_left _ (List.mem_map_of_mem hraw)
    refine ⟨shownItem raw, hitem, shownItem raw, [.str id], Json.Inside.here, ?_, by simp⟩
    show strings (stringsOf (raw.get "source_ref_ids" (.arr []))) = .arr [.str id]
    rw [hsource, stringsOf_strings]
    rfl

/-- The claim made of a fact passes against this fact. -/
theorem ShownFact.claimPasses {raw : Json} (h : ShownFact snapshot body raw) :
    ClaimPasses python (typedClaim raw) (Fact.ofRaw python (shownText raw "fact_id") raw) := by
  obtain ⟨value, hvalue⟩ := h.value
  refine ⟨?_, ?_, ?_, ?_, ?_⟩
  -- the value of the claim is the fact's own
  · show valuesEqual python (raw.get "value") (raw.get "value") = true
    rw [hvalue]
    cases value with
    | none => rfl
    | some s => exact pyEq_str s
  -- the claim is neither numeric nor a direction
  · intro htype
    cases htype
  · intro htype
    cases htype
  -- the periods are absent on both sides
  · show none = parseDate python (raw.get "period_start")
    rw [h.periodStart]
    rfl
  · show none = parseDate python (raw.get "period_end")
    rw [h.periodEnd]
    rfl

/-- The facts that a section uses are those that it shows. -/
theorem ContentOf.usesFact {content : SectionContent} {facts sources : List Json}
    (h : ContentOf snapshot body content facts sources)
    (hsnapshot : SnapshotOf w python snapshot body policy) {sectionId : String}
    {maxCharacters : ℕ} {factId : String}
    (huses : UsesFact (typedSection python sectionId maxCharacters content facts) factId) :
    ∃ raw ∈ facts, shownText raw "fact_id" = factId := by
  rcases huses with hown | ⟨item, hitem, hnested⟩ | ⟨claim, hclaim, rfl⟩
  · exact h.factId_known hsnapshot (mem_sortedSet.mp hown)
  · exact (h.item_factIds hsnapshot hitem).nested (mem_nestedReferenceIds.mpr hnested)
  · obtain ⟨raw, hraw, rfl⟩ := List.mem_map.mp hclaim
    exact ⟨raw, (List.mem_filter.mp hraw).1, rfl⟩

/-- A section made of facts that can be shown passes. -/
theorem ContentOf.sectionPasses {content : SectionContent} {facts sources : List Json}
    (h : ContentOf snapshot body content facts sources)
    (hsnapshot : SnapshotOf w python snapshot body policy)
    (hdate : python.dateFromIsoformat (Day.isoformat snapshot.reportDate) =
      some snapshot.reportDate) (sectionId : String) (maxCharacters : ℕ) :
    SectionPasses python snapshot
      (typedSection python sectionId maxCharacters content facts) where
  facts factId huses := by
    obtain ⟨raw, hraw, rfl⟩ := h.usesFact hsnapshot huses
    have hshown := h.shown raw hraw
    exact ⟨_, hsnapshot.loadFacts hshown.mem hshown.factId, h.factPasses hsnapshot hdate hraw⟩
  claims claim hclaim := by
    obtain ⟨raw, hraw, rfl⟩ := List.mem_map.mp hclaim
    have hshown := h.shown raw (List.mem_filter.mp hraw).1
    exact ⟨_, hsnapshot.loadFacts hshown.mem hshown.factId, hshown.claimPasses⟩

theorem ContentOf.citesSource {content : SectionContent} {facts sources : List Json}
    (h : ContentOf snapshot body content facts sources)
    (hsnapshot : SnapshotOf w python snapshot body policy) {sectionId : String}
    {maxCharacters : ℕ} {id : String}
    (hcites : CitesSource (typedSection python sectionId maxCharacters content facts) id) :
    id ∈ snapshotSourceIds snapshot := by
  rw [hsnapshot.snapshotSourceIds]
  rcases hcites with hown | ⟨item, hitem, hnested⟩
  · exact h.sourceId_known hsnapshot (mem_sortedSet.mp hown)
  · exact (h.item_sourceIds hsnapshot hitem).nested (mem_nestedReferenceIds.mpr hnested)

/-- The validator finds in the fallback what the gate found. -/
theorem Readable.validate (h : Readable w pydantic python publishAt snapshot body policy
    generatedAt issues contentOf) (hquality : qualityIssues python snapshot = .ok issues)
    (hid : IsId reportId) :
    validate pydantic python snapshot (fallbackReport python publishAt snapshot reportId
      reportVersion generatedAt generationId issues contentOf) = .ok issues := by
  obtain ⟨fields, hread, hfields⟩ : ∃ fields, ReportFields.read pydantic (fallbackPayload python
      publishAt snapshot reportId generatedAt issues (writtenSections python contentOf)) =
        some fields ∧ FallbackFields python snapshot issues contentOf fields := h.fields hid
  have hreferences := h.references hfields
  have htyped : DailyReport.modelValidate pydantic (fallbackReport python publishAt snapshot
      reportId reportVersion generatedAt generationId issues contentOf).payload =
        some ⟨fields, hreferences⟩ := DailyReport.modelValidate_some.mpr hread
  obtain ⟨sources, hsources, -, hrecords⟩ := h.sources hfields
  refine validate_passes htyped hquality ?_
  exact
    { reportDate := rfl
      inputSnapshotId := rfl
      identity := hfields.identity
      complete := by
        show fields.status ≠ .incomplete
        rw [hfields.status]
        exact fallbackStatus_ne h.warnings
      sources := by
        refine ⟨sources, hsources, ?_⟩
        intro source hsource
        obtain ⟨entry, hentry, hkey, hsame⟩ := hrecords source hsource
        refine ⟨rawRecord entry.2, ?_, hsame⟩
        have hdistinct := h.snapshotOf.material.sources.distinct
        have hmem : (entry.1, rawRecord entry.2) ∈
            body.sourceReferences.map fun entry => (entry.1, rawRecord entry.2) :=
          List.mem_map.mpr ⟨entry, hentry, rfl⟩
        have hnodup : ((body.sourceReferences.map fun entry =>
            (entry.1, rawRecord entry.2)).map Prod.fst).Nodup := by
          rw [List.map_map]
          exact hdistinct
        rw [h.snapshotOf.loadSourceRecords, ← hkey]
        exact lookup?_of_nodup hnodup hmem
      cited := by
        intro entry hentry id hcites
        obtain ⟨limit, -, -, hsection⟩ := hfields.section_of hentry
        rw [hsection] at hcites
        exact (h.contents.content limit.1).citesSource h.snapshotOf hcites
      sections := by
        intro entry hentry
        obtain ⟨limit, -, -, hsection⟩ := hfields.section_of hentry
        rw [hsection]
        exact (h.contents.content limit.1).sectionPasses h.snapshotOf h.reads.isoDate limit.1
          limit.2 }

end MacroPlatform.Report
