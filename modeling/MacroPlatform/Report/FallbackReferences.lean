import MacroPlatform.Report.FallbackReport

/-! # The references of a fallback report

Its sources are those of the snapshot, each once, and what its sections refer to is there.

* `sourceReferences_read`: the sources are read as they were written;
* `Readable.references`: every reference of the fallback resolves.
-/

namespace MacroPlatform.Report

open Daily

variable {w : Writing} {pydantic : Pydantic} {python : Python} {publishAt : Day → Instant}
variable {snapshot : ReportInputSnapshot Json} {body : SnapshotBody}
variable {policy : ReportDayPolicyResult}

/-! ## Sources -/

theorem pyEq_str (s : String) : (Json.str s).pyEq (.str s) = true := by
  simp [Json.pyEq]

theorem pyEq_ofOption_str (value : Option String) :
    (Json.ofOption .str value).pyEq (.ofOption .str value) = true := by
  cases value with
  | none => rfl
  | some s => exact pyEq_str s

/-- A source of the snapshot is read as it was written. -/
theorem sourceReference_read {cited : CitedSource}
    (h : SourceReads pydantic (sourceReference w cited)) :
    ∃ source, ReportSourceReference.modelValidate pydantic (sourceReference w cited) =
      some source ∧ source.sourceRefId = sourceRefId w cited.toSourceRef ∧
        (typedRecord pydantic source).pyEq (rawRecord (sourceReference w cited)) = true := by
  obtain ⟨retrievedAt, hretrieved, hwritten⟩ := h.retrievedAt
  obtain ⟨url, hurl, hsame⟩ := h.sourceUrl
  -- every key that the snapshot writes is one that the contract knows
  have hkeys : KnowsKeys ["source_ref_id", "provider_id", "provider_record_id", "source_name",
      "source_url", "retrieved_at", "checksum_sha256", "external_llm_allowed"]
        (sourceReference w cited) := by
    have hsub : ∀ key ∈ ["source_ref_id", "provider_id", "provider_record_id", "source_name",
        "source_url", "retrieved_at", "checksum_sha256"],
          key ∈ ["source_ref_id", "provider_id", "provider_record_id", "source_name",
            "source_url", "retrieved_at", "checksum_sha256", "external_llm_allowed"] := by
      decide
    exact fun key hkey => hsub key hkey
  have hfits : FitsText 1 128 (sourceRefId w cited.toSourceRef) :=
    stableId_fits (by decide) (by decide)
  have hid := text_str hfits.stripped hfits.atLeast
  have hprovider := text_str cited.provider.stripped cited.provider.atLeast
  have hrecord := text_str cited.record.stripped cited.record.atLeast
  have hname := text_str cited.name.stripped cited.name.atLeast
  -- the URL is the same before and after, null or not
  have hurlSame : cited.sourceUrl = url := by
    have hget : (Json.ofOption .str cited.sourceUrl).toOption? Json.toStr? = some url := hsame
    cases hcited : cited.sourceUrl with
    | none =>
      rw [hcited] at hget
      exact Option.some.inj hget
    | some given =>
      rw [hcited] at hget
      exact Option.some.inj hget
  have hwritten : utcIsoformat cited.retrievedAt = pydantic.writeDatetime retrievedAt :=
    Option.some.inj hwritten
  refine ⟨⟨sourceRefId w cited.toSourceRef, cited.providerId, cited.providerRecordId,
    cited.sourceName, url, retrievedAt, cited.checksumSha256, none⟩, ?_, rfl, ?_⟩
  -- the fields are read one by one, in the order of the contract
  · unfold ReportSourceReference.modelValidate
    simp only [Option.bind_eq_bind, Option.bind_eq_some_iff, Option.guard_eq_some', exists_const]
    exact ⟨hkeys, _, hid, _, hprovider, _, hrecord, _, hname, _, hurl, _, hretrieved, _,
      cited.checksum.read, none, rfl, rfl⟩
  -- the record of what is read is the record that was written
  · have hleft : typedRecord pydantic ⟨sourceRefId w cited.toSourceRef, cited.providerId,
        cited.providerRecordId, cited.sourceName, url, retrievedAt, cited.checksumSha256, none⟩ =
          sourceReference w cited := by
      unfold sourceReference
      rw [hwritten, hurlSame]
      rfl
    have hright : rawRecord (sourceReference w cited) = sourceReference w cited := rfl
    rw [hleft, hright]
    unfold sourceReference
    simp [Json.pyEq, Json.pyEqFields, pyEq_ofOption_str]

/-- The sources of the snapshot are read, each with its record. -/
theorem sourceReferences_read {entries : List (String × Json)}
    (hcited : ∀ entry ∈ entries, ∃ cited : CitedSource,
      entry = (sourceRefId w cited.toSourceRef, sourceReference w cited))
    (h : ∀ entry ∈ entries, SourceReads pydantic entry.2) :
    ∃ sources, (entries.map Prod.snd).mapM (ReportSourceReference.modelValidate pydantic) =
      some sources ∧ sources.map (·.sourceRefId) = entries.map Prod.fst ∧
        ∀ source ∈ sources, ∃ entry ∈ entries, entry.1 = source.sourceRefId ∧
          (typedRecord pydantic source).pyEq (rawRecord entry.2) = true := by
  -- induction on the sources of the snapshot
  induction entries with
  | nil => exact ⟨[], rfl, rfl, fun _ hsource => absurd hsource List.not_mem_nil⟩
  | cons entry entries ih =>
    obtain ⟨cited, rfl⟩ := hcited entry List.mem_cons_self
    obtain ⟨source, hread, hid, hrecord⟩ := sourceReference_read (h _ List.mem_cons_self)
    obtain ⟨sources, hreads, hids, hrecords⟩ :=
      ih (fun entry hentry => hcited entry (List.mem_cons_of_mem _ hentry))
        fun entry hentry => h entry (List.mem_cons_of_mem _ hentry)
    refine ⟨source :: sources, ?_, ?_, ?_⟩
    · rw [List.map_cons, List.mapM_cons, hread, hreads]
      rfl
    · rw [List.map_cons, List.map_cons, hid, hids]
    · intro other hother
      rcases List.mem_cons.mp hother with rfl | hmem
      · exact ⟨_, List.mem_cons_self, hid.symm, hrecord⟩
      · obtain ⟨found, hfound, hsame⟩ := hrecords other hmem
        exact ⟨found, List.mem_cons_of_mem _ hfound, hsame⟩

/-! ## The report -/

/-- The fallback as the contract reads it. -/
structure FallbackFields (python : Python) (snapshot : ReportInputSnapshot Json)
    (issues : List ReportValidationIssue) (contentOf : String → SectionContent)
    (fields : ReportFields) : Prop where
  status : fields.status = fallbackStatus issues
  identity : identityMismatches snapshot fields.inputSnapshot = []
  sections : fields.sections.map (fun entry => (entry.1, entry.2.toSectionFields)) =
    typedSections python snapshot contentOf

/-- What makes a fallback readable. -/
structure Readable (w : Writing) (pydantic : Pydantic) (python : Python)
    (publishAt : Day → Instant) (snapshot : ReportInputSnapshot Json) (body : SnapshotBody)
    (policy : ReportDayPolicyResult) (generatedAt : Instant)
    (issues : List ReportValidationIssue) (contentOf : String → SectionContent) : Prop where
  snapshotOf : SnapshotOf w python snapshot body policy
  reads : ReadsBack pydantic python publishAt snapshot generatedAt
  texts : ∀ issue ∈ issues, IssueTexts issue
  warnings : ∀ issue ∈ issues, issue.severity = .warning
  contents : ContentsOf python snapshot body (fallbackStatus issues) issues contentOf
  fits : FactsFit snapshot

variable {generatedAt : Instant} {issues : List ReportValidationIssue}
variable {contentOf : String → SectionContent} {reportId : String}

theorem not_blocking (h : ∀ issue ∈ issues, issue.severity = .warning) :
    (issues.any fun issue => issue.severity = .error) = false := by
  rw [List.any_eq_false]
  intro issue hissue
  rw [h issue hissue]
  decide

/-- The payload of the fallback is read as its own fields. -/
theorem Readable.fields (h : Readable w pydantic python publishAt snapshot body policy generatedAt
    issues contentOf) (hid : IsId reportId) :
    ∃ fields, ReportFields.read pydantic (fallbackPayload python publishAt snapshot reportId
      generatedAt issues (writtenSections python contentOf)) = some fields ∧
        FallbackFields python snapshot issues contentOf fields := by
  obtain ⟨schedule, hschedule⟩ := defaultSchedule_read h.reads.localTimes
  obtain ⟨calendar, hcalendar⟩ : ∃ calendar, ReportCalendar.modelValidate
      (reportCalendarPayload python (snapshot.payload.get "report_day_policy")
        snapshot.reportDate) = some calendar := reportCalendarPayload_read _ _
  obtain ⟨generated, hgenerated, -⟩ := h.reads.times generatedAt (by simp)
  obtain ⟨scheduled, hscheduled, -⟩ := h.reads.times (publishAt snapshot.reportDate) (by simp)
  obtain ⟨ref, href, hidentity⟩ := inputSnapshot_read h.snapshotOf
    (h.reads.times snapshot.asOf (by simp)) (h.reads.times snapshot.cutoffAt (by simp))
  obtain ⟨quality, hquality⟩ := dataQuality_read h.texts (fallbackStatus issues)
  obtain ⟨sections, hsections, hsame⟩ : ∃ sections,
      readSections pydantic (.obj (writtenSections python contentOf)) = some sections ∧
        sections.map (fun entry => (entry.1, entry.2.toSectionFields)) =
          typedSections python snapshot contentOf := h.contents.read h.snapshotOf h.fits
  have hpublication : ∃ publication, ReportPublication.modelValidate pydantic
      ((fallbackPayload python publishAt snapshot reportId generatedAt issues
        (writtenSections python contentOf)).get "publication") = some publication := by
    refine ⟨⟨.published, none, scheduled, none⟩, ?_⟩
    have hget : (fallbackPayload python publishAt snapshot reportId generatedAt issues
        (writtenSections python contentOf)).get "publication" = .obj
          [("decision", .str "published"), ("reason_code", .null),
            ("scheduled_publish_at", .str (utcIsoformat (publishAt snapshot.reportDate))),
            ("published_at", .null)] := by
      unfold fallbackPayload
      rw [not_blocking h.warnings]
      rfl
    rw [hget]
    unfold ReportPublication.modelValidate
    simp only [Option.bind_eq_bind, Option.bind_eq_some_iff, Option.guard_eq_some', exists_const]
    exact ⟨fun _ hkey => hkey, _, rfl, none, rfl, scheduled, hscheduled, none, rfl, rfl⟩
  obtain ⟨publication, hpublication⟩ := hpublication
  refine ⟨⟨reportId, snapshot.reportDate, schedule, calendar, generated, ref,
    fallbackStatus issues, publication, quality, sections⟩, ?_, ⟨rfl, hidentity, hsame⟩⟩
  refine ReportFields.read_some.mpr ⟨fun _ hkey => hkey, rfl, rfl, rfl,
    text_str hid.stripped (one_le_length hid.nonempty), h.reads.date, hschedule, hcalendar,
    hgenerated, href, literal_status _, hpublication, hquality, hsections⟩

/-- A section of the report that the contract reads. -/
theorem FallbackFields.section_of {fields : ReportFields}
    (h : FallbackFields python snapshot issues contentOf fields)
    {entry : String × ReportSection} (hentry : entry ∈ fields.sections) :
    ∃ limit ∈ sectionLimits, entry.1 = limit.1 ∧ entry.2.toSectionFields =
      typedSection python limit.1 limit.2 (contentOf limit.1) (shownFacts snapshot limit.1) := by
  have hmem : (entry.1, entry.2.toSectionFields) ∈ typedSections python snapshot contentOf := by
    rw [← h.sections]
    exact List.mem_map.mpr ⟨entry, hentry, rfl⟩
  obtain ⟨limit, hlimit, heq⟩ := List.mem_map.mp hmem
  exact ⟨limit, hlimit, (congrArg Prod.fst heq).symm, (congrArg Prod.snd heq).symm⟩

theorem FallbackFields.keys {fields : ReportFields}
    (h : FallbackFields python snapshot issues contentOf fields) :
    fields.sections.map Prod.fst = requiredSectionIds := by
  have hfst := congrArg (List.map Prod.fst) h.sections
  unfold typedSections at hfst
  rw [List.map_map, List.map_map] at hfst
  exact hfst

theorem ShownFact.factId_mem (hsnapshot : SnapshotOf w python snapshot body policy) {raw : Json}
    (h : ShownFact snapshot body raw) : shownText raw "fact_id" ∈ snapshot.factIds := by
  have hmem : raw.get "fact_id" ∈ body.facts.map (·.get "fact_id") := List.mem_map_of_mem h.mem
  rw [hsnapshot.material.factIds, h.factId, ← hsnapshot.factIds] at hmem
  obtain ⟨id, hid, hsame⟩ := List.mem_map.mp hmem
  exact Json.str.inj hsame ▸ hid

theorem fallbackStatus_ne (h : ∀ issue ∈ issues, issue.severity = .warning) :
    fallbackStatus issues ≠ .incomplete := by
  unfold fallbackStatus
  rw [not_blocking h]
  simp only [Bool.false_eq_true, if_false]
  split <;> decide

/-- The items of the section of the sources are the sources of the snapshot. -/
theorem Readable.sourceItems (h : Readable w pydantic python publishAt snapshot body policy
    generatedAt issues contentOf) :
    (contentOf "source_references").items = body.sourceReferences.map Prod.snd := by
  have hcontent := h.contents.content "source_references"
  have hsources : shownSources snapshot "source_references" =
      body.sourceReferences.map Prod.snd := by
    unfold shownSources
    rw [if_pos rfl, h.snapshotOf.rawSources]
  have hitems : (body.sourceReferences.map Prod.snd).map sourceItem =
      body.sourceReferences.map Prod.snd := by
    refine (List.map_congr_left ?_).trans (List.map_id _)
    intro source hsource
    obtain ⟨cited, rfl, -⟩ := h.snapshotOf.cited hsource
    exact sourceItem_eq cited
  rw [hcontent.items, hsources, hitems]
  rfl

/-- Its sources are those of the body, each with its record. -/
theorem Readable.sources (h : Readable w pydantic python publishAt snapshot body policy
    generatedAt issues contentOf) {fields : ReportFields}
    (hfields : FallbackFields python snapshot issues contentOf fields) :
    ∃ sources, fields.sources? pydantic = some sources ∧
      sources.map (·.sourceRefId) = body.sourceReferences.map Prod.fst ∧
        ∀ source ∈ sources, ∃ entry ∈ body.sourceReferences, entry.1 = source.sourceRefId ∧
          (typedRecord pydantic source).pyEq (rawRecord entry.2) = true := by
  have hmem : "source_references" ∈ fields.sections.map Prod.fst := by
    rw [hfields.keys]
    decide
  obtain ⟨entry, hentry, hkey⟩ := List.mem_map.mp hmem
  have hsome : (fields.sections.find? fun entry => entry.1 = "source_references").isSome :=
    List.find?_isSome.mpr ⟨entry, hentry, decide_eq_true hkey⟩
  obtain ⟨found, hfound⟩ := Option.isSome_iff_exists.mp hsome
  have hfoundKey : found.1 = "source_references" := by
    simpa using List.find?_some hfound
  obtain ⟨limit, -, hid, hsection⟩ := hfields.section_of (List.mem_of_find?_eq_some hfound)
  have hitems : found.2.items = body.sourceReferences.map Prod.snd := by
    rw [hsection, ← hid, hfoundKey]
    exact h.sourceItems
  rw [ReportFields.sources?_eq, hfound]
  simp only [Option.map_some, Option.bind_some, hitems]
  refine sourceReferences_read h.snapshotOf.material.sources.cited ?_
  intro entry hentry
  refine h.reads.sources entry.2 ?_
  rw [h.snapshotOf.rawSources]
  exact List.mem_map_of_mem hentry

/-- The references of the fallback resolve. -/
theorem Readable.references (h : Readable w pydantic python publishAt snapshot body policy
    generatedAt issues contentOf) {fields : ReportFields}
    (hfields : FallbackFields python snapshot issues contentOf fields) :
    fields.References pydantic := by
  -- the report names the facts of its snapshot
  have hfactIds : identityMismatches snapshot fields.inputSnapshot = [] →
      fields.inputSnapshot.factIds = snapshot.factIds := by
    intro hidentity
    unfold identityMismatches at hidentity
    simp only [List.append_eq_nil_iff, ite_eq_left_iff, List.cons_ne_nil, imp_false,
      not_not] at hidentity
    exact hidentity.2
  have hfactIds := hfactIds hfields.identity
  obtain ⟨sources, hsources, hids, -⟩ := h.sources hfields
  have hshown : ∀ limit ∈ sectionLimits, ∀ raw ∈ shownFacts snapshot limit.1,
      shownText raw "fact_id" ∈ snapshot.factIds := by
    intro limit _ raw hraw
    exact ((h.contents.content limit.1).shown raw hraw).factId_mem h.snapshotOf
  -- the walk over `fact_ids` meets only facts that a section shows
  have hwalk : ∃ parts ∈ fields.sections.mapM fun entry =>
      strictReferenceIds "fact_ids" entry.2.modelDump,
        ∀ id ∈ parts.flatten, id ∈ fields.inputSnapshot.factIds := by
    refine mapM_flatten.mpr ?_
    intro entry hentry
    obtain ⟨limit, hlimit, -, hsection⟩ := hfields.section_of hentry
    rw [hsection]
    refine refersOnly_iff.mp
      (((h.contents.content limit.1).modelDump_factIds h.snapshotOf limit.1 limit.2).mono ?_)
    rintro id ⟨raw, hraw, rfl⟩
    rw [hfactIds]
    exact hshown limit hlimit raw hraw
  -- the walk over `source_ref_ids` meets only sources of the snapshot
  have hwalkSources : ∃ parts ∈ fields.sections.mapM fun entry =>
      strictReferenceIds "source_ref_ids" entry.2.modelDump,
        ∀ id ∈ parts.flatten, id ∈ sources.map (·.sourceRefId) := by
    refine mapM_flatten.mpr ?_
    intro entry hentry
    obtain ⟨limit, -, -, hsection⟩ := hfields.section_of hentry
    rw [hsection, hids]
    exact refersOnly_iff.mp
      ((h.contents.content limit.1).modelDump_sourceIds h.snapshotOf limit.1 limit.2)
  obtain ⟨parts, hparts, hknown⟩ := hwalk
  obtain ⟨sourceParts, hsourceParts, hknownSources⟩ := hwalkSources
  refine ⟨?_, ?_, ?_, ⟨parts.flatten, ?_, ?_⟩, sources, hsources, ?_, sourceParts.flatten, ?_,
    hknownSources⟩
  -- the sections are the fixed ones
  · rw [hfields.keys]
    exact ⟨fun _ hid => hid, fun _ hid => hid⟩
  -- each under its own id
  · intro entry hentry
    obtain ⟨limit, -, hid, hsection⟩ := hfields.section_of hentry
    rw [hsection]
    exact hid.symm
  -- a fallback is never incomplete
  · intro hincomplete
    rw [hfields.status] at hincomplete
    exact absurd hincomplete (fallbackStatus_ne h.warnings)
  · unfold ReportFields.references?
    have hparts : (fields.sections.mapM fun entry =>
        strictReferenceIds "fact_ids" entry.2.modelDump) = some parts := hparts
    rw [hparts]
    rfl
  -- a fact is named in an item or in a claim, and the claims are those of shown facts
  · intro id hid
    rcases List.mem_append.mp hid with hwalked | hclaim
    · exact hknown id hwalked
    · unfold ReportFields.claimFactIds at hclaim
      obtain ⟨entry, hentry, hmem⟩ := List.mem_flatMap.mp hclaim
      obtain ⟨limit, hlimit, -, hsection⟩ := hfields.section_of hentry
      rw [hsection] at hmem
      obtain ⟨claim, htyped, rfl⟩ := List.mem_map.mp hmem
      obtain ⟨raw, hraw, rfl⟩ := List.mem_map.mp htyped
      rw [hfactIds]
      exact hshown limit hlimit raw (List.mem_filter.mp hraw).1
  · rw [hids]
    exact h.snapshotOf.material.sources.distinct
  · unfold ReportFields.references?
    have hsourceParts : (fields.sections.mapM fun entry =>
        strictReferenceIds "source_ref_ids" entry.2.modelDump) = some sourceParts := hsourceParts
    rw [hsourceParts]
    rfl

end MacroPlatform.Report
