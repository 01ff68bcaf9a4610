import MacroPlatform.Report.FallbackTyped

/-! # A fallback report as the contract reads it

The other parts of the payload are valid whatever the snapshot holds, when the library reads the
times back that it was given.

* `ContentsOf.read`: when the facts fit, all sections are read;
* `dataQualityEntry_read`: the data quality is.
-/

namespace MacroPlatform.Report

open Daily

variable {w : Writing} {pydantic : Pydantic} {python : Python} {publishAt : Day → Instant}
variable {snapshot : ReportInputSnapshot Json} {body : SnapshotBody}
variable {policy : ReportDayPolicyResult}

/-! ## What the library reads back -/

/-- A time is read as it was written. -/
def TimeReads (pydantic : Pydantic) (t : Instant) : Prop :=
  ∃ value ∈ pydantic.datetime (.str (utcIsoformat t)), value.instant = t

/-- The time and the URL of a source are read, and written again as they were. -/
structure SourceReads (pydantic : Pydantic) (source : Json) : Prop where
  retrievedAt : ∃ value ∈ pydantic.datetime (source.get "retrieved_at"),
    (source.get "retrieved_at").toStr? = some (pydantic.writeDatetime value)
  sourceUrl : ∃ url ∈ (source.get "source_url").toOption? pydantic.httpUrl,
    (source.get "source_url").toOption? Json.toStr? = some url

/-- What the library makes of the texts that a fallback report is written with. -/
structure ReadsBack (pydantic : Pydantic) (python : Python) (publishAt : Day → Instant)
    (snapshot : ReportInputSnapshot Json) (generatedAt : Instant) : Prop where
  times : ∀ t ∈ [snapshot.asOf, snapshot.cutoffAt, generatedAt, publishAt snapshot.reportDate],
    TimeReads pydantic t
  date : pydantic.date (.str (Day.isoformat snapshot.reportDate)) = some snapshot.reportDate
  isoDate : python.dateFromIsoformat (Day.isoformat snapshot.reportDate) =
    some snapshot.reportDate
  localTimes : ∀ localTime ∈ ["08:30:00", "08:15:00"], (pydantic.time (.str localTime)).isSome
  sources : ∀ source ∈ rawSources snapshot, SourceReads pydantic source

instance (t : Instant) : Decidable (TimeReads pydantic t) :=
  inferInstanceAs (Decidable (∃ value ∈ pydantic.datetime (.str (utcIsoformat t)), _))

instance (source : Json) : Decidable (SourceReads pydantic source) :=
  decidable_of_iff ((∃ value ∈ pydantic.datetime (source.get "retrieved_at"),
      (source.get "retrieved_at").toStr? = some (pydantic.writeDatetime value)) ∧
    ∃ url ∈ (source.get "source_url").toOption? pydantic.httpUrl,
      (source.get "source_url").toOption? Json.toStr? = some url)
    ⟨fun h => ⟨h.1, h.2⟩, fun h => ⟨h.1, h.2⟩⟩

instance (generatedAt : Instant) :
    Decidable (ReadsBack pydantic python publishAt snapshot generatedAt) :=
  decidable_of_iff
    ((∀ t ∈ [snapshot.asOf, snapshot.cutoffAt, generatedAt, publishAt snapshot.reportDate],
        TimeReads pydantic t) ∧
      pydantic.date (.str (Day.isoformat snapshot.reportDate)) = some snapshot.reportDate ∧
      python.dateFromIsoformat (Day.isoformat snapshot.reportDate) = some snapshot.reportDate ∧
      (∀ localTime ∈ ["08:30:00", "08:15:00"], (pydantic.time (.str localTime)).isSome) ∧
      ∀ source ∈ rawSources snapshot, SourceReads pydantic source)
    ⟨fun h => ⟨h.1, h.2.1, h.2.2.1, h.2.2.2.1, h.2.2.2.2⟩, fun h => ⟨h.1, h.2, h.3, h.4, h.5⟩⟩

/-! ## The parts -/

/-- The default schedule is one of the contract. -/
theorem defaultSchedule_read
    (h : ∀ localTime ∈ ["08:30:00", "08:15:00"], (pydantic.time (.str localTime)).isSome) :
    ∃ schedule, ReportSchedule.modelValidate pydantic defaultSchedule = some schedule := by
  obtain ⟨publishTime, hpublish⟩ := Option.isSome_iff_exists.mp (h "08:30:00" (by simp))
  obtain ⟨cutoff, hcutoff⟩ := Option.isSome_iff_exists.mp (h "08:15:00" (by simp))
  have hkeys : KnowsKeys ["publish_time_local", "late_data_cutoff_local", "run_policy",
      "holiday_policy", "calendar_id", "calendar_lookahead_days", "freshness"]
      defaultSchedule := by
    decide +kernel
  have hfreshness : ReportFreshness.modelValidate pydantic (defaultSchedule.get "freshness") =
      some ⟨36, 24, 45⟩ := rfl
  have hrunPolicy : text 1 (defaultSchedule.get "run_policy") = some "every_calendar_day" := by
    decide +kernel
  have hholiday : text 1 (defaultSchedule.get "holiday_policy") =
      some "publish_with_notice" := by
    decide +kernel
  have hcalendar : text 1 (defaultSchedule.get "calendar_id") =
      some "cn_hk_report_calendar_v1" := by
    decide +kernel
  unfold ReportSchedule.modelValidate
  simp only [Option.bind_eq_bind, Option.bind_eq_some_iff, Option.guard_eq_some', exists_const]
  exact ⟨_, hkeys, publishTime, hpublish, cutoff, hcutoff, _, hrunPolicy, _, hholiday, _,
    hcalendar, 7, rfl, _, hfreshness, rfl⟩

/-- So is a calendar of any day type. -/
theorem calendarPayload_read {dayType : String}
    (hday : dayType ∈ ["business_day", "holiday", "weekend"]) (notice : Option String) :
    ∃ calendar, ReportCalendar.modelValidate (calendarPayload dayType notice) =
      some calendar := by
  have hkeys : KnowsKeys ["day_type", "holiday_notice"] (calendarPayload dayType notice) :=
    fun _ hkey => hkey
  -- the three day types of the calendar are the contract's literals
  have htype : ∃ found, literal [("business_day", ReportDayType.businessDay),
      ("holiday", .holiday), ("weekend", .weekend)]
        ((calendarPayload dayType notice).get "day_type") = some found := by
    simp only [List.mem_cons, List.not_mem_nil, or_false] at hday
    rcases hday with rfl | rfl | rfl
    · exact ⟨_, rfl⟩
    · exact ⟨_, rfl⟩
    · exact ⟨_, rfl⟩
  -- a notice may be null
  have hnotice : ∃ found, ((calendarPayload dayType notice).get "holiday_notice").toOption?
      (text 0) = some found := by
    cases notice with
    | none => exact ⟨_, rfl⟩
    | some s => exact ⟨_, rfl⟩
  obtain ⟨found, hfound⟩ := htype
  obtain ⟨holiday, hholiday⟩ := hnotice
  unfold ReportCalendar.modelValidate
  simp only [Option.bind_eq_bind, Option.bind_eq_some_iff, Option.guard_eq_some', exists_const]
  exact ⟨_, hkeys, found, hfound, holiday, hholiday, rfl⟩

/-- And the calendar that the fallback writes. -/
theorem reportCalendarPayload_read (rawPolicy : Json) (reportDate : Day) :
    ∃ calendar, ReportCalendar.modelValidate (reportCalendarPayload python rawPolicy reportDate) =
      some calendar := by
  unfold reportCalendarPayload
  split
  · refine calendarPayload_read ?_ none
    split <;> simp
  · split
    · exact calendarPayload_read (by simp) _
    · simp only
      split
      · exact calendarPayload_read (by simp) _
      · exact calendarPayload_read (by simp) none

/-- The identity of the snapshot is read as it is. -/
theorem inputSnapshot_read (h : SnapshotOf w python snapshot body policy)
    (hasOf : TimeReads pydantic snapshot.asOf) (hcutoff : TimeReads pydantic snapshot.cutoffAt) :
    ∃ ref, ReportInputSnapshotRef.modelValidate pydantic (inputSnapshotPayload snapshot) =
      some ref ∧ identityMismatches snapshot ref = [] := by
  obtain ⟨asOf, hreadAsOf, hasOfSame⟩ := hasOf
  obtain ⟨cutoffAt, hreadCutoff, hcutoffSame⟩ := hcutoff
  have hkeys : KnowsKeys ["snapshot_id", "snapshot_version", "as_of", "cutoff_at",
      "fingerprint_sha256", "fact_ids"] (inputSnapshotPayload snapshot) := fun _ hkey => hkey
  have hid := text_str h.snapshotId.stripped h.snapshotId.atLeast
  have hversion := text_str h.version.stripped h.version.atLeast
  have hfactIds : listOf (text 0) (strings snapshot.factIds) = some snapshot.factIds := by
    rw [listOf_strings, stripped_map]
    intro id hid
    have hmem : Json.str id ∈ body.facts.map (·.get "fact_id") := by
      rw [h.material.factIds, ← h.factIds]
      exact List.mem_map_of_mem hid
    obtain ⟨raw, hraw, hget⟩ := List.mem_map.mp hmem
    obtain ⟨factId, hfactId, hisId⟩ := (h.material.facts raw hraw).factId
    rw [hfactId] at hget
    rw [← Json.str.inj hget]
    exact hisId.stripped
  refine ⟨⟨snapshot.snapshotId, snapshot.snapshotVersion, asOf, cutoffAt,
    snapshot.fingerprintSha256, snapshot.factIds⟩, ?_, ?_⟩
  · unfold ReportInputSnapshotRef.modelValidate
    simp only [Option.bind_eq_bind, Option.bind_eq_some_iff, Option.guard_eq_some', exists_const]
    exact ⟨hkeys, _, hid, _, hversion, _, hreadAsOf, _, hreadCutoff, _, h.fingerprint.read, _,
      hfactIds, rfl⟩
  · unfold identityMismatches
    simp [hasOfSame, hcutoffSame]

/-- An entry of the fallback's data quality is valid. -/
theorem dataQualityEntry_read {issue : ReportValidationIssue} (h : IssueTexts issue) :
    (ReportQualityIssue.modelValidate (dataQualityEntry issue)).isSome := by
  have hinput : modelStrip (firstGiven [issue.inputId] issue.code) =
      firstGiven [issue.inputId] issue.code ∧ firstGiven [issue.inputId] issue.code ≠ "" := by
    unfold firstGiven
    cases hfound : ([issue.inputId].filterMap id).find? (· ≠ "") with
    | none => exact h.code
    | some given =>
      have hgiven := List.find?_some hfound
      have hmem : given ∈ [issue.inputId].filterMap id := List.mem_of_find?_eq_some hfound
      refine ⟨h.ids given ?_, of_decide_eq_true hgiven⟩
      obtain ⟨value, hvalue, hsome⟩ := List.mem_filterMap.mp hmem
      refine List.mem_filterMap.mpr ⟨value, ?_, hsome⟩
      rw [List.mem_singleton.mp hvalue]
      exact List.mem_cons_self
  have hid := text_str hinput.1 (one_le_length hinput.2)
  have hcode := text_str h.code.1 (one_le_length h.code.2)
  have hmessage := text_str h.message.1 (one_le_length h.message.2)
  have hkeys : KnowsKeys ["input_id", "reason_code", "reason"] (dataQualityEntry issue) :=
    fun _ hkey => hkey
  have hread : ReportQualityIssue.modelValidate (dataQualityEntry issue) =
      some ⟨firstGiven [issue.inputId] issue.code, issue.code, issue.message⟩ := by
    unfold ReportQualityIssue.modelValidate
    simp only [Option.bind_eq_bind, Option.bind_eq_some_iff, Option.guard_eq_some', exists_const]
    exact ⟨hkeys, _, hid, _, hcode, _, hmessage, rfl⟩
  rw [hread]
  rfl

/-- Issues with texts make a data quality of the contract. -/
theorem dataQuality_read {issues : List ReportValidationIssue}
    (hissues : ∀ issue ∈ issues, IssueTexts issue) (status : ReportStatus) :
    ∃ quality, ReportDataQuality.modelValidate (dataQuality issues status) = some quality := by
  have hentries : ∀ takes : String → Bool, (listOf ReportQualityIssue.modelValidate
      (.arr ((issues.filter fun issue => takes issue.code).map dataQualityEntry))).isSome := by
    intro takes
    refine listOf_isSome.mpr ⟨_, rfl, ?_⟩
    intro value hvalue
    obtain ⟨issue, hissue, rfl⟩ := List.mem_map.mp hvalue
    exact dataQualityEntry_read (hissues issue (List.mem_filter.mp hissue).1)
  refine Option.isSome_iff_exists.mp (dataQuality_isSome.mpr ⟨fun _ hkey => hkey, ?_, ?_⟩)
  · have hstatus := literal_status status
    have hget : (dataQuality issues status).get "status" = literalText reportStatuses status := rfl
    rw [hget, hstatus]
    rfl
  · unfold qualityBuckets
    simp only [List.forall_mem_cons]
    exact ⟨hentries fun code => code = "REQUIRED_INPUT_UNAVAILABLE",
      hentries (containsText "STALE"), hentries (containsText "LATE"),
      hentries (containsText "REVISED"), hentries fun code => code ∉ otherBucketCodes,
      fun _ hbucket => absurd hbucket List.not_mem_nil⟩

/-! ## The sections -/

/-- The contents of all sections. -/
structure ContentsOf (python : Python) (snapshot : ReportInputSnapshot Json) (body : SnapshotBody)
    (status : ReportStatus) (issues : List ReportValidationIssue)
    (contentOf : String → SectionContent) : Prop where
  made : ∀ sectionId,
    sectionContent python snapshot status issues sectionId = .ok (contentOf sectionId)
  content : ∀ sectionId, ContentOf snapshot body (contentOf sectionId)
    (shownFacts snapshot sectionId) (shownSources snapshot sectionId)

theorem SnapshotOf.contents (h : SnapshotOf w python snapshot body policy) {status : ReportStatus}
    {issues : List ReportValidationIssue} (hissues : ∀ issue ∈ issues, IssueTexts issue) :
    ∃ contentOf, ContentsOf python snapshot body status issues contentOf := by
  have hsection : ∀ sectionId, ∃ content,
      sectionContent python snapshot status issues sectionId = .ok content ∧
        ContentOf snapshot body content (shownFacts snapshot sectionId)
          (shownSources snapshot sectionId) := h.content hissues
  choose contentOf hmade hcontent using hsection
  exact ⟨contentOf, hmade, hcontent⟩

/-- The sections that the builder writes. -/
def writtenSections (python : Python) (contentOf : String → SectionContent) :
    List (String × Json) :=
  sectionLimits.map fun entry => (entry.1, sectionPayload python entry.1 entry.2 (contentOf entry.1))

/-- The fields of the sections that the contract reads. -/
def typedSections (python : Python) (snapshot : ReportInputSnapshot Json)
    (contentOf : String → SectionContent) : List (String × SectionFields) :=
  sectionLimits.map fun entry =>
    (entry.1, typedSection python entry.1 entry.2 (contentOf entry.1) (shownFacts snapshot entry.1))

/-- The facts of every section fit its limit. -/
def FactsFit (snapshot : ReportInputSnapshot Json) : Prop :=
  ∀ entry ∈ sectionLimits, ((shownFacts snapshot entry.1).map shownLength).sum ≤ entry.2

instance (snapshot : ReportInputSnapshot Json) : Decidable (FactsFit snapshot) :=
  inferInstanceAs (Decidable (∀ entry ∈ sectionLimits, _))

theorem ContentsOf.fallbackSections {status : ReportStatus} {issues : List ReportValidationIssue}
    {contentOf : String → SectionContent}
    (h : ContentsOf python snapshot body status issues contentOf) :
    fallbackSections python snapshot status issues = .ok (writtenSections python contentOf) := by
  refine Raising.mapM_ok_map ?_
  intro entry _
  exact Raising.bind_ok.mpr ⟨_, h.made entry.1, rfl⟩

theorem sectionId_isId : ∀ entry ∈ sectionLimits, IsId entry.1 ∧ 1 ≤ entry.2 := by
  have hids : ∀ entry ∈ sectionLimits,
      modelStrip entry.1 = entry.1 ∧ entry.1 ≠ "" ∧ 1 ≤ entry.2 := by
    decide +kernel
  intro entry hentry
  obtain ⟨hstrip, hne, hlimit⟩ := hids entry hentry
  exact ⟨⟨hstrip, hne⟩, hlimit⟩

/-- When the facts fit, all sections are read as they were written. -/
theorem ContentsOf.read {status : ReportStatus} {issues : List ReportValidationIssue}
    {contentOf : String → SectionContent}
    (h : ContentsOf python snapshot body status issues contentOf)
    (hsnapshot : SnapshotOf w python snapshot body policy) (hfits : FactsFit snapshot) :
    ∃ sections, readSections pydantic (.obj (writtenSections python contentOf)) = some sections ∧
      sections.map (fun entry => (entry.1, entry.2.toSectionFields)) =
        typedSections python snapshot contentOf := by
  have hentry : ∀ limit ∈ sectionLimits, ∃ sect : ReportSection,
      readEntry pydantic (limit.1, sectionPayload python limit.1 limit.2 (contentOf limit.1)) =
        some (limit.1, sect) ∧ sect.toSectionFields =
          typedSection python limit.1 limit.2 (contentOf limit.1) (shownFacts snapshot limit.1) := by
    intro limit hlimit
    obtain ⟨hid, hone⟩ := sectionId_isId limit hlimit
    have hvisible := (h.content limit.1).visibleText hsnapshot hlimit (hfits limit hlimit)
    have hread : SectionFields.read pydantic
        (sectionPayload python limit.1 limit.2 (contentOf limit.1)) =
          some (typedSection python limit.1 limit.2 (contentOf limit.1)
            (shownFacts snapshot limit.1)) := (h.content limit.1).read hsnapshot hid hone
    refine ⟨⟨_, hvisible⟩, ?_, rfl⟩
    unfold readEntry
    have hvalid : ReportSection.modelValidate pydantic
        (sectionPayload python limit.1 limit.2 (contentOf limit.1)) = some ⟨_, hvisible⟩ :=
      ReportSection.modelValidate_some.mpr hread
    simp only [hvalid, hid.stripped, Option.bind_eq_bind, Option.bind_some]
  -- the entries, one for each limit
  have hentries : ∀ limits : List (String × ℕ), limits ⊆ sectionLimits →
      ∃ entries, (limits.map fun entry => (entry.1, sectionPayload python entry.1 entry.2
        (contentOf entry.1))).mapM (readEntry pydantic) = some entries ∧
        entries.map (fun entry => (entry.1, entry.2.toSectionFields)) = limits.map fun entry =>
          (entry.1, typedSection python entry.1 entry.2 (contentOf entry.1)
            (shownFacts snapshot entry.1)) := by
    intro limits hsub
    induction limits with
    | nil => exact ⟨[], rfl, rfl⟩
    | cons limit limits ih =>
      obtain ⟨sect, hread, hfields⟩ := hentry limit (hsub List.mem_cons_self)
      obtain ⟨entries, hmap, hsame⟩ := ih fun entry hmem => hsub (List.mem_cons_of_mem _ hmem)
      refine ⟨(limit.1, sect) :: entries, ?_, ?_⟩
      · rw [List.map_cons, List.mapM_cons, hread, hmap]
        rfl
      · rw [List.map_cons, List.map_cons, hsame, hfields]
  obtain ⟨entries, hmap, hsame⟩ := hentries sectionLimits fun _ hmem => hmem
  have hkeys : entries.map Prod.fst = sectionLimits.map Prod.fst := by
    have hfst := congrArg (List.map Prod.fst) hsame
    rw [List.map_map, List.map_map] at hfst
    exact hfst
  have hdict : Json.dict entries = entries := by
    refine dict_of_nodup ?_
    rw [hkeys]
    decide
  refine ⟨entries, ?_, hsame⟩
  rw [readSections_eq]
  unfold writtenSections
  rw [hmap, Option.map_some, hdict]

end MacroPlatform.Report
