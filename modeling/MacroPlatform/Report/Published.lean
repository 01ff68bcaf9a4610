import Mathlib.Algebra.Order.BigOperators.Group.List
import Mathlib.Algebra.Order.Group.Nat
import MacroPlatform.Report.Candidate
import MacroPlatform.Report.Canonical
import MacroPlatform.Report.Service

/-! # When the fallback is published

The builder does not look at the limits of the sections. A fallback whose facts fit them is
validated and published, and no other is.

* `Readable.publishes`: a fallback that fits is published;
* `fallback_published_iff`: and no other is;
* `long_headline_unpublished`: a headline that is too long.
-/

namespace MacroPlatform.Report

open Daily

variable {w : Writing} {pydantic : Pydantic} {python : Python} {publishAt : Day → Instant}
variable {snapshot : ReportInputSnapshot Json} {body : SnapshotBody}
variable {policy : ReportDayPolicyResult}
variable {generatedAt : Instant} {issues : List ReportValidationIssue}
variable {contentOf : String → SectionContent} {reportId reportVersion : String}
variable {generationId : Option UUID}

/-! ## Storing -/

/-- The tables know the snapshot and the attempt, and have no report of the id or of the date
and version. -/
structure ReportTables.HasRoom (tables : ReportTables) (snapshot : ReportInputSnapshot Json)
    (request : ValidationRequest) : Prop where
  loaded : tables.loadInputSnapshot request.snapshotId = some snapshot
  attempt : ∀ generationId ∈ request.generationId, generationId ∈ tables.generationIds
  free : ∀ existing ∈ tables.reports, existing.reportId ≠ request.reportId ∧
    ¬ (existing.reportDate = snapshot.reportDate ∧
      existing.reportVersion = request.reportVersion)

theorem validateFactReferences_ok {report : StoredDailyReport Json} {factIds : List String}
    {fields : List (String × Json)} (hget : report.payload.get "sections" = .obj fields)
    (h : RefersOnly "fact_ids" (· ∈ factIds) (.obj fields)) :
    validateFactReferences report factIds = .ok ⟨⟩ := by
  obtain ⟨ids, hids, hknown⟩ := refersOnly_iff.mp h
  have hread : strictReferenceIds "fact_ids" (.obj fields) = some ids := hids
  unfold validateFactReferences
  rw [hget]
  simp only [hread]
  exact if_pos hknown

theorem pyEqItems_strings (values : List String) :
    Json.pyEqItems (values.map .str) (values.map .str) = true := by
  induction values with
  | nil => simp [Json.pyEqItems]
  | cons value values ih => simp [Json.pyEqItems, pyEq_str, ih]

theorem inputSnapshotPayload_pyEq (snapshot : ReportInputSnapshot Json) :
    (inputSnapshotPayload snapshot).pyEq (inputSnapshotPayload snapshot) = true := by
  have hids := pyEqItems_strings snapshot.factIds
  unfold inputSnapshotPayload
  simp [Json.pyEq, Json.pyEqFields, hids]

/-- The payload of the finalized fallback still repeats the snapshot and its facts. -/
theorem Readable.finalized (h : Readable w pydantic python publishAt snapshot body policy
    generatedAt issues contentOf) {finalized : StoredDailyReport Json}
    (hfinal : finalizeReport (fallbackReport python publishAt snapshot reportId reportVersion
      generatedAt generationId issues contentOf) issues = .ok finalized)
    (hpublishable : isPublishable (fallbackReport python publishAt snapshot reportId
      reportVersion generatedAt generationId issues contentOf) issues = true) :
    finalized.payload.get "input_snapshot" = inputSnapshotPayload snapshot ∧
      validateFactReferences finalized snapshot.factIds = .ok ⟨⟩ ∧
      Report.storedSources pydantic finalized.payload =
        some (body.sourceReferences.map Prod.fst) := by
  obtain ⟨quality, -, -, -, hpayload⟩ := finalizeReport_publishable hfinal hpublishable
  -- the sections are the written ones, but for the notice
  have hsections : finalized.payload.get "sections" =
      (Json.obj (writtenSections python contentOf)).set "data_quality_notice"
        (finalNotice (finalStatus (fallbackReport python publishAt snapshot reportId reportVersion
          generatedAt generationId issues contentOf) issues) issues
            (sectionPayload python "data_quality_notice" 600
              (contentOf "data_quality_notice"))) := by
    rw [hpayload, Json.get_set, if_pos rfl]
    rfl
  refine ⟨?_, ?_, ?_⟩
  -- the key of the snapshot is not among the keys that are finalized
  · rw [hpayload]
    simp only [Json.get_set]
    rfl
  -- the new notice names only facts of the snapshot
  · have hcontent := h.contents.content "data_quality_notice"
    have hnotice : RefersOnly "fact_ids" (· ∈ snapshot.factIds)
        (sectionPayload python "data_quality_notice" 600 (contentOf "data_quality_notice")) := by
      refine (hcontent.payload_factIds h.snapshotOf _ _).mono ?_
      rintro id ⟨raw, hraw, rfl⟩
      exact (hcontent.shown raw hraw).factId_mem h.snapshotOf
    exact validateFactReferences_ok hsections
      (h.sections_factIds.set (finalNotice_refers hnotice (by decide)) (by decide))
  -- the references section is not the notice
  · have hget : (finalized.payload.get "sections").get "source_references" =
        sectionPayload python "source_references" 4000 (contentOf "source_references") := by
      rw [hsections, Json.get_set, if_neg (by decide)]
      rfl
    have hbefore : Report.storedSources pydantic (fallbackPayload python publishAt snapshot
        reportId generatedAt issues (writtenSections python contentOf)) =
          some (body.sourceReferences.map Prod.fst) := h.storedSources
    unfold Report.storedSources at hbefore ⊢
    rw [hget]
    exact hbefore

/-- A fallback that fits is validated, published and stored. -/
theorem Readable.publishes (h : Readable w pydantic python publishAt snapshot body policy
    generatedAt issues contentOf) (hquality : qualityIssues python snapshot = .ok issues)
    (hid : FitsText 1 128 reportId) (hversion : FitsText 1 64 reportVersion)
    {tables : ReportTables} {snapshotId : String}
    (hroom : tables.HasRoom snapshot
      { snapshotId, reportId, reportVersion, generatedAt, generationId }) :
    ∃ result after, validateOrFallback pydantic python publishAt
      { snapshotId, reportId, reportVersion, generatedAt, generationId } none tables =
        .ok (result, after) ∧ result.report ∈ after.reports ∧ result.report.Publishable := by
  have hbuild : Report.build pydantic python publishAt snapshot reportId reportVersion generatedAt
      generationId = .ok (fallbackReport python publishAt snapshot reportId reportVersion
        generatedAt generationId issues contentOf) := h.build hquality hid hversion
  have hvalidate : Report.validate pydantic python snapshot (fallbackReport python publishAt snapshot
      reportId reportVersion generatedAt generationId issues contentOf) = .ok issues :=
    h.validate hquality (hid.isId (Nat.le_refl 1))
  obtain ⟨finalized, hfinal⟩ : ∃ finalized, finalizeReport (fallbackReport python publishAt
      snapshot reportId reportVersion generatedAt generationId issues contentOf) issues =
        .ok finalized := h.finalize
  have hpublishable : isPublishable (fallbackReport python publishAt snapshot reportId
      reportVersion generatedAt generationId issues contentOf) issues = true := by
    refine decide_eq_true ⟨?_, fallbackStatus_ne h.warnings⟩
    intro issue hissue
    rw [h.warnings issue hissue]
    decide
  obtain ⟨hpayload, hreferences, hsources⟩ := h.finalized hfinal hpublishable
  obtain ⟨-, -, hdecision, hreportId, -⟩ := finalizeReport_publishable hfinal hpublishable
  obtain ⟨hlifecycle, hdate, hreportVersion, hsnapshotId, hgeneration⟩ :=
    finalizeReport_columns hfinal
  rw [if_pos hpublishable] at hlifecycle
  have hfound : tables.loadInputSnapshot finalized.inputSnapshotId = some snapshot := by
    have hkey : snapshot.snapshotId = snapshotId := by
      simpa using List.find?_some hroom.loaded
    rw [hsnapshotId]
    show tables.loadInputSnapshot snapshot.snapshotId = some snapshot
    rw [hkey]
    exact hroom.loaded
  have hnoConflict : tables.reports.any (conflicts finalized) = false := by
    rw [List.any_eq_false]
    intro existing hexisting hconflict
    obtain ⟨hotherId, hother⟩ := hroom.free existing hexisting
    rcases of_decide_eq_true hconflict with hsame | hsame
    · exact hotherId (hsame.trans hreportId)
    · exact hother ⟨hsame.1.trans hdate, hsame.2.trans hreportVersion⟩
  have hattempt : ¬ ∃ generationId ∈ finalized.generationId,
      generationId ∉ tables.generationIds := by
    rw [hgeneration]
    rintro ⟨found, hfoundId, hnot⟩
    exact hnot (hroom.attempt found hfoundId)
  have hput : putReport pydantic finalized tables =
      .ok (true, { tables with reports := tables.reports ++ [finalized] }) := by
    unfold putReport
    rw [hfound]
    simp only [hpayload, inputSnapshotPayload_pyEq, Bool.true_eq_false, if_false]
    refine Raising.bind_ok.mpr ⟨⟨⟩, hreferences, ?_⟩
    rw [hnoConflict, if_neg Bool.false_ne_true, if_neg hattempt, hsources]
  refine ⟨{ report := finalized, issues, usedFallback := true },
    { tables with reports := tables.reports ++ [finalized] }, ?_, by simp, hlifecycle, hdecision⟩
  unfold validateOrFallback
  rw [hroom.loaded]
  exact Raising.bind_ok.mpr ⟨_, hbuild, Raising.bind_ok.mpr ⟨issues, hvalidate,
    Raising.bind_ok.mpr ⟨finalized, hfinal, Raising.bind_ok.mpr ⟨_, hput, rfl⟩⟩⟩⟩

/-! ## What a published fallback shows -/

theorem qualityIssues_texts (h : qualityIssues python snapshot = .ok issues) :
    ∀ issue ∈ issues, IssueTexts issue := by
  obtain ⟨result, -, hmap⟩ := Raising.bind_ok.mp h
  intro issue hissue
  obtain ⟨found, -, hvalid⟩ := Raising.exists_of_mem_mapM hmap hissue
  exact validationIssue_texts hvalid

/-- The facts of a published fallback fit its sections. -/
theorem factsFit_of_published (hsnapshot : SnapshotOf w python snapshot body policy)
    {request : ValidationRequest} {tables after : ReportTables}
    {result : ReportValidationServiceResult}
    (hfound : tables.loadInputSnapshot request.snapshotId = some snapshot)
    (h : validateOrFallback pydantic python publishAt request none tables = .ok (result, after))
    (hpublished : result.report.Publishable) : FactsFit snapshot := by
  unfold validateOrFallback at h
  rw [hfound] at h
  obtain ⟨report, hreport, h⟩ := Raising.bind_ok.mp h
  obtain ⟨issues, hvalidate, h⟩ := Raising.bind_ok.mp h
  obtain ⟨finalized, hfinal, h⟩ := Raising.bind_ok.mp h
  obtain ⟨⟨stored, next⟩, -, h⟩ := Raising.bind_ok.mp h
  have hresult : result.report = finalized := by
    cases stored with
    | true =>
      cases h
      rfl
    | false => cases h
  rw [hresult] at hpublished
  obtain ⟨hlifecycle, -⟩ := finalizeReport_columns hfinal
  have hpublishable : isPublishable report issues = true := by
    by_contra hnot
    rw [if_neg hnot, hpublished.1] at hlifecycle
    cases hlifecycle
  have hclean := (of_decide_eq_true hpublishable).1
  obtain ⟨typed, htyped, hvalidated⟩ := validate_backed hvalidate hclean
  obtain ⟨found, sections, hbuilt⟩ := build_built hreport
  intro entry hentry
  have hkey : entry.1 ∈ typed.sections.map Prod.fst :=
    typed.references.sections.2 (List.mem_map_of_mem hentry)
  obtain ⟨field, hfield, hfieldKey⟩ := List.mem_map.mp hkey
  have hsome : (typed.sections.find? fun other => other.1 = entry.1).isSome :=
    List.find?_isSome.mpr ⟨field, hfield, decide_eq_true hfieldKey⟩
  obtain ⟨read, hread⟩ := Option.isSome_iff_exists.mp hsome
  have hsection : typed.section? entry.1 = some read.2 := by
    unfold ReportFields.section?
    rw [hread]
    rfl
  obtain ⟨maxCharacters, content, hlimit, hcontent, hfields⟩ :=
    hbuilt.section_read htyped hsection
  have hsame : maxCharacters = entry.2 := by
    have hunique : ∀ left ∈ sectionLimits, ∀ right ∈ sectionLimits, left.1 = right.1 →
        left.2 = right.2 := by
      decide
    exact hunique _ hlimit _ hentry rfl
  subst hsame
  obtain ⟨other, hother, hof⟩ : ∃ other,
      sectionContent python snapshot (fallbackStatus found) found entry.1 = .ok other ∧
        ContentOf snapshot body other (shownFacts snapshot entry.1)
          (shownSources snapshot entry.1) :=
    hsnapshot.content (qualityIssues_texts hbuilt.quality) entry.1
  have hcontentSame : content = other := Except.ok.inj (hcontent.symm.trans hother)
  subst hcontentSame
  obtain ⟨hid, hone⟩ := sectionId_isId entry hentry
  have hrow : (entry.1, entry.2) ∈ sectionLimits := hentry
  have hread : SectionFields.read pydantic (sectionPayload python entry.1 entry.2 content) =
      some (typedSection python entry.1 entry.2 content (shownFacts snapshot entry.1)) :=
    hof.read hsnapshot hid hone
  have hvisible := read.2.visibleText
  rw [Option.some.inj (hfields.symm.trans hread)] at hvisible
  -- what the facts take is part of what the section shows
  have hlength := hof.items_length hsnapshot
  have hcount : visibleLength content.text content.items = content.visibleLength python :=
    hvisible.count
  have hwithin : content.visibleLength python ≤ entry.2 := hvisible.within
  rw [visibleLength_eq] at hcount
  omega

/-- Without a candidate the report that is returned is stored. -/
theorem validateOrFallback_stored {request : ValidationRequest} {tables after : ReportTables}
    {result : ReportValidationServiceResult}
    (h : validateOrFallback pydantic python publishAt request none tables = .ok (result, after)) :
    result.report ∈ after.reports := by
  -- the report is stored by the last step, so only its success is left
  unfold validateOrFallback at h
  split at h
  · cases h
  · obtain ⟨report, -, h⟩ := Raising.bind_ok.mp h
    obtain ⟨issues, -, h⟩ := Raising.bind_ok.mp h
    obtain ⟨finalized, -, h⟩ := Raising.bind_ok.mp h
    obtain ⟨⟨stored, next⟩, hput, h⟩ := Raising.bind_ok.mp h
    cases stored with
    | false => cases h
    -- a new report: the tables gain the finalized one
    | true =>
      cases h
      have hput : putReport pydantic finalized tables = .ok (true, after) := hput
      unfold putReport at hput
      split at hput
      · cases hput
      · split at hput
        · cases hput
        · obtain ⟨-, -, hput⟩ := Raising.bind_ok.mp hput
          split at hput
          · split at hput
            · cases hput
            · split at hput <;> cases hput
          · split at hput
            · cases hput
            · split at hput
              · cases hput
              · cases hput
                exact List.mem_append_right _ (List.mem_singleton_self _)

/-- The fallback of a materialized snapshot that the gate lets pass is validated and published
exactly when the facts of every section fit its limit. -/
theorem fallback_published_iff (hmaterialized : Materialized w python snapshot)
    (hgate : ∃ result, evaluate snapshot python.str = .ok result ∧
      (result.status = .passed ∨ result.status = .degraded))
    {request : ValidationRequest} {tables : ReportTables}
    (hid : FitsText 1 128 request.reportId) (hversion : FitsText 1 64 request.reportVersion)
    (hreads : ReadsBack pydantic python publishAt snapshot request.generatedAt)
    (hroom : tables.HasRoom snapshot request) :
    (∃ result after, validateOrFallback pydantic python publishAt request none tables =
      .ok (result, after) ∧ result.report ∈ after.reports ∧ result.report.Publishable) ↔
        FactsFit snapshot := by
  obtain ⟨body, policy, hsnapshot⟩ := hmaterialized.of_body
  constructor
  · rintro ⟨result, after, hreturned, -, hpublished⟩
    exact factsFit_of_published hsnapshot hroom.loaded hreturned hpublished
  · intro hfits
    obtain ⟨gate, hresult, hstatus⟩ := hgate
    obtain ⟨issues, hquality, hissues⟩ := hsnapshot.qualityIssues_ok hresult hstatus
    have htexts : ∀ issue ∈ issues, IssueTexts issue := fun issue hissue =>
      (hissues issue hissue).2
    obtain ⟨contentOf, hcontents⟩ : ∃ contentOf,
        ContentsOf python snapshot body (fallbackStatus issues) issues contentOf :=
      hsnapshot.contents htexts
    have hreadable : Readable w pydantic python publishAt snapshot body policy
        request.generatedAt issues contentOf :=
      { snapshotOf := hsnapshot
        reads := hreads
        texts := htexts
        warnings := fun issue hissue => (hissues issue hissue).1
        contents := hcontents
        fits := hfits }
    exact hreadable.publishes hquality hid hversion hroom

/-! ### A weekend with one headline of mainland China -/

/-- The digests of the parts of the ids, and of the id of a snapshot of this fingerprint. -/
def sampleDigests (fingerprint snapshotHash : String) : List (List String × String) :=
  [(["news.cn.official_headlines_24h", "cn-news-1", sampleDigest],
      "0f15cb8feaab787c512686f04ba2f4bc4d42d4ba342639939a36c801b0ee1c9f"),
    (["cn-official", "cn-1", sampleDigest],
      "2fcc2ef03c9a7ede52dbf5dba3919ba952f132756ec8dae621e4479e740000bb"),
    (["news.hk.official_headlines_24h", "hk-news-1", sampleDigest],
      "c475e20f248653453c75ec300f0e6f829b324986a42ff661ccc17f509871a664"),
    (["hkma", "hk-1", sampleDigest],
      "a0182362414a4207895ff02332364f8d471eb6ec1fce73090d6c9b9997d8ae5a"),
    (["v1", "2026-07-04", fingerprint], snapshotHash)]

/-- The digest of a text; the text that is not in the list is the body of the snapshot. -/
def sampleHash (fingerprint snapshotHash text : String) : String :=
  (((sampleDigests fingerprint snapshotHash).find? fun entry =>
    canonicalJson (strings entry.1) = text).map Prod.snd).getD fingerprint

/-- The sample digest is a digest. -/
theorem sampleHash_isSha256 {fingerprint snapshotHash : String}
    (hfingerprint : IsSha256 fingerprint) (hsnapshot : IsSha256 snapshotHash) (text : String) :
    IsSha256 (sampleHash fingerprint snapshotHash text) := by
  have hknown : ∀ entry ∈ (sampleDigests fingerprint snapshotHash).take 4, IsSha256 entry.2 := by
    unfold sampleDigests
    simp only [List.take, List.forall_mem_cons]
    decide +kernel
  unfold sampleHash
  -- the digest of a listed text, or the default
  cases hfound : (sampleDigests fingerprint snapshotHash).find? fun entry =>
      canonicalJson (strings entry.1) = text with
  | none => exact hfingerprint
  | some entry =>
    have hmem := List.mem_of_find?_eq_some hfound
    have hsplit : sampleDigests fingerprint snapshotHash =
        (sampleDigests fingerprint snapshotHash).take 4 ++
          [(["v1", "2026-07-04", fingerprint], snapshotHash)] := rfl
    rw [hsplit] at hmem
    -- the first four of the list are literals
    rcases List.mem_append.mp hmem with hold | hlast
    · exact hknown entry hold
    · rw [List.mem_singleton.mp hlast]
      exact hsnapshot

def sampleWriting (fingerprint snapshotHash : String) (hfingerprint : IsSha256 fingerprint)
    (hsnapshot : IsSha256 snapshotHash) : Writing where
  decimal x := toString x
  dumpsParts parts := canonicalJson (strings parts)
  dumpsPayload := canonicalJson
  sha256Hex := sampleHash fingerprint snapshotHash
  hexdigest := sampleHash_isSha256 hfingerprint hsnapshot

/-- A headline of an official source. -/
def sampleHeadline (newsId title providerId recordId : String) (region : Region)
    (provider : FitsText 2 64 providerId) (record : FitsText 1 256 recordId) : CitedNews where
  newsId
  clusterId := none
  supersedesNewsId := none
  status := .active
  title
  summary := none
  body := none
  contentMode := .headline
  language := "en"
  sourceTier := .official
  publishedAt := some (20638 * dayMicroseconds - 3600000000)
  publishedDate := none
  availableAt := 20638 * dayMicroseconds - 3000000000
  regions := [region]
  entities := []
  topics := []
  source := ⟨providerId, recordId, "Official", sampleDigest⟩
  contentHashSha256 := sampleDigest
  cited :=
    { providerId
      providerRecordId := recordId
      sourceName := "Official"
      checksumSha256 := sampleDigest
      sourceUrl := some "https://example.test/news"
      retrievedAt := 20638 * dayMicroseconds - 3000000000
      provider
      record
      name := ⟨by decide +kernel, by decide, by decide⟩
      checksum := by decide +kernel }
  same := rfl
  regions_ne := List.cons_ne_nil _ _

def cnHeadline (title : String) : CitedNews :=
  sampleHeadline "cn-news-1" title "cn-official" "cn-1" .cn
    ⟨by decide +kernel, by decide, by decide⟩ ⟨by decide +kernel, by decide, by decide⟩

def hkHeadline : CitedNews :=
  sampleHeadline "hk-news-1" "HK" "hkma" "hk-1" .hk
    ⟨by decide +kernel, by decide, by decide⟩ ⟨by decide +kernel, by decide, by decide⟩

/-- The evidence of a news input with one event. -/
def headlineEvidence (w : Writing) (inputId : String) (event : CitedNews) : ReportInputEvidence where
  inputId
  status := .available
  reason := "official headlines are materialized before cutoff"
  facts := [event].map (newsEventFact w inputId 20638)
  sourceReferences := [event].map fun event => sourceReference w event.cited

def sampleCutoff : Instant := 20638 * dayMicroseconds + 900000000

def sampleEvidence (w : Writing) (title : String) : List ReportInputEvidence :=
  [headlineEvidence w "news.cn.official_headlines_24h" (cnHeadline title),
    headlineEvidence w "news.hk.official_headlines_24h" hkHeadline,
    globalCalendarEvidence w 20638 sampleCutoff ([.cn, .hk, .us].map fun region =>
      { region, status := .available, reason := "no releases", releases := [] })]

/-- The policy of 2026-07-04, a Saturday. -/
def weekendPolicy : ReportDayPolicyResult where
  policyId := reportDayPolicyId
  calendarVersion := "4.5"
  reportDate := "2026-07-04"
  dayType := "weekend"
  requiredInputIds := alwaysRequiredReportInputIds.insertionSort (· ≤ ·)
  optionalInputIds := (marketInputIdByRegion.map Prod.snd).insertionSort (· ≤ ·)
  regions :=
    [⟨"CN", "XSHG", "weekend_closed", "market.cn.core_indices.previous_close", false, "2026-07-03"⟩,
      ⟨"HK", "XHKG", "weekend_closed", "market.hk.core_indices.previous_close", false,
        "2026-07-03"⟩,
      ⟨"US", "XNYS", "weekend_closed", "market.us.core_indices.previous_close", false,
        "2026-07-02"⟩]

/-- The snapshot of that day with a headline of this title. -/
def weekendSnapshot? (w : Writing) (title : String) : Option (ReportInputSnapshot Json) :=
  snapshotFromEvidence w .plain 20638 (20638 * dayMicroseconds + 600000000) sampleCutoff "v1"
    (applyReportDayPolicy weekendPolicy (sampleEvidence w title)) weekendPolicy

theorem sampleEvidence_collected {w : Writing} {title : String} :
    ∀ item ∈ sampleEvidence w title, Collected w 20638 sampleCutoff item := by
  intro item hitem
  simp only [sampleEvidence, List.mem_cons, List.not_mem_nil, or_false] at hitem
  rcases hitem with rfl | rfl | rfl
  · exact .news [cnHeadline title] (by decide +kernel)
  · exact .news [hkHeadline] (by decide +kernel)
  · exact .calendar _

/-- The snapshot of the weekend is a materialized one. -/
theorem weekendSnapshot_materialized {w : Writing} {title : String}
    {snapshot : ReportInputSnapshot Json} (h : weekendSnapshot? w title = some snapshot) :
    Materialized w .plain snapshot := by
  have hdate : snapshot.reportDate = 20638 := by
    unfold weekendSnapshot? snapshotFromEvidence at h
    obtain ⟨body, -, hrest⟩ := Option.bind_eq_some_iff.mp h
    split at hrest
    · rw [← Option.some.inj hrest]
      rfl
    · cases hrest
  refine ⟨20638 * dayMicroseconds + 600000000, sampleCutoff, "v1", sampleEvidence w title,
    weekendPolicy, ?_, ?_⟩
  · rw [hdate]
    exact sampleEvidence_collected
  · rw [hdate]
    exact h

/-- The call for that snapshot, on tables that hold nothing else. -/
def weekendRequest (snapshot : ReportInputSnapshot Json) : ValidationRequest where
  snapshotId := snapshot.snapshotId
  reportId := "report-1"
  reportVersion := "v1"
  generatedAt := 20638 * dayMicroseconds + 1200000000

def weekendTables (snapshot : ReportInputSnapshot Json) : ReportTables :=
  { snapshots := [snapshot], generationIds := [], reports := [] }

theorem weekendTables_hasRoom (snapshot : ReportInputSnapshot Json) :
    (weekendTables snapshot).HasRoom snapshot (weekendRequest snapshot) where
  loaded := by simp [ReportTables.loadInputSnapshot, weekendTables, weekendRequest]
  attempt := fun _ hmem => absurd hmem (by simp [weekendRequest])
  free := fun _ hmem => absurd hmem List.not_mem_nil

def shortWriting : Writing :=
  sampleWriting "9a7d3e25ef22045c3800b955c1ac5e1c83a62b77d9b69a2203fb05be1f1c55c5"
    "17150545537b8f18a2aff9a160b04f1ec729753e027af742efe036bf26379239" (by decide +kernel)
    (by decide +kernel)

def longWriting : Writing :=
  sampleWriting "d5a43de0c566277674c529d91e40a2583c38f7211ec20e0215930856ab56aef6"
    "11e4bb538e617a385a53a37fe2dd8ecb255779c23b515ab008804711336f0f55" (by decide +kernel)
    (by decide +kernel)

/-- A headline of 600 characters. -/
def longTitle : String := String.ofList (List.replicate 600 'a')

/-- The headline is shown with its title as the label and as the text. -/
theorem weekendSnapshot_headline {w : Writing} {title : String}
    {snapshot : ReportInputSnapshot Json} (h : weekendSnapshot? w title = some snapshot) :
    ∃ raw ∈ shownFacts snapshot "cn_highlights", shownLength raw = title.length + title.length := by
  have hfact : (newsEventFact w "news.cn.official_headlines_24h" 20638 (cnHeadline title)).get
      "section_id" = .str "cn_highlights" := by
    have hregion : highlightsOf .cn = "cn_highlights" := by decide +kernel
    exact congrArg Json.str hregion
  -- the headline was available before the cutoff
  have hbefore : ∃ availableAt ∈ parseDatetime .plain
      (.str (utcIsoformat (20638 * dayMicroseconds - 3000000000))),
        availableAt ≤ sampleCutoff := by
    decide +kernel
  obtain ⟨availableAt, hparsed, hbefore⟩ := hbefore
  have hparsed : parseDatetime .plain ((newsEventFact w "news.cn.official_headlines_24h" 20638
      (cnHeadline title)).get "available_at") = some availableAt := hparsed
  have hdirect : (headlineEvidence w "news.cn.official_headlines_24h"
      (cnHeadline title)).Usable := Or.inl rfl
  have husable : headlineEvidence w "news.cn.official_headlines_24h" (cnHeadline title) ∈
      usableEvidence .plain sampleCutoff
        (applyReportDayPolicy weekendPolicy (sampleEvidence w title)) := by
    -- so it survives the cutoff, as direct evidence
    refine List.mem_filter.mpr ⟨List.mem_map.mpr ⟨_, List.mem_append_left _
      (List.mem_map.mpr ⟨_, List.mem_cons_self, rfl⟩), ?_⟩, decide_eq_true hdirect⟩
    have hpolicy : applyPolicy weekendPolicy (headlineEvidence w "news.cn.official_headlines_24h"
        (cnHeadline title)) =
          -- the policy of the day requires the input
          headlineEvidence w "news.cn.official_headlines_24h" (cnHeadline title) := by
      have hrequired : "news.cn.official_headlines_24h" ∈ weekendPolicy.requiredInputIds := by
        decide +kernel
      unfold applyPolicy
      rw [if_pos (show (headlineEvidence w "news.cn.official_headlines_24h"
        (cnHeadline title)).inputId ∈ _ from hrequired)]
      rfl
    rw [hpolicy]
    unfold excludeAfterCutoff
    rw [if_pos hdirect]
    show afterCutoff .plain sampleCutoff _ [newsEventFact w "news.cn.official_headlines_24h" 20638
      (cnHeadline title)] = _
    unfold afterCutoff
    rw [hparsed]
    simp only [if_neg (not_lt.mpr hbefore)]
    rfl
  unfold weekendSnapshot? snapshotFromEvidence at h
  obtain ⟨body, hbody, hrest⟩ := Option.bind_eq_some_iff.mp h
  unfold snapshotBody at hbody
  simp only [Option.bind_eq_bind, Option.bind_eq_some_iff, Option.guard_eq_some',
    exists_const] at hbody
  obtain ⟨-, -, sourceById, -, hbody⟩ := hbody
  -- the body keeps every fact of the usable evidence, sorted
  have hmem : newsEventFact w "news.cn.official_headlines_24h" 20638 (cnHeadline title) ∈
      body.facts := by
    have hfacts : body.facts = sortedFacts .plain (usableEvidence .plain sampleCutoff
        (applyReportDayPolicy weekendPolicy (sampleEvidence w title))) := by
      rw [← Option.some.inj hbody]
    rw [hfacts]
    unfold sortedFacts
    rw [List.mem_insertionSort]
    exact List.mem_flatMap.mpr ⟨_, husable, List.mem_singleton_self _⟩
  refine ⟨newsEventFact w "news.cn.official_headlines_24h" 20638 (cnHeadline title), ?_, rfl⟩
  unfold shownFacts
  rw [if_neg (by decide)]
  -- the fact is in the section of the Chinese highlights
  refine List.mem_filter.mpr ⟨?_, ?_⟩
  · split at hrest
    · rw [← Option.some.inj hrest]
      exact List.mem_filter.mpr ⟨hmem, rfl⟩
    · cases hrest
  · rw [hfact]
    rfl

/-- Its label and its text are 1200 characters of a section of 1000. -/
theorem long_headline_unpublished : ∃ snapshot,
    Materialized longWriting .plain snapshot ∧
      (∃ gate, evaluate snapshot Python.plain.str = .ok gate ∧ gate.status = .degraded) ∧
      (weekendTables snapshot).HasRoom snapshot (weekendRequest snapshot) ∧
      ¬ ∃ result after, validateOrFallback .plain .plain samplePublishAt (weekendRequest snapshot)
        none (weekendTables snapshot) = .ok (result, after) ∧ result.report.Publishable := by
  have hrun : ∃ snapshot ∈ weekendSnapshot? longWriting longTitle,
      ∃ gate ∈ (evaluate snapshot Python.plain.str).toOption, gate.status = .degraded := by
    decide +kernel
  obtain ⟨snapshot, hsnapshot, gate, hgate, hdegraded⟩ := hrun
  have hmaterialized := weekendSnapshot_materialized hsnapshot
  have hroom := weekendTables_hasRoom snapshot
  refine ⟨snapshot, hmaterialized, ⟨gate, Raising.eq_ok_of_toOption hgate, hdegraded⟩, hroom, ?_⟩
  rintro ⟨result, after, hreturned, hpublished⟩
  obtain ⟨body, policy, hof⟩ := hmaterialized.of_body
  have hfits := factsFit_of_published hof hroom.loaded hreturned hpublished
    ("cn_highlights", 1000) (by decide)
  obtain ⟨raw, hraw, hlength⟩ := weekendSnapshot_headline hsnapshot
  have hlong : longTitle.length = 600 := by
    unfold longTitle
    rw [String.length_ofList, List.length_replicate]
  have hle := List.le_sum_of_mem (List.mem_map_of_mem (f := shownLength) hraw)
  simp only at hfits
  omega

/-- A short headline on a Saturday, and its fallback that is published. -/
theorem fallback_published_iff_weekend : ∃ snapshot,
    Materialized shortWriting .plain snapshot ∧ ∃ result after,
      validateOrFallback .plain .plain samplePublishAt (weekendRequest snapshot) none
        (weekendTables snapshot) = .ok (result, after) ∧ result.report ∈ after.reports ∧
          result.report.Publishable := by
  have hrun : ∃ snapshot ∈ weekendSnapshot? shortWriting "CN",
      (∃ gate ∈ (evaluate snapshot Python.plain.str).toOption,
        gate.status = .passed ∨ gate.status = .degraded) ∧
        ReadsBack .plain .plain samplePublishAt snapshot (weekendRequest snapshot).generatedAt ∧
        FactsFit snapshot := by
    decide +kernel
  obtain ⟨snapshot, hsnapshot, ⟨gate, hgate, hstatus⟩, hreads, hfits⟩ := hrun
  have hmaterialized := weekendSnapshot_materialized hsnapshot
  have hid : FitsText 1 128 (weekendRequest snapshot).reportId :=
    ⟨by show modelStrip "report-1" = "report-1"; decide +kernel,
      by show 1 ≤ "report-1".length; decide, by show "report-1".length ≤ 128; decide⟩
  have hversion : FitsText 1 64 (weekendRequest snapshot).reportVersion :=
    ⟨by show modelStrip "v1" = "v1"; decide +kernel, by show 1 ≤ "v1".length; decide,
      by show "v1".length ≤ 64; decide⟩
  exact ⟨snapshot, hmaterialized, (fallback_published_iff hmaterialized
    ⟨gate, Raising.eq_ok_of_toOption hgate, hstatus⟩ hid hversion hreads
      (weekendTables_hasRoom snapshot)).mpr hfits⟩

end MacroPlatform.Report
