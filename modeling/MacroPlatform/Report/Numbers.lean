import MacroPlatform.Report.FallbackSections

/-! # Numbers on the card

The validator compares claims with facts, and does not read the text of a section. A number that
the language model writes there is not looked at; the fallback builder writes the texts of the
facts, and the numbers with them.

* `published_claims_backed`: what is published is backed as far as its claims say it, and the
  fallback throughout;
* `misquoted_number_published`: a number in a text that nothing backs.
-/

namespace MacroPlatform.Report

open Daily

variable (pydantic : Pydantic) (python : Python) (publishAt : Day → Instant)
variable (snapshot : ReportInputSnapshot Json)

/-- The sections whose text the card shows. -/
def cardSectionIds : List String :=
  ["executive_summary", "cn_highlights", "hk_highlights", "us_highlights", "upcoming_calendar",
    "data_quality_notice"]

/-- The decimal numbers in a text: the runs of digits and points, without points at the ends. -/
def numbersIn (text : String) : List String :=
  ((text.toList.splitOnP fun c => !(c.isDigit || c == '.')).map fun cs =>
    stripWhere (· == '.') (String.ofList cs)).filter (· ≠ "")

example : numbersIn "CSI 300 closed at 3950.12." = ["300", "3950.12"] := by decide +kernel

/-- The value, the label and the display text of a fact; without them its id is shown. -/
def factTexts (raw : Json) : List String :=
  [pyString python (raw.get "value"), pyString python (raw.get "label" (raw.get "fact_id")),
    pyString python (raw.get "display_text" (raw.get "fact_id"))]

/-- A number that a fact of the section states. -/
def NumberBacked (sect : SectionFields) (number : String) : Prop :=
  ∃ raw ∈ rawFacts snapshot, ∃ factId, raw.get "fact_id" = .str factId ∧ UsesFact sect factId ∧
    ∃ text ∈ factTexts python raw, number ∈ numbersIn text

/-- Every number that is visible in a section of the card is stated by a fact that the section
refers to. -/
def NumbersBacked (report : ReportFields) : Prop :=
  ∀ sectionId ∈ cardSectionIds, ∀ sect ∈ report.section? sectionId,
    ∀ visible ∈ visibleTexts sect.text sect.items, ∀ number ∈ numbersIn visible,
      NumberBacked python snapshot sect.toSectionFields number

/-- A claim says what a fact of the snapshot says, and its section cites a source of the fact. -/
def ClaimBacked (sect : SectionFields) (claim : ReportClaim) : Prop :=
  ∃ raw ∈ rawFacts snapshot, raw.get "fact_id" = .str claim.factId ∧
    ClaimAgrees python claim raw ∧ FactBacked python snapshot sect raw

variable {pydantic : Pydantic} {python : Python} {publishAt : Day → Instant}
variable {snapshot : ReportInputSnapshot Json}

/-! ## The texts of the fallback -/

theorem not_mem_numbersIn_empty (number : String) : number ∉ numbersIn "" := by
  have hnone : numbersIn "" = [] := by decide +kernel
  rw [hnone]
  exact List.not_mem_nil

theorem numbersIn_qualityNotice (status : ReportStatus) (issues : List ReportValidationIssue) :
    numbersIn (qualityNotice status issues) = [] := by
  unfold qualityNotice
  split_ifs <;> decide +kernel

/-- A section of the fallback has a fixed text, or an item for each of its facts. -/
theorem factsContent_visible (blocking : Bool) (sectionId : String) (items claims : List Json) :
    (factsContent blocking sectionId items claims).text = none ∧
        (factsContent blocking sectionId items claims).items = items ∨
      (factsContent blocking sectionId items claims).items = [] ∧
        ∀ text ∈ (factsContent blocking sectionId items claims).text,
          modelStrip text = text ∧ numbersIn text = [] := by
  unfold factsContent
  -- without facts the section may show a fixed text
  by_cases hitems : items.length = 0
  · have hnil : items = [] := List.length_eq_zero_iff.mp hitems
    subst hnil
    by_cases hcalendar : sectionId = "upcoming_calendar"
    · left
      simp [hcalendar]
    · by_cases hmovements : sectionId = "key_movements"
      · left
        simp [hmovements]
      -- the two texts, with and without a blocking error
      · right
        cases blocking with
        | true => simp [hcalendar, hmovements]; decide +kernel
        | false => simp [hcalendar, hmovements]; decide +kernel
  · left
    simp [hitems]

/-- A section of the card shows its facts, or a text without numbers. -/
theorem sectionContent_visible {status : ReportStatus} {issues : List ReportValidationIssue}
    {sectionId : String} {content : SectionContent} (hcard : sectionId ∈ cardSectionIds)
    (h : sectionContent python snapshot status issues sectionId = .ok content) :
    content.text = none ∧
        (sectionFacts snapshot sectionId).mapM (factItem python) = .ok content.items ∨
      content.items = [] ∧ ∀ text ∈ content.text, modelStrip text = text ∧ numbersIn text = [] := by
  have hsources : sectionId ≠ "source_references" := by
    rintro rfl
    exact absurd hcard (by decide)
  unfold sectionContent at h
  rw [if_neg hsources] at h
  -- the notice is a fixed text of the builder
  by_cases hnotice : sectionId = "data_quality_notice"
  · rw [if_pos hnotice] at h
    cases h
    right
    refine ⟨rfl, ?_⟩
    intro text htext
    cases htext
    exact ⟨qualityNotice_stripped status issues, numbersIn_qualityNotice status issues⟩
  -- any other section is built from its facts
  · rw [if_neg hnotice] at h
    obtain ⟨items, hitems, h⟩ := Raising.bind_ok.mp h
    obtain ⟨claims, -, h⟩ := Raising.bind_ok.mp h
    cases h
    rcases factsContent_visible (issues.any fun issue => issue.severity = .error) sectionId items
      claims with ⟨htext, hsame⟩ | hfixed
    · left
      rw [hsame]
      exact ⟨htext, hitems⟩
    · right
      exact hfixed

/-- The item of a fact, as the contract reads it. -/
theorem factItem_read {raw item : Json} (h : factItem python raw = .ok item) :
    strippedDict item = some item ∧
      itemTexts item = [pyString python (raw.get "label" (raw.get "fact_id")),
        pyString python (raw.get "display_text" (raw.get "fact_id"))] ∧
      item.get "fact_ids" = .arr [raw.get "fact_id"] := by
  unfold factItem at h
  obtain ⟨factId, hid, h⟩ := Raising.bind_ok.mp h
  obtain ⟨sourceRefIds, -, h⟩ := Raising.bind_ok.mp h
  have hfactId : raw.get "fact_id" = factId := by
    unfold pyItem at hid
    -- the id is taken by a subscript, so it is there
    split at hid
    · cases hid
      rfl
    · cases hid
  rw [hfactId]
  cases h
  refine ⟨?_, ?_, ?_⟩
  · refine strippedDict_obj (by simp) ?_
    simp only [List.map_cons, List.map_nil]
    -- the two texts that the item shows
    decide +kernel
  · simp [itemTexts, Json.get, Json.toStr?]
  -- the one id that it names
  · simp [Json.get]

/-- The numbers that a fallback report shows are those of its facts. -/
theorem Built.numbersBacked {report : StoredDailyReport Json}
    {issues : List ReportValidationIssue} {sections : List (String × Json)}
    {typed : DailyReport pydantic} {facts : List Json} {factIds : List String}
    (h : Built pydantic python publishAt snapshot report issues sections)
    (hfacts : FactsMaterialized snapshot facts factIds)
    (htyped : DailyReport.modelValidate pydantic report.payload = some typed) :
    NumbersBacked python snapshot typed.toReportFields := by
  intro sectionId hcard sect hsection visible hvisible number hnumber
  obtain ⟨maxCharacters, content, -, hcontent, hread⟩ := h.section_read htyped hsection
  have hreads := sectionPayload_reads python sectionId maxCharacters content
  obtain ⟨-, -, -, -, -, htext, -, -, hitems, -⟩ := SectionFields.read_some.mp hread
  rw [hreads.text] at htext
  rw [hreads.items] at hitems
  have hmap : content.items.mapM strippedDict = some sect.items := hitems
  rcases sectionContent_visible hcard hcontent with ⟨hnone, hbuilt⟩ | ⟨hnil, hfixed⟩
  · -- the section shows its items, and each item is a fact
    rw [hnone] at htext
    have hnoText : sect.text = none := (Option.some.inj htext).symm
    unfold visibleTexts at hvisible
    rw [hnoText] at hvisible
    -- the text of the section is empty; an item shows a fact
    rcases List.mem_cons.mp hvisible with rfl | hitem
    · exact absurd hnumber (not_mem_numbersIn_empty number)
    · obtain ⟨item, hitem, hshown⟩ := List.mem_flatMap.mp hitem
      obtain ⟨written, hwritten, hstripped⟩ := Raising.exists_of_mem_mapM_some hmap hitem
      obtain ⟨raw, hraw, hfact⟩ := Raising.exists_of_mem_mapM hbuilt hwritten
      obtain ⟨hself, htexts, hids⟩ := factItem_read hfact
      have hsame : written = item := Option.some.inj (hself.symm.trans hstripped)
      subst hsame
      have hmem : raw ∈ rawFacts snapshot := (List.mem_filter.mp hraw).1
      obtain ⟨factId, hid⟩ := rawFacts_id hfacts hmem
      refine ⟨raw, hmem, factId, hid, ?_, visible, ?_, hnumber⟩
      · refine Or.inr (Or.inl ⟨written, hitem, ?_⟩)
        refine ⟨written, [.str factId], Json.Inside.here, ?_, List.mem_singleton.mpr rfl⟩
        rw [hids, hid]
      · rw [htexts] at hshown
        exact List.mem_cons_of_mem _ hshown
  · -- a section without items shows a text without numbers
    rw [hnil] at hmap
    have hnoItems : sect.items = [] := (Option.some.inj hmap).symm
    unfold visibleTexts at hvisible
    rw [hnoItems] at hvisible
    have heq : visible = sect.text.getD "" := by simpa using hvisible
    cases hcontentText : content.text with
    | none =>
      rw [hcontentText] at htext
      have hnoText : sect.text = none := (Option.some.inj htext).symm
      rw [heq, hnoText] at hnumber
      exact absurd hnumber (not_mem_numbersIn_empty number)
    | some fixed =>
      obtain ⟨hstrip, hnone⟩ := hfixed fixed hcontentText
      rw [hcontentText] at htext
      have hgiven : Json.toOption? (text 0) (.ofOption .str (some fixed)) = some (some fixed) := by
        simp [Json.ofOption, Json.toOption?, text_str hstrip]
      rw [hgiven] at htext
      rw [heq, ← Option.some.inj htext] at hnumber
      have hempty : number ∈ numbersIn fixed := hnumber
      rw [hnone] at hempty
      exact absurd hempty List.not_mem_nil

/-- What is published is backed as far as the machine-readable claims say it, and in a fallback
report every number is. -/
theorem published_claims_backed {report : StoredDailyReport Json}
    {issues : List ReportValidationIssue}
    (h : validate pydantic python snapshot report = .ok issues)
    (hclean : ∀ issue ∈ issues, issue.severity ≠ .error) :
    ∃ typed, DailyReport.modelValidate pydantic report.payload = some typed ∧
      (∀ sectionId ∈ cardSectionIds, ∀ sect ∈ typed.section? sectionId,
        ∀ claim ∈ sect.claims, ClaimBacked python snapshot sect.toSectionFields claim) ∧
      ((∃ publishAt reportId reportVersion generatedAt generationId,
          build pydantic python publishAt snapshot reportId reportVersion generatedAt generationId =
            .ok report) →
        NumbersBacked python snapshot typed.toReportFields) := by
  obtain ⟨typed, htyped, hvalid⟩ := validate_backed h hclean
  refine ⟨typed, htyped, ?_, ?_⟩
  · intro sectionId _ sect hsection claim hclaim
    obtain ⟨entry, hfind, rfl⟩ := Option.map_eq_some_iff.mp hsection
    have hbacked := hvalid.sections entry (List.mem_of_find?_eq_some hfind)
    have huses : UsesFact entry.2.toSectionFields claim.factId :=
      Or.inr (Or.inr ⟨claim, hclaim, rfl⟩)
    obtain ⟨raw, hraw, hid⟩ := hbacked.materialized claim.factId huses
    exact ⟨raw, hraw, hid, hbacked.claims claim hclaim raw hraw hid,
      hbacked.facts claim.factId huses raw hraw hid⟩
  · rintro ⟨publishAt, reportId, reportVersion, generatedAt, generationId, hbuild⟩
    obtain ⟨reported, sections, hbuilt⟩ := build_built hbuild
    obtain ⟨result, hresult, hstatus⟩ := hvalid.gate
    obtain ⟨-, -, -, -, hmaterialized⟩ := evaluate_passed hresult hstatus
    obtain ⟨facts, factIds, hfacts⟩ := hasMaterializedFacts_spec hmaterialized
    exact hbuilt.numbersBacked hfacts htyped

/-! ### A number that no fact states -/

/-- The highlights of the index with another number in the text than in the claim. -/
def misquotedHighlights : String × Json :=
  sampleSection "cn_highlights" "CSI 300 closed at 3951" 1000
    [("items", .arr [.obj
      [("fact_ids", strings ["fact-csi300"]), ("source_ref_ids", strings ["source-1"])]]),
      ("claims", .arr [.obj (textFields
        [("claim_type", "number"), ("fact_id", "fact-csi300"), ("unit", "points")] ++
        [("value", .int 3950)])])]

def misquotedReport : StoredDailyReport Json :=
  sampleReport (samplePayload ["fact-csi300"] misquotedHighlights
    (sampleSection "data_quality_notice" "ok" 600))

theorem validate_misquotedReport :
    validate .plain .plain indexSnapshot misquotedReport = .ok [] :=
  Raising.eq_ok_of_toOption (by decide +kernel)

/-- The validator finds nothing, and the card shows a number that is not in the snapshot. -/
theorem misquoted_number_published : ∃ typed,
    validate .plain .plain indexSnapshot misquotedReport = .ok [] ∧
      DailyReport.modelValidate .plain misquotedReport.payload = some typed ∧
      ¬ NumbersBacked .plain indexSnapshot typed.toReportFields := by
  have hshown : ∃ typed ∈ DailyReport.modelValidate .plain misquotedReport.payload,
      ∃ sect ∈ typed.section? "cn_highlights",
        ∃ visible ∈ visibleTexts sect.text sect.items, "3951" ∈ numbersIn visible := by
    decide +kernel
  have hunstated : ∀ raw ∈ rawFacts indexSnapshot, ∀ text ∈ factTexts .plain raw,
      "3951" ∉ numbersIn text := by
    decide +kernel
  obtain ⟨typed, htyped, sect, hsection, visible, hvisible, hnumber⟩ := hshown
  refine ⟨typed, validate_misquotedReport, htyped, ?_⟩
  intro hbacked
  obtain ⟨raw, hraw, -, -, -, text, htext, hmem⟩ :=
    hbacked "cn_highlights" (by decide) sect hsection visible hvisible "3951" hnumber
  exact hunstated raw hraw text htext hmem

theorem published_claims_backed_misquoted : ∃ typed,
    DailyReport.modelValidate .plain misquotedReport.payload = some typed ∧
      ∀ sectionId ∈ cardSectionIds, ∀ sect ∈ typed.section? sectionId, ∀ claim ∈ sect.claims,
        ClaimBacked .plain indexSnapshot sect.toSectionFields claim := by
  obtain ⟨typed, htyped, hclaims, -⟩ :=
    published_claims_backed validate_misquotedReport fun _ hissue =>
      absurd hissue List.not_mem_nil
  exact ⟨typed, htyped, hclaims⟩

end MacroPlatform.Report
