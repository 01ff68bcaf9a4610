import MacroPlatform.Report.Fallback

/-! # The sections of a fallback report

What the contract reads in the sections that the builder wrote.

* `strippedDict_obj`: a dict of plain keys is read as it is;
* `Built.section_read`: a section that is read is one that was written.
-/

namespace MacroPlatform.Report

open Daily

variable {pydantic : Pydantic} {python : Python} {publishAt : Day → Instant}
variable {snapshot : ReportInputSnapshot Json}

/-! ## Dicts that are read as they are written -/

theorem assign_of_not_mem {α : Type} {key : String} {value : α} {fields : List (String × α)}
    (h : key ∉ fields.map Prod.fst) : Json.assign key value fields = fields ++ [(key, value)] := by
  induction fields with
  | nil => rfl
  | cons field fields ih =>
    rw [List.map_cons, List.mem_cons, not_or] at h
    unfold Json.assign
    rw [if_neg (Ne.symm h.1), ih h.2, List.cons_append]

theorem dict_of_nodup {α : Type} {fields : List (String × α)}
    (h : (fields.map Prod.fst).Nodup) : Json.dict fields = fields := by
  induction fields using List.reverseRecOn with
  | nil => rfl
  | append_singleton fields field ih =>
    rw [List.map_append, List.nodup_append] at h
    obtain ⟨hfields, -, hdisjoint⟩ := h
    rw [Json.dict_concat, ih hfields]
    refine assign_of_not_mem ?_
    intro hmem
    exact hdisjoint field.1 hmem field.1 (by simp) rfl

/-- A dict of distinct keys without space around them is read as it is. -/
theorem strippedDict_obj {fields : List (String × Json)} (hnodup : (fields.map Prod.fst).Nodup)
    (hstrip : ∀ key ∈ fields.map Prod.fst, modelStrip key = key) :
    strippedDict (.obj fields) = some (.obj fields) := by
  have hmap : (fields.map fun field => (modelStrip field.1, field.2)) = fields := by
    have hid : ∀ field ∈ fields, (modelStrip field.1, field.2) = field := by
      intro field hfield
      rw [hstrip field.1 (List.mem_map_of_mem hfield)]
    exact (List.map_congr_left hid).trans (List.map_id fields)
  unfold strippedDict
  rw [Json.toObj?]
  simp only [Option.bind_eq_bind, Option.bind_some, hmap, dict_of_nodup hnodup]

/-! ## The fields of a section -/

theorem find?_whenGiven {given : Bool} {key other : String} {value : Json} :
    (whenGiven given key value).find? (fun field => field.1 = other) =
      if given = true ∧ key = other then some (key, value) else none := by
  unfold whenGiven
  cases given with
  | false => simp
  | true => by_cases hkey : key = other <;> simp [hkey]

/-- A section, field by field: one that is not given is read as its default. -/
structure SectionReads (python : Python) (sectionId : String) (maxCharacters : ℕ)
    (content : SectionContent) (j : Json) : Prop where
  sectionId : j.get "section_id" = .str sectionId
  status : j.get "status" = literalText sectionStatuses content.status
  characterCount : j.get "character_count" = .int (content.visibleLength python)
  maxCharacters : j.get "max_characters" = .int maxCharacters
  text : j.get "text" = .ofOption .str content.text
  factIds : j.get "fact_ids" (.arr []) =
    strings (sortedSet (content.items.flatMap (nestedReferenceIds "fact_ids")))
  sourceRefIds : j.get "source_ref_ids" (.arr []) =
    strings (sortedSet (content.items.flatMap (nestedReferenceIds "source_ref_ids")))
  items : j.get "items" (.arr []) = .arr content.items
  claims : j.get "claims" (.arr []) = .arr content.claims
  lookaheadDays : j.get "lookahead_days" =
    .ofOption (fun days : ℕ => .int days) content.lookaheadDays
  issueCodes : j.get "issue_codes" (.arr []) = strings content.issueCodes
  reasonCode : j.get "reason_code" = .ofOption .str content.reasonCode

/-- Each key of a section reads what was written. -/
theorem sectionPayload_reads (python : Python) (sectionId : String) (maxCharacters : ℕ)
    (content : SectionContent) : SectionReads python sectionId maxCharacters content
      (sectionPayload python sectionId maxCharacters content) := by
  constructor <;>
    simp only [sectionPayload, Json.get, List.find?_append, List.find?_cons, find?_whenGiven]
  all_goals simp
  -- the fields that may be left out
  · cases content.text <;> rfl
  · by_cases hnone : sortedSet (content.items.flatMap (nestedReferenceIds "fact_ids")) = []
    · rw [if_pos hnone, hnone]
      rfl
    · rw [if_neg hnone]
      rfl
  · by_cases hnone : sortedSet (content.items.flatMap (nestedReferenceIds "source_ref_ids")) = []
    · rw [if_pos hnone, hnone]
      rfl
    · rw [if_neg hnone]
      rfl
  · by_cases hnone : content.claims = []
    · rw [if_pos hnone, hnone]
      rfl
    · rw [if_neg hnone]
      rfl
  · cases content.lookaheadDays <;> rfl
  · by_cases hnone : content.issueCodes = []
    · rw [if_pos hnone, hnone]
      rfl
    · rw [if_neg hnone]
      rfl
  · cases content.reasonCode <;> rfl

/-! ## The sections that are read -/

/-- What the builder returned. -/
structure Built (pydantic : Pydantic) (python : Python) (publishAt : Day → Instant)
    (snapshot : ReportInputSnapshot Json) (report : StoredDailyReport Json)
    (issues : List ReportValidationIssue) (sections : List (String × Json)) : Prop where
  quality : qualityIssues python snapshot = .ok issues
  written : fallbackSections python snapshot (fallbackStatus issues) issues = .ok sections
  status : report.status = fallbackStatus issues
  payload : report.payload = fallbackPayload python publishAt snapshot report.reportId
    report.generatedAt issues sections

theorem strippedDict_payload (reportId : String) (generatedAt : Instant)
    (issues : List ReportValidationIssue) (sections : List (String × Json)) :
    strippedDict (fallbackPayload python publishAt snapshot reportId generatedAt issues sections) =
      some (fallbackPayload python publishAt snapshot reportId generatedAt issues sections) := by
  refine strippedDict_obj ?_ ?_
  · simp
  · simp only [List.map_cons, List.map_nil]
    decide +kernel

/-- What the stored contract keeps of a report. -/
theorem storedReport_some {given report : StoredDailyReport Json}
    (h : storedReport pydantic given = some report) :
    strippedDict given.payload = some report.payload ∧ report.status = given.status ∧
      report.generatedAt = given.generatedAt ∧
      (report.payload.get "report_id").toStr? = some report.reportId := by
  unfold storedReport at h
  simp only [Option.bind_eq_bind, Option.bind_eq_some_iff] at h
  obtain ⟨reportId, -, version, -, contract, -, snapshotId, -, payload, hpayload, hreport⟩ := h
  split at hreport
  · rename_i hidentity
    cases hreport
    exact ⟨hpayload, rfl, rfl, hidentity.reportId⟩
  · cases hreport

/-- A report that is built has issues and sections of its own. -/
theorem build_built {reportId reportVersion : String} {generatedAt : Instant}
    {generationId : Option UUID} {report : StoredDailyReport Json}
    (h : build pydantic python publishAt snapshot reportId reportVersion generatedAt
      generationId = .ok report) :
    ∃ issues sections, Built pydantic python publishAt snapshot report issues sections := by
  unfold build at h
  obtain ⟨issues, hissues, h⟩ := Raising.bind_ok.mp h
  obtain ⟨sections, hsections, h⟩ := Raising.bind_ok.mp h
  obtain ⟨hpayload, hstatus, hgenerated, hid⟩ := storedReport_some (stored_ok.mp h)
  rw [strippedDict_payload] at hpayload
  have hsame := Option.some.inj hpayload
  rw [← hsame] at hid
  have hreportId : reportId = report.reportId := Option.some.inj hid
  refine ⟨issues, sections, hissues, hsections, hstatus, ?_⟩
  rw [hgenerated, ← hreportId]
  exact hsame.symm

/-- A section that the contract read is one that the builder wrote. -/
theorem Built.section_read {report : StoredDailyReport Json} {issues : List ReportValidationIssue}
    {sections : List (String × Json)} {typed : DailyReport pydantic} {sectionId : String}
    {sect : ReportSection}
    (h : Built pydantic python publishAt snapshot report issues sections)
    (htyped : DailyReport.modelValidate pydantic report.payload = some typed)
    (hsection : typed.section? sectionId = some sect) :
    ∃ maxCharacters content, (sectionId, maxCharacters) ∈ sectionLimits ∧
      sectionContent python snapshot (fallbackStatus issues) issues sectionId = .ok content ∧
      SectionFields.read pydantic (sectionPayload python sectionId maxCharacters content) =
        some sect.toSectionFields := by
  obtain ⟨-, -, -, -, -, -, -, -, -, -, -, -, -, hread⟩ :=
    ReportFields.read_some.mp (DailyReport.modelValidate_some.mp htyped)
  have hget : report.payload.get "sections" = .obj sections := by
    rw [h.payload]
    simp [fallbackPayload, Json.get]
  rw [hget, readSections_eq] at hread
  obtain ⟨entries, hentries, hdict⟩ := Option.map_eq_some_iff.mp hread
  obtain ⟨entry, hfind, rfl⟩ := Option.map_eq_some_iff.mp hsection
  rw [← hdict] at hfind
  obtain ⟨hmem, hkey⟩ := Json.mem_of_find?_dict hfind
  obtain ⟨field, hfield, hentry⟩ := Raising.exists_of_mem_mapM_some hentries hmem
  obtain ⟨limit, hlimit, hwritten⟩ := Raising.exists_of_mem_mapM h.written hfield
  obtain ⟨content, hcontent, heq⟩ := Raising.bind_ok.mp hwritten
  cases heq
  -- the ids of the sections have no space around them
  have hstrip : ∀ entry ∈ sectionLimits, modelStrip entry.1 = entry.1 := by decide +kernel
  unfold readEntry at hentry
  obtain ⟨read, hvalid, heq⟩ := Option.bind_eq_some_iff.mp hentry
  cases heq
  have hid : limit.1 = sectionId := (hstrip limit hlimit).symm.trans hkey
  subst hid
  exact ⟨limit.2, content, hlimit, hcontent, ReportSection.modelValidate_some.mp hvalid⟩

end MacroPlatform.Report
