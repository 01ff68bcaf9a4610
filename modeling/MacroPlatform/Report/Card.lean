import MacroPlatform.Report.Stored

/-! # `FeishuCardRenderer`

The card shows the texts of the sections, the calendar by its items, and the sources. A time of
the calendar is shown in `Asia/Shanghai`, which a `datetime` near its bounds cannot be.

* `render_ok`: which published reports are rendered;
* `deliverable_iff`: which validated reports can be delivered.
-/

namespace MacroPlatform.Report

open Daily

/-- `ReportDeliveryError`. -/
def deliveryError (message : String) : PythonError :=
  { name := "ReportDeliveryError", bases := ["RuntimeError"], message }

def overflowError : PythonError :=
  { name := "OverflowError", bases := ["ArithmeticError"], message := "date value out of range" }

/-- From `datetime.min` to `datetime.max`. -/
def InDatetimeRange (t : Instant) : Prop :=
  civilDay 1 1 1 * dayMicroseconds ≤ t ∧ t < civilDay 10000 1 1 * dayMicroseconds

instance (t : Instant) : Decidable (InDatetimeRange t) := inferInstanceAs (Decidable (_ ∧ _))

variable (pydantic : Pydantic) (python : Python)

/-- `astimezone(_REPORT_TIMEZONE).strftime("%Y-%m-%d %H:%M")`. -/
def shanghaiText (localTime : Instant) (offset : ℤ) : Except PythonError String :=
  let utc := localTime - offset
  let shown := utc + python.shanghaiOffset utc
  if InDatetimeRange utc ∧ InDatetimeRange shown then
    let minutes := shown % dayMicroseconds / 60000000
    .ok (Day.isoformat (shown / dayMicroseconds) ++ " " ++ zeroPadded 2 (minutes / 60) ++ ":" ++
      zeroPadded 2 (minutes % 60))
  else .error overflowError

/-- `_format_scheduled_at`. -/
def formatScheduledAt (value : String) : Except PythonError String :=
  match python.datetimeFromIsoformat (replaceZ value) with
  | none => .ok value
  | some parsed =>
    match parsed.utcoffset with
    | none => .ok value
    | some offset => shanghaiText python parsed.localTime offset

/-- The region, the name and the time of an item, when the calendar shows it. -/
def calendarItem? (item : Json) : Option (String × String × String) := do
  let region ← (item.get "region").toStr?
  let name ← (item.get "name").toStr?
  let scheduledAt ← (item.get "scheduled_at").toStr?
  if region = "" ∨ name = "" ∨ scheduledAt = "" then none else some (region, name, scheduledAt)

/-- A line of the calendar. -/
def calendarLine (shown : String × String × String) : Except PythonError String := do
  let scheduledAt ← formatScheduledAt python shown.2.2
  .ok ("• " ++ scheduledAt ++ "（" ++ shown.1 ++ "）" ++ shown.2.1)

/-- `_section_display_text`. -/
def sectionDisplayText (sect : SectionFields) : String :=
  match sect.text.filter (· ≠ ""), sect.reasonCode.filter (· ≠ "") with
  | some sectionText, _ => sectionText
  | none, some reasonCode => "暂无可用数据（" ++ reasonCode ++ "）"
  | none, none => "暂无可用数据"

/-- `_calendar_display_text`. -/
def calendarDisplayText (sect : SectionFields) : Except PythonError String := do
  let lines ← (sect.items.filterMap calendarItem?).mapM (calendarLine python)
  .ok (if lines = [] then sectionDisplayText sect else "\n".intercalate lines)

/-- `_source_display_text`. -/
def sourceDisplayText (sources : List ReportSourceReference) : String :=
  if sources = [] then "报告未提供来源链接"
  else "\n".intercalate (sources.map fun source =>
    match source.sourceUrl with
    | some url => "• [" ++ source.sourceName ++ "](" ++ url ++ ")"
    | none => "• " ++ source.sourceName)

/-- An element of the card. -/
def markdown (content : String) : Json := texts [("tag", "markdown"), ("content", content)]

/-- The card of a report. -/
def reportCard (report : ReportFields) (summary cnHighlights hkHighlights usHighlights calendar
    qualityNotice sources : String) : Json :=
  .obj [("schema", .str "2.0"),
    ("header", .obj
      [("title", texts [("tag", "plain_text"),
          ("content", "宏观日报 · " ++ Day.isoformat report.reportDate)]),
        ("template", .str (if report.status = .complete then "blue" else "orange"))]),
    ("body", .obj
      [("direction", .str "vertical"), ("padding", .str "12px 12px 12px 12px"),
        ("elements", .arr
          [markdown ("**摘要**\n" ++ summary), texts [("tag", "hr")],
            markdown ("**中国内地**\n" ++ cnHighlights), markdown ("**香港**\n" ++ hkHighlights),
            markdown ("**美国**\n" ++ usHighlights), markdown ("**未来日程**\n" ++ calendar),
            markdown ("**数据质量**\n" ++ qualityNotice), markdown ("**来源**\n" ++ sources),
            markdown "DailyReport v1.0 · 仅展示已验证事实"])])]

/-- The text of a section that the contract requires. -/
def ReportFields.displayText (report : ReportFields) (sectionId : String) : String :=
  ((report.section? sectionId).map fun sect => sectionDisplayText sect.toSectionFields).getD ""

/-- `FeishuCardRenderer.render`. -/
def render (report : StoredDailyReport Json) : Except PythonError Json :=
  match DailyReport.modelValidate pydantic report.payload with
  | none => .error (deliveryError "report payload does not satisfy DailyReport contract")
  | some typed =>
    if typed.reportId ≠ report.reportId then
      .error (deliveryError "report payload identity does not match delivery record")
    else if typed.publication.decision ≠ .published then
      .error (deliveryError "not-published reports cannot render a Feishu report card")
    else do
      let calendar ← ((typed.section? "upcoming_calendar").map fun sect =>
        calendarDisplayText python sect.toSectionFields).getD (.ok "")
      .ok (reportCard typed.toReportFields (typed.displayText "executive_summary")
        (typed.displayText "cn_highlights") (typed.displayText "hk_highlights")
        (typed.displayText "us_highlights") calendar (typed.displayText "data_quality_notice")
        (sourceDisplayText ((typed.sources? pydantic).getD [])))

/-! ## When a report can be rendered -/

/-- The items of the calendar. -/
def ReportFields.calendarItems (report : ReportFields) : List Json :=
  ((report.section? "upcoming_calendar").map fun sect => sect.items).getD []

/-- The times that the calendar shows can be written in `Asia/Shanghai`. -/
def CalendarFits (items : List Json) : Prop :=
  ∀ item ∈ items, ∀ shown ∈ calendarItem? item, ∀ parsed ∈
    python.datetimeFromIsoformat (replaceZ shown.2.2), ∀ offset ∈ parsed.utcoffset,
      InDatetimeRange (parsed.localTime - offset) ∧
        InDatetimeRange (parsed.localTime - offset +
          python.shanghaiOffset (parsed.localTime - offset))

instance (items : List Json) : Decidable (CalendarFits python items) :=
  inferInstanceAs (Decidable (∀ item ∈ items, _))

variable {pydantic : Pydantic} {python : Python}

/-- A time is shown when it and its Shanghai time are within the range. -/
theorem shanghaiText_ok {localTime : Instant} {offset : ℤ} :
    (∃ shown, shanghaiText python localTime offset = .ok shown) ↔
      InDatetimeRange (localTime - offset) ∧
        InDatetimeRange (localTime - offset + python.shanghaiOffset (localTime - offset)) := by
  unfold shanghaiText
  by_cases hrange : InDatetimeRange (localTime - offset) ∧
      InDatetimeRange (localTime - offset + python.shanghaiOffset (localTime - offset))
  · simp only [if_pos hrange]
    exact ⟨fun _ => hrange, fun _ => ⟨_, rfl⟩⟩
  · simp only [if_neg hrange]
    constructor
    · rintro ⟨shown, h⟩
      cases h
    · intro h
      exact absurd h hrange

/-- So for a text that is read as a time; any other text is shown as it is. -/
theorem formatScheduledAt_ok {value : String} : (∃ shown, formatScheduledAt python value =
      .ok shown) ↔ ∀ parsed ∈ python.datetimeFromIsoformat (replaceZ value),
        ∀ offset ∈ parsed.utcoffset, InDatetimeRange (parsed.localTime - offset) ∧
          InDatetimeRange (parsed.localTime - offset +
            python.shanghaiOffset (parsed.localTime - offset)) := by
  unfold formatScheduledAt
  cases python.datetimeFromIsoformat (replaceZ value) with
  | none => simp
  | some parsed =>
    simp only [Option.mem_def, Option.some.injEq, forall_eq']
    cases parsed.utcoffset with
    | none => simp
    | some offset =>
      simp only [Option.some.injEq, forall_eq']
      exact shanghaiText_ok

/-- The calendar can be shown when each of its times can. -/
theorem calendarDisplayText_ok {sect : SectionFields} :
    (∃ shown, calendarDisplayText python sect = .ok shown) ↔ CalendarFits python sect.items := by
  -- a line can be written when its time can be shown
  have hline : ∀ shown, (∃ line, calendarLine python shown = .ok line) ↔
      ∃ scheduledAt, formatScheduledAt python shown.2.2 = .ok scheduledAt := by
    intro shown
    constructor
    · rintro ⟨line, h⟩
      obtain ⟨scheduledAt, hat, -⟩ := Raising.bind_ok.mp h
      exact ⟨scheduledAt, hat⟩
    · rintro ⟨scheduledAt, hat⟩
      exact ⟨_, Raising.bind_ok.mpr ⟨scheduledAt, hat, rfl⟩⟩
  -- the lines are put together without a further check
  have hlines : (∃ shown, calendarDisplayText python sect = .ok shown) ↔
      ∃ lines, (sect.items.filterMap calendarItem?).mapM (calendarLine python) = .ok lines := by
    constructor
    · rintro ⟨shown, h⟩
      obtain ⟨lines, hlines, -⟩ := Raising.bind_ok.mp h
      exact ⟨lines, hlines⟩
    · rintro ⟨lines, hlines⟩
      exact ⟨_, Raising.bind_ok.mpr ⟨lines, hlines, rfl⟩⟩
  rw [hlines, Raising.exists_mapM_ok]
  simp only [List.mem_filterMap, hline, formatScheduledAt_ok]
  constructor
  · intro h item hitem shown hshown
    exact h shown ⟨item, hitem, hshown⟩
  · rintro h shown ⟨item, hitem, hshown⟩
    exact h item hitem shown hshown

/-- A published report is rendered exactly when its calendar fits. -/
theorem render_ok {report : StoredDailyReport Json} {typed : DailyReport pydantic}
    (htyped : DailyReport.modelValidate pydantic report.payload = some typed)
    (hid : typed.reportId = report.reportId) (hpublished : typed.publication.decision = .published) :
    (∃ card, render pydantic python report = .ok card) ↔
      CalendarFits python typed.calendarItems := by
  -- of a published report nothing but the calendar may raise
  have hcalendar : (∃ card, render pydantic python report = .ok card) ↔
      ∃ shown, ((typed.section? "upcoming_calendar").map fun sect =>
        calendarDisplayText python sect.toSectionFields).getD (.ok "") = .ok shown := by
    unfold render
    rw [htyped]
    simp only
    rw [if_neg (not_not.mpr hid), if_neg (not_not.mpr hpublished)]
    constructor
    · rintro ⟨card, h⟩
      obtain ⟨shown, hshown, -⟩ := Raising.bind_ok.mp h
      exact ⟨shown, hshown⟩
    · rintro ⟨shown, hshown⟩
      exact ⟨_, Raising.bind_ok.mpr ⟨shown, hshown, rfl⟩⟩
  rw [hcalendar]
  unfold ReportFields.calendarItems
  cases typed.section? "upcoming_calendar" with
  | none => simp [CalendarFits]
  | some sect => exact calendarDisplayText_ok

theorem SameSections.calendarItems {before after : ReportFields}
    (h : SameSections before.sections after.sections) :
    after.calendarItems = before.calendarItems := by
  have hitems : ∀ fields : ReportFields, fields.calendarItems =
      ((fields.sections.find? fun entry => entry.1 = "upcoming_calendar").map fun entry =>
        entry.2.items).getD [] := by
    intro fields
    unfold ReportFields.calendarItems ReportFields.section?
    rw [Option.map_map]
    rfl
  rw [hitems after, hitems before, h.find?]

/-! ## A validated report -/

/-- The contract reads the id under which the report is stored. -/
theorem StoredIdentity.typed {report : StoredDailyReport Json} {typed : DailyReport pydantic}
    (h : StoredIdentity report)
    (htyped : DailyReport.modelValidate pydantic report.payload = some typed) :
    typed.reportId = report.reportId := by
  obtain ⟨-, -, -, -, hid, -⟩ :=
    ReportFields.read_some.mp (DailyReport.modelValidate_some.mp htyped)
  rw [h.reportId] at hid
  unfold text at hid
  obtain ⟨value, hvalue, hrest⟩ := Option.bind_eq_some_iff.mp hid
  cases hvalue
  split at hrest
  · rw [← Option.some.inj hrest, h.stripped]
  · cases hrest

/-- The report that a validated one can be delivered as. -/
structure Deliverable (pydantic : Pydantic) (python : Python)
    (finalized : StoredDailyReport Json) : Prop where
  contract : ∃ typed, DailyReport.modelValidate pydantic finalized.payload = some typed
  decision : finalized.publicationDecision = .published
  rendered : ∃ card, render pydantic python finalized = .ok card

/-- What the payload of a candidate has to leave room for: the new notice, and the times of the
calendar. -/
structure LeavesRoom (pydantic : Pydantic) (python : Python) (report : StoredDailyReport Json)
    (issues : List ReportValidationIssue) : Prop where
  notice : ∃ notice, noticeOf pydantic report.payload = some notice ∧
    NoticeFits (qualityNotice .degraded issues) notice
  calendar : ∀ typed, DailyReport.modelValidate pydantic report.payload = some typed →
    CalendarFits python typed.calendarItems

/-- Only an incomplete report has another notice. -/
theorem qualityNotice_usable {status : ReportStatus} (h : status ≠ .incomplete)
    (issues : List ReportValidationIssue) :
    qualityNotice status issues = qualityNotice .degraded issues := by
  unfold qualityNotice
  rw [if_neg h]
  simp

/-- A report that is validated was publishable. -/
theorem isPublishable_of_validated {report finalized : StoredDailyReport Json}
    {issues : List ReportValidationIssue} (h : finalizeReport report issues = .ok finalized)
    (hvalidated : finalized.lifecycleStatus = .validated) :
    isPublishable report issues = true := by
  obtain ⟨publication, -, h⟩ := Raising.bind_ok.mp h
  obtain ⟨start, -, h⟩ := Raising.bind_ok.mp h
  obtain ⟨quality, -, h⟩ := Raising.bind_ok.mp h
  obtain ⟨notice, -, h⟩ := Raising.bind_ok.mp h
  by_contra hnot
  cases h
  rw [Bool.not_eq_true] at hnot
  simp [hnot] at hvalidated

/-- A validated report can be delivered exactly when its candidate left room. -/
theorem deliverable_iff {snapshot : ReportInputSnapshot Json}
    {report finalized : StoredDailyReport Json} {issues : List ReportValidationIssue}
    (hid : StoredIdentity report)
    (hvalidate : validate pydantic python snapshot report = .ok issues)
    (hfinal : finalizeReport report issues = .ok finalized)
    (hvalidated : finalized.lifecycleStatus = .validated) :
    Deliverable pydantic python finalized ↔ LeavesRoom pydantic python report issues := by
  have hpublishable := isPublishable_of_validated hfinal hvalidated
  have hclean : ∀ issue ∈ issues, issue.severity ≠ .error :=
    (of_decide_eq_true hpublishable).1
  have htexts := validate_issue_texts hvalidate hclean
  obtain ⟨typed, htyped, -⟩ := validate_backed hvalidate hclean
  have htypedId := hid.typed htyped
  have hnotice := qualityNotice_usable (finalStatus_publishable hpublishable) issues
  obtain ⟨-, -, hdecision, hfinalId, -⟩ := finalizeReport_publishable hfinal hpublishable
  constructor
  · intro h
    obtain ⟨after, hafter⟩ := h.contract
    obtain ⟨notice, hread, hfits⟩ := notice_of_finalized htyped hfinal hpublishable hafter
    obtain ⟨again, hagain, hid', hpublished, hsame⟩ :=
      finalized_valid htyped htexts hfinal hpublishable hread hfits
    have hsameReport : after = again := Option.some.inj (hafter.symm.trans hagain)
    subst hsameReport
    refine ⟨⟨notice, hread, hnotice ▸ hfits⟩, ?_⟩
    intro other hother
    have hsameTyped : other = typed := Option.some.inj (hother.symm.trans htyped)
    subst hsameTyped
    have hafterId : after.reportId = finalized.reportId :=
      hid'.trans (htypedId.trans hfinalId.symm)
    rw [← hsame.calendarItems]
    exact (render_ok hafter hafterId hpublished).mp h.rendered
  · rintro ⟨⟨notice, hread, hfits⟩, hcalendar⟩
    obtain ⟨after, hafter, hid', hpublished, hsame⟩ :=
      finalized_valid htyped htexts hfinal hpublishable hread (hnotice.symm ▸ hfits)
    have hafterId : after.reportId = finalized.reportId :=
      hid'.trans (htypedId.trans hfinalId.symm)
    refine ⟨⟨after, hafter⟩, hdecision, ?_⟩
    refine (render_ok hafter hafterId hpublished).mpr ?_
    rw [hsame.calendarItems]
    exact hcalendar typed htyped

end MacroPlatform.Report
