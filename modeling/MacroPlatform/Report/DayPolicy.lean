import MacroPlatform.Report.Materializer

/-! # The policy of the report day

`ExchangeReportDayPolicy` decides from the exchange calendars which market inputs a report
needs, and the quality gate checks the stored decision. What the one writes the other accepts,
and what the gate accepts relaxes closed markets only.

* `inputsForSnapshot_accepts_iff`: which policies the gate accepts;
* `evaluate_accepted`: it accepts what the producer writes;
* `day_policy_agrees`: both directions, for every policy and payload.
-/

namespace MacroPlatform.Report

open Daily

/-! ## The producer -/

/-- `ExchangeReportDayPolicy`, over `exchange_calendars` as it is installed. -/
structure ExchangeReportDayPolicy where
  getCalendar : String → Option Evidence.ExchangeCalendar
  version : String
  version_ne : version ≠ ""

/-- `MarketDayStatus` of a region. -/
def marketDayStatus (weekend isSession : Bool) : String :=
  if weekend then "weekend_closed"
  else if !isSession then "exchange_holiday"
  else "scheduled_session"

/-- The answers of a calendar about a date: whether it is a session, and the session before. -/
def calendarAnswer (calendar : Evidence.ExchangeCalendar) (reportDate : Day) :
    Option (Bool × Day) := do
  let isSession ← calendar.isSession reportDate
  let previous ← if isSession then calendar.previousSession reportDate
    else calendar.dateToSession reportDate
  some (isSession, previous)

/-- `ReportDayPolicyUnavailableError`. -/
def policyUnavailable (calendarName : String) (reportDate : Day) : PythonError :=
  { name := "ReportDayPolicyUnavailableError"
    message := calendarName ++ " cannot resolve report-day policy for " ++
      Day.isoformat reportDate }

/-- The `RegionMarketDayPolicy` of the answers. -/
def regionMarketDayPolicy (region : Region) (calendarName marketInputId : String)
    (weekend isSession : Bool) (previous : Day) : RegionMarketDayPolicy :=
  { region := region.value
    calendarName
    status := marketDayStatus weekend isSession
    marketInputId
    marketInputRequired := marketDayStatus weekend isSession == "scheduled_session"
    previousSession := Day.isoformat previous }

/-- `_region_policy`. -/
def ExchangeReportDayPolicy.regionPolicy (policy : ExchangeReportDayPolicy) (reportDate : Day)
    (weekend : Bool) (region : Region) : Except PythonError RegionMarketDayPolicy :=
  match Evidence.venueCalendarByRegion region, marketInputIdByRegion.lookup region with
  | some calendarName, some marketInputId =>
    match (policy.getCalendar calendarName).bind (calendarAnswer · reportDate) with
    | some (isSession, previous) =>
      .ok (regionMarketDayPolicy region calendarName marketInputId weekend isSession previous)
    | none => .error (policyUnavailable calendarName reportDate)
  | _, _ => .error { name := "KeyError", message := region.value }

/-- `ReportDayType`. -/
def reportDayType (weekend : Bool) (optionalMarketInputs : List String) : String :=
  if weekend then "weekend"
  else if optionalMarketInputs ≠ [] then "regional_holiday"
  else "regular"

/-- The result of the policies of the regions. -/
def reportDayPolicyResult (version : String) (reportDate : Day) (weekend : Bool)
    (regions : List RegionMarketDayPolicy) : ReportDayPolicyResult :=
  let requiredMarketInputs :=
    (regions.filter (·.marketInputRequired)).map (·.marketInputId)
  let optionalMarketInputs :=
    (regions.filter fun item => !item.marketInputRequired).map (·.marketInputId)
  { policyId := reportDayPolicyId
    calendarVersion := version
    reportDate := Day.isoformat reportDate
    dayType := reportDayType weekend optionalMarketInputs
    requiredInputIds := sortedSet (alwaysRequiredReportInputIds ++ requiredMarketInputs)
    optionalInputIds := sortedSet optionalMarketInputs
    regions }

/-- `ExchangeReportDayPolicy.evaluate`. -/
def ExchangeReportDayPolicy.evaluate (policy : ExchangeReportDayPolicy) (reportDate : Day) :
    Except PythonError ReportDayPolicyResult := do
  let weekend : Bool := 5 ≤ Day.weekday reportDate
  let regions ← [Region.cn, .hk, .us].mapM (policy.regionPolicy reportDate weekend)
  .ok (reportDayPolicyResult policy.version reportDate weekend regions)

/-! ## The gate accepts what the policy writes -/

/-- The calendar of a region answers for the day. -/
theorem regionPolicy_ok {policy : ExchangeReportDayPolicy} {reportDate : Day} {weekend : Bool}
    {region : Region} {result : RegionMarketDayPolicy}
    (h : policy.regionPolicy reportDate weekend region = .ok result) :
    ∃ calendarName marketInputId isSession previous,
      marketInputIdByRegion.lookup region = some marketInputId ∧
      result = regionMarketDayPolicy region calendarName marketInputId weekend isSession
        previous := by
  unfold ExchangeReportDayPolicy.regionPolicy at h
  split at h
  · rename_i calendarName marketInputId hcalendar hmarket
    split at h
    · rename_i isSession previous hanswer
      cases h
      exact ⟨calendarName, marketInputId, isSession, previous, hmarket, rfl⟩
    · cases h
  · cases h

/-- The regions of a policy whose calendars gave these answers. -/
def answeredRegions (weekend : Bool) (names : Region → String) (isSession : Region → Bool)
    (previous : Region → Day) (entries : List (Region × String)) : List RegionMarketDayPolicy :=
  entries.map fun entry => regionMarketDayPolicy entry.1 (names entry.1) entry.2 weekend
    (isSession entry.1) (previous entry.1)

/-- The policy of a day is made of the answers of the calendars. -/
theorem evaluate_ok {policy : ExchangeReportDayPolicy} {reportDate : Day}
    {result : ReportDayPolicyResult} (h : policy.evaluate reportDate = .ok result) :
    ∃ names isSession previous,
      result = reportDayPolicyResult policy.version reportDate (5 ≤ Day.weekday reportDate)
        (answeredRegions (5 ≤ Day.weekday reportDate) names isSession previous
          marketInputIdByRegion) := by
  obtain ⟨regions, hregions, hresult⟩ := Raising.bind_ok.mp h
  cases hresult
  have hall := Raising.mapM_ok.mp hregions
  rcases hall with _ | ⟨hcn, hall⟩
  rcases hall with _ | ⟨hhk, hall⟩
  rcases hall with _ | ⟨hus, hall⟩
  rcases hall with _ | _
  obtain ⟨nameCn, idCn, sessionCn, previousCn, hidCn, rfl⟩ := regionPolicy_ok hcn
  obtain ⟨nameHk, idHk, sessionHk, previousHk, hidHk, rfl⟩ := regionPolicy_ok hhk
  obtain ⟨nameUs, idUs, sessionUs, previousUs, hidUs, rfl⟩ := regionPolicy_ok hus
  cases hidCn
  cases hidHk
  cases hidUs
  refine ⟨fun region => if region = .cn then nameCn else if region = .hk then nameHk else nameUs,
    fun region =>
      if region = .cn then sessionCn else if region = .hk then sessionHk else sessionUs,
    fun region =>
      if region = .cn then previousCn else if region = .hk then previousHk else previousUs,
    rfl⟩

/-- The dict of a region in the payload. -/
def regionPayload (region : RegionMarketDayPolicy) : Json :=
  .obj
    [("region", .str region.region), ("calendar_name", .str region.calendarName),
      ("status", .str region.status), ("market_input_id", .str region.marketInputId),
      ("market_input_required", .bool region.marketInputRequired),
      ("previous_session", .str region.previousSession)]

theorem marketDayStatus_mem (weekend isSession : Bool) : marketDayStatus weekend isSession ∈
    ["scheduled_session", "weekend_closed", "exchange_holiday"] := by
  cases weekend <;> cases isSession <;> decide

theorem memberOf_str {names : List String} {s : String} (h : s ∈ names) :
    memberOf (.str s) names = .ok (some s) := by
  show Except.ok (if s ∈ names then some s else none) = _
  rw [if_pos h]

/-- The gate reads the status of a region as it was written. -/
theorem regionStatus_payload (region : Region) (calendarName marketInputId : String)
    (weekend isSession : Bool) (previous : Day) :
    regionStatus (regionPayload (regionMarketDayPolicy region calendarName marketInputId weekend
      isSession previous)) marketInputId =
        .ok (some (marketDayStatus weekend isSession,
          marketDayStatus weekend isSession == "scheduled_session")) := by
  have hid : ((regionPayload (regionMarketDayPolicy region calendarName marketInputId weekend
      isSession previous)).get "market_input_id").toStr? = some marketInputId := rfl
  unfold regionStatus
  rw [if_neg (not_not.mpr hid)]
  refine Raising.bind_ok.mpr ⟨_, memberOf_str (marketDayStatus_mem weekend isSession), ?_⟩
  exact congrArg Except.ok (if_pos rfl)

/-- The gate reads a region as the policy wrote it. -/
theorem regionDay_payload {seen : RegionDays} {region : Region}
    {calendarName marketInputId : String} {weekend isSession : Bool} {previous : Day}
    (hentry : (region, marketInputId) ∈ marketInputIdByRegion)
    (hnew : region.value ∉ seen.statuses.map Prod.fst) :
    regionDay seen (regionPayload (regionMarketDayPolicy region calendarName marketInputId weekend
      isSession previous)) = .ok (some
        { statuses := seen.statuses ++ [(region.value, marketDayStatus weekend isSession)]
          optional := seen.optional ++
            if marketDayStatus weekend isSession == "scheduled_session" then []
            else [marketInputId] }) := by
  have hknown : region.value ∈ expectedMarketIds.map Prod.fst :=
    List.mem_map.mpr ⟨_, List.mem_map_of_mem hentry, rfl⟩
  have hlookup : expectedMarketIds.lookup region.value = some marketInputId := by
    simp only [marketInputIdByRegion, List.mem_cons, Prod.mk.injEq, List.not_mem_nil,
      or_false] at hentry
    rcases hentry with ⟨rfl, rfl⟩ | ⟨rfl, rfl⟩ | ⟨rfl, rfl⟩ <;> decide
  refine Raising.bind_ok.mpr ⟨_, memberOf_str hknown, ?_⟩
  have hregion : (regionMarketDayPolicy region calendarName marketInputId weekend isSession
    previous).region = region.value := rfl
  rw [Option.bind_some, hregion, hlookup]
  show (if _ then _ else _) = _
  rw [if_neg hnew]
  exact Raising.bind_ok.mpr ⟨_, regionStatus_payload _ _ _ _ _ _, rfl⟩

/-- The regions of a policy, one after another. -/
theorem regionDays_payload {weekend : Bool} {names : Region → String} {isSession : Region → Bool}
    {previous : Region → Day} {entries : List (Region × String)} {seen : RegionDays}
    (hentries : entries ⊆ marketInputIdByRegion)
    (hnew : (seen.statuses.map Prod.fst ++ entries.map (·.1.value)).Nodup) :
    regionDays seen ((answeredRegions weekend names isSession previous entries).map
      regionPayload) = .ok (some
        { statuses := seen.statuses ++ entries.map fun entry =>
            (entry.1.value, marketDayStatus weekend (isSession entry.1))
          optional := seen.optional ++ (entries.filter fun entry =>
            !(marketDayStatus weekend (isSession entry.1) == "scheduled_session")).map
              Prod.snd }) := by
  induction entries generalizing seen with
  | nil => simp [answeredRegions, regionDays]
  | cons entry entries ih =>
    have hfirst : entry.1.value ∉ seen.statuses.map Prod.fst := by
      intro hmem
      exact List.disjoint_of_nodup_append hnew hmem List.mem_cons_self
    refine Raising.bind_ok.mpr ⟨_, regionDay_payload (hentries List.mem_cons_self) hfirst, ?_⟩
    have hrest := @ih
      { statuses := seen.statuses ++
          [(entry.1.value, marketDayStatus weekend (isSession entry.1))]
        optional := seen.optional ++
          if marketDayStatus weekend (isSession entry.1) == "scheduled_session" then []
          else [entry.2] } (fun _ hmem => hentries (List.mem_cons_of_mem entry hmem))
      (by simpa using hnew)
    refine Eq.trans hrest ?_
    cases hsession : marketDayStatus weekend (isSession entry.1) == "scheduled_session" <;>
      simp [hsession]

/-- The market inputs of the regions that are not in session. -/
def closedInputs (weekend : Bool) (isSession : Region → Bool) : List String :=
  (marketInputIdByRegion.filter fun entry =>
    !(marketDayStatus weekend (isSession entry.1) == "scheduled_session")).map Prod.snd

/-- The statuses of the regions. -/
def answeredStatuses (weekend : Bool) (isSession : Region → Bool) : List String :=
  marketInputIdByRegion.map fun entry => marketDayStatus weekend (isSession entry.1)

theorem scheduled_iff {weekend isSession : Bool} :
    (marketDayStatus weekend isSession == "scheduled_session") = true ↔
      weekend = false ∧ isSession = true := by
  cases weekend <;> cases isSession <;> decide

/-- An input is closed when its region has no session. -/
theorem mem_closedInputs {weekend : Bool} {isSession : Region → Bool} {id : String} :
    id ∈ closedInputs weekend isSession ↔
      ∃ entry ∈ marketInputIdByRegion, entry.2 = id ∧
        ¬ (weekend = false ∧ isSession entry.1 = true) := by
  unfold closedInputs
  rw [List.mem_map]
  constructor
  · rintro ⟨entry, hentry, rfl⟩
    obtain ⟨hmem, hclosed⟩ := List.mem_filter.mp hentry
    rw [Bool.not_eq_true', ← Bool.not_eq_true, scheduled_iff] at hclosed
    exact ⟨entry, hmem, rfl, hclosed⟩
  · rintro ⟨entry, hmem, rfl, hclosed⟩
    refine ⟨entry, List.mem_filter.mpr ⟨hmem, ?_⟩, rfl⟩
    rw [Bool.not_eq_true', ← Bool.not_eq_true, scheduled_iff]
    exact hclosed

/-- The set of a list with one element. -/
theorem sameSet_singleton {xs : List String} {a : String} :
    SameSet xs [a] ↔ xs ≠ [] ∧ ∀ x ∈ xs, x = a := by
  constructor
  · rintro ⟨hsub, hsup⟩
    exact ⟨List.ne_nil_of_mem (hsup List.mem_cons_self),
      fun x hx => List.mem_singleton.mp (hsub hx)⟩
  · rintro ⟨hne, hall⟩
    refine ⟨fun x hx => List.mem_singleton.mpr (hall x hx), ?_⟩
    intro x hx
    obtain ⟨y, hy⟩ := List.exists_mem_of_ne_nil xs hne
    rw [List.mem_singleton.mp hx, ← hall y hy]
    exact hy

theorem mem_answeredStatuses {weekend : Bool} {isSession : Region → Bool} {status : String} :
    status ∈ answeredStatuses weekend isSession ↔
      ∃ entry ∈ marketInputIdByRegion, marketDayStatus weekend (isSession entry.1) = status :=
  List.mem_map

/-- The statuses of the three regions agree with the type of the day. -/
theorem dayTypeMatches_answered (reportDate : Day) (isSession : Region → Bool) :
    DayTypeMatches
      (reportDayType (5 ≤ Day.weekday reportDate)
        (closedInputs (5 ≤ Day.weekday reportDate) isSession))
      (Day.weekday reportDate) (answeredStatuses (5 ≤ Day.weekday reportDate) isSession) := by
  -- on a weekend all three are closed
  by_cases hday : 5 ≤ Day.weekday reportDate
  · rw [decide_eq_true hday]
    refine Or.inr (Or.inl ⟨rfl, hday, sameSet_singleton.mpr ⟨by simp [answeredStatuses,
      marketInputIdByRegion], ?_⟩⟩)
    intro status hstatus
    obtain ⟨entry, -, rfl⟩ := mem_answeredStatuses.mp hstatus
    rfl
  · rw [decide_eq_false hday]
    have hweekday : Day.weekday reportDate < 5 := by omega
    by_cases hclosed : closedInputs false isSession = []
    · -- a session everywhere
      left
      refine ⟨by rw [hclosed]; rfl, hweekday, sameSet_singleton.mpr ⟨by simp [answeredStatuses,
        marketInputIdByRegion], ?_⟩⟩
      intro status hstatus
      obtain ⟨entry, hentry, rfl⟩ := mem_answeredStatuses.mp hstatus
      by_contra hnot
      have hmem : entry.2 ∈ closedInputs false isSession := by
        refine mem_closedInputs.mpr ⟨entry, hentry, rfl, ?_⟩
        rintro ⟨-, hsession⟩
        rw [hsession] at hnot
        exact hnot rfl
      rw [hclosed] at hmem
      cases hmem
    · -- a holiday somewhere
      right
      right
      refine ⟨by simp [reportDayType, hclosed], hweekday, ?_, ?_⟩
      · obtain ⟨id, hid⟩ := List.exists_mem_of_ne_nil _ hclosed
        obtain ⟨entry, hentry, -, hnot⟩ := mem_closedInputs.mp hid
        have hsession : isSession entry.1 = false := by simpa using hnot
        refine mem_answeredStatuses.mpr ⟨entry, hentry, ?_⟩
        rw [hsession]
        rfl
      -- the others have a session, or a holiday as well
      · intro status hstatus
        obtain ⟨entry, -, rfl⟩ := mem_answeredStatuses.mp hstatus
        cases isSession entry.1 <;> decide

/-- The policy of three regions whose calendars gave these answers. -/
def answeredPolicy (version : String) (reportDate : Day) (names : Region → String)
    (isSession : Region → Bool) (previous : Region → Day) : ReportDayPolicyResult :=
  reportDayPolicyResult version reportDate (5 ≤ Day.weekday reportDate)
    (answeredRegions (5 ≤ Day.weekday reportDate) names isSession previous
      marketInputIdByRegion)

section

variable {version : String} {reportDate : Day} {names : Region → String}
  {isSession : Region → Bool} {previous : Region → Day}

theorem answeredRegions_closed (weekend : Bool) :
    ((answeredRegions weekend names isSession previous marketInputIdByRegion).filter
      fun item => !item.marketInputRequired).map (·.marketInputId) =
        closedInputs weekend isSession := by
  unfold answeredRegions
  rw [List.filter_map, List.map_map]
  rfl

theorem answeredPolicy_optional :
    (answeredPolicy version reportDate names isSession previous).optionalInputIds =
      sortedSet (closedInputs (5 ≤ Day.weekday reportDate) isSession) :=
  congrArg sortedSet (answeredRegions_closed _)

theorem answeredPolicy_dayType :
    (answeredPolicy version reportDate names isSession previous).dayType =
      reportDayType (5 ≤ Day.weekday reportDate)
        (closedInputs (5 ≤ Day.weekday reportDate) isSession) :=
  congrArg (reportDayType _) (answeredRegions_closed _)

theorem mem_answeredPolicy_optional {id : String} :
    id ∈ (answeredPolicy version reportDate names isSession previous).optionalInputIds ↔
      id ∈ closedInputs (5 ≤ Day.weekday reportDate) isSession := by
  rw [answeredPolicy_optional, mem_sortedSet]

/-- The inputs that are required are those not closed. -/
theorem mem_answeredPolicy_required {id : String} :
    id ∈ (answeredPolicy version reportDate names isSession previous).requiredInputIds ↔
      id ∈ requiredReportInputIds ∧ id ∉ closedInputs (5 ≤ Day.weekday reportDate) isSession := by
  -- of the markets, those with a session are required
  have hopen : ((answeredRegions (5 ≤ Day.weekday reportDate) names isSession previous
      marketInputIdByRegion).filter (·.marketInputRequired)).map (·.marketInputId) =
        (marketInputIdByRegion.filter fun entry => marketDayStatus (5 ≤ Day.weekday reportDate)
          (isSession entry.1) == "scheduled_session").map Prod.snd := by
    unfold answeredRegions
    rw [List.filter_map, List.map_map]
    rfl
  show id ∈ sortedSet (_ ++ _) ↔ _
  rw [mem_sortedSet, hopen, mem_closedInputs]
  unfold requiredReportInputIds
  rw [List.mem_append, List.mem_append, List.mem_map]
  -- the inputs of the markets differ, from each other and from those that are always required
  have hdistinct : ∀ a ∈ marketInputIdByRegion, ∀ b ∈ marketInputIdByRegion,
      a.2 = b.2 → a = b := by decide
  have halways : ∀ entry ∈ marketInputIdByRegion, entry.2 ∉ alwaysRequiredReportInputIds := by
    decide
  constructor
  · rintro (hid | ⟨entry, hentry, rfl⟩)
    · refine ⟨Or.inl hid, ?_⟩
      rintro ⟨entry, hentry, rfl, -⟩
      exact halways entry hentry hid
    · obtain ⟨hmem, hscheduled⟩ := List.mem_filter.mp hentry
      refine ⟨Or.inr (List.mem_map_of_mem hmem), ?_⟩
      rintro ⟨other, hother, hsame, hclosed⟩
      rw [hdistinct other hother entry hmem hsame] at hclosed
      exact hclosed (scheduled_iff.mp hscheduled)
  · rintro ⟨hid | hid, hnot⟩
    · exact Or.inl hid
    · obtain ⟨entry, hentry, rfl⟩ := List.mem_map.mp hid
      refine Or.inr ⟨entry, List.mem_filter.mpr ⟨hentry, scheduled_iff.mpr ?_⟩, rfl⟩
      by_contra hclosed
      exact hnot ⟨entry, hentry, rfl, hclosed⟩

theorem closedInputs_subset {weekend : Bool} {id : String}
    (h : id ∈ closedInputs weekend isSession) :
    id ∈ requiredReportInputIds ∧ id ∉ alwaysRequiredReportInputIds := by
  obtain ⟨entry, hentry, rfl, -⟩ := mem_closedInputs.mp h
  have hmarket : ∀ entry ∈ marketInputIdByRegion, entry.2 ∈ requiredReportInputIds ∧
      entry.2 ∉ alwaysRequiredReportInputIds := by decide
  exact hmarket entry hentry

theorem strings?_strings (values : List String) : strings? (strings values) = some values := by
  have hread : ∀ value : String, (Json.str value).toStr? = some value := fun _ => rfl
  exact Json.mapM_map hread values

/-- The gate reads the inputs of the policy as they were written. -/
theorem policyInputs?_answered (hversion : version ≠ "") :
    policyInputs? (answeredPolicy version reportDate names isSession previous).toPayload
        reportDate =
      some ((answeredPolicy version reportDate names isSession previous).requiredInputIds,
        (answeredPolicy version reportDate names isSession previous).optionalInputIds) := by
  let policy := answeredPolicy version reportDate names isSession previous
  -- the fields that the gate reads, as the producer wrote them
  have hdate : (policy.toPayload.get "report_date").toStr? = some (Day.isoformat reportDate) := rfl
  have hpolicy : (policy.toPayload.get "policy_id").toStr? = some reportDayPolicyId := rfl
  have hcalendar : (policy.toPayload.get "calendar_version").toStr? = some version := rfl
  have hrequired : strings? (policy.toPayload.get "required_input_ids") =
      some policy.requiredInputIds := strings?_strings _
  have hoptional : strings? (policy.toPayload.get "optional_input_ids") =
      some policy.optionalInputIds := strings?_strings _
  unfold policyInputs?
  rw [if_neg (not_not.mpr hdate), if_neg (not_not.mpr hpolicy)]
  simp only [policy] at hcalendar hrequired hoptional
  simp only [hcalendar, hrequired, hoptional, if_neg hversion]
  rw [if_pos]
  -- apart, together the known inputs, and the ones that are always required
  refine ⟨?_, ⟨?_, ?_⟩, ?_⟩
  · intro id hid hopt
    exact (mem_answeredPolicy_required.mp hid).2 (mem_answeredPolicy_optional.mp hopt)
  · intro id hid
    rcases List.mem_append.mp hid with hreq | hopt
    · exact (mem_answeredPolicy_required.mp hreq).1
    · exact (closedInputs_subset (mem_answeredPolicy_optional.mp hopt)).1
  · intro id hid
    rw [List.mem_append, mem_answeredPolicy_required, mem_answeredPolicy_optional]
    by_cases hclosed : id ∈ closedInputs (5 ≤ Day.weekday reportDate) isSession
    · exact Or.inr hclosed
    · exact Or.inl ⟨hid, hclosed⟩
  · intro id hid
    exact mem_answeredPolicy_required.mpr ⟨List.mem_append_left _ hid,
      fun hclosed => (closedInputs_subset hclosed).2 hid⟩

/-- And its regions match them. -/
theorem policyRegionsMatch_answered :
    policyRegionsMatch (answeredPolicy version reportDate names isSession previous).toPayload
      reportDate (answeredPolicy version reportDate names isSession previous).optionalInputIds =
        .ok true := by
  let policy := answeredPolicy version reportDate names isSession previous
  -- the type of the day is one of the three
  have hdayType : memberOf (policy.toPayload.get "day_type")
      ["regular", "weekend", "regional_holiday"] = .ok (some policy.dayType) := by
    refine memberOf_str ?_
    show reportDayType _ _ ∈ _
    unfold reportDayType
    split_ifs <;> decide
  have hregions : policy.toPayload.get "regions" = .arr (policy.regions.map regionPayload) := rfl
  have hdays := @regionDays_payload (5 ≤ Day.weekday reportDate) names isSession previous
    marketInputIdByRegion {} (fun _ hmem => hmem) (by decide)
  unfold policyRegionsMatch
  refine Raising.bind_ok.mpr ⟨_, hdayType, Raising.bind_ok.mpr ⟨_, hdays, ?_⟩⟩
  -- the regions, the optional inputs, and the day
  refine congrArg Except.ok (decide_eq_true ⟨?_, ?_, ?_⟩)
  · show SameSet (marketInputIdByRegion.map fun entry => entry.1.value)
      (expectedMarketIds.map Prod.fst)
    decide
  · rw [answeredPolicy_optional]
    exact ⟨fun id hid => mem_sortedSet.mpr hid, fun id hid => mem_sortedSet.mp hid⟩
  · rw [answeredPolicy_dayType]
    exact dayTypeMatches_answered reportDate isSession

end

/-! ## What the gate accepts -/

section

variable {snapshot : ReportInputSnapshot Json}

/-- The inputs under a policy that is there. -/
def inputsUnder (snapshot : ReportInputSnapshot Json) (policy : Json) :
    Except PythonError SnapshotInputs :=
  match policyInputs? policy snapshot.reportDate with
  | none => .ok { issue := some policyInvalid }
  | some (required, optional) => do
    if ← policyRegionsMatch policy snapshot.reportDate optional then
      .ok { required, optional }
    else .ok { issue := some policyInvalid }

/-- The gate accepts a policy that is there when both parts of its test do. -/
theorem inputsForSnapshot_accepts_iff {policy : Json}
    (hpolicy : snapshot.payload.get "report_day_policy" = policy) (hne : policy ≠ .null)
    {inputs : SnapshotInputs} :
    inputsForSnapshot snapshot = .ok inputs ∧ inputs.issue = none ↔
      ∃ required optional, policyInputs? policy snapshot.reportDate = some (required, optional) ∧
        policyRegionsMatch policy snapshot.reportDate optional = .ok true ∧
        inputs = { required, optional } := by
  have hunfold : inputsForSnapshot snapshot = inputsUnder snapshot policy := by
    unfold inputsForSnapshot
    rw [hpolicy]
    cases policy with
    | null => exact absurd rfl hne
    | _ => rfl
  rw [hunfold]
  unfold inputsUnder
  -- the gate has an issue unless both parts hold
  constructor
  · rintro ⟨hok, hissue⟩
    split at hok
    · cases hok
      cases hissue
    · rename_i required optional hinputs
      obtain ⟨accepted, hmatch, hrest⟩ := Raising.bind_ok.mp hok
      cases accepted with
      | false =>
        cases hrest
        cases hissue
      | true =>
        cases hrest
        exact ⟨required, optional, hinputs, hmatch, rfl⟩
  · rintro ⟨required, optional, hinputs, hmatch, rfl⟩
    rw [hinputs]
    exact ⟨Raising.bind_ok.mpr ⟨true, hmatch, rfl⟩, rfl⟩

/-- The gate accepts what the producer writes, with the sets that it decided. -/
theorem evaluate_accepted {producer : ExchangeReportDayPolicy} {result : ReportDayPolicyResult}
    (h : producer.evaluate snapshot.reportDate = .ok result)
    (hpayload : snapshot.payload.get "report_day_policy" = result.toPayload) :
    inputsForSnapshot snapshot = .ok
      { required := result.requiredInputIds, optional := result.optionalInputIds } := by
  obtain ⟨names, isSession, previous, rfl⟩ := evaluate_ok h
  have hne : (answeredPolicy producer.version snapshot.reportDate names isSession
      previous).toPayload ≠ .null := nofun
  exact ((inputsForSnapshot_accepts_iff hpayload hne).mpr ⟨_, _,
    policyInputs?_answered producer.version_ne, policyRegionsMatch_answered, rfl⟩).1

/-! ### The regions of an accepted policy -/

/-- The policy declares the market of the region closed. -/
def DeclaresClosed (regions : List Json) (region : String) : Prop :=
  ∃ item ∈ regions, item.get "region" = .str region ∧
    ∃ status ∈ ["weekend_closed", "exchange_holiday"], item.get "status" = .str status

/-- The type of the day agrees with the weekday and with the statuses of the regions. -/
def DayConsistent (dayType : String) (weekday : ℤ) (regions : List Json) : Prop :=
  (dayType = "regular" ∧ weekday < 5 ∧
      ∀ item ∈ regions, item.get "status" = .str "scheduled_session") ∨
    (dayType = "weekend" ∧ 5 ≤ weekday ∧
      ∀ item ∈ regions, item.get "status" = .str "weekend_closed") ∨
    (dayType = "regional_holiday" ∧ weekday < 5 ∧
      (∃ item ∈ regions, item.get "status" = .str "exchange_holiday") ∧
      ∀ item ∈ regions, item.get "status" = .str "scheduled_session" ∨
        item.get "status" = .str "exchange_holiday")

/-- What an accepted policy makes of the inputs. -/
structure PolicyRelaxes (policy : Json) (reportDate : Day) (inputs : SnapshotInputs) : Prop where
  date : policy.get "report_date" = .str (Day.isoformat reportDate)
  regions : ∃ items, policy.get "regions" = .arr items ∧
    -- an entry for each region
    (items.map (·.get "region")).Perm (expectedMarketIds.map fun entry => .str entry.1) ∧
    (∀ id, id ∈ inputs.optional ↔
      ∃ entry ∈ expectedMarketIds, entry.2 = id ∧ DeclaresClosed items entry.1) ∧
    ∃ dayType, policy.get "day_type" = .str dayType ∧
      DayConsistent dayType (Day.weekday reportDate) items
  required : ∀ id, id ∈ inputs.required ↔ id ∈ requiredReportInputIds ∧ id ∉ inputs.optional
  always : ∀ id ∈ alwaysRequiredReportInputIds, id ∈ inputs.required ∧ id ∉ inputs.optional

end

/-- A region as its entry declares it. -/
structure DeclaredRegion where
  region : String
  marketInputId : String
  status : String

/-- The item is the entry of the region. -/
structure DeclaredRegion.Of (row : DeclaredRegion) (item : Json) : Prop where
  region : item.get "region" = .str row.region
  expected : (row.region, row.marketInputId) ∈ expectedMarketIds
  status : item.get "status" = .str row.status
  known : row.status ∈ ["scheduled_session", "weekend_closed", "exchange_holiday"]

/-- The input that the region makes optional. -/
def DeclaredRegion.closed (row : DeclaredRegion) : List String :=
  if row.status == "scheduled_session" then [] else [row.marketInputId]

/-- A region that is accepted declares its status and its input. -/
theorem regionDay_declares {seen after : RegionDays} {item : Json}
    (h : regionDay seen item = .ok (some after)) : ∃ row : DeclaredRegion, row.Of item ∧
      row.region ∉ seen.statuses.map Prod.fst ∧
      after = { statuses := seen.statuses ++ [(row.region, row.status)]
                optional := seen.optional ++ row.closed } := by
  -- an entry is a dict with a known region, its market input and a known status
  unfold regionDay at h
  split at h
  · obtain ⟨found, hfound, hrest⟩ := Raising.bind_ok.mp h
    split at hrest
    · rename_i region marketInputId hlookup
      obtain ⟨hregion, -⟩ := memberOf_some hfound
      have hexpected : (region, marketInputId) ∈ expectedMarketIds := by
        obtain ⟨before, later, heq, -⟩ := List.lookup_eq_some_iff.mp hlookup
        rw [heq]
        exact List.mem_append_right _ List.mem_cons_self
      -- a region may stand there once
      by_cases hseen : region ∈ seen.statuses.map Prod.fst
      · rw [if_pos hseen] at hrest
        cases hrest
      · rw [if_neg hseen] at hrest
        obtain ⟨taken, htaken, hafter⟩ := Raising.bind_ok.mp hrest
        rcases taken with _ | ⟨status, required⟩
        · cases hafter
        · obtain ⟨-, hstatus, hknown, -, hrequired⟩ := regionStatus_some htaken
          cases hafter
          refine ⟨⟨region, marketInputId, status⟩, ⟨hregion, hexpected, hstatus, hknown⟩,
            hseen, ?_⟩
          rw [hrequired]
          rfl
    · cases hrest
  · cases h

/-- Accepted regions are declared one by one, each once. -/
theorem regionDays_declares {items : List Json} {seen after : RegionDays}
    (h : regionDays seen items = .ok (some after))
    (hseen : (seen.statuses.map Prod.fst).Nodup) : ∃ rows : List DeclaredRegion,
      List.Forall₂ DeclaredRegion.Of rows items ∧
      (after.statuses.map Prod.fst).Nodup ∧
      after = { statuses := seen.statuses ++ rows.map fun row => (row.region, row.status)
                optional := seen.optional ++ rows.flatMap (·.closed) } := by
  -- the entries are read one after another
  induction items generalizing seen with
  | nil =>
    cases h
    exact ⟨[], List.Forall₂.nil, hseen, by simp⟩
  | cons item items ih =>
    obtain ⟨next, hnext, hrest⟩ := Raising.bind_ok.mp h
    cases next with
    | none => cases hrest
    | some next =>
      obtain ⟨row, hrow, hnew, rfl⟩ := regionDay_declares hnext
      have hnodup : ((seen.statuses ++ [(row.region, row.status)]).map Prod.fst).Nodup := by
        rw [List.map_append, List.nodup_append]
        refine ⟨hseen, by simp, ?_⟩
        intro a ha b hb hab
        rw [hab, List.mem_singleton.mp hb] at ha
        exact hnew ha
      obtain ⟨rows, hrows, hafter, rfl⟩ := ih hrest hnodup
      exact ⟨row :: rows, List.Forall₂.cons hrow hrows, hafter, by simp⟩

/-- An input is closed by the row of its region. -/
theorem mem_closed {rows : List DeclaredRegion} {id : String} :
    id ∈ rows.flatMap (·.closed) ↔
      ∃ row ∈ rows, row.marketInputId = id ∧ row.status ≠ "scheduled_session" := by
  rw [List.mem_flatMap]
  constructor
  · rintro ⟨row, hrow, hid⟩
    unfold DeclaredRegion.closed at hid
    split_ifs at hid with hscheduled
    · cases hid
    · exact ⟨row, hrow, (List.mem_singleton.mp hid).symm, by simpa using hscheduled⟩
  · rintro ⟨row, hrow, rfl, hclosed⟩
    refine ⟨row, hrow, ?_⟩
    unfold DeclaredRegion.closed
    rw [if_neg (by simpa using hclosed)]
    exact List.mem_cons_self

section

variable {rows : List DeclaredRegion} {items : List Json}

/-- The entries of the regions, which have one market input each. -/
theorem declaresClosed_iff (hrows : List.Forall₂ DeclaredRegion.Of rows items)
    {entry : String × String} (hentry : entry ∈ expectedMarketIds) :
    DeclaresClosed items entry.1 ↔ ∃ row ∈ rows, row.marketInputId = entry.2 ∧
      row.status ≠ "scheduled_session" := by
  -- a region has one market input, and a market input one region
  have hkeys : ∀ a ∈ expectedMarketIds, ∀ b ∈ expectedMarketIds, a.1 = b.1 ↔ a.2 = b.2 := by
    decide
  constructor
  · rintro ⟨item, hitem, hregion, status, hclosed, hstatus⟩
    obtain ⟨row, hrow, hof⟩ := Raising.exists_left hrows hitem
    rw [hof.region, Json.str.injEq] at hregion
    rw [hof.status, Json.str.injEq] at hstatus
    refine ⟨row, hrow, (hkeys _ hof.expected _ hentry).mp hregion, ?_⟩
    rw [hstatus]
    rintro rfl
    revert hclosed
    decide
  · rintro ⟨row, hrow, hid, hclosed⟩
    obtain ⟨item, hitem, hof⟩ := Raising.exists_right hrows hrow
    refine ⟨item, hitem, ?_, row.status, ?_, hof.status⟩
    · have hname : row.region = entry.1 := (hkeys _ hof.expected _ hentry).mpr hid
      rw [hof.region, hname]
    · simpa [hclosed] using hof.known

theorem regions_of_rows (hrows : List.Forall₂ DeclaredRegion.Of rows items) :
    items.map (·.get "region") = rows.map fun row => .str row.region := by
  induction hrows with
  | nil => rfl
  | cons hof _ ih => rw [List.map_cons, List.map_cons, hof.region, ih]

/-- The statuses of the entries are those of the regions. -/
theorem dayConsistent_of_matches (hrows : List.Forall₂ DeclaredRegion.Of rows items)
    {dayType : String} {weekday : ℤ}
    (h : DayTypeMatches dayType weekday (rows.map (·.status))) :
    DayConsistent dayType weekday items := by
  have hall : ∀ item ∈ items, ∃ status ∈ rows.map (·.status), item.get "status" = .str status := by
    intro item hitem
    obtain ⟨row, hrow, hof⟩ := Raising.exists_left hrows hitem
    exact ⟨row.status, List.mem_map_of_mem hrow, hof.status⟩
  -- a regular day, a weekend, or a holiday somewhere
  rcases h with ⟨hdayType, hweekday, hsame⟩ | ⟨hdayType, hweekday, hsame⟩ |
    ⟨hdayType, hweekday, hholiday, hother⟩
  · refine Or.inl ⟨hdayType, hweekday, ?_⟩
    intro item hitem
    obtain ⟨status, hstatus, hget⟩ := hall item hitem
    rw [hget, (sameSet_singleton.mp hsame).2 status hstatus]
  · refine Or.inr (Or.inl ⟨hdayType, hweekday, ?_⟩)
    intro item hitem
    obtain ⟨status, hstatus, hget⟩ := hall item hitem
    rw [hget, (sameSet_singleton.mp hsame).2 status hstatus]
  · refine Or.inr (Or.inr ⟨hdayType, hweekday, ?_, ?_⟩)
    · obtain ⟨row, hrow, hstatus⟩ := List.mem_map.mp hholiday
      obtain ⟨item, hitem, hof⟩ := Raising.exists_right hrows hrow
      exact ⟨item, hitem, by rw [hof.status, hstatus]⟩
    · intro item hitem
      obtain ⟨status, hstatus, hget⟩ := hall item hitem
      rw [hget, Json.str.injEq, Json.str.injEq]
      simpa using hother status hstatus

end

/-- The regions, the inputs and the day of an accepted policy. -/
theorem policyRegionsMatch_regions {policy : Json} {reportDate : Day} {optional : List String}
    (h : policyRegionsMatch policy reportDate optional = .ok true) :
    ∃ items, policy.get "regions" = .arr items ∧
      (items.map (·.get "region")).Perm (expectedMarketIds.map fun entry => .str entry.1) ∧
      (∀ id, id ∈ optional ↔
        ∃ entry ∈ expectedMarketIds, entry.2 = id ∧ DeclaresClosed items entry.1) ∧
      ∃ dayType, policy.get "day_type" = .str dayType ∧
        DayConsistent dayType (Day.weekday reportDate) items := by
  -- what the gate has checked: the names, the optional inputs, and the day
  unfold policyRegionsMatch at h
  obtain ⟨found, hfound, hrest⟩ := Raising.bind_ok.mp h
  split at hrest
  · rename_i dayType items hregions
    obtain ⟨seen, hseen, hmatch⟩ := Raising.bind_ok.mp hrest
    cases seen with
    | none => cases hmatch
    | some seen =>
      obtain ⟨rows, hrows, hnodup, rfl⟩ := regionDays_declares hseen List.nodup_nil
      obtain ⟨hnames, hoptional, hday⟩ := of_decide_eq_true (Except.ok.inj hmatch)
      refine ⟨items, hregions, ?_, ?_, dayType, (memberOf_some hfound).1, ?_⟩
      · have hperm : (rows.map (·.region)).Perm (expectedMarketIds.map Prod.fst) := by
          have hrowNames : (rows.map (·.region)).Nodup := by simpa [Function.comp_def] using hnodup
          refine (List.perm_ext_iff_of_nodup hrowNames (by decide)).mpr ?_
          intro name
          have hsame : SameSet (rows.map (·.region)) (expectedMarketIds.map Prod.fst) := by
            simpa [Function.comp_def] using hnames
          exact ⟨fun hname => hsame.1 hname, fun hname => hsame.2 hname⟩
        rw [regions_of_rows hrows]
        simpa [Function.comp_def] using hperm.map Json.str
      · intro id
        have hopt : id ∈ optional ↔ ∃ row ∈ rows, row.marketInputId = id ∧
            row.status ≠ "scheduled_session" := by
          rw [← mem_closed]
          exact ⟨fun hid => hoptional.2 hid, fun hid => hoptional.1 hid⟩
        rw [hopt]
        constructor
        · rintro ⟨row, hrow, rfl, hclosed⟩
          obtain ⟨item, -, hof⟩ := Raising.exists_right hrows hrow
          exact ⟨_, hof.expected, rfl,
            (declaresClosed_iff hrows hof.expected).mpr ⟨row, hrow, rfl, hclosed⟩⟩
        · rintro ⟨entry, hentry, rfl, hcloses⟩
          exact (declaresClosed_iff hrows hentry).mp hcloses
      · exact dayConsistent_of_matches hrows (by simpa [Function.comp_def] using hday)
  · cases hrest

/-- Of the inputs that an accepted policy names, it relaxes those of the closed regions. -/
theorem inputsForSnapshot_relaxes {snapshot : ReportInputSnapshot Json} {policy : Json}
    (hpolicy : snapshot.payload.get "report_day_policy" = policy) (hne : policy ≠ .null)
    {inputs : SnapshotInputs} (hok : inputsForSnapshot snapshot = .ok inputs)
    (hissue : inputs.issue = none) : PolicyRelaxes policy snapshot.reportDate inputs := by
  obtain ⟨required, optional, hinputs, hmatch, rfl⟩ :=
    (inputsForSnapshot_accepts_iff hpolicy hne).mp ⟨hok, hissue⟩
  obtain ⟨hdate, hdisjoint, hsame, halways⟩ := policyInputs?_sets hinputs
  refine ⟨hdate, policyRegionsMatch_regions hmatch, ?_, ?_⟩
  · intro id
    constructor
    · intro hid
      exact ⟨hsame.1 (List.mem_append_left _ hid), hdisjoint id hid⟩
    · rintro ⟨hid, hnot⟩
      exact (List.mem_append.mp (hsame.2 hid)).resolve_right hnot
  · intro id hid
    exact ⟨halways id hid, hdisjoint id (halways id hid)⟩

/-! ## The agreement -/

/-- The markets that the materializer takes as closed are the optional inputs. -/
theorem mem_closedMarketInputs {producer : ExchangeReportDayPolicy} {reportDate : Day}
    {result : ReportDayPolicyResult} (h : producer.evaluate reportDate = .ok result)
    (id : String) :
    id ∈ (closedMarketInputs result).map Prod.fst ↔ id ∈ result.optionalInputIds := by
  obtain ⟨names, isSession, previous, rfl⟩ := evaluate_ok h
  have hclosed := @answeredRegions_closed names isSession previous (5 ≤ Day.weekday reportDate)
  unfold closedMarketInputs
  rw [Json.mem_keys_dict, List.map_map]
  show id ∈ ((answeredRegions _ _ _ _ _).filter fun item => !item.marketInputRequired).map
    (·.marketInputId) ↔ _
  rw [hclosed]
  exact mem_answeredPolicy_optional.symm

/-- The producer of the policy and the gate agree. In the payload a list stands for a tuple as
well: the gate takes either. -/
theorem day_policy_agrees (snapshot : ReportInputSnapshot Json) :
    (∀ (producer : ExchangeReportDayPolicy) (result : ReportDayPolicyResult),
      producer.evaluate snapshot.reportDate = .ok result →
      snapshot.payload.get "report_day_policy" = result.toPayload →
      inputsForSnapshot snapshot = .ok
          { required := result.requiredInputIds, optional := result.optionalInputIds } ∧
        ∀ id, id ∈ (closedMarketInputs result).map Prod.fst ↔ id ∈ result.optionalInputIds) ∧
    ∀ (policy : Json) (inputs : SnapshotInputs),
      snapshot.payload.get "report_day_policy" = policy → policy ≠ .null →
      inputsForSnapshot snapshot = .ok inputs → inputs.issue = none →
      PolicyRelaxes policy snapshot.reportDate inputs :=
  ⟨fun _ _ hresult hpayload => ⟨evaluate_accepted hresult hpayload,
      mem_closedMarketInputs hresult⟩,
    fun _ _ hpolicy hne hok hissue => inputsForSnapshot_relaxes hpolicy hne hok hissue⟩

/-- Calendars of a day without a session in Hong Kong. -/
def hongKongHoliday : ExchangeReportDayPolicy where
  getCalendar name := some
    { isSession _ := some (name ≠ "XHKG")
      previousSession day := some (day - 1)
      dateToSession day := some (day - 1)
      sessionClose day := day * dayMicroseconds }
  version := "4.5"
  version_ne := by decide

/-- A snapshot of Monday 2026-08-03 with the policy of that day. -/
def holidaySnapshot : ReportInputSnapshot Json where
  snapshotId := "report-input_1"
  snapshotVersion := "1"
  reportDate := 20668
  asOf := 20668 * dayMicroseconds
  cutoffAt := 20668 * dayMicroseconds
  fingerprintSha256 := ""
  factIds := []
  payload := .obj
    [("report_day_policy", match hongKongHoliday.evaluate 20668 with
      | .ok policy => policy.toPayload
      | .error _ => .null)]

/-- The bars of Hong Kong are optional on that day. -/
theorem day_policy_agrees_holiday :
    ∃ inputs, inputsForSnapshot holidaySnapshot = .ok inputs ∧
      inputs.optional = ["market.hk.core_indices.previous_close"] ∧
      PolicyRelaxes (holidaySnapshot.payload.get "report_day_policy") 20668 inputs := by
  have hoptional : ((hongKongHoliday.evaluate 20668).map (·.optionalInputIds)).toOption =
      some ["market.hk.core_indices.previous_close"] := by decide +kernel
  cases hok : hongKongHoliday.evaluate 20668 with
  | error raised =>
    rw [hok] at hoptional
    cases hoptional
  | ok result =>
    rw [hok] at hoptional
    have hpayload : holidaySnapshot.payload.get "report_day_policy" = result.toPayload := by
      show (match hongKongHoliday.evaluate 20668 with
        | .ok policy => policy.toPayload
        | .error _ => .null) = _
      rw [hok]
    have hinputs := ((day_policy_agrees holidaySnapshot).1 hongKongHoliday result hok hpayload).1
    refine ⟨_, hinputs, Option.some.inj hoptional,
      (day_policy_agrees holidaySnapshot).2 _ _ rfl ?_ hinputs rfl⟩
    rw [hpayload]
    nofun

end MacroPlatform.Report
