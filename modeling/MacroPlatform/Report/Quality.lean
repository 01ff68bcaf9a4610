import Mathlib.Data.List.Dedup
import Mathlib.Data.List.Perm.Subperm
import Mathlib.Data.List.Sort
import MacroPlatform.Contracts.Text
import MacroPlatform.Daily.Generation
import MacroPlatform.Lib.Except

/-! # The quality gate of a report input

`ReportInputQualityGate` reads the untyped payload of a snapshot: the quality of its inputs,
the policy of the report day, and the facts. A dict or a list that the gate looks up in a set
is a `TypeError`.

* `inputsForSnapshot_spec`: what a policy relaxes;
* `evaluate_passed`: what the gate has found when it passes a snapshot;
* `evaluate_sound`: every required input is accounted for.
-/

namespace MacroPlatform.Report

open Daily

/-- `{...} <= {...}` both ways, for sets that are kept as lists. -/
def SameSet (xs ys : List String) : Prop := xs ⊆ ys ∧ ys ⊆ xs

instance (xs ys : List String) : Decidable (SameSet xs ys) :=
  decidable_of_iff ((∀ x ∈ xs, x ∈ ys) ∧ ∀ y ∈ ys, y ∈ xs) Iff.rfl

/-- `sorted` of a set of strings. -/
def sortedSet (xs : List String) : List String := xs.dedup.insertionSort (· ≤ ·)

theorem mem_sortedSet {xs : List String} {x : String} : x ∈ sortedSet xs ↔ x ∈ xs := by
  unfold sortedSet
  rw [(List.perm_insertionSort _ _).mem_iff, List.mem_dedup]

def unhashable (kind : String) : PythonError :=
  { name := "TypeError", message := "unhashable type: '" ++ kind ++ "'" }

/-- `value in {...}` for a set of strings: the string when it is there. -/
def memberOf (value : Json) (names : List String) : Except PythonError (Option String) :=
  match value with
  | .arr _ => .error (unhashable "list")
  | .obj _ => .error (unhashable "dict")
  | .str s => .ok (if s ∈ names then some s else none)
  | _ => .ok none

/-- A list of strings. -/
def strings? (value : Json) : Option (List String) := do (← value.toArr?).mapM Json.toStr?

/-! ## `report_day_policy` -/

def reportDayPolicyId : String := "cn_hk_us_report_day_v1"

def alwaysRequiredReportInputIds : List String :=
  ["news.cn.official_headlines_24h", "news.hk.official_headlines_24h",
    "calendar.macro_releases_7d"]

def marketInputIdByRegion : List (Region × String) :=
  [(.cn, "market.cn.core_indices.previous_close"),
    (.hk, "market.hk.core_indices.previous_close"),
    (.us, "market.us.core_indices.previous_close")]

/-- `expected_market_ids`. -/
def expectedMarketIds : List (String × String) :=
  marketInputIdByRegion.map fun entry => (entry.1.value, entry.2)

def requiredReportInputIds : List String :=
  alwaysRequiredReportInputIds ++ marketInputIdByRegion.map Prod.snd

/-! ## Issues -/

/-- `QualityGateIssue`. -/
structure QualityGateIssue where
  inputId : String
  code : String
  message : String
  required : Bool
deriving DecidableEq, Repr

/-- `QualityGateResult`. -/
structure QualityGateResult where
  status : QualityGateStatus
  issues : List QualityGateIssue
deriving DecidableEq, Repr

def blockingStatuses : List String :=
  ["missing", "stale", "late", "unavailable", "quarantined", "invalid"]

def knownStatuses : List String := blockingStatuses ++ ["available", "revised", "retryable"]

/-! ## The policy of the day -/

/-- `observed_statuses` and `derived_optional`. -/
structure RegionDays where
  statuses : List (String × String) := []
  optional : List String := []

/-- The tests of a region's entry against its market input. -/
def regionStatus (item : Json) (marketInputId : String) :
    Except PythonError (Option (String × Bool)) :=
  if (item.get "market_input_id").toStr? ≠ some marketInputId then .ok none
  else do
    let status ← memberOf (item.get "status")
      ["scheduled_session", "weekend_closed", "exchange_holiday"]
    match status, item.get "market_input_required" with
    | some status, .bool required =>
      .ok (if required = (status == "scheduled_session") then some (status, required) else none)
    | _, _ => .ok none

/-- The loop over the regions of the policy for one item; `none` returns `False`. -/
def regionDay (seen : RegionDays) (item : Json) : Except PythonError (Option RegionDays) :=
  match item with
  | .obj _ => do
    let region ← memberOf (item.get "region") (expectedMarketIds.map Prod.fst)
    match region, region.bind (List.lookup · expectedMarketIds) with
    | some region, some marketInputId =>
      if region ∈ seen.statuses.map Prod.fst then .ok none
      else
        let status ← regionStatus item marketInputId
        .ok (status.map fun (status, required) =>
          { statuses := seen.statuses ++ [(region, status)]
            optional := seen.optional ++ if required then [] else [marketInputId] })
    | _, _ => .ok none
  | _ => .ok none

def regionDays (seen : RegionDays) : List Json → Except PythonError (Option RegionDays)
  | [] => .ok (some seen)
  | item :: items => do
    match ← regionDay seen item with
    | none => .ok none
    | some seen => regionDays seen items

/-- What the day type says of the statuses of the regions. -/
def DayTypeMatches (dayType : String) (weekday : ℤ) (statuses : List String) : Prop :=
  (dayType = "regular" ∧ weekday < 5 ∧ SameSet statuses ["scheduled_session"]) ∨
    (dayType = "weekend" ∧ 5 ≤ weekday ∧ SameSet statuses ["weekend_closed"]) ∨
    (dayType = "regional_holiday" ∧ weekday < 5 ∧ "exchange_holiday" ∈ statuses ∧
      ∀ status ∈ statuses, status ∈ ["scheduled_session", "exchange_holiday"])

instance (dayType : String) (weekday : ℤ) (statuses : List String) :
    Decidable (DayTypeMatches dayType weekday statuses) :=
  inferInstanceAs (Decidable (_ ∨ _))

/-- `_policy_regions_match`. -/
def policyRegionsMatch (policy : Json) (reportDate : Day) (optional : List String) :
    Except PythonError Bool := do
  let dayType ← memberOf (policy.get "day_type") ["regular", "weekend", "regional_holiday"]
  match dayType, policy.get "regions" with
  | some dayType, .arr regions =>
    match ← regionDays {} regions with
    | none => .ok false
    | some seen =>
      .ok (SameSet (seen.statuses.map Prod.fst) (expectedMarketIds.map Prod.fst) ∧
        SameSet seen.optional optional ∧
        DayTypeMatches dayType (Day.weekday reportDate) (seen.statuses.map Prod.snd))
  | _, _ => .ok false

/-- The issue of a policy that is not accepted. -/
def policyInvalid : QualityGateIssue :=
  { inputId := "report.day_policy"
    code := "REPORT_DAY_POLICY_INVALID"
    message := "report-day policy is incomplete or inconsistent with the input contract"
    required := true }

/-- What `_inputs_for_snapshot` returns: the required inputs, the optional ones, an issue. -/
structure SnapshotInputs where
  required : List String := requiredReportInputIds
  optional : List String := []
  issue : Option QualityGateIssue := none

/-- The tests of the policy that come before its regions. -/
def policyInputs? (policy : Json) (reportDate : Day) : Option (List String × List String) :=
  if (policy.get "report_date").toStr? ≠ some (Day.isoformat reportDate) then none
  else if (policy.get "policy_id").toStr? ≠ some reportDayPolicyId then none
  else match (policy.get "calendar_version").toStr? with
    | none => none
    | some version =>
      if version = "" then none
      else match strings? (policy.get "required_input_ids"),
          strings? (policy.get "optional_input_ids") with
        | some required, some optional =>
          if (∀ id ∈ required, id ∉ optional) ∧
              SameSet (required ++ optional) requiredReportInputIds ∧
              ∀ id ∈ alwaysRequiredReportInputIds, id ∈ required then
            some (required, optional)
          else none
        | _, _ => none

variable (snapshot : ReportInputSnapshot Json)

/-- `_inputs_for_snapshot`. -/
def inputsForSnapshot : Except PythonError SnapshotInputs :=
  match snapshot.payload.get "report_day_policy" with
  | .null => .ok {}
  | policy => do
    match policyInputs? policy snapshot.reportDate with
    | none => .ok { issue := some policyInvalid }
    | some (required, optional) =>
      if ← policyRegionsMatch policy snapshot.reportDate optional then
        .ok { required, optional }
      else .ok { issue := some policyInvalid }

/-! ## `evaluate` -/

/-- `_is_required`. -/
def isRequired (inputId : String) (raw : Json) (requiredInputIds : List String) : Bool :=
  inputId ∈ requiredInputIds ||
    match raw with
    | .obj _ => (raw.get "required" (.bool false)).isTrue
    | _ => true

/-- The issue of a status that is not recognized. -/
def invalidStatus (inputId : String) (required : Bool) : QualityGateIssue :=
  { inputId
    code := if required then "INVALID_REQUIRED_INPUT_STATUS" else "INVALID_INPUT_STATUS"
    message := "input quality status is not recognized"
    required }

/-- `f"{status.upper()}_{suffix}"`. -/
def statusCode (status : String) (required : Bool) : String :=
  status.toUpper ++ "_" ++ if required then "REQUIRED_INPUT" else "OPTIONAL_INPUT"

/-- `_issue_for_status`. -/
def issueForStatus (inputId : String) (status : Json) (reason : String) (required : Bool) :
    Option QualityGateIssue :=
  match status with
  | .str status =>
    if status = "denied" then none
    else if status ∉ knownStatuses then some (invalidStatus inputId required)
    else if status = "available" then none
    else some { inputId, code := statusCode status required, message := reason, required }
  | _ => some (invalidStatus inputId required)

/-- `str(raw.get("reason", ...))`; the text of a value that is no string is left to `pyStr`. -/
def entryReason (pyStr : Json → String) (raw : Json) : String :=
  let text (value : Json) : String := value.toStr?.getD (pyStr value)
  text (raw.get "reason" (.str ("input status is " ++ text (raw.get "status"))))

/-- The issues of one entry of `input_quality`. -/
def entryIssues (pyStr : Json → String) (inputId : String) (raw : Json)
    (requiredInputIds : List String) : List QualityGateIssue :=
  let required := isRequired inputId raw requiredInputIds
  match raw with
  | .obj _ =>
    (if inputId ∈ requiredInputIds ∧ (raw.get "required" (.bool true)).isTrue = false then
      [{ inputId, code := "REQUIRED_INPUT_DECLARATION_INVALID"
         message := "required report input cannot be downgraded to optional"
         required := true }]
    else []) ++
      (issueForStatus inputId (raw.get "status") (entryReason pyStr raw) required).toList
  | _ =>
    [{ inputId
       code := if required then "INVALID_REQUIRED_INPUT_QUALITY"
         else "INVALID_OPTIONAL_INPUT_QUALITY"
       message := "input quality entry must be an object"
       required }]

/-- `input_quality`, or no entry when it is not an object. -/
def inputQuality : Json :=
  match snapshot.payload.get "input_quality" (.obj []) with
  | .obj fields => .obj fields
  | _ => .obj []

def requiredMissing (inputId : String) : QualityGateIssue :=
  { inputId, code := "REQUIRED_INPUT_UNAVAILABLE"
    message := "required report input has no quality-gate result", required := true }

def optionalMissing (inputId : String) : QualityGateIssue :=
  { inputId, code := "OPTIONAL_INPUT_UNAVAILABLE"
    message := "closed-market input has no explicit quality-gate result", required := false }

def scheduledClosure (inputId : String) : QualityGateIssue :=
  { inputId, code := "SCHEDULED_MARKET_CLOSURE"
    message := "market is closed for this report date; latest facts are optional"
    required := false }

/-- The issues of the inputs. -/
def inputIssues (pyStr : Json → String) (quality : Json) (inputs : SnapshotInputs) :
    List QualityGateIssue :=
  let keys := quality.keys
  inputs.issue.toList ++
    (sortedSet (inputs.required.filter (· ∉ keys))).map requiredMissing ++
    (sortedSet (inputs.optional.filter (· ∉ keys))).map optionalMissing ++
    ((sortedSet (inputs.optional.filter (· ∈ keys))).filter fun inputId =>
      ((quality.get inputId).get "status").toStr? = some "available").map scheduledClosure ++
    (sortedSet keys).flatMap fun inputId =>
      entryIssues pyStr inputId (quality.get inputId) inputs.required

/-- The `fact_id` of every fact that is an object. -/
def factIdsOf (facts : List Json) : List Json :=
  (facts.filter fun fact => fact.toObj?.isSome).map (·.get "fact_id")

/-- `set(fact_ids) == set(snapshot.fact_ids)`. -/
def sameIds (factIds : List Json) (expected : List String) : Except PythonError Bool := do
  let found ← factIds.mapM (memberOf · expected)
  .ok ((∀ id ∈ found, id.isSome) ∧ ∀ id ∈ expected, some id ∈ found)

/-- `_has_materialized_facts`. -/
def hasMaterializedFacts : Except PythonError Bool :=
  match snapshot.payload.get "facts" with
  | .arr facts =>
    if snapshot.factIds = [] ∨ facts = [] then .ok false
    else if snapshot.factIds.Nodup ∧ (factIdsOf facts).length = facts.length ∧
        facts.length = snapshot.factIds.length then
      sameIds (factIdsOf facts) snapshot.factIds
    else .ok false
  | _ => .ok false

def factsMissing : QualityGateIssue :=
  { inputId := "report.facts", code := "REQUIRED_FACTS_UNAVAILABLE"
    message := "approved input snapshot contains no materialized report facts"
    required := true }

/-- `_decision`. -/
def decision (issues : List QualityGateIssue) : QualityGateStatus :=
  if issues.any fun issue => issue.required &&
      !(startsWith "RETRYABLE_" issue.code || startsWith "REVISED_" issue.code) then .blocked
  else if issues.any fun issue => issue.required && startsWith "RETRYABLE_" issue.code then
    .retryable
  else if issues = [] then .passed
  else .degraded

/-- `ReportInputQualityGate.evaluate`. -/
def evaluate (pyStr : Json → String) : Except PythonError QualityGateResult := do
  let inputs ← inputsForSnapshot snapshot
  let materialized ← hasMaterializedFacts snapshot
  let issues := inputIssues pyStr (inputQuality snapshot) inputs ++
    if materialized then [] else [factsMissing]
  .ok { status := decision issues, issues }

/-! ## What the gate lets pass -/

section

variable {snapshot : ReportInputSnapshot Json} {inputId : String}

/-- The entry of a required input that can be used. -/
structure Accounted (snapshot : ReportInputSnapshot Json) (inputId : String)
    (fields : List (String × Json)) : Prop where
  entry : (snapshot.payload.get "input_quality").get inputId = .obj fields
  /-- `denied` is the historical value. -/
  status : ∃ status ∈ ["available", "revised", "denied"],
    (Json.obj fields).get "status" = .str status
  /-- `required` is absent or `True`. -/
  required : (Json.obj fields).get "required" (.bool true) = .bool true

/-- An accepted policy of this report date makes a market input optional: its market is closed
on this date. -/
structure RelaxedByPolicy (snapshot : ReportInputSnapshot Json) (inputId : String) : Prop where
  accepted : ∃ inputs, inputsForSnapshot snapshot = .ok inputs ∧ inputs.issue = none ∧
    inputId ∈ inputs.optional
  reportDate : (snapshot.payload.get "report_day_policy").get "report_date" =
    .str (Day.isoformat snapshot.reportDate)
  closed : ∃ regions, (snapshot.payload.get "report_day_policy").get "regions" = .arr regions ∧
    ∃ item ∈ regions, item.get "market_input_id" = .str inputId ∧
      ∃ status ∈ ["weekend_closed", "exchange_holiday"], item.get "status" = .str status

/-- The facts of the payload carry the fact ids of the snapshot, each once. -/
structure FactsMaterialized (snapshot : ReportInputSnapshot Json) (facts : List Json)
    (factIds : List String) : Prop where
  payload : snapshot.payload.get "facts" = .arr facts
  nonempty : facts ≠ []
  ids : facts.map (·.get "fact_id") = factIds.map .str
  distinct : factIds.Nodup
  exact : ∀ factId, factId ∈ factIds ↔ factId ∈ snapshot.factIds

theorem toStr?_eq_some {value : Json} {s : String} : value.toStr? = some s ↔ value = .str s := by
  cases value <;> simp [Json.toStr?]

theorem isTrue_iff {value : Json} : value.isTrue = true ↔ value = .bool true := by
  cases value <;> simp [Json.isTrue]

/-- A text that is found is one of the names. -/
theorem memberOf_some {value : Json} {names : List String} {s : String}
    (h : memberOf value names = .ok (some s)) : value = .str s ∧ s ∈ names := by
  unfold memberOf at h
  split at h
  · cases h
  · cases h
  · rename_i text
    by_cases hmem : text ∈ names
    · rw [if_pos hmem] at h
      cases h
      exact ⟨rfl, hmem⟩
    · rw [if_neg hmem] at h
      cases h
  · cases h

/-! ### The policy -/

/-- A status that is accepted agrees with the session that the input needs. -/
theorem regionStatus_some {item : Json} {marketInputId status : String} {required : Bool}
    (h : regionStatus item marketInputId = .ok (some (status, required))) :
    item.get "market_input_id" = .str marketInputId ∧ item.get "status" = .str status ∧
      status ∈ ["scheduled_session", "weekend_closed", "exchange_holiday"] ∧
      item.get "market_input_required" = .bool required ∧
      required = (status == "scheduled_session") := by
  unfold regionStatus at h
  -- the region must name the market input of its own
  by_cases hid : (item.get "market_input_id").toStr? = some marketInputId
  · rw [if_neg (not_not.mpr hid)] at h
    obtain ⟨found, hfound, hrest⟩ := Raising.bind_ok.mp h
    split at hrest
    · rename_i text flag hflag
      -- the flag must agree with the status
      by_cases hreq : flag = (text == "scheduled_session")
      · rw [if_pos hreq] at hrest
        cases hrest
        obtain ⟨hstatus, hmem⟩ := memberOf_some hfound
        exact ⟨toStr?_eq_some.mp hid, hstatus, hmem, hflag, hreq⟩
      · rw [if_neg hreq] at hrest
        cases hrest
    · cases hrest
  · rw [if_pos hid] at h
    cases h

/-- A region that is accepted adds its status, and its input when this is optional. -/
theorem regionDay_some {seen after : RegionDays} {item : Json}
    (h : regionDay seen item = .ok (some after)) : ∃ region marketInputId status required,
      regionStatus item marketInputId = .ok (some (status, required)) ∧
      after = { statuses := seen.statuses ++ [(region, status)]
                optional := seen.optional ++ if required then [] else [marketInputId] } := by
  unfold regionDay at h
  split at h
  · obtain ⟨found, -, hrest⟩ := Raising.bind_ok.mp h
    split at hrest
    -- a known region, and not seen before
    · rename_i region marketInputId hlookup
      by_cases hseen : region ∈ seen.statuses.map Prod.fst
      · rw [if_pos hseen] at hrest
        cases hrest
      · rw [if_neg hseen] at hrest
        obtain ⟨taken, htaken, hafter⟩ := Raising.bind_ok.mp hrest
        rcases taken with _ | ⟨status, required⟩
        -- a region that is refused refuses the policy
        · cases hafter
        · cases hafter
          exact ⟨region, marketInputId, status, required, htaken, rfl⟩
    · cases hrest
  · cases h

/-- A region that makes its market input optional is closed. -/
theorem regionDay_optional {seen after : RegionDays} {item : Json}
    (h : regionDay seen item = .ok (some after)) (hid : inputId ∈ after.optional) :
    inputId ∈ seen.optional ∨ item.get "market_input_id" = .str inputId ∧
      ∃ status ∈ ["weekend_closed", "exchange_holiday"], item.get "status" = .str status := by
  obtain ⟨region, marketInputId, status, required, htaken, rfl⟩ := regionDay_some h
  obtain ⟨hmarket, hstatus, hmem, -, hrequired⟩ := regionStatus_some htaken
  rcases List.mem_append.mp hid with hseen | hnew
  · exact Or.inl hseen
  · cases required with
    | true => simp at hnew
    | false =>
      have hsame : inputId = marketInputId := by simpa using hnew
      have hclosed : status ≠ "scheduled_session" := by simpa using hrequired.symm
      refine Or.inr ⟨by rw [hmarket, hsame], status, ?_, hstatus⟩
      simpa [hclosed] using hmem

/-- After all regions, every input that was made optional has its closed region. -/
theorem regionDays_optional {items : List Json} {seen after : RegionDays}
    (h : regionDays seen items = .ok (some after)) (hid : inputId ∈ after.optional) :
    inputId ∈ seen.optional ∨ ∃ item ∈ items, item.get "market_input_id" = .str inputId ∧
      ∃ status ∈ ["weekend_closed", "exchange_holiday"], item.get "status" = .str status := by
  induction items generalizing seen with
  | nil =>
    cases h
    exact Or.inl hid
  | cons item items ih =>
    obtain ⟨next, hnext, hrest⟩ := Raising.bind_ok.mp h
    cases next with
    | none => cases hrest
    | some next =>
      rcases ih hrest with hseen | ⟨closed, hmem, hclosed⟩
      · rcases regionDay_optional hnext hseen with hseen | hclosed
        · exact Or.inl hseen
        · exact Or.inr ⟨item, List.mem_cons_self, hclosed⟩
      · exact Or.inr ⟨closed, List.mem_cons_of_mem item hmem, hclosed⟩

/-- An optional input belongs to a closed region. -/
theorem policyRegionsMatch_optional {policy : Json} {reportDate : Day} {optional : List String}
    (h : policyRegionsMatch policy reportDate optional = .ok true) (hid : inputId ∈ optional) :
    ∃ regions, policy.get "regions" = .arr regions ∧
      ∃ item ∈ regions, item.get "market_input_id" = .str inputId ∧
        ∃ status ∈ ["weekend_closed", "exchange_holiday"], item.get "status" = .str status := by
  unfold policyRegionsMatch at h
  obtain ⟨dayType, -, hrest⟩ := Raising.bind_ok.mp h
  split at hrest
  · rename_i dayType regions hregions
    obtain ⟨seen, hseen, hmatch⟩ := Raising.bind_ok.mp hrest
    -- the walk over the regions succeeded, and its optional inputs are the policy's
    cases seen with
    | none => cases hmatch
    | some seen =>
      have hsame : SameSet seen.optional optional := by
        have hall := of_decide_eq_true (Except.ok.inj hmatch)
        exact hall.2.1
      -- an optional input was optional before the walk, or its region is closed
      rcases regionDays_optional hseen (hsame.2 hid) with hnone | hclosed
      · cases hnone
      · exact ⟨regions, hregions, hclosed⟩
  · cases hrest

/-- The sets of an accepted policy. -/
theorem policyInputs?_sets {policy : Json} {reportDate : Day} {required optional : List String}
    (h : policyInputs? policy reportDate = some (required, optional)) :
    policy.get "report_date" = .str (Day.isoformat reportDate) ∧
      (∀ id ∈ required, id ∉ optional) ∧
      SameSet (required ++ optional) requiredReportInputIds ∧
      ∀ id ∈ alwaysRequiredReportInputIds, id ∈ required := by
  -- the tests of the policy, one by one: the last is about the sets
  unfold policyInputs? at h
  split at h
  · cases h
  · rename_i hdate
    split at h
    · cases h
    · split at h
      · cases h
      · split at h
        · cases h
        · split at h
          · split at h
            · rename_i hsets
              cases h
              exact ⟨toStr?_eq_some.mp (not_not.mp hdate), hsets⟩
            · cases h
          · cases h

/-- The only issue of the inputs is an invalid policy. -/
theorem inputsForSnapshot_issue {inputs : SnapshotInputs}
    (h : inputsForSnapshot snapshot = .ok inputs) :
    ∀ issue ∈ inputs.issue, issue = policyInvalid := by
  intro issue hissue
  unfold inputsForSnapshot at h
  -- a snapshot without a policy has the standard inputs
  split at h
  · cases h
    cases hissue
  -- a policy that is not read, then one that is read and refused or accepted
  · split at h
    · cases h
      cases hissue
      rfl
    · obtain ⟨accepted, -, hrest⟩ := Raising.bind_ok.mp h
      cases accepted with
      | false =>
        cases hrest
        cases hissue
        rfl
      | true =>
        cases hrest
        cases hissue

/-- Without an issue, what the inputs leave out of the required ones is relaxed. -/
theorem inputsForSnapshot_spec {inputs : SnapshotInputs}
    (h : inputsForSnapshot snapshot = .ok inputs) (hissue : inputs.issue = none) :
    (∀ id ∈ alwaysRequiredReportInputIds, id ∈ inputs.required) ∧
      ∀ id ∈ requiredReportInputIds, id ∈ inputs.required ∨ RelaxedByPolicy snapshot id := by
  have hinputs := h
  unfold inputsForSnapshot at h
  split at h
  · cases h
    refine ⟨fun id hid => List.mem_append_left _ hid, fun id hid => Or.inl hid⟩
  · split at h
    · cases h
      cases hissue
    · rename_i required optional hpolicy
      obtain ⟨accepted, hmatch, hrest⟩ := Raising.bind_ok.mp h
      cases accepted with
      | false =>
        cases hrest
        cases hissue
      | true =>
        cases hrest
        obtain ⟨hdate, -, hsame, halways⟩ := policyInputs?_sets hpolicy
        refine ⟨halways, ?_⟩
        intro id hid
        by_cases hopt : id ∈ optional
        · exact Or.inr ⟨⟨_, hinputs, rfl, hopt⟩, hdate, policyRegionsMatch_optional hmatch hopt⟩
        · exact Or.inl ((List.mem_append.mp (hsame.2 hid)).resolve_right hopt)

/-! ### The entries -/

/-- The issues that a passed or degraded result may have. -/
theorem decision_issue {issues : List QualityGateIssue}
    (h : decision issues = .passed ∨ decision issues = .degraded) {issue : QualityGateIssue}
    (hmem : issue ∈ issues) (hrequired : issue.required = true) :
    startsWith "REVISED_" issue.code = true := by
  unfold decision at h
  split at h
  · simp at h
  · rename_i hblocked
    split at h
    · simp at h
    · rename_i hretryable
      have hnotBlocked := List.any_eq_false.mp (Bool.not_eq_true _ ▸ hblocked) issue hmem
      have hnotRetryable := List.any_eq_false.mp (Bool.not_eq_true _ ▸ hretryable) issue hmem
      rw [hrequired] at hnotBlocked hnotRetryable
      simp only [Bool.true_and, Bool.not_eq_true, Bool.not_eq_false'] at hnotBlocked hnotRetryable
      rw [hnotRetryable, Bool.false_or] at hnotBlocked
      exact hnotBlocked

/-- The code of a status that blocks is not that of a revision. -/
theorem blocking_code : ∀ status ∈ "retryable" :: blockingStatuses,
    startsWith "REVISED_" (statusCode status true) = false := by
  decide +kernel

theorem issueForStatus_required {status : Json} {reason : String} {required : Bool}
    {issue : QualityGateIssue} (h : issue ∈ issueForStatus inputId status reason required) :
    issue.required = required := by
  unfold issueForStatus at h
  split at h
  · split_ifs at h <;> cases h <;> rfl
  · cases h
    rfl

/-- A required input without an issue, or with that of a revision, has a usable status. -/
theorem issueForStatus_usable {status : Json} {reason : String}
    (h : ∀ issue ∈ issueForStatus inputId status reason true,
      startsWith "REVISED_" issue.code = true) :
    ∃ text ∈ ["available", "revised", "denied"], status = .str text := by
  have hinvalid : ¬ startsWith "REVISED_" (invalidStatus inputId true).code = true := by
    show ¬ startsWith "REVISED_" "INVALID_REQUIRED_INPUT_STATUS" = true
    decide +kernel
  unfold issueForStatus at h
  split at h
  · rename_i text
    refine ⟨text, ?_, rfl⟩
    by_cases hdenied : text = "denied"
    · simp [hdenied]
    · rw [if_neg hdenied] at h
      by_cases hknown : text ∈ knownStatuses
      · rw [if_neg (not_not.mpr hknown)] at h
        by_cases havailable : text = "available"
        · simp [havailable]
        · rw [if_neg havailable] at h
          have hcode := h _ rfl
          by_cases hrevised : text = "revised"
          · simp [hrevised]
          · -- what is left of the known statuses blocks
            have hblocking : text ∈ "retryable" :: blockingStatuses := by
              simp only [knownStatuses, List.mem_append, List.mem_cons, List.not_mem_nil,
                or_false] at hknown
              rcases hknown with hmem | hmem | hmem | hmem
              · exact List.mem_cons_of_mem _ hmem
              · exact absurd hmem havailable
              · exact absurd hmem hrevised
              · exact hmem ▸ List.mem_cons_self
            have hnot := blocking_code text hblocking
            rw [hnot] at hcode
            cases hcode
      · rw [if_pos hknown] at h
        exact absurd (h _ rfl) hinvalid
  · exact absurd (h _ rfl) hinvalid

/-- A required input whose entry has no other issue than a revision is accounted for. -/
theorem entryIssues_usable {pyStr : Json → String} {raw : Json} {required : List String}
    (hid : inputId ∈ required)
    (h : ∀ issue ∈ entryIssues pyStr inputId raw required, issue.required = true →
      startsWith "REVISED_" issue.code = true) :
    ∃ fields, raw = .obj fields ∧
      (∃ status ∈ ["available", "revised", "denied"], raw.get "status" = .str status) ∧
      raw.get "required" (.bool true) = .bool true := by
  have hdeclaration : ¬ startsWith "REVISED_" "REQUIRED_INPUT_DECLARATION_INVALID" = true := by
    decide +kernel
  have hquality : ¬ startsWith "REVISED_" "INVALID_REQUIRED_INPUT_QUALITY" = true := by
    decide +kernel
  have hrequired : isRequired inputId raw required = true := by
    simp [isRequired, hid]
  unfold entryIssues at h
  rw [hrequired] at h
  split at h
  · rename_i fields
    have hdeclared : ((Json.obj fields).get "required" (.bool true)).isTrue = true := by
      by_contra hnot
      have hfalse := Bool.eq_false_of_not_eq_true hnot
      rw [if_pos ⟨hid, hfalse⟩] at h
      exact absurd (h _ (List.mem_append_left _ List.mem_cons_self) rfl) hdeclaration
    refine ⟨fields, rfl, ?_, isTrue_iff.mp hdeclared⟩
    refine @issueForStatus_usable inputId _ (entryReason pyStr (.obj fields)) ?_
    intro issue hissue
    have hrevised := h issue (List.mem_append_right _ (Option.mem_toList.mpr hissue))
    exact hrevised (issueForStatus_required hissue)
  · exact absurd (h _ List.mem_cons_self rfl) hquality

/-! ### The facts -/

/-- Equal sets of ids, as lists of texts. -/
theorem sameIds_true {values : List Json} {expected : List String}
    (h : sameIds values expected = .ok true) :
    ∃ ids : List String, values = ids.map .str ∧ ids ⊆ expected ∧ expected ⊆ ids := by
  obtain ⟨found, hfound, hall⟩ := Raising.bind_ok.mp h
  obtain ⟨hsome, hexpected⟩ := of_decide_eq_true (Except.ok.inj hall)
  -- every value is the string that was found for it
  have hids : ∀ (values : List Json) (found : List (Option String)),
      List.Forall₂ (fun value id => memberOf value expected = .ok id) values found →
      (∀ id ∈ found, id.isSome) →
      ∃ ids : List String, values = ids.map .str ∧ found = ids.map some ∧ ids ⊆ expected := by
    intro values found hmatch
    induction hmatch with
    | nil => exact fun _ => ⟨[], rfl, rfl, List.nil_subset _⟩
    | cons hvalue hrest ih =>
      intro hsome
      obtain ⟨id, rfl⟩ := Option.isSome_iff_exists.mp (hsome _ List.mem_cons_self)
      obtain ⟨ids, hids, hmap, hsub⟩ := ih fun id hid => hsome id (List.mem_cons_of_mem _ hid)
      obtain ⟨hstr, hmem⟩ := memberOf_some hvalue
      refine ⟨id :: ids, ?_, ?_, List.cons_subset.mpr ⟨hmem, hsub⟩⟩
      · rw [List.map_cons, hstr, hids]
      · rw [List.map_cons, hmap]
  obtain ⟨ids, hvalues, rfl, hsub⟩ := hids values found (Raising.mapM_ok.mp hfound) hsome
  refine ⟨ids, hvalues, hsub, ?_⟩
  intro id hid
  simpa using hexpected id hid

/-- Facts that are accepted have ids, and the snapshot names these. -/
theorem hasMaterializedFacts_spec (h : hasMaterializedFacts snapshot = .ok true) :
    ∃ facts factIds, FactsMaterialized snapshot facts factIds := by
  unfold hasMaterializedFacts at h
  split at h
  · rename_i facts hfacts
    by_cases hnone : snapshot.factIds = [] ∨ facts = []
    · rw [if_pos hnone] at h
      cases h
    · rw [if_neg hnone] at h
      split at h
      · rename_i hlengths
        obtain ⟨hnodup, hobjects, hlength⟩ := hlengths
        have hfilter : (facts.filter fun fact => fact.toObj?.isSome) = facts := by
          unfold factIdsOf at hobjects
          rw [List.length_map] at hobjects
          exact List.filter_sublist.eq_of_length hobjects
        obtain ⟨ids, hids, hsub, hsup⟩ := sameIds_true h
        have hcount : ids.length = snapshot.factIds.length := by
          have hmap := congrArg List.length hids
          rw [List.length_map] at hmap
          omega
        -- the ids of the snapshot are distinct, and there are no more ids than those
        have hperm : snapshot.factIds.Perm ids :=
          (List.subperm_of_subset hnodup hsup).perm_of_length_le hcount.le
        refine ⟨facts, ids, ?_⟩
        exact
          { payload := hfacts
            nonempty := fun hnil => hnone (Or.inr hnil)
            ids := by rw [← hids, factIdsOf, hfilter]
            distinct := hperm.nodup_iff.mp hnodup
            exact := fun factId => hperm.symm.mem_iff }
      · cases h
  · cases h

/-! ### The result -/

/-- What the gate reads of an input is in the payload. -/
theorem inputQuality_get {fields : List (String × Json)}
    (h : (inputQuality snapshot).get inputId = .obj fields) :
    (snapshot.payload.get "input_quality").get inputId = .obj fields := by
  unfold inputQuality at h
  split at h
  · rename_i quality hquality
    rcases snapshot.payload.get_default "input_quality" (.obj []) with hkey | ⟨-, hdefault⟩
    · rw [← hkey, hquality, h]
    · rw [hdefault] at hquality
      cases hquality
      cases h
  · cases h

/-- A required input that the gate has no blocking issue about. -/
theorem inputIssues_accounted {pyStr : Json → String} {inputs : SnapshotInputs}
    (hid : inputId ∈ inputs.required)
    (h : ∀ issue ∈ inputIssues pyStr (inputQuality snapshot) inputs, issue.required = true →
      startsWith "REVISED_" issue.code = true) :
    ∃ fields, Accounted snapshot inputId fields := by
  have hmissing : ¬ startsWith "REVISED_" (requiredMissing inputId).code = true := by
    show ¬ startsWith "REVISED_" "REQUIRED_INPUT_UNAVAILABLE" = true
    decide +kernel
  -- an input without an entry is reported
  have hkey : inputId ∈ (inputQuality snapshot).keys := by
    by_contra hnot
    have hsorted : inputId ∈
        sortedSet (inputs.required.filter (· ∉ (inputQuality snapshot).keys)) :=
      mem_sortedSet.mpr (List.mem_filter.mpr ⟨hid, decide_eq_true hnot⟩)
    refine hmissing (h (requiredMissing inputId) ?_ rfl)
    unfold inputIssues
    simp only [List.mem_append, List.mem_map]
    exact Or.inl (Or.inl (Or.inl (Or.inr ⟨inputId, hsorted, rfl⟩)))
  have hentry : ∀ issue ∈ entryIssues pyStr inputId ((inputQuality snapshot).get inputId)
      inputs.required, issue.required = true → startsWith "REVISED_" issue.code = true := by
    intro issue hissue
    refine h issue ?_
    unfold inputIssues
    exact List.mem_append_right _
      (List.mem_flatMap.mpr ⟨inputId, mem_sortedSet.mpr hkey, hissue⟩)
  obtain ⟨fields, hfields, hstatus, hrequired⟩ := entryIssues_usable hid hentry
  rw [hfields] at hstatus hrequired
  exact ⟨fields, inputQuality_get hfields, hstatus, hrequired⟩

/-- What the gate has found when it passes a snapshot: no issue of the policy, revisions only,
and the facts. -/
theorem evaluate_passed {pyStr : Json → String} {result : QualityGateResult}
    (h : evaluate snapshot pyStr = .ok result)
    (hstatus : result.status = .passed ∨ result.status = .degraded) :
    ∃ inputs, inputsForSnapshot snapshot = .ok inputs ∧ inputs.issue = none ∧
      (∀ issue ∈ inputIssues pyStr (inputQuality snapshot) inputs, issue.required = true →
        startsWith "REVISED_" issue.code = true) ∧
      hasMaterializedFacts snapshot = .ok true := by
  obtain ⟨inputs, hinputs, hrest⟩ := Raising.bind_ok.mp h
  obtain ⟨materialized, hfacts, hresult⟩ := Raising.bind_ok.mp hrest
  cases hresult
  have hrevised := fun issue hmem => @decision_issue _ hstatus issue hmem
  have hinputIssues : ∀ issue ∈ inputIssues pyStr (inputQuality snapshot) inputs,
      issue.required = true → startsWith "REVISED_" issue.code = true := by
    intro issue hissue
    exact hrevised issue (List.mem_append_left _ hissue)
  have hpolicy : inputs.issue = none := by
    have hinvalid : ¬ startsWith "REVISED_" policyInvalid.code = true := by
      decide +kernel
    cases hissue : inputs.issue with
    | none => rfl
    | some issue =>
      have hsame := inputsForSnapshot_issue hinputs issue hissue
      subst hsame
      refine absurd (hinputIssues policyInvalid ?_ rfl) hinvalid
      unfold inputIssues
      rw [hissue]
      simp
  have hmaterialized : materialized = true := by
    by_contra hnot
    have hmissing : ¬ startsWith "REVISED_" factsMissing.code = true := by
      decide +kernel
    refine hmissing (hrevised factsMissing (List.mem_append_right _ ?_) rfl)
    rw [if_neg hnot]
    exact List.mem_cons_self
  rw [hmaterialized] at hfacts
  exact ⟨inputs, hinputs, hpolicy, hinputIssues, hfacts⟩

/-- When the gate passes a snapshot, degraded or not, every required input is accounted for but
the market inputs that an accepted policy relaxes, and the facts are those of the snapshot. -/
theorem evaluate_sound {pyStr : Json → String} {result : QualityGateResult}
    (h : evaluate snapshot pyStr = .ok result)
    (hstatus : result.status = .passed ∨ result.status = .degraded) :
    (∀ id ∈ alwaysRequiredReportInputIds, ∃ fields, Accounted snapshot id fields) ∧
      (∀ id ∈ marketInputIdByRegion.map Prod.snd, ¬ RelaxedByPolicy snapshot id →
        ∃ fields, Accounted snapshot id fields) ∧
      ∃ facts factIds, FactsMaterialized snapshot facts factIds := by
  obtain ⟨inputs, hinputs, hpolicy, hissues, hfacts⟩ := evaluate_passed h hstatus
  obtain ⟨halways, hrequired⟩ := inputsForSnapshot_spec hinputs hpolicy
  refine ⟨?_, ?_, hasMaterializedFacts_spec hfacts⟩
  · intro id hid
    exact inputIssues_accounted (halways id hid) hissues
  · intro id hid hnot
    rcases hrequired id (List.mem_append_right _ hid) with hin | hrelaxed
    · exact inputIssues_accounted hin hissues
    · exact absurd hrelaxed hnot

end

/-! ### A regional holiday -/

/-- An entry of `input_quality` or of the regions. -/
def textFields (fields : List (String × String)) : List (String × Json) :=
  fields.map fun field => (field.1, .str field.2)

/-- The policy of 2024-07-04, when the market of the US is closed. -/
def independenceDayPolicy : Json :=
  let region (id marketInputId status : String) (required : Bool) : Json :=
    .obj (("market_input_required", .bool required) ::
      textFields [("region", id), ("market_input_id", marketInputId), ("status", status)])
  .obj
    [("report_date", .str "2024-07-04"), ("policy_id", .str reportDayPolicyId),
      ("calendar_version", .str "4.5"), ("day_type", .str "regional_holiday"),
      ("required_input_ids", .arr ((alwaysRequiredReportInputIds ++
        ["market.cn.core_indices.previous_close", "market.hk.core_indices.previous_close"]).map
          .str)),
      ("optional_input_ids", .arr [.str "market.us.core_indices.previous_close"]),
      ("regions", .arr
        [region "CN" "market.cn.core_indices.previous_close" "scheduled_session" true,
          region "HK" "market.hk.core_indices.previous_close" "scheduled_session" true,
          region "US" "market.us.core_indices.previous_close" "exchange_holiday" false])]

/-- The snapshot of that day: one input is revised, and that of the US is not there. -/
def independenceDaySnapshot : ReportInputSnapshot Json where
  snapshotId := "snapshot-1"
  snapshotVersion := "v1"
  reportDate := 19908
  asOf := 0
  cutoffAt := 0
  fingerprintSha256 := ""
  factIds := ["fact-1", "fact-2"]
  payload := .obj
    [("report_day_policy", independenceDayPolicy),
      ("input_quality", .obj
        [("news.cn.official_headlines_24h", .obj (textFields [("status", "available")])),
          ("news.hk.official_headlines_24h", .obj (textFields [("status", "denied")])),
          ("calendar.macro_releases_7d", .obj (textFields [("status", "available")])),
          ("market.cn.core_indices.previous_close", .obj
            [("status", .str "revised"), ("required", .bool true)]),
          ("market.hk.core_indices.previous_close", .obj (textFields [("status", "available")]))]),
      ("facts", .arr
        [.obj (textFields [("fact_id", "fact-2")]), .obj (textFields [("fact_id", "fact-1")])])]

/-- Independence Day, when the market of the United States is closed. -/
theorem evaluate_sound_holiday : ∃ result,
    evaluate independenceDaySnapshot (fun _ => "") = .ok result ∧ result.status = .degraded ∧
    (∀ id ∈ alwaysRequiredReportInputIds, ∃ fields, Accounted independenceDaySnapshot id fields) ∧
    (∀ id ∈ marketInputIdByRegion.map Prod.snd, ¬ RelaxedByPolicy independenceDaySnapshot id →
      ∃ fields, Accounted independenceDaySnapshot id fields) ∧
    ∃ facts factIds, FactsMaterialized independenceDaySnapshot facts factIds := by
  have hrun : (evaluate independenceDaySnapshot fun _ => "").toOption.map (·.status) =
      some .degraded := by
    decide +kernel
  cases h : evaluate independenceDaySnapshot fun _ => "" with
  | error e =>
    rw [h] at hrun
    cases hrun
  | ok result =>
    rw [h] at hrun
    have hstatus : result.status = .degraded := Option.some.inj hrun
    exact ⟨result, rfl, hstatus, evaluate_sound h (Or.inr hstatus)⟩

end MacroPlatform.Report
