import MacroPlatform.Lib.Audit
import MacroPlatform.Report.Contract

/-! # `ReportValidator`

The validator compares a candidate report with the persisted snapshot. It goes through the
sections with the findings so far and the source ids that it has looked up; the ids of a section
are a set, which it takes in any order.

* `validate_backed`: from the last finding back to the first, every test was passed;
* `validate_sound`: a candidate without errors is backed by the snapshot.
-/

namespace MacroPlatform.Report

open Daily

/-- What `datetime.fromisoformat` reads: a local time, and an offset from UTC when there is
one. -/
structure IsoDatetime where
  localTime : Instant
  utcoffset : Option ℤ
deriving DecidableEq

/-- The functions of the standard library that the services call. -/
structure Python where
  /-- `str(value)` of another value than a string. -/
  str : Json → String
  datetimeFromIsoformat : String → Option IsoDatetime
  dateFromIsoformat : String → Option Day
  /-- `Decimal(text)` when it is a finite number. -/
  decimal : String → Option ℚ
  /-- `Decimal(str(value))` of a float. -/
  decimalOfFloat : ℚ → ℚ
  /-- The offset of `Asia/Shanghai` from UTC at an instant. -/
  shanghaiOffset : Instant → ℤ
  /-- The order in which a loop takes the members of a set. -/
  setOrder : List String → List String
  mem_setOrder : ∀ s x, x ∈ setOrder s ↔ x ∈ s

variable (pydantic : Pydantic) (python : Python) (snapshot : ReportInputSnapshot Json)

/-! ## Values -/

/-- `value.replace("Z", "+00:00")`. -/
def replaceZ (value : String) : String :=
  String.ofList (value.toList.flatMap fun c => if c = 'Z' then "+00:00".toList else [c])

/-- `_parse_datetime`. -/
def parseDatetime (value : Json) : Option Instant := do
  let parsed ← python.datetimeFromIsoformat (replaceZ (← value.toStr?))
  some (parsed.localTime - (← parsed.utcoffset))

/-- `_parse_date`. -/
def parseDate (value : Json) : Option Day := do python.dateFromIsoformat (← value.toStr?)

/-- `isinstance(value, (int, float, Decimal))`. -/
def isNumber : Json → Bool
  | .bool _ => true
  | .int _ => true
  | .float _ => true
  | _ => false

/-- `Decimal(str(value))`; a bool is an `InvalidOperation`. -/
def toDecimal (value : Json) : Option ℚ :=
  match value with
  | .int n => some n
  | .float x => some (python.decimalOfFloat x)
  | .str s => python.decimal s
  | _ => none

/-- `_values_equal`. -/
def valuesEqual (left right : Json) : Bool :=
  if isNumber left ∧ (isNumber right ∨ right.toStr?.isSome) then
    match toDecimal python left, toDecimal python right with
    | some x, some y => x = y
    | _, _ => false
  else left.pyEq right

/-! ## Facts and sources of the snapshot -/

/-- The objects of a list of the payload. -/
def payloadObjects (key : String) : List Json :=
  match snapshot.payload.get key (.arr []) with
  | .arr items => items.filter fun item => item.toObj?.isSome
  | _ => []

/-- `_raw_facts`. -/
def rawFacts : List Json := payloadObjects snapshot "facts"

/-- `_raw_sources`. -/
def rawSources : List Json := payloadObjects snapshot "source_references"

/-- `_Fact`. -/
structure Fact where
  factId : String
  value : Json
  unit : Option String
  direction : Option String
  availableAt : Option Instant
  reportDate : Option Day
  periodStart : Option Day
  periodEnd : Option Day
  sourceRefIds : List String
  invalidAvailableAt : Bool
  invalidReportDate : Bool

/-- The strings of a list. -/
def stringsOf : Json → List String
  | .arr items => items.filterMap Json.toStr?
  | _ => []

/-- `value is not None`. -/
def isGiven : Json → Bool
  | .null => false
  | _ => true

def Fact.ofRaw (factId : String) (raw : Json) : Fact :=
  let availableAt := parseDatetime python (raw.get "available_at")
  let reportDate := parseDate python (raw.get "report_date")
  { factId
    value := raw.get "value"
    unit := (raw.get "unit").toStr?
    direction := (raw.get "direction").toStr?
    availableAt
    reportDate
    periodStart := parseDate python (raw.get "period_start")
    periodEnd := parseDate python (raw.get "period_end")
    sourceRefIds := stringsOf (raw.get "source_ref_ids" (.arr []))
    invalidAvailableAt := isGiven (raw.get "available_at") && availableAt.isNone
    invalidReportDate := isGiven (raw.get "report_date") && reportDate.isNone }

/-- The value of a key of a dict. -/
def lookup? {α : Type} (fields : List (String × α)) (key : String) : Option α :=
  (fields.find? fun field => field.1 = key).map Prod.snd

/-- `_load_facts`. -/
def loadFacts : List (String × Fact) :=
  Json.dict ((rawFacts snapshot).filterMap fun raw =>
    (raw.get "fact_id").toStr?.map fun factId => (factId, Fact.ofRaw python factId raw))

/-- What `_source_record` keeps: a null `external_llm_allowed` is left out. -/
def recordFields (values : List (String × Json)) : Json :=
  .obj (values.filter fun field => field.1 ≠ "external_llm_allowed" ∨ isGiven field.2)

/-- `_source_record` of a reference of the report. -/
def typedRecord (source : ReportSourceReference) : Json :=
  recordFields (source.modelDump pydantic)

/-- `_source_record` of a reference of the snapshot. -/
def rawRecord (raw : Json) : Json :=
  recordFields (["source_ref_id", "provider_id", "provider_record_id", "source_name",
    "source_url", "retrieved_at", "checksum_sha256", "external_llm_allowed"].map
      fun key => (key, raw.get key))

/-- `_load_source_records`. -/
def loadSourceRecords : List (String × Json) :=
  Json.dict ((rawSources snapshot).filterMap fun raw =>
    (raw.get "source_ref_id").toStr?.map fun sourceRefId => (sourceRefId, rawRecord raw))

/-- `snapshot_source_ids`. -/
def snapshotSourceIds : List String := (loadSourceRecords snapshot).map Prod.fst

/-! ## References of a section -/

/-- `_nested_reference_ids`. -/
def nestedReferenceIds (fieldName : String) (item : Json) : List String :=
  (Json.subvalues item).flatMap fun value => stringsOf (value.get fieldName)

/-- `_section_reference_ids(section, "source_ref_ids")`. -/
def sectionSourceIds (sect : SectionFields) : List String :=
  sect.sourceRefIds ++ sect.items.flatMap (nestedReferenceIds "source_ref_ids")

/-- `section_fact_ids`: with the facts of the claims. -/
def sectionFactIds (sect : SectionFields) : List String :=
  sect.factIds ++ sect.items.flatMap (nestedReferenceIds "fact_ids") ++
    sect.claims.map (·.factId)

/-! ## Issues -/

/-- An issue about a fact; the ids of an issue are stripped. -/
def factIssue (code message factId : String) : ReportValidationIssue :=
  { code, message, factId := some (modelStrip factId) }

/-- An issue about a source. -/
def sourceIssue (message sourceRefId : String) (code : String := "SOURCE_NOT_IN_SNAPSHOT") :
    ReportValidationIssue :=
  { code, message, sourceRefId := some (modelStrip sourceRefId) }

/-- The findings, and `checked_source_ids`. -/
structure Checks where
  issues : List ReportValidationIssue := []
  checked : List String := []

/-- `issues.append(issue)` when the test fails. -/
def Checks.unless (checks : Checks) (ok : Bool) (issue : ReportValidationIssue) : Checks :=
  if ok then checks else { checks with issues := checks.issues ++ [issue] }

/-- The loop of `_append_source_issues` for one id. -/
def lookUpSource (sourceIds : List String) (checks : Checks) (sourceRefId : String) : Checks :=
  { checks with checked := checks.checked ++ [sourceRefId] }.unless (sourceRefId ∈ sourceIds)
    (sourceIssue "source reference is not present in the approved input snapshot" sourceRefId)

/-- `_append_source_issues`. -/
def appendSourceIssues (sourceIds : List String) (checks : Checks) (sourceRefIds : List String) :
    Checks :=
  (sortedSet (sourceRefIds.filter (· ∉ checks.checked))).foldl (lookUpSource sourceIds) checks

/-- The tests of a fact that a section refers to. -/
def checkFact (sectionSources : List String) (checks : Checks) (factId : String) : Checks :=
  match lookup? (loadFacts python snapshot) factId with
  | none => checks.unless false (factIssue "FACT_NOT_MATERIALIZED"
      "fact ID is declared but its approved value is absent from the snapshot" factId)
  | some fact =>
    let checks := appendSourceIssues (snapshotSourceIds snapshot) checks fact.sourceRefIds
    let checks := checks.unless (!fact.invalidAvailableAt) (factIssue "FACT_AVAILABLE_AT_INVALID"
      "fact available_at must be a timezone-aware timestamp" factId)
    let checks := checks.unless (!fact.invalidReportDate) (factIssue "FACT_REPORT_DATE_INVALID"
      "fact report_date must be an ISO date" factId)
    let checks := checks.unless (∀ availableAt ∈ fact.availableAt, availableAt ≤ snapshot.cutoffAt)
      (factIssue "FACT_AFTER_CUTOFF" "fact became available after the snapshot cutoff" factId)
    let checks := checks.unless (∀ date ∈ fact.reportDate, date = snapshot.reportDate)
      (factIssue "FACT_DATE_MISMATCH" "fact report date does not match the report date" factId)
    checks.unless (∃ sourceRefId ∈ fact.sourceRefIds, sourceRefId ∈ sectionSources)
      (factIssue "FACT_UNCITED" "reported fact has no matching cited source reference" factId)

/-- The tests of a claim. -/
def checkClaim (checks : Checks) (claim : ReportClaim) : Checks :=
  match lookup? (loadFacts python snapshot) claim.factId with
  | none => checks.unless false (factIssue "CLAIM_FACT_NOT_FOUND"
      "machine-readable claim points to an unknown fact" claim.factId)
  | some fact =>
    let checks := checks.unless (valuesEqual python claim.value fact.value)
      (factIssue "FACT_VALUE_MISMATCH"
        "machine-readable claim value differs from the approved fact" claim.factId)
    let checks := checks.unless (claim.claimType ≠ .number ∨ claim.unit = fact.unit)
      (factIssue "FACT_UNIT_MISMATCH"
        "machine-readable claim unit differs from the approved fact" claim.factId)
    let checks := checks.unless (claim.claimType ≠ .direction ∨ claim.direction = fact.direction)
      (factIssue "FACT_DIRECTION_MISMATCH"
        "machine-readable claim direction differs from the approved fact" claim.factId)
    checks.unless ((claim.periodStart, claim.periodEnd) = (fact.periodStart, fact.periodEnd))
      (factIssue "FACT_PERIOD_MISMATCH"
        "machine-readable claim period differs from the approved fact" claim.factId)

/-- The loop over the sections for one of them. -/
def checkSection (checks : Checks) (sect : SectionFields) : Checks :=
  let sources := sectionSourceIds sect
  let checks := appendSourceIssues (snapshotSourceIds snapshot) checks sources
  let checks := (python.setOrder (sectionFactIds sect)).foldl
    (checkFact python snapshot sources) checks
  sect.claims.foldl (checkClaim python snapshot) checks

/-- The record of a source of the report against that of the snapshot. -/
def checkSource (checks : Checks) (source : ReportSourceReference) : Checks :=
  match lookup? (loadSourceRecords snapshot) source.sourceRefId with
  | none => checks.unless false
      (sourceIssue "source record is not present in the approved input snapshot"
        source.sourceRefId)
  | some record => checks.unless ((typedRecord pydantic source).pyEq record)
      (sourceIssue "report source metadata differs from the approved snapshot" source.sourceRefId
        "SOURCE_RECORD_MISMATCH")

/-- `identity_mismatches`. -/
def identityMismatches (ref : ReportInputSnapshotRef) : List String :=
  (if ref.snapshotId = snapshot.snapshotId then [] else ["snapshot_id"]) ++
    (if ref.snapshotVersion = snapshot.snapshotVersion then [] else ["snapshot_version"]) ++
    (if ref.asOf.instant = snapshot.asOf then [] else ["as_of"]) ++
    (if ref.cutoffAt.instant = snapshot.cutoffAt then [] else ["cutoff_at"]) ++
    (if ref.fingerprintSha256 = snapshot.fingerprintSha256 then [] else ["fingerprint_sha256"]) ++
    if ref.factIds = snapshot.factIds then [] else ["fact_ids"]

/-- The tests of the identity of the report, which come first. -/
def checkIdentity (report : StoredDailyReport Json) (typed : ReportFields) : Checks :=
  let about (code message : String) : ReportValidationIssue :=
    { code, message, inputId := some (modelStrip snapshot.snapshotId) }
  let checks : Checks := {}
  let checks := checks.unless (report.reportDate = snapshot.reportDate)
    (about "REPORT_DATE_MISMATCH" "report date does not match the persisted input snapshot")
  let checks := checks.unless (report.inputSnapshotId = snapshot.snapshotId)
    (about "SNAPSHOT_ID_MISMATCH" "report references a different input snapshot")
  let mismatches := identityMismatches snapshot typed.inputSnapshot
  let checks := checks.unless (mismatches = [])
    (about "SNAPSHOT_IDENTITY_MISMATCH"
      ("report input_snapshot differs from the persisted snapshot: " ++
        ", ".intercalate mismatches))
  checks.unless (typed.status ≠ .incomplete)
    { code := "REPORT_INCOMPLETE"
      message := "incomplete reports cannot reach publishable state" }

/-- A `ValidationError`, which is a `ValueError`. -/
def validationError (message : String) : PythonError :=
  { name := "ValidationError", bases := ["ValueError"], message }

/-- `_validation_issue`: the texts of an issue are stripped, and two of them are not empty. -/
def validationIssue (issue : QualityGateIssue) : Except PythonError ReportValidationIssue :=
  if modelStrip issue.code = "" ∨ modelStrip issue.message = "" then
    .error (validationError "String should have at least 1 character")
  else .ok
    { code := modelStrip issue.code
      message := modelStrip issue.message
      severity := if issue.required = false ∨ startsWith "REVISED_" issue.code then .warning
        else .error
      inputId := some (modelStrip issue.inputId) }

/-- `_quality_issues`. -/
def qualityIssues : Except PythonError (List ReportValidationIssue) := do
  (← evaluate snapshot python.str).issues.mapM validationIssue

/-- `ReportValidator.validate`: the issues of the result. -/
def validate (report : StoredDailyReport Json) :
    Except PythonError (List ReportValidationIssue) :=
  match DailyReport.modelValidate pydantic report.payload with
  | none => .ok
      [{ code := "REPORT_CONTRACT_INVALID"
         message := modelStrip (pydantic.errorText report.payload) }]
  | some typed => do
    let checks := checkIdentity snapshot report typed.toReportFields
    let quality ← qualityIssues python snapshot
    let checks := { checks with issues := checks.issues ++ quality }
    let checks := ((typed.sources? pydantic).getD []).foldl (checkSource pydantic snapshot) checks
    let checks := (typed.sections.map fun entry => entry.2.toSectionFields).foldl
      (checkSection python snapshot) checks
    .ok checks.issues

/-! ## What a report without errors satisfies -/

/-- A reference in a dict at any depth of a value. -/
def NestedIn (fieldName id : String) (item : Json) : Prop :=
  ∃ dict references, Json.Inside dict item ∧ dict.get fieldName = .arr references ∧
    .str id ∈ references

/-- A section uses a fact: in `fact_ids`, nested in an item, or in a claim. -/
def UsesFact (sect : SectionFields) (factId : String) : Prop :=
  factId ∈ sect.factIds ∨ (∃ item ∈ sect.items, NestedIn "fact_ids" factId item) ∨
    ∃ claim ∈ sect.claims, claim.factId = factId

/-- A section cites a source: in `source_ref_ids`, or nested in an item. -/
def CitesSource (sect : SectionFields) (sourceRefId : String) : Prop :=
  sourceRefId ∈ sect.sourceRefIds ∨
    ∃ item ∈ sect.items, NestedIn "source_ref_ids" sourceRefId item

/-- A fact of the snapshot that a section may use. -/
structure FactBacked (sect : SectionFields) (raw : Json) : Prop where
  sources : ∀ sourceRefId ∈ stringsOf (raw.get "source_ref_ids" (.arr [])),
    ∃ source ∈ rawSources snapshot, source.get "source_ref_id" = .str sourceRefId
  cited : ∃ sourceRefId ∈ stringsOf (raw.get "source_ref_ids" (.arr [])),
    CitesSource sect sourceRefId
  availableAt : raw.get "available_at" ≠ .null → ∃ availableAt,
    parseDatetime python (raw.get "available_at") = some availableAt ∧
      availableAt ≤ snapshot.cutoffAt
  reportDate : raw.get "report_date" ≠ .null →
    parseDate python (raw.get "report_date") = some snapshot.reportDate

/-- A claim that says what its fact says. -/
structure ClaimAgrees (claim : ReportClaim) (raw : Json) : Prop where
  value : valuesEqual python claim.value (raw.get "value") = true
  unit : claim.claimType = .number → claim.unit = (raw.get "unit").toStr?
  direction : claim.claimType = .direction → claim.direction = (raw.get "direction").toStr?
  period : claim.periodStart = parseDate python (raw.get "period_start") ∧
    claim.periodEnd = parseDate python (raw.get "period_end")

/-- The snapshot that a report names is the persisted one. -/
structure SameSnapshot (report : StoredDailyReport Json) (ref : ReportInputSnapshotRef) :
    Prop where
  reportDate : report.reportDate = snapshot.reportDate
  inputSnapshotId : report.inputSnapshotId = snapshot.snapshotId
  snapshotId : ref.snapshotId = snapshot.snapshotId
  snapshotVersion : ref.snapshotVersion = snapshot.snapshotVersion
  asOf : ref.asOf.instant = snapshot.asOf
  cutoffAt : ref.cutoffAt.instant = snapshot.cutoffAt
  fingerprint : ref.fingerprintSha256 = snapshot.fingerprintSha256
  factIds : ref.factIds = snapshot.factIds

/-- A section of which every fact and every claim is that of the snapshot. -/
structure SectionBacked (sect : SectionFields) : Prop where
  materialized : ∀ factId, UsesFact sect factId →
    ∃ raw ∈ rawFacts snapshot, raw.get "fact_id" = .str factId
  facts : ∀ factId, UsesFact sect factId → ∀ raw ∈ rawFacts snapshot,
    raw.get "fact_id" = .str factId → FactBacked python snapshot sect raw
  claims : ∀ claim ∈ sect.claims, ∀ raw ∈ rawFacts snapshot,
    raw.get "fact_id" = .str claim.factId → ClaimAgrees python claim raw

/-- What a report without errors is. -/
structure Validated (report : StoredDailyReport Json) (typed : DailyReport pydantic) : Prop where
  identity : SameSnapshot snapshot report typed.inputSnapshot
  complete : typed.status ≠ .incomplete
  gate : ∃ result, evaluate snapshot python.str = .ok result ∧
    (result.status = .passed ∨ result.status = .degraded)
  sections : ∀ entry ∈ typed.sections, SectionBacked python snapshot entry.2.toSectionFields
  sources : ∃ sources, typed.sources? pydantic = some sources ∧ ∀ source ∈ sources,
    ∃ record, lookup? (loadSourceRecords snapshot) source.sourceRefId = some record ∧
      (typedRecord pydantic source).pyEq record = true

section

variable {pydantic : Pydantic} {python : Python} {snapshot : ReportInputSnapshot Json}

/-! ### References -/

/-- A text of a list. -/
theorem mem_stringsOf {value : Json} {s : String} :
    s ∈ stringsOf value ↔ ∃ items, value = .arr items ∧ .str s ∈ items := by
  cases value with
  | arr items =>
    simp only [stringsOf, List.mem_filterMap, toStr?_eq_some]
    constructor
    · rintro ⟨item, hmem, rfl⟩
      exact ⟨items, rfl, hmem⟩
    · rintro ⟨_, heq, hmem⟩
      cases heq
      exact ⟨_, hmem, rfl⟩
  | _ => simp [stringsOf]

theorem mem_nestedReferenceIds {fieldName id : String} {item : Json} :
    id ∈ nestedReferenceIds fieldName item ↔ NestedIn fieldName id item := by
  unfold nestedReferenceIds NestedIn
  simp only [List.mem_flatMap, mem_stringsOf, Json.mem_subvalues]
  constructor
  · rintro ⟨dict, hinside, references, hget, hmem⟩
    exact ⟨dict, references, hinside, hget, hmem⟩
  · rintro ⟨dict, references, hinside, hget, hmem⟩
    exact ⟨dict, hinside, references, hget, hmem⟩

theorem mem_sectionFactIds {sect : SectionFields} {factId : String} :
    factId ∈ sectionFactIds sect ↔ UsesFact sect factId := by
  unfold sectionFactIds UsesFact
  simp only [List.mem_append, List.mem_flatMap, mem_nestedReferenceIds, List.mem_map, or_assoc]

theorem mem_sectionSourceIds {sect : SectionFields} {sourceRefId : String} :
    sourceRefId ∈ sectionSourceIds sect ↔ CitesSource sect sourceRefId := by
  unfold sectionSourceIds CitesSource
  simp only [List.mem_append, List.mem_flatMap, mem_nestedReferenceIds]

/-! ### The checks, one by one -/

/-- No finding is an error. -/
def Checks.Clean (checks : Checks) : Prop := ∀ issue ∈ checks.issues, issue.severity ≠ .error

/-- The ids that were looked up are among the sources. -/
def Checks.Known (sourceIds : List String) (checks : Checks) : Prop :=
  ∀ sourceRefId ∈ checks.checked, sourceRefId ∈ sourceIds

theorem unless_checked (checks : Checks) (ok : Bool) (issue : ReportValidationIssue) :
    (checks.unless ok issue).checked = checks.checked := by
  unfold Checks.unless
  split <;> rfl

theorem unless_known {sourceIds : List String} {checks : Checks} {ok : Bool}
    {issue : ReportValidationIssue} :
    (checks.unless ok issue).Known sourceIds ↔ checks.Known sourceIds := by
  unfold Checks.Known
  rw [unless_checked]

/-- A test that was made without a finding is passed. -/
theorem unless_clean {checks : Checks} {ok : Bool} {issue : ReportValidationIssue}
    (hissue : issue.severity = .error) (h : (checks.unless ok issue).Clean) :
    checks.Clean ∧ ok = true := by
  unfold Checks.unless at h
  cases ok with
  | true => exact ⟨h, rfl⟩
  | false =>
    have hmem : issue ∈ checks.issues ++ [issue] := by simp
    exact absurd hissue (h issue hmem)

/-- A clean look-up knows the source. -/
theorem lookUpSource_sound {sourceIds : List String} (checks : Checks) (sourceRefId : String)
    (h : (lookUpSource sourceIds checks sourceRefId).Clean) :
    checks.Clean ∧ (checks.Known sourceIds →
      (lookUpSource sourceIds checks sourceRefId).Known sourceIds ∧ sourceRefId ∈ sourceIds) := by
  obtain ⟨hbefore, hmem⟩ := unless_clean rfl h
  refine ⟨hbefore, ?_⟩
  intro hknown
  have hsource : sourceRefId ∈ sourceIds := of_decide_eq_true hmem
  refine ⟨unless_known.mpr ?_, hsource⟩
  intro other hother
  rcases List.mem_append.mp hother with hold | hnew
  · exact hknown other hold
  · exact List.mem_singleton.mp hnew ▸ hsource

/-- An id that is not looked up now was looked up before. -/
theorem appendSourceIssues_sound {sourceIds sourceRefIds : List String} {checks : Checks}
    (h : (appendSourceIssues sourceIds checks sourceRefIds).Clean) :
    checks.Clean ∧ (checks.Known sourceIds →
      (appendSourceIssues sourceIds checks sourceRefIds).Known sourceIds ∧
        ∀ sourceRefId ∈ sourceRefIds, sourceRefId ∈ sourceIds) := by
  obtain ⟨hclean, hsound⟩ := Audit.foldl_sound lookUpSource_sound h
  refine ⟨hclean, ?_⟩
  intro hknown
  obtain ⟨hlast, hall⟩ := hsound hknown
  refine ⟨hlast, ?_⟩
  intro sourceRefId hmem
  by_cases hchecked : sourceRefId ∈ checks.checked
  · exact hknown sourceRefId hchecked
  · refine hall sourceRefId (mem_sortedSet.mpr (List.mem_filter.mpr ⟨hmem, ?_⟩))
    exact decide_eq_true hchecked

/-- A loaded fact that passes the tests of a section. -/
structure FactPasses (snapshot : ReportInputSnapshot Json) (sectionSources : List String)
    (fact : Fact) : Prop where
  sources : ∀ sourceRefId ∈ fact.sourceRefIds, sourceRefId ∈ snapshotSourceIds snapshot
  validAvailableAt : fact.invalidAvailableAt = false
  validReportDate : fact.invalidReportDate = false
  availableAt : ∀ availableAt ∈ fact.availableAt, availableAt ≤ snapshot.cutoffAt
  reportDate : ∀ date ∈ fact.reportDate, date = snapshot.reportDate
  cited : ∃ sourceRefId ∈ fact.sourceRefIds, sourceRefId ∈ sectionSources

/-- A clean check of a fact means that it passes. -/
theorem checkFact_sound {sectionSources : List String} (checks : Checks) (factId : String)
    (h : (checkFact python snapshot sectionSources checks factId).Clean) :
    checks.Clean ∧ (checks.Known (snapshotSourceIds snapshot) →
      (checkFact python snapshot sectionSources checks factId).Known
        (snapshotSourceIds snapshot) ∧
      ∃ fact, lookup? (loadFacts python snapshot) factId = some fact ∧
        FactPasses snapshot sectionSources fact) := by
  unfold checkFact at h ⊢
  cases hfact : lookup? (loadFacts python snapshot) factId with
  | none =>
    rw [hfact] at h
    exact absurd (unless_clean rfl h).2 Bool.false_ne_true
  | some fact =>
    rw [hfact] at h
    simp only at h ⊢
    -- the tests from the last to the first
    obtain ⟨h, hcited⟩ := unless_clean rfl h
    obtain ⟨h, hdate⟩ := unless_clean rfl h
    obtain ⟨h, hat⟩ := unless_clean rfl h
    obtain ⟨h, hvalidDate⟩ := unless_clean rfl h
    obtain ⟨h, hvalidAt⟩ := unless_clean rfl h
    obtain ⟨hclean, hsources⟩ := appendSourceIssues_sound h
    refine ⟨hclean, ?_⟩
    intro hknown
    obtain ⟨hlast, hall⟩ := hsources hknown
    simp only [unless_known]
    refine ⟨hlast, fact, rfl, ?_⟩
    exact
      { sources := hall
        validAvailableAt := by simpa using hvalidAt
        validReportDate := by simpa using hvalidDate
        availableAt := of_decide_eq_true hat
        reportDate := of_decide_eq_true hdate
        cited := of_decide_eq_true hcited }

/-- A claim that agrees with its loaded fact. -/
structure ClaimPasses (python : Python) (claim : ReportClaim) (fact : Fact) : Prop where
  value : valuesEqual python claim.value fact.value = true
  unit : claim.claimType = .number → claim.unit = fact.unit
  direction : claim.claimType = .direction → claim.direction = fact.direction
  period : claim.periodStart = fact.periodStart ∧ claim.periodEnd = fact.periodEnd

/-- So for a claim. -/
theorem checkClaim_sound (checks : Checks) (claim : ReportClaim)
    (h : (checkClaim python snapshot checks claim).Clean) :
    checks.Clean ∧ (checks.Known (snapshotSourceIds snapshot) →
      (checkClaim python snapshot checks claim).Known (snapshotSourceIds snapshot) ∧
      ∃ fact, lookup? (loadFacts python snapshot) claim.factId = some fact ∧
        ClaimPasses python claim fact) := by
  unfold checkClaim at h ⊢
  cases hfact : lookup? (loadFacts python snapshot) claim.factId with
  | none =>
    rw [hfact] at h
    exact absurd (unless_clean rfl h).2 Bool.false_ne_true
  | some fact =>
    rw [hfact] at h
    simp only at h ⊢
    obtain ⟨h, hperiod⟩ := unless_clean rfl h
    obtain ⟨h, hdirection⟩ := unless_clean rfl h
    obtain ⟨h, hunit⟩ := unless_clean rfl h
    obtain ⟨hclean, hvalue⟩ := unless_clean rfl h
    refine ⟨hclean, ?_⟩
    intro hknown
    simp only [unless_known]
    refine ⟨hknown, fact, rfl, ?_⟩
    have hunit := of_decide_eq_true hunit
    have hdirection := of_decide_eq_true hdirection
    exact
      { value := hvalue
        unit := fun htype => hunit.resolve_left (not_not.mpr htype)
        direction := fun htype => hdirection.resolve_left (not_not.mpr htype)
        period := Prod.mk.inj (of_decide_eq_true hperiod) }

/-- What the tests of a section say. -/
structure SectionPasses (python : Python) (snapshot : ReportInputSnapshot Json)
    (sect : SectionFields) : Prop where
  facts : ∀ factId, UsesFact sect factId → ∃ fact,
    lookup? (loadFacts python snapshot) factId = some fact ∧
      FactPasses snapshot (sectionSourceIds sect) fact
  claims : ∀ claim ∈ sect.claims, ∃ fact,
    lookup? (loadFacts python snapshot) claim.factId = some fact ∧ ClaimPasses python claim fact

/-- So for a section. -/
theorem checkSection_sound (checks : Checks) (sect : SectionFields)
    (h : (checkSection python snapshot checks sect).Clean) :
    checks.Clean ∧ (checks.Known (snapshotSourceIds snapshot) →
      (checkSection python snapshot checks sect).Known (snapshotSourceIds snapshot) ∧
        SectionPasses python snapshot sect) := by
  unfold checkSection at h ⊢
  obtain ⟨hfactsClean, hclaims⟩ := Audit.foldl_sound checkClaim_sound h
  obtain ⟨hsourcesClean, hfacts⟩ := Audit.foldl_sound checkFact_sound hfactsClean
  obtain ⟨hclean, hsources⟩ := appendSourceIssues_sound hsourcesClean
  refine ⟨hclean, ?_⟩
  intro hknown
  obtain ⟨hknown, -⟩ := hsources hknown
  obtain ⟨hknown, hallFacts⟩ := hfacts hknown
  obtain ⟨hknown, hallClaims⟩ := hclaims hknown
  refine ⟨hknown, ?_, hallClaims⟩
  intro factId huses
  refine hallFacts factId ?_
  rw [python.mem_setOrder]
  exact mem_sectionFactIds.mpr huses

/-- And for a source. -/
theorem checkSource_sound (checks : Checks) (source : ReportSourceReference)
    (h : (checkSource pydantic snapshot checks source).Clean) :
    checks.Clean ∧ (checks.Known (snapshotSourceIds snapshot) →
      (checkSource pydantic snapshot checks source).Known (snapshotSourceIds snapshot) ∧
      ∃ record, lookup? (loadSourceRecords snapshot) source.sourceRefId = some record ∧
        (typedRecord pydantic source).pyEq record = true) := by
  unfold checkSource at h ⊢
  cases hrecord : lookup? (loadSourceRecords snapshot) source.sourceRefId with
  | none =>
    rw [hrecord] at h
    exact absurd (unless_clean rfl h).2 Bool.false_ne_true
  | some record =>
    rw [hrecord] at h
    obtain ⟨hclean, heq⟩ := unless_clean rfl h
    refine ⟨hclean, ?_⟩
    intro hknown
    exact ⟨unless_known.mpr hknown, record, rfl, heq⟩

/-! ### Loading -/

theorem mem_of_lookup?_dict {α : Type} {pairs : List (String × α)} {key : String} {value : α}
    (h : lookup? (Json.dict pairs) key = some value) : (key, value) ∈ pairs := by
  unfold lookup? at h
  obtain ⟨pair, hpair, rfl⟩ := Option.map_eq_some_iff.mp h
  obtain ⟨hmem, rfl⟩ := Json.mem_of_find?_dict hpair
  exact hmem

/-- A loaded fact is a fact of the payload. -/
theorem mem_loadFacts {factId : String} {fact : Fact}
    (h : lookup? (loadFacts python snapshot) factId = some fact) :
    ∃ raw ∈ rawFacts snapshot, raw.get "fact_id" = .str factId ∧
      fact = Fact.ofRaw python factId raw := by
  obtain ⟨raw, hraw, hpair⟩ := List.mem_filterMap.mp (mem_of_lookup?_dict h)
  obtain ⟨id, hid, heq⟩ := Option.map_eq_some_iff.mp hpair
  cases heq
  exact ⟨raw, hraw, toStr?_eq_some.mp hid, rfl⟩

theorem mem_snapshotSourceIds {sourceRefId : String}
    (h : sourceRefId ∈ snapshotSourceIds snapshot) :
    ∃ source ∈ rawSources snapshot, source.get "source_ref_id" = .str sourceRefId := by
  unfold snapshotSourceIds loadSourceRecords at h
  obtain ⟨pair, hpair, rfl⟩ := List.mem_map.mp (Json.mem_keys_dict.mp h)
  obtain ⟨source, hsource, hfound⟩ := List.mem_filterMap.mp hpair
  obtain ⟨id, hid, rfl⟩ := Option.map_eq_some_iff.mp hfound
  exact ⟨source, hsource, toStr?_eq_some.mp hid⟩

theorem mem_materialized {facts : List Json} {factIds : List String}
    (h : FactsMaterialized snapshot facts factIds) {raw : Json} (hraw : raw ∈ rawFacts snapshot) :
    raw ∈ facts := by
  have hpayload : snapshot.payload.get "facts" (.arr []) = .arr facts := by
    rcases snapshot.payload.get_default "facts" (.arr []) with hkey | ⟨hnull, -⟩
    · rw [hkey, h.payload]
    · rw [h.payload] at hnull
      cases hnull
  unfold rawFacts payloadObjects at hraw
  rw [hpayload] at hraw
  exact (List.mem_filter.mp hraw).1

/-- No two facts of a materialized snapshot have the same id. -/
theorem rawFacts_unique {facts : List Json} {factIds : List String}
    (h : FactsMaterialized snapshot facts factIds) {raw other : Json}
    (hraw : raw ∈ rawFacts snapshot) (hother : other ∈ rawFacts snapshot)
    (hid : raw.get "fact_id" = other.get "fact_id") : raw = other := by
  have hnodup : (facts.map (·.get "fact_id")).Nodup := by
    rw [h.ids]
    exact h.distinct.map fun a b hab => Json.str.inj hab
  exact List.inj_on_of_nodup_map hnodup (mem_materialized h hraw) (mem_materialized h hother) hid

theorem rawFacts_id {facts : List Json} {factIds : List String}
    (h : FactsMaterialized snapshot facts factIds) {raw : Json} (hraw : raw ∈ rawFacts snapshot) :
    ∃ factId, raw.get "fact_id" = .str factId := by
  have hmem : raw.get "fact_id" ∈ facts.map (·.get "fact_id") :=
    List.mem_map_of_mem (mem_materialized h hraw)
  rw [h.ids] at hmem
  obtain ⟨factId, -, hid⟩ := List.mem_map.mp hmem
  exact ⟨factId, hid.symm⟩

/-! ### The gate and the identity -/

theorem startsWith_revised {code : String} (h : startsWith "REVISED_" code = true) :
    startsWith "RETRYABLE_" code = false := by
  by_contra hnot
  have hretryable := Bool.eq_true_of_not_eq_false hnot
  unfold startsWith at h hretryable
  rw [List.isPrefixOf_iff_prefix] at h hretryable
  rcases List.prefix_or_prefix_of_prefix h hretryable with hprefix | hprefix
  · exact absurd hprefix (by decide +kernel)
  · exact absurd hprefix (by decide +kernel)

/-- Issues that do not block leave a report passed or degraded. -/
theorem decision_usable {issues : List QualityGateIssue}
    (h : ∀ issue ∈ issues, issue.required = true → startsWith "REVISED_" issue.code = true) :
    decision issues = .passed ∨ decision issues = .degraded := by
  unfold decision
  -- a required issue is a revision, so it neither blocks nor is retried
  have hblocked : (issues.any fun issue => issue.required &&
      !(startsWith "RETRYABLE_" issue.code || startsWith "REVISED_" issue.code)) = false := by
    rw [List.any_eq_false]
    intro issue hissue
    cases hrequired : issue.required with
    | false => simp
    | true => simp [h issue hissue hrequired]
  have hretryable : (issues.any fun issue =>
      issue.required && startsWith "RETRYABLE_" issue.code) = false := by
    rw [List.any_eq_false]
    intro issue hissue
    cases hrequired : issue.required with
    | false => simp
    | true => simp [startsWith_revised (h issue hissue hrequired)]
  rw [hblocked, hretryable]
  -- what is left is whether there is an issue at all
  by_cases hnone : issues = []
  · exact Or.inl (if_pos hnone)
  · exact Or.inr (if_neg hnone)

/-- Without errors the gate has passed the snapshot, or degraded it. -/
theorem qualityIssues_clean {issues : List ReportValidationIssue}
    (h : qualityIssues python snapshot = .ok issues)
    (hclean : ∀ issue ∈ issues, issue.severity ≠ .error) :
    ∃ result, evaluate snapshot python.str = .ok result ∧
      (result.status = .passed ∨ result.status = .degraded) := by
  obtain ⟨result, hresult, hmap⟩ := Raising.bind_ok.mp h
  refine ⟨result, hresult, ?_⟩
  have hstatus : result.status = decision result.issues := by
    obtain ⟨inputs, -, hrest⟩ := Raising.bind_ok.mp hresult
    obtain ⟨materialized, -, heq⟩ := Raising.bind_ok.mp hrest
    cases heq
    rfl
  rw [hstatus]
  refine decision_usable ?_
  intro issue hissue hrequired
  obtain ⟨found, hfound, hmem⟩ := Raising.exists_of_mapM_ok hmap hissue
  unfold validationIssue at hmem
  split at hmem
  · cases hmem
  · cases hmem
    have hseverity := hclean _ hfound
    by_contra hnot
    simp [hrequired, hnot] at hseverity

/-- A clean check of the identity means that the report is of this snapshot. -/
theorem checkIdentity_sound {report : StoredDailyReport Json} {typed : ReportFields}
    (h : (checkIdentity snapshot report typed).Clean) :
    SameSnapshot snapshot report typed.inputSnapshot ∧ typed.status ≠ .incomplete := by
  unfold checkIdentity at h
  simp only at h
  obtain ⟨h, hstatus⟩ := unless_clean rfl h
  obtain ⟨h, hidentity⟩ := unless_clean rfl h
  obtain ⟨h, hsnapshotId⟩ := unless_clean rfl h
  obtain ⟨-, hdate⟩ := unless_clean rfl h
  have hidentity := of_decide_eq_true hidentity
  unfold identityMismatches at hidentity
  simp only [List.append_eq_nil_iff, ite_eq_left_iff, List.cons_ne_nil, imp_false,
    not_not] at hidentity
  obtain ⟨⟨⟨⟨⟨hid, hversion⟩, hasOf⟩, hcutoff⟩, hfingerprint⟩, hfactIds⟩ := hidentity
  refine ⟨?_, of_decide_eq_true hstatus⟩
  exact
    { reportDate := of_decide_eq_true hdate
      inputSnapshotId := of_decide_eq_true hsnapshotId
      snapshotId := hid
      snapshotVersion := hversion
      asOf := hasOf
      cutoffAt := hcutoff
      fingerprint := hfingerprint
      factIds := hfactIds }

theorem checkIdentity_checked (report : StoredDailyReport Json) (typed : ReportFields) :
    (checkIdentity snapshot report typed).checked = [] := by
  unfold checkIdentity
  simp only [unless_checked]

/-! ### The whole report -/

theorem isGiven_iff {value : Json} : isGiven value = true ↔ value ≠ .null := by
  cases value <;> simp [isGiven]

/-- A value that is given and not marked invalid was parsed. -/
theorem parsed_of_valid {α : Type} {value : Json} {parsed : Option α} (hgiven : value ≠ .null)
    (hvalid : (isGiven value && parsed.isNone) = false) : ∃ a, parsed = some a := by
  rw [isGiven_iff.mpr hgiven, Bool.true_and] at hvalid
  cases parsed with
  | none => cases hvalid
  | some a => exact ⟨a, rfl⟩

/-- What a loaded fact passes, the fact of the payload passes. -/
theorem FactPasses.backed {sect : SectionFields} {factId : String} {raw : Json}
    (h : FactPasses snapshot (sectionSourceIds sect) (Fact.ofRaw python factId raw)) :
    FactBacked python snapshot sect raw := by
  obtain ⟨sourceRefId, hmem, hcited⟩ := h.cited
  exact
    { sources := fun id hid => mem_snapshotSourceIds (h.sources id hid)
      cited := ⟨sourceRefId, hmem, mem_sectionSourceIds.mp hcited⟩
      availableAt := by
        intro hgiven
        obtain ⟨availableAt, hparsed⟩ := parsed_of_valid hgiven h.validAvailableAt
        exact ⟨availableAt, hparsed, h.availableAt availableAt hparsed⟩
      reportDate := by
        intro hgiven
        obtain ⟨date, hparsed⟩ := parsed_of_valid hgiven h.validReportDate
        rw [hparsed, h.reportDate date hparsed] }

/-- A section that passes is backed by the facts of the snapshot. -/
theorem SectionPasses.backed {sect : SectionFields} {facts : List Json} {factIds : List String}
    (hfacts : FactsMaterialized snapshot facts factIds)
    (h : SectionPasses python snapshot sect) : SectionBacked python snapshot sect where
  materialized factId huses := by
    obtain ⟨fact, hfact, -⟩ := h.facts factId huses
    obtain ⟨raw, hraw, hid, -⟩ := mem_loadFacts hfact
    exact ⟨raw, hraw, hid⟩
  facts factId huses raw hraw hid := by
    obtain ⟨fact, hfact, hpasses⟩ := h.facts factId huses
    obtain ⟨other, hother, hotherId, rfl⟩ := mem_loadFacts hfact
    have hsame := rawFacts_unique hfacts hraw hother (hid.trans hotherId.symm)
    rw [hsame]
    exact hpasses.backed
  claims claim hclaim raw hraw hid := by
    obtain ⟨fact, hfact, hpasses⟩ := h.claims claim hclaim
    obtain ⟨other, hother, hotherId, rfl⟩ := mem_loadFacts hfact
    have hsame := rawFacts_unique hfacts hraw hother (hid.trans hotherId.symm)
    rw [hsame]
    exact ⟨hpasses.value, hpasses.unit, hpasses.direction, hpasses.period⟩

/-- From the last finding back to the first, each test of the validator was passed. -/
theorem validate_backed {report : StoredDailyReport Json} {issues : List ReportValidationIssue}
    (h : validate pydantic python snapshot report = .ok issues)
    (hclean : ∀ issue ∈ issues, issue.severity ≠ .error) :
    ∃ typed, DailyReport.modelValidate pydantic report.payload = some typed ∧
      Validated pydantic python snapshot report typed := by
  unfold validate at h
  cases htyped : DailyReport.modelValidate pydantic report.payload with
  | none =>
    rw [htyped] at h
    cases h
    exact absurd rfl (hclean _ List.mem_cons_self)
  | some typed =>
    rw [htyped] at h
    obtain ⟨quality, hquality, hissues⟩ := Raising.bind_ok.mp h
    have hend := Except.ok.inj hissues
    have hsectionsClean : ((typed.sections.map fun entry => entry.2.toSectionFields).foldl
        (checkSection python snapshot) (((typed.sources? pydantic).getD []).foldl
          (checkSource pydantic snapshot)
          { checkIdentity snapshot report typed.toReportFields with
            issues := (checkIdentity snapshot report typed.toReportFields).issues ++
              quality })).Clean := by
      intro issue hissue
      rw [hend] at hissue
      exact hclean issue hissue
    obtain ⟨hsourcesClean, hsections⟩ := Audit.foldl_sound checkSection_sound hsectionsClean
    obtain ⟨hstartClean, hsources⟩ := Audit.foldl_sound checkSource_sound hsourcesClean
    have hidentityClean : (checkIdentity snapshot report typed.toReportFields).Clean := by
      intro issue hissue
      exact hstartClean issue (List.mem_append_left _ hissue)
    obtain ⟨hidentity, hcomplete⟩ := checkIdentity_sound hidentityClean
    obtain ⟨result, hresult, hstatus⟩ := qualityIssues_clean hquality fun issue hissue =>
      hstartClean issue (List.mem_append_right _ hissue)
    obtain ⟨-, -, -, -, hmaterialized⟩ := evaluate_passed hresult hstatus
    obtain ⟨facts, factIds, hfacts⟩ := hasMaterializedFacts_spec hmaterialized
    have hstart : Checks.Known (snapshotSourceIds snapshot)
        { checkIdentity snapshot report typed.toReportFields with
          issues := (checkIdentity snapshot report typed.toReportFields).issues ++ quality } := by
      intro sourceRefId hchecked
      have hmem : sourceRefId ∈ (checkIdentity snapshot report typed.toReportFields).checked :=
        hchecked
      rw [checkIdentity_checked] at hmem
      exact absurd hmem List.not_mem_nil
    obtain ⟨hknown, hallSources⟩ := hsources hstart
    obtain ⟨-, hallSections⟩ := hsections hknown
    refine ⟨typed, rfl, ?_⟩
    obtain ⟨sources, hread, -⟩ := typed.references.sources
    have hread : typed.sources? pydantic = some sources := hread
    rw [hread] at hallSources
    exact
      { identity := hidentity
        complete := hcomplete
        gate := ⟨result, hresult, hstatus⟩
        sections := by
          intro entry hentry
          exact (hallSections _ (List.mem_map_of_mem hentry)).backed hfacts
        sources := ⟨sources, hread, hallSources⟩ }

/-- A candidate that the validator finds no error in is backed by the persisted snapshot in
every section, however deep a reference is. -/
theorem validate_sound {report : StoredDailyReport Json} {issues : List ReportValidationIssue}
    (h : validate pydantic python snapshot report = .ok issues)
    (hclean : ∀ issue ∈ issues, issue.severity ≠ .error) :
    ∃ typed, DailyReport.modelValidate pydantic report.payload = some typed ∧
      Validated pydantic python snapshot report typed :=
  validate_backed h hclean

end

/-! ### A report of one fact -/

def Python.plain : Python where
  str _ := ""
  datetimeFromIsoformat value := do
    match ← isoLocal? value.toList with
    | (localTime, []) => some ⟨localTime, none⟩
    | (localTime, ['+', '0', '0', ':', '0', '0']) => some ⟨localTime, some 0⟩
    | _ => none
  dateFromIsoformat value := isoDate? value.toList
  decimal value := (digits? value.toList).map fun n => (n : ℚ)
  decimalOfFloat := id
  shanghaiOffset _ := 8 * 3600 * 1000000
  setOrder := id
  mem_setOrder _ _ := Iff.rfl

/-- A dict of strings. -/
def texts (fields : List (String × String)) : Json := .obj (textFields fields)

def strings (values : List String) : Json := .arr (values.map .str)

/-- The close of an index: a fact with a source. -/
def indexFact : Json :=
  .obj (textFields
    [("fact_id", "fact-csi300"), ("section_id", "cn_highlights"), ("label", "CSI 300"),
      ("display_text", "CSI 300 3950"), ("value", "3950"), ("unit", "points"),
      ("available_at", "2026-06-30T08:00:00Z"), ("report_date", "2026-07-01")] ++
    [("source_ref_ids", strings ["source-1"])])

def sampleDigest : String := String.ofList (List.replicate 64 'a')

def indexSource : Json :=
  .obj (textFields
    [("source_ref_id", "source-1"), ("provider_id", "exchange"),
      ("provider_record_id", "csi300"), ("source_name", "Exchange"),
      ("retrieved_at", "2026-06-30T08:05:00Z"), ("checksum_sha256", sampleDigest)] ++
    [("source_url", .null)])

/-- The identity of a snapshot as its payload and a report carry it. -/
def sampleIdentity (factIds : List String) : List (String × Json) :=
  textFields
    [("snapshot_id", "snapshot-1"), ("snapshot_version", "v1"),
      ("as_of", "2026-07-01T00:10:00Z"), ("cutoff_at", "2026-07-01T00:15:00Z"),
      ("fingerprint_sha256", sampleDigest)] ++ [("fact_ids", strings factIds)]

/-- A snapshot of 2026-07-01 with all its required inputs. -/
def sampleSnapshot (facts : List Json) (factIds : List String) : ReportInputSnapshot Json where
  snapshotId := "snapshot-1"
  snapshotVersion := "v1"
  reportDate := 20635
  asOf := 20635 * dayMicroseconds + 600000000
  cutoffAt := 20635 * dayMicroseconds + 900000000
  fingerprintSha256 := sampleDigest
  factIds := factIds
  payload := .obj (sampleIdentity factIds ++
    [("facts", .arr facts), ("source_references", .arr [indexSource]),
      ("source_ref_ids", strings ["source-1"]), ("editor_context", .obj []),
      ("input_quality", .obj (requiredReportInputIds.map fun inputId =>
        (inputId, texts [("status", "available")])))])

/-- A section of a text and some more fields. -/
def sampleSection (sectionId sectionText : String) (maxCharacters : ℕ)
    (more : List (String × Json) := []) : String × Json :=
  (sectionId, .obj (textFields
    [("section_id", sectionId), ("status", "complete"), ("text", sectionText)] ++
    [("character_count", .int sectionText.length), ("max_characters", .int maxCharacters)] ++
    more))

/-- A payload of the sample snapshot with these highlights and this notice. -/
def samplePayload (factIds : List String) (highlights notice : String × Json) : Json :=
  .obj (textFields
    [("contract_name", "DailyReport"), ("contract_version", "1.0"), ("report_id", "report-1"),
      ("report_date", "2026-07-01"), ("timezone", "Asia/Shanghai"),
      ("generated_at", "2026-07-01T00:20:00Z"), ("status", "complete")] ++
    [("schedule", .obj (textFields
        [("publish_time_local", "08:30:00"), ("late_data_cutoff_local", "08:15:00"),
          ("run_policy", "every_calendar_day"), ("holiday_policy", "publish_with_notice"),
          ("calendar_id", "cn_hk_report_calendar_v1")] ++
        [("calendar_lookahead_days", .int 7), ("freshness", .obj
          [("market_close_max_age_hours", .int 36), ("official_news_max_age_hours", .int 24),
            ("macro_observation_max_age_days", .int 45)])])),
      ("calendar", texts [("day_type", "business_day")]),
      ("input_snapshot", .obj (sampleIdentity factIds)),
      ("publication", texts
        [("decision", "not_published"), ("scheduled_publish_at", "2026-07-01T00:30:00Z")]),
      ("data_quality", texts [("status", "complete")]),
      ("sections", .obj
        [sampleSection "executive_summary" "no summary" 800, highlights,
          sampleSection "hk_highlights" "no facts" 1000,
          sampleSection "us_highlights" "no facts" 1000,
          sampleSection "key_movements" "no movements" 1200,
          sampleSection "upcoming_calendar" "no releases" 1600, notice,
          sampleSection "source_references" "" 4000 [("items", .arr [indexSource])]])])

/-- The highlights of the index, with a reference inside an item and a claim. -/
def indexHighlights : String × Json :=
  sampleSection "cn_highlights" "CSI 300 closed at 3950" 1000
    [("items", .arr [.obj
      [("fact_ids", strings ["fact-csi300"]), ("source_ref_ids", strings ["source-1"])]]),
      ("claims", .arr [.obj (textFields
        [("claim_type", "number"), ("fact_id", "fact-csi300"), ("unit", "points")] ++
        [("value", .int 3950)])])]

def sampleReport (payload : Json) : StoredDailyReport Json where
  reportId := "report-1"
  reportDate := 20635
  reportVersion := "v1"
  contractVersion := "1.0"
  inputSnapshotId := "snapshot-1"
  status := .complete
  publicationDecision := .notPublished
  generatedAt := 20635 * dayMicroseconds + 1200000000
  payload := payload

/-- A candidate that the validator has nothing to say about. -/
def indexReport : StoredDailyReport Json :=
  sampleReport (samplePayload ["fact-csi300"] indexHighlights
    (sampleSection "data_quality_notice" "ok" 600))

def indexSnapshot : ReportInputSnapshot Json := sampleSnapshot [indexFact] ["fact-csi300"]

theorem validate_indexReport : validate .plain .plain indexSnapshot indexReport = .ok [] :=
  Raising.eq_ok_of_toOption (by decide +kernel)

theorem validate_sound_index : ∃ typed,
    DailyReport.modelValidate .plain indexReport.payload = some typed ∧
      Validated .plain .plain indexSnapshot indexReport typed :=
  validate_sound validate_indexReport fun _ hissue => absurd hissue List.not_mem_nil

end MacroPlatform.Report
