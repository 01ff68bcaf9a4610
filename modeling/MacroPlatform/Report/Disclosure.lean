import MacroPlatform.Report.Candidate
import MacroPlatform.Report.FallbackSections

/-! # The disclosed quality issues

The fallback writes every issue of the gate into a list of its data quality, and finalization adds
the issues of the validation with other code. Both choose the same list, and what is in it is not
added again.

* `dataQuality_disclosedOnce`: the fallback has each issue of the gate in one list, once.
* `finalizeReport_quality`: finalization keeps it so, whatever issues it adds.
* `quality_disclosed`: both, from the gate to the finalized report.
-/

namespace MacroPlatform.Report

open Daily

variable {pydantic : Pydantic} {python : Python} {publishAt : Day → Instant}
variable {snapshot : ReportInputSnapshot Json}

/-! ## The codes of the gate -/

/-- The codes of the entries of `input_quality`. -/
def entryCodes : List String :=
  ["REQUIRED_INPUT_DECLARATION_INVALID", "INVALID_REQUIRED_INPUT_QUALITY",
    "INVALID_OPTIONAL_INPUT_QUALITY", "INVALID_REQUIRED_INPUT_STATUS", "INVALID_INPUT_STATUS"] ++
    (("revised" :: "retryable" :: blockingStatuses).flatMap fun status =>
      [statusCode status true, statusCode status false])

/-- The codes of the gate. -/
def gateCodes : List String :=
  ["REPORT_DAY_POLICY_INVALID", "REQUIRED_INPUT_UNAVAILABLE", "OPTIONAL_INPUT_UNAVAILABLE",
    "SCHEDULED_MARKET_CLOSURE", "REQUIRED_FACTS_UNAVAILABLE"] ++ entryCodes

/-- The issue of a status, by its code. -/
theorem issueForStatus_code {inputId : String} {status : Json} {reason : String} {required : Bool}
    {issue : QualityGateIssue} (h : issue ∈ issueForStatus inputId status reason required) :
    issue.inputId = inputId ∧ issue.code ∈ entryCodes ∧
      issue.code ≠ "REQUIRED_INPUT_DECLARATION_INVALID" := by
  have hinvalid : (invalidStatus inputId required).code ∈ entryCodes ∧
      (invalidStatus inputId required).code ≠ "REQUIRED_INPUT_DECLARATION_INVALID" := by
    have hboth : ∀ flag : Bool,
        (if flag then "INVALID_REQUIRED_INPUT_STATUS" else "INVALID_INPUT_STATUS") ∈ entryCodes ∧
        (if flag then "INVALID_REQUIRED_INPUT_STATUS" else "INVALID_INPUT_STATUS") ≠
          "REQUIRED_INPUT_DECLARATION_INVALID" := by
      decide +kernel
    exact hboth required
  -- the code of a known status, required or not
  have hknown : ∀ status ∈ knownStatuses, status ≠ "available" → ∀ flag : Bool,
      statusCode status flag ∈ entryCodes ∧
        statusCode status flag ≠ "REQUIRED_INPUT_DECLARATION_INVALID" := by
    decide +kernel
  unfold issueForStatus at h
  -- the status is a known one, another text, or no text
  split at h
  · rename_i text
    split_ifs at h with hdenied hlisted havailable
    · cases h
    · cases h
    · cases h
      exact ⟨rfl, hknown text hlisted havailable required⟩
    · cases h
      exact ⟨rfl, hinvalid⟩
  · cases h
    exact ⟨rfl, hinvalid⟩

/-- What the report tells an issue apart by. -/
def QualityGateIssue.key (issue : QualityGateIssue) : String × String :=
  (modelStrip issue.inputId, issue.code)

/-- The issues of one entry: at most a declaration and a status. -/
theorem entryIssues_keys (pyStr : Json → String) (inputId : String) (raw : Json)
    (required : List String) :
    (∀ issue ∈ entryIssues pyStr inputId raw required,
      issue.inputId = inputId ∧ issue.code ∈ entryCodes) ∧
    ((entryIssues pyStr inputId raw required).map QualityGateIssue.key).Nodup := by
  have hdeclared : "REQUIRED_INPUT_DECLARATION_INVALID" ∈ entryCodes := by decide +kernel
  have hquality : ∀ flag : Bool,
      (if flag then "INVALID_REQUIRED_INPUT_QUALITY" else "INVALID_OPTIONAL_INPUT_QUALITY") ∈
        entryCodes := by
    decide +kernel
  unfold entryIssues
  -- an entry that is no dict has one issue
  split
  · rename_i fields
    let status := issueForStatus inputId (Json.get (.obj fields) "status")
      (entryReason pyStr (.obj fields)) (isRequired inputId (.obj fields) required)
    have hstatus : ∀ issue ∈ status.toList, issue.inputId = inputId ∧ issue.code ∈ entryCodes ∧
        issue.code ≠ "REQUIRED_INPUT_DECLARATION_INVALID" :=
      fun issue hissue => issueForStatus_code (Option.mem_toList.mp hissue)
    have hone : (status.toList.map QualityGateIssue.key).Nodup := by
      cases status with
      | none => exact List.nodup_nil
      | some issue => exact List.nodup_singleton _
    -- a required input that declares itself optional has a declaration issue as well
    by_cases hdowngraded : inputId ∈ required ∧
        (Json.get (.obj fields) "required" (.bool true)).isTrue = false
    · rw [if_pos hdowngraded]
      constructor
      · intro issue hissue
        rcases List.mem_append.mp hissue with hin | hin
        · rw [List.mem_singleton.mp hin]
          exact ⟨rfl, hdeclared⟩
        · exact ⟨(hstatus issue hin).1, (hstatus issue hin).2.1⟩
      · -- the status has another code than the declaration
        refine List.nodup_cons.mpr ⟨?_, hone⟩
        intro hmem
        obtain ⟨issue, hissue, hkey⟩ := List.mem_map.mp hmem
        exact (hstatus issue hissue).2.2 (congrArg Prod.snd hkey)
    · rw [if_neg hdowngraded, List.nil_append]
      exact ⟨fun issue hissue => ⟨(hstatus issue hissue).1, (hstatus issue hissue).2.1⟩, hone⟩
  · constructor
    · intro issue hissue
      rw [List.mem_singleton.mp hissue]
      exact ⟨rfl, hquality _⟩
    · exact List.nodup_singleton _

/-! ## Every issue once -/

/-- The issues have these codes, and no two of them are of one input and code. -/
structure CodedBy (codes : List String) (issues : List QualityGateIssue) : Prop where
  known : ∀ issue ∈ issues, issue.code ∈ codes
  nodup : (issues.map QualityGateIssue.key).Nodup

/-- Two lists of issues with codes that are apart. -/
theorem CodedBy.append {codes codes' : List String} {issues issues' : List QualityGateIssue}
    (h : CodedBy codes issues) (h' : CodedBy codes' issues')
    (hapart : ∀ code ∈ codes, code ∉ codes') : CodedBy (codes ++ codes') (issues ++ issues') := by
  refine ⟨?_, ?_⟩
  · intro issue hissue
    rcases List.mem_append.mp hissue with hin | hin
    · exact List.mem_append_left _ (h.known issue hin)
    · exact List.mem_append_right _ (h'.known issue hin)
  · rw [List.map_append]
    refine List.nodup_append.mpr ⟨h.nodup, h'.nodup, ?_⟩
    intro key hkey key' hkey' heq
    obtain ⟨issue, hissue, rfl⟩ := List.mem_map.mp hkey
    obtain ⟨issue', hissue', rfl⟩ := List.mem_map.mp hkey'
    have hcode : issue.code = issue'.code := congrArg Prod.snd heq
    apply hapart issue.code (h.known issue hissue)
    rw [hcode]
    exact h'.known issue' hissue'

/-- One issue of one code for each input that needs no stripping. -/
theorem CodedBy.ofInputs {inputIds : List String} (hinputs : inputIds.Nodup)
    (hclean : ∀ inputId ∈ inputIds, modelStrip inputId = inputId) {code : String}
    {issueOf : String → QualityGateIssue} (hid : ∀ inputId, (issueOf inputId).inputId = inputId)
    (hcode : ∀ inputId, (issueOf inputId).code = code) :
    CodedBy [code] (inputIds.map issueOf) := by
  refine ⟨?_, ?_⟩
  · intro issue hissue
    obtain ⟨inputId, -, rfl⟩ := List.mem_map.mp hissue
    exact List.mem_singleton.mpr (hcode inputId)
  · rw [List.map_map]
    refine hinputs.map_on ?_
    intro inputId hmem inputId' hmem' heq
    have hsame : modelStrip (issueOf inputId).inputId = modelStrip (issueOf inputId').inputId :=
      congrArg Prod.fst heq
    rw [hid, hid, hclean _ hmem, hclean _ hmem'] at hsame
    exact hsame

theorem sortedSet_nodup (xs : List String) : (sortedSet xs).Nodup :=
  (List.perm_insertionSort _ _).nodup_iff.mpr (List.nodup_dedup xs)

/-- The issues of the entries of the inputs. -/
theorem entriesIssues_coded (pyStr : Json → String) (quality : Json) (required : List String)
    {inputIds : List String} (hinputs : inputIds.Nodup)
    (hdistinct : ∀ id ∈ inputIds, ∀ id' ∈ inputIds, modelStrip id = modelStrip id' → id = id') :
    CodedBy entryCodes (inputIds.flatMap fun inputId =>
      entryIssues pyStr inputId (quality.get inputId) required) := by
  refine ⟨?_, ?_⟩
  · intro issue hissue
    obtain ⟨inputId, -, hin⟩ := List.mem_flatMap.mp hissue
    exact ((entryIssues_keys pyStr inputId _ required).1 issue hin).2
  · rw [List.map_flatMap]
    refine List.nodup_flatMap.mpr ⟨fun inputId _ =>
      (entryIssues_keys pyStr inputId _ required).2, hinputs.imp_of_mem ?_⟩
    intro inputId inputId' hmem hmem' hne key hkey hkey'
    obtain ⟨issue, hissue, rfl⟩ := List.mem_map.mp hkey
    obtain ⟨issue', hissue', heq⟩ := List.mem_map.mp hkey'
    have hsame : modelStrip issue'.inputId = modelStrip issue.inputId := congrArg Prod.fst heq
    rw [((entryIssues_keys pyStr inputId _ required).1 issue hissue).1,
      ((entryIssues_keys pyStr inputId' _ required).1 issue' hissue').1] at hsame
    exact hne (hdistinct _ hmem' _ hmem hsame).symm

/-- The inputs that the gate knows by itself. -/
def gateInputIds : List String := "report.day_policy" :: "report.facts" :: requiredReportInputIds

/-- The inputs of a snapshot are among the known ones. -/
theorem inputsForSnapshot_known {inputs : SnapshotInputs}
    (h : inputsForSnapshot snapshot = .ok inputs) :
    (∀ id ∈ inputs.required, id ∈ requiredReportInputIds) ∧
      ∀ id ∈ inputs.optional, id ∈ requiredReportInputIds := by
  have hdefault : ∀ issue, (∀ id ∈ ({ issue } : SnapshotInputs).required,
      id ∈ requiredReportInputIds) ∧
      ∀ id ∈ ({ issue } : SnapshotInputs).optional, id ∈ requiredReportInputIds :=
    fun _ => ⟨fun _ hid => hid, nofun⟩
  -- only an accepted policy replaces the default inputs
  unfold inputsForSnapshot at h
  split at h
  · cases h
    exact hdefault none
  · split at h
    · cases h
      exact hdefault _
    · rename_i required optional hpolicy
      obtain ⟨accepted, -, hrest⟩ := Raising.bind_ok.mp h
      cases accepted with
      | false =>
        cases hrest
        exact hdefault _
      | true =>
        cases hrest
        obtain ⟨-, -, hsame, -⟩ := policyInputs?_sets hpolicy
        exact ⟨fun id hid => hsame.1 (List.mem_append_left _ hid),
          fun id hid => hsame.1 (List.mem_append_right _ hid)⟩

/-- The input ids of a snapshot are not blank, and stay apart when they are stripped. -/
structure DistinctInputs (snapshot : ReportInputSnapshot Json) : Prop where
  nonblank : ∀ inputId ∈ (inputQuality snapshot).keys, modelStrip inputId ≠ ""
  distinct : ∀ id ∈ (inputQuality snapshot).keys, ∀ id' ∈ (inputQuality snapshot).keys,
    modelStrip id = modelStrip id' → id = id'

theorem gateInputIds_clean : ∀ id ∈ gateInputIds, id ≠ "" ∧ modelStrip id = id := by
  decide +kernel

/-- No two issues of the gate are of one input and code. -/
theorem evaluate_coded {pyStr : Json → String} (hdistinct : DistinctInputs snapshot)
    {gate : QualityGateResult} (h : evaluate snapshot pyStr = .ok gate) :
    CodedBy gateCodes gate.issues := by
  obtain ⟨inputs, hinputs, h⟩ := Raising.bind_ok.mp h
  obtain ⟨materialized, -, h⟩ := Raising.bind_ok.mp h
  cases h
  -- the inputs that the gate knows need no stripping
  obtain ⟨hrequired, hoptional⟩ := inputsForSnapshot_known hinputs
  have hclean : ∀ id ∈ requiredReportInputIds, modelStrip id = id := fun id hid =>
    (gateInputIds_clean id (List.mem_cons_of_mem _ (List.mem_cons_of_mem _ hid))).2
  -- the issues of the gate, group by group; the codes of the groups differ
  have hpolicy : CodedBy ["REPORT_DAY_POLICY_INVALID"] inputs.issue.toList := by
    have hissue := inputsForSnapshot_issue hinputs
    cases hfound : inputs.issue with
    | none => exact ⟨nofun, List.nodup_nil⟩
    | some issue =>
      rw [hfound] at hissue
      have hsame := hissue issue rfl
      subst hsame
      exact ⟨fun issue hin => by
        rw [List.mem_singleton.mp hin]
        exact List.mem_singleton_self _, List.nodup_singleton _⟩
  have hmissing : CodedBy ["REQUIRED_INPUT_UNAVAILABLE"] ((sortedSet (inputs.required.filter
      (· ∉ (inputQuality snapshot).keys))).map requiredMissing) :=
    .ofInputs (sortedSet_nodup _) (fun id hid => hclean id
      (hrequired id (List.mem_filter.mp (mem_sortedSet.mp hid)).1)) (fun _ => rfl) fun _ => rfl
  have hunlisted : CodedBy ["OPTIONAL_INPUT_UNAVAILABLE"] ((sortedSet (inputs.optional.filter
      (· ∉ (inputQuality snapshot).keys))).map optionalMissing) :=
    .ofInputs (sortedSet_nodup _) (fun id hid => hclean id
      (hoptional id (List.mem_filter.mp (mem_sortedSet.mp hid)).1)) (fun _ => rfl) fun _ => rfl
  have hclosed : CodedBy ["SCHEDULED_MARKET_CLOSURE"] (((sortedSet (inputs.optional.filter
      (· ∈ (inputQuality snapshot).keys))).filter fun inputId =>
        (((inputQuality snapshot).get inputId).get "status").toStr? = some "available").map
          scheduledClosure) :=
    .ofInputs ((sortedSet_nodup _).filter _) (fun id hid => hclean id (hoptional id
      (List.mem_filter.mp (mem_sortedSet.mp (List.mem_filter.mp hid).1)).1)) (fun _ => rfl)
        fun _ => rfl
  have hentries := entriesIssues_coded pyStr (inputQuality snapshot) inputs.required
    (sortedSet_nodup (inputQuality snapshot).keys) (fun id hid id' hid' =>
      hdistinct.distinct id (mem_sortedSet.mp hid) id' (mem_sortedSet.mp hid'))
  have hfacts : CodedBy ["REQUIRED_FACTS_UNAVAILABLE"]
      (if materialized then [] else [factsMissing]) := by
    cases materialized with
    | true => exact ⟨nofun, List.nodup_nil⟩
    | false => exact ⟨by decide, List.nodup_singleton _⟩
  have hall := ((((hpolicy.append hmissing (by decide)).append hunlisted (by decide)).append
    hclosed (by decide)).append hentries (by decide +kernel)).append hfacts (by decide +kernel)
  have hcodes : ∀ code ∈ ((((["REPORT_DAY_POLICY_INVALID"] ++ ["REQUIRED_INPUT_UNAVAILABLE"]) ++
      ["OPTIONAL_INPUT_UNAVAILABLE"]) ++ ["SCHEDULED_MARKET_CLOSURE"]) ++ entryCodes) ++
        ["REQUIRED_FACTS_UNAVAILABLE"], code ∈ gateCodes := by
    decide +kernel
  exact ⟨fun issue hissue => hcodes _ (hall.known issue hissue), hall.nodup⟩

/-! ## The inputs of the issues -/

/-- An issue is about an entry of `input_quality` or about an input that the gate knows. -/
theorem evaluate_inputIds {pyStr : Json → String} {gate : QualityGateResult}
    (h : evaluate snapshot pyStr = .ok gate) :
    ∀ issue ∈ gate.issues,
      issue.inputId ∈ (inputQuality snapshot).keys ∨ issue.inputId ∈ gateInputIds := by
  obtain ⟨inputs, hinputs, h⟩ := Raising.bind_ok.mp h
  obtain ⟨materialized, -, h⟩ := Raising.bind_ok.mp h
  cases h
  obtain ⟨hrequired, hoptional⟩ := inputsForSnapshot_known hinputs
  have hknown : ∀ id ∈ requiredReportInputIds, id ∈ gateInputIds := fun id hid =>
    List.mem_cons_of_mem _ (List.mem_cons_of_mem _ hid)
  intro issue hissue
  -- the groups once more: which input an issue is about
  rcases List.mem_append.mp hissue with hinput | hfacts
  · rcases List.mem_append.mp hinput with hother | hentry
    · rcases List.mem_append.mp hother with hother | hclosed
      · rcases List.mem_append.mp hother with hother | hunlisted
        · rcases List.mem_append.mp hother with hpolicy | hmissing
          · rw [inputsForSnapshot_issue hinputs issue (Option.mem_toList.mp hpolicy)]
            exact Or.inr List.mem_cons_self
          · obtain ⟨id, hid, rfl⟩ := List.mem_map.mp hmissing
            exact Or.inr (hknown id (hrequired id
              (List.mem_filter.mp (mem_sortedSet.mp hid)).1))
        · obtain ⟨id, hid, rfl⟩ := List.mem_map.mp hunlisted
          exact Or.inr (hknown id (hoptional id (List.mem_filter.mp (mem_sortedSet.mp hid)).1))
      · obtain ⟨id, hid, rfl⟩ := List.mem_map.mp hclosed
        have hlisted := mem_sortedSet.mp (List.mem_filter.mp hid).1
        exact Or.inr (hknown id (hoptional id (List.mem_filter.mp hlisted).1))
    · obtain ⟨id, hid, hin⟩ := List.mem_flatMap.mp hentry
      rw [((entryIssues_keys pyStr id _ inputs.required).1 issue hin).1]
      exact Or.inl (mem_sortedSet.mp hid)
  · cases materialized with
    | true => cases hfacts
    | false =>
      rw [List.mem_singleton.mp hfacts]
      exact Or.inr (List.mem_cons_of_mem _ List.mem_cons_self)

/-- An issue of the gate as the report has it. -/
theorem validationIssue_key {issue : QualityGateIssue} {found : ReportValidationIssue}
    (hcode : issue.code ∈ gateCodes) (h : validationIssue issue = .ok found) :
    found.inputId = some (modelStrip issue.inputId) ∧ found.code = issue.code := by
  have hstripped : ∀ code ∈ gateCodes, modelStrip code = code := by decide +kernel
  unfold validationIssue at h
  split at h
  · cases h
  · cases h
    exact ⟨rfl, hstripped _ hcode⟩

/-! ## The lists of the data quality -/

/-- How often a list of the data quality has an input with a code. -/
def disclosed (quality : Json) (bucket inputId code : String) : ℕ :=
  ((quality.get bucket).toArr?.getD []).countP fun item =>
    (item.get "input_id").toStr? = some inputId && (item.get "reason_code").toStr? = some code

/-- Which codes a list of `_data_quality` takes. -/
def takes (bucket code : String) : Bool :=
  if bucket = "missing_required_inputs" then code = "REQUIRED_INPUT_UNAVAILABLE"
  else if bucket = "stale_inputs" then containsText "STALE" code
  else if bucket = "late_inputs" then containsText "LATE" code
  else if bucket = "revised_inputs" then containsText "REVISED" code
  else code ∉ otherBucketCodes

theorem dataQuality_get (issues : List ReportValidationIssue) (status : ReportStatus) :
    ∀ bucket ∈ qualityBuckets, (dataQuality issues status).get bucket =
      .arr ((issues.filter fun issue => takes bucket issue.code).map dataQualityEntry) := by
  simp only [qualityBuckets, List.forall_mem_cons]
  exact ⟨rfl, rfl, rfl, rfl, rfl, nofun⟩

/-- The lists of `_data_quality` and `_quality_bucket` agree on the codes of the gate. -/
theorem takes_iff : ∀ code ∈ gateCodes, ∀ bucket ∈ qualityBuckets,
    takes bucket code = decide (bucket = qualityBucket code) := by
  decide +kernel

/-- The input and the code stand in one list, once. -/
def DisclosedOnce (quality : Json) (inputId code : String) : Prop :=
  ∀ bucket ∈ qualityBuckets,
    disclosed quality bucket inputId code = if bucket = qualityBucket code then 1 else 0

theorem firstGiven_given {inputId default : String} (h : inputId ≠ "") :
    firstGiven [some inputId] default = inputId := by
  simp [firstGiven, h]

/-- The issues of the gate stand in the data quality of the fallback. -/
theorem dataQuality_disclosedOnce {issues : List ReportValidationIssue} (status : ReportStatus)
    (hcodes : ∀ issue ∈ issues, issue.code ∈ gateCodes)
    (hinputs : ∀ issue ∈ issues, ∃ inputId, issue.inputId = some inputId ∧ inputId ≠ "")
    (hnodup : (issues.map fun issue => (issue.inputId, issue.code)).Nodup)
    {issue : ReportValidationIssue} (hissue : issue ∈ issues) {inputId : String}
    (hid : issue.inputId = some inputId) :
    DisclosedOnce (dataQuality issues status) inputId issue.code := by
  -- an entry is found by its input and code
  have hentry : ∀ other ∈ issues,
      (((dataQualityEntry other).get "input_id").toStr? = some inputId &&
        ((dataQualityEntry other).get "reason_code").toStr? = some issue.code) =
      decide ((other.inputId, other.code) = (some inputId, issue.code)) := by
    intro other hother
    obtain ⟨otherId, hotherId, hne⟩ := hinputs other hother
    have hread : ((dataQualityEntry other).get "input_id").toStr? =
        some (firstGiven [other.inputId] other.code) := rfl
    have hcode : ((dataQualityEntry other).get "reason_code").toStr? = some other.code := rfl
    rw [hread, hcode, hotherId, firstGiven_given hne]
    simp
  intro bucket hbucket
  unfold disclosed
  rw [dataQuality_get issues status bucket hbucket]
  show List.countP _ (List.map _ _) = _
  rw [List.countP_map, List.countP_filter]
  -- there is one entry of them in all lists
  have hcount : issues.countP (fun other =>
      decide ((other.inputId, other.code) = (some inputId, issue.code))) = 1 := by
    have hmem : (some inputId, issue.code) ∈
        issues.map fun other => (other.inputId, other.code) :=
      List.mem_map.mpr ⟨issue, hissue, by rw [hid]⟩
    have hone := List.count_eq_one_of_mem hnodup hmem
    rw [List.count, List.countP_map] at hone
    rw [← hone]
    refine List.countP_congr ?_
    intro other _
    simp
  -- it stands in the list of its code, and in no other
  by_cases hown : bucket = qualityBucket issue.code
  · rw [if_pos hown, ← hcount]
    refine List.countP_congr ?_
    intro other hother
    simp only [Function.comp_apply, hentry other hother, Bool.and_eq_true, decide_eq_true_eq]
    constructor
    · exact fun h => h.1
    · intro h
      have hcode : other.code = issue.code := congrArg Prod.snd h
      refine ⟨h, ?_⟩
      rw [takes_iff _ (hcodes other hother) bucket hbucket, hcode]
      exact decide_eq_true hown
  · rw [if_neg hown, List.countP_eq_zero]
    intro other hother hmatch
    simp only [Function.comp_apply, hentry other hother, Bool.and_eq_true,
      decide_eq_true_eq] at hmatch
    obtain ⟨hkey, htaken⟩ := hmatch
    have hcode : other.code = issue.code := congrArg Prod.snd hkey
    rw [takes_iff _ (hcodes other hother) bucket hbucket, hcode] at htaken
    exact hown (of_decide_eq_true htaken)

/-! ## What finalization adds -/

/-- The status is none of the lists. -/
theorem DisclosedOnce.set_status {quality : Json} {inputId code : String}
    (h : DisclosedOnce quality inputId code) (value : Json) :
    DisclosedOnce (quality.set "status" value) inputId code := by
  intro bucket hbucket
  have hne : ¬ "status" = bucket := by
    rintro rfl
    exact absurd hbucket (by decide)
  have hsame := h bucket hbucket
  unfold disclosed at hsame ⊢
  rw [Json.get_set, if_neg hne]
  exact hsame

/-- The list that finalization reads is the one that stands there. -/
theorem pyList_get {quality : Json} {bucket : String} {entries : List Json}
    (h : pyList (quality.get bucket (.arr [])) = .ok entries) :
    (quality.get bucket).toArr?.getD [] = entries := by
  have hlist : quality.get bucket (.arr []) = .arr entries := by
    unfold pyList at h
    split at h
    · rename_i hitems
      rw [hitems, Except.ok.inj h]
    · cases h
  rcases Json.get_default quality bucket (.arr []) with hsame | ⟨habsent, hdefault⟩
  · rw [← hsame, hlist]
    rfl
  · rw [hlist] at hdefault
    cases hdefault
    rw [habsent]
    rfl

/-- An issue that is added leaves every input and code where it stands. -/
theorem DisclosedOnce.addIssue {quality after : Json} {inputId code : String}
    (h : DisclosedOnce quality inputId code) {issue : ReportValidationIssue}
    (hadded : Report.addIssue quality issue = .ok after) : DisclosedOnce after inputId code := by
  obtain ⟨entries, hentries, hafter⟩ := Raising.bind_ok.mp hadded
  cases hafter
  intro bucket hbucket
  have hbefore := h bucket hbucket
  unfold disclosed at hbefore ⊢
  rw [Json.get_set]
  by_cases hown : qualityBucket issue.code = bucket
  · subst hown
    rw [pyList_get hentries] at hbefore
    rw [if_pos rfl, ← hbefore]
    show List.countP _ (if _ then entries else entries ++ [qualityEntry issue]) = _
    split
    · rfl
    · rename_i hnew
      rw [List.countP_append, Nat.add_eq_left, List.countP_eq_zero]
      intro item hitem hmatch
      rw [List.mem_singleton.mp hitem] at hmatch
      have hid : ((qualityEntry issue).get "input_id").toStr? = some (entryInputId issue) := rfl
      have hcode : ((qualityEntry issue).get "reason_code").toStr? = some issue.code := rfl
      rw [hid, hcode, Bool.and_eq_true, decide_eq_true_eq, decide_eq_true_eq] at hmatch
      obtain ⟨hsameId, hsameCode⟩ := hmatch
      have hfound : inputId = entryInputId issue := (Option.some.inj hsameId).symm
      have hcoded : code = issue.code := (Option.some.inj hsameCode).symm
      -- what matches a new entry would have been found among the old ones
      rw [hcoded, if_pos rfl] at hbefore
      have hpositive : 0 < entries.countP fun item =>
          (item.get "input_id").toStr? = some inputId &&
            (item.get "reason_code").toStr? = some issue.code := by
        omega
      obtain ⟨old, hold, hkey⟩ := List.countP_pos_iff.mp hpositive
      apply hnew
      rw [hfound] at hkey
      exact List.any_eq_true.mpr ⟨old, hold, hkey⟩
  · rw [if_neg hown]
    exact hbefore

/-- More issues leave what is disclosed once. -/
theorem DisclosedOnce.addIssues {issues : List ReportValidationIssue} {quality after : Json}
    {inputId code : String} (h : DisclosedOnce quality inputId code)
    (hadded : issues.foldlM Report.addIssue quality = .ok after) :
    DisclosedOnce after inputId code := by
  induction issues generalizing quality with
  | nil =>
    cases hadded
    exact h
  | cons issue issues ih =>
    rw [List.foldlM_cons] at hadded
    obtain ⟨next, hnext, hrest⟩ := Raising.bind_ok.mp hadded
    exact ih (h.addIssue hnext) hrest

/-- The data quality after finalization. -/
theorem finalizeReport_quality {report finalized : StoredDailyReport Json}
    {issues : List ReportValidationIssue} (h : finalizeReport report issues = .ok finalized)
    {inputId code : String}
    (hbefore : DisclosedOnce (report.payload.get "data_quality") inputId code) :
    DisclosedOnce (finalized.payload.get "data_quality") inputId code := by
  unfold finalizeReport at h
  obtain ⟨publication, -, h⟩ := Raising.bind_ok.mp h
  obtain ⟨start, hstart, h⟩ := Raising.bind_ok.mp h
  obtain ⟨quality, hadded, h⟩ := Raising.bind_ok.mp h
  obtain ⟨notice, -, h⟩ := Raising.bind_ok.mp h
  -- finalization starts from the data quality that is there
  cases h
  have hread : start = report.payload.get "data_quality" (.obj []) := by
    unfold pyDict at hstart
    split at hstart
    · rename_i hfields
      rw [hfields, ← Except.ok.inj hstart]
    · cases hstart
  have hdisclosed : DisclosedOnce start inputId code := by
    rcases Json.get_default report.payload "data_quality" (.obj []) with hsame | ⟨habsent, hempty⟩
    · rw [hread, hsame]
      exact hbefore
    · rw [hread, hempty]
      rw [habsent] at hbefore
      exact hbefore
  rw [Json.get_set, if_neg (by decide), Json.get_set, if_pos rfl]
  exact (hdisclosed.set_status _).addIssues hadded

/-! ## The fallback after finalization -/

/-- The issues of the gate as the fallback has them. -/
theorem qualityIssues_keys {gate : QualityGateResult} (hdistinct : DistinctInputs snapshot)
    (hgate : evaluate snapshot python.str = .ok gate) {found : List ReportValidationIssue}
    (hfound : qualityIssues python snapshot = .ok found) :
    List.Forall₂ (fun issue found => found.inputId = some (modelStrip issue.inputId) ∧
      found.code = issue.code ∧ modelStrip issue.inputId ≠ "" ∧ issue.code ∈ gateCodes)
      gate.issues found := by
  obtain ⟨gate', hgate', hmap⟩ := Raising.bind_ok.mp hfound
  rw [hgate] at hgate'
  cases hgate'
  have hids : ∀ issue ∈ gate.issues, modelStrip issue.inputId ≠ "" := by
    intro issue hissue
    rcases evaluate_inputIds hgate issue hissue with hlisted | hown
    · exact hdistinct.nonblank _ hlisted
    · rw [(gateInputIds_clean _ hown).2]
      exact (gateInputIds_clean _ hown).1
  have hall := (List.forall₂_and_left _ _).mpr
    ⟨fun issue hissue => And.intro (hids issue hissue)
      ((evaluate_coded hdistinct hgate).known issue hissue), Raising.mapM_ok.mp hmap⟩
  refine hall.imp ?_
  rintro issue found ⟨⟨hne, hcode⟩, hread⟩
  obtain ⟨hid, hsame⟩ := validationIssue_key hcode hread
  exact ⟨hid, hsame, hne, hcode⟩

/-- Every issue of the gate stands in the finalized fallback in one list, once, under its stripped
id, and `_data_quality` and `_quality_bucket` choose the same list for it. -/
theorem quality_disclosed (hdistinct : DistinctInputs snapshot) {gate : QualityGateResult}
    (hgate : evaluate snapshot python.str = .ok gate) {reportId reportVersion : String}
    {generatedAt : Instant} {generationId : Option UUID} {report : StoredDailyReport Json}
    (hbuild : build pydantic python publishAt snapshot reportId reportVersion generatedAt
      generationId = .ok report)
    {issues : List ReportValidationIssue} {finalized : StoredDailyReport Json}
    (hfinal : finalizeReport report issues = .ok finalized) :
    ∀ issue ∈ gate.issues,
      DisclosedOnce (finalized.payload.get "data_quality") (modelStrip issue.inputId)
        issue.code ∧
      ∀ found, validationIssue issue = .ok found → ∀ status, ∀ bucket ∈ qualityBuckets,
        (dataQuality [found] status).get bucket =
          .arr (if bucket = qualityBucket found.code then [dataQualityEntry found] else []) := by
  -- the fallback has the issues of the gate, in their order
  obtain ⟨founds, sections, hbuilt⟩ := build_built hbuild
  have hkeys := qualityIssues_keys hdistinct hgate hbuilt.quality
  have hsame : founds.map (fun found => (found.inputId, found.code)) =
      gate.issues.map fun issue => (some (modelStrip issue.inputId), issue.code) := by
    symm
    rw [← List.forall₂_eq_eq_eq, List.forall₂_map_left_iff, List.forall₂_map_right_iff]
    refine hkeys.imp ?_
    intro issue found hkey
    rw [hkey.1, hkey.2.1]
  have hnodup : (founds.map fun found => (found.inputId, found.code)).Nodup := by
    rw [hsame]
    have hpairs := (evaluate_coded hdistinct hgate).nodup.map
      (f := fun key : String × String => (some key.1, key.2)) (by
        intro a b heq
        obtain ⟨hfst, hsnd⟩ := Prod.mk.inj heq
        exact Prod.ext (Option.some.inj hfst) hsnd)
    rwa [List.map_map] at hpairs
  have hgiven : ∀ found ∈ founds, found.code ∈ gateCodes ∧
      ∃ inputId, found.inputId = some inputId ∧ inputId ≠ "" := by
    intro found hfound
    obtain ⟨issue, -, hid, hcode, hne, hknown⟩ := Raising.exists_left hkeys hfound
    rw [hcode]
    exact ⟨hknown, modelStrip issue.inputId, hid, hne⟩
  have hquality : report.payload.get "data_quality" =
      dataQuality founds (fallbackStatus founds) := by
    rw [hbuilt.payload]
    rfl
  -- the list that finalization extends, and the list that both choose
  intro issue hissue
  refine ⟨finalizeReport_quality hfinal ?_, ?_⟩
  · obtain ⟨found, hfound, hid, hcode, -, -⟩ := Raising.exists_right hkeys hissue
    rw [hquality, ← hcode]
    exact dataQuality_disclosedOnce _ (fun other hother => (hgiven other hother).1)
      (fun other hother => (hgiven other hother).2) hnodup hfound hid
  · intro found hread status bucket hbucket
    have hcode : issue.code ∈ gateCodes := (evaluate_coded hdistinct hgate).known issue hissue
    have hfound : found.code ∈ gateCodes := by
      rw [(validationIssue_key hcode hread).2]
      exact hcode
    rw [dataQuality_get [found] status bucket hbucket]
    by_cases hown : bucket = qualityBucket found.code
    · have htaken : takes bucket found.code = true := by
        rw [takes_iff _ hfound bucket hbucket]
        exact decide_eq_true hown
      have hkept : [found].filter (fun other => takes bucket other.code) = [found] := by
        simp [htaken]
      rw [if_pos hown, hkept]
      rfl
    · have hleft : ¬ takes bucket found.code = true := by
        rw [takes_iff _ hfound bucket hbucket, decide_eq_true_eq]
        exact hown
      have hdropped : [found].filter (fun other => takes bucket other.code) = [] := by
        simp [hleft]
      rw [if_neg hown, hdropped]
      rfl

/-! ### A stale input -/

/-- A snapshot with the required inputs and a stale one of this id, but without facts. -/
def staleSnapshot (inputId : String) : ReportInputSnapshot Json :=
  { sampleSnapshot [] [] with
    payload := .obj (sampleIdentity [] ++
      [("facts", .arr []), ("source_references", .arr []), ("source_ref_ids", .arr []),
        ("editor_context", .obj []),
        ("input_quality", .obj ((requiredReportInputIds.map fun required =>
          (required, texts [("status", "available")])) ++ [(inputId, .obj [("status", .str "stale"),
            ("required", .bool false), ("reason", .str "The page is old.")])]))]) }

/-- The fallback of that snapshot. -/
def staleFallback (inputId : String) : Except PythonError (StoredDailyReport Json) :=
  build .plain .plain samplePublishAt (staleSnapshot inputId) "report-1" "v1"
    (20635 * dayMicroseconds + 1200000000) none

/-- What the validator finds in the fallback, and the fallback finalized with it. -/
def staleFinal (inputId : String) :
    Except PythonError (List ReportValidationIssue × StoredDailyReport Json) :=
  staleFallback inputId >>= fun report =>
  validate .plain .plain (staleSnapshot inputId) report >>= fun issues =>
  finalizeReport report issues >>= fun finalized => .ok (issues, finalized)

/-- The input of a clean id is among the stale ones, once, although the validator reports it
too. -/
theorem quality_disclosed_stale :
    ∃ gate report issues finalized,
      evaluate (staleSnapshot "news") Python.plain.str = .ok gate ∧
      staleFallback "news" = .ok report ∧
      validate .plain .plain (staleSnapshot "news") report = .ok issues ∧
      finalizeReport report issues = .ok finalized ∧
      (∃ issue ∈ gate.issues, issue.inputId = "news" ∧ issue.code = "STALE_OPTIONAL_INPUT") ∧
      (∃ found ∈ issues, found.inputId = some "news" ∧ found.code = "STALE_OPTIONAL_INPUT") ∧
      DisclosedOnce (finalized.payload.get "data_quality") "news" "STALE_OPTIONAL_INPUT" := by
  have hgate : ((evaluate (staleSnapshot "news") Python.plain.str).toOption.any fun gate =>
      gate.issues.any fun issue => issue.inputId = "news" ∧
        issue.code = "STALE_OPTIONAL_INPUT") = true := by
    decide +kernel
  have hfinal : ((staleFinal "news").toOption.any fun final => final.1.any fun found =>
      found.inputId = some "news" ∧ found.code = "STALE_OPTIONAL_INPUT") = true := by
    decide +kernel
  have hdistinct : DistinctInputs (staleSnapshot "news") := by
    refine ⟨?_, ?_⟩ <;> decide +kernel
  -- the gate and the finalization both return
  cases hevaluated : evaluate (staleSnapshot "news") Python.plain.str with
  | error raised =>
    rw [hevaluated] at hgate
    cases hgate
  | ok gate =>
    cases hran : staleFinal "news" with
    | error raised =>
      rw [hran] at hfinal
      cases hfinal
    | ok final =>
      rw [hevaluated] at hgate
      rw [hran] at hfinal
      obtain ⟨report, hbuilt, hchecked⟩ := Raising.bind_ok.mp hran
      obtain ⟨issues, hvalidated, hmerged⟩ := Raising.bind_ok.mp hchecked
      obtain ⟨finalized, hfinalized, hpair⟩ := Raising.bind_ok.mp hmerged
      cases hpair
      obtain ⟨issue, hissue, hkey⟩ := List.any_eq_true.mp hgate
      obtain ⟨hid, hcode⟩ := of_decide_eq_true hkey
      obtain ⟨found, hfound, hsame⟩ := List.any_eq_true.mp hfinal
      have hdisclosed := (quality_disclosed hdistinct hevaluated hbuilt hfinalized issue
        hissue).1
      have hstripped : modelStrip "news" = "news" := by decide +kernel
      rw [hid, hcode, hstripped] at hdisclosed
      exact ⟨gate, report, issues, finalized, rfl, hbuilt, hvalidated, hfinalized,
        ⟨issue, hissue, hid, hcode⟩, ⟨found, hfound, of_decide_eq_true hsame⟩, hdisclosed⟩

/-- An id with space before it is in no list: the report has it stripped, and so has the
validator. -/
theorem padded_input_undisclosed :
    ((evaluate (staleSnapshot " news") Python.plain.str).toOption.any fun gate =>
      gate.issues.any fun issue => issue.inputId = " news" ∧
        issue.code = "STALE_OPTIONAL_INPUT") = true ∧
    ((staleFinal " news").toOption.any fun final => qualityBuckets.all fun bucket =>
      disclosed (final.2.payload.get "data_quality") bucket " news" "STALE_OPTIONAL_INPUT" =
        0) = true := by
  refine ⟨?_, ?_⟩ <;> decide +kernel

end MacroPlatform.Report
