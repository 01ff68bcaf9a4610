import MacroPlatform.Report.Snapshot

/-! # The fallback of a materialized snapshot

When the facts of every section fit its limit, the report that the builder makes of a
materialized snapshot satisfies the contract.

* `SnapshotOf.issues_given`: what the gate finds in such a snapshot;
* `SnapshotOf.qualityIssues_ok`: the issues of a snapshot that it lets pass are warnings.
-/

namespace MacroPlatform.Report

open Daily

variable {w : Writing} {pydantic : Pydantic} {python : Python} {publishAt : Day → Instant}
variable {snapshot : ReportInputSnapshot Json} {body : SnapshotBody}
variable {policy : ReportDayPolicyResult}

/-! ## The payload of the snapshot -/

theorem SnapshotOf.payload (h : SnapshotOf w python snapshot body policy) :
    snapshot.payload = (snapshotOf w snapshot.reportDate snapshot.asOf snapshot.cutoffAt
      snapshot.snapshotVersion snapshot.fingerprintSha256 body policy).payload :=
  congrArg ReportInputSnapshot.payload h.same

theorem SnapshotOf.factIds (h : SnapshotOf w python snapshot body policy) :
    snapshot.factIds = body.factIds :=
  congrArg ReportInputSnapshot.factIds h.same

theorem SnapshotOf.snapshotId (h : SnapshotOf w python snapshot body policy) :
    FitsText 1 128 snapshot.snapshotId := by
  have hid : snapshot.snapshotId = stableId w "report-input" [snapshot.snapshotVersion,
      Day.isoformat snapshot.reportDate, snapshot.fingerprintSha256] :=
    congrArg ReportInputSnapshot.snapshotId h.same
  rw [hid]
  exact stableId_fits (by decide) (by decide)

theorem SnapshotOf.rawFacts (h : SnapshotOf w python snapshot body policy) :
    rawFacts snapshot = body.facts := by
  have hget : snapshot.payload.get "facts" (.arr []) = .arr body.facts := by
    rw [h.payload]
    rfl
  unfold Report.rawFacts payloadObjects
  rw [hget]
  refine List.filter_eq_self.mpr ?_
  intro raw hraw
  obtain ⟨fields, rfl⟩ := (h.material.facts raw hraw).dict
  rfl

/-- The sources of a snapshot are those of its body. -/
theorem SnapshotOf.rawSources (h : SnapshotOf w python snapshot body policy) :
    rawSources snapshot = body.sourceReferences.map Prod.snd := by
  have hget : snapshot.payload.get "source_references" (.arr []) =
      .arr (body.sourceReferences.map Prod.snd) := by
    rw [h.payload]
    rfl
  unfold Report.rawSources payloadObjects
  rw [hget]
  refine List.filter_eq_self.mpr ?_
  intro raw hraw
  obtain ⟨entry, hentry, rfl⟩ := List.mem_map.mp hraw
  obtain ⟨cited, rfl⟩ := h.material.sources.cited entry hentry
  rfl

theorem SnapshotOf.inputQuality (h : SnapshotOf w python snapshot body policy) :
    inputQuality snapshot = .obj body.inputQuality := by
  have hget : snapshot.payload.get "input_quality" (.obj []) = .obj body.inputQuality := by
    rw [h.payload]
    rfl
  unfold Report.inputQuality
  rw [hget]

/-! ## The issues of the gate -/

/-- An issue whose texts are not blank. -/
def IssueGiven (issue : QualityGateIssue) : Prop :=
  modelStrip issue.code ≠ "" ∧ modelStrip issue.message ≠ ""

theorem statusCode_given (status : String) (required : Bool) :
    modelStrip (statusCode status required) ≠ "" := by
  refine @modelStrip_ne_empty _ '_' ?_ (by decide)
  unfold statusCode
  simp

/-- The issues about an entry that the materializer wrote. -/
theorem entryIssues_given {pyStr : Json → String} {inputId : String} {required : List String}
    {item : ReportInputEvidence} (hreason : modelStrip item.reason ≠ "") :
    ∀ issue ∈ entryIssues pyStr inputId (inputQualityEntry item).2 required,
      IssueGiven issue := by
  intro issue hissue
  -- an issue is about the declaration of the input or about its status
  rcases List.mem_append.mp hissue with hdeclared | hstatus
  · split at hdeclared
    · have hcode : modelStrip "REQUIRED_INPUT_DECLARATION_INVALID" ≠ "" := by decide +kernel
      have hmessage : modelStrip "required report input cannot be downgraded to optional" ≠ "" := by
        decide +kernel
      rw [List.mem_singleton.mp hdeclared]
      exact ⟨hcode, hmessage⟩
    · cases hdeclared
  -- the status issue carries the reason the materializer wrote, which is not empty
  · have hmessage : entryReason pyStr (inputQualityEntry item).2 = item.reason := rfl
    have hfound := Option.mem_toList.mp hstatus
    have hget : (inputQualityEntry item).2.get "status" =
        .str (evidenceStatusValue item.status) := rfl
    have hknown : evidenceStatusValue item.status ∈ knownStatuses := by
      cases item.status <;> decide
    rw [hget, hmessage] at hfound
    unfold issueForStatus at hfound
    simp only [not_not.mpr hknown, if_false] at hfound
    split_ifs at hfound
    cases hfound
    exact ⟨statusCode_given _ _, hreason⟩

theorem get_of_mem_keys {fields : List (String × Json)} {key : String}
    (h : key ∈ (Json.obj fields).keys) : ∃ field ∈ fields, (Json.obj fields).get key = field.2 := by
  obtain ⟨field, hfield, hkey⟩ := List.mem_map.mp h
  have hsome : (fields.find? fun other => other.1 = key).isSome :=
    List.find?_isSome.mpr ⟨field, hfield, decide_eq_true hkey⟩
  obtain ⟨found, hfound⟩ := Option.isSome_iff_exists.mp hsome
  refine ⟨found, List.mem_of_find?_eq_some hfound, ?_⟩
  show ((fields.find? fun other => other.1 = key).map Prod.snd).getD .null = found.2
  rw [hfound]
  rfl

/-- What the gate finds in a snapshot that it lets pass. -/
theorem SnapshotOf.issues_given (h : SnapshotOf w python snapshot body policy)
    {pyStr : Json → String} {result : QualityGateResult}
    (hresult : evaluate snapshot pyStr = .ok result)
    (hstatus : result.status = .passed ∨ result.status = .degraded) :
    ∀ issue ∈ result.issues, IssueGiven issue := by
  obtain ⟨inputs, hinputs, hnone, -, hfacts⟩ := evaluate_passed hresult hstatus
  -- the gate saw no fact of its own, so its issues are those of the inputs
  have hissues : result.issues = inputIssues pyStr (Report.inputQuality snapshot) inputs := by
    unfold evaluate at hresult
    rw [hinputs, hfacts] at hresult
    cases hresult
    exact List.append_nil _
  rw [hissues, h.inputQuality]
  intro issue hissue
  unfold inputIssues at hissue
  rw [hnone] at hissue
  simp only [Option.toList_none, List.nil_append, List.mem_append] at hissue
  -- the three lists of inputs have fixed messages
  rcases hissue with ((hrequired | hoptional) | hclosed) | hentry
  · obtain ⟨inputId, -, rfl⟩ := List.mem_map.mp hrequired
    constructor <;> simp only [requiredMissing] <;> decide +kernel
  · obtain ⟨inputId, -, rfl⟩ := List.mem_map.mp hoptional
    constructor <;> simp only [optionalMissing] <;> decide +kernel
  · obtain ⟨inputId, -, rfl⟩ := List.mem_map.mp hclosed
    constructor <;> simp only [scheduledClosure] <;> decide +kernel
  -- an entry of the snapshot was written by the materializer
  · obtain ⟨inputId, hkey, hmem⟩ := List.mem_flatMap.mp hentry
    obtain ⟨field, hfield, hget⟩ := get_of_mem_keys (mem_sortedSet.mp hkey)
    obtain ⟨item, rfl, hreason⟩ := h.material.quality field hfield
    rw [hget] at hmem
    exact entryIssues_given hreason issue hmem

/-- The issues of a snapshot that the gate lets pass are warnings. -/
theorem SnapshotOf.qualityIssues_ok (h : SnapshotOf w python snapshot body policy)
    {result : QualityGateResult} (hresult : evaluate snapshot python.str = .ok result)
    (hstatus : result.status = .passed ∨ result.status = .degraded) :
    ∃ issues, qualityIssues python snapshot = .ok issues ∧
      ∀ issue ∈ issues, issue.severity = .warning ∧ IssueTexts issue := by
  have hgiven := h.issues_given hresult hstatus
  have hdecision : result.status = decision result.issues := by
    obtain ⟨inputs, -, hrest⟩ := Raising.bind_ok.mp hresult
    obtain ⟨materialized, -, heq⟩ := Raising.bind_ok.mp hrest
    cases heq
    rfl
  rw [hdecision] at hstatus
  -- an issue that is given is never refused by the report's own contract
  have hall : ∀ issue ∈ result.issues, ∃ found, validationIssue issue = .ok found := by
    intro issue hissue
    obtain ⟨hcode, hmessage⟩ := hgiven issue hissue
    unfold validationIssue
    rw [if_neg (not_or.mpr ⟨hcode, hmessage⟩)]
    exact ⟨_, rfl⟩
  obtain ⟨issues, hissues⟩ := Raising.exists_mapM_ok.mpr hall
  refine ⟨issues, Raising.bind_ok.mpr ⟨result, hresult, hissues⟩, ?_⟩
  intro found hfound
  obtain ⟨issue, hissue, hvalid⟩ := Raising.exists_of_mem_mapM hissues hfound
  refine ⟨?_, validationIssue_texts hvalid⟩
  unfold validationIssue at hvalid
  split at hvalid
  · cases hvalid
  · cases hvalid
    -- an issue of a required input that did not block is one of a revision
    have hwarning : issue.required = false ∨ startsWith "REVISED_" issue.code = true := by
      cases hrequired : issue.required with
      | false => exact Or.inl rfl
      | true => exact Or.inr (decision_issue hstatus hissue hrequired)
    exact if_pos hwarning

end MacroPlatform.Report
