import MacroPlatform.Lib.PythonValue
import MacroPlatform.Report.Published

/-! # The row of an input snapshot

The payload that the materializer hands to `put_input_snapshot` is a value in memory:
`to_payload` is `asdict`, and keeps the tuples of the policy. The column stores its JSON image,
and the second call compares the two.

* `HeldByMaterializer.not_equal`: a payload with its tuples is not equal to its image;
* `snapshot_never_stored_once`: a second call raises, from every store.
-/

namespace MacroPlatform.Report

open Daily

/-! ## The snapshot in memory -/

/-- `ReportDayPolicyResult.to_payload`, in memory. -/
def ReportDayPolicyResult.asdict (policy : ReportDayPolicyResult) : PyValue :=
  .dict
    [("policy_id", .plain (.str policy.policyId)),
      ("calendar_version", .plain (.str policy.calendarVersion)),
      ("report_date", .plain (.str policy.reportDate)),
      ("day_type", .plain (.str policy.dayType)),
      ("required_input_ids", .tuple (policy.requiredInputIds.map fun id => .plain (.str id))),
      ("optional_input_ids", .tuple (policy.optionalInputIds.map fun id => .plain (.str id))),
      ("regions", .tuple (policy.regions.map fun region => .dict
        [("region", .plain (.str region.region)),
          ("calendar_name", .plain (.str region.calendarName)),
          ("status", .plain (.str region.status)),
          ("market_input_id", .plain (.str region.marketInputId)),
          ("market_input_required", .plain (.bool region.marketInputRequired)),
          ("previous_session", .plain (.str region.previousSession))]))]

/-- The fields that the body and the payload of a snapshot share, in memory. -/
def SnapshotBody.heldFields (body : SnapshotBody) (policy : ReportDayPolicyResult) :
    List (String × PyValue) :=
  let facts := PyValue.plain (.arr body.facts)
  let sourceReferences := PyValue.plain (.arr (body.sourceReferences.map Prod.snd))
  let inputQuality := PyValue.plain (.obj body.inputQuality)
  [("fact_ids", .plain (strings body.factIds)), ("facts", facts),
    ("source_ref_ids", .plain (strings (body.sourceReferences.map Prod.fst))),
    ("source_references", sourceReferences), ("input_quality", inputQuality),
    ("report_day_policy", policy.asdict),
    ("editor_context", .dict
      [("facts", facts), ("source_references", sourceReferences),
        ("input_quality", inputQuality), ("report_day_policy", policy.asdict)])]

variable (w : Writing) (python : Python)

/-- `ReportInputSnapshot(...)` of a body, in memory. -/
def heldSnapshot (reportDate : Day) (asOf cutoffAt : Instant)
    (snapshotVersion fingerprint : String) (body : SnapshotBody)
    (policy : ReportDayPolicyResult) : ReportInputSnapshot PyValue :=
  let snapshotId := stableId w "report-input"
    [snapshotVersion, Day.isoformat reportDate, fingerprint]
  { snapshotId
    snapshotVersion
    reportDate
    asOf
    cutoffAt
    fingerprintSha256 := fingerprint
    factIds := body.factIds
    payload := .dict
      ([("snapshot_id", .plain (.str snapshotId)),
        ("snapshot_version", .plain (.str snapshotVersion)),
        ("as_of", .plain (.str (utcIsoformat asOf))),
        ("cutoff_at", .plain (.str (utcIsoformat cutoffAt))),
        ("fingerprint_sha256", .plain (.str fingerprint))] ++ body.heldFields policy) }

/-- `_snapshot_from_evidence`, in memory. -/
def heldFromEvidence (reportDate : Day) (asOf cutoffAt : Instant) (snapshotVersion : String)
    (evidence : List ReportInputEvidence) (policy : ReportDayPolicyResult) :
    Option (ReportInputSnapshot PyValue) := do
  let body ← snapshotBody python cutoffAt evidence
  if modelStrip snapshotVersion = snapshotVersion ∧ 1 ≤ snapshotVersion.length ∧
      snapshotVersion.length ≤ 32 ∧ ∀ id ∈ body.factIds, modelStrip id = id then
    some (heldSnapshot w reportDate asOf cutoffAt snapshotVersion
      (snapshotFingerprint w reportDate asOf cutoffAt snapshotVersion body policy) body policy)
  else none

/-- A snapshot that `materialize` hands to its store. -/
def HeldByMaterializer (snapshot : ReportInputSnapshot PyValue) : Prop :=
  ∃ asOf cutoffAt snapshotVersion evidence policy,
    (∀ item ∈ evidence, Collected w snapshot.reportDate cutoffAt item) ∧
      heldFromEvidence w python snapshot.reportDate asOf cutoffAt snapshotVersion
        (applyReportDayPolicy policy evidence) policy = some snapshot

/-- The JSONB columns of the tables, under SQLAlchemy. -/
def jsonb : JsonColumn PyValue Json where
  image := PyValue.image
  equal := PyValue.equals

/-- The row of a snapshot. -/
def snapshotRow (snapshot : ReportInputSnapshot PyValue) : ReportInputSnapshot Json :=
  { snapshot with payload := snapshot.payload.image }

/-! ## The image of what is held -/

theorem image_asdict (policy : ReportDayPolicyResult) :
    policy.asdict.image = policy.toPayload := by
  simp [ReportDayPolicyResult.asdict, ReportDayPolicyResult.toPayload, strings, PyValue.image,
    PyValue.imageFields_eq, PyValue.imageItems_eq, Function.comp_def]

/-- The row of a snapshot that is held is the snapshot that is stored. -/
theorem snapshotRow_heldSnapshot (reportDate : Day) (asOf cutoffAt : Instant)
    (snapshotVersion fingerprint : String) (body : SnapshotBody)
    (policy : ReportDayPolicyResult) :
    snapshotRow (heldSnapshot w reportDate asOf cutoffAt snapshotVersion fingerprint body
      policy) = snapshotOf w reportDate asOf cutoffAt snapshotVersion fingerprint body policy := by
  have hfields : PyValue.imageFields (body.heldFields policy) = body.payloadFields policy := by
    simp [SnapshotBody.heldFields, SnapshotBody.payloadFields, PyValue.imageFields,
      PyValue.image, image_asdict]
  simp only [snapshotRow, heldSnapshot, snapshotOf, PyValue.image]
  rw [PyValue.imageFields_eq, List.map_append, ← PyValue.imageFields_eq (body.heldFields policy),
    hfields]
  rfl

/-- The rows of what is held are the snapshots of the materializer. -/
theorem heldFromEvidence_rows (reportDate : Day) (asOf cutoffAt : Instant)
    (snapshotVersion : String) (evidence : List ReportInputEvidence)
    (policy : ReportDayPolicyResult) :
    (heldFromEvidence w python reportDate asOf cutoffAt snapshotVersion evidence policy).map
        snapshotRow =
      snapshotFromEvidence w python reportDate asOf cutoffAt snapshotVersion evidence policy := by
  unfold heldFromEvidence snapshotFromEvidence
  cases snapshotBody python cutoffAt evidence with
  | none => rfl
  | some body =>
    simp only [Option.bind_eq_bind, Option.bind_some]
    split
    · rw [Option.map_some, snapshotRow_heldSnapshot]
    · rfl

variable {w python} {snapshot other : ReportInputSnapshot PyValue} {s after : DailyStore Json}

/-- The materializer's payload is not equal to what the column gives back of it. -/
theorem HeldByMaterializer.not_equal (h : HeldByMaterializer w python snapshot) :
    PyValue.equals snapshot.payload.image snapshot.payload = false := by
  rcases h with ⟨asOf, cutoffAt, snapshotVersion, evidence, policy, -, hheld⟩
  unfold heldFromEvidence at hheld
  rcases Option.bind_eq_some_iff.mp hheld with ⟨body, -, hsome⟩
  split_ifs at hsome with hvalid
  rw [← Option.some.inj hsome]
  have hpolicy : PyValue.equals policy.asdict.image policy.asdict = false :=
    PyValue.not_equals_image_dict "required_input_ids" (by simp) (by simp; rfl)
      (PyValue.equals_image_tuple _)
  exact PyValue.not_equals_image_dict "report_day_policy" (by simp [SnapshotBody.heldFields])
    (by simp [SnapshotBody.heldFields]) hpolicy

/-! ## Two calls -/

/-- Storing a snapshot once from a store on: the second call finds the row of the first, and any
other content under the id is refused. -/
structure StoredOnce (snapshot : ReportInputSnapshot PyValue) (s : DailyStore Json) : Prop where
  again : ∃ after, putInputSnapshot jsonb snapshot s = .ok true after ∧
    putInputSnapshot jsonb snapshot after = .ok false after
  refused : ∀ after, putInputSnapshot jsonb snapshot s = .ok true after →
    ∀ other, other.snapshotId = snapshot.snapshotId → other ≠ snapshot →
      ∃ error, putInputSnapshot jsonb other after = .error error after

/-- A call that inserts leaves the row of its snapshot, under an id that was free. -/
theorem putInputSnapshot_inserted (h : putInputSnapshot jsonb snapshot s = .ok true after) :
    loadInputSnapshot snapshot.snapshotId after = some (snapshotRow snapshot) := by
  unfold putInputSnapshot at h
  split at h
  · split_ifs at h
    cases h
  · next hnone =>
    split_ifs at h
    cases h
    unfold loadInputSnapshot at hnone ⊢
    rw [List.find?_append, hnone]
    simp [snapshotRow, jsonb]

/-- The message of a call that finds another content under its id. -/
def immutableSnapshot : PythonError := valueError "report input snapshot is immutable"

/-- The comparison of a call with the row of another, under one id. -/
def SameContent (snapshot other : ReportInputSnapshot PyValue) : Prop :=
  { other with payload := snapshot.payload } = snapshot ∧
    PyValue.equals snapshot.payload.image other.payload = true

/-- A call that follows an insertion under its id leaves the rows: it finds its own content, or
it raises. -/
theorem putInputSnapshot_after (h : putInputSnapshot jsonb snapshot s = .ok true after)
    (hid : other.snapshotId = snapshot.snapshotId) :
    SameContent snapshot other ∧ putInputSnapshot jsonb other after = .ok false after ∨
      ¬ SameContent snapshot other ∧
        putInputSnapshot jsonb other after = .error immutableSnapshot after := by
  have hrow := putInputSnapshot_inserted h
  rw [← hid] at hrow
  unfold putInputSnapshot
  rw [hrow]
  have hdiffers : (snapshotRow snapshot).snapshotVersion ≠ other.snapshotVersion ∨
      (snapshotRow snapshot).reportDate ≠ other.reportDate ∨
      (snapshotRow snapshot).asOf ≠ other.asOf ∨
      (snapshotRow snapshot).cutoffAt ≠ other.cutoffAt ∨
      (snapshotRow snapshot).fingerprintSha256 ≠ other.fingerprintSha256 ∨
      (snapshotRow snapshot).factIds ≠ other.factIds ∨
      jsonb.equal (snapshotRow snapshot).payload other.payload = false ↔
        ¬ SameContent snapshot other := by
    rcases snapshot with ⟨id, version, date, asOf, cutoffAt, fingerprint, factIds, payload⟩
    rcases other with ⟨id', version', date', asOf', cutoffAt', fingerprint', factIds', payload'⟩
    cases hid
    simp only [SameContent, snapshotRow, jsonb, ReportInputSnapshot.mk.injEq, true_and, and_true,
      ← Bool.not_eq_true, ne_eq, eq_comm (a := version'), eq_comm (a := date'),
      eq_comm (a := asOf'), eq_comm (a := cutoffAt'), eq_comm (a := fingerprint'),
      eq_comm (a := factIds')]
    tauto
  by_cases hsame : SameContent snapshot other
  · exact Or.inl ⟨hsame, if_neg fun hraises => hdiffers.mp hraises hsame⟩
  · exact Or.inr ⟨hsame, if_pos (hdiffers.mpr hsame)⟩

/-- A second call finds the row of the first exactly when no tuple is inside its payload. -/
theorem putInputSnapshot_again (hkeys : snapshot.payload.image.KeysDistinct)
    (h : putInputSnapshot jsonb snapshot s = .ok true after) :
    putInputSnapshot jsonb snapshot after = .ok false after ↔ snapshot.payload.TupleFree := by
  rw [← PyValue.equals_image_iff _ hkeys]
  rcases putInputSnapshot_after h rfl with ⟨hsame, hput⟩ | ⟨hdiffers, hput⟩
  · exact iff_of_true hput hsame.2
  · rw [hput]
    constructor
    · nofun
    · intro hequal
      exact absurd ⟨rfl, hequal⟩ hdiffers

/-- A second call with a snapshot of the materializer raises, from every store. -/
theorem snapshot_never_stored_once (w : Writing) (python : Python)
    (snapshot : ReportInputSnapshot PyValue) (h : HeldByMaterializer w python snapshot)
    (s : DailyStore Json) :
    ¬ StoredOnce snapshot s ∧ ∀ after, putInputSnapshot jsonb snapshot s = .ok true after →
      putInputSnapshot jsonb snapshot after = .error immutableSnapshot after := by
  have hraises : ∀ after, putInputSnapshot jsonb snapshot s = .ok true after →
      putInputSnapshot jsonb snapshot after = .error immutableSnapshot after := by
    intro after hput
    rcases putInputSnapshot_after hput rfl with ⟨⟨-, hequal⟩, -⟩ | ⟨-, hagain⟩
    · rw [h.not_equal] at hequal
      cases hequal
    · exact hagain
  refine ⟨?_, hraises⟩
  intro honce
  rcases honce.again with ⟨after, hfirst, hsecond⟩
  rw [hraises after hfirst] at hsecond
  cases hsecond

/-! ## The snapshot of a Saturday -/

/-- The sample snapshot of a weekend, in memory. -/
def weekendHeld? (w : Writing) (title : String) : Option (ReportInputSnapshot PyValue) :=
  heldFromEvidence w .plain 20638 (20638 * dayMicroseconds + 600000000) sampleCutoff "v1"
    (applyReportDayPolicy weekendPolicy (sampleEvidence w title)) weekendPolicy

/-- The materializer holds the snapshot of the weekend. -/
theorem weekendHeld_byMaterializer {w : Writing} {title : String}
    {snapshot : ReportInputSnapshot PyValue} (h : weekendHeld? w title = some snapshot) :
    HeldByMaterializer w .plain snapshot := by
  have hdate : snapshot.reportDate = 20638 := by
    unfold weekendHeld? heldFromEvidence at h
    rcases Option.bind_eq_some_iff.mp h with ⟨body, -, hsome⟩
    split_ifs at hsome
    rw [← Option.some.inj hsome]
    rfl
  refine ⟨20638 * dayMicroseconds + 600000000, sampleCutoff, "v1", sampleEvidence w title,
    weekendPolicy, ?_, ?_⟩
  · rw [hdate]
    exact sampleEvidence_collected
  · rw [hdate]
    exact h

/-- A snapshot is inserted into a store without rows. -/
theorem putInputSnapshot_empty (snapshot : ReportInputSnapshot PyValue) :
    putInputSnapshot jsonb snapshot emptyStore =
      .ok true { emptyStore with snapshots := [snapshotRow snapshot] } := by
  simp [putInputSnapshot, loadInputSnapshot, emptyStore, snapshotRow, jsonb]

/-- The sample snapshot is inserted, and the same call once more raises. -/
theorem snapshot_stored_twice_raises : ∃ snapshot after,
    HeldByMaterializer shortWriting .plain snapshot ∧
      putInputSnapshot jsonb snapshot emptyStore = .ok true after ∧
      putInputSnapshot jsonb snapshot after = .error immutableSnapshot after := by
  have hsome : (weekendHeld? shortWriting "CN").isSome = true := by decide +kernel
  rcases Option.isSome_iff_exists.mp hsome with ⟨snapshot, hsnapshot⟩
  have hheld := weekendHeld_byMaterializer hsnapshot
  have hfirst := putInputSnapshot_empty snapshot
  refine ⟨snapshot, _, hheld, hfirst, ?_⟩
  rcases putInputSnapshot_after hfirst rfl with ⟨⟨-, hequal⟩, -⟩ | ⟨-, hagain⟩
  · rw [hheld.not_equal] at hequal
    cases hequal
  · exact hagain

theorem snapshot_never_stored_once_saturday : ∃ snapshot,
    HeldByMaterializer shortWriting .plain snapshot ∧ ¬ StoredOnce snapshot emptyStore ∧
      ∃ after, putInputSnapshot jsonb snapshot emptyStore = .ok true after ∧
        putInputSnapshot jsonb snapshot after = .error immutableSnapshot after := by
  have hsome : (weekendHeld? shortWriting "CN").isSome = true := by decide +kernel
  rcases Option.isSome_iff_exists.mp hsome with ⟨snapshot, hsnapshot⟩
  have hheld := weekendHeld_byMaterializer hsnapshot
  rcases snapshot_never_stored_once shortWriting .plain snapshot hheld emptyStore with
    ⟨honce, hraises⟩
  exact ⟨snapshot, hheld, honce, _, putInputSnapshot_empty snapshot,
    hraises _ (putInputSnapshot_empty snapshot)⟩

end MacroPlatform.Report
