import Mathlib.Data.List.Nodup
import MacroPlatform.Contracts.Provider
import MacroPlatform.Lib.ConditionalUpdate
import MacroPlatform.Lib.Transaction

/-! # The `scheduled_task_checkpoints` row

The table is looked at for one report date and one task, so it holds at most one row.
`begin_or_load` and `advance` are programs on it that may raise, and are rolled back
with their transaction.

* `beginOrLoad_ok`: what a `begin_or_load` that returns has done;
* `advance_ok`: what an `advance` that returns has written.
-/

namespace MacroPlatform.Schedule

open ConditionalUpdate Transaction

/-- The check constraint of `status`. -/
inductive CheckpointStatus where
  | active
  | completed
deriving DecidableEq, Repr

/-- `ScheduledTaskCheckpointRow`. -/
structure ScheduledTaskCheckpointRow where
  reportDate : Day
  taskId : String
  providerRole : String
  dataset : String
  region : String
  requestAsOf : Instant
  status : CheckpointStatus
  nextCursor : Option String := none
  sourceWatermark : Option String := none
  runId : Option UUID := none
  runIds : List UUID := []
  recordsAccepted : ℕ := 0
  recordsRejected : ℕ := 0
  leaseEpoch : ℕ := 1
  leaseOwnerId : Option UUID := none
deriving DecidableEq

/-- `ScheduledTaskCheckpoint`. -/
structure ScheduledTaskCheckpoint where
  reportDate : Day
  taskId : String
  providerRole : String
  dataset : Dataset
  region : String
  requestAsOf : Instant
  status : CheckpointStatus
  nextCursor : Option String
  sourceWatermark : Option String
  runId : Option UUID
  runIds : List UUID
  recordsAccepted : ℕ
  recordsRejected : ℕ
  leaseEpoch : ℕ
  leaseOwnerId : Option UUID
deriving DecidableEq

abbrev CheckpointTable := Option ScheduledTaskCheckpointRow

/-- `_scheduled_task_checkpoint`. -/
def scheduledTaskCheckpoint (row : ScheduledTaskCheckpointRow) :
    Except String ScheduledTaskCheckpoint :=
  if ¬ row.runIds.Nodup then .error "scheduled task checkpoint has duplicate run IDs"
  else
    match Dataset.ofValue? row.dataset with
    | none => .error ("'" ++ row.dataset ++ "' is not a valid Dataset")
    | some dataset =>
        .ok {
          reportDate := row.reportDate
          taskId := row.taskId
          providerRole := row.providerRole
          dataset := dataset
          region := row.region
          requestAsOf := row.requestAsOf
          status := row.status
          nextCursor := row.nextCursor
          sourceWatermark := row.sourceWatermark
          runId := row.runId
          runIds := row.runIds
          recordsAccepted := row.recordsAccepted
          recordsRejected := row.recordsRejected
          leaseEpoch := row.leaseEpoch
          leaseOwnerId := row.leaseOwnerId }

/-- The arguments of `begin_or_load`. -/
structure CheckpointClaim where
  reportDate : Day
  taskId : String
  providerRole : String
  dataset : Dataset
  region : String
  requestAsOf : Instant
  leaseOwnerId : UUID

/-- The row that `begin_or_load` inserts. -/
def CheckpointClaim.inserted (claim : CheckpointClaim) : ScheduledTaskCheckpointRow :=
  { reportDate := claim.reportDate
    taskId := claim.taskId
    providerRole := claim.providerRole
    dataset := claim.dataset.value
    region := claim.region
    requestAsOf := claim.requestAsOf
    status := .active
    leaseOwnerId := some claim.leaseOwnerId }

/-- The row under its next lease. -/
def ScheduledTaskCheckpointRow.claimed (row : ScheduledTaskCheckpointRow)
    (leaseOwnerId : UUID) : ScheduledTaskCheckpointRow :=
  { row with leaseEpoch := row.leaseEpoch + 1, leaseOwnerId := some leaseOwnerId }

/-- The upsert of `begin_or_load`: the row is inserted, or an active one is claimed. -/
def claimCheckpoint (claim : CheckpointClaim) (table : CheckpointTable) :
    CheckpointTable × Option ScheduledTaskCheckpointRow :=
  match table with
  | none => (some claim.inserted, some claim.inserted)
  | some row =>
      updateWhere (fun row : ScheduledTaskCheckpointRow => row.status = .active)
        (·.claimed claim.leaseOwnerId) (some row)

/-- An `Except` as a program that leaves the table. -/
def fromExcept {α : Type} (x : Except String α) : EStateM String CheckpointTable α := fun table =>
  match x with
  | .ok a => .ok a table
  | .error message => .error message table

/-- `begin_or_load`. -/
def beginOrLoad (claim : CheckpointClaim) :
    EStateM String CheckpointTable ScheduledTaskCheckpoint := do
  let table ← get
  let claimed := claimCheckpoint claim table
  set claimed.1
  match claimed.2.or claimed.1 with
  | none => throw "scheduled task checkpoint was not persisted"
  | some row =>
      if row.providerRole ≠ claim.providerRole ∨ row.dataset ≠ claim.dataset.value ∨
          row.region ≠ claim.region then
        throw "scheduled task checkpoint identity was reused for another task"
      else fromExcept (scheduledTaskCheckpoint row)

/-- What `advance` is told of a page. -/
structure PageProgress where
  runId : UUID
  nextCursor : Option String
  sourceWatermark : Option String
  recordsAccepted : ℕ
  recordsRejected : ℕ
deriving DecidableEq

/-- The row is active, and under the lease of the checkpoint. -/
def ScheduledTaskCheckpointRow.LeasedTo (row : ScheduledTaskCheckpointRow)
    (checkpoint : ScheduledTaskCheckpoint) : Prop :=
  row.reportDate = checkpoint.reportDate ∧ row.taskId = checkpoint.taskId ∧
    row.status = .active ∧ row.leaseEpoch = checkpoint.leaseEpoch ∧
    row.leaseOwnerId = checkpoint.leaseOwnerId

instance (row : ScheduledTaskCheckpointRow) (checkpoint : ScheduledTaskCheckpoint) :
    Decidable (row.LeasedTo checkpoint) :=
  inferInstanceAs (Decidable (_ ∧ _ ∧ _ ∧ _ ∧ _))

/-- The run ids of a checkpoint with one more. -/
def withRun (runIds : List UUID) (runId : UUID) : List UUID :=
  if runId ∈ runIds then runIds else runIds ++ [runId]

theorem withRun_of_not_mem {runIds : List UUID} {runId : UUID} (h : runId ∉ runIds) :
    withRun runIds runId = runIds ++ [runId] :=
  if_neg h

/-- The row after a page; the run ids are those of the checkpoint, not of the row. -/
def ScheduledTaskCheckpointRow.advanced (row : ScheduledTaskCheckpointRow)
    (checkpoint : ScheduledTaskCheckpoint) (page : PageProgress) : ScheduledTaskCheckpointRow :=
  { row with
    status := if page.nextCursor = none then .completed else .active
    runId := some page.runId
    runIds := withRun checkpoint.runIds page.runId
    nextCursor := page.nextCursor
    sourceWatermark := page.sourceWatermark
    recordsAccepted := row.recordsAccepted + page.recordsAccepted
    recordsRejected := row.recordsRejected + page.recordsRejected }

/-- `advance`. -/
def advance (checkpoint : ScheduledTaskCheckpoint) (page : PageProgress) :
    EStateM String CheckpointTable ScheduledTaskCheckpoint := do
  if checkpoint.status = .completed then
    throw "completed scheduled task checkpoint cannot advance"
  let table ← get
  let updated := updateWhere (fun row : ScheduledTaskCheckpointRow => row.LeasedTo checkpoint)
    (·.advanced checkpoint page) table
  set updated.1
  match updated.2 with
  | none => throw "scheduled task checkpoint was lost before it advanced"
  | some row => fromExcept (scheduledTaskCheckpoint row)

/-! ## What each operation can do -/

theorem fromExcept_ok_iff {α : Type} {x : Except String α} {table table' : CheckpointTable}
    {a : α} : fromExcept x table = .ok a table' ↔ x = .ok a ∧ table' = table := by
  unfold fromExcept
  cases x with
  | ok b => simp [eq_comm]
  | error message => simp

/-- The checkpoint carries the columns of its row. -/
theorem scheduledTaskCheckpoint_ok {row : ScheduledTaskCheckpointRow}
    {checkpoint : ScheduledTaskCheckpoint} (h : scheduledTaskCheckpoint row = .ok checkpoint) :
    checkpoint.requestAsOf = row.requestAsOf ∧ checkpoint.status = row.status ∧
      checkpoint.nextCursor = row.nextCursor ∧ checkpoint.runIds = row.runIds ∧
      checkpoint.leaseEpoch = row.leaseEpoch ∧ checkpoint.leaseOwnerId = row.leaseOwnerId := by
  unfold scheduledTaskCheckpoint at h
  split_ifs at h with hnodup
  cases hdataset : Dataset.ofValue? row.dataset with
  | none => simp [hdataset] at h
  | some dataset =>
    simp only [hdataset, Except.ok.injEq] at h
    subst h
    exact ⟨rfl, rfl, rfl, rfl, rfl, rfl⟩

/-- An active checkpoint is claimed, a completed one stays. -/
theorem claimCheckpoint_cases (claim : CheckpointClaim) (row : ScheduledTaskCheckpointRow) :
    (row.status = .active ∧ claimCheckpoint claim (some row) =
      (some (row.claimed claim.leaseOwnerId), some (row.claimed claim.leaseOwnerId))) ∨
    (row.status = .completed ∧ claimCheckpoint claim (some row) = (some row, none)) := by
  rcases updateWhere_cases (fun row : ScheduledTaskCheckpointRow => row.status = .active)
    (·.claimed claim.leaseOwnerId) (some row) with ⟨r, hr, hactive, heq⟩ | ⟨hactive, heq⟩
  · cases hr
    exact Or.inl ⟨hactive, heq⟩
  · have hcompleted : row.status = .completed := by
      cases hstatus : row.status with
      | active => exact absurd hstatus (hactive row rfl)
      | completed => rfl
    exact Or.inr ⟨hcompleted, heq⟩

/-- A `begin_or_load` that returns has inserted the row, claimed it under the next epoch, or
found it completed. -/
theorem beginOrLoad_ok {claim : CheckpointClaim} {table table' : CheckpointTable}
    {checkpoint : ScheduledTaskCheckpoint}
    (h : beginOrLoad claim table = .ok checkpoint table') :
    ∃ row, table' = some row ∧ scheduledTaskCheckpoint row = .ok checkpoint ∧
      ((table = none ∧ row = claim.inserted) ∨
        (∃ old, table = some old ∧ old.status = .active ∧
          row = old.claimed claim.leaseOwnerId) ∨
        (table = some row ∧ row.status = .completed)) := by
  unfold beginOrLoad at h
  obtain ⟨read, table₁, hget, hread⟩ := bind_ok_iff.mp h
  obtain ⟨rfl, rfl⟩ := get_ok_iff.mp hget
  obtain ⟨⟨⟩, table₂, hset, hreturn⟩ := bind_ok_iff.mp hread
  have htable₂ := set_ok_iff.mp hset
  subst htable₂
  -- the row that is read back is the stored one, whether it was claimed or not
  have hback : ∀ row, (claimCheckpoint claim table).1 = some row →
      (claimCheckpoint claim table).2.or (claimCheckpoint claim table).1 = some row →
      table' = some row ∧ scheduledTaskCheckpoint row = .ok checkpoint := by
    intro row hstored hback
    simp only [hback] at hreturn
    split_ifs at hreturn with hidentity
    · exact absurd hreturn throw_not_ok
    · obtain ⟨hload, rfl⟩ := fromExcept_ok_iff.mp hreturn
      exact ⟨hstored, hload⟩
  cases table with
  | none =>
    obtain ⟨hstored, hload⟩ := hback claim.inserted rfl rfl
    exact ⟨_, hstored, hload, Or.inl ⟨rfl, rfl⟩⟩
  | some old =>
    rcases claimCheckpoint_cases claim old with ⟨hactive, heq⟩ | ⟨hcompleted, heq⟩
    · rw [heq] at hback
      obtain ⟨hstored, hload⟩ := hback _ rfl rfl
      exact ⟨_, hstored, hload, Or.inr (Or.inl ⟨old, rfl, hactive, rfl⟩)⟩
    · rw [heq] at hback
      obtain ⟨hstored, hload⟩ := hback old rfl rfl
      exact ⟨old, hstored, hload, Or.inr (Or.inr ⟨rfl, hcompleted⟩)⟩

/-- An `advance` that returns has written the row that its lease holds. -/
theorem advance_ok {checkpoint checkpoint' : ScheduledTaskCheckpoint} {page : PageProgress}
    {table table' : CheckpointTable} (h : advance checkpoint page table = .ok checkpoint' table') :
    ∃ row, table = some row ∧ row.LeasedTo checkpoint ∧
      table' = some (row.advanced checkpoint page) ∧
      scheduledTaskCheckpoint (row.advanced checkpoint page) = .ok checkpoint' := by
  unfold advance at h
  -- a completed checkpoint is refused before the row is looked at
  split_ifs at h with hcompleted
  · obtain ⟨⟨⟩, table₁, hthrow, h⟩ := bind_ok_iff.mp h
    exact absurd hthrow throw_not_ok
  · obtain ⟨read, table₁, hget, hread⟩ := bind_ok_iff.mp h
    obtain ⟨rfl, rfl⟩ := get_ok_iff.mp hget
    obtain ⟨⟨⟩, table₂, hset, hreturn⟩ := bind_ok_iff.mp hread
    have htable₂ := set_ok_iff.mp hset
    subst htable₂
    -- the update is guarded by the lease of the checkpoint
    rcases updateWhere_cases (fun row : ScheduledTaskCheckpointRow => row.LeasedTo checkpoint)
      (·.advanced checkpoint page) table with ⟨row, hrow, hleased, heq⟩ | ⟨-, heq⟩
    · simp only [heq] at hreturn
      obtain ⟨hload, rfl⟩ := fromExcept_ok_iff.mp hreturn
      exact ⟨row, hrow, hleased, rfl, hload⟩
    · simp only [heq] at hreturn
      exact absurd hreturn throw_not_ok

end MacroPlatform.Schedule
