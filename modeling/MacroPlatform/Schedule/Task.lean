import Mathlib.Logic.Function.Basic
import MacroPlatform.Schedule.Checkpoint
import MacroPlatform.Lib.Transition

/-! # `CheckpointedScheduledTask`

Any number of workers run one task for one report date. A step is a transaction of the
checkpoint store or an execution by the executor; a worker may crash between any two.

* `taskNext_step`: everything a step can do.
-/

namespace MacroPlatform.Schedule

open Transaction Transition

/-- `ScheduledTaskStatus`. -/
inductive ScheduledTaskStatus where
  | succeeded
  | failed
  | retryable
deriving DecidableEq, Repr

/-- `ScheduledTaskResult`. -/
structure ScheduledTaskResult where
  taskId : String
  providerRole : String
  status : ScheduledTaskStatus
  dataset : Option Dataset := none
  region : Option Region := none
  recordCount : ℕ := 0
  recordsRejected : ℕ := 0
  attemptNo : ℕ := 1
  runId : Option UUID := none
  runIds : List UUID := []
  errorCode : Option String := none
deriving DecidableEq

/-- `CheckpointedScheduledTask`; the lead is in microseconds. -/
structure CheckpointedScheduledTask where
  taskId : String
  providerRole : String
  dataset : Dataset
  region : Region
  requestFactory : Day → Instant → Option String → IngestJobRequest
  requestAsOfLead : ℤ := 86400000000

/-- `scheduled_task_result_from_checkpoint`. -/
def scheduledTaskResultFromCheckpoint (checkpoint : ScheduledTaskCheckpoint) :
    Except String ScheduledTaskResult :=
  match checkpoint.runId with
  | none => .error "completed scheduled task checkpoint is missing its durable run ID"
  | some runId =>
      match Region.ofValue? checkpoint.region with
      | none => .error ("'" ++ checkpoint.region ++ "' is not a valid Region")
      | some region =>
          .ok {
            taskId := checkpoint.taskId
            providerRole := checkpoint.providerRole
            dataset := some checkpoint.dataset
            region := some region
            status := .succeeded
            recordCount := checkpoint.recordsAccepted
            recordsRejected := checkpoint.recordsRejected
            runId := some runId
            runIds := checkpoint.runIds }

/-- Where a worker is in `run`. -/
inductive TaskPhase where
  | idle
  | executing (checkpoint : ScheduledTaskCheckpoint)
  | advancing (checkpoint : ScheduledTaskCheckpoint) (result : IngestJobResult)
  | returned (result : ScheduledTaskResult)
  | raised (message : String)
  | crashed

/-- What the executor does with a request: the result of its page, a result of a run that
did not finish, a `ProviderError`, or another exception. -/
inductive Execution where
  | page
  | unfinished (result : IngestJobResult)
  | providerError (code : String) (retryable : Bool)
  | exception (message : String)

variable (task : CheckpointedScheduledTask)

/-- The request of the next page. -/
def CheckpointedScheduledTask.request (reportDate : Day) (checkpoint : ScheduledTaskCheckpoint) :
    IngestJobRequest :=
  task.requestFactory reportDate checkpoint.requestAsOf checkpoint.nextCursor

/-- The claim that starts a run. -/
def CheckpointedScheduledTask.claim (reportDate : Day) (now : Instant) (leaseOwnerId : UUID) :
    CheckpointClaim :=
  { reportDate := reportDate
    taskId := task.taskId
    providerRole := task.providerRole
    dataset := task.dataset
    region := task.region.value
    requestAsOf := now + task.requestAsOfLead
    leaseOwnerId := leaseOwnerId }

/-- The result of a task that stops before its last page. -/
def CheckpointedScheduledTask.stopped (status : ScheduledTaskStatus) (runId : Option UUID)
    (errorCode : Option String) : ScheduledTaskResult :=
  { taskId := task.taskId
    providerRole := task.providerRole
    dataset := some task.dataset
    region := some task.region
    status := status
    runId := runId
    errorCode := errorCode }

/-- The checks on a result of the executor. -/
def CheckpointedScheduledTask.afterResult (checkpoint : ScheduledTaskCheckpoint)
    (result : IngestJobResult) : TaskPhase :=
  if result.providerRole.value ≠ task.providerRole ∨ result.dataset ≠ task.dataset then
    .raised "scheduled task received a mismatched durable ingestion result"
  else
    match result.status with
    | .retryWait =>
        .returned (task.stopped .retryable (some result.runId) (result.errorCode.map (·.value)))
    | .failed =>
        .returned (task.stopped .failed (some result.runId) (result.errorCode.map (·.value)))
    | .succeeded | .partially => .advancing checkpoint result

/-- A completed checkpoint ends the run; an active one asks for its next page. -/
def afterCheckpoint (checkpoint : ScheduledTaskCheckpoint) : TaskPhase :=
  if checkpoint.status = .completed then
    match scheduledTaskResultFromCheckpoint checkpoint with
    | .error message => .raised message
    | .ok result => .returned result
  else .executing checkpoint

/-- The arguments of `advance` for a result. -/
def pageProgress (result : IngestJobResult) : PageProgress :=
  { runId := result.runId
    nextCursor := result.nextCursor.map (·.value)
    sourceWatermark := result.sourceWatermark.map (·.value)
    recordsAccepted := result.recordsAccepted
    recordsRejected := result.recordsRejected }

/-! ## The system -/

/-- A lease: its epoch is its place in the list of all leases, counted from 1. -/
structure TaskLease where
  worker : ℕ
  leaseOwnerId : UUID
  requestAsOf : Instant
deriving DecidableEq, Repr

/-- The table and the workers; the leases that were granted, and the pages that were
counted, each with the cursor it was asked for with. -/
structure TaskSystem where
  table : CheckpointTable
  workers : ℕ → TaskPhase
  leases : List TaskLease
  counted : List (Option String × IngestJobResult)

inductive TaskAct where
  | begin (worker : ℕ) (now : Instant) (leaseOwnerId : UUID) (fate : CommitFate String)
  | execute (worker : ℕ) (execution : Execution)
  | advance (worker : ℕ) (fate : CommitFate String)
  | crash (worker : ℕ)

/-- The worker after a transaction. -/
def afterTransaction :
    EStateM.Result String CheckpointTable ScheduledTaskCheckpoint → TaskPhase
  | .ok checkpoint _ => afterCheckpoint checkpoint
  | .error message _ => .raised message

/-- The phase after an execution; a run that does not finish has no page to count. -/
def CheckpointedScheduledTask.afterExecution (execute : IngestJobRequest → IngestJobResult)
    (reportDate : Day) (checkpoint : ScheduledTaskCheckpoint) : Execution → Option TaskPhase
  | .page => some (task.afterResult checkpoint (execute (task.request reportDate checkpoint)))
  | .unfinished result =>
      if result.status = .failed ∨ result.status = .retryWait then
        some (task.afterResult checkpoint result)
      else none
  | .providerError code retryable =>
      some (.returned (task.stopped (if retryable then .retryable else .failed) none (some code)))
  | .exception message => some (.raised message)

variable (execute : IngestJobRequest → IngestJobResult) (reportDate : Day)

def taskNext (s : TaskSystem) : TaskAct → Option TaskSystem
  | .begin c now leaseOwnerId fate =>
      match s.workers c with
      | .idle =>
          let claim := task.claim reportDate now leaseOwnerId
          let outcome := transaction fate (beginOrLoad claim) s.table
          let table := finalState (transaction fate (beginOrLoad claim)) s.table
          some { s with
            table := table
            workers := Function.update s.workers c (afterTransaction outcome)
            leases := s.leases ++
              if table = s.table then [] else [⟨c, leaseOwnerId, claim.requestAsOf⟩] }
      | _ => none
  | .execute c execution =>
      match s.workers c with
      | .executing checkpoint =>
          (task.afterExecution execute reportDate checkpoint execution).map fun p =>
            { s with workers := Function.update s.workers c p }
      | _ => none
  | .advance c fate =>
      match s.workers c with
      | .advancing checkpoint result =>
          let body := advance checkpoint (pageProgress result)
          some { s with
            table := finalState (transaction fate body) s.table
            workers := Function.update s.workers c (afterTransaction (transaction fate body s.table))
            counted := s.counted ++
              if commits fate body s.table then [(checkpoint.nextCursor, result)] else [] }
      | _ => none
  | .crash c => some { s with workers := Function.update s.workers c .crashed }

def TaskNext : Action TaskSystem TaskAct := ofNext (taskNext task execute reportDate)

def TaskSystem.Init (s : TaskSystem) : Prop :=
  s.table = none ∧ (∀ c, s.workers c = .idle) ∧ s.leases = [] ∧ s.counted = []

/-! ## What each step can do -/

/-- What a worker does without writing the table. -/
inductive WorkerMoves (table : CheckpointTable) : TaskPhase → TaskPhase → Prop
  | raised {p : TaskPhase} {message : String} : WorkerMoves table p (.raised message)
  | crashed {p : TaskPhase} : WorkerMoves table p .crashed
  | loaded {row : ScheduledTaskCheckpointRow} {checkpoint : ScheduledTaskCheckpoint} :
      table = some row → row.status = .completed → scheduledTaskCheckpoint row = .ok checkpoint →
      WorkerMoves table .idle (afterCheckpoint checkpoint)
  | executed {checkpoint : ScheduledTaskCheckpoint} :
      WorkerMoves table (.executing checkpoint)
        (.advancing checkpoint (execute (task.request reportDate checkpoint)))
  | stopped {checkpoint : ScheduledTaskCheckpoint} {result : ScheduledTaskResult} :
      result.status ≠ .succeeded → WorkerMoves table (.executing checkpoint) (.returned result)

/-- The row of a granted lease. -/
def GrantedRow (table : CheckpointTable) (claim : CheckpointClaim)
    (row : ScheduledTaskCheckpointRow) : Prop :=
  (table = none ∧ row = claim.inserted) ∨
    ∃ old, table = some old ∧ old.status = .active ∧ row = old.claimed claim.leaseOwnerId

/-- The steps of the system, with all that guards them. -/
inductive TaskStep : TaskSystem → TaskSystem → Prop
  | move {s : TaskSystem} {c : ℕ} {p : TaskPhase} :
      WorkerMoves task execute reportDate s.table (s.workers c) p →
      TaskStep s { s with workers := Function.update s.workers c p }
  | grant {s : TaskSystem} {c : ℕ} {now : Instant} {leaseOwnerId : UUID}
      {row : ScheduledTaskCheckpointRow} {checkpoint : ScheduledTaskCheckpoint} {p : TaskPhase} :
      s.workers c = .idle → GrantedRow s.table (task.claim reportDate now leaseOwnerId) row →
      scheduledTaskCheckpoint row = .ok checkpoint →
      (p = afterCheckpoint checkpoint ∨ ∃ message, p = .raised message) →
      TaskStep s { s with
        table := some row
        workers := Function.update s.workers c p
        leases := s.leases ++ [⟨c, leaseOwnerId, now + task.requestAsOfLead⟩] }
  | count {s : TaskSystem} {c : ℕ} {checkpoint checkpoint' : ScheduledTaskCheckpoint}
      {result : IngestJobResult} {row : ScheduledTaskCheckpointRow} {p : TaskPhase} :
      s.workers c = .advancing checkpoint result → s.table = some row →
      row.LeasedTo checkpoint →
      scheduledTaskCheckpoint (row.advanced checkpoint (pageProgress result)) = .ok checkpoint' →
      (p = afterCheckpoint checkpoint' ∨ ∃ message, p = .raised message) →
      TaskStep s { s with
        table := some (row.advanced checkpoint (pageProgress result))
        workers := Function.update s.workers c p
        counted := s.counted ++ [(checkpoint.nextCursor, result)] }

variable {task execute reportDate}

/-- The worker of a transaction that was kept goes on with its checkpoint, or has raised. -/
theorem afterTransaction_of_kept {fate : CommitFate String}
    {body : EStateM String CheckpointTable ScheduledTaskCheckpoint}
    {table table' : CheckpointTable} {checkpoint : ScheduledTaskCheckpoint}
    (h : transaction fate body table = .ok checkpoint table' ∨
      ∃ e, transaction fate body table = .error e table') :
    afterTransaction (transaction fate body table) = afterCheckpoint checkpoint ∨
      ∃ message, afterTransaction (transaction fate body table) = .raised message := by
  rcases h with hok | ⟨e, herror⟩
  · left
    rw [hok]
    rfl
  · right
    exact ⟨e, by rw [herror]; rfl⟩

/-- The beginning of an execution is a step of the relation. -/
theorem begin_step {s : TaskSystem} {c : ℕ} {now : Instant} {leaseOwnerId : UUID}
    {fate : CommitFate String} (hc : s.workers c = .idle) {s' : TaskSystem}
    (h : taskNext task execute reportDate s (.begin c now leaseOwnerId fate) = some s') :
    TaskStep task execute reportDate s s' := by
  simp only [taskNext, hc, Option.some.injEq] at h
  subst h
  -- the transaction was kept, acknowledged or not, or was rolled back
  rcases transaction_cases fate (beginOrLoad (task.claim reportDate now leaseOwnerId)) s.table with
    ⟨checkpoint, table, hbody, -, htable, hkept⟩ | ⟨-, htable, e, herror⟩
  · have hresult := afterTransaction_of_kept hkept
    obtain ⟨row, rfl, hload, hrow⟩ := beginOrLoad_ok hbody
    rw [htable]
    -- the row was inserted, claimed, or found completed
    rcases hrow with ⟨hnone, hinserted⟩ | ⟨old, hold, hactive, hclaimed⟩ | ⟨hsome, hcompleted⟩
    · have hnew : some row ≠ s.table := by simp [hnone]
      rw [if_neg hnew]
      exact .grant hc (Or.inl ⟨hnone, hinserted⟩) hload hresult
    · have hnew : some row ≠ s.table := by
        rw [hold, hclaimed]
        -- a claim raises the epoch, so the row is another one
        intro hsame
        have hepoch := congrArg (fun r => r.leaseEpoch) (Option.some.inj hsame)
        simp [ScheduledTaskCheckpointRow.claimed] at hepoch
      rw [if_neg hnew]
      exact .grant hc (Or.inr ⟨old, hold, hactive, hclaimed⟩) hload hresult
    · -- a completed row is only read
      rw [if_pos hsome.symm, List.append_nil, ← hsome]
      rcases hresult with hloaded | ⟨message, hraised⟩
      · rw [hloaded]
        exact .move (by rw [hc]; exact .loaded hsome hcompleted hload)
      · rw [hraised]
        exact .move .raised
  -- nothing was kept
  · rw [htable, herror, if_pos rfl, List.append_nil]
    exact .move .raised

/-- So is the advance of the checkpoint. -/
theorem advance_step {s : TaskSystem} {c : ℕ} {checkpoint : ScheduledTaskCheckpoint}
    {result : IngestJobResult} {fate : CommitFate String}
    (hc : s.workers c = .advancing checkpoint result) {s' : TaskSystem}
    (h : taskNext task execute reportDate s (.advance c fate) = some s') :
    TaskStep task execute reportDate s s' := by
  simp only [taskNext, hc, Option.some.injEq] at h
  subst h
  rcases transaction_cases fate (advance checkpoint (pageProgress result)) s.table with
    ⟨checkpoint', table, hbody, hcommits, htable, hkept⟩ | ⟨hcommits, htable, e, herror⟩
  · have hresult := afterTransaction_of_kept hkept
    obtain ⟨row, hrow, hleased, rfl, hload⟩ := advance_ok hbody
    rw [htable, hcommits, if_pos rfl]
    exact .count hc hrow hleased hload hresult
  · rw [htable, herror, hcommits, if_neg (by simp), List.append_nil]
    exact .move .raised

/-- A result moves the worker on. -/
theorem afterResult_moves {table : CheckpointTable} {checkpoint : ScheduledTaskCheckpoint}
    {result : IngestJobResult} (h : result.status ≠ .failed ∧ result.status ≠ .retryWait →
      result = execute (task.request reportDate checkpoint)) :
    WorkerMoves task execute reportDate table (.executing checkpoint)
      (task.afterResult checkpoint result) := by
  unfold CheckpointedScheduledTask.afterResult
  split_ifs with hmismatch
  · exact .raised
  · cases hstatus : result.status with
    | retryWait => exact .stopped (by simp [CheckpointedScheduledTask.stopped])
    | failed => exact .stopped (by simp [CheckpointedScheduledTask.stopped])
    | succeeded | partially =>
      rw [h (by simp [hstatus])]
      exact .executed

/-- So is the execution of a page. -/
theorem execute_step {s : TaskSystem} {c : ℕ} {checkpoint : ScheduledTaskCheckpoint}
    {execution : Execution} (hc : s.workers c = .executing checkpoint) {s' : TaskSystem}
    (h : taskNext task execute reportDate s (.execute c execution) = some s') :
    TaskStep task execute reportDate s s' := by
  simp only [taskNext, hc] at h
  obtain ⟨p, hp, rfl⟩ := Option.map_eq_some_iff.mp h
  apply TaskStep.move
  rw [hc]
  -- what the executor came back with
  cases execution with
  | page =>
    cases hp
    exact afterResult_moves fun _ => rfl
  | unfinished result =>
    -- a result that is not a success ends the task
    simp only [CheckpointedScheduledTask.afterExecution] at hp
    split_ifs at hp with hstatus
    cases hp
    exact afterResult_moves fun hdone => absurd hstatus (by simp [hdone])
  | providerError code retryable =>
    cases hp
    refine .stopped ?_
    cases retryable <;> simp [CheckpointedScheduledTask.stopped]
  | exception message =>
    cases hp
    exact .raised

/-- Every executable step is a step of the relation. -/
theorem taskNext_step {s s' : TaskSystem} {a : TaskAct}
    (h : TaskNext task execute reportDate s a s') : TaskStep task execute reportDate s s' := by
  have h : taskNext task execute reportDate s a = some s' := h
  cases a with
  | begin c now leaseOwnerId fate =>
    -- each step is defined at one phase alone
    cases hc : s.workers c with
    | idle => exact begin_step hc h
    | executing | advancing | returned | raised | crashed => simp [taskNext, hc] at h
  | execute c execution =>
    cases hc : s.workers c with
    | executing checkpoint => exact execute_step hc h
    | idle | advancing | returned | raised | crashed => simp [taskNext, hc] at h
  | advance c fate =>
    cases hc : s.workers c with
    | advancing checkpoint result => exact advance_step hc h
    | idle | executing | returned | raised | crashed => simp [taskNext, hc] at h
  | crash c =>
    cases h
    exact .move .crashed

end MacroPlatform.Schedule
