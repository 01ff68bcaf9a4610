import Mathlib.Logic.Function.Basic
import MacroPlatform.Ingestion.Run
import MacroPlatform.Lib.Transition

/-! # `JobRunner.execute` over one run

Any number of workers execute requests of one idempotency key. Every transaction is
one step and reads a clock of its own; the handler runs between two steps, with the
heartbeat renewing the lease at any time; and a process may stop anywhere.

* `runNext_step`: everything a step can do.
-/

namespace MacroPlatform.Ingestion

open Transition

/-- The lease duration of a `JobRunner`. -/
structure JobRunner where
  runLease : ℤ := 60000000
  runLease_pos : 0 < runLease := by decide

/-- An exception: the name of its type and its text. -/
structure JobError where
  typeName : String
  message : String
deriving DecidableEq, Repr

def valueError (message : String) : JobError := ⟨"ValueError", message⟩

def inProgress (message : String) : JobError := ⟨"IngestionRunInProgressError", message⟩

/-- Where an execution stands: the transaction that comes next, or the handler. -/
inductive WorkerPhase where
  | idle
  | acquiring (request : IngestJobRequest)
  | waiting (request : IngestJobRequest) (runId : UUID)
  | running (request : IngestJobRequest) (lease : IngestionRunLease)
  | completing (request : IngestJobRequest) (lease : IngestionRunLease)
      (result : IngestJobResult)
  | failing (lease : IngestionRunLease) (error : JobError)
  | closing (outcome : Except JobError IngestJobResult)
  | returned (result : IngestJobResult)
  | raised (error : JobError)
  | crashed

/-- The run, its workers, the leases granted so far and the result that completed it. -/
structure RunSystem where
  row : RunRow
  workers : ℕ → WorkerPhase
  leases : List IngestionRunLease
  completed : Option IngestJobResult

def RunSystem.Init (s : RunSystem) : Prop :=
  s.row = none ∧ (∀ c, s.workers c = .idle) ∧ s.leases = [] ∧ s.completed = none

def emptyRuns : RunSystem :=
  { row := none, workers := fun _ => .idle, leases := [], completed := none }

/-- `poll` takes whether the wait has run out; `finish` what the handler comes back with;
`fault` an exception of a transaction, which is rolled back; `close` an exception of the
heartbeat. -/
inductive RunAct where
  | execute (worker : ℕ) (request : IngestJobRequest)
  | acquire (worker : ℕ) (runId : UUID) (now : Instant)
  | poll (worker : ℕ) (now : Instant) (timedOut : Bool)
  | finish (worker : ℕ) (outcome : Except JobError IngestJobResult)
  | complete (worker : ℕ)
  | fail (worker : ℕ)
  | renew (worker : ℕ) (now : Instant)
  | fault (worker : ℕ) (error : JobError)
  | close (worker : ℕ) (heartbeatError : Option JobError)
  | crash (worker : ℕ)

/-! ## The transactions of one execution -/

/-- The row after a transaction, where the worker stands, and the lease it was granted. -/
structure RunEffect where
  row : RunRow
  phase : WorkerPhase
  lease : Option IngestionRunLease := none

/-- The transaction of `_acquire_checkpointed_run`. -/
def acquireStep (runner : JobRunner) (row : RunRow) (request : IngestJobRequest) (runId : UUID)
    (now : Instant) : RunEffect :=
  match acquireRun row request runId now (now + runner.runLease) with
  | .error message => { row := row, phase := .raised (valueError message) }
  | .ok (row', some lease, _) =>
      { row := row', phase := .running request lease, lease := some lease }
  | .ok (row', none, existingId) =>
      match loadCompletedResult row' existingId with
      | .error message => { row := row', phase := .raised ⟨"ValidationError", message⟩ }
      | .ok (some result) => { row := row', phase := .returned result }
      | .ok none => { row := row', phase := .waiting request existingId }

/-- One turn of the loop of `_wait_or_reclaim_run`. -/
def pollStep (runner : JobRunner) (row : RunRow) (request : IngestJobRequest) (runId : UUID)
    (now : Instant) (timedOut : Bool) : RunEffect :=
  match loadCompletedResult row runId with
  | .error message => { row := row, phase := .raised ⟨"ValidationError", message⟩ }
  | .ok (some result) => { row := row, phase := .returned result }
  | .ok none =>
      match claimRecoverableRun row runId now (now + runner.runLease) with
      | (row', some lease) =>
          { row := row', phase := .running request lease, lease := some lease }
      | (row', none) =>
          match loadRun row' runId with
          | none =>
              { row := row', phase := .raised
                  (inProgress "durable ingestion run disappeared before recovery") }
          | some run =>
              if run.status ≠ .running then
                { row := row', phase := .raised (inProgress
                    ("durable ingestion run finished without a replayable result: " ++
                      run.status.value)) }
              else if timedOut then
                { row := row', phase := .raised (inProgress
                    ("durable ingestion run " ++ toString runId ++
                      " is still running; retry after its owner finishes")) }
              else { row := row', phase := .waiting request runId }

/-- `execute` with what its handler came back with. -/
def finishStep (request : IngestJobRequest) (lease : IngestionRunLease) :
    Except JobError IngestJobResult → WorkerPhase
  | .error error => .failing lease error
  | .ok result =>
      if result.providerRole ≠ request.providerRole ∨ result.dataset ≠ request.dataset then
        .failing lease (valueError "job result does not match its request")
      else if result.runId ≠ lease.runId then
        .failing lease (valueError "durable ingestion handler returned a different run ID")
      else .completing request lease result

/-- The lease that the heartbeat of a worker renews. -/
def WorkerPhase.lease? : WorkerPhase → Option IngestionRunLease
  | .running _ lease | .completing _ lease _ | .failing lease _ => some lease
  | _ => none

/-- Where the exception of a transaction leads. -/
def faultStep (error : JobError) : WorkerPhase → Option WorkerPhase
  | .acquiring _ | .waiting .. => some (.raised error)
  | .completing _ lease _ => some (.failing lease error)
  | .failing .. => some (.closing (.error error))
  | _ => none

/-- `finally`: the heartbeat's own exception comes before the outcome. -/
def closeStep (outcome : Except JobError IngestJobResult) (heartbeatError : Option JobError) :
    WorkerPhase :=
  match heartbeatError, outcome with
  | some error, _ => .raised error
  | none, .error error => .raised error
  | none, .ok result => .returned result

def RunSystem.setWorker (s : RunSystem) (c : ℕ) (p : WorkerPhase) : RunSystem :=
  { s with workers := Function.update s.workers c p }

def RunSystem.apply (s : RunSystem) (c : ℕ) (e : RunEffect) : RunSystem :=
  { s with
    row := e.row
    workers := Function.update s.workers c e.phase
    leases := s.leases ++ e.lease.toList }

/-- One step of the system. -/
def runNext (runner : JobRunner) (s : RunSystem) : RunAct → Option RunSystem
  | .execute c request =>
      match s.workers c with
      | .idle => some (s.setWorker c (.acquiring request))
      | _ => none
  | .acquire c runId now =>
      match s.workers c with
      | .acquiring request => some (s.apply c (acquireStep runner s.row request runId now))
      | _ => none
  | .poll c now timedOut =>
      match s.workers c with
      | .waiting request runId =>
          some (s.apply c (pollStep runner s.row request runId now timedOut))
      | _ => none
  | .finish c outcome =>
      match s.workers c with
      | .running request lease => some (s.setWorker c (finishStep request lease outcome))
      | _ => none
  | .complete c =>
      match s.workers c with
      | .completing _ lease result =>
          let (row', completed) := completeRun s.row result lease
          if completed then
            some { s with
              row := row'
              workers := Function.update s.workers c (.closing (.ok result))
              completed :=
                if (RunStatus.ended result.status).replayable then some result
                else s.completed }
          else
            some { s with
              row := row'
              workers := Function.update s.workers c (.failing lease
                (inProgress "durable ingestion run lease was lost before completion")) }
      | _ => none
  | .fail c =>
      match s.workers c with
      | .failing lease error =>
          some { s with
            row := (failRun s.row lease error.typeName.toUpper).1
            workers := Function.update s.workers c (.closing (.error error)) }
      | _ => none
  | .renew c now =>
      (s.workers c).lease?.map fun lease =>
        { s with row := (renewLease s.row lease (now + runner.runLease)).1 }
  | .fault c error => (faultStep error (s.workers c)).map fun p => s.setWorker c p
  | .close c heartbeatError =>
      match s.workers c with
      | .closing outcome => some (s.setWorker c (closeStep outcome heartbeatError))
      | _ => none
  | .crash c => some (s.setWorker c .crashed)

def RunNext (runner : JobRunner) : Action RunSystem RunAct := ofNext (runNext runner)

/-! ## What a step can do -/

/-- A step of a worker that leaves the run as it is. -/
inductive WorkerStays (row : RunRow) : WorkerPhase → WorkerPhase → Prop
  | acquired {request : IngestJobRequest} {r : ProviderRun} : row = some r →
      r.requestPayload = request → loadCompletedResult row r.runId = .ok none →
      WorkerStays row (.acquiring request) (.waiting request r.runId)
  | replayed {request : IngestJobRequest} {result : IngestJobResult} {r : ProviderRun} :
      row = some r → loadCompletedResult row r.runId = .ok (some result) →
      WorkerStays row (.acquiring request) (.returned result)
  | replayedLater {request : IngestJobRequest} {runId : UUID} {result : IngestJobResult} :
      loadCompletedResult row runId = .ok (some result) →
      WorkerStays row (.waiting request runId) (.returned result)
  | polled {request : IngestJobRequest} {runId : UUID} :
      WorkerStays row (.waiting request runId) (.waiting request runId)
  | refused {request : IngestJobRequest} {error : JobError} :
      WorkerStays row (.acquiring request) (.raised error)
  | gaveUp {request : IngestJobRequest} {runId : UUID} {error : JobError} :
      WorkerStays row (.waiting request runId) (.raised error)
  | finished {request : IngestJobRequest} {lease : IngestionRunLease}
      {result : IngestJobResult} : result.providerRole = request.providerRole →
      result.dataset = request.dataset → result.runId = lease.runId →
      WorkerStays row (.running request lease) (.completing request lease result)
  | erred {request : IngestJobRequest} {lease : IngestionRunLease} {error : JobError} :
      WorkerStays row (.running request lease) (.failing lease error)
  | lost {request : IngestJobRequest} {lease : IngestionRunLease} {result : IngestJobResult}
      {error : JobError} :
      WorkerStays row (.completing request lease result) (.failing lease error)
  | notFailed {lease : IngestionRunLease} {error error' : JobError} :
      WorkerStays row (.failing lease error) (.closing (.error error'))
  | closed {outcome : Except JobError IngestJobResult} {heartbeatError : Option JobError} :
      WorkerStays row (.closing outcome) (closeStep outcome heartbeatError)

/-- A worker is granted the lease of `row`. -/
def RunSystem.granted (s : RunSystem) (c : ℕ) (request : IngestJobRequest) (row : ProviderRun) :
    RunSystem :=
  { s with
    row := some row
    workers := Function.update s.workers c (.running request ⟨row.runId, row.attemptNo⟩)
    leases := s.leases ++ [⟨row.runId, row.attemptNo⟩] }

/-- Everything one step can do, guards included. -/
inductive RunStep (s : RunSystem) : RunSystem → Prop
  | execute {c : ℕ} {request : IngestJobRequest} : s.workers c = .idle →
      RunStep s (s.setWorker c (.acquiring request))
  | crash {c : ℕ} : RunStep s (s.setWorker c .crashed)
  | stay {c : ℕ} {p : WorkerPhase} : WorkerStays s.row (s.workers c) p →
      RunStep s (s.setWorker c p)
  | insert {c : ℕ} {request : IngestJobRequest} {runId : UUID} {now expiresAt : Instant} :
      s.workers c = .acquiring request → s.row = none →
      RunStep s (s.granted c request (insertedRun request runId now expiresAt))
  | claim {c : ℕ} {request : IngestJobRequest} {r : ProviderRun} {now expiresAt : Instant} :
      s.workers c = .waiting request r.runId → s.row = some r → r.Recoverable now →
      RunStep s (s.granted c request (r.claimed now expiresAt))
  | renew {c : ℕ} {lease : IngestionRunLease} {r : ProviderRun} {expiresAt : Instant} :
      (s.workers c).lease? = some lease → s.row = some r →
      r.HeldBy lease.runId lease.attemptNo →
      RunStep s { s with row := some { r with leaseExpiresAt := some expiresAt } }
  | stale : RunStep s s
  | complete {c : ℕ} {request : IngestJobRequest} {lease : IngestionRunLease}
      {result : IngestJobResult} {r : ProviderRun} :
      s.workers c = .completing request lease result → s.row = some r →
      r.HeldBy result.runId lease.attemptNo →
      RunStep s { s with
        row := some (r.completed result)
        workers := Function.update s.workers c (.closing (.ok result))
        completed :=
          if (RunStatus.ended result.status).replayable then some result else s.completed }
  | fail {c : ℕ} {lease : IngestionRunLease} {error : JobError} {r : ProviderRun}
      {errorCode : String} :
      s.workers c = .failing lease error → s.row = some r →
      r.HeldBy lease.runId lease.attemptNo →
      RunStep s { s with
        row := some { r with
          status := .ended .failed, errorCode := some errorCode, leaseExpiresAt := none }
        workers := Function.update s.workers c (.closing (.error error)) }

/-- A transaction that only moves its worker. -/
theorem stay_step {s : RunSystem} {c : ℕ} {p q : WorkerPhase} (hc : s.workers c = p)
    (h : WorkerStays s.row p q) : RunStep s (s.apply c { row := s.row, phase := q }) := by
  have hstay : RunStep s (s.setWorker c q) := .stay (by rwa [hc])
  simpa [RunSystem.apply, RunSystem.setWorker] using hstay

/-- The first transaction of an execution is a step of the relation. -/
theorem acquire_step {runner : JobRunner} {s : RunSystem} {c : ℕ} {request : IngestJobRequest}
    {runId : UUID} {now : Instant} (hc : s.workers c = .acquiring request) :
    RunStep s (s.apply c (acquireStep runner s.row request runId now)) := by
  -- the key has no run yet, or one of a request
  cases hrow : s.row with
  | none => exact @RunStep.insert s c request runId now _ hc hrow
  | some r =>
    -- another request under the key is refused
    by_cases hsame : r.requestPayload = request
    · have hacquire : acquireRun s.row request runId now (now + runner.runLease) =
          .ok (s.row, none, r.runId) := by
        simp [acquireRun, hrow, hsame]
      rw [← hrow]
      simp only [acquireStep, hacquire]
      -- a completed run is replayed, any other one is waited for
      cases hload : loadCompletedResult s.row r.runId with
      | error message => exact stay_step hc .refused
      | ok result =>
        cases result with
        | none => exact stay_step hc (.acquired hrow hsame hload)
        | some result => exact stay_step hc (.replayed hrow hload)
    · have hacquire : acquireRun s.row request runId now (now + runner.runLease) =
          .error "ingestion-run idempotency key was reused for a different request" := by
        simp [acquireRun, hrow, hsame]
      rw [← hrow]
      simp only [acquireStep, hacquire]
      exact stay_step hc .refused

/-- So is a poll while another worker runs. -/
theorem poll_step {runner : JobRunner} {s : RunSystem} {c : ℕ} {request : IngestJobRequest}
    {runId : UUID} {now : Instant} {timedOut : Bool} (hc : s.workers c = .waiting request runId) :
    RunStep s (s.apply c (pollStep runner s.row request runId now timedOut)) := by
  unfold pollStep
  cases hload : loadCompletedResult s.row runId with
  | error message => exact stay_step hc .gaveUp
  | ok result =>
    cases result with
    | some result => exact stay_step hc (.replayedLater hload)
    | none =>
      -- the poll claims a run that can be recovered, or waits on
      rcases claimRecoverableRun_cases s.row runId now (now + runner.runLease) with
        ⟨r, hrow, rfl, hrecoverable, heq⟩ | ⟨-, heq⟩
      · simp only [heq]
        exact .claim hc hrow hrecoverable
      · simp only [heq]
        cases hrun : loadRun s.row runId with
        | none => exact stay_step hc .gaveUp
        | some run =>
          simp only
          -- it gives up when the run has ended without a result, or when its time is over
          split_ifs
          · exact stay_step hc .gaveUp
          · exact stay_step hc .gaveUp
          · exact stay_step hc .polled

/-- So is the end of the job. -/
theorem finish_step {s : RunSystem} {c : ℕ} {request : IngestJobRequest}
    {lease : IngestionRunLease} (hc : s.workers c = .running request lease)
    (outcome : Except JobError IngestJobResult) :
    RunStep s (s.setWorker c (finishStep request lease outcome)) := by
  apply RunStep.stay
  rw [hc]
  cases outcome with
  | error error => exact .erred
  | ok result =>
    simp only [finishStep]
    split_ifs with hmismatch hid
    · exact .erred
    · exact .erred
    · rw [not_or, not_not, not_not] at hmismatch
      exact .finished hmismatch.1 hmismatch.2 (not_not.mp hid)

/-- So is the storing of its result. -/
theorem complete_step {runner : JobRunner} {s s' : RunSystem} {c : ℕ}
    (h : runNext runner s (.complete c) = some s') : RunStep s s' := by
  cases hc : s.workers c with
  | completing request lease result =>
    rcases heldBy_cases s.row result.runId lease.attemptNo
      (·.completed result) with ⟨r, hrow, hheld, heq⟩ | ⟨-, heq⟩
    · have hcomplete : completeRun s.row result lease = (some (r.completed result), true) := by
        simp [completeRun, heq]
      simp only [runNext, hc, hcomplete, if_true, Option.some.injEq] at h
      subst h
      exact .complete hc hrow hheld
    · have hcomplete : completeRun s.row result lease = (s.row, false) := by
        simp [completeRun, heq]
      simp only [runNext, hc, hcomplete, Bool.false_eq_true, if_false, Option.some.injEq] at h
      subst h
      exact .stay (by rw [hc]; exact .lost)
  | idle | acquiring | waiting | running | failing | closing | returned | raised | crashed =>
    simp [runNext, hc] at h

/-- So is the storing of its failure. -/
theorem fail_step {s : RunSystem} {c : ℕ} {lease : IngestionRunLease} {error : JobError}
    (hc : s.workers c = .failing lease error) (errorCode : String) :
    RunStep s { s with
      row := (failRun s.row lease errorCode).1
      workers := Function.update s.workers c (.closing (.error error)) } := by
  rcases heldBy_cases s.row lease.runId lease.attemptNo
    (fun r => { r with
      status := .ended .failed, errorCode := some errorCode, leaseExpiresAt := none }) with
    ⟨r, hrow, hheld, heq⟩ | ⟨-, heq⟩
  · rw [failRun, heq]
    exact .fail hc hrow hheld
  · rw [failRun, heq]
    exact .stay (by rw [hc]; exact .notFailed)

theorem renew_step {s : RunSystem} {c : ℕ} {lease : IngestionRunLease}
    (hc : (s.workers c).lease? = some lease) (expiresAt : Instant) :
    RunStep s { s with row := (renewLease s.row lease expiresAt).1 } := by
  rcases heldBy_cases s.row lease.runId lease.attemptNo
    (fun r => { r with leaseExpiresAt := some expiresAt }) with
    ⟨r, hrow, hheld, heq⟩ | ⟨-, heq⟩
  · rw [renewLease, heq]
    exact .renew hc hrow hheld
  · rw [renewLease, heq]
    exact .stale

/-- Every executable step is a step of the relation. -/
theorem runNext_step {runner : JobRunner} {s s' : RunSystem} {a : RunAct}
    (h : RunNext runner s a s') : RunStep s s' := by
  have h : runNext runner s a = some s' := h
  cases a with
  | execute c request =>
    -- each step is defined at one phase alone
    cases hc : s.workers c <;> simp only [runNext, hc, Option.some.injEq, reduceCtorEq] at h
    subst h
    exact .execute hc
  | acquire c runId now =>
    cases hc : s.workers c <;> simp only [runNext, hc, Option.some.injEq, reduceCtorEq] at h
    subst h
    exact acquire_step hc
  | poll c now timedOut =>
    cases hc : s.workers c <;> simp only [runNext, hc, Option.some.injEq, reduceCtorEq] at h
    subst h
    exact poll_step hc
  | finish c outcome =>
    cases hc : s.workers c <;> simp only [runNext, hc, Option.some.injEq, reduceCtorEq] at h
    subst h
    exact finish_step hc outcome
  | complete c => exact complete_step h
  | fail c =>
    cases hc : s.workers c <;> simp only [runNext, hc, Option.some.injEq, reduceCtorEq] at h
    subst h
    exact fail_step hc _
  | renew c now =>
    obtain ⟨lease, hc, rfl⟩ := Option.map_eq_some_iff.mp h
    exact renew_step hc _
  | fault c error =>
    obtain ⟨p, hp, rfl⟩ := Option.map_eq_some_iff.mp h
    apply RunStep.stay
    -- an error of the database, where the worker stands
    cases hc : s.workers c <;> simp only [faultStep, hc, Option.some.injEq, reduceCtorEq] at hp <;>
      subst hp
    · exact .refused
    · exact .gaveUp
    · exact .lost
    · exact .notFailed
  | close c heartbeatError =>
    cases hc : s.workers c <;> simp only [runNext, hc, Option.some.injEq, reduceCtorEq] at h
    subst h
    exact .stay (by rw [hc]; exact .closed)
  | crash c =>
    cases h
    exact .crash

end MacroPlatform.Ingestion
