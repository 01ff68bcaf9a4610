import MacroPlatform.Ingestion.Runner

/-! # Lease fencing and replay

The leases of a run are numbered from one to its attempt number, so only the last one
holds the row. A run that ended with a result to replay is never written again, and
reading it back gives the result its worker completed it with.

* `step_fenced`: the invariant of leases and workers, one case for each step;
* `step_final`: a run with a result to replay is not written;
* `lease_fencing_and_replay`: over every interleaving of executions, crashes and clock readings.
-/

namespace MacroPlatform.Ingestion

open Transition

/-! ## The invariant -/

/-- The leases granted for a row: one for each attempt. -/
def leasesOf : RunRow → List IngestionRunLease
  | none => []
  | some r => (List.range' 1 r.attemptNo).map fun k => ⟨r.runId, k⟩

/-- The run is the one of `request`. -/
def RunsRequest (row : RunRow) (request : IngestJobRequest) : Prop :=
  ∃ r, row = some r ∧ r.requestPayload = request

/-- What a worker's local variables have to do with the stored run. -/
def WorkerOk (s : RunSystem) : WorkerPhase → Prop
  | .waiting request runId => ∃ r, s.row = some r ∧ r.runId = runId ∧ r.requestPayload = request
  | .running request lease => lease ∈ s.leases ∧ RunsRequest s.row request
  | .completing request lease result =>
      lease ∈ s.leases ∧ RunsRequest s.row request ∧ result.runId = lease.runId ∧
        result.providerRole = request.providerRole ∧ result.dataset = request.dataset
  | .failing lease _ => lease ∈ s.leases
  | _ => True

/-- The stored run is replayed as `result`. -/
def Replays (row : RunRow) (result : IngestJobResult) : Prop :=
  ∃ r, row = some r ∧ r.status.replayable ∧
    loadCompletedResult row r.runId = .ok (some result)

structure Fenced (s : RunSystem) : Prop where
  leases : s.leases = leasesOf s.row
  columns : ∀ r, s.row = some r → r.providerRole = r.requestPayload.providerRole.value ∧
    r.dataset = r.requestPayload.dataset.value
  workers : ∀ c, WorkerOk s (s.workers c)
  replays : ∀ result, s.completed = some result → Replays s.row result
  unfinished : s.completed = none → ∀ r, s.row = some r → ¬ r.status.replayable

/-- Two states of one run. -/
structure SameRun (r r' : ProviderRun) : Prop where
  runId : r'.runId = r.runId
  requestPayload : r'.requestPayload = r.requestPayload
  providerRole : r'.providerRole = r.providerRole
  dataset : r'.dataset = r.dataset

/-- More leases and a later state of the run leave what a worker knows. -/
theorem workerOk_mono {s s' : RunSystem} {p : WorkerPhase} (h : WorkerOk s p)
    (hleases : ∀ lease ∈ s.leases, lease ∈ s'.leases)
    (hrow : ∀ r, s.row = some r → ∃ r', s'.row = some r' ∧ SameRun r r') : WorkerOk s' p := by
  have hrequest : ∀ request, RunsRequest s.row request → RunsRequest s'.row request := by
    rintro request ⟨r, hr, hpayload⟩
    obtain ⟨r', hr', hsame⟩ := hrow r hr
    exact ⟨r', hr', hsame.requestPayload.trans hpayload⟩
  cases p with
  | waiting request runId =>
    obtain ⟨r, hr, hid, hpayload⟩ := h
    obtain ⟨r', hr', hsame⟩ := hrow r hr
    exact ⟨r', hr', hsame.runId.trans hid, hsame.requestPayload.trans hpayload⟩
  | running request lease => exact ⟨hleases lease h.1, hrequest request h.2⟩
  | completing request lease result =>
    obtain ⟨hlease, hreq, hrest⟩ := h
    exact ⟨hleases lease hlease, hrequest request hreq, hrest⟩
  | failing lease error => exact hleases lease h
  | idle | acquiring | closing | returned | raised | crashed => trivial

/-- A step of a worker that leaves the run as it is. -/
theorem workerOk_stays {s : RunSystem} {p q : WorkerPhase} (h : WorkerOk s p)
    (hstay : WorkerStays s.row p q) : WorkerOk s q := by
  cases hstay with
  | acquired hrow hpayload => exact ⟨_, hrow, rfl, hpayload⟩
  | polled => exact h
  | finished hrole hdataset hid => exact ⟨h.1, h.2, hid, hrole, hdataset⟩
  | erred | lost => exact h.1
  | replayed | replayedLater | refused | gaveUp | notFailed => trivial
  | @closed outcome heartbeatError =>
    cases heartbeatError <;> cases outcome <;> trivial

/-! ## Each step -/

/-- Only one worker changes. -/
theorem fenced_worker {s : RunSystem} {c : ℕ} {p : WorkerPhase} (h : Fenced s)
    (hp : WorkerOk s p) : Fenced (s.setWorker c p) := by
  refine ⟨h.leases, h.columns, ?_, h.replays, h.unfinished⟩
  exact (Function.forall_update_iff s.workers fun _ q => WorkerOk s q).mpr
    ⟨hp, fun d _ => h.workers d⟩

/-- The run of a lease is granted once more. -/
theorem fenced_granted {s : RunSystem} {c : ℕ} {request : IngestJobRequest} {row : ProviderRun}
    (h : Fenced s) (hleases : leasesOf (some row) = leasesOf s.row ++ [⟨row.runId, row.attemptNo⟩])
    (hsame : ∀ r, s.row = some r → SameRun r row) (hpayload : row.requestPayload = request)
    (hcolumns : row.providerRole = request.providerRole.value ∧
      row.dataset = request.dataset.value)
    (hrunning : row.status = .running) (hopen : s.completed = none) :
    Fenced (s.granted c request row) := by
  have hgrow : ∀ lease ∈ s.leases, lease ∈ (s.granted c request row).leases :=
    fun lease hlease => List.mem_append_left _ hlease
  refine ⟨?_, ?_, ?_, ?_, ?_⟩
  -- the new lease bears the number of the row
  · rw [RunSystem.granted, hleases, h.leases]
  · rintro r ⟨⟩
    rw [hpayload]
    exact hcolumns
  · refine (Function.forall_update_iff s.workers fun _ q =>
      WorkerOk (s.granted c request row) q).mpr ⟨?_, ?_⟩
    -- the worker that was granted has it, the others keep what they know
    · exact ⟨List.mem_append_right _ List.mem_cons_self, row, rfl, hpayload⟩
    · intro d _
      exact workerOk_mono (h.workers d) hgrow fun r hr => ⟨row, rfl, hsame r hr⟩
  -- nobody has completed the run, and it is running again
  · intro result hresult
    rw [RunSystem.granted, hopen] at hresult
    cases hresult
  · rintro - r ⟨⟩ (hs | hs) <;> rw [hrunning] at hs <;> cases hs

/-- The holder of the row writes it, without granting anything. -/
theorem fenced_write {s : RunSystem} {r r' : ProviderRun} {workers : ℕ → WorkerPhase}
    {completed : Option IngestJobResult} (h : Fenced s) (hrow : s.row = some r)
    (hsame : SameRun r r') (hno : r'.attemptNo = r.attemptNo)
    (hworkers : ∀ c, WorkerOk s (workers c))
    (hreplays : ∀ result, completed = some result → Replays (some r') result)
    (hunfinished : completed = none → ¬ r'.status.replayable) :
    Fenced { row := some r', workers := workers, leases := s.leases, completed := completed } := by
  refine ⟨?_, ?_, ?_, hreplays, ?_⟩
  -- the number stays, so the leases are those of the row
  · have hleases := h.leases
    rw [hrow] at hleases
    simp only [hleases, leasesOf, hno, hsame.runId]
  · rintro r'' ⟨⟩
    have hcolumns := h.columns r hrow
    rw [hsame.providerRole, hsame.dataset, hsame.requestPayload]
    exact hcolumns
  -- the run is the same for every worker
  · intro c
    refine workerOk_mono (hworkers c) (fun _ hlease => hlease) ?_
    intro r₀ hr₀
    rw [hrow] at hr₀
    cases hr₀
    exact ⟨r', rfl, hsame⟩
  · rintro hnone r'' ⟨⟩
    exact hunfinished hnone

/-- Nobody has completed a run that still is held, or recoverable. -/
theorem completed_eq_none {s : RunSystem} {r : ProviderRun} (h : Fenced s)
    (hrow : s.row = some r) (hopen : ¬ r.status.replayable) : s.completed = none := by
  cases hcompleted : s.completed with
  | none => rfl
  | some result =>
    obtain ⟨r', hr', hreplayable, -⟩ := h.replays result hcompleted
    rw [hrow] at hr'
    cases hr'
    exact absurd hreplayable hopen

/-- The holder of the lease completes the run. -/
theorem fenced_complete {s : RunSystem} {c : ℕ} {request : IngestJobRequest}
    {lease : IngestionRunLease} {result : IngestJobResult} {r : ProviderRun} (h : Fenced s)
    (hc : s.workers c = .completing request lease result) (hrow : s.row = some r)
    (hheld : r.HeldBy result.runId lease.attemptNo) :
    Fenced { s with
      row := some (r.completed result)
      workers := Function.update s.workers c (.closing (.ok result))
      completed :=
        if (RunStatus.ended result.status).replayable then some result else s.completed } := by
  have hworker := h.workers c
  rw [hc] at hworker
  obtain ⟨-, ⟨r₀, hr₀, hpayload⟩, -, hrole, hdataset⟩ := hworker
  rw [hrow] at hr₀
  cases hr₀
  obtain ⟨hcolRole, hcolDataset⟩ := h.columns r hrow
  have hnone := completed_eq_none h hrow fun hs => not_heldBy_of_replayable hs hheld
  have hworkers : ∀ d, WorkerOk s (Function.update s.workers c (.closing (.ok result)) d) :=
    (Function.forall_update_iff s.workers fun _ q => WorkerOk s q).mpr
      ⟨trivial, fun d _ => h.workers d⟩
  refine fenced_write h hrow ⟨rfl, rfl, rfl, rfl⟩ rfl hworkers ?_ ?_
  · intro result' hresult'
    split_ifs at hresult' with hreplayable
    · cases hresult'
      -- the columns were written from the request that the result was checked against
      have hload := loadCompletedResult_completed hheld.1
        (by rw [hcolRole, hpayload, hrole]) (by rw [hcolDataset, hpayload, hdataset]) hreplayable
      refine ⟨_, rfl, hreplayable, ?_⟩
      have hid : (r.completed result).runId = result.runId := hheld.1
      rw [hid]
      exact hload
    · rw [hnone] at hresult'
      cases hresult'
  · intro hcompleted
    split_ifs at hcompleted with hreplayable
    exact hreplayable

/-- Each step keeps the fence. -/
theorem step_fenced {s s' : RunSystem} (hstep : RunStep s s') (h : Fenced s) : Fenced s' := by
  cases hstep with
  -- a worker that only moves leaves the run
  | execute => exact fenced_worker (p := .acquiring _) h trivial
  | crash => exact fenced_worker (p := .crashed) h trivial
  | stay hstay => exact fenced_worker h (workerOk_stays (h.workers _) hstay)
  | stale => exact h
  -- the first lease inserts the row
  | insert hc hrow =>
    refine fenced_granted h (by rw [hrow]; rfl) ?_ rfl ⟨rfl, rfl⟩ rfl ?_
    · intro r hr
      rw [hrow] at hr
      cases hr
    -- a completed run would have a row
    · cases hcompleted : s.completed with
      | none => rfl
      | some result =>
        obtain ⟨r, hr, -⟩ := h.replays result hcompleted
        rw [hrow] at hr
        cases hr
  -- a recoverable run is claimed under the next number
  | @claim c request r now expiresAt hc hrow hrecoverable =>
    have hworker := h.workers c
    rw [hc] at hworker
    obtain ⟨r₀, hr₀, -, hpayload⟩ := hworker
    rw [hrow] at hr₀
    cases hr₀
    have hcolumns := h.columns r hrow
    rw [hpayload] at hcolumns
    refine fenced_granted h ?_ ?_ hpayload hcolumns rfl ?_
    · rw [hrow]
      simp only [leasesOf, ProviderRun.claimed, List.range'_concat, List.map_append,
        List.map_singleton]
      rw [Nat.one_mul, Nat.add_comm 1]
    · intro r' hr'
      rw [hrow] at hr'
      cases hr'
      exact ⟨rfl, rfl, rfl, rfl⟩
    · exact completed_eq_none h hrow fun hs => not_recoverable_of_replayable hs hrecoverable
  -- a run that is held has no result to replay
  | @renew c lease r expiresAt hc hrow hheld =>
    have hopen : ¬ r.status.replayable := fun hs => not_heldBy_of_replayable hs hheld
    have hnone := completed_eq_none h hrow hopen
    refine fenced_write h hrow ⟨rfl, rfl, rfl, rfl⟩ rfl h.workers ?_ fun _ => hopen
    intro result hresult
    rw [hnone] at hresult
    cases hresult
  | complete hc hrow hheld => exact fenced_complete h hc hrow hheld
  -- a failed run has none either
  | @fail c lease error r errorCode hc hrow hheld =>
    have hnone := completed_eq_none h hrow fun hs => not_heldBy_of_replayable hs hheld
    have hworkers : ∀ d, WorkerOk s
        (Function.update s.workers c (.closing (.error error)) d) :=
      (Function.forall_update_iff s.workers fun _ q => WorkerOk s q).mpr
        ⟨trivial, fun d _ => h.workers d⟩
    refine fenced_write h hrow ⟨rfl, rfl, rfl, rfl⟩ rfl hworkers ?_ ?_
    · intro result hresult
      rw [hnone] at hresult
      cases hresult
    · rintro - (hs | hs) <;> cases hs

theorem init_fenced {s : RunSystem} (h : s.Init) : Fenced s := by
  obtain ⟨hrow, hworkers, hleases, hcompleted⟩ := h
  refine ⟨?_, ?_, ?_, ?_, ?_⟩ <;> simp [hrow, hworkers, hleases, hcompleted, leasesOf, WorkerOk]

theorem reachable_fenced {runner : JobRunner} {s : RunSystem}
    (h : Reachable RunSystem.Init (RunNext runner) s) : Fenced s :=
  init_invariant Fenced (fun _ => init_fenced)
    (fun _ _ _ hstep => step_fenced (runNext_step hstep)) h

/-! ## What the leases of a run exclude -/

theorem leases_increase {s : RunSystem} (h : Fenced s) :
    (s.leases.map (·.attemptNo)).Pairwise (· < ·) := by
  rw [h.leases]
  cases s.row with
  | none => exact .nil
  | some r =>
    have hmap : (leasesOf (some r)).map (·.attemptNo) = List.range' 1 r.attemptNo := by
      simp [leasesOf, Function.comp_def]
    rw [hmap]
    exact List.pairwise_lt_range' 1

/-- A later lease than `lease` has been granted. -/
def Superseded (s : RunSystem) (lease : IngestionRunLease) : Prop :=
  ∃ later ∈ s.leases, lease.attemptNo < later.attemptNo

/-- The row carries the number of the last lease. -/
theorem superseded_ne {s : RunSystem} {lease : IngestionRunLease} (h : Fenced s)
    (hlease : Superseded s lease) : ∀ r, s.row = some r → r.attemptNo ≠ lease.attemptNo := by
  intro r hrow heq
  obtain ⟨later, hlater, hlt⟩ := hlease
  rw [h.leases, hrow] at hlater
  obtain ⟨k, hk, rfl⟩ := List.mem_map.mp hlater
  have hle := (List.mem_range'_1.mp hk).2
  simp only at hlt
  omega

/-- A run with a result to replay is not written by any step. -/
theorem step_final {s s' : RunSystem} {r : ProviderRun} (hstep : RunStep s s')
    (hrow : s.row = some r) (hreplayable : r.status.replayable) : s'.row = s.row := by
  have same : ∀ r', s.row = some r' → r' = r := by
    intro r' hr'
    rw [hrow] at hr'
    exact (Option.some.inj hr').symm
  cases hstep with
  | execute | crash | stay | stale => rfl
  | insert hc hnone =>
    rw [hrow] at hnone
    cases hnone
  | claim hc hr' hrecoverable =>
    rw [same _ hr'] at hrecoverable
    exact absurd hrecoverable (not_recoverable_of_replayable hreplayable)
  | renew hc hr' hheld | complete hc hr' hheld | fail hc hr' hheld =>
    rw [same _ hr'] at hheld
    exact absurd hheld (not_heldBy_of_replayable hreplayable)

theorem run_final {runner : JobRunner} {s s' : RunSystem} {as : List RunAct} {r : ProviderRun}
    (hrow : s.row = some r) (hreplayable : r.status.replayable)
    (hrun : Run (RunNext runner) s as s') : s'.row = s.row := by
  refine run_invariant (fun t => t.row = s.row) ?_ hrun rfl
  intro t a t' hstep ht
  rw [← ht]
  exact step_final (runNext_step hstep) (ht.trans hrow) hreplayable

/-! ## Replay -/

/-- An execution that begins after the completion. -/
def LateOk (result : IngestJobResult) : WorkerPhase → Prop
  | .idle | .acquiring _ | .raised _ | .crashed => True
  | .returned result' => result' = result
  | _ => False

/-- A later execution is either before its first transaction or has its answer. -/
theorem step_late {s s' : RunSystem} {c : ℕ} {result : IngestJobResult} (hstep : RunStep s s')
    (hreplays : Replays s.row result) (hlate : LateOk result (s.workers c)) :
    LateOk result (s'.workers c) := by
  obtain ⟨r, hrow, hreplayable, hload⟩ := hreplays
  -- a worker other than `c` may do anything but write the run
  have other : ∀ {d : ℕ} {p : WorkerPhase}, (d = c → LateOk result p) →
      LateOk result (Function.update s.workers d p c) := by
    intro d p hp
    by_cases hd : c = d
    · subst hd
      rw [Function.update_self]
      exact hp rfl
    · rw [Function.update_of_ne hd]
      exact hlate
  have same : ∀ r', s.row = some r' → r' = r := by
    intro r' hr'
    rw [hrow] at hr'
    exact (Option.some.inj hr').symm
  cases hstep with
  | execute | crash => exact other fun _ => trivial
  | stale => exact hlate
  | insert hc hnone =>
    rw [hrow] at hnone
    cases hnone
  | claim hc hr' hrecoverable =>
    rw [same _ hr'] at hrecoverable
    exact absurd hrecoverable (not_recoverable_of_replayable hreplayable)
  | renew hc hr' hheld | complete hc hr' hheld | fail hc hr' hheld =>
    rw [same _ hr'] at hheld
    exact absurd hheld (not_heldBy_of_replayable hreplayable)
  | @stay d p hstay =>
    refine other ?_
    rintro rfl
    generalize s.workers d = q at hstay hlate
    cases hstay with
    | acquired hr' hpayload hnone =>
      rw [same _ hr', hload] at hnone
      cases hnone
    | replayed hr' hsome =>
      rw [same _ hr', hload] at hsome
      cases hsome
      rfl
    | refused => trivial
    | replayedLater | polled | gaveUp | finished | erred | lost | notFailed | closed =>
      exact hlate.elim

/-- The first transaction of a later execution of an equal request returns the result. -/
theorem acquire_replays {runner : JobRunner} {s : RunSystem} {c : ℕ} {result : IngestJobResult}
    {request : IngestJobRequest} (hreplays : Replays s.row result)
    (hc : s.workers c = .acquiring request) (hrequest : RunsRequest s.row request)
    (runId : UUID) (now : Instant) :
    runNext runner s (.acquire c runId now) = some (s.setWorker c (.returned result)) := by
  obtain ⟨r, hrow, hreplayable, hload⟩ := hreplays
  obtain ⟨r', hr', hpayload⟩ := hrequest
  rw [hrow] at hr'
  cases hr'
  have hacquire : acquireRun s.row request runId now (now + runner.runLease) =
      .ok (s.row, none, r.runId) := by
    simp [acquireRun, hrow, hpayload]
  have heffect : acquireStep runner s.row request runId now =
      { row := s.row, phase := .returned result } := by
    simp only [acquireStep, hacquire, hload]
  simp [runNext, hc, heffect, RunSystem.apply, RunSystem.setWorker]

/-! ## Fencing and replay over whole runs -/

structure LeaseFencing (runner : JobRunner) (s : RunSystem) : Prop where
  increasing : (s.leases.map (·.attemptNo)).Pairwise (· < ·)
  superseded : ∀ lease ∈ s.leases, Superseded s lease →
    (∀ expiresAt, renewLease s.row lease expiresAt = (s.row, false)) ∧
      (∀ errorCode, failRun s.row lease errorCode = (s.row, false)) ∧
      ∀ result, completeRun s.row result lease = (s.row, false)
  final : ∀ r, s.row = some r → r.status.replayable →
    ∀ (as : List RunAct) (s' : RunSystem), Run (RunNext runner) s as s' → s'.row = s.row
  completed : (∃ r, s.row = some r ∧ r.status.replayable) ↔ s.completed.isSome
  replayed_at_once : ∀ result, s.completed = some result → ∀ c request,
    s.workers c = .acquiring request → RunsRequest s.row request → ∀ runId now,
    runNext runner s (.acquire c runId now) = some (s.setWorker c (.returned result))
  replayed_later : ∀ result, s.completed = some result → ∀ c, s.workers c = .idle →
    ∀ (as : List RunAct) (s' : RunSystem), Run (RunNext runner) s as s' →
    ∀ result', s'.workers c = .returned result' → result' = result

theorem completed_iff {s : RunSystem} (h : Fenced s) :
    (∃ r, s.row = some r ∧ r.status.replayable) ↔ s.completed.isSome := by
  constructor
  · rintro ⟨r, hrow, hreplayable⟩
    cases hcompleted : s.completed with
    | none => exact absurd hreplayable (h.unfinished hcompleted r hrow)
    | some result => rfl
  · intro hsome
    obtain ⟨result, hresult⟩ := Option.isSome_iff_exists.mp hsome
    obtain ⟨r, hrow, hreplayable, -⟩ := h.replays result hresult
    exact ⟨r, hrow, hreplayable⟩

/-- Over a run, an execution that begins after the completion does nothing but replay. -/
theorem run_late {runner : JobRunner} {s s' : RunSystem} {as : List RunAct} {c : ℕ}
    {result : IngestJobResult} (hreplays : Replays s.row result) (hc : s.workers c = .idle)
    (hrun : Run (RunNext runner) s as s') : LateOk result (s'.workers c) := by
  have hboth := run_invariant
    (fun t => Replays t.row result ∧ LateOk result (t.workers c)) ?_ hrun
    ⟨hreplays, by rw [hc]; trivial⟩
  · exact hboth.2
  · rintro t a t' hstep ⟨ht, hlate⟩
    have hfinished := ht
    obtain ⟨r, hrow, hreplayable, -⟩ := hfinished
    have hfinal := step_final (runNext_step hstep) hrow hreplayable
    exact ⟨by rw [hfinal]; exact ht, step_late (runNext_step hstep) ht hlate⟩

/-- In every interleaving of executions, crashes and clock readings. -/
theorem lease_fencing_and_replay (runner : JobRunner) {s : RunSystem}
    (h : Reachable RunSystem.Init (RunNext runner) s) : LeaseFencing runner s := by
  have hfenced := reachable_fenced h
  refine ⟨leases_increase hfenced, ?_, ?_, completed_iff hfenced, ?_, ?_⟩
  · intro lease _ hlease
    exact refused_of_not_held (superseded_ne hfenced hlease)
  · intro r hrow hreplayable as s' hrun
    exact run_final hrow hreplayable hrun
  · intro result hresult c request hc hrequest runId now
    exact acquire_replays (hfenced.replays result hresult) hc hrequest runId now
  · intro result hresult c hc as s' hrun result' hresult'
    have hlate := run_late (hfenced.replays result hresult) hc hrun
    rw [hresult'] at hlate
    exact hlate

/-- The request and the result of the run below. -/
def barsRequest : IngestJobRequest :=
  { providerRole := ⟨"us_primary", by decide⟩
    dataset := .bars
    regions := [.us]
    start := ⟨0, 0⟩
    stop := ⟨86400000000, 0⟩
    asOf := ⟨86400000000, 0⟩ }

def barsResult : IngestJobResult :=
  { runId := 7
    status := .succeeded
    providerRole := ⟨"us_primary", by decide⟩
    dataset := .bars
    startedAt := 100000000
    finishedAt := 110000000
    recordsFetched := 3
    recordsAccepted := 2
    recordsRejected := 1
    recordsInserted := 2
    recordsUpdated := 0
    warnings := [⟨⟨"PROVIDER_RECORD_QUARANTINED", by decide⟩, ⟨"bad row", by decide⟩, none,
      [("rejection", .str "row")], by decide, by decide⟩] }

/-- A worker loses its lease to a second one, which completes the run. -/
def takenOver : List RunAct :=
  [.execute 0 barsRequest, .acquire 0 7 0, .execute 1 barsRequest, .acquire 1 8 30000000,
   .poll 1 30000000 false, .poll 1 90000000 false, .finish 1 (.ok barsResult), .complete 1,
   .finish 0 (.ok barsResult), .complete 0, .fail 0, .close 0 none, .close 1 none]

theorem lease_fencing_takenOver :
    ∃ s : RunSystem, exec (runNext {}) emptyRuns takenOver = some s ∧
      s.leases = [⟨7, 1⟩, ⟨7, 2⟩] ∧ s.completed.isSome = true ∧ LeaseFencing {} s := by
  have hrun : (exec (runNext {}) emptyRuns takenOver).map
      (fun s => (s.leases, s.completed.isSome)) = some ([⟨7, 1⟩, ⟨7, 2⟩], true) := by
    rfl
  obtain ⟨s, hs, heq⟩ := Option.map_eq_some_iff.mp hrun
  rw [Prod.mk.injEq] at heq
  exact ⟨s, hs, heq.1, heq.2,
    lease_fencing_and_replay {} ⟨emptyRuns, takenOver, ⟨rfl, fun _ => rfl, rfl, rfl⟩,
      run_of_exec hs⟩⟩

end MacroPlatform.Ingestion
