import MacroPlatform.Daily.Runtime

/-! # What a run leaves before it posts the message

Wherever a run is stopped before the post of the report's message, the rows of the day are such
that a later run can read them: the checkpoints are those of their tasks, the report is the one
of the version, and the delivery has not got further than a request that Feishu never saw.

* `PortsKeep.runForDate`: what the ports keep, a run keeps wherever it is stopped;
* `runForDate_unposted`: a run that is stopped before the post leaves unposted rows.
-/

namespace MacroPlatform.Daily

open Delivery Process Schedule Transaction

variable {σ κ Content : Type}

/-! ## Invariants of the worker's ports -/

/-- The ports of a worker keep an invariant in the run of a date. -/
structure PortsKeep (I : σ → List κ → Prop) (worker : ScheduledIngestionWorker σ κ Content)
    (reportDate : Day) : Prop where
  task : ∀ t ∈ worker.tasks, ∀ attemptNo, Keeps I (t.run reportDate attemptNo)
  hold : Keeps I (worker.hold reportDate)
  materialize : ∀ results, Keeps I (worker.materialize reportDate results)
  now : Keeps I worker.workflow.now
  sleeper : ∀ duration, Keeps I (worker.workflow.sleeper duration)
  loadReport : ∀ reportId, Keeps I (worker.workflow.loadReport reportId)
  loadGenerationAttempt : ∀ generationId,
    Keeps I (worker.workflow.loadGenerationAttempt generationId)
  generate : ∀ snapshotId, Keeps I (worker.workflow.generate
    (reportIdOf reportDate worker.workflow.reportVersion) worker.workflow.reportVersion snapshotId)
  deliver : ∀ reportId, Keeps I (worker.workflow.deliver reportId)
  deliverAlert : ∀ alert, Keeps I (worker.workflow.deliverAlert alert)

section PortsKeep

variable {I : σ → List κ → Prop} {worker : ScheduledIngestionWorker σ κ Content}
  {reportDate : Day}

theorem PortsKeep.alertTerminal (h : PortsKeep I worker reportDate)
    (result : ScheduledWorkerResult) (stage : WorkflowStage) (errorCode : String) :
    Keeps I (worker.workflow.alertTerminal result stage errorCode) :=
  keeps_bind (keeps_trying (h.deliverAlert _)) fun _ => keeps_pure

/-- An attempt of a task keeps what its port keeps. -/
theorem PortsKeep.attemptTask (h : PortsKeep I worker reportDate) {t : ScheduledTask σ κ}
    (ht : t ∈ worker.tasks) (attemptNo : ℕ) :
    Keeps I (worker.attemptTask t reportDate attemptNo) := by
  refine keeps_catching (keeps_bind (h.task t ht attemptNo) fun result => ?_) fun e => ?_
  · split_ifs
    · exact keeps_raise
    · exact keeps_pure
    · exact keeps_pure
    · exact keeps_pure
  · split_ifs
    · exact keeps_pure
    · exact keeps_pure
    · exact keeps_pure

theorem PortsKeep.runTask (h : PortsKeep I worker reportDate) {t : ScheduledTask σ κ}
    (ht : t ∈ worker.tasks) (left : ℕ) :
    ∀ attemptNo, Keeps I (worker.runTask t reportDate attemptNo left) := by
  induction left with
  | zero => exact fun _ => keeps_raise
  | succ left ih =>
    intro attemptNo
    refine keeps_bind (h.attemptTask ht attemptNo) fun result => ?_
    cases result with
    | none => exact ih (attemptNo + 1)
    | some result => exact keeps_pure

theorem PortsKeep.runTasks (h : PortsKeep I worker reportDate) (tasks : List (ScheduledTask σ κ))
    (htasks : ∀ t ∈ tasks, t ∈ worker.tasks) : Keeps I (worker.runTasks reportDate tasks) := by
  induction tasks with
  | nil => exact keeps_pure
  | cons t tasks ih =>
    refine keeps_bind (h.runTask (htasks t (by simp)) _ _) fun _ => ?_
    refine keeps_bind (ih fun t ht => htasks t (List.mem_cons_of_mem _ ht)) fun _ => keeps_pure

/-- What the worker ingests is of its date. -/
theorem PortsKeep.ingest (h : PortsKeep I worker reportDate) :
    Triple I (worker.ingest reportDate)
      (fun result s calls => I s calls ∧ result.reportDate = reportDate) I := by
  refine triple_bind (h.runTasks worker.tasks fun t ht => ht) fun results => ?_
  refine triple_bind (keeps_trying (h.materialize results)) fun x => ?_
  cases x with
  | ok made => exact triple_pure fun s calls hI => ⟨hI, rfl⟩
  | error e => exact triple_pure fun s calls hI => ⟨hI, rfl⟩

/-- So does the delivery of a report. -/
theorem PortsKeep.deliverReport (h : PortsKeep I worker reportDate)
    (current : ScheduledWorkerResult) (report : StoredDailyReport Content)
    (errorCode : Option String) :
    Keeps I (worker.workflow.deliverReport current report errorCode) := by
  refine keeps_bind (keeps_trying (h.deliver _)) fun delivered => ?_
  cases delivered with
  | error e => exact h.alertTerminal _ _ _
  | ok delivery =>
    by_cases hstatus : deliveryStatus delivery ≠ "succeeded"
    · simp only [if_pos hstatus]
      exact h.alertTerminal _ _ _
    · simp only [if_neg hstatus]
      exact keeps_pure

theorem PortsKeep.publishReport (h : PortsKeep I worker reportDate)
    (current : ScheduledWorkerResult) (report : StoredDailyReport Content)
    (errorCode : Option String) :
    Keeps I (worker.workflow.publishReport current report errorCode) := by
  unfold DailyReportWorkflow.publishReport
  split_ifs
  · refine keeps_bind (keeps_bind h.now fun now => ?_) fun _ => h.deliverReport _ _ _
    split_ifs
    · exact h.sleeper _
    · exact keeps_pure
  · exact h.alertTerminal _ _ _

/-- So does the preparation of the report. -/
theorem PortsKeep.prepareReport (h : PortsKeep I worker reportDate) (snapshotId : String) :
    Keeps I (worker.workflow.prepareReport
      (reportIdOf reportDate worker.workflow.reportVersion) snapshotId) := by
  refine keeps_bind (h.loadReport _) fun report => ?_
  cases report with
  | none => exact keeps_bind (h.generate snapshotId) fun _ => keeps_pure
  | some report =>
    cases hgeneration : report.generationId with
    | none =>
      simp only [hgeneration]
      exact keeps_pure
    | some generationId =>
      simp only [hgeneration]
      exact keeps_bind (h.loadGenerationAttempt _) fun _ => keeps_pure

/-- So does the rest of a day after its snapshot. -/
theorem PortsKeep.completeSnapshot (h : PortsKeep I worker reportDate)
    {current : ScheduledWorkerResult} (hdate : current.reportDate = reportDate) :
    Keeps I (worker.workflow.completeSnapshot current) := by
  subst hdate
  unfold DailyReportWorkflow.completeSnapshot
  cases current.snapshotId with
  | none => exact h.alertTerminal _ _ _
  | some snapshotId =>
    refine keeps_bind (keeps_trying (h.prepareReport snapshotId)) fun prepared => ?_
    match prepared with
    | .error e => exact h.alertTerminal _ _ _
    | .ok (none, errorCode) => exact h.alertTerminal _ _ _
    | .ok (some report, errorCode) => exact h.publishReport _ _ _

theorem PortsKeep.complete (h : PortsKeep I worker reportDate) {result : ScheduledWorkerResult}
    (hdate : result.reportDate = reportDate) : Keeps I (worker.workflow.complete result) := by
  unfold DailyReportWorkflow.complete
  cases result.status with
  | locked => exact keeps_pure
  | retryable => exact keeps_pure
  | blocked => exact h.alertTerminal _ _ _
  | succeeded => exact h.completeSnapshot hdate
  | degraded => exact h.completeSnapshot hdate

/-- An invariant that the ports keep is kept by the run, wherever it is stopped. -/
theorem PortsKeep.runForDate (h : PortsKeep I worker reportDate) :
    Keeps I (worker.runForDate reportDate) := by
  unfold ScheduledIngestionWorker.runForDate
  split_ifs
  · exact keeps_pure
  · refine keeps_bind h.hold fun acquired => ?_
    split_ifs
    · refine triple_bind h.ingest fun result => triple_known fun hdate => ?_
      refine keeps_catching (h.complete hdate) fun e => ?_
      exact keeps_catching (h.alertTerminal _ _ _) fun _ => keeps_pure
    · exact keeps_pure

end PortsKeep

/-! ## The rows before the post -/

/-- A checkpoint row of its task. -/
structure CheckpointSound (task : CheckpointedScheduledTask) (reportDate : Day)
    (row : ScheduledTaskCheckpointRow) : Prop where
  reportDate : row.reportDate = reportDate
  taskId : row.taskId = task.taskId
  providerRole : row.providerRole = task.providerRole
  dataset : row.dataset = task.dataset.value
  region : row.region = task.region.value
  runIds : row.runIds.Nodup
  runId : row.status = .completed → row.runId ≠ none

/-- A delivery attempt whose message was not posted: it holds the request of the stored report,
and is pending, failed, or waits for one of the attempts that are left. -/
structure DeliveryUnposted [DecidableEq Content] (d : Deployment Content)
    (report : Option (StoredDailyReport Content)) (attempt : DeliveryAttempt Content) : Prop where
  request : ∃ r, report = some r ∧ r.Publishable ∧ d.renderCard r = .ok attempt.requestPayload
  status : attempt.status = .pending ∨ attempt.status = .failed ∨
    (attempt.status = .retryWait ∧ attempt.attemptNo < d.service.maxAttempts)

variable [DecidableEq Content]

/-- The rows of a report whose message was not posted. -/
structure Unposted (d : Deployment Content) (reportDate : Day) (s : DailyStore Content) :
    Prop where
  checkpoints : ∀ t ∈ d.tasks, ∀ row, s.checkpoints t.task.taskId = some row →
    CheckpointSound t.task reportDate row
  report : ∀ r, s.report = some r → r.reportId = reportIdOf reportDate d.reportVersion
  delivery : ∀ attempt, s.delivery = some attempt → DeliveryUnposted d s.report attempt

/-- The report's message was posted. -/
def Posted (calls : List DailyCall) : Prop :=
  ∃ deliveryId, .messagePost deliveryId ∈ calls

variable {d : Deployment Content} {c : Collaborators Content} {reportDate : Day}

/-- Until the message is posted the rows are unposted ones. -/
def UnpostedUntil (d : Deployment Content) (reportDate : Day) (s : DailyStore Content)
    (calls : List DailyCall) : Prop :=
  Posted calls ∨ Unposted d reportDate s

theorem Posted.append {calls : List DailyCall} (h : Posted calls) (l : List DailyCall) :
    Posted (calls ++ l) := by
  obtain ⟨deliveryId, hmem⟩ := h
  exact ⟨deliveryId, List.mem_append_left l hmem⟩

/-- A transaction that keeps the rows unposted. -/
theorem keeps_unposted {α : Type} {body : EStateM PythonError (DailyStore Content) α}
    (h : ∀ s a s', Unposted d reportDate s → body s = .ok a s' → Unposted d reportDate s') :
    Keeps (UnpostedUntil d reportDate) (commit body : DailyProgram Content α) := by
  refine keeps_commit ?_
  rintro s calls a s' (hposted | hs) hbody
  · exact Or.inl hposted
  · exact Or.inr (h s a s' hs hbody)

/-! ### Checkpoints -/

theorem scheduledTaskCheckpoint_nodup {row : ScheduledTaskCheckpointRow}
    {checkpoint : ScheduledTaskCheckpoint} (h : scheduledTaskCheckpoint row = .ok checkpoint) :
    row.runIds.Nodup := by
  unfold scheduledTaskCheckpoint at h
  split_ifs at h with hnodup
  exact hnodup

omit [DecidableEq Content] in
theorem onCheckpoint_ok {α : Type} {taskId : String} {body : EStateM String CheckpointTable α}
    {s s' : DailyStore Content} {a : α} (h : onCheckpoint taskId body s = .ok a s') :
    ∃ table, body (s.checkpoints taskId) = .ok a table ∧
      s' = { s with checkpoints := Function.update s.checkpoints taskId table } := by
  unfold onCheckpoint at h
  cases hbody : body (s.checkpoints taskId) with
  | ok b table =>
    simp only [hbody, EStateM.Result.ok.injEq] at h
    obtain ⟨rfl, rfl⟩ := h
    exact ⟨table, rfl, rfl⟩
  | error message table => simp [hbody] at h

/-- A sound checkpoint leaves the day unposted. -/
theorem Unposted.withCheckpoint {s : DailyStore Content} (h : Unposted d reportDate s)
    {t : DeployedTask} (ht : t ∈ d.tasks) {row : ScheduledTaskCheckpointRow}
    (hrow : CheckpointSound t.task reportDate row) :
    Unposted d reportDate
      { s with checkpoints := Function.update s.checkpoints t.task.taskId (some row) } := by
  refine ⟨?_, h.report, h.delivery⟩
  intro other hother found hfound
  change Function.update s.checkpoints t.task.taskId (some row) other.task.taskId = _ at hfound
  by_cases hid : other.task.taskId = t.task.taskId
  · have hsame : other = t :=
      List.inj_on_of_nodup_map d.taskIds_nodup hother ht hid
    subst hsame
    rw [Function.update_self] at hfound
    cases hfound
    exact hrow
  · exact h.checkpoints other hother found (by rwa [Function.update_of_ne hid] at hfound)

/-- The checkpoint that a task begins or finds is sound. -/
theorem CheckpointSound.beginOrLoad {task : CheckpointedScheduledTask} {now : Instant}
    {leaseOwnerId : UUID} {table table' : CheckpointTable} {checkpoint : ScheduledTaskCheckpoint}
    (hsound : ∀ row, table = some row → CheckpointSound task reportDate row)
    (h : beginOrLoad (task.claim reportDate now leaseOwnerId) table = .ok checkpoint table') :
    ∃ row, table' = some row ∧ CheckpointSound task reportDate row := by
  obtain ⟨row, rfl, -, ⟨-, rfl⟩ | ⟨old, hold, hactive, rfl⟩ | ⟨hsame, -⟩⟩ := beginOrLoad_ok h
  · exact ⟨_, rfl, rfl, rfl, rfl, rfl, rfl, List.nodup_nil, by simp [CheckpointClaim.inserted]⟩
  · have hbefore := hsound old hold
    refine ⟨_, rfl, hbefore.reportDate, hbefore.taskId, hbefore.providerRole, hbefore.dataset,
      hbefore.region, hbefore.runIds, ?_⟩
    intro hcompleted
    change old.status = .completed at hcompleted
    rw [hactive] at hcompleted
    cases hcompleted
  · exact ⟨row, rfl, hsound row hsame⟩

theorem CheckpointSound.advance {task : CheckpointedScheduledTask}
    {table table' : CheckpointTable} {checkpoint checkpoint' : ScheduledTaskCheckpoint}
    {page : PageProgress} (hsound : ∀ row, table = some row → CheckpointSound task reportDate row)
    (h : Schedule.advance checkpoint page table = .ok checkpoint' table') :
    ∃ row, table' = some row ∧ CheckpointSound task reportDate row := by
  obtain ⟨row, hrow, -, rfl, hload⟩ := advance_ok h
  have hbefore := hsound row hrow
  exact ⟨_, rfl, hbefore.reportDate, hbefore.taskId, hbefore.providerRole, hbefore.dataset,
    hbefore.region, scheduledTaskCheckpoint_nodup hload,
    by simp [ScheduledTaskCheckpointRow.advanced]⟩

/-- A page of a task posts nothing. -/
theorem keeps_executePage {t : DeployedTask} (ht : t ∈ d.tasks)
    (checkpoint : ScheduledTaskCheckpoint) (answer : ExecutorAnswer) :
    Keeps (UnpostedUntil d reportDate)
      (executePage t.task checkpoint answer : DailyProgram Content TaskPhase) := by
  cases answer with
  | providerError code retryable => exact keeps_pure
  | raised e => exact keeps_raise
  | result result =>
    simp only [executePage]
    cases t.task.afterResult checkpoint result with
    | advancing checkpoint result =>
      refine keeps_bind (keeps_unposted ?_) fun _ => keeps_pure
      intro s advanced s' hs hbody
      obtain ⟨table, hadvance, rfl⟩ := onCheckpoint_ok hbody
      obtain ⟨row, rfl, hrow⟩ := CheckpointSound.advance (hs.checkpoints t ht) hadvance
      exact hs.withCheckpoint ht hrow
    | idle | executing | returned | raised | crashed => exact keeps_pure

/-- The pages of a task post nothing. -/
theorem keeps_runPages {t : DeployedTask} (ht : t ∈ d.tasks) (answers : List ExecutorAnswer) :
    ∀ phase, Keeps (UnpostedUntil d reportDate)
      (runPages t.task answers phase : DailyProgram Content ScheduledTaskResult) := by
  induction answers with
  | nil =>
    intro phase
    cases phase with
    | returned result => exact keeps_pure
    | raised message => exact keeps_raise
    | idle | executing | advancing | crashed => exact keeps_stop
  | cons answer answers ih =>
    intro phase
    cases phase with
    | returned result => exact keeps_pure
    | raised message => exact keeps_raise
    | idle | advancing | crashed => exact keeps_stop
    | executing checkpoint =>
      exact keeps_bind (keeps_executePage ht checkpoint answer) ih

theorem keeps_runCheckpointed {t : DeployedTask} (ht : t ∈ d.tasks) (taskCall : TaskCall) :
    Keeps (UnpostedUntil d reportDate)
      (runCheckpointed t.task reportDate taskCall :
        DailyProgram Content ScheduledTaskResult) := by
  refine keeps_bind (keeps_unposted ?_) fun _ => keeps_runPages ht _ _
  intro s checkpoint s' hs hbody
  obtain ⟨table, hbegin, rfl⟩ := onCheckpoint_ok hbody
  obtain ⟨row, rfl, hrow⟩ := CheckpointSound.beginOrLoad (hs.checkpoints t ht) hbegin
  exact hs.withCheckpoint ht hrow

/-! ### The snapshot -/

omit [DecidableEq Content] in
/-- Storing a snapshot writes the snapshots alone. -/
theorem putInputSnapshot_ok {Held : Type} {column : JsonColumn Held Content}
    {snapshot : ReportInputSnapshot Held} {s s' : DailyStore Content} {a : Bool}
    (h : putInputSnapshot column snapshot s = .ok a s') :
    ∃ snapshots, s' = { s with snapshots := snapshots } := by
  unfold putInputSnapshot at h
  split at h
  · split_ifs at h
    cases h
    exact ⟨_, rfl⟩
  · split_ifs at h
    cases h
    exact ⟨_, rfl⟩

theorem keeps_materialize (results : List ScheduledTaskResult) :
    Keeps (UnpostedUntil d reportDate) (materialize d c results) := by
  refine keeps_bind keeps_ofExcept fun snapshot => ?_
  refine keeps_bind (keeps_unposted ?_) fun _ => keeps_pure
  intro s a s' hs hbody
  obtain ⟨snapshots, rfl⟩ := putInputSnapshot_ok hbody
  exact ⟨hs.checkpoints, hs.report, hs.delivery⟩

/-! ### Generation -/

omit [DecidableEq Content] in
theorem putGenerationAttempt_ok {attempt : ReportGenerationAttempt} {s s' : DailyStore Content}
    {a : Bool} (h : putGenerationAttempt attempt s = .ok a s') :
    ∃ stored, s' = { s with attempt := stored } := by
  unfold putGenerationAttempt at h
  split at h
  · cases h
    exact ⟨_, rfl⟩
  · split_ifs at h
    cases h
    exact ⟨_, rfl⟩

omit [DecidableEq Content] in
theorem updateGenerationAttempt_ok {attempt : ReportGenerationAttempt}
    {s s' : DailyStore Content} {a : PUnit} (h : updateGenerationAttempt attempt s = .ok a s') :
    ∃ stored, s' = { s with attempt := stored } := by
  unfold updateGenerationAttempt at h
  split at h
  · split_ifs at h
    cases h
    exact ⟨_, rfl⟩
  · cases h

/-- A report is stored once. -/
theorem putReport_ok
    {problem : ReportInputSnapshot Content → StoredDailyReport Content → Option String}
    {report : StoredDailyReport Content} {s s' : DailyStore Content} {a : Bool}
    (h : putReport problem report s = .ok a s') :
    (s.report = none ∧ s' = { s with report := some report }) ∨ s' = s := by
  unfold putReport at h
  split at h
  · cases h
  · split at h
    · cases h
    · split at h
      · next hnone =>
        cases h
        exact Or.inl ⟨hnone, rfl⟩
      · split_ifs at h
        cases h
        exact Or.inr rfl

omit [DecidableEq Content] in
/-- An update is of the report that is stored, in the expected status. -/
theorem updateReportValidation_ok {report : StoredDailyReport Content}
    {expected : ReportLifecycleStatus} {s s' : DailyStore Content} {a : Bool}
    (h : updateReportValidation report expected s = .ok a s') :
    (∃ existing updated, s.report = some existing ∧ existing.lifecycleStatus = expected ∧
      updated.reportId = existing.reportId ∧ s' = { s with report := some updated }) ∨
    s' = s := by
  unfold updateReportValidation at h
  -- the update is guarded by the expected status; otherwise nothing is written
  split at h
  · next existing hexisting =>
    split_ifs at h with hguard
    · cases h
      exact Or.inl ⟨existing, { existing with
        status := report.status
        publicationDecision := report.publicationDecision
        lifecycleStatus := report.lifecycleStatus
        validationErrors := report.validationErrors
        payload := report.payload }, hexisting, hguard.2, rfl, rfl⟩
    · cases h
      exact Or.inr rfl
  · cases h
    exact Or.inr rfl

theorem Unposted.withAttempt {s : DailyStore Content} (h : Unposted d reportDate s)
    (attempt : Option ReportGenerationAttempt) :
    Unposted d reportDate { s with attempt := attempt } :=
  ⟨h.checkpoints, h.report, h.delivery⟩

theorem keeps_putGenerationAttempt (attempt : ReportGenerationAttempt) :
    Keeps (UnpostedUntil d reportDate)
      (commit (putGenerationAttempt attempt) : DailyProgram Content Bool) := by
  refine keeps_unposted fun s a s' hs hbody => ?_
  obtain ⟨stored, rfl⟩ := putGenerationAttempt_ok hbody
  exact hs.withAttempt stored

theorem keeps_updateGenerationAttempt (attempt : ReportGenerationAttempt) :
    Keeps (UnpostedUntil d reportDate)
      (commit (updateGenerationAttempt attempt) : DailyProgram Content PUnit) := by
  refine keeps_unposted fun s a s' hs hbody => ?_
  obtain ⟨stored, rfl⟩ := updateGenerationAttempt_ok hbody
  exact hs.withAttempt stored

/-- A report that is stored was not delivered before. -/
theorem keeps_putReport
    {problem : ReportInputSnapshot Content → StoredDailyReport Content → Option String}
    {report : StoredDailyReport Content}
    (hid : report.reportId = reportIdOf reportDate d.reportVersion) :
    Keeps (UnpostedUntil d reportDate)
      (commit (putReport problem report) : DailyProgram Content Bool) := by
  refine keeps_unposted fun s a s' hs hbody => ?_
  rcases putReport_ok hbody with ⟨hnone, rfl⟩ | rfl
  · refine ⟨hs.checkpoints, ?_, ?_⟩
    · rintro r ⟨⟩
      exact hid
    · intro attempt hattempt
      obtain ⟨r, hr, -⟩ := (hs.delivery attempt hattempt).request
      rw [hnone] at hr
      cases hr
  · exact hs

/-- A report that is validated is not one that can be delivered already. -/
theorem keeps_updateReportValidation {report : StoredDailyReport Content}
    {expected : ReportLifecycleStatus} (hexpected : expected ≠ .validated) :
    Keeps (UnpostedUntil d reportDate)
      (commit (updateReportValidation report expected) : DailyProgram Content Bool) := by
  refine keeps_unposted fun s a s' hs hbody => ?_
  rcases updateReportValidation_ok hbody with ⟨existing, updated, hexisting, hstatus, hid, rfl⟩ | rfl
  · refine ⟨hs.checkpoints, ?_, ?_⟩
    · rintro r ⟨⟩
      rw [hid]
      exact hs.report existing hexisting
    · intro attempt hattempt
      obtain ⟨r, hr, hpublishable, -⟩ := (hs.delivery attempt hattempt).request
      rw [hexisting] at hr
      cases hr
      exact absurd (hstatus.symm.trans hpublishable.1) hexpected
  · exact hs

variable {g : Generation Content}

/-- Validating a candidate posts nothing. -/
theorem keeps_validateCandidate {snapshotId : String} {report : StoredDailyReport Content}
    (hstatus : report.lifecycleStatus ≠ .validated) :
    Keeps (UnpostedUntil d reportDate)
      (validateCandidate g snapshotId report : DailyProgram Content _) := by
  refine keeps_bind keeps_read fun snapshot => ?_
  cases snapshot with
  | none => exact keeps_raise
  | some snapshot =>
    refine keeps_bind (keeps_updateReportValidation hstatus) fun applied => ?_
    split_ifs
    · exact keeps_pure
    · exact keeps_raise

/-- The fallback is stored, not posted. -/
theorem keeps_validateFallback {reportVersion snapshotId : String} {generationId : UUID} :
    Keeps (UnpostedUntil d reportDate)
      (validateFallback g (reportIdOf reportDate d.reportVersion) reportVersion snapshotId
        generationId : DailyProgram Content _) := by
  refine keeps_bind keeps_read fun snapshot => ?_
  cases snapshot with
  | none => exact keeps_raise
  | some snapshot =>
    refine keeps_bind keeps_ofExcept fun made => ?_
    refine keeps_bind (keeps_putReport rfl) fun inserted => ?_
    split_ifs
    · exact keeps_pure
    · exact keeps_raise

theorem keeps_onValidationError {α : Type} {text : String} {before : DailyProgram Content PUnit}
    {body : DailyProgram Content α} (hbefore : Keeps (UnpostedUntil d reportDate) before)
    (hbody : Keeps (UnpostedUntil d reportDate) body) :
    Keeps (UnpostedUntil d reportDate) (onValidationError text before body) := by
  refine keeps_catching hbody fun e => ?_
  split_ifs
  · exact keeps_bind hbefore fun _ => keeps_raise
  · exact keeps_raise

theorem keeps_failAttempt (attempt : ReportGenerationAttempt) (errorCode : String) :
    Keeps (UnpostedUntil d reportDate)
      (failAttempt attempt errorCode : DailyProgram Content _) :=
  keeps_bind (keeps_updateGenerationAttempt _) fun _ => keeps_pure

/-- A draft that is stored is only generated. -/
theorem storeDraft_generated {reportVersion : String} {snapshot : ReportInputSnapshot Content}
    {payload : Content} :
    Triple (UnpostedUntil d reportDate)
      (storeDraft g (reportIdOf reportDate d.reportVersion) reportVersion snapshot payload :
        DailyProgram Content _)
      (fun stored s calls => UnpostedUntil d reportDate s calls ∧
        ∀ report, stored = .ok report → report.lifecycleStatus = .generated)
      (UnpostedUntil d reportDate) := by
  -- a draft that does not satisfy its contract is handed back
  refine triple_catching ?_ fun e => ?_
  · refine triple_bind keeps_ofExcept fun head => ?_
    refine triple_bind (keeps_putReport rfl) fun inserted => ?_
    split_ifs
    · refine triple_pure fun s calls h => ⟨h, ?_⟩
      rintro report ⟨⟩
      rfl
    · exact triple_pure fun s calls h => ⟨h, by simp⟩
  · split_ifs
    · exact triple_pure fun s calls h => ⟨h, by simp⟩
    · exact triple_raise fun s calls h => h

/-- A draft is stored and validated, not posted. -/
theorem keeps_finishDraft {reportVersion : String} {snapshot : ReportInputSnapshot Content}
    {attempt : ReportGenerationAttempt} {payload : Content} :
    Keeps (UnpostedUntil d reportDate)
      (finishDraft g (reportIdOf reportDate d.reportVersion) reportVersion snapshot attempt
        payload : DailyProgram Content _) := by
  refine triple_bind storeDraft_generated fun stored => triple_known fun hgenerated => ?_
  cases stored with
  | error errorCode => exact keeps_bind (keeps_failAttempt _ _) fun _ => keeps_pure
  | ok draft =>
    have hdraft : draft.lifecycleStatus ≠ .validated := by
      rw [hgenerated draft rfl]
      simp
    have hfailed : Keeps (UnpostedUntil d reportDate)
        (do
          let _ ← failAttempt attempt "REPORT_VALIDATION_PERSISTENCE_FAILED"
          pure ⟨⟩ : DailyProgram Content PUnit) :=
      keeps_bind (keeps_failAttempt _ _) fun _ => keeps_pure
    refine keeps_bind (keeps_onValidationError hfailed (keeps_validateCandidate hdraft))
      fun report => ?_
    exact keeps_bind (keeps_updateGenerationAttempt _) fun _ => keeps_pure

theorem keeps_finishWithFallback {reportVersion : String}
    {snapshot : ReportInputSnapshot Content} {attempt : ReportGenerationAttempt}
    {errorCode : String} :
    Keeps (UnpostedUntil d reportDate)
      (finishWithFallback g (reportIdOf reportDate d.reportVersion) reportVersion snapshot attempt
        errorCode : DailyProgram Content _) := by
  refine keeps_bind (keeps_failAttempt _ _) fun failed => ?_
  refine keeps_bind (keeps_onValidationError keeps_pure keeps_validateFallback) fun report => ?_
  exact keeps_pure

/-- No attempt of the generation posts. -/
theorem keeps_attemptsFrom {reportVersion : String} {snapshot : ReportInputSnapshot Content}
    (left : ℕ) : ∀ attemptNo attempt, Keeps (UnpostedUntil d reportDate)
      (attemptsFrom g (reportIdOf reportDate d.reportVersion) reportVersion snapshot attemptNo
        attempt left : DailyProgram Content _) := by
  -- by the attempts that are left
  induction left with
  | zero => exact fun _ _ => keeps_raise
  | succ left ih =>
    intro attemptNo attempt
    refine keeps_bind ?_ fun numbered => ?_
    · unfold numberAttempt
      split_ifs
      · exact keeps_bind (keeps_updateGenerationAttempt _) fun _ => keeps_pure
      · exact keeps_pure
    -- the model answered, or the attempt failed
    · cases g.draft snapshot attemptNo with
      | ok payload => exact keeps_finishDraft
      | error e =>
        simp only
        -- only some of the errors are tried again
        cases draftErrorCode e with
        | none => exact keeps_raise
        | some errorCode =>
          simp only
          split_ifs
          · exact keeps_finishWithFallback
          · exact ih _ _

theorem keeps_reserveGeneration (attempt : ReportGenerationAttempt) :
    Keeps (UnpostedUntil d reportDate)
      (reserveGeneration attempt : DailyProgram Content _) := by
  refine keeps_bind (keeps_putGenerationAttempt attempt) fun inserted => ?_
  split_ifs
  · exact keeps_pure
  · exact keeps_raise

/-- The generation posts nothing. -/
theorem keeps_generate {reportVersion snapshotId : String} :
    Keeps (UnpostedUntil d reportDate)
      (generate g (reportIdOf reportDate d.reportVersion) reportVersion snapshotId :
        DailyProgram Content _) := by
  -- a snapshot that the gate refuses ends in a refused attempt
  refine keeps_bind keeps_read fun snapshot => ?_
  cases snapshot with
  | none => exact keeps_raise
  | some snapshot =>
    simp only
    have hrefuse : ∀ errorCode, Keeps (UnpostedUntil d reportDate)
        (generate.refuse g (reportIdOf reportDate d.reportVersion) reportVersion snapshot
          errorCode : DailyProgram Content _) :=
      fun errorCode => keeps_bind (keeps_reserveGeneration _) fun _ => keeps_pure
    have hattempts : Keeps (UnpostedUntil d reportDate) (do
        let sourceRefIds ← ofExcept (g.buildPrompt snapshot)
        let attempt := newAttempt g (reportIdOf reportDate d.reportVersion) reportVersion snapshot
          sourceRefIds
        reserveGeneration attempt
        attemptsFrom g (reportIdOf reportDate d.reportVersion) reportVersion snapshot 1 attempt
          g.maxAttempts : DailyProgram Content _) :=
      keeps_bind keeps_ofExcept fun _ =>
        keeps_bind (keeps_reserveGeneration _) fun _ => keeps_attemptsFrom _ _ _
    cases g.evaluate snapshot with
    | blocked => exact hrefuse _
    | retryable => exact hrefuse _
    | passed => exact hattempts
    | degraded => exact hattempts

/-! ### Delivery -/

/-- A phase of a delivery whose message was not posted: what it is about to store is the stored
report's request, or an error that came before the post. -/
def PhaseUnposted (d : Deployment Content) (report : Option (StoredDailyReport Content)) :
    Phase Content → Prop
  | .reserving _ auditPayload =>
      ∃ r, report = some r ∧ r.Publishable ∧ d.renderCard r = .ok auditPayload
  | .resuming _ maxAttemptNo _ => maxAttemptNo = d.service.maxAttempts
  | .sending _ maxAttemptNo => maxAttemptNo = d.service.maxAttempts
  | .storing _ maxAttemptNo _ outcome => maxAttemptNo = d.service.maxAttempts ∧
      ∃ errorCode retryable, outcome = .failed errorCode retryable false
  | .inspecting _ | .authorizing .. => False
  | _ => True

theorem DeliveryUnposted.resumed {report : Option (StoredDailyReport Content)}
    {attempt : DeliveryAttempt Content} (h : DeliveryUnposted d report attempt) :
    DeliveryUnposted d report attempt.resumed :=
  ⟨h.request, Or.inl rfl⟩

omit [DecidableEq Content] in
/-- An error before the post leaves a failed delivery, or one with attempts left. -/
theorem nextStatus_unposted (attempt : DeliveryAttempt Content) (maxAttemptNo : ℕ)
    (errorCode : String) (retryable : Bool) :
    nextStatus attempt maxAttemptNo (.failed errorCode retryable false) = .failed ∨
      (nextStatus attempt maxAttemptNo (.failed errorCode retryable false) = .retryWait ∧
        attempt.attemptNo < maxAttemptNo) := by
  simp only [nextStatus, Bool.false_eq_true, if_false]
  split_ifs with hagain
  · exact Or.inr ⟨rfl, hagain.2⟩
  · exact Or.inl rfl

/-- A step of a delivery, of a report that must not be posted. -/
theorem storeStep_unposted {report : Option (StoredDailyReport Content)}
    {row : DeliveryRow Content} {phase : Phase Content} {effect : StoreEffect Content}
    (hrow : ∀ attempt, row = some attempt → DeliveryUnposted d report attempt)
    (hphase : PhaseUnposted d report phase) (h : storeStep d.service row phase = some effect) :
    (∀ attempt, effect.row = some attempt → DeliveryUnposted d report attempt) ∧
      PhaseUnposted d report effect.phase := by
  cases phase with
  -- these phases have no transaction
  | idle | sending | awaiting | returned | raised | crashed => simp [storeStep] at h
  -- a first delivery comes to neither of the two
  | inspecting confirmed => exact hphase.elim
  | authorizing existing confirmed => exact hphase.elim
  -- a reservation of a free row stores the first attempt, unposted
  | reserving deliveryId auditPayload =>
    rcases reserveDeliveryAttempt_cases row (initialAttempt deliveryId auditPayload) with
      ⟨-, heq⟩ | ⟨existing, -, heq | ⟨message, heq⟩⟩ <;>
      simp only [storeStep, heq, Option.some.injEq] at h <;> subst h
    · refine ⟨?_, rfl⟩
      rintro attempt ⟨⟩
      exact ⟨hphase, Or.inl rfl⟩
    · exact ⟨hrow, trivial⟩
    · exact ⟨hrow, trivial⟩
  -- a row that is there may be loaded to be sent again
  | loading =>
    simp only [storeStep, Option.some.injEq] at h
    subst h
    refine ⟨hrow, ?_⟩
    cases row with
    | none => trivial
    | some existing =>
      simp only [afterLoading]
      split_ifs
      · trivial
      · rfl
  | reloading deliveryId text =>
    simp only [storeStep, Option.some.injEq] at h
    subst h
    refine ⟨hrow, ?_⟩
    cases loadDeliveryAttempt row deliveryId with
    | none => trivial
    | some current => trivial
  -- resuming leaves the row pending and unposted
  | resuming attempt maxAttemptNo text =>
    rcases retryDeliveryAttempt_cases row attempt.deliveryId with
      ⟨r, hr, -, heq⟩ | ⟨-, heq⟩ <;>
      simp only [storeStep, heq, if_true, Bool.false_eq_true, if_false, Option.some.injEq] at h <;>
      subst h
    · refine ⟨?_, hphase⟩
      rintro resumed ⟨⟩
      exact (hrow r hr).resumed
    · exact ⟨hrow, trivial⟩
  -- the outcome of an error before the post
  | storing attempt maxAttemptNo send outcome =>
    obtain ⟨rfl, errorCode, retryable, rfl⟩ := hphase
    rcases updateDeliveryAttempt_cases row attempt.deliveryId attempt.attemptNo
      (nextStatus attempt d.service.maxAttempts (.failed errorCode retryable false))
      (SendOutcome.failed errorCode retryable false).messageId
      (SendOutcome.failed errorCode retryable false).errorCode with
      ⟨-, message, heq⟩ | ⟨r, hr, hguard, heq⟩ | ⟨-, heq⟩ <;>
      simp only [storeStep, heq, Option.some.injEq] at h <;> subst h
    · exact ⟨hrow, trivial⟩
    · constructor
      · rintro stored ⟨⟩
        refine ⟨(hrow r hr).request, ?_⟩
        rcases nextStatus_unposted attempt d.service.maxAttempts errorCode retryable with
          hfailed | ⟨hwait, hleft⟩
        · exact Or.inr (Or.inl hfailed)
        · exact Or.inr (Or.inr ⟨hwait, by rw [hguard.2.1]; exact hleft⟩)
      · simp only [afterStoring]
        split_ifs
        · rfl
        · trivial
    · exact ⟨hrow, trivial⟩

/-- A transaction of the delivery writes the delivery row alone. -/
theorem onDelivery_ok {svc : Service} {phase phase' : Phase Content} {s s' : DailyStore Content}
    (h : onDelivery svc phase s = .ok phase' s') :
    (∃ effect, storeStep svc s.delivery phase = some effect ∧ phase' = effect.phase ∧
      s' = { s with delivery := effect.row }) ∨ (phase' = phase ∧ s' = s) := by
  unfold onDelivery at h
  cases heffect : storeStep svc s.delivery phase with
  | some effect =>
    simp only [heffect, EStateM.Result.ok.injEq] at h
    exact Or.inl ⟨effect, rfl, h.1.symm, h.2.symm⟩
  | none =>
    simp only [heffect, EStateM.Result.ok.injEq] at h
    exact Or.inr ⟨h.1.symm, h.2.symm⟩

/-- The phases of a delivery keep the rows unposted until the post. -/
theorem runPhases_unposted (left : ℕ) : ∀ send phase,
    Triple (fun s calls => Posted calls ∨
        (Unposted d reportDate s ∧ PhaseUnposted d s.report phase))
      (runPhases d c left send phase) (fun _ => UnpostedUntil d reportDate)
      (UnpostedUntil d reportDate) := by
  have hforget : ∀ phase (s : DailyStore Content) calls,
      Posted calls ∨ (Unposted d reportDate s ∧ PhaseUnposted d s.report phase) →
      UnpostedUntil d reportDate s calls :=
    fun phase s calls h => h.imp id And.left
  -- by the steps that are left
  induction left with
  | zero =>
    intro send phase
    cases phase with
    | returned result => exact triple_pure (hforget _)
    | raised e => exact triple_raise (hforget _)
    | idle | reserving | loading | resuming | reloading | inspecting | authorizing | sending
      | awaiting | storing | crashed => exact triple_stop (hforget _)
  | succ left ih =>
    intro send phase
    -- a transaction, and what follows it
    have hcommit : Triple (fun s calls => Posted calls ∨
          (Unposted d reportDate s ∧ PhaseUnposted d s.report phase))
        (do
          let phase ← commit (onDelivery d.service phase)
          runPhases d c left send phase : DailyProgram Content _)
        (fun _ => UnpostedUntil d reportDate) (UnpostedUntil d reportDate) := by
      refine triple_bind (triple_commit ?_ (hforget phase)) (ih send)
      rintro s calls phase' s' (hposted | ⟨hs, hphase⟩) hbody
      · exact Or.inl hposted
      · rcases onDelivery_ok hbody with ⟨effect, heffect, rfl, rfl⟩ | ⟨rfl, rfl⟩
        · obtain ⟨hrow, hnext⟩ := storeStep_unposted hs.delivery hphase heffect
          exact Or.inr ⟨⟨hs.checkpoints, hs.report, hrow⟩, hnext⟩
        · exact Or.inr ⟨hs, hphase⟩
    -- only `send_card` may post the message
    cases phase with
    | returned result => exact triple_pure (hforget _)
    | raised e => exact triple_raise (hforget _)
    | sending attempt maxAttemptNo =>
      simp only [runPhases]
      -- an error before the post, or the post
      cases c.sendCard send with
      | unposted errorCode retryable =>
        refine triple_weaken (ih _ _) ?_ fun _ _ _ h => h
        rintro s calls (hposted | ⟨hs, hphase⟩)
        · exact Or.inl hposted
        · exact Or.inr ⟨hs, hphase, errorCode, retryable, rfl⟩
      | posted outcome =>
        refine triple_bind (triple_call ?_ (hforget _)) fun _ => ih _ _
        intro s calls h
        exact Or.inl ⟨attempt.deliveryId, by simp⟩
    | idle | reserving | loading | resuming | reloading | inspecting | authorizing | awaiting
      | storing | crashed => exact hcommit

omit [DecidableEq Content] in
theorem publishable_iff (report : StoredDailyReport Content) :
    report.Publishable ↔ lifecycleValue report.lifecycleStatus = "validated" ∧
      decisionValue report.publicationDecision = "published" := by
  unfold StoredDailyReport.Publishable
  cases report.lifecycleStatus <;> cases report.publicationDecision <;> decide

omit [DecidableEq Content] in
/-- What the checks of `deliver` let through is a publishable report. -/
theorem beginDeliver_cases (report : Option (StoredDailyReport Content))
    (reportId chatId : String) (deliveryId : UUID) :
    (∃ e, beginDeliver (report.map fun r => StoredReport.mk (lifecycleValue r.lifecycleStatus)
        (decisionValue r.publicationDecision) r) reportId chatId false deliveryId = .raised e) ∨
    ∃ r, report = some r ∧ r.Publishable ∧ pyStrip chatId ≠ "" ∧
      beginDeliver (report.map fun r => StoredReport.mk (lifecycleValue r.lifecycleStatus)
        (decisionValue r.publicationDecision) r) reportId chatId false deliveryId =
          .reserving deliveryId r := by
  cases report with
  | none => exact Or.inl ⟨_, rfl⟩
  | some r =>
    simp only [Option.map_some, beginDeliver, Bool.false_eq_true, if_false]
    split_ifs with hrefused hchat
    · exact Or.inl ⟨_, rfl⟩
    · exact Or.inl ⟨_, rfl⟩
    · rw [not_or, not_not, not_not] at hrefused
      exact Or.inr ⟨r, rfl, (publishable_iff r).mpr hrefused, hchat, rfl⟩

omit [DecidableEq Content] in
theorem loadReport_eq_some {reportId : String} {s : DailyStore Content}
    {report : StoredDailyReport Content} (h : loadReport reportId s = some report) :
    s.report = some report := by
  unfold loadReport at h
  exact (Option.filter_eq_some_iff.mp h).1

/-- The delivery service posts no report before its hour. -/
theorem keeps_deliver (reportId : String) :
    Keeps (UnpostedUntil d reportDate) (deliver d c reportId) := by
  have hread : Triple (UnpostedUntil d reportDate)
      (read (loadReport reportId) : DailyProgram Content _)
      (fun report s calls => Posted calls ∨ (Unposted d reportDate s ∧
        ∀ r, report = some r → s.report = some r))
      (UnpostedUntil d reportDate) :=
    triple_read fun s calls h => h.imp id fun hs => ⟨hs, fun r hr => loadReport_eq_some hr⟩
  -- the report that is read is the stored one
  refine triple_bind hread fun report => ?_
  have hforget : ∀ s calls, (Posted calls ∨ (Unposted d reportDate s ∧
      ∀ r, report = some r → s.report = some r)) → UnpostedUntil d reportDate s calls :=
    fun s calls h => h.imp id And.left
  -- the checks let a publishable report through, or raise
  rcases beginDeliver_cases report reportId d.chatId c.deliveryId with
    ⟨e, hraised⟩ | ⟨r, rfl, hpublishable, -, hreserving⟩
  · simp only [hraised]
    exact triple_raise hforget
  · simp only [hreserving]
    cases hrender : d.renderCard r with
    | error e => exact triple_raise hforget
    | ok auditPayload =>
      refine triple_weaken (runPhases_unposted _ 0 (.reserving c.deliveryId auditPayload)) ?_
        fun _ _ _ h => h
      rintro s calls (hposted | ⟨hs, hreport⟩)
      · exact Or.inl hposted
      · exact Or.inr ⟨hs, r, hreport r rfl, hpublishable, hrender⟩

/-! ### The run -/

/-- The ports of the deployed worker keep the day unposted. -/
theorem portsKeep_worker (d : Deployment Content) (c : Collaborators Content) (reportDate : Day) :
    PortsKeep (UnpostedUntil d reportDate) (d.worker c) reportDate where
  task := by
    intro t ht attemptNo
    obtain ⟨deployed, hdeployed, rfl⟩ := List.mem_map.mp ht
    exact keeps_runCheckpointed hdeployed _
  hold := keeps_pure
  materialize := keeps_materialize
  now := keeps_pure
  sleeper := fun _ => keeps_ofExcept
  loadReport := fun _ => keeps_read
  loadGenerationAttempt := fun _ => keeps_read
  generate := fun _ => keeps_generate
  deliver := keeps_deliver
  deliverAlert := fun alert =>
    keeps_bind (keeps_call fun s calls h => h.imp (·.append _) id) fun _ => keeps_ofExcept

/-- Wherever a run is stopped, it leaves unposted rows, unless it posted the message. -/
theorem runForDate_unposted {s : DailyStore Content} (hs : Unposted d reportDate s)
    (steps : Option ℕ) :
    UnpostedUntil d reportDate
      (finalState ((d.worker c).runForDate reportDate) ⟨s, [], steps⟩).durable
      (finalState ((d.worker c).runForDate reportDate) ⟨s, [], steps⟩).calls := by
  have hkeeps := (portsKeep_worker d c reportDate).runForDate
  have hrun := hkeeps ⟨s, [], steps⟩ (Or.inr hs)
  unfold finalState
  cases hresult : (d.worker c).runForDate reportDate ⟨s, [], steps⟩ with
  | ok result w =>
    rw [hresult] at hrun
    exact hrun
  | error halt w =>
    rw [hresult] at hrun
    exact hrun

end MacroPlatform.Daily
