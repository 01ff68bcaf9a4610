import MacroPlatform.Daily.Worker

/-! # The daily run is fail-closed

A run against ports that answer anything, or raise, each time they are called: what it returns
is judged by the calls that it made and by what they came back with.

* `required_succeeded`: a worker that is not held up has a result for every required task;
* `run_fail_closed`: over every behaviour of the ports.
-/

namespace MacroPlatform.Daily

open Delivery Process Schedule

/-! ## Ports -/

/-- A call of a port, with its outcome. -/
inductive PortCall (Content : Type) where
  | held (outcome : Except PythonError Bool)
  | taskRun (taskId : String) (outcome : Except PythonError ScheduledTaskResult)
  | materialized
      (outcome : Except PythonError (ReportInputSnapshot Content × QualityGateStatus))
  | reportLoaded (outcome : Except PythonError (Option (StoredDailyReport Content)))
  | attemptLoaded (outcome : Except PythonError (Option ReportGenerationAttempt))
  | generated (outcome : Except PythonError (ReportGenerationResult Content))
  | clock (outcome : Except PythonError Instant)
  | slept (duration : ℤ) (outcome : Except PythonError PUnit)
  | delivered (reportId : String) (outcome : Except PythonError (ReportDeliveryResult Content))
  | alerted (alert : WorkflowAlert) (outcome : Except PythonError String)

abbrev PortLog (Content : Type) := List (PortCall Content)

/-- What the ports answer: anything, after any calls. -/
structure Ports (Content : Type) where
  hold : PortLog Content → Except PythonError Bool
  runTask : String → Day → PortLog Content → Except PythonError ScheduledTaskResult
  materialize : List ScheduledTaskResult → PortLog Content →
    Except PythonError (ReportInputSnapshot Content × QualityGateStatus)
  loadReport : String → PortLog Content → Except PythonError (Option (StoredDailyReport Content))
  loadGenerationAttempt : UUID → PortLog Content →
    Except PythonError (Option ReportGenerationAttempt)
  generate : String → String → String → PortLog Content →
    Except PythonError (ReportGenerationResult Content)
  now : PortLog Content → Except PythonError Instant
  sleeper : ℤ → PortLog Content → Except PythonError PUnit
  deliver : String → PortLog Content → Except PythonError (ReportDeliveryResult Content)
  deliverAlert : WorkflowAlert → PortLog Content → Except PythonError String

/-- A task that the worker is given. -/
structure TaskSetting where
  taskId : String
  required : Bool
  providerRole : Option String := none

/-- The settings of a worker and of its workflow. -/
structure WorkerSettings where
  tasks : List TaskSetting
  taskIds_nodup : (tasks.map (·.taskId)).Nodup
  maxAttempts : ℕ := 3
  maxAttempts_pos : 1 ≤ maxAttempts := by decide
  reportVersion : String
  uuid5 : String → UUID
  publishAt : Day → Instant

variable {Content : Type}

def TaskSetting.task (t : TaskSetting) (ports : Ports Content) :
    ScheduledTask PUnit (PortCall Content) :=
  { taskId := t.taskId
    required := t.required
    providerRole := t.providerRole
    run := fun reportDate _ => ask (ports.runTask t.taskId reportDate) (.taskRun t.taskId) }

def WorkerSettings.workflow (settings : WorkerSettings) (ports : Ports Content) :
    DailyReportWorkflow PUnit (PortCall Content) Content :=
  { reportVersion := settings.reportVersion
    uuid5 := settings.uuid5
    publishAt := settings.publishAt
    now := ask ports.now .clock
    sleeper := fun duration => ask (ports.sleeper duration) (.slept duration)
    loadReport := fun reportId => ask (ports.loadReport reportId) .reportLoaded
    loadGenerationAttempt := fun generationId =>
      ask (ports.loadGenerationAttempt generationId) .attemptLoaded
    generate := fun reportId reportVersion snapshotId =>
      ask (ports.generate reportId reportVersion snapshotId) .generated
    deliver := fun reportId => ask (ports.deliver reportId) (.delivered reportId)
    deliverAlert := fun alert => ask (ports.deliverAlert alert) (.alerted alert) }

/-- The worker with these settings and ports. -/
def WorkerSettings.worker (settings : WorkerSettings) (ports : Ports Content) :
    ScheduledIngestionWorker PUnit (PortCall Content) Content :=
  { tasks := settings.tasks.map (·.task ports)
    taskIds_nodup := by simpa [Function.comp_def, TaskSetting.task] using settings.taskIds_nodup
    maxAttempts := settings.maxAttempts
    maxAttempts_pos := settings.maxAttempts_pos
    hold := fun _ => ask ports.hold .held
    materialize := fun _ results => ask (ports.materialize results) .materialized
    workflow := settings.workflow ports }

/-! ## What the calls say -/

def PortCall.isDelivery : PortCall Content → Bool
  | .delivered .. => true
  | _ => false

def PortCall.isAlert : PortCall Content → Bool
  | .alerted .. => true
  | _ => false

/-- The outcome of a run of a task. -/
def PortCall.outcomeOf (taskId : String) :
    PortCall Content → Option (Except PythonError ScheduledTaskResult)
  | .taskRun id outcome => if id = taskId then some outcome else none
  | _ => none

/-- Neither the delivery port nor the alert port was called. -/
def Quiet (log : PortLog Content) : Prop :=
  ∀ c ∈ log, c.isDelivery = false ∧ c.isAlert = false

/-- The last run of the task succeeded, with a durable run id. -/
def TaskSucceeded (taskId : String) (log : PortLog Content) : Prop :=
  ∃ result, (log.filterMap (·.outcomeOf taskId)).getLast? = some (.ok result) ∧
    result.status = .succeeded ∧ result.runId ≠ none

/-- The input gate let the snapshot of the run through. -/
def GatePassed (log : PortLog Content) : Prop :=
  ∃ snapshot quality, .materialized (.ok (snapshot, quality)) ∈ log ∧
    (quality = .passed ∨ quality = .degraded)

/-- The report was loaded or generated. -/
def ReportMade (report : StoredDailyReport Content) (log : PortLog Content) : Prop :=
  .reportLoaded (.ok (some report)) ∈ log ∨
    ∃ made, .generated (.ok made) ∈ log ∧ made.report = some report

/-- The wait until the publish time: it had come, or it was slept for. -/
def Waited (publishAt : Instant) (log : PortLog Content) : Prop :=
  ∃ now, (log = [.clock (.ok now)] ∧ publishAt ≤ now) ∨
    (log = [.clock (.ok now), .slept (publishAt - now) (.ok ⟨⟩)] ∧ now < publishAt)

/-- The report was delivered: by one call, the last one, right after the wait. -/
def ReportDelivered (publishAt : Instant) (log : PortLog Content) : Prop :=
  ∃ report before wait delivery,
    log = before ++ wait ++ [.delivered report.reportId (.ok delivery)] ∧
    Quiet before ∧ ReportMade report before ∧ report.Publishable ∧
    Waited publishAt wait ∧ deliveryStatus delivery = "succeeded"

/-- No delivery came back with `succeeded`. -/
def NoneDelivered (log : PortLog Content) : Prop :=
  ∀ reportId delivery, .delivered reportId (.ok delivery) ∈ log →
    deliveryStatus delivery ≠ "succeeded"

/-- What a run may return after its calls. -/
structure FailClosed (settings : WorkerSettings) (reportDate : Day)
    (status : ScheduledWorkerStatus) (log : PortLog Content) : Prop where
  delivered : status = .succeeded ∨ status = .degraded →
    (∀ t ∈ settings.tasks, t.required → TaskSucceeded t.taskId log) ∧ GatePassed log ∧
      ReportDelivered (settings.publishAt reportDate) log
  blocked : status = .blocked → (log.filter (·.isAlert)).length = 1 ∧ NoneDelivered log
  quiet : status = .retryable ∨ status = .locked → Quiet log

/-! ### Lemmas on logs -/

theorem quiet_nil : Quiet ([] : PortLog Content) := by
  intro c hc
  cases hc

theorem quiet_append {log log' : PortLog Content} :
    Quiet (log ++ log') ↔ Quiet log ∧ Quiet log' := by
  simp only [Quiet, List.mem_append]
  constructor
  · intro h
    exact ⟨fun c hc => h c (Or.inl hc), fun c hc => h c (Or.inr hc)⟩
  · rintro ⟨h, h'⟩ c (hc | hc)
    · exact h c hc
    · exact h' c hc

theorem quiet_singleton {c : PortCall Content} :
    Quiet [c] ↔ c.isDelivery = false ∧ c.isAlert = false := by
  simp [Quiet]

theorem Quiet.alerts {log : PortLog Content} (h : Quiet log) : log.filter (·.isAlert) = [] := by
  rw [List.filter_eq_nil_iff]
  intro c hc
  simp [(h c hc).2]

theorem Quiet.noneDelivered {log : PortLog Content} (h : Quiet log) : NoneDelivered log := by
  intro reportId delivery hmem
  have hdelivery := (h _ hmem).1
  simp [PortCall.isDelivery] at hdelivery

theorem noneDelivered_append {log log' : PortLog Content} (h : NoneDelivered log)
    (h' : NoneDelivered log') : NoneDelivered (log ++ log') := by
  intro reportId delivery hmem
  rcases List.mem_append.mp hmem with hmem | hmem
  · exact h reportId delivery hmem
  · exact h' reportId delivery hmem

variable {settings : WorkerSettings} {ports : Ports Content} {reportDate : Day}

/-! ## Tasks -/

/-- A result of `_run_task` after the calls of one attempt or of several. -/
def TaskReported (taskId : String) (result : ScheduledTaskResult) (log : PortLog Content) :
    Prop :=
  result.taskId = taskId ∧ (result.status = .succeeded → ∃ last,
    log.getLast? = some (.taskRun taskId (.ok last)) ∧ last.status = .succeeded ∧
      last.runId ≠ none)

/-- One attempt runs the task once, and gives no result only while attempts are left. -/
theorem appends_attemptTask (t : TaskSetting) (attemptNo : ℕ) :
    Appends ((settings.worker ports).attemptTask (t.task ports) reportDate attemptNo)
      (fun result log => (∃ outcome, log = [.taskRun t.taskId outcome]) ∧
        (result = none → attemptNo < settings.maxAttempts) ∧
        ∀ r, result = some r → TaskReported t.taskId r log)
      (fun _ _ => False) := by
  refine appends_catching (E := fun _ log => ∃ outcome, log = [.taskRun t.taskId outcome])
    (appends_bind appends_ask ?_ ?_) ?_
  · rintro result log rfl
    split_ifs with hid hretry hmissing
    · exact appends_raise ⟨_, rfl⟩
    · exact appends_pure ⟨⟨_, rfl⟩, fun _ => hretry.2, by simp⟩
    · exact appends_pure ⟨⟨_, rfl⟩, by simp, by rintro r ⟨⟩; exact ⟨not_not.mp hid, by simp⟩⟩
    · refine appends_pure ⟨⟨_, rfl⟩, by simp, ?_⟩
      rintro r ⟨⟩
      refine ⟨not_not.mp hid, fun hstatus => ⟨result, rfl, hstatus, ?_⟩⟩
      exact fun hrun => hmissing ⟨hstatus, hrun⟩
  · rintro e log rfl
    exact ⟨_, rfl⟩
  · rintro e log ⟨outcome, rfl⟩
    -- a result that the worker makes up has not succeeded
    have hmadeUp : ∀ status, status ≠ .succeeded → ∀ log : PortLog Content,
        TaskReported t.taskId ((t.task ports).unfinished status attemptNo e.name) log :=
      fun status hstatus log => ⟨rfl, fun h => absurd h hstatus⟩
    split_ifs with hretryable hleft
    · exact appends_pure ⟨⟨_, rfl⟩, fun _ => hleft, by simp⟩
    · exact appends_pure ⟨⟨_, rfl⟩, by simp, by rintro r ⟨⟩; exact hmadeUp _ (by simp) _⟩
    · exact appends_pure ⟨⟨_, rfl⟩, by simp, by rintro r ⟨⟩; exact hmadeUp _ (by simp) _⟩

/-- The calls of a task are runs of it. -/
def RunsOf (taskIds : List String) (log : PortLog Content) : Prop :=
  ∀ c ∈ log, ∃ taskId ∈ taskIds, ∃ outcome, c = .taskRun taskId outcome

/-- The attempts of a task are runs of this task, and the last one gives the result. -/
theorem appends_runTask (t : TaskSetting) (left : ℕ) :
    ∀ attemptNo, attemptNo + left = settings.maxAttempts → 
      Appends ((settings.worker ports).runTask (t.task ports) reportDate attemptNo (left + 1))
        (fun result log => RunsOf [t.taskId] log ∧ TaskReported t.taskId result log)
        (fun _ _ => False) := by
  -- by the attempts that are left after this one
  induction left with
  | zero =>
    intro attemptNo hlast
    refine appends_bind (appends_attemptTask t attemptNo) ?_ fun _ _ h => h
    rintro result log ⟨⟨outcome, rfl⟩, hnone, hsome⟩
    -- the last attempt always has a result
    cases result with
    | none =>
      have hmore := hnone rfl
      omega
    | some r => exact appends_pure ⟨by simp [RunsOf], by simpa using hsome r rfl⟩
  | succ left ih =>
    intro attemptNo hlast
    refine appends_bind (appends_attemptTask t attemptNo) ?_ fun _ _ h => h
    rintro result log ⟨⟨outcome, rfl⟩, hnone, hsome⟩
    cases result with
    -- no result, so another attempt follows; its calls come after this one's
    | none =>
      refine appends_weaken (ih (attemptNo + 1) (by omega)) ?_ fun _ _ h => h
      rintro r log ⟨hruns, hid, hlast⟩
      refine ⟨?_, hid, ?_⟩
      · intro c hc
        rcases List.mem_cons.mp hc with rfl | hc
        · exact ⟨t.taskId, by simp, outcome, rfl⟩
        · exact hruns c hc
      · intro hstatus
        obtain ⟨last, hgetLast, hok⟩ := hlast hstatus
        exact ⟨last, by simp [List.getLast?_cons, hgetLast], hok⟩
    | some r => exact appends_pure ⟨by simp [RunsOf], by simpa using hsome r rfl⟩

theorem runsOf_outcomes {taskIds : List String} {log : PortLog Content} {taskId : String}
    (h : RunsOf taskIds log) (hid : taskId ∉ taskIds) :
    log.filterMap (·.outcomeOf taskId) = [] := by
  rw [List.filterMap_eq_nil_iff]
  intro c hc
  obtain ⟨id, hmem, outcome, rfl⟩ := h c hc
  have hne : id ≠ taskId := by
    rintro rfl
    exact hid hmem
  simp [PortCall.outcomeOf, hne]

theorem taskSucceeded_of_reported {taskId : String} {result : ScheduledTaskResult}
    {log : PortLog Content} (h : TaskReported taskId result log)
    (hstatus : result.status = .succeeded) : TaskSucceeded taskId log := by
  obtain ⟨last, hlast, hok⟩ := h.2 hstatus
  obtain ⟨before, rfl⟩ := List.getLast?_eq_some_iff.mp hlast
  refine ⟨last, ?_, hok⟩
  rw [List.filterMap_append]
  simp [PortCall.outcomeOf]

/-- The other calls of a run leave what a task came to. -/
theorem TaskSucceeded.append {taskId : String} {log log' : PortLog Content}
    (h : TaskSucceeded taskId log) (hlog' : log'.filterMap (·.outcomeOf taskId) = []) :
    TaskSucceeded taskId (log ++ log') := by
  unfold TaskSucceeded
  rw [List.filterMap_append, hlog', List.append_nil]
  exact h

theorem TaskSucceeded.prepend {taskId : String} {log log' : PortLog Content}
    (h : TaskSucceeded taskId log') : TaskSucceeded taskId (log ++ log') := by
  obtain ⟨result, hlast, hok⟩ := h
  refine ⟨result, ?_, hok⟩
  rw [List.filterMap_append, List.getLast?_append, hlast]
  rfl

/-- The results come in the order of the tasks, and a succeeded one is of a task whose last run
succeeded. -/
structure TasksReported (tasks : List TaskSetting) (results : List ScheduledTaskResult)
    (log : PortLog Content) : Prop where
  runs : RunsOf (tasks.map (·.taskId)) log
  taskIds : results.map (·.taskId) = tasks.map (·.taskId)
  succeeded : ∀ result ∈ results, result.status = .succeeded → TaskSucceeded result.taskId log

/-- The tasks of a day report one after the other, each what its runs have shown. -/
theorem appends_runTasks (tasks : List TaskSetting) (hnodup : (tasks.map (·.taskId)).Nodup) :
    Appends ((settings.worker ports).runTasks reportDate (tasks.map (·.task ports)))
      (fun results log => TasksReported tasks results log) (fun _ _ => False) := by
  induction tasks with
  | nil => exact appends_pure ⟨by simp [RunsOf], rfl, by simp⟩
  -- the tasks have ids of their own, so one task's calls say nothing of another's
  | cons t tasks ih =>
    rw [List.map_cons, List.nodup_cons] at hnodup
    have hattempts : ∃ left, left + 1 = settings.maxAttempts :=
      ⟨settings.maxAttempts - 1, Nat.sub_add_cancel settings.maxAttempts_pos⟩
    obtain ⟨left, hleft⟩ := hattempts
    have hfirst : Appends ((settings.worker ports).runTask (t.task ports) reportDate 1
        settings.maxAttempts)
        (fun result log => RunsOf [t.taskId] log ∧ TaskReported t.taskId result log)
        (fun _ _ => False) := by
      rw [← hleft]
      exact appends_runTask t left 1 (by omega)
    refine appends_bind hfirst ?_ fun _ _ h => h
    rintro result log ⟨hruns, hreported⟩
    refine appends_bind (ih hnodup.2) ?_ fun _ _ h => h
    intro results rest hrest
    refine appends_pure ⟨?_, ?_, ?_⟩
    · intro c hc
      rw [List.append_nil] at hc
      rcases List.mem_append.mp hc with hc | hc
      · obtain ⟨id, hid, houtcome⟩ := hruns c hc
        exact ⟨id, by simpa using Or.inl (List.mem_singleton.mp hid), houtcome⟩
      · obtain ⟨id, hid, houtcome⟩ := hrest.runs c hc
        exact ⟨id, List.mem_cons_of_mem _ hid, houtcome⟩
    · rw [List.map_cons, List.map_cons, hreported.1, hrest.taskIds]
    · intro r hr hstatus
      -- the success of the first task, or of one of the others
      rw [List.append_nil]
      rcases List.mem_cons.mp hr with rfl | hr
      · have hown := taskSucceeded_of_reported hreported hstatus
        rw [hreported.1]
        exact hown.append (runsOf_outcomes hrest.runs hnodup.1)
      · exact (hrest.succeeded r hr hstatus).prepend

theorem requiredTask_map (ports : Ports Content) {tasks : List TaskSetting} {t : TaskSetting}
    (ht : t ∈ tasks)
    (hrequired : t.required = true) :
    requiredTask (tasks.map (·.task ports)) t.taskId = true := by
  rw [requiredTask, List.any_eq_true]
  exact ⟨t.task ports, List.mem_map_of_mem ht, by simp [TaskSetting.task, hrequired]⟩

/-- A worker that is not held up has a succeeded result for every required task. -/
theorem required_succeeded {tasks : List TaskSetting} {results : List ScheduledTaskResult}
    (hids : results.map (·.taskId) = tasks.map (·.taskId))
    (hstatus : workerStatus results (tasks.map (·.task ports)) = .succeeded ∨
      workerStatus results (tasks.map (·.task ports)) = .degraded)
    {t : TaskSetting} (ht : t ∈ tasks) (hrequired : t.required = true) :
    ∃ result ∈ results, result.taskId = t.taskId ∧ result.status = .succeeded := by
  have hmem : t.taskId ∈ results.map (·.taskId) := by
    rw [hids]
    exact List.mem_map_of_mem ht
  obtain ⟨result, hresult, hid⟩ := List.mem_map.mp hmem
  have hrequiredTask := requiredTask_map ports ht hrequired
  refine ⟨result, hresult, hid, ?_⟩
  -- the statuses that hold the worker up are those of its required tasks
  unfold workerStatus at hstatus
  split_ifs at hstatus with hempty hfailed hretryable hother
  · simp at hstatus
  · simp at hstatus
  · simp at hstatus
  · cases hr : result.status with
    | succeeded => rfl
    -- a failed or retryable required task would hold it up
    | failed =>
      exact absurd (List.any_eq_true.mpr ⟨result, hresult, by simp [hr, hid, hrequiredTask]⟩) hfailed
    | retryable =>
      exact absurd (List.any_eq_true.mpr ⟨result, hresult, by simp [hr, hid, hrequiredTask]⟩)
        hretryable
  -- every other status but success degrades the worker
  · by_contra hne
    exact hother (List.any_eq_true.mpr ⟨result, hresult, by simp [hne]⟩)

theorem combined_passes {status : ScheduledWorkerStatus} {quality : QualityGateStatus}
    (h : combineWorkerAndQualityStatus status quality = .succeeded ∨
      combineWorkerAndQualityStatus status quality = .degraded) :
    (status = .succeeded ∨ status = .degraded) ∧ (quality = .passed ∨ quality = .degraded) := by
  revert h
  cases status <;> cases quality <;> decide

/-! ## The result that the workflow is given -/

/-- What is known of a result before the workflow completes it. -/
structure Ingested (settings : WorkerSettings) (result : ScheduledWorkerResult)
    (log : PortLog Content) : Prop where
  quiet : Quiet log
  passes : result.status = .succeeded ∨ result.status = .degraded →
    (∀ t ∈ settings.tasks, t.required → TaskSucceeded t.taskId log) ∧ GatePassed log

theorem RunsOf.quiet {taskIds : List String} {log : PortLog Content} (h : RunsOf taskIds log) :
    Quiet log := by
  intro c hc
  obtain ⟨id, -, outcome, rfl⟩ := h c hc
  exact ⟨rfl, rfl⟩

/-- An ingestion succeeds only when each required task has. -/
theorem appends_ingest :
    Appends ((settings.worker ports).ingest reportDate)
      (fun result log => Ingested settings result log ∧ result.reportDate = reportDate)
      (fun _ _ => False) := by
  refine appends_bind (appends_runTasks settings.tasks settings.taskIds_nodup) ?_ fun _ _ h => h
  intro results log hreported
  refine appends_bind (appends_trying appends_ask) ?_ fun _ _ h => h
  -- the snapshot was materialized, or the materializer raised
  rintro x materialized (⟨⟨snapshot, quality⟩, rfl, rfl⟩ | ⟨e, rfl, rfl⟩)
  · refine appends_pure ⟨⟨?_, ?_⟩, rfl⟩
    · rw [List.append_nil, quiet_append]
      exact ⟨hreported.runs.quiet, quiet_singleton.mpr ⟨rfl, rfl⟩⟩
    · intro hstatus
      obtain ⟨hworker, hquality⟩ := combined_passes hstatus
      -- the worker was not held up, so each required task has succeeded
      refine ⟨?_, snapshot, quality, by simp, hquality⟩
      intro t ht hrequired
      obtain ⟨result, hresult, hid, hsucceeded⟩ :=
        required_succeeded hreported.taskIds hworker ht hrequired
      have htask := hreported.succeeded result hresult hsucceeded
      rw [hid] at htask
      rw [List.append_nil]
      exact htask.append rfl
  · refine appends_pure ⟨⟨?_, ?_⟩, rfl⟩
    · rw [List.append_nil, quiet_append]
      exact ⟨hreported.runs.quiet, quiet_singleton.mpr ⟨rfl, rfl⟩⟩
    -- after an exception the run ends retryable, which is none of the two
    · rintro (hstatus | hstatus)
      · cases hstatus
      · cases hstatus

/-! ## The workflow -/

/-- No task was run. -/
def Taskless (log : PortLog Content) : Prop :=
  ∀ taskId, log.filterMap (·.outcomeOf taskId) = []

theorem taskless_append {log log' : PortLog Content} (h : Taskless log) (h' : Taskless log') :
    Taskless (log ++ log') := by
  intro taskId
  rw [List.filterMap_append, h taskId, h' taskId]
  rfl

theorem taskless_singleton {c : PortCall Content} (h : ∀ taskId, c.outcomeOf taskId = none) :
    Taskless [c] := by
  intro taskId
  simp [h taskId]

/-- What a result of the workflow says of its calls. -/
structure Completed (publishAt : Instant) (before status : ScheduledWorkerStatus)
    (log : PortLog Content) : Prop where
  taskless : Taskless log
  delivered : status = .succeeded ∨ status = .degraded →
    (before = .succeeded ∨ before = .degraded) ∧ ReportDelivered publishAt log
  blocked : status = .blocked → (log.filter (·.isAlert)).length = 1 ∧ NoneDelivered log
  quiet : status = .retryable ∨ status = .locked → Quiet log

theorem appends_alertTerminal {result : ScheduledWorkerResult} {stage : WorkflowStage}
    {errorCode : String} :
    Appends ((settings.workflow ports).alertTerminal result stage errorCode)
      (fun r log => r.status = .blocked ∧ ∃ alert outcome, log = [.alerted alert outcome])
      (fun _ _ => False) := by
  refine appends_bind (appends_trying appends_ask) ?_ fun _ _ h => h
  rintro x log (⟨status, rfl, rfl⟩ | ⟨e, rfl, rfl⟩)
  · exact appends_pure ⟨rfl, _, _, rfl⟩
  · exact appends_pure ⟨rfl, _, _, rfl⟩

/-- A run that ends with an alert, after calls that neither alerted nor delivered. -/
theorem completed_alert {publishAt : Instant} {before : ScheduledWorkerStatus}
    {log : PortLog Content} {alert : WorkflowAlert} {outcome : Except PythonError String}
    (htaskless : Taskless log) (halerts : log.filter (·.isAlert) = []) (hnone : NoneDelivered log) :
    Completed publishAt before .blocked (log ++ [.alerted alert outcome]) := by
  refine ⟨?_, by simp, fun _ => ⟨?_, ?_⟩, by simp⟩
  · exact taskless_append htaskless (taskless_singleton fun _ => rfl)
  · rw [List.filter_append, halerts]
    rfl
  · apply noneDelivered_append hnone
    intro reportId delivery hmem
    simp at hmem

/-- The alert that ends a run after such calls. -/
theorem appends_alert_after {publishAt : Instant} {before : ScheduledWorkerStatus}
    {log : PortLog Content} {result : ScheduledWorkerResult} {stage : WorkflowStage}
    {errorCode : String} {E : PythonError → PortLog Content → Prop}
    (htaskless : Taskless log) (halerts : log.filter (·.isAlert) = []) (hnone : NoneDelivered log) :
    Appends ((settings.workflow ports).alertTerminal result stage errorCode)
      (fun r log' => Completed publishAt before r.status (log ++ log')) E := by
  refine appends_weaken appends_alertTerminal ?_ fun _ _ h => h.elim
  rintro r log' ⟨hstatus, alert, outcome, rfl⟩
  rw [hstatus]
  exact completed_alert htaskless halerts hnone

/-- The workflow waits until the hour of publication, and runs no task. -/
theorem appends_waitUntilPublish :
    Appends ((settings.workflow ports).waitUntilPublish reportDate)
      (fun _ log => Waited (settings.publishAt reportDate) log ∧ Taskless log)
      (fun _ log => Quiet log ∧ Taskless log) := by
  refine appends_bind appends_ask ?_ ?_
  · rintro now log rfl
    split_ifs with hearly
    · refine appends_weaken appends_ask ?_ ?_
      · rintro ⟨⟩ log rfl
        exact ⟨⟨now, Or.inr ⟨rfl, hearly⟩⟩, fun _ => rfl⟩
      · rintro e log rfl
        exact ⟨by simp [Quiet, PortCall.isDelivery, PortCall.isAlert], fun _ => rfl⟩
    · exact appends_pure ⟨⟨now, Or.inl ⟨rfl, not_lt.mp hearly⟩⟩, fun _ => rfl⟩
  · rintro e log rfl
    exact ⟨by simp [Quiet, PortCall.isDelivery, PortCall.isAlert], fun _ => rfl⟩

theorem Waited.quiet {publishAt : Instant} {log : PortLog Content} (h : Waited publishAt log) :
    Quiet log := by
  obtain ⟨now, ⟨rfl, -⟩ | ⟨rfl, -⟩⟩ := h
  · simp [Quiet, PortCall.isDelivery, PortCall.isAlert]
  · simp [Quiet, PortCall.isDelivery, PortCall.isAlert]

/-- A report that the run has comes from the report store or from the generator. -/
theorem appends_prepareReport {reportId snapshotId : String} :
    Appends ((settings.workflow ports).prepareReport reportId snapshotId)
      (fun prepared log => (Quiet log ∧ Taskless log) ∧
        ∀ report, prepared.1 = some report → ReportMade report log)
      (fun _ log => Quiet log ∧ Taskless log) := by
  have hloaded : ∀ outcome : Except PythonError (Option (StoredDailyReport Content)),
      Quiet [.reportLoaded outcome] ∧ Taskless [.reportLoaded outcome] :=
    fun outcome => ⟨quiet_singleton.mpr ⟨rfl, rfl⟩, taskless_singleton fun _ => rfl⟩
  refine appends_bind appends_ask ?_ ?_
  -- the store has no report of the version, or the one that is published
  · rintro (_ | report) log rfl
    · -- a report is generated
      have hquiet : ∀ outcome : Except PythonError (ReportGenerationResult Content),
          Quiet [.reportLoaded (.ok none), .generated outcome] ∧
            Taskless [.reportLoaded (.ok none), .generated outcome] :=
        fun outcome => ⟨by simp [Quiet, PortCall.isDelivery, PortCall.isAlert], fun _ => rfl⟩
      refine appends_bind appends_ask ?_ ?_
      · rintro made log rfl
        refine appends_pure ⟨hquiet _, fun report hreport => Or.inr ⟨made, by simp, hreport⟩⟩
      · rintro e log rfl
        exact hquiet _
    -- a stored report is taken, with the attempt that made it
    · have hmade : ∀ log : PortLog Content, ∀ found, some report = some found →
          ReportMade found (.reportLoaded (.ok (some report)) :: log) := by
        rintro log found ⟨⟩
        exact Or.inl (by simp)
      cases hgeneration : report.generationId with
      | none => simpa only [hgeneration] using appends_pure ⟨hloaded _, hmade []⟩
      | some generationId =>
        have hquiet : ∀ outcome : Except PythonError (Option ReportGenerationAttempt),
            Quiet [.reportLoaded (.ok (some report)), .attemptLoaded outcome] ∧
              Taskless [.reportLoaded (.ok (some report)), .attemptLoaded outcome] :=
          fun outcome => ⟨by simp [Quiet, PortCall.isDelivery, PortCall.isAlert], fun _ => rfl⟩
        simp only [hgeneration]
        refine appends_bind appends_ask ?_ ?_
        · rintro attempt log rfl
          exact appends_pure ⟨hquiet _, hmade _⟩
        · rintro e log rfl
          exact hquiet _
  · rintro e log rfl
    exact hloaded _

/-- The delivery of a publishable report that the run has waited for. -/
theorem appends_deliverReport {current : ScheduledWorkerResult}
    {report : StoredDailyReport Content} {errorCode : Option String}
    {before wait : PortLog Content} {E : PythonError → PortLog Content → Prop}
    (hcurrent : current.status = .succeeded ∨ current.status = .degraded)
    (hquiet : Quiet before ∧ Taskless before) (hmade : ReportMade report before)
    (hpublishable : report.Publishable)
    (hwaited : Waited (settings.publishAt reportDate) wait ∧ Taskless wait) :
    Appends ((settings.workflow ports).deliverReport current report errorCode)
      (fun r log => Completed (settings.publishAt reportDate) current.status r.status
        -- nothing but the delivery itself has delivered
        (before ++ wait ++ log)) E := by
  have hprior : Taskless (before ++ wait) := taskless_append hquiet.2 hwaited.2
  have hquietPrior : Quiet (before ++ wait) := quiet_append.mpr ⟨hquiet.1, hwaited.1.quiet⟩
  have hdelivery : ∀ outcome : Except PythonError (ReportDeliveryResult Content),
      Taskless (before ++ wait ++ [PortCall.delivered report.reportId outcome]) ∧
        (before ++ wait ++ [PortCall.delivered report.reportId outcome]).filter (·.isAlert) =
          [] := by
    intro outcome
    refine ⟨taskless_append hprior (taskless_singleton fun _ => rfl), ?_⟩
    rw [List.filter_append, hquietPrior.alerts]
    rfl
  have hcompleted : ∀ delivery, deliveryStatus delivery = "succeeded" → ∀ status,
      status = .succeeded ∨ status = .degraded →
      Completed (settings.publishAt reportDate) current.status status
        (before ++ wait ++ [PortCall.delivered report.reportId (.ok delivery)] ++ []) := by
    intro delivery hsucceeded status hstatus
    rw [List.append_nil]
    refine ⟨(hdelivery _).1, fun _ => ⟨hcurrent, ?_⟩, ?_, ?_⟩
    · exact ⟨report, before, wait, delivery, rfl, hquiet.1, hmade, hpublishable, hwaited.1,
        hsucceeded⟩
    · rintro rfl
      simp at hstatus
    · rintro (rfl | rfl) <;> simp at hstatus
  refine appends_bind (appends_trying appends_ask) ?_ fun _ _ (h : False) => h.elim
  -- the delivery answered, or it raised
  rintro x log (⟨delivery, rfl, rfl⟩ | ⟨e, rfl, rfl⟩)
  · simp only [← List.append_assoc]
    split_ifs with hstatus
    -- an answer that is no success is alerted
    · refine appends_alert_after (hdelivery _).1 (hdelivery _).2 ?_
      apply noneDelivered_append hquietPrior.noneDelivered
      intro reportId found hmem
      simp only [List.mem_singleton, PortCall.delivered.injEq, Except.ok.injEq] at hmem
      rw [hmem.2]
      exact hstatus
    · exact appends_pure (hcompleted delivery (not_not.mp hstatus) .degraded (Or.inr rfl))
    · exact appends_pure (hcompleted delivery (not_not.mp hstatus) .succeeded (Or.inl rfl))
  -- an exception is alerted as well
  · simp only [← List.append_assoc]
    refine appends_alert_after (hdelivery _).1 (hdelivery _).2 ?_
    apply noneDelivered_append hquietPrior.noneDelivered
    intro reportId found hmem
    simp at hmem

/-- A day without enough data is closed without a post. -/
theorem appends_completeSnapshot {current : ScheduledWorkerResult}
    (hcurrent : current.status = .succeeded ∨ current.status = .degraded)
    (hdate : current.reportDate = reportDate) :
    Appends ((settings.workflow ports).completeSnapshot current)
      (fun r log => Completed (settings.publishAt reportDate) current.status r.status log)
      (fun _ log => Quiet log ∧ Taskless log) := by
  subst hdate
  have halert : ∀ log : PortLog Content, Quiet log ∧ Taskless log →
      ∀ result stage errorCode,
      Appends ((settings.workflow ports).alertTerminal result stage errorCode)
        (fun r log' => Completed (settings.publishAt current.reportDate) current.status r.status
          (log ++ log'))
        (fun _ log' => Quiet (log ++ log') ∧ Taskless (log ++ log')) :=
    fun log hlog result stage errorCode =>
      appends_alert_after hlog.2 hlog.1.alerts hlog.1.noneDelivered
  unfold DailyReportWorkflow.completeSnapshot
  -- without a snapshot there is nothing to publish
  cases hsnapshot : current.snapshotId with
  | none => exact halert [] ⟨quiet_nil, fun _ => rfl⟩ _ _ _
  | some snapshotId =>
    refine appends_bind (appends_trying appends_prepareReport) ?_
      fun _ _ (h : False) => h.elim
    -- a report that can be published, one that cannot, none, or an exception
    rintro x log (⟨⟨made, errorCode⟩, rfl, hquiet, hmade⟩ | ⟨e, rfl, hquiet⟩)
    · cases made with
      | none => exact halert log hquiet _ _ _
      | some report =>
        change Appends ((settings.workflow ports).publishReport current report errorCode) _ _
        unfold DailyReportWorkflow.publishReport
        split_ifs with hpublishable
        -- the wait may raise; then nothing has been delivered
        · refine appends_bind appends_waitUntilPublish ?_ ?_
          · rintro ⟨⟩ wait hwaited
            simp only [← List.append_assoc]
            exact appends_deliverReport hcurrent hquiet (hmade report rfl) hpublishable hwaited
          · rintro e wait hwait
            exact ⟨quiet_append.mpr ⟨hquiet.1, hwait.1⟩, taskless_append hquiet.2 hwait.2⟩
        · exact halert log hquiet _ _ _
    · exact halert log hquiet _ _ _

/-- The rest of a day, from what the ingestion has found. -/
theorem appends_complete {result : ScheduledWorkerResult}
    (hdate : result.reportDate = reportDate) :
    Appends ((settings.workflow ports).complete result)
      (fun r log => Completed (settings.publishAt reportDate) result.status r.status log)
      (fun _ log => Quiet log ∧ Taskless log) := by
  unfold DailyReportWorkflow.complete
  have hreturned : ∀ status, status = .locked ∨ status = .retryable →
      Completed (settings.publishAt reportDate) status status ([] : PortLog Content) := by
    intro status hstatus
    refine ⟨fun _ => rfl, ?_, ?_, fun _ => quiet_nil⟩
    · rintro (rfl | rfl) <;> simp at hstatus
    · rintro rfl
      simp at hstatus
  -- a run that is locked or retryable ends without a call
  cases hstatus : result.status with
  | locked => simpa only [hstatus] using appends_pure (hstatus ▸ hreturned .locked (Or.inl rfl))
  | retryable =>
    simpa only [hstatus] using appends_pure (hstatus ▸ hreturned .retryable (Or.inr rfl))
  -- a blocked run is alerted
  | blocked =>
    simp only
    exact appends_alert_after (fun _ => rfl) List.filter_nil quiet_nil.noneDelivered
  | succeeded =>
    simp only
    exact hstatus ▸ appends_completeSnapshot (Or.inl hstatus) hdate
  | degraded =>
    simp only
    exact hstatus ▸ appends_completeSnapshot (Or.inr hstatus) hdate

/-- A failure that the workflow does not handle is alerted once, too. -/
theorem appends_completeResult {result : ScheduledWorkerResult}
    (hdate : result.reportDate = reportDate) :
    Appends ((settings.worker ports).completeResult result)
      (fun r log => Completed (settings.publishAt reportDate) result.status r.status log)
      (fun _ _ => False) := by
  refine appends_catching (appends_complete hdate) ?_
  rintro e log ⟨hquiet, htaskless⟩
  refine appends_catching (E := fun _ _ => False) ?_ fun _ _ h => h.elim
  exact appends_alert_after htaskless hquiet.alerts hquiet.noneDelivered

/-- The two halves of a day make a day that fails closed. -/
theorem completed_failClosed {result : ScheduledWorkerResult} {status : ScheduledWorkerStatus}
    {before log : PortLog Content} (hingested : Ingested settings result before)
    (hcompleted : Completed (settings.publishAt reportDate) result.status status log) :
    FailClosed settings reportDate status (before ++ log) := by
  refine ⟨?_, ?_, ?_⟩
  -- a delivery rests on what was ingested and on the report that was made
  · intro hstatus
    obtain ⟨hprior, report, made, wait, delivery, rfl, hquiet, hmade, hrest⟩ :=
      hcompleted.delivered hstatus
    obtain ⟨htasks, snapshot, quality, hmaterialized, hquality⟩ := hingested.passes hprior
    refine ⟨fun t ht hrequired => (htasks t ht hrequired).append (hcompleted.taskless _),
      ⟨snapshot, quality, List.mem_append_left _ hmaterialized, hquality⟩, ?_⟩
    refine ⟨report, before ++ made, wait, delivery, by simp only [List.append_assoc],
      quiet_append.mpr ⟨hingested.quiet, hquiet⟩, ?_, hrest⟩
    rcases hmade with hloaded | ⟨generated, hgenerated, hreport⟩
    · exact Or.inl (List.mem_append_right _ hloaded)
    · exact Or.inr ⟨generated, List.mem_append_right _ hgenerated, hreport⟩
  -- a blocked run has its one alert from the workflow
  · intro hstatus
    obtain ⟨hone, hnone⟩ := hcompleted.blocked hstatus
    refine ⟨?_, noneDelivered_append hingested.quiet.noneDelivered hnone⟩
    rw [List.filter_append, hingested.quiet.alerts]
    exact hone
  -- the other runs have made neither
  · intro hstatus
    exact quiet_append.mpr ⟨hingested.quiet, hcompleted.quiet hstatus⟩

/-- A day fails closed whatever the ports answer. -/
theorem appends_runForDate (ports : Ports Content) (reportDate : Day)
    (htasks : settings.tasks ≠ []) :
    Appends ((settings.worker ports).runForDate reportDate)
      (fun r log => FailClosed settings reportDate r.status log)
      (fun e log => log = [.held (.error e)]) := by
  have hsome : (settings.worker ports).tasks.isEmpty = false := by
    simpa [WorkerSettings.worker] using htasks
  unfold ScheduledIngestionWorker.runForDate
  rw [hsome, if_neg (by simp)]
  refine appends_bind appends_ask ?_ fun _ _ h => h
  rintro acquired log rfl
  have hheld : Quiet [(PortCall.held (.ok acquired) : PortCall Content)] :=
    quiet_singleton.mpr ⟨rfl, rfl⟩
  cases acquired with
  | true =>
    refine appends_bind appends_ingest ?_ fun _ _ (h : False) => h.elim
    rintro result ingested ⟨hingested, hdate⟩
    refine appends_weaken (appends_completeResult hdate) ?_ fun _ _ h => h.elim
    intro r log hcompleted
    have hbefore : Ingested settings result ([.held (.ok true)] ++ ingested) := by
      refine ⟨quiet_append.mpr ⟨hheld, hingested.quiet⟩, fun hstatus => ?_⟩
      obtain ⟨hsucceeded, snapshot, quality, hmaterialized, hquality⟩ :=
        hingested.passes hstatus
      exact ⟨fun t ht hrequired => (hsucceeded t ht hrequired).prepend, snapshot, quality,
        List.mem_append_right _ hmaterialized, hquality⟩
    rw [← List.append_assoc]
    exact completed_failClosed hbefore hcompleted
  | false =>
    refine appends_pure ⟨by simp, by simp, fun _ => ?_⟩
    rw [List.append_nil]
    exact hheld

/-! ## The run -/

/-- A run for a date is fail-closed, whatever its ports do: it delivers only what every check
has passed, it blocks with one alert, and it returns unless its lock raises. -/
theorem run_fail_closed (settings : WorkerSettings) (ports : Ports Content) (reportDate : Day)
    (htasks : settings.tasks ≠ []) :
    match (settings.worker ports).runForDate reportDate (live ⟨⟩ []) with
    | .ok result w => FailClosed settings reportDate result.status w.calls
    | .error halt w => ∃ e, halt = .raised e ∧ w.calls = [.held (.error e)] := by
  have hrun := appends_runForDate ports reportDate htasks ⟨⟩ []
  cases hresult : (settings.worker ports).runForDate reportDate (live ⟨⟩ []) with
  | ok result w =>
    rw [hresult] at hrun
    obtain ⟨s, log, rfl, hclosed⟩ := hrun
    exact hclosed
  | error halt w =>
    rw [hresult] at hrun
    cases halt with
    | raised e =>
      obtain ⟨s, log, rfl, hlog⟩ := hrun
      exact ⟨e, rfl, hlog⟩
    | stopped => exact hrun.elim

/-- A worker with one task that it cannot do without. -/
def barsSettings : WorkerSettings :=
  { tasks := [{ taskId := "cn_bars", required := true }]
    taskIds_nodup := by simp
    reportVersion := "v1"
    uuid5 := fun _ => 1
    publishAt := fun _ => 30 }

/-- Ports of a run whose task fails once, and whose report is then made and delivered. -/
def retriedPorts : Ports PUnit :=
  { hold := fun _ => .ok true
    runTask := fun taskId _ log =>
      if log.length = 1 then
        .ok { taskId, providerRole := "cn", status := .retryable, runId := some 1 }
      else .ok { taskId, providerRole := "cn", status := .succeeded, runId := some 2 }
    materialize := fun _ _ =>
      .ok ({ snapshotId := "s", snapshotVersion := "1.0", reportDate := 0, asOf := 20,
             cutoffAt := 15, fingerprintSha256 := "f", factIds := [], payload := ⟨⟩ }, .passed)
    loadReport := fun _ _ => .ok none
    loadGenerationAttempt := fun _ _ => .ok none
    generate := fun reportId reportVersion snapshotId _ =>
      .ok {
        report := some { reportId, reportDate := 0, reportVersion, contractVersion := "1.0",
                         inputSnapshotId := snapshotId, status := .complete,
                         publicationDecision := .published, generatedAt := 21, payload := ⟨⟩,
                         lifecycleStatus := .validated }
        attempt := { generationId := 3, reportId, reportVersion, inputSnapshotId := snapshotId,
                     promptVersion := "p", model := "m", inputFingerprintSha256 := "f",
                     sourceRefIds := [] } }
    now := fun _ => .ok 25
    sleeper := fun _ _ => .ok ⟨⟩
    deliver := fun _ _ =>
      .ok ⟨false, some { deliveryId := 4, status := .succeeded, requestPayload := ⟨⟩ }⟩
    deliverAlert := fun _ _ => .ok "succeeded" }

theorem run_fail_closed_retriedTask : ∃ result log,
    (barsSettings.worker retriedPorts).runForDate 0 (live ⟨⟩ []) = .ok result (live ⟨⟩ log) ∧
      result.status = .succeeded ∧ FailClosed barsSettings 0 .succeeded log := by
  have hclosed := run_fail_closed barsSettings retriedPorts 0 (by simp [barsSettings])
  exact ⟨_, _, rfl, rfl, hclosed⟩

end MacroPlatform.Daily
