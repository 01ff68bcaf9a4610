import MacroPlatform.Daily.Worker

/-! # The daily run over its database

The worker as the scheduler wires it: checkpointed tasks, the materializer, the generation
service and the Feishu delivery, each over the rows of its tables. The calls that are noted are
the posts of the report message and the alerts; asking Feishu for a token is neither.
-/

namespace MacroPlatform.Daily

open Delivery Process Schedule

/-- A call of another system. -/
inductive DailyCall where
  | messagePost (deliveryId : UUID)
  | alert (alert : WorkflowAlert)
deriving DecidableEq

/-- What the executor does with a request. -/
inductive ExecutorAnswer where
  | result (result : IngestJobResult)
  | providerError (code : String) (retryable : Bool)
  | raised (error : PythonError)

/-- The collaborators of one call of a task's `run`: its clock, the `uuid4` of its lease, and
the executor's answers in turn. -/
structure TaskCall where
  now : Instant
  leaseOwnerId : UUID
  answers : List ExecutorAnswer

/-- What `send_card` comes to: an error before the message is posted, or the outcome of its
post. -/
inductive SendAnswer where
  | unposted (errorCode : String) (retryable : Bool)
  | posted (outcome : SendOutcome)
deriving DecidableEq, Repr

/-- A checkpointed task of the schedule. -/
structure DeployedTask where
  task : CheckpointedScheduledTask
  required : Bool

/-- What stays the same from run to run: the settings, and the renderer of the card. -/
structure Deployment (Content : Type) where
  tasks : List DeployedTask
  taskIds_nodup : (tasks.map (·.task.taskId)).Nodup
  maxTaskAttempts : ℕ := 3
  maxTaskAttempts_pos : 1 ≤ maxTaskAttempts := by decide
  snapshotPayload : JsonColumn Content Content
  service : Service
  chatId : String
  reportVersion : String
  publishAt : Day → Instant
  /-- The audit payload of the request for the card that `FeishuCardRenderer` makes. -/
  renderCard : StoredDailyReport Content → Except PythonError Content
  uuid5 : String → UUID

/-- The collaborators of one run, by what they answer it. -/
structure Collaborators (Content : Type) where
  /-- `pg_try_advisory_lock`. -/
  acquired : Bool
  taskCall : String → ℕ → TaskCall
  /-- The evidence for the results of the tasks, as a snapshot. -/
  collect : List ScheduledTaskResult → Except PythonError (ReportInputSnapshot Content)
  generation : Generation Content
  now : Instant
  slept : Except PythonError PUnit
  /-- The `uuid4` of the delivery attempt. -/
  deliveryId : UUID
  sendCard : ℕ → SendAnswer
  deliverAlert : WorkflowAlert → Except PythonError String

variable {Content : Type}

abbrev DailyProgram (Content α : Type) :=
  Program PythonError (DailyStore Content) DailyCall α

/-! ## Tasks -/

/-- A request of the next page, and the transaction that counts it. -/
def executePage (task : CheckpointedScheduledTask) (checkpoint : ScheduledTaskCheckpoint) :
    ExecutorAnswer → DailyProgram Content TaskPhase
  | .providerError code retryable =>
      pure (.returned (task.stopped (if retryable then .retryable else .failed) none (some code)))
  | .raised error => raise error
  | .result result =>
      match task.afterResult checkpoint result with
      | .advancing checkpoint result => do
          let advanced ←
            commit (onCheckpoint task.taskId (advance checkpoint (pageProgress result)))
          pure (afterCheckpoint advanced)
      | phase => pure phase

/-- `run` from a phase on; it does not get further than the answers it is given. -/
def runPages (task : CheckpointedScheduledTask) :
    List ExecutorAnswer → TaskPhase → DailyProgram Content ScheduledTaskResult
  | _, .returned result => pure result
  | _, .raised message => raise (taskError message)
  | answer :: answers, .executing checkpoint => do
      let phase ← executePage task checkpoint answer
      runPages task answers phase
  | _, _ => stop

/-- `CheckpointedScheduledTask.run`. -/
def runCheckpointed (task : CheckpointedScheduledTask) (reportDate : Day) (taskCall : TaskCall) :
    DailyProgram Content ScheduledTaskResult := do
  let claim := task.claim reportDate taskCall.now taskCall.leaseOwnerId
  let checkpoint ← commit (onCheckpoint task.taskId (beginOrLoad claim))
  runPages task taskCall.answers (afterCheckpoint checkpoint)

variable [DecidableEq Content] (d : Deployment Content) (c : Collaborators Content)

/-! ## The input snapshot -/

/-- `ReportInputSnapshotMaterializer.materialize`. -/
def materialize (results : List ScheduledTaskResult) :
    DailyProgram Content (ReportInputSnapshot Content × QualityGateStatus) := do
  let snapshot ← ofExcept (c.collect results)
  let _ ← commit (putInputSnapshot d.snapshotPayload snapshot)
  pure (snapshot, c.generation.evaluate snapshot)

/-! ## Delivery -/

def lifecycleValue : ReportLifecycleStatus → String
  | .draft => "draft"
  | .generated => "generated"
  | .failed => "failed"
  | .validated => "validated"
  | .superseded => "superseded"

def decisionValue : PublicationDecision → String
  | .published => "published"
  | .notPublished => "not_published"

/-- The exception of an error of a delivery. -/
def deliveryException : DeliveryError → PythonError
  | .reportDelivery message =>
      { name := "ReportDeliveryError", bases := ["RuntimeError"], message }
  | .manualRetry _ message =>
      { name := "ManualDeliveryRetryError",
        bases := ["ReportDeliveryError", "RuntimeError"], message }
  | .value message => valueError message

/-- The phases of `deliver` one after the other, with the number of the next `send_card`. The
bound is on the phases that are left. -/
def runPhases : ℕ → ℕ → Phase Content → DailyProgram Content (ReportDeliveryResult Content)
  | _, _, .returned result => pure result
  | _, _, .raised error => raise (deliveryException error)
  | 0, _, _ => stop
  | left + 1, send, .sending attempt maxAttemptNo =>
      match c.sendCard send with
      | .unposted errorCode retryable =>
          runPhases left (send + 1)
            (.storing attempt maxAttemptNo send (.failed errorCode retryable false))
      | .posted outcome => do
          call (.messagePost attempt.deliveryId)
          runPhases left (send + 1) (.storing attempt maxAttemptNo send outcome)
  | left + 1, send, phase => do
      let phase ← commit (onDelivery d.service phase)
      runPhases left send phase

/-- `deliver` of `ConfiguredFeishuDelivery`. Every attempt takes a reservation or a resumption,
a sending and a storing, and what the row holds is read at most once at either end. -/
def deliver (reportId : String) : DailyProgram Content (ReportDeliveryResult Content) := do
  let report ← read (loadReport reportId)
  let stored := report.map fun report =>
    StoredReport.mk (lifecycleValue report.lifecycleStatus)
      (decisionValue report.publicationDecision) report
  match beginDeliver stored reportId d.chatId false c.deliveryId with
  | .reserving deliveryId report => do
      let auditPayload ← ofExcept (d.renderCard report)
      runPhases d c (3 * d.service.maxAttempts + 3) 0 (.reserving deliveryId auditPayload)
  | .raised error => raise (deliveryException error)
  | _ => stop

/-! ## The worker -/

def DeployedTask.scheduled (t : DeployedTask) (c : Collaborators Content) :
    ScheduledTask (DailyStore Content) DailyCall :=
  { taskId := t.task.taskId
    required := t.required
    providerRole := some t.task.providerRole
    run := fun reportDate attemptNo =>
      runCheckpointed t.task reportDate (c.taskCall t.task.taskId attemptNo) }

/-- The workflow of the scheduler. -/
def Deployment.workflow : DailyReportWorkflow (DailyStore Content) DailyCall Content :=
  { reportVersion := d.reportVersion
    uuid5 := d.uuid5
    publishAt := d.publishAt
    now := pure c.now
    sleeper := fun _ => ofExcept c.slept
    loadReport := fun reportId => read (loadReport reportId)
    loadGenerationAttempt := fun generationId => read (loadGenerationAttempt generationId)
    generate := generate c.generation
    deliver := deliver d c
    deliverAlert := fun alert => do
      call (.alert alert)
      ofExcept (c.deliverAlert alert) }

/-- The worker of the scheduler. -/
def Deployment.worker : ScheduledIngestionWorker (DailyStore Content) DailyCall Content :=
  { tasks := d.tasks.map (·.scheduled c)
    taskIds_nodup := by simpa [Function.comp_def, DeployedTask.scheduled] using d.taskIds_nodup
    maxAttempts := d.maxTaskAttempts
    maxAttempts_pos := d.maxTaskAttempts_pos
    hold := fun _ => pure c.acquired
    materialize := fun _ => materialize d c
    workflow := d.workflow c }

end MacroPlatform.Daily
