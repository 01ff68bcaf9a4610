import MacroPlatform.Schedule.ReportLoop

/-! # Alerts of exhausted retries

Three paths of the worker call `notify_retry_exhausted`: the schedule loop, the single run and
the backfill. The law here is on the history that they leave.

* `RunOutcome.alertsFailures`: when one run of a date keeps the law;
* `alertsFailures_iff`: when a run of the loop does;
* `backfill_alertsFailures`: the backfill always does.
-/

namespace MacroPlatform.Schedule

open Transition Occurrences MacroPlatform.Daily

/-! ## The results of a date -/

/-- The result that an event reports of a date. -/
def LoopEvent.resultOf (reportDate : Day) : LoopEvent → Option ScheduledWorkerStatus
  | .ended d status => if d = reportDate then some status else none
  | _ => none

/-- The last result of a date. -/
def lastResult (past : List LoopEvent) (reportDate : Day) : Option ScheduledWorkerStatus :=
  (past.filterMap (LoopEvent.resultOf reportDate)).getLast?

/-- An exhausted retry is notified only when the last result of its date is retryable. -/
def AlertsFailures (events : List LoopEvent) : Prop :=
  AtEach (fun past event => ∀ reportDate, event = .retryExhausted reportDate →
    lastResult past reportDate = some .retryable) events

theorem lastResult_append {past more : List LoopEvent} {d : Day}
    {status : ScheduledWorkerStatus} (h : lastResult more d = some status) :
    lastResult (past ++ more) d = some status := by
  unfold lastResult at h ⊢
  rw [List.filterMap_append, List.getLast?_append, h]
  rfl

/-- A history that keeps the law, followed by events that keep it on their own. -/
theorem AlertsFailures.append {events more : List LoopEvent} (h : AlertsFailures events)
    (hmore : AlertsFailures more) : AlertsFailures (events ++ more) := by
  refine atEach_append.mpr ⟨h, ?_⟩
  intro past event later hsplit d hevent
  exact lastResult_append (hmore past event later hsplit d hevent)

/-- What one run of a date leaves keeps the law when no retry is notified. -/
theorem alertsFailures_of_none {events : List LoopEvent}
    (h : ∀ d, .retryExhausted d ∉ events) : AlertsFailures events := by
  refine atEach_of_forall ?_
  rintro event hmem past d rfl
  exact absurd hmem (h d)

theorem alertsFailures_nil : AlertsFailures [] := atEach_nil

/-- A run of a date whose retry is notified keeps the law exactly when it ends retryable. -/
theorem alertsFailures_notified {events : List LoopEvent} (hevents : AlertsFailures events)
    {d : Day} {status : ScheduledWorkerStatus} :
    AlertsFailures (events ++ [.started d, .ended d status, .retryExhausted d]) ↔
      status = .retryable := by
  have hlast : lastResult (events ++ [.started d, .ended d status]) d = some status :=
    lastResult_append (by simp [lastResult, LoopEvent.resultOf])
  unfold AlertsFailures at hevents ⊢
  rw [atEach_append]
  simp only [atEach_cons, atEach_nil, and_true, reduceCtorEq, false_implies, implies_true,
    true_and, LoopEvent.retryExhausted.injEq, forall_eq', hlast, Option.some.injEq]
  exact and_iff_right hevents

/-! ## The single run and the backfill -/

/-- What a date's run answers, and whether `notify_retry_exhausted` returns. -/
structure Answer where
  status : Option ScheduledWorkerStatus
  notified : Bool

/-- What `run_for_date` leaves on the path that runs a date once; nothing follows an exception. -/
def runOnce (reportDate : Day) (answer : Answer) : List LoopEvent :=
  match answer.status with
  | none => [.started reportDate]
  | some .retryable =>
    [.started reportDate, .ended reportDate .retryable, .retryExhausted reportDate]
  | some status => [.started reportDate, .ended reportDate status]

/-- The run of a date raises, or its notification does. -/
def Answer.raises (answer : Answer) : Bool :=
  match answer.status with
  | none => true
  | some .retryable => !answer.notified
  | some _ => false

/-- The loop of `backfill` over as many dates from a date on. -/
def backfillFrom (answer : Day → Answer) : ℕ → Day → List LoopEvent
  | 0, _ => []
  | dates + 1, reportDate =>
    runOnce reportDate (answer reportDate) ++
      if (answer reportDate).raises then [] else backfillFrom answer dates (reportDate + 1)

/-- `ScheduledIngestionWorker.backfill`; it raises before any run when the dates are reversed. -/
def backfill (startDate endDate : Day) (answer : Day → Answer) : List LoopEvent :=
  if endDate < startDate then [] else backfillFrom answer (endDate - startDate + 1).toNat startDate

theorem runOnce_alertsFailures (reportDate : Day) (answer : Answer) :
    AlertsFailures (runOnce reportDate answer) := by
  unfold runOnce
  split
  · exact alertsFailures_of_none (by simp)
  · exact (alertsFailures_notified alertsFailures_nil).mpr rfl
  · exact alertsFailures_of_none (by simp)

/-- The backfill notifies an exhausted retry only of a date whose run ended retryable. -/
theorem backfill_alertsFailures (startDate endDate : Day) (answer : Day → Answer) :
    AlertsFailures (backfill startDate endDate answer) := by
  have hfrom : ∀ dates reportDate, AlertsFailures (backfillFrom answer dates reportDate) := by
    intro dates
    induction dates with
    | zero => exact fun _ => alertsFailures_nil
    | succ dates ih =>
      intro reportDate
      refine (runOnce_alertsFailures reportDate (answer reportDate)).append ?_
      split
      · exact alertsFailures_nil
      · exact ih (reportDate + 1)
  unfold backfill
  split
  · exact alertsFailures_nil
  · exact hfrom _ _

/-! ## The schedule loop -/

namespace ConfiguredSchedule

variable {cfg : ConfiguredSchedule} {s s' : ScheduleLoop} {turn : Turn} {d : Day}

/-- The last attempt that a date is allowed does not find the date locked. -/
def UnlockedAtLast (cfg : ConfiguredSchedule) (s : ScheduleLoop) (turn : Turn) : Prop :=
  ∀ reportDate ∈ cfg.starts s turn.now, turn.status = some .locked →
    attemptNo s reportDate < cfg.maxReportAttempts

/-- A run of a date keeps the law exactly when it is not a last attempt that finds a lock. -/
theorem RunOutcome.alertsFailures (h : RunOutcome cfg s turn d s')
    (hbefore : AlertsFailures s.events) :
    AlertsFailures s'.events ↔
      (turn.status = some .locked → attemptNo s d < cfg.maxReportAttempts) := by
  -- the last allowed attempt has failed: `locked` is the other result that is not terminal
  have hexhausted : ∀ status, turn.status = some status → terminal status = false →
      cfg.maxReportAttempts ≤ attemptNo s d →
      (AlertsFailures (s.events ++ [.started d, .ended d status, .retryExhausted d]) ↔
        (turn.status = some .locked → attemptNo s d < cfg.maxReportAttempts)) := by
    intro status hstatus hterminal hlast
    rw [alertsFailures_notified hbefore, hstatus]
    constructor
    · rintro rfl hlocked
      cases hlocked
    · intro hunlocked
      cases status with
      | retryable => rfl
      | locked => exact absurd (hunlocked rfl) (by omega)
      | succeeded => cases hterminal
      | degraded => cases hterminal
      | blocked => cases hterminal
  have hquiet : ∀ events : List LoopEvent, (∀ e, .retryExhausted e ∉ events) →
      AlertsFailures (s.events ++ events) :=
    fun events hnone => hbefore.append (alertsFailures_of_none hnone)
  cases h with
  | fails hstatus =>
    refine iff_of_true (hquiet _ (by simp)) ?_
    intro hlocked
    rw [hstatus] at hlocked
    cases hlocked
  | ends hstatus hterminal =>
    refine iff_of_true (hquiet _ (by simp)) ?_
    intro hlocked
    rw [hstatus] at hlocked
    cases hlocked
    cases hterminal
  | exhausts hstatus hterminal hlast => exact hexhausted _ hstatus hterminal hlast
  | notifyFails hstatus hterminal hlast => exact hexhausted _ hstatus hterminal hlast
  | waits hstatus hterminal hleft => exact iff_of_true (hquiet _ (by simp)) fun _ => hleft

theorem next_alertsFailures (hnext : cfg.next s turn = some s')
    (hbefore : AlertsFailures s.events) :
    AlertsFailures s'.events ↔ cfg.UnlockedAtLast s turn := by
  unfold UnlockedAtLast
  rcases next_cases hnext with ⟨-, ⟨hstarts, rfl⟩ | ⟨d, hstarts, houtcome⟩⟩
  · simp [hstarts, hbefore]
  · rw [hstarts]
    simp only [Option.mem_some_iff, forall_eq']
    exact houtcome.alertsFailures hbefore

/-- A run of the loop alerts failures only, exactly when no last attempt finds the date locked. -/
theorem alertsFailures_iff (cfg : ConfiguredSchedule) (turns : List Turn) (s : ScheduleLoop)
    (h : Run cfg.Next {} turns s) :
    AlertsFailures s.events ↔ Run (guarded cfg.Next cfg.UnlockedAtLast) {} turns s := by
  refine run_law_iff (fun _ => True) (fun s => AlertsFailures s.events)
    (fun _ _ _ _ _ => trivial) ?_ ?_ h trivial alertsFailures_nil
  · intro s turn s' hnext hlaw
    rcases next_events hnext with ⟨more, hmore⟩
    rw [hmore] at hlaw
    exact hlaw.front
  · intro s turn s' hnext _ hbefore
    exact next_alertsFailures hnext hbefore

theorem alertsFailures_iff_morning :
    ∃ s, Run shanghaiMorning.Next {} twoMornings s ∧ .retryExhausted 20661 ∈ s.events ∧
      (AlertsFailures s.events ↔
        Run (guarded shanghaiMorning.Next shanghaiMorning.UnlockedAtLast) {} twoMornings s) := by
  obtain ⟨s, hrun, hevents⟩ := twoMornings_run
  exact ⟨s, hrun, by simp [hevents], alertsFailures_iff shanghaiMorning twoMornings s hrun⟩

/-- Three polls of a date that another worker holds, one minute apart. -/
def heldElsewhere : List Turn :=
  [⟨20660 * dayMicroseconds + 85800000000, some .locked, true⟩,
    ⟨20660 * dayMicroseconds + 85860000000, some .locked, true⟩,
    ⟨20660 * dayMicroseconds + 85920000000, some .locked, true⟩]

/-- Another worker's lock is alerted as an exhausted retry. -/
theorem locked_date_alerted :
    ∃ s, Run shanghaiMorning.Next {} heldElsewhere s ∧ ¬ AlertsFailures s.events := by
  have hevents : (exec shanghaiMorning.next {} heldElsewhere).map (·.events) =
      some ([.started 20661, .ended 20661 .locked, .started 20661, .ended 20661 .locked,
        .started 20661, .ended 20661 .locked] ++ .retryExhausted 20661 :: []) := by
    decide +kernel
  obtain ⟨s, hexec, hevents⟩ := Option.map_eq_some_iff.mp hevents
  refine ⟨s, run_of_exec hexec, ?_⟩
  intro hlaw
  have hresult := hlaw _ _ _ hevents 20661 rfl
  revert hresult
  decide

end ConfiguredSchedule

end MacroPlatform.Schedule
