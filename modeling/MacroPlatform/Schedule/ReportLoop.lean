import Mathlib.Algebra.Order.Floor.Ring
import Mathlib.Data.Finset.Insert
import Mathlib.Data.List.AList
import Mathlib.Data.Rat.Floor
import MacroPlatform.Daily.Workflow
import MacroPlatform.Lib.Occurrences
import MacroPlatform.Lib.Transition

/-! # The configured report schedule

The loop of the production worker: it reads the clock, runs the local date once the schedule
time has passed, and keeps what is still to be retried by date. A run here is a list of turns;
each turn carries the clock reading and what the worker answers if the loop calls it.

* `next_cases`: a turn does nothing, or runs the date of its clock reading;
* `noneAbandoned_iff`: no date is abandoned exactly when every date is started in turn;
* `abandoned_across_midnight`: a run that abandons one.
-/

namespace MacroPlatform.Schedule

open Transition Occurrences MacroPlatform.Daily

/-- A naive local datetime, in microseconds. -/
abbrev WallClock := ℤ

def WallClock.date (t : WallClock) : Day := t / dayMicroseconds

/-- Microseconds since midnight. -/
def WallClock.time (t : WallClock) : ℤ := t % dayMicroseconds

/-- `timedelta(seconds=…)` in microseconds, halves to even. -/
def timedeltaSeconds (seconds : ℚ) : ℤ :=
  let scaled := seconds * 1000000
  let below := ⌊scaled⌋
  if scaled - below < 1 / 2 then below
  else if scaled - below = 1 / 2 ∧ below % 2 = 0 then below
  else below + 1

/-- The parameters of `_run_configured_schedule`; it raises at once when `attempts` fails. -/
structure ConfiguredSchedule where
  /-- `astimezone(timezone)`, without the zone. -/
  localNow : Instant → WallClock
  hour : ℕ
  minute : ℕ
  pollSeconds : ℕ
  retryDelaySeconds : ℚ
  maxReportAttempts : ℕ
  maxScheduleRuns : Option ℕ
  attempts : 1 ≤ maxReportAttempts

/-- What the loop does to a report date. -/
inductive LoopEvent where
  | started (reportDate : Day)
  | ended (reportDate : Day) (status : ScheduledWorkerStatus)
  | retryExhausted (reportDate : Day)
deriving DecidableEq, Repr

/-- The variables of the loop, whether it has raised, and what it has done. -/
structure ScheduleLoop where
  completedDates : Finset Day := ∅
  retryAttempts : AList (fun _ : Day => ℕ) := ∅
  nextAttemptAt : AList (fun _ : Day => WallClock) := ∅
  scheduleRuns : ℕ := 0
  raised : Bool := false
  events : List LoopEvent := []

/-- One pass of the loop's body: the clock reading, what `run_for_date` returns if it is
called (`none` when it raises), and whether `notify_retry_exhausted` returns. -/
structure Turn where
  now : Instant
  status : Option ScheduledWorkerStatus
  notified : Bool

/-- `{"succeeded", "degraded", "blocked"}`. -/
def terminal : ScheduledWorkerStatus → Bool
  | .succeeded | .degraded | .blocked => true
  | .retryable | .locked => false

namespace ConfiguredSchedule

variable (cfg : ConfiguredSchedule)

def scheduleTime : ℤ := (cfg.hour * 60 + cfg.minute) * 60 * 1000000

/-- The date that the loop runs at a clock reading. -/
def starts (s : ScheduleLoop) (now : Instant) : Option Day :=
  let localNow := cfg.localNow now
  if cfg.scheduleTime ≤ localNow.time ∧ localNow.date ∉ s.completedDates ∧
      ∀ dueAt ∈ s.nextAttemptAt.lookup localNow.date, dueAt ≤ localNow
  then some localNow.date
  else none

def delaySeconds (status : ScheduledWorkerStatus) (attemptNo : ℕ) : ℚ :=
  if status = .locked then cfg.pollSeconds else cfg.retryDelaySeconds * 2 ^ (attemptNo - 1)

/-- The loop's bookkeeping when the run of a date has returned. -/
def afterRun (s : ScheduleLoop) (turn : Turn) (reportDate : Day)
    (status : ScheduledWorkerStatus) : ScheduleLoop :=
  let attemptNo := (s.retryAttempts.lookup reportDate).getD 0 + 1
  if terminal status then
    { s with
      completedDates := insert reportDate s.completedDates
      retryAttempts := s.retryAttempts.erase reportDate
      nextAttemptAt := s.nextAttemptAt.erase reportDate }
  else if cfg.maxReportAttempts ≤ attemptNo then
    let notified := { s with
      retryAttempts := s.retryAttempts.insert reportDate attemptNo
      events := s.events ++ [LoopEvent.retryExhausted reportDate] }
    if turn.notified then
      { notified with
        completedDates := insert reportDate s.completedDates
        nextAttemptAt := s.nextAttemptAt.erase reportDate }
    else { notified with raised := true }
  else
    { s with
      retryAttempts := s.retryAttempts.insert reportDate attemptNo
      nextAttemptAt := s.nextAttemptAt.insert reportDate
        (cfg.localNow turn.now + timedeltaSeconds (cfg.delaySeconds status attemptNo)) }

/-- The loop runs a date. -/
def run (s : ScheduleLoop) (turn : Turn) (reportDate : Day) : ScheduleLoop :=
  match turn.status with
  | none => { s with raised := true, events := s.events ++ [.started reportDate] }
  | some status =>
    cfg.afterRun { s with
      scheduleRuns := s.scheduleRuns + 1
      events := s.events ++ [.started reportDate, .ended reportDate status] }
      turn reportDate status

/-- One turn of the loop; `none` when the loop is over. -/
def next (s : ScheduleLoop) (turn : Turn) : Option ScheduleLoop :=
  if s.raised ∨ ∃ most ∈ cfg.maxScheduleRuns, most ≤ s.scheduleRuns then none
  else
    match cfg.starts s turn.now with
    | some reportDate => some (cfg.run s turn reportDate)
    | none => some s

def Next : Action ScheduleLoop Turn := ofNext cfg.next

end ConfiguredSchedule

/-! ## What becomes of a date that was run -/

/-- The date has ended in a terminal result, or the exhausted retry was notified. -/
def Settled (past : List LoopEvent) (reportDate : Day) : Prop :=
  (∃ status, terminal status = true ∧ .ended reportDate status ∈ past) ∨
    .retryExhausted reportDate ∈ past

/-- Wherever a date is started, every earlier date that was started before is settled. -/
def NoneAbandoned (events : List LoopEvent) : Prop :=
  ∀ past later reportDate, events = past ++ .started reportDate :: later →
    ∀ earlier < reportDate, .started earlier ∈ past → Settled past earlier

/-- No date is started while an earlier one waits for its next attempt. -/
def ConfiguredSchedule.InTurn (cfg : ConfiguredSchedule) (s : ScheduleLoop) (turn : Turn) : Prop :=
  ∀ reportDate ∈ cfg.starts s turn.now, ∀ waiting ∈ s.nextAttemptAt, ¬ waiting < reportDate

/-- What one event settles. -/
def LoopEvent.Settles (d : Day) : LoopEvent → Prop
  | .started _ => False
  | .ended e status => d = e ∧ terminal status = true
  | .retryExhausted e => d = e

/-- A date is settled by an event of its own. -/
theorem settled_iff {past : List LoopEvent} {d : Day} :
    Settled past d ↔ ∃ event ∈ past, event.Settles d := by
  constructor
  · rintro (⟨status, hterminal, hmem⟩ | hmem)
    · exact ⟨_, hmem, rfl, hterminal⟩
    · exact ⟨_, hmem, rfl⟩
  · rintro ⟨event, hmem, hsettles⟩
    cases event with
    | started e => exact hsettles.elim
    | ended e status =>
      obtain ⟨rfl, hterminal⟩ := hsettles
      exact Or.inl ⟨status, hterminal, hmem⟩
    | retryExhausted e =>
      cases hsettles
      exact Or.inr hmem

theorem settled_append {past more : List LoopEvent} {d : Day} :
    Settled (past ++ more) d ↔ Settled past d ∨ Settled more d := by
  simp only [settled_iff, List.mem_append, or_and_right, exists_or]

theorem noneAbandoned_iff_atEach {events : List LoopEvent} :
    NoneAbandoned events ↔ AtEach (fun past event => ∀ d, event = .started d →
      ∀ e < d, .started e ∈ past → Settled past e) events := by
  constructor
  · rintro h past event later hsplit d rfl
    exact h past later d hsplit
  · intro h past later d hsplit
    exact h past _ later hsplit d rfl

theorem noneAbandoned_nil : NoneAbandoned [] := by
  simp [noneAbandoned_iff_atEach]

theorem NoneAbandoned.front {events more : List LoopEvent}
    (h : NoneAbandoned (events ++ more)) : NoneAbandoned events := by
  rw [noneAbandoned_iff_atEach] at h ⊢
  exact h.front

/-- One more start, and nothing but it started after what was there. -/
theorem noneAbandoned_append_started {events more : List LoopEvent} {d : Day}
    (hmore : ∀ e, .started e ∉ more) :
    NoneAbandoned (events ++ .started d :: more) ↔
      NoneAbandoned events ∧ ∀ e < d, .started e ∈ events → Settled events e := by
  simp only [noneAbandoned_iff_atEach]
  rw [atEach_append, atEach_cons, List.append_nil]
  have hrest : ∀ event ∈ more, ∀ past : List LoopEvent, ∀ e, event = .started e →
      ∀ earlier < e, .started earlier ∈ events ++ .started d :: past →
        Settled (events ++ .started d :: past) earlier := by
    rintro event hmem past e rfl
    exact absurd hmem (hmore e)
  constructor
  · rintro ⟨hevents, hlast, -⟩
    exact ⟨hevents, hlast d rfl⟩
  · rintro ⟨hevents, hlast⟩
    refine ⟨hevents, ?_, atEach_of_forall hrest⟩
    intro e hsame
    cases hsame
    exact hlast

/-! ## What a turn does -/

namespace ConfiguredSchedule

variable {cfg : ConfiguredSchedule} {s s' : ScheduleLoop} {turn : Turn} {d : Day}

/-- The number of the attempt that a run of the date is. -/
def attemptNo (s : ScheduleLoop) (d : Day) : ℕ := (s.retryAttempts.lookup d).getD 0 + 1

/-- What a run of a date does, by its result. -/
inductive RunOutcome (cfg : ConfiguredSchedule) (s : ScheduleLoop) (turn : Turn) (d : Day) :
    ScheduleLoop → Prop where
  | fails : turn.status = none →
      RunOutcome cfg s turn d { s with raised := true, events := s.events ++ [.started d] }
  | ends {status : ScheduledWorkerStatus} : turn.status = some status → terminal status = true →
      RunOutcome cfg s turn d { s with
        scheduleRuns := s.scheduleRuns + 1
        events := s.events ++ [.started d, .ended d status]
        completedDates := insert d s.completedDates
        retryAttempts := s.retryAttempts.erase d
        nextAttemptAt := s.nextAttemptAt.erase d }
  | exhausts {status : ScheduledWorkerStatus} : turn.status = some status →
      terminal status = false → cfg.maxReportAttempts ≤ attemptNo s d →
      RunOutcome cfg s turn d { s with
        scheduleRuns := s.scheduleRuns + 1
        events := s.events ++ [.started d, .ended d status, .retryExhausted d]
        retryAttempts := s.retryAttempts.insert d (attemptNo s d)
        completedDates := insert d s.completedDates
        nextAttemptAt := s.nextAttemptAt.erase d }
  | notifyFails {status : ScheduledWorkerStatus} : turn.status = some status →
      terminal status = false → cfg.maxReportAttempts ≤ attemptNo s d →
      RunOutcome cfg s turn d { s with
        scheduleRuns := s.scheduleRuns + 1
        events := s.events ++ [.started d, .ended d status, .retryExhausted d]
        retryAttempts := s.retryAttempts.insert d (attemptNo s d)
        raised := true }
  | waits {status : ScheduledWorkerStatus} : turn.status = some status →
      terminal status = false → attemptNo s d < cfg.maxReportAttempts →
      RunOutcome cfg s turn d { s with
        scheduleRuns := s.scheduleRuns + 1
        events := s.events ++ [.started d, .ended d status]
        retryAttempts := s.retryAttempts.insert d (attemptNo s d)
        nextAttemptAt := s.nextAttemptAt.insert d (cfg.localNow turn.now +
          timedeltaSeconds (cfg.delaySeconds status (attemptNo s d))) }

/-- The run of a date ends in one of the outcomes. -/
theorem run_outcome (cfg : ConfiguredSchedule) (s : ScheduleLoop) (turn : Turn) (d : Day) :
    RunOutcome cfg s turn d (cfg.run s turn d) := by
  unfold run
  -- the run raised, or it came back with a status
  cases hstatus : turn.status with
  | none => exact .fails hstatus
  | some status =>
    simp only [afterRun]
    -- a terminal status completes the date
    by_cases hterminal : terminal status = true
    · rw [if_pos hterminal]
      exact .ends hstatus hterminal
    · rw [if_neg hterminal]
      rw [Bool.not_eq_true] at hterminal
      -- the attempts are used up, or the date waits for the next one
      by_cases hlast : cfg.maxReportAttempts ≤ (s.retryAttempts.lookup d).getD 0 + 1
      · rw [if_pos hlast, List.append_assoc]
        by_cases hnotified : turn.notified = true
        · rw [if_pos hnotified]
          exact .exhausts hstatus hterminal hlast
        · rw [if_neg hnotified]
          exact .notifyFails hstatus hterminal hlast
      · rw [if_neg hlast]
        exact .waits hstatus hterminal (Nat.lt_of_not_le hlast)

/-- What a run of a date leaves: an exception, a settled date, or one that waits. -/
structure Ran (s : ScheduleLoop) (d : Day) (more : List LoopEvent) (s' : ScheduleLoop) : Prop where
  events : s'.events = s.events ++ .started d :: more
  others : ∀ e, .started e ∉ more
  outcome : s'.raised = true ∨
    (s'.completedDates = insert d s.completedDates ∧
      s'.nextAttemptAt = s.nextAttemptAt.erase d ∧ ∀ e, Settled more e ↔ e = d) ∨
    (s'.completedDates = s.completedDates ∧
      (∃ dueAt, s'.nextAttemptAt = s.nextAttemptAt.insert d dueAt) ∧ ∀ e, ¬ Settled more e)

/-- Each outcome adds events of this date. -/
theorem RunOutcome.ran (h : RunOutcome cfg s turn d s') : ∃ more, Ran s d more s' := by
  cases h with
  | fails hstatus => exact ⟨[], ⟨rfl, by simp, Or.inl rfl⟩⟩
  | @ends status hstatus hterminal =>
    refine ⟨[.ended d status], ⟨rfl, by simp, Or.inr (Or.inl ⟨rfl, rfl, ?_⟩)⟩⟩
    intro e
    simp [settled_iff, LoopEvent.Settles, hterminal]
  | @exhausts status hstatus hterminal hlast =>
    refine ⟨[.ended d status, .retryExhausted d],
      ⟨rfl, by simp, Or.inr (Or.inl ⟨rfl, rfl, ?_⟩)⟩⟩
    intro e
    simp [settled_iff, LoopEvent.Settles, hterminal]
  | @notifyFails status hstatus hterminal hlast =>
    exact ⟨[.ended d status, .retryExhausted d], ⟨rfl, by simp, Or.inl rfl⟩⟩
  | @waits status hstatus hterminal hleft =>
    refine ⟨[.ended d status], ⟨rfl, by simp, Or.inr (Or.inr ⟨rfl, ⟨_, rfl⟩, ?_⟩)⟩⟩
    intro e
    simp [settled_iff, LoopEvent.Settles, hterminal]

/-- A turn does nothing, or runs the date of its clock reading. -/
theorem next_cases (h : cfg.next s turn = some s') :
    s.raised = false ∧
      ((cfg.starts s turn.now = none ∧ s' = s) ∨
        ∃ d, cfg.starts s turn.now = some d ∧ RunOutcome cfg s turn d s') := by
  unfold next at h
  split_ifs at h with hover
  have hraised : s.raised = false := by
    by_contra hne
    exact hover (Or.inl (by simpa using hne))
  refine ⟨hraised, ?_⟩
  cases hstarts : cfg.starts s turn.now with
  | none =>
    rw [hstarts] at h
    exact Or.inl ⟨rfl, (Option.some.inj h).symm⟩
  | some d =>
    rw [hstarts] at h
    cases h
    exact Or.inr ⟨d, rfl, run_outcome cfg s turn d⟩

/-- A date is started only when it is not completed. -/
theorem not_completed_of_starts (h : cfg.starts s turn.now = some d) : d ∉ s.completedDates := by
  simp only [starts] at h
  split_ifs at h with hdue
  cases h
  exact hdue.2.1

/-! ## The accounts of the loop -/

/-- The dates that were started are those that are completed and those that wait for their next
attempt, and a date is completed exactly when it is settled. -/
structure Accounted (s : ScheduleLoop) : Prop where
  settled : ∀ d, Settled s.events d ↔ d ∈ s.completedDates
  started : ∀ d, .started d ∈ s.events ↔ d ∈ s.completedDates ∨ d ∈ s.nextAttemptAt
  apart : ∀ d ∈ s.nextAttemptAt, d ∉ s.completedDates

theorem accounted_init : Accounted {} := by
  constructor <;> simp [Settled]

/-- The events of a run keep the account. -/
theorem Accounted.ran {more : List LoopEvent} (h : Accounted s) (hran : Ran s d more s')
    (hd : d ∉ s.completedDates) (hraised : s'.raised = false) : Accounted s' := by
  -- a date is settled when it is completed, and started when it waits or is settled
  have hsettled : ∀ e, Settled s'.events e ↔ e ∈ s.completedDates ∨ Settled more e := by
    intro e
    rw [hran.events, List.append_cons, settled_append, settled_append, h.settled]
    simp [settled_iff, LoopEvent.Settles]
  have hstarted : ∀ e, .started e ∈ s'.events ↔
      (e ∈ s.completedDates ∨ e ∈ s.nextAttemptAt) ∨ e = d := by
    intro e
    rw [hran.events, List.mem_append, List.mem_cons, h.started]
    simp [hran.others e]
  -- the loop ends, the date is completed, or it waits
  rcases hran.outcome with hup | ⟨hcompleted, hnext, hmore⟩ | ⟨hcompleted, ⟨dueAt, hnext⟩, hmore⟩
  · rw [hraised] at hup
    cases hup
  · refine ⟨?_, ?_, ?_⟩
    · intro e
      rw [hsettled, hmore, hcompleted, Finset.mem_insert, or_comm]
    · intro e
      rw [hstarted, hcompleted, hnext, Finset.mem_insert, AList.mem_erase]
      -- the completed date no longer waits
      by_cases he : e = d <;> simp [he]
    · intro e he
      rw [hnext, AList.mem_erase] at he
      rw [hcompleted, Finset.mem_insert]
      rintro (hsame | hbefore)
      · exact he.1 hsame
      · exact h.apart e he.2 hbefore
  · refine ⟨?_, ?_, ?_⟩
    · intro e
      rw [hsettled, hcompleted]
      simp [hmore]
    · intro e
      rw [hstarted, hcompleted, hnext, AList.mem_insert]
      tauto
    · intro e he
      rw [hnext, AList.mem_insert] at he
      rw [hcompleted]
      -- the date that waits was not completed
      rcases he with rfl | hbefore
      · exact hd
      · exact h.apart e hbefore

/-- A start abandons no earlier date exactly when none waits. -/
theorem Accounted.inTurn (h : Accounted s) (hstarts : cfg.starts s turn.now = some d) :
    cfg.InTurn s turn ↔ ∀ e < d, .started e ∈ s.events → Settled s.events e := by
  unfold InTurn
  rw [hstarts]
  simp only [Option.mem_some_iff, forall_eq']
  constructor
  · intro hnone e hlt hmem
    rw [h.settled]
    rcases (h.started e).mp hmem with hcompleted | hwaits
    · exact hcompleted
    · exact absurd hlt (hnone e hwaits)
  · intro hsettled e hwaits hlt
    have hrun := (h.started e).mpr (Or.inr hwaits)
    exact h.apart e hwaits ((h.settled e).mp (hsettled e hlt hrun))

theorem next_accounted (h : Accounted s) (hnext : cfg.next s turn = some s')
    (hraised : s'.raised = false) : Accounted s' := by
  rcases next_cases hnext with ⟨-, ⟨-, rfl⟩ | ⟨d, hstarts, houtcome⟩⟩
  · exact h
  · rcases houtcome.ran with ⟨more, hran⟩
    exact h.ran hran (not_completed_of_starts hstarts) hraised

/-- What a turn adds to the history keeps the law exactly when the turn is in turn. -/
theorem next_noneAbandoned (h : Accounted s) (hnext : cfg.next s turn = some s')
    (hbefore : NoneAbandoned s.events) : NoneAbandoned s'.events ↔ cfg.InTurn s turn := by
  rcases next_cases hnext with ⟨-, ⟨hstarts, rfl⟩ | ⟨d, hstarts, houtcome⟩⟩
  · simp [InTurn, hstarts, hbefore]
  · rcases houtcome.ran with ⟨more, hran⟩
    rw [hran.events, noneAbandoned_append_started hran.others, h.inTurn hstarts]
    exact ⟨fun hboth => hboth.2, fun hlast => ⟨hbefore, hlast⟩⟩

theorem next_events (hnext : cfg.next s turn = some s') : ∃ more, s'.events = s.events ++ more := by
  rcases next_cases hnext with ⟨-, ⟨-, rfl⟩ | ⟨d, -, houtcome⟩⟩
  · exact ⟨[], by simp⟩
  · rcases houtcome.ran with ⟨more, hran⟩
    exact ⟨_, hran.events⟩

/-- A run abandons no report date exactly when every date is started in turn. -/
theorem noneAbandoned_iff (cfg : ConfiguredSchedule) (turns : List Turn) (s : ScheduleLoop)
    (h : Run cfg.Next {} turns s) :
    NoneAbandoned s.events ↔ Run (guarded cfg.Next cfg.InTurn) {} turns s := by
  refine run_law_iff (fun s => s.raised = false → Accounted s) (fun s => NoneAbandoned s.events)
    ?_ ?_ ?_ h (fun _ => accounted_init) noneAbandoned_nil
  · intro s turn s' hnext hacc hraised
    exact next_accounted (hacc (next_cases hnext).1) hnext hraised
  · intro s turn s' hnext hlaw
    rcases next_events hnext with ⟨more, hmore⟩
    rw [hmore] at hlaw
    exact hlaw.front
  · intro s turn s' hnext hacc hbefore
    exact next_noneAbandoned (hacc (next_cases hnext).1) hnext hbefore

/-! ## A retry that is due after midnight -/

theorem defaultAttempts_pos : 1 ≤ 3 := by
  decide

/-- The defaults of the settings, at a fixed offset of eight hours. -/
def shanghaiMorning : ConfiguredSchedule where
  localNow := fun now => now + 8 * 3600 * 1000000
  hour := 7
  minute := 50
  pollSeconds := 60
  retryDelaySeconds := 1
  maxReportAttempts := 3
  maxScheduleRuns := none
  attempts := defaultAttempts_pos

/-- A retryable run that starts half a second before midnight, and the next morning. -/
def acrossMidnight : List Turn :=
  [⟨20661 * dayMicroseconds + 57599500000, some .retryable, true⟩,
    ⟨20661 * dayMicroseconds + 57600500000, none, true⟩,
    ⟨20661 * dayMicroseconds + 85800000000, some .succeeded, true⟩]

/-- A date whose three attempts are retryable, with a poll before the second one is due and a poll
after its exhaustion, and the next date, whose second attempt succeeds. -/
def twoMornings : List Turn :=
  [⟨20660 * dayMicroseconds + 85800000000, some .retryable, true⟩,
    ⟨20660 * dayMicroseconds + 85800500000, none, true⟩,
    ⟨20660 * dayMicroseconds + 85860000000, some .retryable, true⟩,
    ⟨20660 * dayMicroseconds + 85920000000, some .retryable, true⟩,
    ⟨20660 * dayMicroseconds + 85980000000, none, true⟩,
    ⟨20661 * dayMicroseconds + 85800000000, some .retryable, true⟩,
    ⟨20661 * dayMicroseconds + 85860000000, some .succeeded, true⟩]

theorem twoMornings_run : ∃ s, Run shanghaiMorning.Next {} twoMornings s ∧
    s.events = [.started 20661, .ended 20661 .retryable, .started 20661, .ended 20661 .retryable,
      .started 20661, .ended 20661 .retryable, .retryExhausted 20661,
      .started 20662, .ended 20662 .retryable, .started 20662, .ended 20662 .succeeded] := by
  have hevents : (exec shanghaiMorning.next {} twoMornings).map (·.events) =
      some [.started 20661, .ended 20661 .retryable, .started 20661, .ended 20661 .retryable,
        .started 20661, .ended 20661 .retryable, .retryExhausted 20661,
        .started 20662, .ended 20662 .retryable, .started 20662, .ended 20662 .succeeded] := by
    decide +kernel
  obtain ⟨s, hexec, hevents⟩ := Option.map_eq_some_iff.mp hevents
  exact ⟨s, run_of_exec hexec, hevents⟩

theorem noneAbandoned_iff_succeeding :
    ∃ s, Run shanghaiMorning.Next {} twoMornings s ∧ .retryExhausted 20661 ∈ s.events ∧
      (NoneAbandoned s.events ↔
        Run (guarded shanghaiMorning.Next shanghaiMorning.InTurn) {} twoMornings s) := by
  obtain ⟨s, hrun, hevents⟩ := twoMornings_run
  exact ⟨s, hrun, by simp [hevents], noneAbandoned_iff shanghaiMorning twoMornings s hrun⟩

/-- A date that waits for its retry when the next one begins. -/
theorem abandoned_across_midnight :
    acrossMidnight.Pairwise (fun first second => first.now ≤ second.now) ∧
      ∃ s, Run shanghaiMorning.Next {} acrossMidnight s ∧ ¬ NoneAbandoned s.events := by
  constructor
  · decide
  · have hevents : (exec shanghaiMorning.next {} acrossMidnight).map (·.events) =
        some ([.started 20661, .ended 20661 .retryable] ++
          .started 20662 :: [.ended 20662 .succeeded]) := by
      decide +kernel
    obtain ⟨s, hexec, hevents⟩ := Option.map_eq_some_iff.mp hevents
    refine ⟨s, run_of_exec hexec, ?_⟩
    intro hlaw
    have hsettled := hlaw _ _ 20662 hevents 20661 (by decide) (by simp)
    simp [settled_iff, LoopEvent.Settles, terminal] at hsettled

end ConfiguredSchedule

end MacroPlatform.Schedule
