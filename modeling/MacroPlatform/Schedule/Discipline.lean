import MacroPlatform.Schedule.RetryAlerts

/-! # The discipline of the schedule loop

What the loop does is stamped with the local clock reading of its turn. The law says of each start
of a date what the history before it must be; the variables of the loop are a summary of that
history, date by date.

* `RunOutcome.summarised`: one run of a date keeps the summary;
* `run_disciplined`: every run of the loop is disciplined.
-/

namespace MacroPlatform.Schedule

open Transition Occurrences MacroPlatform.Daily

/-- An event, and the local clock reading of the turn that it belongs to. -/
abbrev StampedEvent := WallClock × LoopEvent

/-- The results of a date, each with its clock reading. -/
def resultsOf (past : List StampedEvent) (reportDate : Day) :
    List (WallClock × ScheduledWorkerStatus) :=
  past.filterMap fun entry => (entry.2.resultOf reportDate).map (entry.1, ·)

/-- How often an event stands in a history. -/
def times (past : List StampedEvent) (event : LoopEvent) : ℕ := (past.map Prod.snd).count event

namespace ConfiguredSchedule

variable (cfg : ConfiguredSchedule)

/-- What the loop does over a list of turns, stamped. -/
def history : ScheduleLoop → List Turn → List StampedEvent
  | _, [] => []
  | s, turn :: turns =>
    match cfg.next s turn with
    | none => []
    | some after =>
      (after.events.drop s.events.length).map (cfg.localNow turn.now, ·) ++ history after turns

/-- The next-attempt time that a result sets, when it is the last of the date's results. -/
def nextAttemptAfter (results : List (WallClock × ScheduledWorkerStatus)) : Option WallClock :=
  results.getLast?.map fun result =>
    result.1 + timedeltaSeconds (cfg.delaySeconds result.2 results.length)

/-- A date may be started at a local time, after what came before. -/
structure MayStart (past : List StampedEvent) (localNow : WallClock) (reportDate : Day) :
    Prop where
  today : localNow.date = reportDate
  scheduled : cfg.scheduleTime ≤ localNow.time
  due : ∀ dueAt ∈ cfg.nextAttemptAfter (resultsOf past reportDate), dueAt ≤ localNow
  nonterminal : ∀ result ∈ resultsOf past reportDate, terminal result.2 = false
  attemptsLeft : (resultsOf past reportDate).length < cfg.maxReportAttempts
  unnotified : times past (.retryExhausted reportDate) = 0

/-- The discipline of the loop, for each report date. -/
structure Disciplined (past : List StampedEvent) : Prop where
  starts : AtEach (fun before entry => ∀ reportDate, entry.2 = .started reportDate →
    cfg.MayStart before entry.1 reportDate) past
  attempts : ∀ reportDate, times past (.started reportDate) ≤ cfg.maxReportAttempts
  notified : ∀ reportDate, times past (.retryExhausted reportDate) ≤ 1

end ConfiguredSchedule

/-! ## What a run of a date adds to a history -/

@[simp] theorem resultsOf_append {past more : List StampedEvent} {d : Day} :
    resultsOf (past ++ more) d = resultsOf past d ++ resultsOf more d :=
  List.filterMap_append

@[simp] theorem times_append {past more : List StampedEvent} {event : LoopEvent} :
    times (past ++ more) event = times past event + times more event := by
  simp [times]

@[simp] theorem times_nil {event : LoopEvent} : times [] event = 0 := rfl

@[simp] theorem times_cons {entry : StampedEvent} {past : List StampedEvent} {event : LoopEvent} :
    times (entry :: past) event = times past event + if entry.2 = event then 1 else 0 := by
  simp [times, List.count_cons]

namespace ConfiguredSchedule

variable {cfg : ConfiguredSchedule} {s s' : ScheduleLoop} {turn : Turn} {d : Day}
  {past : List StampedEvent}

/-- What the loop knows of a date that is not completed is what its history says. -/
structure Open (cfg : ConfiguredSchedule) (past : List StampedEvent) (s : ScheduleLoop)
    (d : Day) : Prop where
  attempts : attemptNo s d = (resultsOf past d).length + 1
  dueAt : s.nextAttemptAt.lookup d = cfg.nextAttemptAfter (resultsOf past d)
  nonterminal : ∀ result ∈ resultsOf past d, terminal result.2 = false
  attemptsLeft : (resultsOf past d).length < cfg.maxReportAttempts
  starts : times past (.started d) = (resultsOf past d).length
  unnotified : times past (.retryExhausted d) = 0

/-- The history is disciplined, and while the loop runs its variables summarise it. -/
structure Summarised (cfg : ConfiguredSchedule) (past : List StampedEvent) (s : ScheduleLoop) :
    Prop where
  disciplined : cfg.Disciplined past
  dates : s.raised = false → ∀ d ∉ s.completedDates, Open cfg past s d

theorem summarised_init (cfg : ConfiguredSchedule) : Summarised cfg [] {} := by
  have hpositive := cfg.attempts
  constructor
  · constructor <;> simp
  · intro _ d _
    constructor <;> simp [resultsOf, nextAttemptAfter, attemptNo]
    omega

/-- A date that is due may be started. -/
theorem Open.mayStart (h : Open cfg past s d) (hstarts : cfg.starts s turn.now = some d) :
    cfg.MayStart past (cfg.localNow turn.now) d := by
  simp only [ConfiguredSchedule.starts] at hstarts
  split_ifs at hstarts with hdue
  rcases hdue with ⟨hscheduled, -, hdue⟩
  cases hstarts
  exact
    { today := rfl
      scheduled := hscheduled
      due := fun dueAt hmem => hdue dueAt (h.dueAt ▸ hmem)
      nonterminal := h.nonterminal
      attemptsLeft := h.attemptsLeft
      unnotified := h.unnotified }

/-- Stamp the events of one turn. -/
def stamp (localNow : WallClock) (events : List LoopEvent) : List StampedEvent :=
  events.map (localNow, ·)

/-- A start of a date that may be started, with at most one notification, keeps the discipline. -/
theorem Disciplined.append {localNow : WallClock} {more : List LoopEvent}
    (h : cfg.Disciplined past) (hopen : Open cfg past s d) (hmay : cfg.MayStart past localNow d)
    (hstarted : ∀ e, .started e ∉ more) (hothers : ∀ e, .retryExhausted e ∈ more → e = d)
    (honce : more.count (.retryExhausted d) ≤ 1) :
    cfg.Disciplined (past ++ stamp localNow (.started d :: more)) := by
  have hsnd : (stamp localNow more).map Prod.snd = more := by
    simp [stamp, Function.comp_def]
  have hleft := hopen.attemptsLeft
  have hcount := hopen.starts
  have hunnotified := hopen.unnotified
  constructor
  -- the start is the first of the new events
  · refine atEach_append.mpr ⟨h.starts, ?_⟩
    show AtEach _ ((localNow, .started d) :: stamp localNow more)
    refine atEach_cons.mpr ⟨?_, atEach_of_forall ?_⟩
    · intro e hsame
      cases hsame
      simpa using hmay
    · -- nothing but the date itself is started
      rintro ⟨time, event⟩ hmem before e rfl
      have hevent : LoopEvent.started e ∈ (stamp localNow more).map Prod.snd :=
        List.mem_map.mpr ⟨_, hmem, rfl⟩
      rw [hsnd] at hevent
      exact absurd hevent (hstarted e)
  -- attempts: one more of this date, and within the limit
  · intro e
    have hnone : more.count (.started e) = 0 := List.count_eq_zero.mpr (hstarted e)
    have hbefore := h.attempts e
    show times (past ++ (localNow, .started d) :: stamp localNow more) _ ≤ _
    rw [times_append, times_cons]
    unfold times at hbefore hcount ⊢
    rw [hsnd, hnone]
    by_cases hsame : d = e
    · subst hsame
      simp only [if_true]
      omega
    · simp only [LoopEvent.started.injEq, hsame, if_false]
      omega
  -- notifications: at most one, and of this date
  · intro e
    have hbefore := h.notified e
    show times (past ++ (localNow, .started d) :: stamp localNow more) _ ≤ _
    rw [times_append, times_cons]
    unfold times at hbefore hunnotified ⊢
    rw [hsnd]
    simp only [reduceCtorEq, if_false]
    by_cases hsame : e = d
    · subst hsame
      omega
    · have hnone : more.count (.retryExhausted e) = 0 :=
        List.count_eq_zero.mpr fun hmem => hsame (hothers e hmem)
      omega

/-- The loop knows as much of a date that the turn is not about as before. -/
theorem Open.of_other {more : List StampedEvent} {e : Day} (h : Open cfg past s e)
    (hattempts : s'.retryAttempts.lookup e = s.retryAttempts.lookup e)
    (hdue : s'.nextAttemptAt.lookup e = s.nextAttemptAt.lookup e)
    (hresults : resultsOf more e = []) (hstarts : times more (.started e) = 0)
    (hnotified : times more (.retryExhausted e) = 0) : Open cfg (past ++ more) s' e := by
  have hsame : resultsOf (past ++ more) e = resultsOf past e := by
    rw [resultsOf_append, hresults, List.append_nil]
  have hnumber := h.attempts
  have hcount := h.starts
  have hunnotified := h.unnotified
  -- nothing of the date was added, so its summary is that of before
  refine ⟨?_, ?_, ?_, ?_, ?_, ?_⟩
  · unfold attemptNo at hnumber ⊢
    rw [hattempts, hsame, hnumber]
  · rw [hdue, hsame, h.dueAt]
  · rw [hsame]
    exact h.nonterminal
  · rw [hsame]
    exact h.attemptsLeft
  · rw [times_append, hsame, hstarts, hcount, Nat.add_zero]
  · rw [times_append, hnotified, hunnotified]

/-- A date that waits for its next attempt stays open. -/
theorem Open.waits {status : ScheduledWorkerStatus} (h : Open cfg past s d)
    (hterminal : terminal status = false) (hleft : attemptNo s d < cfg.maxReportAttempts)
    (hattempts : s'.retryAttempts = s.retryAttempts.insert d (attemptNo s d))
    (hdue : s'.nextAttemptAt = s.nextAttemptAt.insert d (cfg.localNow turn.now +
      timedeltaSeconds (cfg.delaySeconds status (attemptNo s d)))) :
    Open cfg (past ++ stamp (cfg.localNow turn.now) [.started d, .ended d status]) s' d := by
  have hnumber := h.attempts
  have hcount := h.starts
  have hunnotified := h.unnotified
  have hresults : resultsOf (past ++ stamp (cfg.localNow turn.now)
      [.started d, .ended d status]) d =
        resultsOf past d ++ [(cfg.localNow turn.now, status)] := by
    simp [resultsOf, stamp, LoopEvent.resultOf]
  refine ⟨?_, ?_, ?_, ?_, ?_, ?_⟩
  -- the attempt is counted, and its time is set
  · unfold attemptNo at hnumber ⊢
    rw [hattempts, AList.lookup_insert, hresults]
    simp [hnumber, attemptNo]
  · rw [hdue, AList.lookup_insert, hresults]
    simp [nextAttemptAfter, hnumber]
  -- the result that was added ends nothing
  · rw [hresults]
    intro result hmem
    rcases List.mem_append.mp hmem with hbefore | hnew
    · exact h.nonterminal result hbefore
    · rw [List.mem_singleton.mp hnew]
      exact hterminal
  · rw [hresults, List.length_append, List.length_singleton]
    omega
  · rw [hresults]
    simp [stamp, hcount]
  · simp [stamp, hunnotified]

/-- One run of a date that was due keeps the summary. -/
theorem RunOutcome.summarised (h : RunOutcome cfg s turn d s')
    (hbefore : Summarised cfg past s) (hraised : s.raised = false)
    (hstarts : cfg.starts s turn.now = some d) :
    Summarised cfg (past ++ stamp (cfg.localNow turn.now)
      (s'.events.drop s.events.length)) s' := by
  have hopen := hbefore.dates hraised d (not_completed_of_starts hstarts)
  have hmay := hopen.mayStart hstarts
  have hdisciplined := hbefore.disciplined
  -- the turn says nothing of another date
  have hothers : ∀ {e : Day} {more : List LoopEvent} {after : ScheduleLoop}, e ≠ d →
      e ∉ s.completedDates → after.retryAttempts.lookup e = s.retryAttempts.lookup e →
      after.nextAttemptAt.lookup e = s.nextAttemptAt.lookup e →
      (∀ event ∈ more, event = .started d ∨ (∃ status, event = .ended d status) ∨
        event = .retryExhausted d) →
      Open cfg (past ++ stamp (cfg.localNow turn.now) more) after e := by
    intro e more after hne he hattempts hdue hmore
    have hnotMem : LoopEvent.started e ∉ more ∧ LoopEvent.retryExhausted e ∉ more := by
      constructor
      · intro hmem
        rcases hmore _ hmem with hsame | ⟨status, hsame⟩ | hsame
        · exact hne (LoopEvent.started.inj hsame)
        · cases hsame
        · cases hsame
      · intro hmem
        rcases hmore _ hmem with hsame | ⟨status, hsame⟩ | hsame
        · cases hsame
        · cases hsame
        · exact hne (LoopEvent.retryExhausted.inj hsame)
    refine (hbefore.dates hraised e he).of_other hattempts hdue ?_ ?_ ?_
    · refine List.filterMap_eq_nil_iff.mpr ?_
      intro entry hmem
      rcases List.mem_map.mp hmem with ⟨event, hevent, rfl⟩
      rcases hmore event hevent with rfl | ⟨status, rfl⟩ | rfl
      · rfl
      · simp [LoopEvent.resultOf, Ne.symm hne]
      · rfl
    · simpa [times, stamp, Function.comp_def, List.count_eq_zero] using hnotMem.1
    · simpa [times, stamp, Function.comp_def, List.count_eq_zero] using hnotMem.2
  cases h with
  | fails hstatus =>
    refine ⟨?_, by simp⟩
    rw [List.drop_left]
    exact hdisciplined.append hopen hmay (by simp) (by simp) (by simp)
  | ends hstatus hterminal =>
    rw [List.drop_left]
    refine ⟨hdisciplined.append hopen hmay (by simp) (by simp) (by simp), ?_⟩
    intro _ e he
    rw [Finset.mem_insert, not_or] at he
    exact hothers he.1 he.2 (AList.lookup_erase_ne he.1) (AList.lookup_erase_ne he.1) (by simp)
  | exhausts hstatus hterminal hlast =>
    rw [List.drop_left]
    refine ⟨hdisciplined.append hopen hmay (by simp) (by simp) (by simp), ?_⟩
    intro _ e he
    rw [Finset.mem_insert, not_or] at he
    exact hothers he.1 he.2 (AList.lookup_insert_ne he.1) (AList.lookup_erase_ne he.1) (by simp)
  | notifyFails hstatus hterminal hlast =>
    refine ⟨?_, by simp⟩
    rw [List.drop_left]
    exact hdisciplined.append hopen hmay (by simp) (by simp) (by simp)
  | waits hstatus hterminal hleft =>
    rw [List.drop_left]
    refine ⟨hdisciplined.append hopen hmay (by simp) (by simp) (by simp), ?_⟩
    intro _ e he
    by_cases hsame : e = d
    · subst hsame
      exact hopen.waits hterminal hleft rfl rfl
    · exact hothers hsame he (AList.lookup_insert_ne hsame) (AList.lookup_insert_ne hsame)
        (by simp)

theorem next_summarised (hnext : cfg.next s turn = some s') (h : Summarised cfg past s) :
    Summarised cfg (past ++ stamp (cfg.localNow turn.now)
      (s'.events.drop s.events.length)) s' := by
  rcases next_cases hnext with ⟨hraised, ⟨-, rfl⟩ | ⟨d, hstarts, houtcome⟩⟩
  · simpa [stamp] using h
  · exact houtcome.summarised h hraised hstarts

/-! ## Whole runs -/

theorem run_summarised {turns : List Turn} (hrun : Run cfg.Next s turns s')
    (h : Summarised cfg past s) : Summarised cfg (past ++ cfg.history s turns) s' := by
  induction hrun generalizing past with
  | nil s => simpa [history] using h
  | @cons s t s'' turn turns hstep _ ih =>
    have hnext : cfg.next s turn = some t := hstep
    have hafter := ih (next_summarised hnext h)
    rw [List.append_assoc] at hafter
    simpa [history, hnext, stamp] using hafter

/-- The stamped history is the history of the loop. -/
theorem history_events {turns : List Turn} (hrun : Run cfg.Next s turns s') :
    s'.events = s.events ++ (cfg.history s turns).map Prod.snd := by
  induction hrun with
  | nil s => simp [history]
  | @cons s t s'' turn turns hstep _ ih =>
    have hnext : cfg.next s turn = some t := hstep
    rcases next_events hnext with ⟨more, hmore⟩
    rw [ih]
    simp [history, hnext, hmore, Function.comp_def]

/-- Every run of the loop, whatever its clock readings and its results, is disciplined. -/
theorem run_disciplined (cfg : ConfiguredSchedule) (turns : List Turn) (s : ScheduleLoop)
    (hrun : Run cfg.Next {} turns s) :
    (cfg.history {} turns).map Prod.snd = s.events ∧ cfg.Disciplined (cfg.history {} turns) := by
  have hevents := history_events hrun
  rw [List.nil_append] at hevents
  have hsummary := run_summarised hrun (summarised_init cfg)
  rw [List.nil_append] at hsummary
  exact ⟨hevents.symm, hsummary.disciplined⟩

theorem run_disciplined_morning :
    ∃ s, Run shanghaiMorning.Next {} twoMornings s ∧ .retryExhausted 20661 ∈ s.events ∧
      (shanghaiMorning.history {} twoMornings).map Prod.snd = s.events ∧
        shanghaiMorning.Disciplined (shanghaiMorning.history {} twoMornings) := by
  obtain ⟨s, hrun, hevents⟩ := twoMornings_run
  exact ⟨s, hrun, by simp [hevents], run_disciplined shanghaiMorning twoMornings s hrun⟩

end ConfiguredSchedule

end MacroPlatform.Schedule
