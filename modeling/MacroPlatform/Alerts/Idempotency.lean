import MacroPlatform.Alerts.Service

/-! # Delivering an alert again

A row in a final status is never written again, so a later call for its key reads it as it is:
it returns the stored attempt when its request is the stored one, and raises when it is not. It
never comes to `send_card`.

* `storeStep_answering`: what a later call reads of a final row;
* `deliver_again`: it returns the stored attempt or raises, and sends nothing;
* `second_measurement_raises`: the second measurement of a day.
-/

namespace MacroPlatform.Alerts

open ConditionalUpdate Transition

/-- The statuses that no operation of `deliver` leaves. -/
def AttemptStatus.Final : AttemptStatus → Prop
  | .succeeded | .failed | .uncertain => True
  | .pending | .retryWait => False

variable {sha256Hex : Sha256Hex} {maxAttempts : ℕ} {key : String} {s s' : System}

/-- Two rendered requests are equal dicts only when they are the same. -/
theorem requestPayload_pyEq {alert other : WorkflowAlert} {chatId otherChat : String} :
    (requestPayload sha256Hex alert chatId).pyEq (requestPayload sha256Hex other otherChat) = true ↔
      requestPayload sha256Hex alert chatId = requestPayload sha256Hex other otherChat := by
  simp [requestPayload, render, Json.pyEq, Json.pyEqFields, Json.pyEqItems]

theorem request_target {call other : DeliverCall}
    (h : call.request sha256Hex = other.request sha256Hex) : call.chatId = other.chatId := by
  simp only [DeliverCall.request, requestPayload, Json.obj.injEq, List.cons.injEq, Prod.mk.injEq,
    Json.str.injEq, deliveryTarget] at h
  simpa using h.2.2.2.2.2.2.1.2

theorem begin_inserting {call : DeliverCall} {a : WorkflowAlertAttempt}
    (h : call.begin sha256Hex = .inserting a) : a.requestPayload = call.request sha256Hex := by
  unfold DeliverCall.begin at h
  split_ifs at h
  cases h
  rfl

/-- The checks before the reservation look at the chat alone. -/
theorem begin_of_chatId {call other : DeliverCall} {a : WorkflowAlertAttempt}
    (h : call.begin sha256Hex = .inserting a) (hchat : call.chatId = other.chatId) :
    ∃ b, other.begin sha256Hex = .inserting b := by
  unfold DeliverCall.begin at h ⊢
  rw [← hchat]
  split_ifs at h ⊢
  exact ⟨_, rfl⟩

/-! ## What a transaction does to the row -/

/-- An existing row keeps its request, and a final one is not written. -/
def RowStep (row row' : AlertRow) : Prop :=
  ∀ r, row = some r → ∃ r', row' = some r' ∧ r'.requestPayload = r.requestPayload ∧
    (r.status.Final → r' = r)

theorem rowStep_refl (row : AlertRow) : RowStep row row :=
  fun r hr => ⟨r, hr, rfl, fun _ => rfl⟩

/-- Storing an outcome is a step of the row. -/
theorem updateAttempt_rowStep (row : AlertRow) (attempt settled : WorkflowAlertAttempt) :
    RowStep row (updateAttempt row attempt settled).1 := by
  rcases updateWhere_cases
    (fun r : WorkflowAlertAttempt =>
      r.alertId = attempt.alertId ∧ r.attemptNo = attempt.attemptNo ∧ r.status = .pending)
    (fun r => { r with
      status := settled.status
      responsePayload := settled.responsePayload
      messageId := settled.messageId
      errorCode := settled.errorCode }) row with ⟨r, hrow, hguard, heq⟩ | ⟨-, heq⟩
  · intro r' hr'
    rw [hrow] at hr'
    cases hr'
    simp only [updateAttempt, heq]
    refine ⟨_, rfl, rfl, ?_⟩
    intro hfinal
    rw [hguard.2.2] at hfinal
    exact hfinal.elim
  · simp only [updateAttempt, heq]
    exact rowStep_refl row

/-- So is a resumption. -/
theorem retryAttempt_rowStep (row : AlertRow) (alertId : UUID) :
    RowStep row (retryAttempt row alertId).1 := by
  rcases updateWhere_cases
    (fun r : WorkflowAlertAttempt => r.alertId = alertId ∧ r.status = .retryWait)
    WorkflowAlertAttempt.resumed row with ⟨r, hrow, hguard, heq⟩ | ⟨-, heq⟩
  · intro r' hr'
    rw [hrow] at hr'
    cases hr'
    simp only [retryAttempt, heq]
    refine ⟨_, rfl, rfl, ?_⟩
    intro hfinal
    rw [hguard.2] at hfinal
    exact hfinal.elim
  · simp only [retryAttempt, heq]
    exact rowStep_refl row

theorem insertAttempt_rowStep (row : AlertRow) (attempt : WorkflowAlertAttempt) :
    RowStep row (insertAttempt row attempt).1 := by
  cases row with
  | none =>
    intro r hr
    cases hr
  | some existing => exact rowStep_refl _

/-- What any transaction of a caller can do to the row. -/
theorem storeStep_rowStep {row row' : AlertRow} {p p' : Phase}
    (h : storeStep maxAttempts row p = some (row', p')) : RowStep row row' := by
  cases p with
  -- these phases have no transaction to run
  | idle | sending | awaiting | returned | raised | crashed => simp [storeStep] at h
  | inserting attempt =>
    simp only [storeStep, Option.some.injEq, Prod.mk.injEq] at h
    rw [← h.1]
    exact insertAttempt_rowStep row attempt
  -- the three writes; the reads change nothing
  | resuming attempt =>
    simp only [storeStep, Option.some.injEq, Prod.mk.injEq] at h
    rw [← h.1]
    exact retryAttempt_rowStep row attempt.alertId
  | storing attempt outcome =>
    simp only [storeStep, Option.some.injEq, Prod.mk.injEq] at h
    rw [← h.1]
    exact updateAttempt_rowStep row attempt _
  | comparing | loading | reloading =>
    simp only [storeStep, Option.some.injEq, Prod.mk.injEq] at h
    rw [← h.1]
    exact rowStep_refl row

/-- Everything one step can do. -/
inductive Step (sha256Hex : Sha256Hex) (maxAttempts : ℕ) (key : String) (s : System) :
    Act → System → Prop
  | start {c : ℕ} {call : DeliverCall} : s.phases c = .idle → call.key sha256Hex = key →
      Step sha256Hex maxAttempts key s (.start c call)
        { s.setPhase c (call.begin sha256Hex) with
          calls := Function.update s.calls c (some call) }
  | store {c : ℕ} {row : AlertRow} {p : Phase} :
      storeStep maxAttempts s.row (s.phases c) = some (row, p) →
      Step sha256Hex maxAttempts key s (.store c) { s.setPhase c p with row := row }
  | send {c : ℕ} {attempt : WorkflowAlertAttempt} : s.phases c = .sending attempt →
      Step sha256Hex maxAttempts key s (.send c)
        { s.setPhase c (.awaiting attempt) with sends := s.sends ++ [c] }
  | reply {c : ℕ} {attempt : WorkflowAlertAttempt} {outcome : SendOutcome} :
      s.phases c = .awaiting attempt →
      Step sha256Hex maxAttempts key s (.reply c outcome) (s.setPhase c (.storing attempt outcome))
  | crash {c : ℕ} : Step sha256Hex maxAttempts key s (.crash c) (s.setPhase c .crashed)

/-- The executable step is a step of the relation. -/
theorem next_step {a : Act} (h : Next sha256Hex maxAttempts key s a s') :
    Step sha256Hex maxAttempts key s a s' := by
  change next sha256Hex maxAttempts key s a = some s' at h
  cases a with
  | start c call =>
    cases hp : s.phases c <;> simp only [next, hp, reduceCtorEq] at h
    -- a call takes part only under the key of the row
    split_ifs at h with hkey
    cases h
    exact .start hp hkey
  | store c =>
    obtain ⟨⟨row, p⟩, hstore, rfl⟩ := Option.map_eq_some_iff.mp h
    exact .store hstore
  | send c =>
    cases hp : s.phases c <;> simp only [next, hp, Option.some.injEq, reduceCtorEq] at h
    subst h
    exact .send hp
  | reply c outcome =>
    cases hp : s.phases c <;> simp only [next, hp, Option.some.injEq, reduceCtorEq] at h
    subst h
    exact .reply hp
  | crash c =>
    cases h
    exact .crash

/-! ## The request of the row -/

/-- The row holds the request of the call. -/
def Reserved (sha256Hex : Sha256Hex) (row : AlertRow) (call : DeliverCall) : Prop :=
  ∃ r, row = some r ∧ r.requestPayload = call.request sha256Hex

/-- What is known of a call by where it stands. -/
def PhaseOk (sha256Hex : Sha256Hex) (row : AlertRow) (call : Option DeliverCall) : Phase → Prop
  | .idle => call = none
  | .raised _ | .crashed => True
  | .inserting a | .comparing a => ∃ c ∈ call, c.begin sha256Hex = .inserting a
  | _ => ∃ c ∈ call, (∃ a, c.begin sha256Hex = .inserting a) ∧ Reserved sha256Hex row c

structure Consistent (sha256Hex : Sha256Hex) (s : System) : Prop where
  row : ∀ r, s.row = some r → ∃ call : DeliverCall, r.requestPayload = call.request sha256Hex
  phases : ∀ c, PhaseOk sha256Hex s.row (s.calls c) (s.phases c)

theorem consistent_init : Consistent sha256Hex {} :=
  ⟨fun _ h => absurd h (by simp), fun _ => rfl⟩

theorem Reserved.rowStep {row row' : AlertRow} {call : DeliverCall}
    (h : Reserved sha256Hex row call) (hstep : RowStep row row') :
    Reserved sha256Hex row' call := by
  obtain ⟨r, hr, hrequest⟩ := h
  obtain ⟨r', hr', hsame, -⟩ := hstep r hr
  exact ⟨r', hr', hsame.trans hrequest⟩

theorem PhaseOk.rowStep {row row' : AlertRow} {call : Option DeliverCall} {p : Phase}
    (h : PhaseOk sha256Hex row call p) (hstep : RowStep row row') :
    PhaseOk sha256Hex row' call p := by
  cases p with
  | raised | crashed => trivial
  | idle | inserting | comparing => exact h
  | loading | resuming | reloading | sending | awaiting | storing | returned =>
    obtain ⟨c, hc, hbegin, hreserved⟩ := h
    exact ⟨c, hc, hbegin, hreserved.rowStep hstep⟩

/-- A transaction knows of its call what it knew before, and what it has read. -/
theorem storeStep_phaseOk {row row' : AlertRow} {call : Option DeliverCall} {p p' : Phase}
    (hrow : ∀ r, row = some r → ∃ call : DeliverCall, r.requestPayload = call.request sha256Hex)
    (hp : PhaseOk sha256Hex row call p) (h : storeStep maxAttempts row p = some (row', p')) :
    PhaseOk sha256Hex row' call p' := by
  have hstep := storeStep_rowStep h
  cases p with
  | idle | sending | awaiting | returned | raised | crashed => simp [storeStep] at h
  -- the reservation: a free row gets the request of the call
  | inserting attempt =>
    obtain ⟨c, hc, hbegin⟩ := hp
    cases row with
    | none =>
      simp only [storeStep, insertAttempt, if_true, Option.some.injEq, Prod.mk.injEq] at h
      rw [← h.1, ← h.2]
      exact ⟨c, hc, ⟨attempt, hbegin⟩, attempt, rfl, begin_inserting hbegin⟩
    | some existing =>
      simp only [storeStep, insertAttempt, Bool.false_eq_true, if_false, Option.some.injEq,
        Prod.mk.injEq] at h
      rw [← h.1, ← h.2]
      exact ⟨c, hc, hbegin⟩
  -- the request that is compared is the one that the row was stored with
  | comparing attempt =>
    obtain ⟨c, hc, hbegin⟩ := hp
    simp only [storeStep, Option.some.injEq, Prod.mk.injEq] at h
    rw [← h.1, ← h.2]
    cases row with
    | none => trivial
    | some existing =>
      simp only [afterComparing]
      -- equal payloads are of one request, so the call goes on with it
      by_cases hsame : existing.requestPayload.pyEq attempt.requestPayload = true
      · rw [if_pos hsame]
        obtain ⟨stored, hstored⟩ := hrow existing rfl
        rw [hstored, begin_inserting hbegin] at hsame
        have hrequest := requestPayload_pyEq.mp hsame
        exact ⟨c, hc, ⟨attempt, hbegin⟩, existing, rfl, hstored.trans hrequest⟩
      · rw [if_neg hsame]
        trivial
  | loading =>
    obtain ⟨c, hc, hbegin, hreserved⟩ := hp
    simp only [storeStep, Option.some.injEq, Prod.mk.injEq] at h
    rw [← h.1, ← h.2]
    obtain ⟨r, rfl, hrequest⟩ := hreserved
    simp only [afterLoading]
    split_ifs <;> exact ⟨c, hc, hbegin, r, rfl, hrequest⟩
  -- a resume and a store keep the request of the row
  | resuming attempt =>
    obtain ⟨c, hc, hbegin, hreserved⟩ := hp
    simp only [storeStep, Option.some.injEq, Prod.mk.injEq] at h
    rw [← h.2]
    split_ifs <;> exact ⟨c, hc, hbegin, hreserved.rowStep hstep⟩
  | reloading alertId disappeared =>
    obtain ⟨c, hc, hbegin, hreserved⟩ := hp
    simp only [storeStep, Option.some.injEq, Prod.mk.injEq] at h
    rw [← h.1, ← h.2]
    cases loadAttempt row alertId with
    | none => trivial
    | some current => exact ⟨c, hc, hbegin, hreserved⟩
  -- whether the outcome was stored or not, the call knows the request
  | storing attempt outcome =>
    obtain ⟨c, hc, hbegin, hreserved⟩ := hp
    simp only [storeStep, Option.some.injEq, Prod.mk.injEq] at h
    rw [← h.2]
    have hafter := hreserved.rowStep hstep
    by_cases hupdated : (updateAttempt row attempt (attempt.settled maxAttempts outcome)).2 = true
    · rw [if_pos hupdated]
      unfold afterStoring
      split_ifs <;> exact ⟨c, hc, hbegin, hafter⟩
    · rw [if_neg hupdated]
      exact ⟨c, hc, hbegin, hafter⟩

/-- The row and the attempts in hand stay those of calls that have begun. -/
theorem step_consistent {a : Act} (hstep : Step sha256Hex maxAttempts key s a s')
    (h : Consistent sha256Hex s) : Consistent sha256Hex s' := by
  -- the phase of one caller changes, the others keep theirs
  have other : ∀ {c d : ℕ} {p : Phase}, d ≠ c →
      (s.setPhase c p).phases d = s.phases d := fun hne => Function.update_of_ne hne _ _
  have own : ∀ {c : ℕ} {p : Phase}, (s.setPhase c p).phases c = p := Function.update_self ..
  cases hstep with
  | @start c call hidle hkey =>
    refine ⟨h.row, ?_⟩
    intro d
    by_cases hd : d = c
    · subst hd
      show PhaseOk sha256Hex s.row (Function.update s.calls d (some call) d)
        ((s.setPhase d _).phases d)
      rw [own, Function.update_self]
      cases hbegin : call.begin sha256Hex with
      | inserting a => exact ⟨call, rfl, hbegin⟩
      | raised | crashed => trivial
      | idle | comparing | loading | resuming | reloading | sending | awaiting | storing | returned =>
        unfold DeliverCall.begin at hbegin
        split_ifs at hbegin
    · show PhaseOk sha256Hex s.row (Function.update s.calls c (some call) d)
        ((s.setPhase c _).phases d)
      rw [other hd, Function.update_of_ne hd]
      exact h.phases d
  | @store c row p hstore =>
    have hrowStep := storeStep_rowStep hstore
    constructor
    · intro r hr
      change row = some r at hr
      cases hbefore : s.row with
      | some before =>
        obtain ⟨r', hr', hsame, -⟩ := hrowStep before hbefore
        rw [hr] at hr'
        cases hr'
        obtain ⟨call, hcall⟩ := h.row before hbefore
        exact ⟨call, hsame.trans hcall⟩
      | none =>
        -- only an insert makes a row
        cases hphase : s.phases c with
        | inserting attempt =>
          have hphaseOk := h.phases c
          rw [hphase] at hphaseOk
          obtain ⟨call, -, hbegin⟩ := hphaseOk
          rw [hphase, hbefore] at hstore
          simp only [storeStep, insertAttempt, Option.some.injEq, Prod.mk.injEq] at hstore
          rw [← hstore.1] at hr
          cases hr
          exact ⟨call, begin_inserting hbegin⟩
        | idle | sending | awaiting | returned | raised | crashed =>
          rw [hphase] at hstore
          simp [storeStep] at hstore
        | comparing | loading | resuming | reloading | storing =>
          rw [hphase, hbefore] at hstore
          simp only [storeStep, retryAttempt, updateAttempt, updateWhere, Option.some.injEq,
            Prod.mk.injEq] at hstore
          rw [← hstore.1] at hr
          cases hr
    · intro d
      by_cases hd : d = c
      · subst hd
        show PhaseOk sha256Hex row (s.calls d) ((s.setPhase d p).phases d)
        rw [own]
        exact storeStep_phaseOk h.row (h.phases d) hstore
      · show PhaseOk sha256Hex row (s.calls d) ((s.setPhase c p).phases d)
        rw [other hd]
        exact (h.phases d).rowStep hrowStep
  | @send c attempt hsending =>
    refine ⟨h.row, ?_⟩
    intro d
    show PhaseOk sha256Hex s.row (s.calls d) ((s.setPhase c _).phases d)
    have hphase := h.phases d
    by_cases hd : d = c
    · subst hd
      rw [own]
      rw [hsending] at hphase
      exact hphase
    · rw [other hd]
      exact hphase
  | @reply c attempt outcome hawaiting =>
    refine ⟨h.row, ?_⟩
    intro d
    have hphase := h.phases d
    show PhaseOk sha256Hex s.row (s.calls d) ((s.setPhase c _).phases d)
    by_cases hd : d = c
    · subst hd
      rw [own]
      rw [hawaiting] at hphase
      exact hphase
    · rw [other hd]
      exact hphase
  | @crash c =>
    refine ⟨h.row, ?_⟩
    intro d
    show PhaseOk sha256Hex s.row (s.calls d) ((s.setPhase c _).phases d)
    by_cases hd : d = c
    · subst hd
      rw [own]
      trivial
    · rw [other hd]
      exact h.phases d

theorem run_consistent {acts : List Act} (h : Run (Next sha256Hex maxAttempts key) s acts s')
    (hs : Consistent sha256Hex s) : Consistent sha256Hex s' :=
  run_invariant (Consistent sha256Hex) (fun _ _ _ hstep => step_consistent (next_step hstep)) h hs

/-! ## A later call -/

/-- Where a call stands that was started when the row was `r`, in a final status. -/
def Answering (sha256Hex : Sha256Hex) (r : WorkflowAlertAttempt) (call : DeliverCall) :
    Phase → Prop
  | .idle | .crashed => True
  | .inserting a | .comparing a => call.begin sha256Hex = .inserting a
  | .loading => r.requestPayload = call.request sha256Hex
  | .returned a => a = r ∧ r.requestPayload = call.request sha256Hex
  | .raised _ =>
      r.requestPayload ≠ call.request sha256Hex ∨ ∀ a, call.begin sha256Hex ≠ .inserting a
  | _ => False

/-- The row is still `r`, and the later caller has not sent anything. -/
structure Again (sha256Hex : Sha256Hex) (r : WorkflowAlertAttempt) (second : ℕ)
    (sendsBefore : List ℕ) (s : System) : Prop where
  row : s.row = some r
  unsent : ∃ more, s.sends = sendsBefore ++ more ∧ second ∉ more
  phase : ∀ call, s.calls second = some call →
    Answering sha256Hex r call (s.phases second)
  started : s.calls second = none →
    s.phases second = .idle ∨ s.phases second = .crashed

variable {r : WorkflowAlertAttempt} {second : ℕ} {sendsBefore : List ℕ}

/-- A transaction of the later call reads the final row. -/
theorem storeStep_answering {row : AlertRow} {call : DeliverCall} {p p' : Phase}
    (hfinal : r.status.Final)
    (hrow : ∃ stored : DeliverCall, r.requestPayload = stored.request sha256Hex)
    (hp : Answering sha256Hex r call p)
    (h : storeStep maxAttempts (some r) p = some (row, p')) :
    Answering sha256Hex r call p' := by
  cases p with
  | idle | sending | awaiting | returned | raised | crashed => simp [storeStep] at h
  -- a later call comes to none of these
  | resuming | reloading | storing => exact hp.elim
  | inserting attempt =>
    simp only [storeStep, insertAttempt, Bool.false_eq_true, if_false, Option.some.injEq,
      Prod.mk.injEq] at h
    rw [← h.2]
    exact hp
  -- the stored request is compared with the one of the call
  | comparing attempt =>
    simp only [storeStep, afterComparing, Option.some.injEq, Prod.mk.injEq] at h
    rw [← h.2]
    obtain ⟨stored, hstored⟩ := hrow
    have hrequest : attempt.requestPayload = call.request sha256Hex := begin_inserting hp
    by_cases hsame : r.requestPayload.pyEq attempt.requestPayload = true
    · rw [if_pos hsame]
      rw [hstored, hrequest] at hsame
      exact hstored.trans (requestPayload_pyEq.mp hsame)
    · rw [if_neg hsame]
      refine Or.inl ?_
      intro heq
      rw [hstored] at heq
      rw [hstored, hrequest] at hsame
      exact hsame (requestPayload_pyEq.mpr heq)
  -- a final status is not `retry_wait`, so the loaded row is the answer
  | loading =>
    simp only [storeStep, afterLoading, Option.some.injEq, Prod.mk.injEq] at h
    rw [← h.2]
    have hnotRetry : r.status ≠ .retryWait := by
      intro heq
      rw [heq] at hfinal
      exact hfinal
    rw [if_pos (Or.inl hnotRetry)]
    exact ⟨rfl, hp⟩

/-- A call that begins has an attempt of its own request, or has raised. -/
theorem begin_answering (call : DeliverCall) :
    Answering sha256Hex r call (call.begin sha256Hex) := by
  cases hbegin : call.begin sha256Hex with
  | inserting a => exact hbegin
  | raised e =>
    refine Or.inr ?_
    intro a ha
    rw [hbegin] at ha
    cases ha
  | idle | crashed => trivial
  | comparing | loading | resuming | reloading | sending | awaiting | storing | returned =>
    unfold DeliverCall.begin at hbegin
    split_ifs at hbegin

/-- While the row is final, the later call sends nothing and the row stays. -/
theorem step_again {a : Act} (hstep : Step sha256Hex maxAttempts key s a s')
    (hfinal : r.status.Final) (hconsistent : Consistent sha256Hex s)
    (h : Again sha256Hex r second sendsBefore s) : Again sha256Hex r second sendsBefore s' := by
  -- the later call takes the step itself, or another one does
  have other : ∀ {c : ℕ} {p : Phase}, second ≠ c →
      (s.setPhase c p).phases second = s.phases second := fun hne => Function.update_of_ne hne _ _
  have own : ∀ {p : Phase}, (s.setPhase second p).phases second = p := Function.update_self ..
  cases hstep with
  -- a call begins with its own checks
  | @start c call hidle hkey =>
    by_cases hc : second = c
    · subst hc
      refine ⟨h.row, h.unsent, ?_, ?_⟩
      · intro called hcalled
        change Function.update s.calls second (some call) second = some called at hcalled
        rw [Function.update_self] at hcalled
        cases hcalled
        show Answering sha256Hex r call ((s.setPhase second _).phases second)
        rw [own]
        exact begin_answering call
      · intro hnone
        change Function.update s.calls second (some call) second = none at hnone
        rw [Function.update_self] at hnone
        cases hnone
    · refine ⟨h.row, h.unsent, ?_, ?_⟩
      · intro called hcalled
        change Function.update s.calls c (some call) second = some called at hcalled
        rw [Function.update_of_ne hc] at hcalled
        show Answering sha256Hex r called ((s.setPhase c _).phases second)
        rw [other hc]
        exact h.phase called hcalled
      · intro hnone
        change Function.update s.calls c (some call) second = none at hnone
        rw [Function.update_of_ne hc] at hnone
        show (s.setPhase c _).phases second = .idle ∨ (s.setPhase c _).phases second = .crashed
        rw [other hc]
        exact h.started hnone
  -- a final row is not written by any transaction
  | @store c row p hstore =>
    have hrow : row = some r := by
      obtain ⟨r', hr', -, hsame⟩ := storeStep_rowStep hstore r h.row
      rw [hr', hsame hfinal]
    refine ⟨hrow, h.unsent, ?_, ?_⟩
    · intro call hcall
      show Answering sha256Hex r call ((s.setPhase c p).phases second)
      by_cases hc : second = c
      · subst hc
        rw [own]
        rw [h.row] at hstore
        exact storeStep_answering hfinal (hconsistent.row r h.row) (h.phase call hcall) hstore
      · rw [other hc]
        exact h.phase call hcall
    -- without a call the caller has not begun, or has stopped
    · intro hnone
      show (s.setPhase c p).phases second = .idle ∨ (s.setPhase c p).phases second = .crashed
      by_cases hc : second = c
      · subst hc
        rcases h.started hnone with hphase | hphase <;> rw [hphase] at hstore <;>
          simp [storeStep] at hstore
      · rw [other hc]
        exact h.started hnone
  -- the later call sends nothing, so the send is another caller's
  | @send c attempt hsending =>
    have hc : second ≠ c := by
      rintro rfl
      cases hcall : s.calls second with
      | none =>
        rcases h.started hcall with hphase | hphase <;> rw [hphase] at hsending <;>
          cases hsending
      | some call =>
        have hphase := h.phase call hcall
        rw [hsending] at hphase
        exact hphase
    obtain ⟨more, hmore, hnot⟩ := h.unsent
    refine ⟨h.row, ⟨more ++ [c], ?_, ?_⟩, ?_, ?_⟩
    · show s.sends ++ [c] = sendsBefore ++ (more ++ [c])
      rw [hmore, List.append_assoc]
    · simp [hnot, hc]
    · intro call hcall
      show Answering sha256Hex r call ((s.setPhase c _).phases second)
      rw [other hc]
      exact h.phase call hcall
    · intro hnone
      show (s.setPhase c _).phases second = .idle ∨ (s.setPhase c _).phases second = .crashed
      rw [other hc]
      exact h.started hnone
  -- nor does it await an answer
  | @reply c attempt outcome hawaiting =>
    have hc : second ≠ c := by
      rintro rfl
      cases hcall : s.calls second with
      | none =>
        rcases h.started hcall with hphase | hphase <;> rw [hphase] at hawaiting <;>
          cases hawaiting
      | some call =>
        have hphase := h.phase call hcall
        rw [hawaiting] at hphase
        exact hphase
    refine ⟨h.row, h.unsent, ?_, ?_⟩
    · intro call hcall
      rw [other hc]
      exact h.phase call hcall
    · intro hnone
      rw [other hc]
      exact h.started hnone
  | @crash c =>
    refine ⟨h.row, h.unsent, ?_, ?_⟩
    · intro call hcall
      by_cases hc : second = c
      · subst hc
        rw [own]
        trivial
      · rw [other hc]
        exact h.phase call hcall
    · intro hnone
      by_cases hc : second = c
      · subst hc
        rw [own]
        exact Or.inr rfl
      · rw [other hc]
        exact h.started hnone

theorem run_again {acts : List Act} (h : Run (Next sha256Hex maxAttempts key) s acts s')
    (hfinal : r.status.Final) (hconsistent : Consistent sha256Hex s)
    (hagain : Again sha256Hex r second sendsBefore s) :
    Again sha256Hex r second sendsBefore s' :=
  (run_invariant (fun s => Consistent sha256Hex s ∧ Again sha256Hex r second sendsBefore s)
    (fun _ _ _ hstep hboth => ⟨step_consistent (next_step hstep) hboth.1,
      step_again (next_step hstep) hfinal hboth.1 hboth.2⟩) h ⟨hconsistent, hagain⟩).2

/-! ## The call comes to its answer -/

/-- Transactions of the caller alone bring its call to its answer. -/
def Answers (sha256Hex : Sha256Hex) (maxAttempts : ℕ) (key : String) (r : WorkflowAlertAttempt)
    (call : DeliverCall) (second : ℕ) (s : System) : Prop :=
  ∃ acts s', (∀ a ∈ acts, a = .store second) ∧ Run (Next sha256Hex maxAttempts key) s acts s' ∧
    (s'.phases second = .returned r ∧ r.requestPayload = call.request sha256Hex ∨
      (∃ error, s'.phases second = .raised error) ∧
        (r.requestPayload ≠ call.request sha256Hex ∨ ∀ a, call.begin sha256Hex ≠ .inserting a))

variable {call : DeliverCall}

/-- The later call answers when the step that it takes leads to a state where it does. -/
theorem answers_of_store {row : AlertRow} {p : Phase}
    (hstore : storeStep maxAttempts s.row (s.phases second) = some (row, p))
    (h : Answers sha256Hex maxAttempts key r call second
      { s.setPhase second p with row := row }) :
    Answers sha256Hex maxAttempts key r call second s := by
  obtain ⟨acts, s', hacts, hrun, hanswer⟩ := h
  refine ⟨.store second :: acts, s', ?_, .cons ?_ hrun, hanswer⟩
  · intro a ha
    rcases List.mem_cons.mp ha with rfl | hmem
    · rfl
    · exact hacts a hmem
  · show (storeStep maxAttempts s.row (s.phases second)).map _ = _
    rw [hstore]
    rfl

theorem answers_of_ended (hphase : Answering sha256Hex r call (s.phases second))
    (hended : (∃ a, s.phases second = .returned a) ∨ ∃ error, s.phases second = .raised error) :
    Answers sha256Hex maxAttempts key r call second s := by
  refine ⟨[], s, by simp, .nil s, ?_⟩
  rcases hended with ⟨a, ha⟩ | ⟨error, herror⟩
  · rw [ha] at hphase ⊢
    rw [hphase.1]
    exact Or.inl ⟨rfl, hphase.2⟩
  · rw [herror] at hphase
    exact Or.inr ⟨⟨error, herror⟩, hphase⟩

/-- A call of the stored request finds the row final, and returns it. -/
theorem answers_loading (hfinal : r.status.Final) (hrow : s.row = some r)
    (hphase : s.phases second = .loading) (hrequest : r.requestPayload = call.request sha256Hex) :
    Answers sha256Hex maxAttempts key r call second s := by
  have hstore : storeStep maxAttempts s.row (s.phases second) = some (some r, .returned r) := by
    have hnotRetry : r.status ≠ .retryWait := by
      intro heq
      rw [heq] at hfinal
      exact hfinal
    rw [hrow, hphase]
    simp [storeStep, afterLoading, hnotRetry]
  refine answers_of_store hstore (answers_of_ended ?_ (Or.inl ⟨r, Function.update_self ..⟩))
  simp only [System.setPhase, Function.update_self]
  exact ⟨rfl, hrequest⟩

/-- A call compares its request with the stored one. -/
theorem answers_comparing (hfinal : r.status.Final) (hrow : s.row = some r)
    (hstored : ∃ stored : DeliverCall, r.requestPayload = stored.request sha256Hex)
    {a : WorkflowAlertAttempt} (hphase : s.phases second = .comparing a)
    (hbegin : call.begin sha256Hex = .inserting a) :
    Answers sha256Hex maxAttempts key r call second s := by
  have hstore : storeStep maxAttempts s.row (s.phases second) =
      some (some r, afterComparing a (some r)) := by
    rw [hrow, hphase]
    rfl
  have hnext : Answering sha256Hex r call (afterComparing a (some r)) := by
    rw [hrow, hphase] at hstore
    have hcomparing : Answering sha256Hex r call (.comparing a) := hbegin
    exact storeStep_answering hfinal hstored hcomparing hstore
  refine answers_of_store hstore ?_
  by_cases hsame : r.requestPayload.pyEq a.requestPayload = true
  · have hloading : afterComparing a (some r) = .loading := if_pos hsame
    rw [hloading] at hnext ⊢
    exact answers_loading hfinal rfl (Function.update_self ..) hnext
  · have hraised : afterComparing a (some r) = .raised reusedKey := if_neg hsame
    rw [hraised] at hnext ⊢
    refine answers_of_ended ?_ (Or.inr ⟨reusedKey, Function.update_self ..⟩)
    simp only [System.setPhase, Function.update_self]
    exact hnext

/-- Wherever the later call stands, it goes on to the answer that its request deserves. -/
theorem answers (hfinal : r.status.Final) (hconsistent : Consistent sha256Hex s)
    (hagain : Again sha256Hex r second sendsBefore s) (hcall : s.calls second = some call)
    (hcrashed : s.phases second ≠ .crashed) :
    Answers sha256Hex maxAttempts key r call second s := by
  have hstored := hconsistent.row r hagain.row
  have hanswering := hagain.phase call hcall
  -- what is left of a call that stands at each phase
  cases hphase : s.phases second with
  | idle =>
    have hok := hconsistent.phases second
    rw [hphase, hcall] at hok
    cases hok
  | crashed => exact absurd hphase hcrashed
  -- the later call does not come to these
  | resuming | reloading | sending | awaiting | storing =>
    rw [hphase] at hanswering
    exact hanswering.elim
  | returned a => exact answers_of_ended hanswering (Or.inl ⟨a, hphase⟩)
  | raised error => exact answers_of_ended hanswering (Or.inr ⟨error, hphase⟩)
  | loading =>
    rw [hphase] at hanswering
    exact answers_loading hfinal hagain.row hphase hanswering
  | comparing a =>
    rw [hphase] at hanswering
    exact answers_comparing hfinal hagain.row hstored hphase hanswering
  | inserting a =>
    rw [hphase] at hanswering
    have hstore : storeStep maxAttempts s.row (s.phases second) =
        some (some r, .comparing a) := by
      rw [hagain.row, hphase]
      rfl
    exact answers_of_store hstore
      (answers_comparing hfinal rfl hstored (Function.update_self ..) hanswering)

/-- An alert whose key has been delivered to a final status. Every later call for the key leaves
the attempt as it is and sends nothing; it returns the stored attempt when it renders the same
request, and raises when it renders another one. -/
theorem deliver_again (sha256Hex : Sha256Hex) (maxAttempts : ℕ) (key : String) (s s' : System)
    (earlier later : List Act) (first second : ℕ) (call₁ call₂ : DeliverCall)
    (delivered r : WorkflowAlertAttempt)
    (hearlier : Run (Next sha256Hex maxAttempts key) {} earlier s)
    (hfirst : s.calls first = some call₁) (hdelivered : s.phases first = .returned delivered)
    (hrow : s.row = some r) (hfinal : r.status.Final) (hidle : s.phases second = .idle)
    (hlater : Run (Next sha256Hex maxAttempts key) s later s')
    (hsecond : s'.calls second = some call₂) :
    s'.row = some r ∧ (∃ more, s'.sends = s.sends ++ more ∧ second ∉ more) ∧
      (s'.phases second ≠ .crashed →
        ∃ acts s'', (∀ a ∈ acts, a = .store second) ∧
          Run (Next sha256Hex maxAttempts key) s' acts s'' ∧
          (call₂.request sha256Hex = call₁.request sha256Hex →
            s''.phases second = .returned r) ∧
          (call₂.request sha256Hex ≠ call₁.request sha256Hex →
            ∃ error, s''.phases second = .raised error)) := by
  have hconsistent := run_consistent hearlier consistent_init
  -- the row holds the request of the first call, which passed the checks on its chat
  obtain ⟨called, hcalled, ⟨a, hbegin⟩, stored, hstored, hrequest⟩ :
      ∃ c ∈ s.calls first, (∃ a, c.begin sha256Hex = .inserting a) ∧
        Reserved sha256Hex s.row c := by
    have hphase := hconsistent.phases first
    rw [hdelivered] at hphase
    exact hphase
  rw [hfirst] at hcalled
  cases hcalled
  rw [hrow] at hstored
  cases hstored
  have hstart : Again sha256Hex r second s.sends s := by
    refine ⟨hrow, ⟨[], by simp, by simp⟩, ?_, fun _ => Or.inl hidle⟩
    intro call _
    rw [hidle]
    trivial
  have hagain := run_again hlater hfinal hconsistent hstart
  refine ⟨hagain.row, hagain.unsent, ?_⟩
  intro hcrashed
  obtain ⟨acts, s'', hacts, hrun, hanswer⟩ :=
    answers hfinal (run_consistent hlater hconsistent) hagain hsecond hcrashed
  rw [hrequest] at hanswer
  refine ⟨acts, s'', hacts, hrun, ?_, ?_⟩
  · intro hsame
    rcases hanswer with ⟨hreturned, -⟩ | ⟨-, hdiffer | hchat⟩
    · exact hreturned
    · exact absurd hsame.symm hdiffer
    · obtain ⟨b, hb⟩ := begin_of_chatId hbegin (request_target hsame.symm)
      exact absurd hb (hchat b)
  · intro hsame
    rcases hanswer with ⟨-, hequal⟩ | ⟨hraised, -⟩
    · exact absurd hequal.symm hsame
    · exact hraised

/-! ## Two measurements of one day -/

/-- `_build_alert` of the archive monitor at its warning level; `usedPercent` is the measured
share with two decimals. -/
def archiveWarning (workflowRunId : UUID) (reportDate : Day) (usedPercent : String)
    (warningPercent : ℕ) : WorkflowAlert where
  workflowRunId := workflowRunId
  reportDate := reportDate
  stage := .scheduler
  errorCode := "ARCHIVE_CAPACITY_WARNING"
  summary := "PostgreSQL 备份盘使用率为 " ++ usedPercent ++ "%，当前告警阈值为 " ++
    toString warningPercent ++ "%。"
  safeRetry := "先确认 /archive 仍挂载到独立物理盘并检查最近备份；" ++
    "按保留策略清理或扩容，禁止直接删除唯一可恢复备份。"

/-- The digests of the sample's scope and key. -/
def sampleSha256 : Sha256Hex := fun text =>
  if text = "1ab12dc7-4776-5839-8b40-f12552c8f5b9:2026-07-28:scheduler:" ++
      "ARCHIVE_CAPACITY_WARNING:feishu-alert:oc_alert" then
    "11dc37f33b10565488488cee8fe35f7d106a536c5ce20caa429e9eb22062fbc0"
  else "86a946ffbea7f010a777ec21a2d85ee70e56972a16a537a05e409b3fb541cef5"

def sampleKey : String := "11dc37f33b10565488488cee8fe35f7d106a536c5ce20caa429e9eb22062fbc0"

/-- The warning of 2026-07-28 at a measured share. -/
def sampleCall (usedPercent : String) : DeliverCall where
  alert := archiveWarning 0x1ab12dc7477658398b40f12552c8f5b9 20662 usedPercent 70
  chatId := "oc_alert"
  alertId := 1

/-- The first caller delivers a call and is answered by Feishu. -/
def sampleDelivery : List Act :=
  [.start 1 (sampleCall "71.00"), .store 1, .send 1, .reply 1 (.sent "om_1" .null), .store 1]

/-- The second caller, up to its comparison with the stored request. -/
def sampleAgain (usedPercent : String) : List Act :=
  [.start 2 (sampleCall usedPercent), .store 2, .store 2]

/-- A delivery, a call for its key, and what is seen of the two states. -/
def sampleRuns (usedPercent : String) (seen : System → System → Bool) : Option Bool :=
  (exec (next sampleSha256 3 sampleKey) {} sampleDelivery).bind fun s =>
    (exec (next sampleSha256 3 sampleKey) s (sampleAgain usedPercent)).map (seen s)

theorem sampleRuns_some {usedPercent : String} {seen : System → System → Bool}
    (h : sampleRuns usedPercent seen = some true) :
    ∃ s s', Run (Next sampleSha256 3 sampleKey) {} sampleDelivery s ∧
      Run (Next sampleSha256 3 sampleKey) s (sampleAgain usedPercent) s' ∧ seen s s' = true := by
  obtain ⟨s, hs, hrest⟩ := Option.bind_eq_some_iff.mp h
  obtain ⟨s', hs', hseen⟩ := Option.map_eq_some_iff.mp hrest
  exact ⟨s, s', run_of_exec hs, run_of_exec hs', hseen⟩

/-- The first delivery has returned with its attempt stored as succeeded, and the second caller
has not begun. -/
def Delivered (s : System) : Bool :=
  (match s.phases 1 with | .returned _ => true | _ => false) &&
    s.row.any (·.status = .succeeded) && (match s.phases 2 with | .idle => true | _ => false) &&
    (s.calls 1).isSome

theorem delivered_iff {s : System} (h : Delivered s = true) :
    (∃ a, s.phases 1 = .returned a) ∧ (∃ r, s.row = some r ∧ r.status = .succeeded) ∧
      s.phases 2 = .idle ∧ ∃ call, s.calls 1 = some call := by
  simp only [Delivered, Bool.and_eq_true] at h
  obtain ⟨⟨⟨hreturned, hrow⟩, hidle⟩, hcall⟩ := h
  refine ⟨?_, ?_, ?_, Option.isSome_iff_exists.mp hcall⟩
  · cases hp : s.phases 1 <;> rw [hp] at hreturned <;> simp_all
  · cases hr : s.row with
    | none => simp [hr] at hrow
    | some r => exact ⟨r, rfl, by simpa [hr] using hrow⟩
  · cases hp : s.phases 2 <;> rw [hp] at hidle <;> simp_all

/-- The same percentage measured twice on one day. -/
theorem deliver_again_same_measurement :
    ∃ s s', Run (Next sampleSha256 3 sampleKey) {} sampleDelivery s ∧
      Run (Next sampleSha256 3 sampleKey) s (sampleAgain "71.00") s' ∧
      ∃ r, s'.row = some r ∧ ∃ more, s'.sends = s.sends ++ more ∧ 2 ∉ more := by
  have hruns : sampleRuns "71.00" (fun s s' => Delivered s && (s'.calls 2).isSome) = some true := by
    decide +kernel
  obtain ⟨s, s', hfirst, hagain, hseen⟩ := sampleRuns_some hruns
  rw [Bool.and_eq_true] at hseen
  obtain ⟨⟨a, ha⟩, ⟨r, hr, hstatus⟩, hidle, call, hcall⟩ := delivered_iff hseen.1
  obtain ⟨called, hcalled⟩ := Option.isSome_iff_exists.mp hseen.2
  have hfinal : r.status.Final := by
    rw [hstatus]
    trivial
  have hlaw := deliver_again sampleSha256 3 sampleKey s s' _ _ 1 2 call called a r hfirst hcall ha
    hr hfinal hidle hagain hcalled
  exact ⟨s, s', hfirst, hagain, r, hlaw.1, hlaw.2.1⟩

/-- The second measurement of a day has the key of the first and another request: its delivery
raises. -/
theorem second_measurement_raises :
    (sampleCall "71.00").key sampleSha256 = (sampleCall "72.00").key sampleSha256 ∧
      ∃ s s', Run (Next sampleSha256 3 sampleKey) {} sampleDelivery s ∧
        Run (Next sampleSha256 3 sampleKey) s (sampleAgain "72.00") s' ∧
        (∃ a, s.phases 1 = .returned a) ∧ (∃ r, s.row = some r ∧ r.status = .succeeded) ∧
        s'.phases 2 = .raised reusedKey := by
  refine ⟨rfl, ?_⟩
  have hruns : sampleRuns "72.00" (fun s s' => Delivered s &&
      match s'.phases 2 with | .raised error => error = reusedKey | _ => false) = some true := by
    decide +kernel
  obtain ⟨s, s', hfirst, hagain, hseen⟩ := sampleRuns_some hruns
  rw [Bool.and_eq_true] at hseen
  obtain ⟨hreturned, hrow, -, -⟩ := delivered_iff hseen.1
  refine ⟨s, s', hfirst, hagain, hreturned, hrow, ?_⟩
  have hraised := hseen.2
  cases hp : s'.phases 2 <;> rw [hp] at hraised <;> simp_all

end MacroPlatform.Alerts
