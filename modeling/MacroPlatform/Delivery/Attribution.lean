import MacroPlatform.Delivery.AtMostOnce
import MacroPlatform.Delivery.RecoveryOnce

/-! # Whose attempt a recovery records

Every request id of one report over the delivery row that they share. The audit rows of the
request ids are systems of `Recovery`; a call of the retry port is a caller of `Service`, among
the scheduled deliveries, and what the port answers is what that caller came to. A reconciliation
reads the row as it is then, whoever has made its attempt.

* `Undisturbed`: nobody else makes an attempt between a request's inspection and its completion;
* `Operated`, `operationsNext_operated`: the invariant of such interleavings, one case for each
  step;
* `recorded_success_attributed`: their recorded successes are the requests' own;
* `foreign_attempt_recorded`: an interleaving off the condition that records another's success.
-/

namespace MacroPlatform.Delivery

open Transition

variable {Payload : Type}

/-- A request's call of the retry port: the caller that runs it over the row, and the status of
the delivery when it was called. -/
structure RetryPortCall where
  caller : ℕ
  calledOn : Option DeliveryStatus
deriving DecidableEq, Repr

/-- The delivery row with all its callers, the audit row and the callers of each request id, and
the calls of the retry port that the requests have made. -/
structure RecoveryOperations (Payload : Type) where
  delivery : System Payload := emptySystem
  requests : UUID → RecoverySystem Payload := fun _ => {}
  ports : UUID → Option RetryPortCall := fun _ => none

inductive OperationsAct (Payload : Type) where
  | start (requestId : UUID) (caller : ℕ) (confirmedNotDelivered : Bool) (actionId : UUID)
  | store (requestId : UUID) (caller : ℕ)
  | inspect (requestId : UUID) (caller : ℕ) (report : Option (StoredReport Payload))
      (chatId : String)
  | callPort (requestId : UUID) (caller portCaller : ℕ) (report : Option (StoredReport Payload))
      (chatId : String)
  | deliver (act : Act Payload)
  | reply (requestId : UUID) (caller : ℕ)
  | fail (requestId : UUID) (caller : ℕ) (name : String)
  | crash (requestId : UUID) (caller : ℕ)

/-- `ReportDeliveryService.inspect`. -/
def inspectDelivery (report : Option (StoredReport Payload)) (reportId chatId : String)
    (row : DeliveryRow Payload) : PortAnswer Payload :=
  match report with
  | none => .manualError "REPORT_NOT_FOUND" ("report does not exist: " ++ reportId)
  | some report =>
      if report.lifecycleStatus ≠ "validated" ∨ report.publicationDecision ≠ "published" then
        .manualError "REPORT_NOT_PUBLISHABLE"
          "only validated published reports may be inspected for delivery recovery"
      else if pyStrip chatId = "" then
        .manualError "DELIVERY_TARGET_NOT_CONFIGURED" "Feishu chat ID is required"
      else .result ⟨false, row⟩

/-- What a call of `ReportDeliveryService.retry` came back with. -/
def portAnswer : Phase Payload → Option (PortAnswer Payload)
  | .returned result => some (.result result)
  | .raised (.manualRetry code message) => some (.manualError code message)
  | .raised (.reportDelivery _) => some (.otherError "ReportDeliveryError")
  | .raised (.value _) => some (.otherError "ValueError")
  | _ => none

/-- A step of the callers of one request id. -/
def RecoveryOperations.recover (s : RecoveryOperations Payload) (requestId : UUID)
    (act : RecoveryAct Payload) : Option (RecoveryOperations Payload) :=
  (recoveryNext (s.requests requestId) act).map fun r =>
    { s with requests := Function.update s.requests requestId r }

/-- The row's callers when a caller of a request stops: the call of the port that it waits for
stops with it. -/
def RecoveryOperations.stopped (s : RecoveryOperations Payload) (requestId : UUID) (c : ℕ) :
    System Payload :=
  match (s.requests requestId).phases c, s.ports requestId with
  | .awaiting .., some port => s.delivery.setCaller port.caller .crashed
  | _, _ => s.delivery

/-- An exception of its own out of the port function that the caller is in. -/
def portFailure (phase : RecoveryPhase Payload) (c : ℕ) (name : String) : RecoveryAct Payload :=
  match phase with
  | .awaiting .. => .reply c (.otherError name)
  | _ => .inspect c (.otherError name)

/-- One step of the recovery requests of a report and of its deliveries. -/
def operationsNext [DecidableEq Payload] (svc : Service) (reportId : String)
    (s : RecoveryOperations Payload) : OperationsAct Payload → Option (RecoveryOperations Payload)
  | .start requestId c confirmed actionId =>
      s.recover requestId (.start c ⟨reportId, confirmed, actionId⟩)
  | .store requestId c => s.recover requestId (.store c)
  | .inspect requestId c report chatId =>
      s.recover requestId (.inspect c (inspectDelivery report reportId chatId s.delivery.row))
  | .callPort requestId c d report chatId =>
      ((s.requests requestId).calls c).bind fun call =>
        (recoveryNext (s.requests requestId) (.callPort c)).bind fun r =>
          (next svc s.delivery
              (.start d (.retry report reportId chatId call.confirmedNotDelivered))).map
            fun delivery =>
              { delivery := delivery
                requests := Function.update s.requests requestId r
                ports := Function.update s.ports requestId
                  (some ⟨d, s.delivery.row.map (·.status)⟩) }
  | .deliver act => (next svc s.delivery act).map fun delivery => { s with delivery := delivery }
  | .reply requestId c =>
      ((s.ports requestId).bind fun port => portAnswer (s.delivery.callers port.caller)).bind
        fun answer => s.recover requestId (.reply c answer)
  | .fail requestId c name =>
      (s.recover requestId (portFailure ((s.requests requestId).phases c) c name)).map fun t =>
        { t with delivery := s.stopped requestId c }
  | .crash requestId c =>
      (s.recover requestId (.crash c)).map fun t =>
        { t with delivery := s.stopped requestId c }

def OperationsNext [DecidableEq Payload] (svc : Service) (reportId : String) :
    Action (RecoveryOperations Payload) (OperationsAct Payload) :=
  ofNext (operationsNext svc reportId)

/-! ## Whose attempt it is -/

/-- The delivery has succeeded. -/
def System.Succeeded (s : System Payload) : Prop :=
  s.row.map (·.status) = some .succeeded

/-- The caller that made the last attempt. -/
def System.lastMaker (s : System Payload) : Option ℕ :=
  s.grants.getLast?.map (·.caller)

/-- The call of the port was made on a delivery that had succeeded, or has made the attempt that
succeeded. -/
def RetryPortCall.Settled (port : RetryPortCall) (s : System Payload) : Prop :=
  port.calledOn = some .succeeded ∨ s.Succeeded ∧ s.lastMaker = some port.caller

/-- The delivery had succeeded when the request called the retry port, or the attempt that
succeeded was made by that call. -/
def Attributed (s : RecoveryOperations Payload) (requestId : UUID) : Prop :=
  ∃ port, s.ports requestId = some port ∧ port.Settled s.delivery

/-- The request stands between an inspection that found an attempt and its completion: a caller is
about to reserve what it has inspected, or the action is pending. -/
def RecoverySystem.Open (r : RecoverySystem Payload) : Prop :=
  (r.row = none ∧ ∃ c action attempt, r.phases c = .reserving action attempt ∧
    action.priorAttemptNo ≠ none) ∨
  ∃ a, r.row = some a ∧ a.status = .pending ∧ a.priorAttemptNo ≠ none

/-- The caller's transaction makes an attempt. -/
def System.Attempts [DecidableEq Payload] (svc : Service) (s : System Payload) (d : ℕ) : Prop :=
  ∃ t, Next svc s (.store d) t ∧ t.grants ≠ s.grants

/-- The caller's transaction stores the success of an attempt. -/
def System.Succeeds [DecidableEq Payload] (svc : Service) (s : System Payload) (d : ℕ) : Prop :=
  ∃ t, Next svc s (.store d) t ∧ t.Succeeded ∧ ¬ s.Succeeded

/-- The condition on the interleaving: while a request stands between its inspection and its
completion, no attempt is made but by its own call of the retry port; and no success is stored
between a call of the port and the port's read of the row. -/
def Undisturbed [DecidableEq Payload] (svc : Service) (s : RecoveryOperations Payload) :
    OperationsAct Payload → Prop
  | .deliver (.store d) =>
      (s.delivery.Attempts svc d → ∀ requestId, (s.requests requestId).Open →
        ∃ port, s.ports requestId = some port ∧ port.caller = d) ∧
      (s.delivery.Succeeds svc d → ∀ requestId port, s.ports requestId = some port →
        ∀ confirmed, s.delivery.callers port.caller ≠ .inspecting confirmed)
  | _ => True

/-! ## The attempt of a call of the port -/

/-- The stored attempt is the one that the caller of the port has made. -/
structure RetryPortCall.Holding (port : RetryPortCall) (s : System Payload)
    (attempt : DeliveryAttempt Payload) (maxAttemptNo : ℕ) : Prop where
  single : maxAttemptNo = attempt.attemptNo
  numbered : 1 ≤ attempt.attemptNo
  maker : s.lastMaker = some port.caller
  stored : ∃ r, s.row = some r ∧ r.deliveryId = attempt.deliveryId ∧
    r.attemptNo = attempt.attemptNo

/-- What is known of the caller that runs a call of the port, by where it stands. -/
def RetryPortCall.CallerOk (port : RetryPortCall) (s : System Payload) : Phase Payload → Prop
  | .sending attempt m | .awaiting attempt m _ | .storing attempt m _ _ =>
      port.Holding s attempt m
  | .returned result => result.statusText = "succeeded" → port.Settled s
  | .inspecting _ => s.Succeeded → port.calledOn = some .succeeded
  | .authorizing _ _ | .raised _ | .crashed => True
  | _ => False

/-- A delivery that has succeeded is never written again, and gets no further attempt. -/
theorem step_succeeded {svc : Service} {s s' : System Payload} {a : Act Payload}
    (hstep : Step svc s a s') (h : s.Succeeded) : s'.row = s.row ∧ s'.grants = s.grants := by
  have stored : ∀ r, s.row = some r → r.status = .succeeded := by
    intro r hr
    unfold System.Succeeded at h
    rw [hr] at h
    simpa using h
  cases hstep with
  -- these write neither the row nor a grant
  | start | crash | accept | send | reply | stay => exact ⟨rfl, rfl⟩
  -- the writes need a row that is free, waiting, failed or pending
  | insert _ hrow =>
    unfold System.Succeeded at h
    rw [hrow] at h
    cases h
  | resume _ hrow _ hstatus =>
    rw [stored _ hrow] at hstatus
    rcases hstatus with hs | hs <;> cases hs
  | authorize _ hrow _ _ hstatus =>
    rw [stored _ hrow] at hstatus
    rcases hstatus with hs | hs | ⟨-, hs⟩ <;> cases hs
  | settle _ hrow _ _ hpending =>
    rw [stored _ hrow] at hpending
    cases hpending

/-- While a caller holds the row, the steps of the others leave the row and the grants. -/
theorem step_holding {svc : Service} {s s' : System Payload} {a : Act Payload} {d : ℕ}
    (hstep : Step svc s a s') (hheld : Held s) (hd : (s.callers d).Holds)
    (hother : (s'.callers d).Holds) : s'.row = s.row ∧ s'.grants = s.grants := by
  obtain ⟨r, hr, hpending⟩ := hheld.pending d hd
  cases hstep with
  | start | crash | accept | send | reply | stay => exact ⟨rfl, rfl⟩
  | insert _ hrow =>
    rw [hrow] at hr
    cases hr
  | resume _ hrow _ hstatus =>
    rw [hrow] at hr
    cases hr
    rw [hpending] at hstatus
    rcases hstatus with hs | hs <;> cases hs
  | authorize _ hrow _ _ hstatus =>
    rw [hrow] at hr
    cases hr
    rw [hpending] at hstatus
    rcases hstatus with hs | hs | ⟨-, hs⟩ <;> cases hs
  | @settle c i attempt r' m outcome hc hrow =>
    -- the caller that stores an outcome is the holder, and holds the row no longer
    have hsame : d = c := hheld.unique d c hd (by rw [hc]; trivial)
    subst hsame
    simp only [Function.update_self] at hother
    exact absurd hother (afterStoring_not_holds _ _ _)

/-- A call that has settled stays so. -/
theorem RetryPortCall.Settled.step {svc : Service} {s s' : System Payload} {a : Act Payload}
    {port : RetryPortCall} (hstep : Step svc s a s') (h : port.Settled s) : port.Settled s' := by
  rcases h with hfound | ⟨hsucceeded, hmaker⟩
  · exact Or.inl hfound
  · obtain ⟨hrow, hgrants⟩ := step_succeeded hstep hsucceeded
    refine Or.inr ⟨?_, ?_⟩
    · unfold System.Succeeded
      rw [hrow]
      exact hsucceeded
    · unfold System.lastMaker
      rw [hgrants]
      exact hmaker

theorem RetryPortCall.Holding.same {s s' : System Payload} {port : RetryPortCall}
    {attempt : DeliveryAttempt Payload} {m : ℕ} (h : port.Holding s attempt m)
    (hsame : s'.row = s.row ∧ s'.grants = s.grants) : port.Holding s' attempt m := by
  refine ⟨h.single, h.numbered, ?_, ?_⟩
  · unfold System.lastMaker
    rw [hsame.2]
    exact h.maker
  · rw [hsame.1]
    exact h.stored

/-- A step makes an attempt of its caller, or leaves the attempts and their number. -/
theorem step_made {svc : Service} {s s' : System Payload} {a : Act Payload}
    (hstep : Step svc s a s') :
    (s'.grants = s.grants ∧ s'.row.map (·.attemptNo) = s.row.map (·.attemptNo)) ∨
      ∃ c, a = .store c ∧ s'.grants ≠ s.grants ∧ s'.lastMaker = some c := by
  cases hstep with
  | start | crash | accept | send | reply | stay => exact Or.inl ⟨rfl, rfl⟩
  | @insert c | @resume c | @authorize c =>
    exact Or.inr ⟨c, rfl, by simp [System.granted], by simp [System.lastMaker, System.granted]⟩
  | settle _ hrow => exact Or.inl ⟨rfl, by simp [hrow, DeliveryAttempt.settled]⟩

/-- A delivery succeeds by a transaction. -/
theorem store_of_succeeds {svc : Service} {s s' : System Payload} {a : Act Payload}
    (hstep : Step svc s a s') (h : s'.Succeeded) (hnot : ¬ s.Succeeded) :
    ∃ c i attempt maxAttemptNo outcome, a = .store c ∧
      s.callers c = .storing attempt maxAttemptNo i outcome := by
  cases hstep with
  | start | crash | accept | send | reply | stay => exact absurd h hnot
  | insert | resume | authorize => cases h
  | settle hphase => exact ⟨_, _, _, _, _, rfl, hphase⟩

/-- The caller stays where it is while another one, or Feishu, takes a step. -/
theorem RetryPortCall.CallerOk.other {svc : Service} {s s' : System Payload} {a : Act Payload}
    {port : RetryPortCall} (hstep : Step svc s a s') (hheld : Held s)
    (hquiet : s'.Succeeded → s.Succeeded ∨ ∀ confirmed,
      s.callers port.caller ≠ .inspecting confirmed)
    (hsame : s'.callers port.caller = s.callers port.caller)
    (h : port.CallerOk s (s.callers port.caller)) :
    port.CallerOk s' (s'.callers port.caller) := by
  -- what the caller of the port knows is about the row and the grants, which stay
  have hkept := step_holding (d := port.caller) hstep hheld
  rw [hsame] at hkept ⊢
  cases hphase : s.callers port.caller with
  -- while it holds the row, no other caller writes it
  | sending | awaiting | storing =>
    rw [hphase] at h hkept
    exact RetryPortCall.Holding.same h (hkept trivial trivial)
  | returned result =>
    rw [hphase] at h
    exact fun hresult => (h hresult).step hstep
  -- it is about to read the row: a success that is new would be read
  | inspecting confirmed =>
    rw [hphase] at h
    intro hsucceeded
    rcases hquiet hsucceeded with hbefore | hnone
    · exact h hbefore
    · exact absurd hphase (hnone confirmed)
  -- nothing is known of it, or it has come past its call
  | authorizing | raised | crashed => trivial
  | idle | reserving | loading | resuming | reloading =>
    rw [hphase] at h
    exact h.elim

theorem caller_of_moved {callers : ℕ → Phase Payload} {c d : ℕ} {p : Phase Payload}
    (h : Function.update callers c p d ≠ callers d) : c = d := by
  by_contra hne
  exact h (Function.update_of_ne (Ne.symm hne) _ _)

/-- What a call of the port does when it reads the attempt. -/
theorem callerOk_afterInspecting {svc : Service} {s s' : System Payload} {port : RetryPortCall}
    (confirmed : Bool) (hfound : s.Succeeded → port.calledOn = some .succeeded) :
    port.CallerOk s' (afterInspecting svc confirmed s.row) := by
  cases hrow : s.row with
  | none => trivial
  | some existing =>
    simp only [afterInspecting]
    by_cases hsucceeded : existing.status = .succeeded
    · rw [if_pos hsucceeded]
      refine fun _ => Or.inl (hfound ?_)
      unfold System.Succeeded
      rw [hrow, Option.map_some, hsucceeded]
    · rw [if_neg hsucceeded]
      split_ifs <;> trivial

/-- The send of a manual retry is its last: no outcome of it is stored as `retry_wait`. -/
theorem nextStatus_single {attempt : DeliveryAttempt Payload} {m : ℕ} (h : m = attempt.attemptNo)
    (outcome : SendOutcome) : nextStatus attempt m outcome ≠ .retryWait := by
  cases outcome with
  | sent =>
    intro hsame
    cases hsame
  | failed errorCode retryable outcomeUnknown =>
    have hlast : ¬ attempt.attemptNo < m := by omega
    simp only [nextStatus, hlast, and_false, if_false]
    split_ifs <;> (intro hsame; cases hsame)

/-- A step of the caller that runs a call of the port. -/
theorem RetryPortCall.CallerOk.step {svc : Service} {s s' : System Payload} {a : Act Payload}
    {port : RetryPortCall} (hstep : Step svc s a s') (hheld : Held s)
    (hquiet : s'.Succeeded → s.Succeeded ∨ ∀ confirmed,
      s.callers port.caller ≠ .inspecting confirmed)
    (h : port.CallerOk s (s.callers port.caller)) :
    port.CallerOk s' (s'.callers port.caller) := by
  by_cases hsame : s'.callers port.caller = s.callers port.caller
  · exact h.other hstep hheld hquiet hsame
  cases hstep with
  | accept => exact absurd rfl hsame
  | start hidle =>
    have hc := caller_of_moved hsame
    subst hc
    rw [hidle] at h
    exact h.elim
  | crash =>
    have hc := caller_of_moved hsame
    subst hc
    simp only [System.setCaller, Function.update_self]
    trivial
  | send hphase =>
    have hc := caller_of_moved hsame
    subst hc
    rw [hphase] at h
    simp only [Function.update_self]
    exact RetryPortCall.Holding.same h ⟨rfl, rfl⟩
  | reply hphase =>
    have hc := caller_of_moved hsame
    subst hc
    rw [hphase] at h
    simp only [Function.update_self]
    exact RetryPortCall.Holding.same h ⟨rfl, rfl⟩
  | insert hphase | resume hphase =>
    have hc := caller_of_moved hsame
    subst hc
    rw [hphase] at h
    exact h.elim
  | @authorize c existing r confirmed hphase hrow hid hno =>
    have hc := caller_of_moved hsame
    subst hc
    rw [granted_callers_self]
    refine ⟨rfl, Nat.le_add_left 1 _, ?_, r.resumed, rfl, hid, ?_⟩
    · simp [System.lastMaker, System.granted]
    · simp [DeliveryAttempt.resumed, hno]
  | @settle c i attempt r m outcome hphase hrow hid hno =>
    have hc := caller_of_moved hsame
    subst hc
    rw [hphase] at h
    have hsingle : nextStatus attempt m outcome ≠ .retryWait := nextStatus_single h.single outcome
    have hafter : afterStoring attempt m outcome =
        .returned ⟨false, some (attempt.settled m outcome)⟩ := if_neg hsingle
    simp only [Function.update_self, hafter]
    intro hresult
    -- the status that the call returns is the one that it has stored
    have hstored : (r.settled m outcome).status = (attempt.settled m outcome).status := by
      cases outcome <;> simp [DeliveryAttempt.settled, nextStatus, hno]
    refine Or.inr ⟨?_, h.maker⟩
    have hvalue : (attempt.settled m outcome).status.value = "succeeded" := by
      simpa [ReportDeliveryResult.statusText] using hresult
    have hsucceeded : (attempt.settled m outcome).status = .succeeded := by
      cases hstatus : (attempt.settled m outcome).status <;> rw [hstatus] at hvalue <;>
        simp [DeliveryStatus.value] at hvalue ⊢
    unfold System.Succeeded
    rw [Option.map_some, hstored, hsucceeded]
  | stay hstay =>
    have hc := caller_of_moved hsame
    subst hc
    simp only [System.setCaller, Function.update_self]
    generalize hphase : s.callers port.caller = phase at hstay h
    cases hstay with
    | conflict | reused | loaded | notResumed | reloaded => exact h.elim
    | inspected => exact callerOk_afterInspecting _ h
    | notAuthorized => trivial
    | unnumbered hzero =>
      have hone := h.numbered
      omega
    | notStored hmiss =>
      obtain ⟨r, hr, hid, hno⟩ := h.stored
      obtain ⟨r', hr', hpending⟩ := hheld.pending port.caller (by rw [hphase]; trivial)
      rw [hr] at hr'
      cases hr'
      exact absurd ⟨hid, hno, hpending⟩ (hmiss r hr)

/-! ## Where a success is recorded from -/

/-- The answer with which a caller comes to complete its action as succeeded. -/
def RecoverySystem.Succeeds (s : RecoverySystem Payload) : RecoveryAct Payload → Prop
  | .inspect c (.result inspection) =>
      ∃ action attempt, s.phases c = .reconciling action ∧
        inspection.deliveryAttempt = some attempt ∧ attempt.status = .succeeded ∧
          action.priorAttemptNo.getD 0 < attempt.attemptNo
  | .reply _ (.result delivery) => delivery.statusText = "succeeded"
  | _ => False

/-- The action is not completed. -/
def RecoverySystem.Undecided (s : RecoverySystem Payload) : Prop :=
  ∀ a, s.row = some a → a.status = .pending

/-- A success that is recorded is accounted for, and so is one that is about to be while the
action is not completed. -/
structure Accounted (P : Prop) (s : RecoverySystem Payload) : Prop where
  row : ∀ a, s.row = some a → a.status = .succeeded → P
  completing : s.Undecided → ∀ c completion replayed,
    s.phases c = .completing completion replayed → completion.status = .succeeded → P

/-- A completed action stays completed. -/
theorem undecided_back {s s' : RecoverySystem Payload} {act : RecoveryAct Payload}
    (hstep : recoveryNext s act = some s') (haudited : Audited s) (h : s'.Undecided) :
    s.Undecided := by
  intro a ha
  by_contra hcompleted
  obtain ⟨a', ha', -, -, hsame⟩ := (move_rowKept (recoveryNext_move hstep) haudited).row a ha
  rw [hsame hcompleted] at ha'
  exact hcompleted (h a ha')

/-- One caller moves on, without a success that is not accounted for. -/
theorem Accounted.update {P : Prop} {s s' : RecoverySystem Payload} {c : ℕ}
    {p : RecoveryPhase Payload} (h : Accounted P s)
    (hphases : s'.phases = Function.update s.phases c p) (hback : s'.Undecided → s.Undecided)
    (hp : s'.Undecided → ∀ completion replayed, p = .completing completion replayed →
      completion.status = .succeeded → P)
    (hrow : ∀ a, s'.row = some a → a.status = .succeeded → P) : Accounted P s' := by
  refine ⟨hrow, ?_⟩
  intro hundecided d completion replayed hd hsucceeded
  rw [hphases] at hd
  by_cases hsame : d = c
  · subst hsame
    rw [Function.update_self] at hd
    exact hp hundecided completion replayed hd hsucceeded
  · rw [Function.update_of_ne hsame] at hd
    exact h.completing (hback hundecided) d completion replayed hd hsucceeded

theorem afterFound_not_completing {call : RecoveryCall} {action : DeliveryOperatorAction}
    {completion : Completion} {replayed : Bool} :
    (afterFound call action : RecoveryPhase Payload) ≠ .completing completion replayed := by
  unfold afterFound
  split_ifs <;> (intro hsame; cases hsame)

theorem afterReservation_accounted {P : Prop} {action : DeliveryOperatorAction}
    {attempt : Option (DeliveryAttempt Payload)} {completion : Completion} {replayed : Bool}
    (h : afterReservation action attempt = .completing completion replayed)
    (hsucceeded : completion.status = .succeeded) : P := by
  cases attempt with
  | none =>
    cases h
    cases hsucceeded
  | some attempt => cases h

theorem afterCompletion_not_completing {replayed replayed' : Bool} {actionId : UUID}
    {row : ActionRow} {completion : Completion} :
    (afterCompletion replayed actionId row : RecoveryPhase Payload) ≠
      .completing completion replayed' := by
  cases row with
  | none =>
    intro hsame
    cases hsame
  | some action =>
    simp only [afterCompletion]
    split_ifs <;> (intro hsame; cases hsame)

theorem afterInspection_not_completing {call : RecoveryCall} {answer : PortAnswer Payload}
    {completion : Completion} {replayed : Bool} :
    afterInspection call answer ≠ .completing completion replayed := by
  cases answer with
  | manualError | otherError =>
    intro hsame
    cases hsame
  | result inspection =>
    simp only [afterInspection]
    split_ifs <;> (intro hsame; cases hsame)

/-- A transaction records a success only from a caller that was about to. -/
theorem recoveryStep_accounted {P : Prop} {call : RecoveryCall} {row row' : ActionRow}
    {p p' : RecoveryPhase Payload} (h : recoveryStep call row p = some (row', p'))
    (hrow : ∀ a, row = some a → a.status = .succeeded → P)
    (hfresh : ∀ action attempt, p = .reserving action attempt → action.status = .pending)
    (hp : (∀ a, row = some a → a.status = .pending) → ∀ completion replayed,
      p = .completing completion replayed → completion.status = .succeeded → P) :
    (∀ a, row' = some a → a.status = .succeeded → P) ∧
      ∀ completion replayed, p' = .completing completion replayed →
        completion.status = .succeeded → P := by
  cases p with
  | idle | inspecting | reconciling | calling | awaiting | returned | raised | crashed =>
    simp [recoveryStep] at h
  | loading =>
    simp only [recoveryStep, Option.some.injEq, Prod.mk.injEq] at h
    obtain ⟨rfl, rfl⟩ := h
    refine ⟨hrow, ?_⟩
    intro completion replayed hp'
    cases row with
    | none => cases hp'
    | some action => exact absurd hp' afterFound_not_completing
  | reloading =>
    simp only [recoveryStep, Option.some.injEq, Prod.mk.injEq] at h
    obtain ⟨rfl, rfl⟩ := h
    refine ⟨hrow, ?_⟩
    intro completion replayed hp'
    cases row with
    | none => cases hp'
    | some action => exact absurd hp' afterFound_not_completing
  | reserving action attempt =>
    cases row with
    | none =>
      simp only [recoveryStep, reserveAction, if_true, Option.some.injEq, Prod.mk.injEq] at h
      obtain ⟨rfl, rfl⟩ := h
      refine ⟨?_, fun completion replayed hp' => afterReservation_accounted hp'⟩
      intro a ha hsucceeded
      cases ha
      rw [hfresh action attempt rfl] at hsucceeded
      cases hsucceeded
    | some existing =>
      simp only [recoveryStep, reserveAction, Bool.false_eq_true, if_false, Option.some.injEq,
        Prod.mk.injEq] at h
      obtain ⟨rfl, rfl⟩ := h
      refine ⟨hrow, ?_⟩
      intro completion replayed hp'
      cases hp'
  | completing completion replayed =>
    rcases completeAction_cases row completion with ⟨r, hr, hguard, heq⟩ | heq <;>
      simp only [recoveryStep, heq, Option.some.injEq, Prod.mk.injEq] at h <;>
      obtain ⟨rfl, rfl⟩ := h
    · refine ⟨?_, fun _ _ hp' => absurd hp' afterCompletion_not_completing⟩
      intro a ha hsucceeded
      cases ha
      refine hp ?_ completion replayed rfl hsucceeded
      -- the completion applied to a pending action
      intro b hb
      rw [hr] at hb
      cases hb
      exact hguard.2
    · exact ⟨hrow, fun _ _ hp' => absurd hp' afterCompletion_not_completing⟩

/-- A reconciliation comes to a success from a later attempt that succeeded. -/
theorem afterReconciling_succeeds {action : DeliveryOperatorAction}
    {answer : PortAnswer Payload} {completion : Completion} {replayed : Bool}
    (h : afterReconciling action answer = .completing completion replayed)
    (hsucceeded : completion.status = .succeeded) :
    ∃ inspection attempt, answer = .result inspection ∧
      inspection.deliveryAttempt = some attempt ∧ attempt.status = .succeeded ∧
        action.priorAttemptNo.getD 0 < attempt.attemptNo := by
  -- only an inspection with an attempt tells of a success
  cases answer with
  | manualError | otherError => cases h
  | result inspection =>
    cases hattempt : inspection.deliveryAttempt with
    -- a row without an attempt is no success
    | none =>
      simp only [afterReconciling, hattempt] at h
      cases h
    | some attempt =>
      simp only [afterReconciling, hattempt] at h
      -- an attempt that is not later, or is pending, leaves the action as it is
      split_ifs at h with hstays
      simp only [RecoveryPhase.completing.injEq] at h
      obtain ⟨rfl, -⟩ := h
      refine ⟨inspection, attempt, rfl, hattempt, ?_, by omega⟩
      by_contra hother
      simp [reconciledCompletion, hother] at hsucceeded

/-- A caller comes to a success from an answer that tells of one. -/
theorem completionOf_succeeds {action : DeliveryOperatorAction}
    {attempt : DeliveryAttempt Payload} {answer : PortAnswer Payload}
    (h : (completionOf action attempt answer).status = .succeeded) :
    ∃ delivery, answer = .result delivery ∧ delivery.statusText = "succeeded" := by
  cases answer with
  | manualError | otherError => cases h
  | result delivery =>
    refine ⟨delivery, rfl, ?_⟩
    by_contra hother
    simp [completionOf, hother] at h

/-- A step of the callers of a request keeps its successes accounted for, unless an answer tells
of one that is not. -/
theorem Accounted.next {P : Prop} {s s' : RecoverySystem Payload} {act : RecoveryAct Payload}
    (hstep : recoveryNext s act = some s') (h : Accounted P s) (haudited : Audited s)
    (hsucceeds : s.Undecided → s.Succeeds act → P) : Accounted P s' := by
  have hback : s'.Undecided → s.Undecided := undecided_back hstep haudited
  cases act with
  -- only an answer can tell of a success
  | start c call =>
    cases hp : s.phases c <;>
      simp only [recoveryNext, hp, Option.some.injEq, reduceCtorEq] at hstep
    subst hstep
    refine h.update rfl hback ?_ h.row
    intro _ completion replayed hphase
    cases hphase
  | crash c =>
    cases hstep
    refine h.update rfl hback ?_ h.row
    intro _ completion replayed hphase
    cases hphase
  | callPort c =>
    cases hp : s.phases c <;>
      simp only [recoveryNext, hp, Option.some.injEq, reduceCtorEq] at hstep
    subst hstep
    refine h.update rfl hback ?_ h.row
    intro _ completion replayed hphase
    cases hphase
  -- a transaction stores what its caller was about to
  | store c =>
    simp only [recoveryNext] at hstep
    obtain ⟨call, -, hrest⟩ := Option.bind_eq_some_iff.mp hstep
    obtain ⟨⟨row, p⟩, hrow, rfl⟩ := Option.map_eq_some_iff.mp hrest
    have hfresh : ∀ action attempt, s.phases c = .reserving action attempt →
        action.status = .pending := by
      intro action attempt hphase
      have hcaller := haudited.callers c
      rw [hphase] at hcaller
      exact hcaller
    obtain ⟨hrow', hp'⟩ := recoveryStep_accounted hrow h.row hfresh
      fun hundecided => h.completing hundecided c
    exact h.update rfl hback (fun _ => hp') hrow'
  | inspect c answer =>
    simp only [recoveryNext] at hstep
    obtain ⟨call, -, hrest⟩ := Option.bind_eq_some_iff.mp hstep
    -- the first inspection reserves, a second one reconciles
    cases hp : s.phases c <;> simp only [hp, Option.some.injEq, reduceCtorEq] at hrest
    · subst hrest
      exact h.update rfl hback (fun _ _ _ hp' => absurd hp' afterInspection_not_completing) h.row
    · subst hrest
      refine h.update rfl hback ?_ h.row
      intro hundecided completion replayed hp' hsucceeded
      obtain ⟨inspection, attempt, rfl, hattempt, hstatus, hlater⟩ :=
        afterReconciling_succeeds hp' hsucceeded
      exact hsucceeds (hback hundecided) ⟨_, attempt, hp, hattempt, hstatus, hlater⟩
  -- the answer of the port
  | reply c answer =>
    cases hp : s.phases c <;>
      simp only [recoveryNext, hp, Option.some.injEq, reduceCtorEq] at hstep
    subst hstep
    refine h.update rfl hback ?_ h.row
    intro hundecided completion replayed hp' hsucceeded
    cases hp'
    obtain ⟨delivery, rfl, hdelivery⟩ := completionOf_succeeds hsucceeded
    exact hsucceeds (hback hundecided) hdelivery

theorem Accounted.mono {P Q : Prop} {s : RecoverySystem Payload} (hPQ : P → Q)
    (h : Accounted P s) : Accounted Q s :=
  ⟨fun a ha hs => hPQ (h.row a ha hs),
    fun hundecided c completion replayed hc hs =>
      hPQ (h.completing hundecided c completion replayed hc hs)⟩

/-- Only the call of the port is counted. -/
theorem recoveryNext_portCalls {s s' : RecoverySystem Payload} {act : RecoveryAct Payload}
    (h : recoveryNext s act = some s') (hact : ∀ c, act ≠ .callPort c) :
    s'.portCalls = s.portCalls := by
  cases act with
  | callPort c => exact absurd rfl (hact c)
  -- no other step calls the port
  | crash c =>
    cases h
    rfl
  | start c =>
    cases hp : s.phases c <;> simp only [recoveryNext, hp, Option.some.injEq, reduceCtorEq] at h
    subst h
    rfl
  | reply c =>
    cases hp : s.phases c <;> simp only [recoveryNext, hp, Option.some.injEq, reduceCtorEq] at h
    subst h
    rfl
  | store c =>
    simp only [recoveryNext] at h
    obtain ⟨call, -, hrest⟩ := Option.bind_eq_some_iff.mp h
    obtain ⟨⟨row, p⟩, -, rfl⟩ := Option.map_eq_some_iff.mp hrest
    rfl
  | inspect c answer =>
    simp only [recoveryNext] at h
    obtain ⟨call, -, hrest⟩ := Option.bind_eq_some_iff.mp h
    cases hp : s.phases c <;> simp only [hp, Option.some.injEq, reduceCtorEq] at hrest <;>
      subst hrest <;> rfl

/-! ## The attempt that a request has inspected -/

/-- The attempt that a request has inspected is still the last one, or the last one was made by its
own call of the port; a caller that reconciles does so with the number that the action holds. -/
structure Watched (delivery : System Payload) (port : Option RetryPortCall)
    (r : RecoverySystem Payload) : Prop where
  reserving : r.row = none → ∀ c action attempt, r.phases c = .reserving action attempt →
    ∀ no, action.priorAttemptNo = some no → delivery.row.map (·.attemptNo) = some no
  pending : ∀ a, r.row = some a → a.status = .pending → ∀ no, a.priorAttemptNo = some no →
    delivery.row.map (·.attemptNo) = some no ∨
      ∃ p, port = some p ∧ delivery.lastMaker = some p.caller
  reconciling : ∀ c action, r.phases c = .reconciling action →
    ∃ a no, r.row = some a ∧ a.priorAttemptNo = some no ∧ action.priorAttemptNo = some no

/-- One caller moves on, the row of the request as it was. -/
theorem Watched.update {delivery : System Payload} {port : Option RetryPortCall}
    {r r' : RecoverySystem Payload} {c : ℕ} {p : RecoveryPhase Payload}
    (h : Watched delivery port r) (hphases : r'.phases = Function.update r.phases c p)
    (hrow : r'.row = r.row)
    (hreserving : r.row = none → ∀ action attempt, p = .reserving action attempt →
      ∀ no, action.priorAttemptNo = some no → delivery.row.map (·.attemptNo) = some no)
    (hreconciling : ∀ action, p = .reconciling action →
      ∃ a no, r.row = some a ∧ a.priorAttemptNo = some no ∧ action.priorAttemptNo = some no) :
    Watched delivery port r' := by
  refine ⟨?_, ?_, ?_⟩
  -- the callers that are about to reserve
  · intro hnone d action attempt hd
    rw [hrow] at hnone
    rw [hphases] at hd
    by_cases hsame : d = c
    · subst hsame
      rw [Function.update_self] at hd
      exact hreserving hnone action attempt hd
    · rw [Function.update_of_ne hsame] at hd
      exact h.reserving hnone d action attempt hd
  -- the bound action
  · rw [hrow]
    exact h.pending
  -- the callers that reconcile
  · intro d action hd
    rw [hphases] at hd
    rw [hrow]
    by_cases hsame : d = c
    · subst hsame
      rw [Function.update_self] at hd
      exact hreconciling action hd
    · rw [Function.update_of_ne hsame] at hd
      exact h.reconciling d action hd

/-- The caller comes neither to a reservation nor to a reconciliation. -/
def RecoveryPhase.Plain : RecoveryPhase Payload → Prop
  | .reserving .. | .reconciling _ => False
  | _ => True

theorem Watched.plain {delivery : System Payload} {port : Option RetryPortCall}
    {r r' : RecoverySystem Payload} {c : ℕ} {p : RecoveryPhase Payload}
    (h : Watched delivery port r) (hphases : r'.phases = Function.update r.phases c p)
    (hrow : r'.row = r.row) (hp : p.Plain) : Watched delivery port r' := by
  refine h.update hphases hrow ?_ ?_
  · rintro _ action attempt rfl
    exact hp.elim
  · rintro action rfl
    exact hp.elim

/-- One caller moves on and leaves the action bound, with the number that it had. -/
theorem Watched.bound {delivery : System Payload} {port : Option RetryPortCall}
    {r r' : RecoverySystem Payload} {c : ℕ} {p : RecoveryPhase Payload}
    {a : DeliveryOperatorAction} (h : Watched delivery port r)
    (hphases : r'.phases = Function.update r.phases c p) (hrow : r'.row = some a) (hp : p.Plain)
    (hpending : a.status = .pending → ∀ no, a.priorAttemptNo = some no →
      delivery.row.map (·.attemptNo) = some no ∨
        ∃ p, port = some p ∧ delivery.lastMaker = some p.caller)
    (hprior : ∀ before, r.row = some before → a.priorAttemptNo = before.priorAttemptNo) :
    Watched delivery port r' := by
  refine ⟨?_, ?_, ?_⟩
  · intro hnone
    rw [hrow] at hnone
    cases hnone
  · intro found hfound
    rw [hrow] at hfound
    cases hfound
    exact hpending
  · intro d action hd
    rw [hphases] at hd
    by_cases hsame : d = c
    · subst hsame
      rw [Function.update_self] at hd
      subst hd
      exact hp.elim
    · -- a caller that reconciles had found the row bound
      rw [Function.update_of_ne hsame] at hd
      obtain ⟨before, no, hbefore, hno, hown⟩ := h.reconciling d action hd
      exact ⟨a, no, hrow, (hprior before hbefore).trans hno, hown⟩

/-- A read of the row comes to no reservation, and to a reconciliation with the number of the
action that it finds. -/
theorem afterFound_reads {call : RecoveryCall} {found : DeliveryOperatorAction}
    {p : RecoveryPhase Payload} (h : afterFound call found = p) :
    p.Plain ∨ ∃ action no, p = .reconciling action ∧ found.priorAttemptNo = some no ∧
      action.priorAttemptNo = some no := by
  subst h
  unfold afterFound
  split_ifs with hdiffers hdone
  · exact Or.inl trivial
  · exact Or.inl trivial
  · obtain ⟨no, hno⟩ := Option.ne_none_iff_exists'.mp (not_or.mp hdone).2
    exact Or.inr ⟨found, no, rfl, hno, hno⟩

/-- A caller that has read the bound row. -/
theorem Watched.found {delivery : System Payload} {port : Option RetryPortCall}
    {r r' : RecoverySystem Payload} {c : ℕ} {call : RecoveryCall}
    {found : DeliveryOperatorAction} (h : Watched delivery port r) (hfound : r.row = some found)
    (hphases : r'.phases = Function.update r.phases c (afterFound call found))
    (hrow : r'.row = r.row) : Watched delivery port r' := by
  rcases @afterFound_reads Payload call found _ rfl with
    hplain | ⟨action, no, hp, hprior, haction⟩
  · exact h.plain hphases hrow hplain
  · rw [hp] at hphases
    refine h.update hphases hrow (fun _ _ _ hsame => by cases hsame) ?_
    intro other hsame
    cases hsame
    exact ⟨found, no, hfound, hprior, haction⟩

theorem afterReservation_plain (action : DeliveryOperatorAction)
    (attempt : Option (DeliveryAttempt Payload)) : (afterReservation action attempt).Plain := by
  cases attempt <;> trivial

theorem afterReconciling_plain (action : DeliveryOperatorAction) (answer : PortAnswer Payload) :
    (afterReconciling action answer).Plain := by
  cases answer with
  | manualError | otherError => trivial
  | result inspection =>
    simp only [afterReconciling]
    cases inspection.deliveryAttempt with
    | none => trivial
    | some attempt =>
      simp only []
      split_ifs <;> trivial

theorem afterCompletion_plain (replayed : Bool) (actionId : UUID) (row : ActionRow) :
    (afterCompletion replayed actionId row : RecoveryPhase Payload).Plain := by
  cases row with
  | none => trivial
  | some action =>
    simp only [afterCompletion]
    split_ifs <;> trivial

/-- An inspection reserves with the number of the attempt that it has found. -/
theorem afterInspection_reads {call : RecoveryCall} {answer : PortAnswer Payload}
    {row : DeliveryRow Payload}
    (hreads : ∀ inspection, answer = .result inspection → inspection.deliveryAttempt = row) :
    (afterInspection call answer).Plain ∨ ∃ action attempt,
      afterInspection call answer = .reserving action attempt ∧
        action.priorAttemptNo = row.map (·.attemptNo) := by
  cases answer with
  | manualError | otherError => exact Or.inl trivial
  | result inspection =>
    simp only [afterInspection]
    split_ifs
    · refine Or.inr ⟨_, _, rfl, ?_⟩
      rw [← hreads inspection rfl]
      rfl
    · exact Or.inl trivial

/-- A transaction of a caller keeps what is known of the inspected attempt. -/
theorem Watched.store {delivery : System Payload} {port : Option RetryPortCall}
    {s s' : RecoverySystem Payload} {c : ℕ} (hstep : recoveryNext s (.store c) = some s')
    (h : Watched delivery port s) (haudited : Audited s) : Watched delivery port s' := by
  simp only [recoveryNext] at hstep
  obtain ⟨call, -, hrest⟩ := Option.bind_eq_some_iff.mp hstep
  obtain ⟨⟨row, p⟩, hrow, rfl⟩ := Option.map_eq_some_iff.mp hrest
  cases hphase : s.phases c with
  | idle | inspecting | reconciling | calling | awaiting | returned | raised | crashed =>
    rw [hphase] at hrow
    simp [recoveryStep] at hrow
  | loading | reloading =>
    rw [hphase] at hrow
    simp only [recoveryStep, Option.some.injEq, Prod.mk.injEq] at hrow
    obtain ⟨rfl, rfl⟩ := hrow
    cases hfound : s.row with
    | none => exact h.plain rfl hfound.symm trivial
    | some found => exact h.found hfound rfl hfound.symm
  | reserving action attempt =>
    rw [hphase] at hrow
    cases hbound : s.row with
    | some existing =>
      simp only [recoveryStep, reserveAction, hbound, Bool.false_eq_true, if_false,
        Option.some.injEq, Prod.mk.injEq] at hrow
      obtain ⟨rfl, rfl⟩ := hrow
      exact h.plain rfl hbound.symm trivial
    | none =>
      simp only [recoveryStep, reserveAction, hbound, if_true, Option.some.injEq,
        Prod.mk.injEq] at hrow
      obtain ⟨rfl, rfl⟩ := hrow
      -- the action is stored with the number that the inspection has found
      refine h.bound rfl rfl (afterReservation_plain action attempt) ?_ ?_
      · intro _ no hno
        exact Or.inl (h.reserving hbound c action attempt hphase no hno)
      · intro before hbefore
        rw [hbound] at hbefore
        cases hbefore
  | completing completion replayed =>
    have hcaller := haudited.callers c
    rw [hphase] at hrow hcaller
    rcases completeAction_cases s.row completion with ⟨r, hr, -, heq⟩ | heq <;>
      simp only [recoveryStep, heq, Option.some.injEq, Prod.mk.injEq] at hrow <;>
      obtain ⟨rfl, rfl⟩ := hrow
    · -- the action is completed, and keeps its number
      refine h.bound rfl rfl
        (afterCompletion_plain replayed completion.actionId (some (r.completed completion))) ?_ ?_
      · intro hpending
        exact absurd hpending hcaller.1
      · intro before hbefore
        rw [hr] at hbefore
        cases hbefore
        rfl
    · exact h.plain rfl rfl (afterCompletion_plain _ _ _)

/-- A step of the callers of a request, whose inspections read the delivery row. -/
theorem Watched.next {delivery : System Payload} {port : Option RetryPortCall}
    {s s' : RecoverySystem Payload} {act : RecoveryAct Payload}
    (hstep : recoveryNext s act = some s') (h : Watched delivery port s) (haudited : Audited s)
    (hreads : ∀ c inspection, act = .inspect c (.result inspection) →
      inspection.deliveryAttempt = delivery.row) : Watched delivery port s' := by
  cases act with
  -- the transactions write the row; the other steps change a phase
  | store c => exact h.store hstep haudited
  | start c call =>
    cases hp : s.phases c <;>
      simp only [recoveryNext, hp, Option.some.injEq, reduceCtorEq] at hstep
    subst hstep
    exact h.plain rfl rfl trivial
  | crash c =>
    cases hstep
    exact h.plain rfl rfl trivial
  | callPort c =>
    cases hp : s.phases c <;>
      simp only [recoveryNext, hp, Option.some.injEq, reduceCtorEq] at hstep
    subst hstep
    exact h.plain rfl rfl trivial
  | reply c answer =>
    cases hp : s.phases c <;>
      simp only [recoveryNext, hp, Option.some.injEq, reduceCtorEq] at hstep
    subst hstep
    exact h.plain rfl rfl trivial
  | inspect c answer =>
    simp only [recoveryNext] at hstep
    obtain ⟨call, -, hrest⟩ := Option.bind_eq_some_iff.mp hstep
    cases hp : s.phases c <;> simp only [hp, Option.some.injEq, reduceCtorEq] at hrest
    -- the inspection reads the attempt that is stored now
    · subst hrest
      have hrow : ∀ inspection, answer = .result inspection →
          inspection.deliveryAttempt = delivery.row := by
        rintro inspection rfl
        exact hreads c inspection rfl
      rcases @afterInspection_reads Payload call _ _ hrow with
        hplain | ⟨action, attempt, hp, hprior⟩
      · exact h.plain rfl rfl hplain
      · rw [hp]
        refine h.update rfl rfl ?_ (fun _ hsame => by cases hsame)
        intro _ other _ hsame no hno
        cases hsame
        rw [← hprior]
        exact hno
    -- the reconciliation has its number already
    · subst hrest
      exact h.plain rfl rfl (afterReconciling_plain _ _)

/-- A step of the deliveries that leaves the attempts. -/
theorem Watched.same {delivery delivery' : System Payload} {port : Option RetryPortCall}
    {r : RecoverySystem Payload} (h : Watched delivery port r)
    (hgrants : delivery'.grants = delivery.grants)
    (hrow : delivery'.row.map (·.attemptNo) = delivery.row.map (·.attemptNo)) :
    Watched delivery' port r := by
  refine ⟨?_, ?_, h.reconciling⟩
  · rw [hrow]
    exact h.reserving
  · unfold System.lastMaker
    rw [hrow, hgrants]
    exact h.pending

/-- A step of the deliveries that makes an attempt, for the call of the port of every request that
stands open. -/
theorem Watched.made {delivery delivery' : System Payload} {port : Option RetryPortCall}
    {r : RecoverySystem Payload} {d : ℕ} (h : Watched delivery port r)
    (hmaker : delivery'.lastMaker = some d) (huncalled : r.row = none → port = none)
    (hown : r.Open → ∃ p, port = some p ∧ p.caller = d) : Watched delivery' port r := by
  refine ⟨?_, ?_, h.reconciling⟩
  · intro hnone c action attempt hphase no hno
    -- a request that is not bound yet has no call of its own
    have hopen : r.Open :=
      Or.inl ⟨hnone, c, action, attempt, hphase, by rw [hno]; exact Option.some_ne_none no⟩
    obtain ⟨p, hp, -⟩ := hown hopen
    rw [huncalled hnone] at hp
    cases hp
  · intro a ha hpending no hno
    have hopen : r.Open :=
      Or.inr ⟨a, ha, hpending, by rw [hno]; exact Option.some_ne_none no⟩
    obtain ⟨p, hp, hcaller⟩ := hown hopen
    exact Or.inr ⟨p, hp, by rw [hmaker, hcaller]⟩

/-! ## The invariant of the operations -/

/-- One caller at most holds the delivery row, the callers of a request are as `Audited` says, a
call of the port is where `CallerOk` says, the attempt that a request has inspected is as `Watched`
says, and every success is accounted for by the call of its own request. -/
structure Operated (s : RecoveryOperations Payload) : Prop where
  held : Held s.delivery
  audited : ∀ requestId, Audited (s.requests requestId)
  uncalled : ∀ requestId, (s.requests requestId).portCalls = [] → s.ports requestId = none
  ports : ∀ requestId port, s.ports requestId = some port →
    port.CallerOk s.delivery (s.delivery.callers port.caller)
  watched : ∀ requestId, Watched s.delivery (s.ports requestId) (s.requests requestId)
  accounted : ∀ requestId, Accounted (Attributed s requestId) (s.requests requestId)

theorem watched_init : Watched emptySystem none ({} : RecoverySystem Payload) := by
  refine ⟨?_, ?_, ?_⟩
  · intro _ c action attempt hphase
    cases hphase
  · intro a ha
    cases ha
  · intro c action hphase
    cases hphase

theorem accounted_init (P : Prop) : Accounted P ({} : RecoverySystem Payload) := by
  refine ⟨?_, ?_⟩
  · intro a ha
    cases ha
  · intro _ c completion replayed hphase
    cases hphase

theorem operated_init : Operated ({} : RecoveryOperations Payload) where
  held := ⟨fun _ _ hc => hc.elim, fun _ hc => hc.elim⟩
  audited := fun _ => audited_init
  uncalled := fun _ _ => rfl
  ports := by
    intro requestId port hport
    cases hport
  watched := fun _ => watched_init
  accounted := fun _ => accounted_init _

/-- A request that is not bound has not called the port. -/
theorem ports_of_unbound {s : RecoveryOperations Payload} (h : Operated s) {requestId : UUID}
    (hrow : (s.requests requestId).row = none) : s.ports requestId = none := by
  refine h.uncalled requestId ?_
  rcases (h.audited requestId).called with hnone | ⟨c, -, hbound, -⟩
  · exact hnone
  · rw [(h.audited requestId).bound.mpr hrow] at hbound
    cases hbound

/-- A step of the callers of one request, the call of the port apart. -/
theorem operated_recover {s : RecoveryOperations Payload} (h : Operated s) {requestId : UUID}
    {act : RecoveryAct Payload} {r : RecoverySystem Payload}
    (hstep : recoveryNext (s.requests requestId) act = some r) (hact : ∀ c, act ≠ .callPort c)
    (hreads : ∀ c inspection, act = .inspect c (.result inspection) →
      inspection.deliveryAttempt = s.delivery.row)
    (hsucceeds : (s.requests requestId).Undecided → (s.requests requestId).Succeeds act →
      Attributed s requestId) :
    Operated { s with requests := Function.update s.requests requestId r } := by
  -- of the six parts the delivery row and the calls of the port stay
  refine ⟨h.held, ?_, ?_, h.ports, ?_, ?_⟩
  · rw [Function.forall_update_iff s.requests fun _ => Audited]
    exact ⟨move_audited (recoveryNext_move hstep) (h.audited requestId),
      fun other _ => h.audited other⟩
  · rw [Function.forall_update_iff s.requests fun other r => r.portCalls = [] →
      s.ports other = none]
    refine ⟨?_, fun other _ => h.uncalled other⟩
    rw [recoveryNext_portCalls hstep hact]
    exact h.uncalled requestId
  · rw [Function.forall_update_iff s.requests fun other => Watched s.delivery (s.ports other)]
    exact ⟨(h.watched requestId).next hstep (h.audited requestId) hreads,
      fun other _ => h.watched other⟩
  · show ∀ other, Accounted (Attributed s other) (Function.update s.requests requestId r other)
    rw [Function.forall_update_iff s.requests fun other => Accounted (Attributed s other)]
    exact ⟨(h.accounted requestId).next hstep (h.audited requestId) hsucceeds,
      fun other _ => h.accounted other⟩

/-- A step of the deliveries that makes no attempt of another caller while a request stands open,
and stores no success that a call of the port is about to read. -/
theorem operated_deliver {svc : Service} {s : RecoveryOperations Payload} (h : Operated s)
    {a : Act Payload} {delivery : System Payload} (hstep : Step svc s.delivery a delivery)
    (hmade : (delivery.grants = s.delivery.grants ∧
        delivery.row.map (·.attemptNo) = s.delivery.row.map (·.attemptNo)) ∨
      ∃ d, delivery.lastMaker = some d ∧ ∀ requestId, (s.requests requestId).Open →
        ∃ port, s.ports requestId = some port ∧ port.caller = d)
    (hquiet : delivery.Succeeded → s.delivery.Succeeded ∨ ∀ requestId port,
      s.ports requestId = some port → ∀ confirmed,
        s.delivery.callers port.caller ≠ .inspecting confirmed) :
    Operated { s with delivery := delivery } := by
  -- the requests take no step
  refine ⟨step_held hstep h.held, h.audited, h.uncalled, ?_, ?_, ?_⟩
  -- the call of a port meets one of the steps of its own caller, or of another one
  · intro requestId port hport
    refine (h.ports requestId port hport).step hstep h.held ?_
    intro hsucceeded
    rcases hquiet hsucceeded with hbefore | hnone
    · exact Or.inl hbefore
    · exact Or.inr (hnone requestId port hport)
  · intro requestId
    -- an attempt is made by the port caller of each open request, or not at all
    rcases hmade with ⟨hgrants, hrow⟩ | ⟨d, hmaker, hown⟩
    · exact (h.watched requestId).same hgrants hrow
    · exact (h.watched requestId).made hmaker (ports_of_unbound h) (hown requestId)
  -- a success that is recorded stays one
  · intro requestId
    refine (h.accounted requestId).mono ?_
    rintro ⟨port, hport, hsettled⟩
    exact ⟨port, hport, hsettled.step hstep⟩

/-- A caller that comes to its call of the port is the first of its request to do so. -/
theorem uncalled_of_calling {s : RecoverySystem Payload} (h : Audited s) {c : ℕ}
    {action : DeliveryOperatorAction} {attempt : DeliveryAttempt Payload}
    (hphase : s.phases c = .calling action attempt) : s.portCalls = [] := by
  rcases h.called with hnone | ⟨d, -, hbound, hpast⟩
  · exact hnone
  · have hcaller := h.callers c
    rw [hphase] at hcaller
    have hsame : s.boundBy = some c := hcaller
    rw [hbound] at hsame
    cases hsame
    rw [hphase] at hpast
    exact hpast.elim

/-- A request calls the port. -/
theorem operated_callPort (svc : Service) {s : RecoveryOperations Payload} (h : Operated s)
    {requestId : UUID} {c d : ℕ} {r : RecoverySystem Payload} {call : Call Payload}
    (hcall : recoveryNext (s.requests requestId) (.callPort c) = some r)
    (hidle : s.delivery.callers d = .idle)
    (hbegin : RetryPortCall.CallerOk ⟨d, s.delivery.row.map (·.status)⟩
      (s.delivery.setCaller d call.begin) call.begin) :
    Operated
      { delivery := s.delivery.setCaller d call.begin
        requests := Function.update s.requests requestId r
        ports := Function.update s.ports requestId
          (some ⟨d, s.delivery.row.map (·.status)⟩) } := by
  have hstart : Step svc s.delivery (.start d call) (s.delivery.setCaller d call.begin) :=
    .start hidle
  have hmoved := operated_deliver h hstart (Or.inl ⟨rfl, rfl⟩) Or.inl
  have hphase : ∃ action attempt, (s.requests requestId).phases c = .calling action attempt ∧
      r.portCalls = (s.requests requestId).portCalls ++ [c] := by
    cases hp : (s.requests requestId).phases c <;>
      simp only [recoveryNext, hp, Option.some.injEq, reduceCtorEq] at hcall
    subst hcall
    exact ⟨_, _, rfl, rfl⟩
  obtain ⟨action, attempt, hphase, hcalls⟩ := hphase
  have hnone : s.ports requestId = none :=
    h.uncalled requestId (uncalled_of_calling (h.audited requestId) hphase)
  have hnot : ¬ Attributed s requestId := by
    rintro ⟨port, hport, -⟩
    rw [hnone] at hport
    cases hport
  refine ⟨hmoved.held, ?_, ?_, ?_, ?_, ?_⟩
  · rw [Function.forall_update_iff s.requests fun _ => Audited]
    exact ⟨move_audited (recoveryNext_move hcall) (h.audited requestId),
      fun other _ => h.audited other⟩
  · intro other hother
    by_cases hsame : other = requestId
    · subst hsame
      simp only [Function.update_self, hcalls] at hother
      exact absurd hother (List.append_ne_nil_of_right_ne_nil _ (List.cons_ne_nil _ _))
    · simp only [Function.update_of_ne hsame] at hother ⊢
      exact h.uncalled other hother
  · intro other port hport
    by_cases hsame : other = requestId
    · subst hsame
      simp only [Function.update_self, Option.some.injEq] at hport
      subst hport
      simp only [System.setCaller, Function.update_self]
      exact hbegin
    · simp only [Function.update_of_ne hsame] at hport
      exact hmoved.ports other port hport
  · intro other
    by_cases hsame : other = requestId
    · subst hsame
      simp only [Function.update_self]
      have hnext := (hmoved.watched other).next hcall (h.audited other)
        (fun _ _ hact => by cases hact)
      refine ⟨hnext.reserving, ?_, hnext.reconciling⟩
      -- nobody had called for the request, so the inspected attempt is the last one
      intro a ha hpending no hno
      rcases hnext.pending a ha hpending no hno with hlast | ⟨port, hport, -⟩
      · exact Or.inl hlast
      · rw [hnone] at hport
        cases hport
    · simp only [Function.update_of_ne hsame]
      exact hmoved.watched other
  · intro other
    by_cases hsame : other = requestId
    · subst hsame
      simp only [Function.update_self]
      have hnext := (h.accounted other).next hcall (h.audited other) fun _ => False.elim
      exact hnext.mono fun hattributed => absurd hattributed hnot
    · simp only [Function.update_of_ne hsame]
      refine (hmoved.accounted other).mono ?_
      rintro ⟨port, hport, hsettled⟩
      exact ⟨port, by simpa only [Function.update_of_ne hsame] using hport, hsettled⟩

/-- The caller of a call of the port may stop with the caller of its request. -/
theorem stopped_step (svc : Service) (s : RecoveryOperations Payload) (requestId : UUID) (c : ℕ) :
    s.stopped requestId c = s.delivery ∨
      ∃ d, s.stopped requestId c = s.delivery.setCaller d .crashed ∧
        Step svc s.delivery (.crash d) (s.stopped requestId c) := by
  unfold RecoveryOperations.stopped
  split
  · exact Or.inr ⟨_, rfl, .crash⟩
  · exact Or.inl rfl

/-- A caller of a request stops, or goes on after an exception of the port. -/
theorem operated_stopped (svc : Service) {s t : RecoveryOperations Payload} {requestId : UUID}
    {c : ℕ} (h : Operated t) (hsame : t.delivery = s.delivery) :
    Operated { t with delivery := s.stopped requestId c } := by
  rcases stopped_step svc s requestId c with heq | ⟨d, heq, hstep⟩
  · rw [heq, ← hsame]
    exact h
  · rw [heq] at hstep ⊢
    rw [← hsame] at hstep ⊢
    exact operated_deliver h hstep (Or.inl ⟨rfl, rfl⟩) Or.inl

theorem inspectDelivery_result {report : Option (StoredReport Payload)} {reportId chatId : String}
    {row : DeliveryRow Payload} {inspection : ReportDeliveryResult Payload}
    (h : inspectDelivery report reportId chatId row = .result inspection) :
    inspection.deliveryAttempt = row := by
  cases report with
  | none => cases h
  | some report =>
    simp only [inspectDelivery] at h
    split_ifs at h
    cases h
    rfl

theorem portAnswer_result {p : Phase Payload} {result : ReportDeliveryResult Payload}
    (h : portAnswer p = some (.result result)) : p = .returned result := by
  unfold portAnswer at h
  split at h <;> simp_all

/-- A call of the port that begins stands where `CallerOk` says. -/
theorem beginRetry_callerOk {s : System Payload} {port : RetryPortCall}
    (h : s.Succeeded → port.calledOn = some .succeeded) (report : Option (StoredReport Payload))
    (reportId chatId : String) (confirmed : Bool) :
    port.CallerOk s (beginRetry report reportId chatId confirmed) := by
  cases report with
  | none => trivial
  | some report =>
    simp only [beginRetry]
    split_ifs
    · trivial
    · trivial
    · exact h

/-- A reconciliation that comes to a success has read an attempt of its own request. -/
theorem attributed_of_reconciled {s : RecoveryOperations Payload} (h : Operated s)
    {requestId : UUID} {c : ℕ} {action : DeliveryOperatorAction}
    {attempt : DeliveryAttempt Payload} (hundecided : (s.requests requestId).Undecided)
    (hphase : (s.requests requestId).phases c = .reconciling action)
    (hrow : s.delivery.row = some attempt) (hstatus : attempt.status = .succeeded)
    (hlater : action.priorAttemptNo.getD 0 < attempt.attemptNo) : Attributed s requestId := by
  obtain ⟨a, no, ha, hprior, haction⟩ := (h.watched requestId).reconciling c action hphase
  rcases (h.watched requestId).pending a ha (hundecided a ha) no hprior with
    hlast | ⟨port, hport, hmaker⟩
  · -- the inspected attempt is the last one, and no later one has succeeded
    rw [hrow, Option.map_some, Option.some.injEq] at hlast
    rw [haction, Option.getD_some] at hlater
    omega
  · refine ⟨port, hport, Or.inr ⟨?_, hmaker⟩⟩
    unfold System.Succeeded
    rw [hrow, Option.map_some, hstatus]

/-- Each undisturbed step keeps the invariant of the operations. -/
theorem operationsNext_operated [DecidableEq Payload] {svc : Service} {reportId : String}
    {s s' : RecoveryOperations Payload} {act : OperationsAct Payload}
    (hstep : operationsNext svc reportId s act = some s') (hquiet : Undisturbed svc s act)
    (h : Operated s) : Operated s' := by
  cases act with
  | start requestId c confirmed actionId =>
    obtain ⟨r, hr, rfl⟩ := Option.map_eq_some_iff.mp hstep
    exact operated_recover h hr (fun d hcall => by cases hcall) (fun _ _ hact => by cases hact)
      fun _ => False.elim
  | store requestId c =>
    obtain ⟨r, hr, rfl⟩ := Option.map_eq_some_iff.mp hstep
    exact operated_recover h hr (fun d hcall => by cases hcall) (fun _ _ hact => by cases hact)
      fun _ => False.elim
  | inspect requestId c report chatId =>
    obtain ⟨r, hr, rfl⟩ := Option.map_eq_some_iff.mp hstep
    refine operated_recover h hr (fun d hcall => by cases hcall) ?_ ?_
    · intro d inspection hact
      exact inspectDelivery_result (RecoveryAct.inspect.inj hact).2
    · intro hundecided hsucceeds
      cases hanswer : inspectDelivery report reportId chatId s.delivery.row with
      | manualError | otherError =>
        rw [hanswer] at hsucceeds
        exact hsucceeds.elim
      | result inspection =>
        rw [hanswer] at hsucceeds
        obtain ⟨action, attempt, hphase, hattempt, hstatus, hlater⟩ := hsucceeds
        have hrow : s.delivery.row = some attempt :=
          (inspectDelivery_result hanswer).symm.trans hattempt
        exact attributed_of_reconciled h hundecided hphase hrow hstatus hlater
  | callPort requestId c d report chatId =>
    obtain ⟨call, -, hrest⟩ := Option.bind_eq_some_iff.mp hstep
    obtain ⟨r, hr, hrest⟩ := Option.bind_eq_some_iff.mp hrest
    obtain ⟨delivery, hdelivery, rfl⟩ := Option.map_eq_some_iff.mp hrest
    cases hp : s.delivery.callers d <;>
      simp only [next, hp, Option.some.injEq, reduceCtorEq] at hdelivery
    subst hdelivery
    -- what the port would find succeeded at the call had succeeded then
    exact operated_callPort svc h hr hp (beginRetry_callerOk id _ _ _ _)
  | deliver a =>
    obtain ⟨delivery, hdelivery, rfl⟩ := Option.map_eq_some_iff.mp hstep
    have hmove := next_step hdelivery
    refine operated_deliver h hmove ?_ ?_
    · rcases step_made hmove with hsame | ⟨d, rfl, hgrants, hmaker⟩
      · exact Or.inl hsame
      · exact Or.inr ⟨d, hmaker, hquiet.1 ⟨delivery, hdelivery, hgrants⟩⟩
    · intro hsucceeded
      by_cases hbefore : s.delivery.Succeeded
      · exact Or.inl hbefore
      · obtain ⟨d, -, -, -, -, rfl, -⟩ := store_of_succeeds hmove hsucceeded hbefore
        exact Or.inr (hquiet.2 ⟨delivery, hdelivery, hsucceeded, hbefore⟩)
  | reply requestId c =>
    obtain ⟨answer, hanswer, hrest⟩ := Option.bind_eq_some_iff.mp hstep
    obtain ⟨port, hport, hanswer⟩ := Option.bind_eq_some_iff.mp hanswer
    obtain ⟨r, hr, rfl⟩ := Option.map_eq_some_iff.mp hrest
    refine operated_recover h hr (fun d hcall => by cases hcall) (fun _ _ hact => by cases hact) ?_
    intro _ hsucceeds
    cases answer with
    | manualError | otherError => exact hsucceeds.elim
    | result result =>
      have hcaller := h.ports requestId port hport
      rw [portAnswer_result hanswer] at hcaller
      exact ⟨port, hport, hcaller hsucceeds⟩
  | fail requestId c name =>
    obtain ⟨t, ht, rfl⟩ := Option.map_eq_some_iff.mp hstep
    obtain ⟨r, hr, rfl⟩ := Option.map_eq_some_iff.mp ht
    have hmoved : Operated { s with requests := Function.update s.requests requestId r } := by
      refine operated_recover h hr ?_ ?_ ?_
      · intro d
        unfold portFailure
        split <;> (intro hcall; cases hcall)
      · intro d inspection
        unfold portFailure
        split <;> (intro hact; cases hact)
      · unfold portFailure
        split <;> exact fun _ => False.elim
    exact operated_stopped svc hmoved rfl
  | crash requestId c =>
    simp only [operationsNext] at hstep
    obtain ⟨t, ht, rfl⟩ := Option.map_eq_some_iff.mp hstep
    obtain ⟨r, hr, rfl⟩ := Option.map_eq_some_iff.mp ht
    exact operated_stopped svc (operated_recover h hr
      (fun d hcall => by cases hcall) (fun _ _ hact => by cases hact) fun _ => False.elim) rfl

/-- In every interleaving of the requests and the deliveries of a report, crashes included, in
which nobody else makes an attempt between a request's inspection and its completion, and no
success is stored between a call of the port and its read: an action is recorded as succeeded only
when the delivery had succeeded at its request's call of the retry port, or the attempt that
succeeded was made by that call. -/
theorem recorded_success_attributed [DecidableEq Payload] (svc : Service) (reportId : String)
    {acts : List (OperationsAct Payload)} {s : RecoveryOperations Payload}
    (h : Run (guarded (OperationsNext svc reportId) (Undisturbed svc)) {} acts s) :
    ∀ requestId a, (s.requests requestId).row = some a → a.status = .succeeded →
      Attributed s requestId := by
  have hoperated : Operated s :=
    run_invariant Operated (fun _ _ _ hstep => operationsNext_operated hstep.2 hstep.1) h
      operated_init
  intro requestId a hrow hsucceeded
  exact (hoperated.accounted requestId).row a hrow hsucceeded

/-! ## Runs -/

/-- A first delivery that Feishu refuses. -/
def refusedDelivery : List (OperationsAct Unit) :=
  [.deliver (.start 0 (.deliver (some publishedReport) "daily-report-2026-07-28-1.0.0" "oc_1"
      false 7)),
    .deliver (.store 0), .deliver (.send 0),
    .deliver (.reply 0 (.failed "FEISHU_SEND_REJECTED" false false)), .deliver (.store 0)]

/-- A request up to its call of the retry port. -/
def reservedRequest (requestId : UUID) : List (OperationsAct Unit) :=
  [.start requestId 0 false requestId, .store requestId 0,
    .inspect requestId 0 (some publishedReport) "oc_1", .store requestId 0]

/-- The call of the retry port by the caller `d`, up to the outcome that it stores. -/
def portCall (requestId : UUID) (d : ℕ) (outcome : SendOutcome) : List (OperationsAct Unit) :=
  [.callPort requestId 0 d (some publishedReport) "oc_1", .deliver (.store d),
    .deliver (.store d), .deliver (.send d), .deliver (.reply d outcome), .deliver (.store d)]

/-- The request with the answer of its call of the port, up to what it records. -/
def completedRequest (requestId : UUID) : List (OperationsAct Unit) :=
  [.reply requestId 0, .store requestId 0]

/-- The same request once more, up to what it records. -/
def replayedRequest (requestId : UUID) : List (OperationsAct Unit) :=
  [.start requestId 1 false (requestId + 10), .store requestId 1,
    .inspect requestId 1 (some publishedReport) "oc_1", .store requestId 1]

/-- A request that stopped before its call of the port is recorded as succeeded by the attempt of
another request. -/
theorem foreign_attempt_recorded :
    ∃ (acts : List (OperationsAct Unit)) (s : RecoveryOperations Unit),
      Run (OperationsNext {} "daily-report-2026-07-28-1.0.0") {} acts s ∧
        ∃ a, (s.requests 1).row = some a ∧ a.status = .succeeded ∧ ¬ Attributed s 1 := by
  let acts := refusedDelivery ++ reservedRequest 1 ++ [.crash 1 0] ++ reservedRequest 2 ++
    portCall 2 1 (.sent "om_1") ++ completedRequest 2 ++ replayedRequest 1
  have hexec : (exec (operationsNext {} "daily-report-2026-07-28-1.0.0") {} acts).map
      (fun s => ((s.requests 1).row.map (·.status), s.ports 1)) = some (some .succeeded, none) := by
    decide +kernel
  obtain ⟨s, hs, hview⟩ := Option.map_eq_some_iff.mp hexec
  simp only [Prod.mk.injEq] at hview
  obtain ⟨hstatus, hport⟩ := hview
  obtain ⟨a, hrow, hsucceeded⟩ := Option.map_eq_some_iff.mp hstatus
  refine ⟨acts, s, run_of_exec hs, a, hrow, hsucceeded, ?_⟩
  rintro ⟨port, hcalled, -⟩
  rw [hport] at hcalled
  cases hcalled

/-! ## Requests that follow on one another -/

/-- No request but these has begun. -/
def RecoveryOperations.Only (s : RecoveryOperations Payload) (begun : List UUID) : Prop :=
  ∀ requestId, requestId ∉ begun → s.requests requestId = {} ∧ s.ports requestId = none

def Phase.isInspecting : Phase Payload → Bool
  | .inspecting _ => true
  | _ => false

/-- The caller `d` runs the request's own call of the port, or the request is decided and its call
of the port has read the row. -/
def RecoveryOperations.leaves (s : RecoveryOperations Payload) (d : ℕ) (requestId : UUID) : Bool :=
  (s.ports requestId).any (·.caller == d) ||
    (s.requests requestId).row.any (·.status != .pending) &&
      (s.ports requestId).all fun port => !(s.delivery.callers port.caller).isInspecting

/-- Steps of which `Undisturbed` is easily seen: those of the requests that have begun, and the
transactions that leave every one of these in peace. -/
def clearlyUndisturbed (begun : List UUID) (s : RecoveryOperations Payload) :
    OperationsAct Payload → Bool
  | .deliver (.store d) => begun.all (s.leaves d)
  | .deliver _ => true
  | .start requestId .. | .store requestId .. | .inspect requestId .. | .callPort requestId ..
  | .reply requestId .. | .fail requestId .. | .crash requestId .. => begun.contains requestId

theorem not_open_of_decided {r : RecoverySystem Payload}
    (h : r.row.any (·.status != .pending) = true) : ¬ r.Open := by
  obtain ⟨a, ha, hdecided⟩ := Option.any_eq_true _ _ |>.mp h
  rintro (⟨hnone, -⟩ | ⟨b, hb, hpending, -⟩)
  · rw [hnone] at ha
    cases ha
  · rw [ha] at hb
    cases hb
    simp [hpending] at hdecided

/-- The test that can be run is enough. -/
theorem undisturbed_of_clearly [DecidableEq Payload] {svc : Service} {begun : List UUID}
    {s : RecoveryOperations Payload} {act : OperationsAct Payload} (honly : s.Only begun)
    (h : clearlyUndisturbed begun s act = true) : Undisturbed svc s act := by
  cases act with
  -- the condition is about the deliveries alone
  | start | store | inspect | callPort | reply | fail | crash => trivial
  | deliver a =>
    cases a with
    | start | send | reply | accept | crash => trivial
    | store d =>
      simp only [clearlyUndisturbed, List.all_eq_true] at h
      refine ⟨?_, ?_⟩
      -- an attempt that is made while a request stands open
      · intro _ requestId hopen
        by_cases hmem : requestId ∈ begun
        · rcases Bool.or_eq_true _ _ |>.mp (h requestId hmem) with hown | hdecided
          · obtain ⟨port, hport, hcaller⟩ := Option.any_eq_true _ _ |>.mp hown
            exact ⟨port, hport, by simpa using hcaller⟩
          · exact absurd hopen (not_open_of_decided (Bool.and_eq_true _ _ |>.mp hdecided).1)
        · -- a request that has not begun is at rest
          rw [(honly requestId hmem).1] at hopen
          rcases hopen with ⟨-, c, action, attempt, hphase, -⟩ | ⟨a, ha, -⟩
          · cases hphase
          · cases ha
      -- a success that is stored while a call of the port is about to read it
      · rintro ⟨t, hnext, hsucceeded, hnot⟩ requestId port hport confirmed hphase
        by_cases hmem : requestId ∈ begun
        · rcases Bool.or_eq_true _ _ |>.mp (h requestId hmem) with hown | hdecided
          · -- the caller that stores a success reads nothing any more
            obtain ⟨c, i, attempt, m, outcome, hact, hstoring⟩ :=
              store_of_succeeds (next_step hnext) hsucceeded hnot
            cases hact
            rw [hport] at hown
            have hcaller : port.caller = d := by simpa using hown
            rw [hcaller, hstoring] at hphase
            cases hphase
          · have hread := (Bool.and_eq_true _ _ |>.mp hdecided).2
            rw [hport, Option.all_some, hphase] at hread
            cases hread
        · rw [(honly requestId hmem).2] at hport
          cases hport

theorem RecoveryOperations.Only.recover {s s' : RecoveryOperations Payload} {begun : List UUID}
    {requestId : UUID} {act : RecoveryAct Payload} (h : s.Only begun) (hmem : requestId ∈ begun)
    (hstep : s.recover requestId act = some s') : s'.Only begun := by
  obtain ⟨r, -, rfl⟩ := Option.map_eq_some_iff.mp hstep
  intro other hother
  have hne : other ≠ requestId := fun hsame => hother (hsame ▸ hmem)
  simp only [Function.update_of_ne hne]
  exact h other hother

/-- Steps of the requests that have begun begin no other one. -/
theorem RecoveryOperations.Only.next [DecidableEq Payload] {svc : Service} {reportId : String}
    {s s' : RecoveryOperations Payload} {begun : List UUID} {act : OperationsAct Payload}
    (h : s.Only begun) (hclear : clearlyUndisturbed begun s act = true)
    (hstep : operationsNext svc reportId s act = some s') : s'.Only begun := by
  -- a step belongs to one request, which has begun
  cases act with
  | start | store | inspect =>
    exact h.recover (List.contains_iff_mem.mp hclear) hstep
  | reply requestId c =>
    obtain ⟨answer, -, hrest⟩ := Option.bind_eq_some_iff.mp hstep
    exact h.recover (List.contains_iff_mem.mp hclear) hrest
  -- the deliveries touch no request
  | deliver a =>
    obtain ⟨delivery, -, rfl⟩ := Option.map_eq_some_iff.mp hstep
    exact h
  | fail =>
    obtain ⟨t, ht, rfl⟩ := Option.map_eq_some_iff.mp hstep
    have honly : t.Only begun := h.recover (List.contains_iff_mem.mp hclear) ht
    exact honly
  | crash =>
    simp only [operationsNext] at hstep
    obtain ⟨t, ht, rfl⟩ := Option.map_eq_some_iff.mp hstep
    have honly : t.Only begun := h.recover (List.contains_iff_mem.mp hclear) ht
    exact honly
  -- the call of the port marks its own request
  | callPort requestId c d =>
    obtain ⟨call, -, hrest⟩ := Option.bind_eq_some_iff.mp hstep
    obtain ⟨r, -, hrest⟩ := Option.bind_eq_some_iff.mp hrest
    obtain ⟨delivery, -, rfl⟩ := Option.map_eq_some_iff.mp hrest
    intro other hother
    have hne : other ≠ requestId :=
      fun hsame => hother (hsame ▸ List.contains_iff_mem.mp hclear)
    simp only [Function.update_of_ne hne]
    exact h other hother

/-- An execution whose steps are clearly undisturbed is a run under the condition. -/
theorem run_undisturbed [DecidableEq Payload] {svc : Service} {reportId : String}
    {begun : List UUID} {s s' : RecoveryOperations Payload} {acts : List (OperationsAct Payload)}
    (honly : s.Only begun)
    (h : exec (check (clearlyUndisturbed begun) (operationsNext svc reportId)) s acts = some s') :
    Run (guarded (OperationsNext svc reportId) (Undisturbed svc)) s acts s' ∧ s'.Only begun := by
  have hrun := run_of_exec_check h
  clear h
  induction hrun with
  | nil s => exact ⟨.nil s, honly⟩
  | cons hstep _ ih =>
    obtain ⟨hclear, hnext⟩ := hstep
    obtain ⟨hrest, hend⟩ := ih (honly.next hclear hnext)
    exact ⟨.cons ⟨undisturbed_of_clearly honly hclear, hnext⟩ hrest, hend⟩

theorem RecoveryOperations.Only.mono {s : RecoveryOperations Payload} {begun more : List UUID}
    (hsub : begun ⊆ more) (h : s.Only begun) : s.Only more :=
  fun requestId hnot => h requestId fun hmem => hnot (hsub hmem)

/-- A first delivery is refused, a first request makes an attempt that is refused as well and is
completed, and the attempt of a second request succeeds; its process stops before it records the
outcome, and the replay of the request records it. -/
theorem recorded_success_attributed_replayed :
    ∃ (acts : List (OperationsAct Unit)) (s : RecoveryOperations Unit),
      Run (guarded (OperationsNext {} "daily-report-2026-07-28-1.0.0") (Undisturbed {})) {} acts
        s ∧
        (s.requests 1).row.map (·.status) = some .failed ∧
        (s.requests 2).row.map (·.status) = some .succeeded ∧ Attributed s 2 := by
  let next := @operationsNext Unit _ {} "daily-report-2026-07-28-1.0.0"
  let first := reservedRequest 1 ++
    portCall 1 1 (.failed "FEISHU_SEND_REJECTED" false false) ++ completedRequest 1
  let second := reservedRequest 2 ++ portCall 2 2 (.sent "om_1") ++ [.crash 2 0] ++
    replayedRequest 2
  have hexec : ((exec (check (clearlyUndisturbed []) next) {} refusedDelivery).bind fun s₀ =>
      (exec (check (clearlyUndisturbed [1]) next) s₀ first).bind fun s₁ =>
        (exec (check (clearlyUndisturbed [1, 2]) next) s₁ second).map fun s =>
          ((s.requests 1).row.map (·.status), (s.requests 2).row.map (·.status))) =
      some (some .failed, some .succeeded) := by
    decide +kernel
  obtain ⟨s₀, hs₀, hexec⟩ := Option.bind_eq_some_iff.mp hexec
  obtain ⟨s₁, hs₁, hexec⟩ := Option.bind_eq_some_iff.mp hexec
  obtain ⟨s, hs, hview⟩ := Option.map_eq_some_iff.mp hexec
  simp only [Prod.mk.injEq] at hview
  have hnone : ({} : RecoveryOperations Unit).Only [] := fun _ _ => ⟨rfl, rfl⟩
  obtain ⟨hrun₀, honly₀⟩ := run_undisturbed hnone hs₀
  obtain ⟨hrun₁, honly₁⟩ := run_undisturbed (honly₀.mono (List.nil_subset [1])) hs₁
  obtain ⟨hrun₂, -⟩ := run_undisturbed (honly₁.mono (by decide)) hs
  have hrun := run_append (run_append hrun₀ hrun₁) hrun₂
  obtain ⟨a, hrow, hsucceeded⟩ := Option.map_eq_some_iff.mp hview.2
  exact ⟨_, s, hrun, hview.1, hview.2,
    recorded_success_attributed {} "daily-report-2026-07-28-1.0.0" hrun 2 a hrow hsucceeded⟩

end MacroPlatform.Delivery
