import Mathlib.Logic.Function.Basic
import MacroPlatform.Contracts.Text
import MacroPlatform.Delivery.Service

/-! # `DeliveryRecoveryService` over one request

`uq_delivery_operator_action_request` leaves at most one audit row for a request id, so the
table of a request id is that row or nothing. Any number of `retry` calls with the request id
run at once, one caller per call; a transaction, an inspection and the call of the retry port are
steps of their own, and a caller may be stopped between any two, by a crash or by an error of the
database.

* `completeAction_cases`: everything a completion can do;
* `recoveryNext_move`: a step of the system, as one of its moves.
-/

namespace MacroPlatform.Delivery

open ConditionalUpdate Transition

variable {Payload : Type}

/-- `DeliveryRecoveryStatus`. -/
inductive RecoveryStatus where
  | pending
  | succeeded
  | rejected
  | failed
deriving DecidableEq, Repr

/-- `DeliveryOperatorAction`. -/
structure DeliveryOperatorAction where
  actionId : UUID
  reportId : String
  deliveryId : Option UUID
  confirmedNotDelivered : Bool
  priorStatus : String
  priorAttemptNo : Option ℕ
  status : RecoveryStatus := .pending
  resultDeliveryStatus : Option String := none
  errorCode : Option String := none
deriving DecidableEq, Repr

/-- `DeliveryRecoveryResult`: the action, and whether the call found it. -/
structure DeliveryRecoveryResult where
  action : DeliveryOperatorAction
  replayed : Bool := false
deriving DecidableEq, Repr

/-- What a call raises. -/
inductive RecoveryError where
  | recovery (code message : String)
  | validation
  | other (name : String)
deriving DecidableEq, Repr

/-- What `inspect` and `retry` of the port come back with. -/
inductive PortAnswer (Payload : Type) where
  | result (result : ReportDeliveryResult Payload)
  | manualError (code message : String)
  | otherError (name : String)

/-- `ReportDeliveryResult.status`. -/
def ReportDeliveryResult.statusText (result : ReportDeliveryResult Payload) : String :=
  if result.dryRun then "dry_run" else result.deliveryAttempt.elim "" (·.status.value)

/-! ## The audit row -/

abbrev ActionRow := Option DeliveryOperatorAction

/-- `PostgresDeliveryRecoveryAuditStore.reserve`. -/
def reserveAction (row : ActionRow) (action : DeliveryOperatorAction) : ActionRow × Bool :=
  match row with
  | none => (some action, true)
  | some existing => (some existing, false)

/-- The arguments of `complete`. -/
structure Completion where
  actionId : UUID
  status : RecoveryStatus
  deliveryId : Option UUID
  resultDeliveryStatus : Option String
  errorCode : Option String
deriving DecidableEq, Repr

/-- `PostgresDeliveryRecoveryAuditStore.complete`: the row after it, and whether its update
applied. -/
def completeAction (row : ActionRow) (completion : Completion) : ActionRow × Bool :=
  let completed := updateWhere
    (fun r : DeliveryOperatorAction => r.actionId = completion.actionId ∧ r.status = .pending)
    (fun r => { r with
      status := completion.status
      deliveryId := completion.deliveryId
      resultDeliveryStatus := completion.resultDeliveryStatus
      errorCode := completion.errorCode })
    row
  (completed.1, completed.2.isSome)

/-! ## One `retry` call -/

/-- The arguments of `retry` but for the request id, and the `uuid4` of its action. -/
structure RecoveryCall where
  reportId : String
  confirmedNotDelivered : Bool
  actionId : UUID

/-- Where a call stands: the transaction, the inspection or the port call that comes next, with
the call's local variables. -/
inductive RecoveryPhase (Payload : Type) where
  | idle
  | loading
  | inspecting
  | reserving (action : DeliveryOperatorAction) (attempt : Option (DeliveryAttempt Payload))
  | reloading
  | reconciling (action : DeliveryOperatorAction)
  | calling (action : DeliveryOperatorAction) (attempt : DeliveryAttempt Payload)
  | awaiting (action : DeliveryOperatorAction) (attempt : DeliveryAttempt Payload)
  | completing (completion : Completion) (replayed : Bool)
  | returned (result : DeliveryRecoveryResult)
  | raised (error : RecoveryError)
  | crashed

/-- `_assert_same_request` fails. -/
def RecoveryCall.Differs (call : RecoveryCall) (action : DeliveryOperatorAction) : Prop :=
  action.reportId ≠ call.reportId ∨ action.confirmedNotDelivered ≠ call.confirmedNotDelivered

instance (call : RecoveryCall) (action : DeliveryOperatorAction) :
    Decidable (call.Differs action) := by
  unfold RecoveryCall.Differs
  infer_instance

def requestConflict : RecoveryError :=
  .recovery "DELIVERY_RECOVERY_REQUEST_CONFLICT"
    "the request ID is already bound to different recovery parameters"

/-- `_assert_same_request` and the entry of `_reconcile_pending` with an action that was
found. -/
def afterFound (call : RecoveryCall) (action : DeliveryOperatorAction) : RecoveryPhase Payload :=
  if call.Differs action then .raised requestConflict
  else if action.status ≠ .pending ∨ action.priorAttemptNo = none then .returned ⟨action, true⟩
  else .reconciling action

/-- `retry` with the answer of its first `load_for_request`. -/
def afterFirstLoad (call : RecoveryCall) : ActionRow → RecoveryPhase Payload
  | some action => afterFound call action
  | none => .inspecting

/-- `retry` with the answer of `load_for_request` after a lost reservation. -/
def afterSecondLoad (call : RecoveryCall) : ActionRow → RecoveryPhase Payload
  | some action => afterFound call action
  | none => .raised (.other "RuntimeError")

/-- The action of a call, with the attempt that its inspection found; the contract model strips
the report id and bounds it. -/
def RecoveryCall.action (call : RecoveryCall) (attempt : Option (DeliveryAttempt Payload)) :
    DeliveryOperatorAction where
  actionId := call.actionId
  reportId := modelStrip call.reportId
  deliveryId := attempt.map (·.deliveryId)
  confirmedNotDelivered := call.confirmedNotDelivered
  priorStatus := attempt.elim "missing" (·.status.value)
  priorAttemptNo := attempt.map (·.attemptNo)

/-- The bounds of the contract model on the action that a call makes. -/
def DeliveryOperatorAction.valid (a : DeliveryOperatorAction) : Bool :=
  1 ≤ a.reportId.length && a.reportId.length ≤ 128 && a.priorAttemptNo != some 0

/-- `retry` with the answer of its inspection. -/
def afterInspection (call : RecoveryCall) : PortAnswer Payload → RecoveryPhase Payload
  | .manualError code message => .raised (.recovery code message)
  | .otherError name => .raised (.other name)
  | .result inspection =>
      if (call.action inspection.deliveryAttempt).valid then
        .reserving (call.action inspection.deliveryAttempt) inspection.deliveryAttempt
      else .raised .validation

/-- `retry` after its reservation. -/
def afterReservation (action : DeliveryOperatorAction) :
    Option (DeliveryAttempt Payload) → RecoveryPhase Payload
  | none =>
      .completing {
        actionId := action.actionId
        status := .rejected
        deliveryId := none
        resultDeliveryStatus := none
        errorCode := some "DELIVERY_ATTEMPT_NOT_FOUND" } false
  | some attempt => .calling action attempt

/-- The completion of an action with what its call of the retry port came back with. -/
def completionOf (action : DeliveryOperatorAction) (attempt : DeliveryAttempt Payload) :
    PortAnswer Payload → Completion
  | .manualError code _ =>
      { actionId := action.actionId
        status := .rejected
        deliveryId := some attempt.deliveryId
        resultDeliveryStatus := some attempt.status.value
        errorCode := some code }
  | .otherError name =>
      { actionId := action.actionId
        status := .failed
        deliveryId := some attempt.deliveryId
        resultDeliveryStatus := none
        errorCode := some (String.ofList (name.toList.take 64)) }
  | .result delivery =>
      let succeeded := delivery.statusText = "succeeded"
      { actionId := action.actionId
        status := if succeeded then .succeeded else .failed
        deliveryId := some (delivery.deliveryAttempt.elim attempt.deliveryId (·.deliveryId))
        resultDeliveryStatus := if delivery.statusText = "" then none else some delivery.statusText
        errorCode :=
          if succeeded then none
          else
            match delivery.deliveryAttempt with
            | some recovered => recovered.errorCode
            | none => some "DELIVERY_RECOVERY_FAILED" }

/-- The completion of a pending action with the attempt that has gone on since. -/
def reconciledCompletion (action : DeliveryOperatorAction) (attempt : DeliveryAttempt Payload) :
    Completion where
  actionId := action.actionId
  status := if attempt.status = .succeeded then .succeeded else .failed
  deliveryId := some attempt.deliveryId
  resultDeliveryStatus := some attempt.status.value
  errorCode :=
    if attempt.status = .succeeded then none
    else if attempt.errorCode.getD "" = "" then some "DELIVERY_RECOVERY_FAILED"
    else attempt.errorCode

/-- `_reconcile_pending` with the answer of its inspection. -/
def afterReconciling (action : DeliveryOperatorAction) :
    PortAnswer Payload → RecoveryPhase Payload
  | .manualError _ _ => .returned ⟨action, true⟩
  | .otherError name => .raised (.other name)
  | .result inspection =>
      match inspection.deliveryAttempt with
      | none => .returned ⟨action, true⟩
      | some attempt =>
          if attempt.attemptNo ≤ action.priorAttemptNo.getD 0 ∨ attempt.status = .pending then
            .returned ⟨action, true⟩
          else .completing (reconciledCompletion action attempt) true

/-- `complete` with the row that it reads back. -/
def afterCompletion (replayed : Bool) (actionId : UUID) : ActionRow → RecoveryPhase Payload
  | some action =>
      if action.actionId = actionId then .returned ⟨action, replayed⟩
      else .raised (.other "RuntimeError")
  | none => .raised (.other "RuntimeError")

/-! ## The system -/

/-- A transaction of a call: the row it leaves, and where the call stands after it. -/
def recoveryStep (call : RecoveryCall) (row : ActionRow) :
    RecoveryPhase Payload → Option (ActionRow × RecoveryPhase Payload)
  | .loading => some (row, afterFirstLoad call row)
  | .reserving action attempt =>
      let (row', inserted) := reserveAction row action
      some (row', if inserted then afterReservation action attempt else .reloading)
  | .reloading => some (row, afterSecondLoad call row)
  | .completing completion replayed =>
      let (row', _) := completeAction row completion
      some (row', afterCompletion replayed completion.actionId row')
  | _ => none

/-- The row of the request id, the callers with their calls, who has called the retry port, who
has inserted the row, and how often a completion applied. -/
structure RecoverySystem (Payload : Type) where
  row : ActionRow := none
  calls : ℕ → Option RecoveryCall := fun _ => none
  phases : ℕ → RecoveryPhase Payload := fun _ => .idle
  portCalls : List ℕ := []
  boundBy : Option ℕ := none
  completions : ℕ := 0

inductive RecoveryAct (Payload : Type) where
  | start (caller : ℕ) (call : RecoveryCall)
  | store (caller : ℕ)
  | inspect (caller : ℕ) (answer : PortAnswer Payload)
  | callPort (caller : ℕ)
  | reply (caller : ℕ) (answer : PortAnswer Payload)
  | crash (caller : ℕ)

def RecoverySystem.setPhase (s : RecoverySystem Payload) (c : ℕ) (p : RecoveryPhase Payload) :
    RecoverySystem Payload :=
  { s with phases := Function.update s.phases c p }

/-- One step of the callers of a request id. -/
def recoveryNext (s : RecoverySystem Payload) : RecoveryAct Payload → Option (RecoverySystem Payload)
  | .start c call =>
      match s.phases c with
      | .idle =>
          some { s.setPhase c .loading with calls := Function.update s.calls c (some call) }
      | _ => none
  | .store c =>
      (s.calls c).bind fun call =>
        (recoveryStep call s.row (s.phases c)).map fun (row, phase) =>
          { s.setPhase c phase with
            row := row
            boundBy := if s.row = none ∧ row ≠ none then some c else s.boundBy
            completions :=
              match s.phases c with
              | .completing completion _ =>
                  if (completeAction s.row completion).2 then s.completions + 1 else s.completions
              | _ => s.completions }
  | .inspect c answer =>
      (s.calls c).bind fun call =>
        match s.phases c with
        | .inspecting => some (s.setPhase c (afterInspection call answer))
        | .reconciling action => some (s.setPhase c (afterReconciling action answer))
        | _ => none
  | .callPort c =>
      match s.phases c with
      | .calling action attempt =>
          some { s.setPhase c (.awaiting action attempt) with portCalls := s.portCalls ++ [c] }
      | _ => none
  | .reply c answer =>
      match s.phases c with
      | .awaiting action attempt =>
          some (s.setPhase c (.completing (completionOf action attempt answer) false))
      | _ => none
  | .crash c => some (s.setPhase c .crashed)

def RecoveryNext : Action (RecoverySystem Payload) (RecoveryAct Payload) := ofNext recoveryNext

/-! ## What a step can do -/

/-- The action with its outcome. -/
def DeliveryOperatorAction.completed (a : DeliveryOperatorAction) (completion : Completion) :
    DeliveryOperatorAction :=
  { a with
    status := completion.status
    deliveryId := completion.deliveryId
    resultDeliveryStatus := completion.resultDeliveryStatus
    errorCode := completion.errorCode }

/-- A completion is stored in the pending row of its action, or nowhere. -/
theorem completeAction_cases (row : ActionRow) (completion : Completion) :
    (∃ r, row = some r ∧ (r.actionId = completion.actionId ∧ r.status = .pending) ∧
      completeAction row completion = (some (r.completed completion), true)) ∨
    completeAction row completion = (row, false) := by
  rcases updateWhere_cases
    (fun r : DeliveryOperatorAction => r.actionId = completion.actionId ∧ r.status = .pending)
    (fun r => { r with
      status := completion.status
      deliveryId := completion.deliveryId
      resultDeliveryStatus := completion.resultDeliveryStatus
      errorCode := completion.errorCode }) row with ⟨r, hrow, hguard, heq⟩ | ⟨-, heq⟩
  · exact Or.inl ⟨r, hrow, hguard, by simp [completeAction, heq, DeliveryOperatorAction.completed]⟩
  · exact Or.inr (by simp [completeAction, heq])

/-- Everything one step can do. -/
inductive RecoveryMove (s : RecoverySystem Payload) : RecoverySystem Payload → Prop
  | start {c : ℕ} {call : RecoveryCall} : s.phases c = .idle →
      RecoveryMove s
        { s.setPhase c .loading with calls := Function.update s.calls c (some call) }
  | crash {c : ℕ} : RecoveryMove s (s.setPhase c .crashed)
  | load {c : ℕ} {call : RecoveryCall} : s.calls c = some call → s.phases c = .loading →
      RecoveryMove s (s.setPhase c (afterFirstLoad call s.row))
  | reload {c : ℕ} {call : RecoveryCall} : s.calls c = some call → s.phases c = .reloading →
      RecoveryMove s (s.setPhase c (afterSecondLoad call s.row))
  | inspect {c : ℕ} {call : RecoveryCall} {answer : PortAnswer Payload} :
      s.calls c = some call → s.phases c = .inspecting →
      RecoveryMove s (s.setPhase c (afterInspection call answer))
  | reconcile {c : ℕ} {action : DeliveryOperatorAction} {answer : PortAnswer Payload} :
      s.phases c = .reconciling action →
      RecoveryMove s (s.setPhase c (afterReconciling action answer))
  | bind {c : ℕ} {action : DeliveryOperatorAction} {attempt : Option (DeliveryAttempt Payload)} :
      s.phases c = .reserving action attempt → s.row = none →
      RecoveryMove s { s.setPhase c (afterReservation action attempt) with
        row := some action, boundBy := some c }
  | lose {c : ℕ} {action : DeliveryOperatorAction} {attempt : Option (DeliveryAttempt Payload)} :
      s.phases c = .reserving action attempt → RecoveryMove s (s.setPhase c .reloading)
  | complete {c : ℕ} {completion : Completion} {replayed : Bool} {r : DeliveryOperatorAction} :
      s.phases c = .completing completion replayed → s.row = some r → r.status = .pending →
      RecoveryMove s { s.setPhase c (.returned ⟨r.completed completion, replayed⟩) with
        row := some (r.completed completion), completions := s.completions + 1 }
  | keep {c : ℕ} {completion : Completion} {replayed : Bool} :
      s.phases c = .completing completion replayed →
      RecoveryMove s (s.setPhase c (afterCompletion replayed completion.actionId s.row))
  | callPort {c : ℕ} {action : DeliveryOperatorAction} {attempt : DeliveryAttempt Payload} :
      s.phases c = .calling action attempt →
      RecoveryMove s { s.setPhase c (.awaiting action attempt) with
        portCalls := s.portCalls ++ [c] }
  | reply {c : ℕ} {action : DeliveryOperatorAction} {attempt : DeliveryAttempt Payload}
      {answer : PortAnswer Payload} : s.phases c = .awaiting action attempt →
      RecoveryMove s (s.setPhase c (.completing (completionOf action attempt answer) false))

/-- Every transaction is one of the moves. -/
theorem store_move {s s' : RecoverySystem Payload} {c : ℕ}
    (h : recoveryNext s (.store c) = some s') : RecoveryMove s s' := by
  simp only [recoveryNext] at h
  obtain ⟨call, hcall, hrest⟩ := Option.bind_eq_some_iff.mp h
  obtain ⟨⟨row, p⟩, hstep, rfl⟩ := Option.map_eq_some_iff.mp hrest
  cases hphase : s.phases c with
  -- only these four phases have a transaction to run
  | idle | inspecting | reconciling | calling | awaiting | returned | raised | crashed =>
    -- the caller is elsewhere, and there is no step
    rw [hphase] at hstep
    simp [recoveryStep] at hstep
  | loading =>
    rw [hphase] at hstep
    simp only [recoveryStep, Option.some.injEq, Prod.mk.injEq] at hstep
    obtain ⟨rfl, rfl⟩ := hstep
    have hmove : RecoveryMove s _ := .load hcall hphase
    simpa [RecoverySystem.setPhase] using hmove
  | reloading =>
    rw [hphase] at hstep
    simp only [recoveryStep, Option.some.injEq, Prod.mk.injEq] at hstep
    obtain ⟨rfl, rfl⟩ := hstep
    have hmove : RecoveryMove s _ := .reload hcall hphase
    simpa [RecoverySystem.setPhase] using hmove
  | reserving action attempt =>
    rw [hphase] at hstep
    -- the unique key decides who binds the request
    cases hrow : s.row with
    | none =>
      rw [hrow] at hstep
      simp only [recoveryStep, reserveAction, if_true, Option.some.injEq, Prod.mk.injEq] at hstep
      obtain ⟨rfl, rfl⟩ := hstep
      have hmove : RecoveryMove s _ := .bind hphase hrow
      simpa [RecoverySystem.setPhase] using hmove
    | some existing =>
      rw [hrow] at hstep
      simp only [recoveryStep, reserveAction, Bool.false_eq_true, if_false, Option.some.injEq,
        Prod.mk.injEq] at hstep
      obtain ⟨rfl, rfl⟩ := hstep
      have hmove : RecoveryMove s _ := .lose hphase
      simpa [RecoverySystem.setPhase, hrow] using hmove
  | completing completion replayed =>
    rw [hphase] at hstep
    -- a pending action is completed; one that is not stays as it is
    rcases completeAction_cases s.row completion with ⟨r, hrow, hguard, heq⟩ | heq
    · simp only [recoveryStep, heq, Option.some.injEq, Prod.mk.injEq] at hstep
      obtain ⟨rfl, rfl⟩ := hstep
      have hmove : RecoveryMove s _ := .complete hphase hrow hguard.2
      have hafter : (afterCompletion replayed completion.actionId
          (some (r.completed completion)) : RecoveryPhase Payload) =
            .returned ⟨r.completed completion, replayed⟩ := if_pos hguard.1
      rw [hrow] at heq
      simpa [RecoverySystem.setPhase, hafter, heq, hrow] using hmove
    · simp only [recoveryStep, heq, Option.some.injEq, Prod.mk.injEq] at hstep
      obtain ⟨rfl, rfl⟩ := hstep
      have hmove : RecoveryMove s _ := .keep hphase
      simpa [RecoverySystem.setPhase, heq] using hmove

/-- Every step is one of the moves. -/
theorem recoveryNext_move {s s' : RecoverySystem Payload} {a : RecoveryAct Payload}
    (h : RecoveryNext s a s') : RecoveryMove s s' := by
  change recoveryNext s a = some s' at h
  cases a with
  | store c => exact store_move h
  | start c call =>
    cases hp : s.phases c <;> simp only [recoveryNext, hp, Option.some.injEq, reduceCtorEq] at h
    subst h
    exact .start hp
  | inspect c answer =>
    simp only [recoveryNext] at h
    obtain ⟨call, hcall, hrest⟩ := Option.bind_eq_some_iff.mp h
    -- a first inspection, or the one of a reconciliation
    cases hp : s.phases c <;> simp only [hp, Option.some.injEq, reduceCtorEq] at hrest
    · subst hrest
      exact .inspect hcall hp
    · subst hrest
      exact .reconcile hp
  | callPort c =>
    cases hp : s.phases c <;> simp only [recoveryNext, hp, Option.some.injEq, reduceCtorEq] at h
    subst h
    exact .callPort hp
  | reply c answer =>
    cases hp : s.phases c <;> simp only [recoveryNext, hp, Option.some.injEq, reduceCtorEq] at h
    subst h
    exact .reply hp
  | crash c =>
    cases h
    exact .crash

end MacroPlatform.Delivery
