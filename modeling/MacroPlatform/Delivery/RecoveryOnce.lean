import MacroPlatform.Delivery.Recovery

/-! # A recovery request is carried out once

The caller that inserts the audit row is the only one that comes to the retry port, and it comes
there once. Every other caller reads the row, whose parameters never change, and leaves with its
outcome or with the conflict.

* `move_audited`: the invariant of the callers of a request id, one case for each step;
* `refused_of_differs`: a caller with other parameters that reads the bound row is refused;
* `recovery_idempotent`: one call of the port, one completion and the conflict, over every run.
-/

namespace MacroPlatform.Delivery

open Transition

variable {Payload : Type}

/-! ## What is known of a caller -/

/-- The caller has bound the request, or has found it bound with its own parameters. -/
def Entitled (row : ActionRow) (boundBy : Option ℕ) (c : ℕ) (call : Option RecoveryCall) : Prop :=
  boundBy = some c ∨ ∃ k a, call = some k ∧ row = some a ∧ ¬ k.Differs a

/-- What is known of a caller by where it stands. -/
def RecoveryCallerOk (row : ActionRow) (boundBy : Option ℕ) (c : ℕ) (call : Option RecoveryCall) :
    RecoveryPhase Payload → Prop
  | .idle => call = none
  | .calling .. | .awaiting .. => boundBy = some c
  | .reserving action _ => action.status = .pending
  | .completing completion _ =>
      completion.status ≠ .pending ∧ Entitled row boundBy c call
  | .reconciling _ | .returned _ => Entitled row boundBy c call
  | _ => True

/-- The caller has called the port, or never will. -/
def RecoveryPhase.Past : RecoveryPhase Payload → Prop
  | .awaiting .. | .completing .. | .returned _ | .raised _ | .crashed => True
  | _ => False

/-- The invariant of the callers of a request id. -/
structure Audited (s : RecoverySystem Payload) : Prop where
  bound : s.boundBy = none ↔ s.row = none
  callers : ∀ c, RecoveryCallerOk s.row s.boundBy c (s.calls c) (s.phases c)
  called : s.portCalls = [] ∨
    ∃ c, s.portCalls = [c] ∧ s.boundBy = some c ∧ (s.phases c).Past
  count : s.completions = s.row.elim 0 fun a => if a.status = .pending then 0 else 1

theorem audited_init : Audited ({} : RecoverySystem Payload) :=
  ⟨iff_of_true rfl rfl, fun _ => rfl, Or.inl rfl, rfl⟩

/-! ## What stays as it is -/

/-- The parameters of a bound request, and its binder, stay; a completed action stays whole. -/
structure RowKept (s s' : RecoverySystem Payload) : Prop where
  row : ∀ a, s.row = some a → ∃ a', s'.row = some a' ∧ a'.reportId = a.reportId ∧
    a'.confirmedNotDelivered = a.confirmedNotDelivered ∧ (a.status ≠ .pending → a' = a)
  boundBy : ∀ c, s.boundBy = some c → s'.boundBy = some c

theorem rowKept_of_eq {s s' : RecoverySystem Payload} (hrow : s'.row = s.row)
    (hboundBy : s'.boundBy = s.boundBy) : RowKept s s' :=
  ⟨fun a ha => ⟨a, hrow.trans ha, rfl, rfl, fun _ => rfl⟩, fun _ hc => hboundBy.trans hc⟩

/-- A row that is bound stays bound, and a completed one as it is. -/
theorem move_rowKept {s s' : RecoverySystem Payload} (h : RecoveryMove s s')
    (haudited : Audited s) : RowKept s s' := by
  cases h with
  -- no step but two writes the row
  | start | crash | load | reload | inspect | reconcile | lose | keep | callPort | reply =>
    exact rowKept_of_eq rfl rfl
  | bind _ hrow =>
    refine ⟨?_, ?_⟩
    -- the row was free, so there is nothing to keep
    · intro a ha
      rw [hrow] at ha
      cases ha
    · intro d hd
      rw [haudited.bound.mpr hrow] at hd
      cases hd
  -- a completion keeps the identity and the parameters of the action
  | @complete c completion replayed r _ hrow hpending =>
    refine ⟨?_, fun d hd => hd⟩
    intro a ha
    rw [hrow] at ha
    cases ha
    exact ⟨_, rfl, rfl, rfl, fun hnot => absurd hpending hnot⟩

theorem Entitled.kept {s s' : RecoverySystem Payload} (hkept : RowKept s s') {c : ℕ}
    {call : Option RecoveryCall} (h : Entitled s.row s.boundBy c call) :
    Entitled s'.row s'.boundBy c call := by
  rcases h with hbound | ⟨k, a, hcall, hrow, hsame⟩
  · exact Or.inl (hkept.boundBy c hbound)
  · obtain ⟨a', hrow', hreport, hconfirmed, -⟩ := hkept.row a hrow
    refine Or.inr ⟨k, a', hcall, hrow', ?_⟩
    unfold RecoveryCall.Differs
    rw [hreport, hconfirmed]
    exact hsame

theorem RecoveryCallerOk.kept {s s' : RecoverySystem Payload} (hkept : RowKept s s') {c : ℕ}
    {call : Option RecoveryCall} {p : RecoveryPhase Payload}
    (h : RecoveryCallerOk s.row s.boundBy c call p) :
    RecoveryCallerOk s'.row s'.boundBy c call p := by
  cases p with
  | loading | inspecting | reloading | raised | crashed => trivial
  | idle | reserving => exact h
  | calling | awaiting => exact hkept.boundBy c h
  | reconciling | returned => exact Entitled.kept hkept h
  | completing => exact ⟨h.1, Entitled.kept hkept h.2⟩

/-- One caller moves on; what is known of the others stays known. -/
theorem callers_update {s s' : RecoverySystem Payload} {c : ℕ} {p : RecoveryPhase Payload}
    (h : ∀ d, RecoveryCallerOk s.row s.boundBy d (s.calls d) (s.phases d)) (hkept : RowKept s s')
    (hphases : s'.phases = Function.update s.phases c p)
    (hcalls : ∀ d, d ≠ c → s'.calls d = s.calls d)
    (hp : RecoveryCallerOk s'.row s'.boundBy c (s'.calls c) p) :
    ∀ d, RecoveryCallerOk s'.row s'.boundBy d (s'.calls d) (s'.phases d) := by
  intro d
  rw [hphases]
  by_cases hd : d = c
  · subst hd
    rw [Function.update_self]
    exact hp
  · rw [Function.update_of_ne hd, hcalls d hd]
    exact (h d).kept hkept

/-- The port caller stays past its call. -/
theorem called_update {s s' : RecoverySystem Payload} {c : ℕ} {p : RecoveryPhase Payload}
    (h : s.portCalls = [] ∨ ∃ c, s.portCalls = [c] ∧ s.boundBy = some c ∧ (s.phases c).Past)
    (hkept : RowKept s s') (hportCalls : s'.portCalls = s.portCalls)
    (hphases : s'.phases = Function.update s.phases c p) (hp : (s.phases c).Past → p.Past) :
    s'.portCalls = [] ∨
      ∃ c, s'.portCalls = [c] ∧ s'.boundBy = some c ∧ (s'.phases c).Past := by
  rw [hportCalls, hphases]
  rcases h with hnone | ⟨d, hcalls, hbound, hpast⟩
  · exact Or.inl hnone
  · refine Or.inr ⟨d, hcalls, hkept.boundBy d hbound, ?_⟩
    by_cases hd : d = c
    · subst hd
      rw [Function.update_self]
      exact hp hpast
    · rw [Function.update_of_ne hd]
      exact hpast

/-! ## One lemma for each continuation -/

theorem callerOk_afterFound {row : ActionRow} {boundBy : Option ℕ} {c : ℕ} {call : RecoveryCall}
    {action : DeliveryOperatorAction} (hrow : row = some action) :
    RecoveryCallerOk row boundBy c (some call)
      (afterFound call action : RecoveryPhase Payload) := by
  unfold afterFound
  split_ifs with hdiffers hdone
  · trivial
  · exact Or.inr ⟨call, action, rfl, hrow, hdiffers⟩
  · exact Or.inr ⟨call, action, rfl, hrow, hdiffers⟩

theorem callerOk_afterFirstLoad (row : ActionRow) (boundBy : Option ℕ) (c : ℕ)
    (call : RecoveryCall) :
    RecoveryCallerOk row boundBy c (some call)
      (afterFirstLoad call row : RecoveryPhase Payload) := by
  cases row with
  | none => trivial
  | some action => exact callerOk_afterFound rfl

theorem callerOk_afterSecondLoad (row : ActionRow) (boundBy : Option ℕ) (c : ℕ)
    (call : RecoveryCall) :
    RecoveryCallerOk row boundBy c (some call)
      (afterSecondLoad call row : RecoveryPhase Payload) := by
  cases row with
  | none => trivial
  | some action => exact callerOk_afterFound rfl

theorem callerOk_afterInspection (row : ActionRow) (boundBy : Option ℕ) (c : ℕ)
    (called : Option RecoveryCall) (call : RecoveryCall) (answer : PortAnswer Payload) :
    RecoveryCallerOk row boundBy c called (afterInspection call answer) := by
  cases answer with
  | manualError | otherError => trivial
  | result inspection =>
    simp only [afterInspection]
    cases (call.action inspection.deliveryAttempt).valid with
    | true => exact (rfl : (call.action inspection.deliveryAttempt).status = .pending)
    | false => exact True.intro

theorem reconciledCompletion_status (action : DeliveryOperatorAction)
    (attempt : DeliveryAttempt Payload) :
    (reconciledCompletion action attempt).status ≠ .pending := by
  simp only [reconciledCompletion]
  split_ifs <;> decide

/-- A reconciliation leads its caller to where it may stand. -/
theorem callerOk_afterReconciling {row : ActionRow} {boundBy : Option ℕ} {c : ℕ}
    {called : Option RecoveryCall} (h : Entitled row boundBy c called)
    (action : DeliveryOperatorAction) (answer : PortAnswer Payload) :
    RecoveryCallerOk row boundBy c called (afterReconciling action answer) := by
  cases answer with
  | manualError => exact h
  | otherError => trivial
  | result inspection =>
    simp only [afterReconciling]
    cases inspection.deliveryAttempt with
    | none => exact h
    | some attempt =>
      simp only []
      split_ifs
      · exact h
      · exact ⟨reconciledCompletion_status action attempt, h⟩

theorem callerOk_afterReservation {row : ActionRow} {boundBy : Option ℕ} {c : ℕ}
    (called : Option RecoveryCall) (hbound : boundBy = some c) (action : DeliveryOperatorAction)
    (attempt : Option (DeliveryAttempt Payload)) :
    RecoveryCallerOk row boundBy c called (afterReservation action attempt) := by
  cases attempt with
  | none => exact ⟨nofun, Or.inl hbound⟩
  | some attempt => exact hbound

theorem completionOf_status (action : DeliveryOperatorAction) (attempt : DeliveryAttempt Payload)
    (answer : PortAnswer Payload) : (completionOf action attempt answer).status ≠ .pending := by
  cases answer with
  | manualError | otherError => exact nofun
  | result delivery =>
    show (if delivery.statusText = "succeeded" then RecoveryStatus.succeeded else .failed) ≠
      .pending
    split_ifs <;> decide

/-- So does a completion. -/
theorem callerOk_afterCompletion {row : ActionRow} {boundBy : Option ℕ} {c : ℕ}
    {called : Option RecoveryCall} (h : Entitled row boundBy c called) (replayed : Bool)
    (actionId : UUID) :
    RecoveryCallerOk row boundBy c called
      (afterCompletion replayed actionId row : RecoveryPhase Payload) := by
  cases row with
  | none => trivial
  | some action =>
    simp only [afterCompletion]
    split_ifs
    · exact h
    · trivial

/-! ## The invariant -/

/-- Each move keeps the audit. -/
theorem move_audited {s s' : RecoverySystem Payload} (hmove : RecoveryMove s s') (h : Audited s) :
    Audited s' := by
  have hkept := move_rowKept hmove h
  -- a caller that is not past its port call may go anywhere
  have early : ∀ {c : ℕ} {p q : RecoveryPhase Payload}, s.phases c = p → ¬ p.Past →
      (s.phases c).Past → q.Past := by
    intro c p q hphase hnot hpast
    rw [hphase] at hpast
    exact absurd hpast hnot
  cases hmove with
  | start hidle =>
    exact ⟨h.bound, callers_update h.callers hkept rfl
      (fun d hd => Function.update_of_ne hd _ _) trivial,
      called_update h.called hkept rfl rfl (early hidle id), h.count⟩
  | crash =>
    exact ⟨h.bound, callers_update h.callers hkept rfl (fun _ _ => rfl) trivial,
      called_update h.called hkept rfl rfl (fun _ => trivial), h.count⟩
  | @load c call hcall hphase =>
    refine ⟨h.bound, callers_update h.callers hkept rfl (fun _ _ => rfl) ?_,
      called_update h.called hkept rfl rfl (early hphase id), h.count⟩
    show RecoveryCallerOk s.row s.boundBy c (s.calls c) _
    rw [hcall]
    exact callerOk_afterFirstLoad s.row s.boundBy c call
  | @reload c call hcall hphase =>
    refine ⟨h.bound, callers_update h.callers hkept rfl (fun _ _ => rfl) ?_,
      called_update h.called hkept rfl rfl (early hphase id), h.count⟩
    show RecoveryCallerOk s.row s.boundBy c (s.calls c) _
    rw [hcall]
    exact callerOk_afterSecondLoad s.row s.boundBy c call
  | @inspect c call answer hcall hphase =>
    exact ⟨h.bound, callers_update h.callers hkept rfl (fun _ _ => rfl)
      (callerOk_afterInspection s.row s.boundBy c (s.calls c) call answer),
      called_update h.called hkept rfl rfl (early hphase id), h.count⟩
  | @reconcile c action answer hphase =>
    have hentitled := h.callers c
    rw [hphase] at hentitled
    exact ⟨h.bound, callers_update h.callers hkept rfl (fun _ _ => rfl)
      (callerOk_afterReconciling hentitled action answer),
      called_update h.called hkept rfl rfl (early hphase id), h.count⟩
  | @bind c action attempt hphase hrow =>
    have hpending : action.status = .pending := by
      have hcaller := h.callers c
      rw [hphase] at hcaller
      exact hcaller
    refine ⟨by simp, callers_update h.callers hkept rfl (fun _ _ => rfl)
      (callerOk_afterReservation (s.calls c) rfl action attempt), ?_, ?_⟩
    · -- nobody has called the port before the request was bound
      rcases h.called with hnone | ⟨d, -, hbound, -⟩
      · exact Or.inl hnone
      · rw [h.bound.mpr hrow] at hbound
        cases hbound
    · have hcount := h.count
      rw [hrow] at hcount
      show s.completions = if action.status = .pending then 0 else 1
      rw [if_pos hpending]
      exact hcount
  | @lose c action attempt hphase =>
    exact ⟨h.bound, callers_update h.callers hkept rfl (fun _ _ => rfl) trivial,
      called_update h.called hkept rfl rfl (early hphase id), h.count⟩
  | @complete c completion replayed r hphase hrow hpending =>
    have hcaller := h.callers c
    rw [hphase] at hcaller
    refine ⟨?_, callers_update h.callers hkept rfl (fun _ _ => rfl)
      (Entitled.kept hkept hcaller.2),
      called_update h.called hkept rfl rfl (fun _ => trivial), ?_⟩
    · show s.boundBy = none ↔ some _ = none
      rw [h.bound, hrow]
      simp
    · have hcount := h.count
      rw [hrow] at hcount
      change s.completions = if r.status = .pending then 0 else 1 at hcount
      rw [if_pos hpending] at hcount
      show s.completions + 1 = if completion.status = .pending then 0 else 1
      rw [if_neg hcaller.1, hcount]
  | @keep c completion replayed hphase =>
    have hcaller := h.callers c
    rw [hphase] at hcaller
    refine ⟨h.bound, callers_update h.callers hkept rfl (fun _ _ => rfl)
      (callerOk_afterCompletion hcaller.2 replayed completion.actionId),
      called_update h.called hkept rfl rfl ?_, h.count⟩
    intro _
    cases s.row with
    | none => trivial
    | some action =>
      simp only [afterCompletion]
      split_ifs <;> trivial
  | @callPort c action attempt hphase =>
    have hbound := h.callers c
    rw [hphase] at hbound
    refine ⟨h.bound, callers_update h.callers hkept rfl (fun _ _ => rfl) hbound, ?_, h.count⟩
    rcases h.called with hnone | ⟨d, -, hboundBy, hpast⟩
    · refine Or.inr ⟨c, ?_, hbound, ?_⟩
      · show s.portCalls ++ [c] = [c]
        rw [hnone]
        rfl
      · show (Function.update s.phases c _ c).Past
        rw [Function.update_self]
        trivial
    · -- the binder has called already, and it stands before its call
      have hsame : s.boundBy = some c := hbound
      rw [hboundBy] at hsame
      cases hsame
      rw [hphase] at hpast
      exact hpast.elim
  | @reply c action attempt answer hphase =>
    have hbound := h.callers c
    rw [hphase] at hbound
    exact ⟨h.bound, callers_update h.callers hkept rfl (fun _ _ => rfl)
      ⟨completionOf_status action attempt answer, Or.inl hbound⟩,
      called_update h.called hkept rfl rfl (fun _ => trivial), h.count⟩

theorem run_audited {s s' : RecoverySystem Payload} {acts : List (RecoveryAct Payload)}
    (h : Run RecoveryNext s acts s') (hs : Audited s) : Audited s' :=
  run_invariant Audited (fun _ _ _ hstep => move_audited (recoveryNext_move hstep)) h hs

/-! ## A later call with other parameters -/

/-- A call that is refused, or is about to be. -/
def RecoveryPhase.Refused : RecoveryPhase Payload → Prop
  | .loading | .crashed => True
  | .raised error => error = requestConflict
  | _ => False

/-- A caller that had not begun when the request was bound to `a`. -/
structure Later (a : DeliveryOperatorAction) (c : ℕ) (s : RecoverySystem Payload) : Prop where
  audited : Audited s
  row : ∃ a', s.row = some a' ∧ a'.reportId = a.reportId ∧
    a'.confirmedNotDelivered = a.confirmedNotDelivered
  caller : s.phases c = .idle ∨ (s.phases c = .crashed ∧ s.calls c = none) ∨
    ∃ call, s.calls c = some call ∧
      (call.Differs a → (s.phases c).Refused ∧ c ∉ s.portCalls)

theorem not_called_of_idle {s : RecoverySystem Payload} (h : Audited s) {c : ℕ}
    (hidle : s.phases c = .idle) : c ∉ s.portCalls := by
  intro hmem
  rcases h.called with hnone | ⟨d, hcalls, -, hpast⟩
  · rw [hnone] at hmem
    exact absurd hmem List.not_mem_nil
  · rw [hcalls, List.mem_singleton] at hmem
    rw [← hmem, hidle] at hpast
    exact hpast

/-- What a step does to the caller that takes it: it begins, is stopped, looks the request up for
the first time, or goes on from a phase that no refused call comes to. -/
inductive Moved (s s' : RecoverySystem Payload) (d : ℕ) : Prop
  | begun (call : RecoveryCall) : s.phases d = .idle → s'.phases d = .loading →
      s'.calls d = some call → s'.portCalls = s.portCalls → Moved s s' d
  | stopped : s'.phases d = .crashed → s'.calls d = s.calls d → s'.portCalls = s.portCalls →
      Moved s s' d
  | looked (call : RecoveryCall) : s.calls d = some call → s.phases d = .loading →
      s'.phases d = afterFirstLoad call s.row → s'.calls d = s.calls d →
      s'.portCalls = s.portCalls → Moved s s' d
  | further : ¬ (s.phases d).Refused → s.phases d ≠ .idle → s'.calls d = s.calls d →
      Moved s s' d

/-- A step moves one caller, and the others stay where they are. -/
theorem move_moved {s s' : RecoverySystem Payload} (h : RecoveryMove s s') : ∃ d, Moved s s' d ∧
    ∀ e, e ≠ d → s'.phases e = s.phases e ∧ s'.calls e = s.calls e ∧
      (e ∈ s'.portCalls → e ∈ s.portCalls) := by
  -- `other` for the callers that stay, `further` for a caller that goes on
  have other : ∀ {c e : ℕ} {p : RecoveryPhase Payload}, e ≠ c →
      Function.update s.phases c p e = s.phases e := fun hne => Function.update_of_ne hne _ _
  have further : ∀ {c : ℕ} {p : RecoveryPhase Payload} {t : RecoverySystem Payload},
      s.phases c = p → ¬ p.Refused → p ≠ .idle → t.calls c = s.calls c → Moved s t c := by
    intro c p t hphase hnot hidle hcalls
    exact .further (hphase ▸ hnot) (hphase ▸ hidle) hcalls
  cases h with
  | @start c call hidle =>
    exact ⟨c, .begun call hidle (Function.update_self ..) (Function.update_self ..) rfl,
      fun e he => ⟨other he, Function.update_of_ne he _ _, id⟩⟩
  | @crash c =>
    exact ⟨c, .stopped (Function.update_self ..) rfl rfl, fun e he => ⟨other he, rfl, id⟩⟩
  | @load c call hcall hphase =>
    exact ⟨c, .looked call hcall hphase (Function.update_self ..) rfl rfl,
      fun e he => ⟨other he, rfl, id⟩⟩
  -- the caller is added to the port calls, and nobody else
  | @callPort c _ _ hphase =>
    refine ⟨c, further hphase id nofun rfl, fun e he => ⟨other he, rfl, ?_⟩⟩
    intro hmem
    rcases List.mem_append.mp hmem with hbefore | hlast
    · exact hbefore
    · exact absurd (List.mem_singleton.mp hlast) he
  -- the remaining moves change a phase alone
  | @reload c _ _ hphase | @inspect c _ _ _ hphase | @reconcile c _ _ hphase
  | @bind c _ _ hphase _ | @lose c _ _ hphase | @complete c _ _ _ hphase _ _
  | @keep c _ _ hphase | @reply c _ _ _ hphase =>
    exact ⟨c, further hphase id nofun rfl, fun e he => ⟨other he, rfl, id⟩⟩

/-- A caller whose call differs from the bound request is refused at its first transaction. -/
theorem afterFirstLoad_refused {a a' : DeliveryOperatorAction} {call : RecoveryCall}
    (hreport : a'.reportId = a.reportId)
    (hconfirmed : a'.confirmedNotDelivered = a.confirmedNotDelivered) (hdiffers : call.Differs a) :
    (afterFirstLoad call (some a') : RecoveryPhase Payload) = .raised requestConflict := by
  refine if_pos ?_
  unfold RecoveryCall.Differs
  rw [hreport, hconfirmed]
  exact hdiffers

/-- The next transaction of the caller raises the conflict. -/
def RefusedNext (s : RecoverySystem Payload) (c : ℕ) : Prop :=
  ∃ s', RecoveryNext s (.store c) s' ∧ s'.phases c = .raised requestConflict

/-- A caller's transaction is a step of the system. -/
theorem store_exists {s : RecoverySystem Payload} {c : ℕ} {call : RecoveryCall} {row : ActionRow}
    {p : RecoveryPhase Payload} (hcall : s.calls c = some call)
    (hstep : recoveryStep call s.row (s.phases c) = some (row, p)) :
    ∃ s', RecoveryNext s (.store c) s' ∧ s'.phases c = p ∧ s'.row = row := by
  obtain ⟨s', hs', hphase, hrow⟩ : ∃ s', recoveryNext s (.store c) = some s' ∧
      s'.phases c = p ∧ s'.row = row := by
    simp only [recoveryNext, hcall, hstep, Option.bind_some, Option.map_some, Option.some.injEq,
      exists_eq_left', RecoverySystem.setPhase, Function.update_self, and_self]
  exact ⟨s', hs', hphase, hrow⟩

/-- A caller with other parameters than the bound request's, at one of its two reads of the row,
is refused by that read. -/
theorem refused_of_differs {s : RecoverySystem Payload} {a : DeliveryOperatorAction} {c : ℕ}
    {call : RecoveryCall} (hrow : s.row = some a) (hcall : s.calls c = some call)
    (hdiffers : call.Differs a) (hphase : s.phases c = .loading ∨ s.phases c = .reloading) :
    RefusedNext s c := by
  have hfound : (afterFound call a : RecoveryPhase Payload) = .raised requestConflict :=
    if_pos hdiffers
  -- either read finds the row, and `_assert_same_request` compares it
  have hstep : recoveryStep call s.row (s.phases c) =
      some (some a, .raised requestConflict) := by
    rcases hphase with hloading | hreloading
    · rw [hloading, hrow, ← hfound]
      rfl
    · rw [hreloading, hrow, ← hfound]
      rfl
  obtain ⟨s', hnext, hraised, -⟩ := store_exists hcall hstep
  exact ⟨s', hnext, hraised⟩

/-- A caller that comes to its reservation when the request is bound loses it, and reads the row
again. -/
theorem reloads_of_bound {s : RecoverySystem Payload} {a action : DeliveryOperatorAction} {c : ℕ}
    {call : RecoveryCall} {attempt : Option (DeliveryAttempt Payload)} (hrow : s.row = some a)
    (hcall : s.calls c = some call) (hphase : s.phases c = .reserving action attempt) :
    ∃ s', RecoveryNext s (.store c) s' ∧ s'.phases c = .reloading ∧ s'.row = some a := by
  have hstep : recoveryStep call s.row (s.phases c) = some (some a, .reloading) := by
    rw [hphase, hrow]
    rfl
  exact store_exists hcall hstep

/-- What comes after a completed action leaves it. -/
theorem move_later {s s' : RecoverySystem Payload} {a : DeliveryOperatorAction} {c : ℕ}
    (hmove : RecoveryMove s s') (h : Later a c s) : Later a c s' := by
  have haudited := move_audited hmove h.audited
  -- the parameters of the bound row never change
  have hrow : ∃ a', s'.row = some a' ∧ a'.reportId = a.reportId ∧
      a'.confirmedNotDelivered = a.confirmedNotDelivered := by
    obtain ⟨a', ha', hreport, hconfirmed⟩ := h.row
    obtain ⟨b, hb, hreport', hconfirmed', -⟩ := (move_rowKept hmove h.audited).row a' ha'
    exact ⟨b, hb, hreport'.trans hreport, hconfirmed'.trans hconfirmed⟩
  refine ⟨haudited, hrow, ?_⟩
  obtain ⟨d, hmoved, hothers⟩ := move_moved hmove
  -- the caller takes the step itself, or another one does
  by_cases hc : c = d
  · subst hc
    cases hmoved with
    -- the later call begins, and has not called the port
    | begun call hidle hloading hcall hports =>
      refine Or.inr (Or.inr ⟨call, hcall, fun _ => ⟨?_, ?_⟩⟩)
      · rw [hloading]
        trivial
      · rw [hports]
        exact not_called_of_idle h.audited hidle
    -- a stopped caller calls nothing any more
    | stopped hcrashed hcalls hports =>
      rw [hcrashed, hcalls, hports]
      rcases h.caller with hidle | ⟨-, hnone⟩ | ⟨call, hcall, hrefused⟩
      · have hnone := h.audited.callers c
        rw [hidle] at hnone
        exact Or.inr (Or.inl ⟨rfl, hnone⟩)
      · exact Or.inr (Or.inl ⟨rfl, hnone⟩)
      · exact Or.inr (Or.inr ⟨call, hcall, fun hdiffers => ⟨trivial, (hrefused hdiffers).2⟩⟩)
    -- its first transaction reads the bound row, and compares the parameters
    | looked call hcall hloading hafter hcalls hports =>
      refine Or.inr (Or.inr ⟨call, hcalls.trans hcall, ?_⟩)
      intro hdiffers
      rw [hafter, hports]
      obtain ⟨a', ha', hreport, hconfirmed⟩ := h.row
      rw [ha', afterFirstLoad_refused hreport hconfirmed hdiffers]
      refine ⟨rfl, ?_⟩
      rcases h.caller with hidle | ⟨-, hnone⟩ | ⟨called, hcalled, hrefused⟩
      · rw [hloading] at hidle
        cases hidle
      · rw [hcall] at hnone
        cases hnone
      · rw [hcall] at hcalled
        cases hcalled
        exact (hrefused hdiffers).2
    -- a caller that was refused makes no further step
    | further hnot hidle hcalls =>
      rcases h.caller with hphase | ⟨hcrashed, -⟩ | ⟨call, hcall, hrefused⟩
      · exact absurd hphase hidle
      · rw [hcrashed] at hnot
        exact absurd trivial hnot
      · exact Or.inr (Or.inr ⟨call, hcalls.trans hcall,
          fun hdiffers => absurd (hrefused hdiffers).1 hnot⟩)
  -- the caller stays where it is
  · obtain ⟨hphases, hcalls, hports⟩ := hothers c hc
    rw [hphases, hcalls]
    rcases h.caller with hidle | hstopped | ⟨call, hcall, hrefused⟩
    · exact Or.inl hidle
    · exact Or.inr (Or.inl hstopped)
    · exact Or.inr (Or.inr ⟨call, hcall, fun hdiffers =>
        ⟨(hrefused hdiffers).1, fun hmem => (hrefused hdiffers).2 (hports hmem)⟩⟩)

theorem run_later {s s' : RecoverySystem Payload} {a : DeliveryOperatorAction} {c : ℕ}
    {acts : List (RecoveryAct Payload)} (h : Run RecoveryNext s acts s') (hs : Later a c s) :
    Later a c s' :=
  run_invariant (Later a c) (fun _ _ _ hstep => move_later (recoveryNext_move hstep)) h hs

/-! ## The request -/

/-- A completed action is never written again. -/
theorem run_completed {s s' : RecoverySystem Payload} {acts : List (RecoveryAct Payload)}
    {a : DeliveryOperatorAction} (h : Run RecoveryNext s acts s') (haudited : Audited s)
    (hrow : s.row = some a) (hcompleted : a.status ≠ .pending) : s'.row = some a := by
  have hboth : Audited s' ∧ s'.row = some a := by
    refine run_invariant (fun t : RecoverySystem Payload => Audited t ∧ t.row = some a) ?_ h
      ⟨haudited, hrow⟩
    rintro t act t' hstep ⟨ht, hrowt⟩
    have hmove := recoveryNext_move hstep
    obtain ⟨a', ha', -, -, hsame⟩ := (move_rowKept hmove ht).row a hrowt
    exact ⟨move_audited hmove ht, by rw [ha', hsame hcompleted]⟩
  exact hboth.2

/-- In every interleaving of the calls with one request id: the retry port is called at most
once, by the caller that bound the request; the action leaves `pending` at most once and is never
written afterwards. A caller that found the request bound to other parameters never calls the port
and never returns: a reservation that it comes to is lost, and the first read of the row that it
makes afterwards raises the conflict. One that began when the request was bound comes to nothing
but that conflict. -/
theorem recovery_idempotent (acts : List (RecoveryAct Payload)) (s : RecoverySystem Payload)
    (h : Run RecoveryNext {} acts s) :
    s.portCalls.length ≤ 1 ∧ s.completions ≤ 1 ∧
      (∀ a, s.row = some a → a.status ≠ .pending →
        ∀ more s', Run RecoveryNext s more s' → s'.row = some a) ∧
      (∀ c, c ∈ s.portCalls → s.boundBy = some c) ∧
      (∀ a c call, s.row = some a → s.boundBy ≠ some c → s.calls c = some call →
        call.Differs a → c ∉ s.portCalls ∧ (∀ result, s.phases c ≠ .returned result) ∧
          (s.phases c = .loading ∨ s.phases c = .reloading → RefusedNext s c) ∧
          ∀ action attempt, s.phases c = .reserving action attempt →
            ∃ s', RecoveryNext s (.store c) s' ∧ s'.phases c = .reloading ∧ s'.row = some a) ∧
      (∀ a c, s.row = some a → s.phases c = .idle → ∀ more s' call, Run RecoveryNext s more s' →
        s'.calls c = some call → call.Differs a → c ∉ s'.portCalls ∧ (s'.phases c).Refused ∧
          (s'.phases c = .loading → RefusedNext s' c)) := by
  have haudited := run_audited h audited_init
  have hports : ∀ c, c ∈ s.portCalls → s.boundBy = some c := by
    intro c hmem
    rcases haudited.called with hnone | ⟨d, hcalls, hbound, -⟩
    · rw [hnone] at hmem
      exact absurd hmem List.not_mem_nil
    · rw [hcalls, List.mem_singleton] at hmem
      rw [hmem]
      exact hbound
  refine ⟨?_, ?_, ?_, hports, ?_, ?_⟩
  · rcases haudited.called with hnone | ⟨d, hcalls, -⟩
    · rw [hnone]
      exact Nat.zero_le 1
    · rw [hcalls]
      exact Nat.le_refl 1
  · rw [haudited.count]
    cases s.row with
    | none => exact Nat.zero_le 1
    | some a =>
      simp only [Option.elim]
      split_ifs <;> omega
  · intro a hrow hcompleted more s' hmore
    exact run_completed hmore haudited hrow hcompleted
  · intro a c call hrow hother hcall hdiffers
    refine ⟨fun hmem => hother (hports c hmem), ?_, refused_of_differs hrow hcall hdiffers,
      fun _ _ hreserving => reloads_of_bound hrow hcall hreserving⟩
    intro result hreturned
    have hcaller := haudited.callers c
    rw [hreturned] at hcaller
    rcases hcaller with hbound | ⟨k, b, hk, hb, hsame⟩
    · exact hother hbound
    · rw [hcall] at hk
      rw [hrow] at hb
      cases hk
      cases hb
      exact hsame hdiffers
  · intro a c hrow hidle more s' call hmore hcall hdiffers
    have hlater := run_later hmore ⟨haudited, ⟨a, hrow, rfl, rfl⟩, Or.inl hidle⟩
    have hcaller : (s'.phases c).Refused ∧ c ∉ s'.portCalls := by
      rcases hlater.caller with hstill | ⟨-, hnone⟩ | ⟨called, hcalled, hrefused⟩
      · have hnone := hlater.audited.callers c
        rw [hstill] at hnone
        rw [hcall] at hnone
        cases hnone
      · rw [hcall] at hnone
        cases hnone
      · rw [hcall] at hcalled
        cases hcalled
        exact hrefused hdiffers
    refine ⟨hcaller.2, hcaller.1, ?_⟩
    intro hloading
    obtain ⟨a', ha', hreport, hconfirmed⟩ := hlater.row
    -- the row may have been completed since, but its parameters are those of `a`
    have hdiffers' : call.Differs a' := by
      unfold RecoveryCall.Differs
      rw [hreport, hconfirmed]
      exact hdiffers
    exact refused_of_differs ha' hcall hdiffers' (Or.inl hloading)

/-- An operator retries an uncertain delivery, and the retry succeeds; meanwhile the request id
comes once more, without the confirmation, and its call loses the reservation. -/
def sampleRecovery : List (RecoveryAct Unit) :=
  let attempt : DeliveryAttempt Unit :=
    { deliveryId := 7, attemptNo := 1, status := .uncertain, requestPayload := () }
  [.start 0 ⟨"daily-report-2026-07-28-1.0.0", true, 3⟩, .store 0,
    .start 1 ⟨"daily-report-2026-07-28-1.0.0", false, 4⟩, .store 1,
    .inspect 0 (.result ⟨false, some attempt⟩), .store 0,
    .inspect 1 (.result ⟨false, some attempt⟩), .store 1, .callPort 0,
    .reply 0 (.result ⟨false, some { attempt with attemptNo := 2, status := .succeeded }⟩),
    .store 0]

/-- The caller has lost the reservation. -/
def RecoveryPhase.isReloading : RecoveryPhase Payload → Bool
  | .reloading => true
  | _ => false

/-- A request that succeeds, and a copy with another reason that is refused. -/
theorem recovery_idempotent_succeeding :
    ∃ s, Run RecoveryNext {} sampleRecovery s ∧ s.portCalls = [0] ∧ s.completions ≤ 1 ∧
      RefusedNext s 1 := by
  have hexec : (exec recoveryNext {} sampleRecovery).map (fun s =>
      (s.portCalls, s.boundBy, s.row.map (·.confirmedNotDelivered),
        (s.calls 1).map (·.confirmedNotDelivered), (s.phases 1).isReloading)) =
      some ([0], some 0, some true, some false, true) := by
    decide +kernel
  obtain ⟨s, hs, hview⟩ := Option.map_eq_some_iff.mp hexec
  simp only [Prod.mk.injEq, Option.map_eq_some_iff] at hview
  obtain ⟨hports, hbound, ⟨a, hrow, hconfirmed⟩, ⟨call, hcall, hunconfirmed⟩, hreloading⟩ := hview
  have hrun := run_of_exec hs
  have hphase : s.phases 1 = .reloading := by
    cases hp : s.phases 1 <;> rw [hp] at hreloading <;> first | rfl | cases hreloading
  have hdiffers : call.Differs a := by
    refine Or.inr ?_
    rw [hconfirmed, hunconfirmed]
    decide
  have hrequest := recovery_idempotent sampleRecovery s hrun
  have hother : s.boundBy ≠ some 1 := by
    rw [hbound]
    decide
  exact ⟨s, hrun, hports, hrequest.2.1,
    (hrequest.2.2.2.2.1 a 1 call hrow hother hcall hdiffers).2.2.1 (Or.inr hphase)⟩

end MacroPlatform.Delivery
