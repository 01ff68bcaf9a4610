import MacroPlatform.Delivery.AtMostOnce

/-! # Outcomes reach the stored row

Without crashes a send's outcome is stored when its caller holds the attempt number
of the row. The resume of a waiting caller is guarded by the status alone, so another
caller may have advanced the number meanwhile; the outcomes of a run are all stored
exactly when no resume of the run finds that.

* `outcomes_stored_iff_resumes_agree`: that equivalence, over the crash-free runs;
* `staleResume_loses_outcome`: a run whose resume finds another number.
-/

namespace MacroPlatform.Delivery

open Transition Lookup

variable {Payload : Type}

/-- No process stops. -/
def Act.crashFree : Act Payload → Bool
  | .crash _ => false
  | _ => true

/-- A resume that is about to apply finds the attempt number its caller last saw. -/
def resumeAgrees (s : System Payload) : Act Payload → Bool
  | .store c =>
      match s.callers c, s.row with
      | .resuming attempt _ _, some r =>
          !(r.deliveryId == attempt.deliveryId &&
            (r.status == .failed || r.status == .retryWait)) ||
          r.attemptNo == attempt.attemptNo
      | _, _ => true
  | _ => true

/-- The steps without a crash, and those of them whose resumes agree with the row. -/
def CrashFreeNext [DecidableEq Payload] (svc : Service) : Action (System Payload) (Act Payload) :=
  guarded (Next svc) fun _ a => a.crashFree = true

def AgreeingNext [DecidableEq Payload] (svc : Service) : Action (System Payload) (Act Payload) :=
  guarded (Next svc) fun s a => (a.crashFree && resumeAgrees s a) = true

/-- The call has not begun, or has ended. -/
def Phase.Done : Phase Payload → Prop
  | .idle | .returned _ | .raised _ => True
  | _ => False

/-- Every outcome is stored. -/
structure OutcomesStored (s : System Payload) : Prop where
  sending_agrees : ∀ c a m, s.callers c = .sending a m → storedAttemptNo s.row = a.attemptNo
  sends_agree : ∀ x ∈ s.sends, x.storedAttemptNo = x.attemptNo
  update_applies : ∀ c a m i o, s.callers c = .storing a m i o →
    ∃ row, updateDeliveryAttempt s.row a.deliveryId a.attemptNo (nextStatus a m o)
      o.messageId o.errorCode = .ok (row, true)
  not_pending : (∀ c, (s.callers c).Done) → ∀ r, s.row = some r → r.status ≠ .pending
  sent_stored : (∀ c, (s.callers c).Done) → ∀ x ∈ s.sends, ∀ messageId,
    x.outcome = some (.sent messageId) →
    ∃ r, s.row = some r ∧ r.status = .succeeded ∧ r.messageId = some messageId

/-! ## The holder's attempt is the stored one -/

/-- The attempt of a caller that holds the row. -/
def Phase.attempt? : Phase Payload → Option (DeliveryAttempt Payload)
  | .sending a _ | .awaiting a _ _ | .storing a _ _ _ => some a
  | _ => none

/-- The row is the one the attempt was read from, and pending. -/
def Agrees (row : DeliveryRow Payload) (a : DeliveryAttempt Payload) : Prop :=
  ∃ r, row = some r ∧ r.deliveryId = a.deliveryId ∧ r.attemptNo = a.attemptNo ∧
    r.status = .pending

/-- What the runs that meet `ResumeAgrees` keep. -/
structure Agreed (s : System Payload) : Prop where
  holder : ∀ c a, (s.callers c).attempt? = some a → Agrees s.row a
  occupied : (∃ r, s.row = some r ∧ r.status = .pending) → ∃ c, (s.callers c).Holds
  history : ∀ x ∈ s.sends, x.storedAttemptNo = x.attemptNo
  delivered : ∀ i x messageId, s.sends[i]? = some x → x.outcome = some (.sent messageId) →
    (∃ c a m, s.callers c = .storing a m i (.sent messageId)) ∨
    (∃ r, s.row = some r ∧ r.status = .succeeded ∧ r.messageId = some messageId)

theorem holds_of_attempt {p : Phase Payload} {a : DeliveryAttempt Payload}
    (h : p.attempt? = some a) : p.Holds := by
  cases p with
  | sending | awaiting | storing => trivial
  | idle | reserving | loading | resuming | reloading | inspecting | authorizing | returned
  | raised | crashed => cases h

theorem attempt_of_holds {p : Phase Payload} (h : p.Holds) : ∃ a, p.attempt? = some a := by
  cases p with
  | sending | awaiting | storing => exact ⟨_, rfl⟩
  | idle | reserving | loading | resuming | reloading | inspecting | authorizing | returned
  | raised | crashed => exact h.elim

theorem not_holds_of_done {p : Phase Payload} (h : p.Done) : ¬ p.Holds := by
  cases p with
  | idle | returned | raised => exact id
  | reserving | loading | resuming | reloading | inspecting | authorizing | sending | awaiting
  | storing | crashed => exact h.elim

/-- A caller that holds nothing before and after leaves the agreement alone. -/
theorem agreed_bystander {s : System Payload} {c : ℕ} {p : Phase Payload} (h : Agreed s)
    (hc : ¬ (s.callers c).Holds) (hp : ¬ p.Holds) : Agreed (s.setCaller c p) := by
  refine ⟨?_, ?_, h.history, ?_⟩
  -- the caller held nothing, so the holder, if there is one, is another
  · intro d a hd
    rcases update_cases (motive := fun q => q.attempt? = some a) hd with ⟨-, hd⟩ | ⟨-, hd⟩
    · exact absurd (holds_of_attempt hd) hp
    · exact h.holder d a hd
  · intro hpending
    obtain ⟨d, hd⟩ := h.occupied hpending
    have hne : d ≠ c := by
      rintro rfl
      exact hc hd
    exact ⟨d, by rwa [setCaller_callers_of_ne s p hne]⟩
  · intro i x messageId hx hout
    -- nor did it store an outcome
    rcases h.delivered i x messageId hx hout with ⟨d, a, m, hd⟩ | hrow
    · have hne : d ≠ c := by
        rintro rfl
        exact hc (by rw [hd]; trivial)
      exact Or.inl ⟨d, a, m, by rw [setCaller_callers_of_ne s p hne, hd]⟩
    · exact Or.inr hrow

/-- A grant after which the caller's attempt is the row. -/
theorem agreed_granted {s : System Payload} {c : ℕ} {kind : GrantKind}
    {row attempt : DeliveryAttempt Payload} {m : ℕ} (hheld : Held s) (h : Agreed s)
    (hgrant : Granting s c kind row) (hid : row.deliveryId = attempt.deliveryId)
    (hno : row.attemptNo = attempt.attemptNo)
    (hopen : ∀ r, s.row = some r → r.status ≠ .succeeded) :
    Agreed (s.granted c kind row attempt m) := by
  refine ⟨?_, ?_, h.history, ?_⟩
  · intro d a hd
    -- the row was free: nobody but the grantee has an attempt
    rcases update_cases (motive := fun q => q.attempt? = some a) hd with ⟨-, hd⟩ | ⟨-, hd⟩
    · cases hd
      exact ⟨row, rfl, hid, hno, hgrant.pending⟩
    · exact absurd (holds_of_attempt hd) (not_held hheld hgrant.free d)
  · intro _
    refine ⟨c, ?_⟩
    rw [granted_callers_self]
    trivial
  · intro i x messageId hx hout
    -- a sent message would be held or in the row, and the row was open
    rcases h.delivered i x messageId hx hout with ⟨d, a, m, hd⟩ | ⟨r, hr, hs, -⟩
    · exact absurd (by rw [hd]; trivial) (not_held hheld hgrant.free d)
    · exact absurd hs (hopen r hr)

/-- The holder goes on to its next phase with the same attempt. -/
theorem agreed_move {s s' : System Payload} {c : ℕ} {p : Phase Payload}
    {a : DeliveryAttempt Payload} (h : Agreed s) (hc : (s.callers c).attempt? = some a)
    (hp : p.attempt? = some a) (hcallers : s'.callers = Function.update s.callers c p)
    (hrow : s'.row = s.row) (hhistory : ∀ x ∈ s'.sends, x.storedAttemptNo = x.attemptNo)
    (hdelivered : ∀ i x messageId, s'.sends[i]? = some x →
      x.outcome = some (.sent messageId) →
      (∃ d b m, s'.callers d = .storing b m i (.sent messageId)) ∨
      (∃ r, s.row = some r ∧ r.status = .succeeded ∧ r.messageId = some messageId)) :
    Agreed s' := by
  refine ⟨?_, ?_, hhistory, by rw [hrow]; exact hdelivered⟩
  · intro d b hd
    rw [hcallers] at hd
    rw [hrow]
    -- the mover keeps its attempt, the others keep theirs
    rcases update_cases (motive := fun q => q.attempt? = some b) hd with ⟨-, hd⟩ | ⟨-, hd⟩
    · rw [hp] at hd
      cases hd
      exact h.holder c a hc
    · exact h.holder d b hd
  · intro _
    refine ⟨c, ?_⟩
    rw [hcallers, Function.update_self]
    exact holds_of_attempt hp

/-- In agreement an outcome is never refused by the row. -/
theorem stays_bystander {svc : Service} {s : System Payload} {c : ℕ} {p : Phase Payload}
    (hnum : Numbered s) (h : Agreed s) (hstay : Stays svc s.row (s.callers c) p) :
    ¬ (s.callers c).Holds := by
  intro hholds
  obtain ⟨a, ha⟩ := attempt_of_holds hholds
  obtain ⟨r, hr, hid, hno, hpending⟩ := h.holder c a ha
  generalize s.callers c = q at hstay hholds ha
  cases hstay with
  | conflict | reused | loaded | notResumed | reloaded | inspected | notAuthorized =>
    exact hholds
  | unnumbered hlt =>
    cases ha
    have := hnum r hr
    omega
  | notStored hmiss =>
    cases ha
    exact hmiss r hr ⟨hid, hno, hpending⟩

/-! ## Each step -/

/-- A message that is accepted leaves the outcomes as they agree. -/
theorem agreed_accept {s : System Payload} {i : ℕ} {x y : Send} (h : Agreed s)
    (hx : s.sends[i]? = some x) (hy : acceptSend x = some y) :
    Agreed { s with sends := s.sends.set i y } := by
  obtain ⟨rfl, -⟩ := acceptSend_eq hy
  refine ⟨h.holder, h.occupied, ?_, ?_⟩
  · intro z hz
    rcases List.mem_or_eq_of_mem_set hz with hz | rfl
    · exact h.history z hz
    · exact h.history x (List.mem_of_getElem? hx)
  · intro k z messageId hz hout
    rcases getElem?_set_cases hz with ⟨rfl, rfl⟩ | ⟨-, hz⟩
    · exact h.delivered k x messageId hx hout
    · exact h.delivered k z messageId hz hout

/-- The send carries the attempt number of the row. -/
theorem agreed_send {s : System Payload} {c : ℕ} {attempt : DeliveryAttempt Payload}
    {m : ℕ} (h : Agreed s) (hc : s.callers c = .sending attempt m) :
    Agreed { s with
      callers := Function.update s.callers c (.awaiting attempt m s.sends.length)
      sends := s.sends ++
        [{ caller := c, attemptNo := attempt.attemptNo,
           storedAttemptNo := storedAttemptNo s.row,
           grantsBefore := s.grants.length }] } := by
  have hattempt : (s.callers c).attempt? = some attempt := by rw [hc]; rfl
  -- the holder's attempt number is that of the row
  have hstored : storedAttemptNo s.row = attempt.attemptNo := by
    obtain ⟨r, hr, -, hno, -⟩ := h.holder c attempt hattempt
    rw [hr]
    exact hno
  refine agreed_move h hattempt rfl rfl rfl ?_ ?_
  -- the new send carries it
  · intro x hx
    rcases List.mem_append.mp hx with hx | hx
    · exact h.history x hx
    · rw [List.mem_singleton.mp hx]
      exact hstored
  · intro i x messageId hx hout
    rcases getElem?_concat_cases hx with hx | ⟨-, rfl⟩
    -- a sender stores nothing yet
    · rcases h.delivered i x messageId hx hout with ⟨d, b, n, hd⟩ | hrow
      · have hne : d ≠ c := by
          rintro rfl
          rw [hc] at hd
          cases hd
        exact Or.inl ⟨d, b, n, (Function.update_of_ne hne _ _).trans hd⟩
      · exact Or.inr hrow
    · cases hout

/-- The answer to a send goes to the caller that waits for it. -/
theorem agreed_reply {s : System Payload} {c i : ℕ} {attempt : DeliveryAttempt Payload}
    {m : ℕ} {outcome : SendOutcome} {x y : Send} (h : Agreed s)
    (hc : s.callers c = .awaiting attempt m i) (hx : s.sends[i]? = some x)
    (hy : replySend x outcome = some y) :
    Agreed { s with
      callers := Function.update s.callers c (.storing attempt m i outcome)
      sends := s.sends.set i y } := by
  obtain ⟨-, rfl⟩ := replySend_eq hy
  refine agreed_move h (by rw [hc]; rfl) rfl rfl rfl ?_ ?_
  · intro z hz
    -- only the outcome of a send changed
    rcases List.mem_or_eq_of_mem_set hz with hz | rfl
    · exact h.history z hz
    · exact h.history x (List.mem_of_getElem? hx)
  · intro k z messageId hz hout
    rcases getElem?_set_cases hz with ⟨rfl, rfl⟩ | ⟨-, hz⟩
    · -- the send that is answered is the one its caller now stores
      cases hout
      exact Or.inl ⟨c, attempt, m, Function.update_self ..⟩
    · rcases h.delivered k z messageId hz hout with ⟨d, b, n, hd⟩ | hrow
      · have hne : d ≠ c := by
          rintro rfl
          rw [hc] at hd
          cases hd
        exact Or.inl ⟨d, b, n, (Function.update_of_ne hne _ _).trans hd⟩
      · exact Or.inr hrow

theorem nextStatus_ne_pending (a : DeliveryAttempt Payload) (m : ℕ) (o : SendOutcome) :
    nextStatus a m o ≠ .pending := by
  cases o with
  | sent messageId => simp [nextStatus]
  | failed errorCode retryable outcomeUnknown =>
    simp only [nextStatus]
    split_ifs <;> simp

/-- The outcome is stored: nobody holds the row any more, and a sent message is in it. -/
theorem agreed_settle {s : System Payload} {c i : ℕ} {attempt r : DeliveryAttempt Payload}
    {m : ℕ} {outcome : SendOutcome} (hheld : Held s) (h : Agreed s)
    (hc : s.callers c = .storing attempt m i outcome) (hrow : s.row = some r)
    (hpending : r.status = .pending) :
    Agreed { s with
      row := some (r.settled m outcome)
      callers := Function.update s.callers c (afterStoring attempt m outcome) } := by
  have hholds : (s.callers c).Holds := by rw [hc]; trivial
  refine ⟨?_, ?_, h.history, ?_⟩
  · intro d a hd
    -- the holder lets go, and there was no other
    rcases update_cases (motive := fun q => q.attempt? = some a) hd with ⟨-, hd⟩ | ⟨hne, hd⟩
    · exact absurd (holds_of_attempt hd) (afterStoring_not_holds _ _ _)
    · exact absurd (hheld.unique d c (holds_of_attempt hd) hholds) hne
  · rintro ⟨r', hr', hpending'⟩
    cases hr'
    exact absurd hpending' (nextStatus_ne_pending r m outcome)
  · intro k x messageId hx hout
    rcases h.delivered k x messageId hx hout with ⟨d, b, n, hd⟩ | ⟨r', hr', hs, -⟩
    · -- the caller that stores this message is the one that holds the row
      have hdc : d = c := hheld.unique d c (by rw [hd]; trivial) hholds
      subst hdc
      rw [hc] at hd
      cases hd
      exact Or.inr ⟨_, rfl, rfl, rfl⟩
    · rw [hrow] at hr'
      cases hr'
      rw [hpending] at hs
      cases hs

/-- The condition at a resume whose guard holds. -/
theorem resumeAgrees_iff {s : System Payload} {c m : ℕ} {attempt r : DeliveryAttempt Payload}
    {text : String} (hc : s.callers c = .resuming attempt m text) (hrow : s.row = some r)
    (hid : r.deliveryId = attempt.deliveryId)
    (hstatus : r.status = .failed ∨ r.status = .retryWait) :
    resumeAgrees s (.store c) = true ↔ r.attemptNo = attempt.attemptNo := by
  rcases hstatus with hs | hs <;> simp [resumeAgrees, hc, hrow, hid, hs]

/-- Each step of a run without crashes keeps the agreement. -/
theorem step_agreed {svc : Service} {s s' : System Payload} {a : Act Payload}
    (hstep : Step svc s a s') (hfree : a.crashFree = true) (hagrees : resumeAgrees s a = true)
    (hinv : Inv s) (h : Agreed s) : Agreed s' := by
  have hheld := hinv.held
  have hnum := hinv.numbered
  cases hstep with
  | start hc => exact agreed_bystander h (by rw [hc]; exact id) (begin_not_holds _)
  -- the run is crash-free
  | crash => cases hfree
  | stay hstay => exact agreed_bystander h (stays_bystander hnum h hstay) (stays_not_holds hstay)
  | accept hx hy => exact agreed_accept h hx hy
  | send hc => exact agreed_send h hc
  | reply hc hx hy => exact agreed_reply h hc hx hy
  | insert hc hrow =>
    refine agreed_granted hheld h (granting_insert hrow _ _) rfl rfl ?_
    intro r hr
    rw [hrow] at hr
    cases hr
  -- the attempt number that is resumed is the stored one, by the condition
  | @resume c attempt r m text hc hrow hid hstatus =>
    have hno := (resumeAgrees_iff hc hrow hid hstatus).mp hagrees
    refine agreed_granted hheld h (granting_resume hrow hstatus) hid
      (congrArg (· + 1) hno) ?_
    intro r' hr'
    rw [hrow] at hr'
    cases hr'
    rcases hstatus with hs | hs <;> simp [hs]
  -- an authorized retry checks the number itself
  | @authorize c existing r confirmed hc hrow hid hno hstatus =>
    refine agreed_granted hheld h (granting_authorize hrow hstatus) hid
      (congrArg (· + 1) hno) ?_
    intro r' hr'
    rw [hrow] at hr'
    cases hr'
    rcases hstatus with hs | hs | ⟨-, hs⟩ <;> simp [hs]
  | settle hc hrow hid hno hpending => exact agreed_settle hheld h hc hrow hpending

/-! ## The runs whose outcomes are stored -/

/-- In agreement every update that is about to be made applies. -/
theorem outcomesStored_of_agreed {s : System Payload} (hnum : Numbered s) (h : Agreed s) :
    OutcomesStored s := by
  constructor
  · intro c a m hc
    obtain ⟨r, hr, -, hno, -⟩ := h.holder c a (by rw [hc]; rfl)
    rw [hr]
    exact hno
  · exact h.history
  · intro c a m i o hc
    obtain ⟨r, hr, hid, hno, hpending⟩ := h.holder c a (by rw [hc]; rfl)
    -- the guard of the holder's update cannot fail
    rcases updateDeliveryAttempt_cases s.row a.deliveryId a.attemptNo (nextStatus a m o)
      o.messageId o.errorCode with ⟨hlt, -⟩ | ⟨r', -, -, heq⟩ | ⟨hmiss, -⟩
    · have := hnum r hr
      omega
    · exact ⟨_, heq⟩
    · exact absurd ⟨hid, hno, hpending⟩ (hmiss r hr)
  -- once all are done, nobody holds the row, and what was sent is in it
  · intro hdone r hr hpending
    obtain ⟨c, hc⟩ := h.occupied ⟨r, hr, hpending⟩
    exact not_holds_of_done (hdone c) hc
  · intro hdone x hx messageId hout
    obtain ⟨i, hi⟩ := List.getElem?_of_mem hx
    rcases h.delivered i x messageId hi hout with ⟨c, a, m, hc⟩ | hrow
    · exact absurd (by rw [hc]; trivial) (not_holds_of_done (hdone c))
    · exact hrow

/-- A resume that finds another attempt number leaves its caller sending under a wrong one. -/
theorem resumeAgrees_of_outcomesStored [DecidableEq Payload] {svc : Service}
    {s s' : System Payload} {a : Act Payload} (hstep : Next svc s a s')
    (h : OutcomesStored s') : resumeAgrees s a = true := by
  cases next_step hstep with
  | @resume c attempt r m text hc hrow hid hstatus =>
    have hno := h.sending_agrees c attempt.resumed m (granted_callers_self ..)
    exact (resumeAgrees_iff hc hrow hid hstatus).mpr (Nat.succ.inj hno)
  | @stay c p hstay =>
    simp only [resumeAgrees]
    split
    · next attempt m text r hc hrow =>
      -- the resume did not apply
      rw [hc] at hstay
      cases hstay with
      | notResumed hmiss =>
        have hguard := hmiss r hrow
        by_cases hid : r.deliveryId = attempt.deliveryId
        · simp [hid] at hguard
          simp [hguard]
        · simp [hid]
    · rfl
  | insert hc | authorize hc | settle hc => simp [resumeAgrees, hc]
  | start | crash | accept | send | reply => rfl

theorem init_agreed {s : System Payload} (h : Init s) : Agreed s := by
  obtain ⟨hrow, hcallers, -, hsends⟩ := h
  constructor <;> simp [hrow, hcallers, hsends, Phase.attempt?]

/-- The crash-free runs all of whose states have their outcomes stored are those whose
resumes agree with the row. -/
theorem outcomes_stored_iff_resumes_agree [DecidableEq Payload] (svc : Service)
    {s₀ s : System Payload} {as : List (Act Payload)} (hinit : Init s₀) :
    Run (keeping (CrashFreeNext svc) OutcomesStored) s₀ as s ↔
      Run (AgreeingNext svc) s₀ as s := by
  refine (run_congr (fun t => Inv t ∧ Agreed t) ?_ ?_ ⟨init_inv hinit, init_agreed hinit⟩).symm
  · rintro t a t' ⟨hguard, hstep⟩ ⟨hinv, hagreed⟩
    obtain ⟨hfree, hagrees⟩ := Bool.and_eq_true_iff.mp hguard
    exact ⟨step_inv hstep hinv,
      step_agreed (next_step hstep) hfree hagrees hinv hagreed⟩
  · rintro t a t' ⟨hinv, hagreed⟩
    constructor
    · rintro ⟨hguard, hstep⟩
      obtain ⟨hfree, hagrees⟩ := Bool.and_eq_true_iff.mp hguard
      have hagreed' := step_agreed (next_step hstep) hfree hagrees hinv hagreed
      exact ⟨⟨hfree, hstep⟩, outcomesStored_of_agreed (step_inv hstep hinv).numbered hagreed'⟩
    · rintro ⟨⟨hfree, hstep⟩, hstored⟩
      exact ⟨Bool.and_eq_true_iff.mpr ⟨hfree, resumeAgrees_of_outcomesStored hstep hstored⟩,
        hstep⟩

/-- One delivery, retried once after a rate limit. -/
def retriedDelivery : List (Act Unit) :=
  [.start 0 (.deliver (some publishedReport) "r" "chat" false 7), .store 0, .send 0,
   .reply 0 (.failed "FEISHU_RATE_LIMITED" true false), .store 0, .store 0, .send 0,
   .reply 0 (.sent "om_1"), .store 0]

/-- The only resume of that run finds the attempt number its caller stored. -/
theorem outcomes_stored_retriedDelivery :
    ∃ s : System Unit, s.row.map (·.messageId) = some (some "om_1") ∧
      Run (keeping (CrashFreeNext {}) OutcomesStored) emptySystem retriedDelivery s := by
  have hrun : (exec (check (fun s a => a.crashFree && resumeAgrees s a) (next {})) emptySystem
      retriedDelivery).map (fun s => s.row.map (·.messageId)) = some (some (some "om_1")) := by
    rfl
  obtain ⟨s, hs, hrow⟩ := Option.map_eq_some_iff.mp hrun
  exact ⟨s, hrow, (outcomes_stored_iff_resumes_agree {} ⟨rfl, fun _ => rfl, rfl, rfl⟩).mpr
    (run_of_exec_check hs)⟩

/-- Two callers of a rate-limited delivery. The second resumes and fails while the first
sleeps; the first then sends attempt 3 as its attempt 2, and its result is lost. -/
def staleResume : List (Act Unit) :=
  [.start 0 (.deliver (some publishedReport) "r" "chat" false 7), .store 0, .send 0,
   .reply 0 (.failed "FEISHU_RATE_LIMITED" true false), .store 0,
   .start 1 (.deliver (some publishedReport) "r" "chat" false 8), .store 1, .store 1,
   .store 1, .send 1, .reply 1 (.failed "FEISHU_RATE_LIMITED" true false), .store 1,
   .store 0, .send 0, .reply 0 (.sent "om_1"), .store 0, .store 0, .store 1, .store 1]

/-- The result of the second send of the first caller is lost. -/
theorem staleResume_loses_outcome :
    ¬ ∀ (svc : Service) (s₀ s : System Unit) (as : List (Act Unit)), Init s₀ →
      Run (CrashFreeNext svc) s₀ as s → OutcomesStored s := by
  intro hclaim
  have hrun : (exec (next {}) emptySystem staleResume).map
      (fun s => s.sends.map fun x => (x.attemptNo, x.storedAttemptNo)) =
        some [(1, 1), (2, 2), (2, 3)] := by
    rfl
  obtain ⟨s, hs, hsends⟩ := Option.map_eq_some_iff.mp hrun
  have hfree : ∀ a ∈ staleResume, a.crashFree = true := by
    simp [staleResume, Act.crashFree]
  have hstored := hclaim {} emptySystem s staleResume ⟨rfl, fun _ => rfl, rfl, rfl⟩
    (run_guarded_of_labels (run_of_exec hs) hfree)
  have hbad : (2, 3) ∈ s.sends.map fun x => (x.attemptNo, x.storedAttemptNo) := by
    simp [hsends]
  obtain ⟨x, hx, heq⟩ := List.mem_map.mp hbad
  have hagree := hstored.sends_agree x hx
  simp only [Prod.mk.injEq] at heq
  omega

end MacroPlatform.Delivery
