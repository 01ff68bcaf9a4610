import MacroPlatform.Delivery.AtMostOnce

/-! # The attempt budget

An automatic resume is decided on a row seen in `retry_wait`, but the update that
carries it out accepts a `failed` row as well. The budget holds, and a failed row is
resumed by the manual operation alone, as long as no failure is stored while another
caller waits to resume.

* `budget_kept_of_fails_alone`: runs that store failures alone keep the budget, and a step that
  does not can be followed by one that leaves it;
* `resumedFailure_exceeds_budget`: a run that leaves it.
-/

namespace MacroPlatform.Delivery

open Transition

variable {Payload : Type}

/-- The total budget, and what every automatic resume started from. -/
structure BudgetKept (svc : Service) (s : System Payload) : Prop where
  total : storedAttemptNo s.row ≤ svc.maxTotalAttempts
  resumed : ∀ g ∈ s.grants, g.kind = .resumed → g.prior = some .retryWait
  failed_manual : ∀ g ∈ s.grants, g.prior = some .failed →
    ∃ confirmed, g.kind = .authorized confirmed

/-- The caller waits for its backoff to end. -/
def Phase.Resuming : Phase Payload → Prop
  | .resuming .. => True
  | _ => False

/-- A step that stores `failed` finds no caller that waits to resume the row. -/
def FailsAlone (s : System Payload) : Act Payload → Prop
  | .store c =>
      match s.callers c with
      | .storing attempt maxAttemptNo _ outcome =>
          nextStatus attempt maxAttemptNo outcome = .failed →
          (∃ r, s.row = some r ∧ r.deliveryId = attempt.deliveryId ∧
            r.attemptNo = attempt.attemptNo ∧ r.status = .pending) →
          ∀ d, ¬ (s.callers d).Resuming
      | _ => True
  | _ => True

/-! ## What a caller knows -/

/-- The limits a caller's local attempt was checked against. A caller that waits to
resume does so on a row that has not failed. -/
def CallerOk (svc : Service) (row : DeliveryRow Payload) : Phase Payload → Prop
  | .resuming attempt maxAttemptNo _ =>
      maxAttemptNo ≤ svc.maxAttempts ∧
        ∃ r, row = some r ∧ r.deliveryId = attempt.deliveryId ∧ r.status ≠ .failed
  | .authorizing existing _ => existing.attemptNo < svc.maxTotalAttempts
  | .sending attempt maxAttemptNo | .awaiting attempt maxAttemptNo _
  | .storing attempt maxAttemptNo _ _ =>
      (maxAttemptNo ≤ svc.maxAttempts ∨ maxAttemptNo ≤ attempt.attemptNo) ∧
        ∃ r, row = some r ∧ r.deliveryId = attempt.deliveryId
  | _ => True

structure Budget (svc : Service) (s : System Payload) : Prop where
  callers : ∀ c, CallerOk svc s.row (s.callers c)
  waiting : ∀ r, s.row = some r → r.status = .retryWait → r.attemptNo < svc.maxAttempts
  kept : BudgetKept svc s

/-- A call that begins has checked no limit yet. -/
theorem callerOk_begin (svc : Service) (row : DeliveryRow Payload) (call : Call Payload) :
    CallerOk svc row call.begin := by
  cases call with
  | deliver report reportId chatId dryRun deliveryId =>
    cases report with
    | none => trivial
    | some report =>
      simp only [Call.begin, beginDeliver]
      split_ifs <;> trivial
  | retry report reportId chatId confirmed =>
    cases report with
    | none => trivial
    | some report =>
      simp only [Call.begin, beginRetry]
      split_ifs <;> trivial

/-- The two reads after which a caller goes on check the limits they are named for. -/
theorem callerOk_stays {svc : Service} {row : DeliveryRow Payload} {p q : Phase Payload}
    (h : Stays svc row p q) : CallerOk svc row q := by
  cases h with
  -- callers that leave, or have been refused
  | conflict | reused | notResumed | notAuthorized | unnumbered | notStored => trivial
  | loaded =>
    cases row with
    | none => trivial
    | some r =>
      simp only [afterLoading]
      -- the automatic path goes on only with a row in `retry_wait`, below its limit
      split_ifs with hstop
      · trivial
      · have hwait : r.status = .retryWait := by
          by_contra hne
          exact hstop (Or.inl hne)
        exact ⟨Nat.le_refl _, r, rfl, rfl, by simp [hwait]⟩
  | @reloaded deliveryId text =>
    cases loadDeliveryAttempt row deliveryId <;> trivial
  | inspected =>
    cases row with
    | none => trivial
    | some r =>
      simp only [afterInspecting]
      -- the operator's path goes on only below the total limit
      split_ifs with hsucceeded hpending hunconfirmed htotal hother
      all_goals try trivial
      exact Nat.lt_of_not_le htotal

/-- The row of a caller that goes on is replaced by one of the same delivery. -/
theorem callerOk_row {svc : Service} {row row' : DeliveryRow Payload} {p : Phase Payload}
    (h : CallerOk svc row p)
    (hrow : ∀ r, row = some r → ∃ r', row' = some r' ∧ r'.deliveryId = r.deliveryId ∧
      (p.Resuming → r'.status ≠ .failed)) : CallerOk svc row' p := by
  cases p with
  | resuming attempt m text =>
    obtain ⟨hm, r, hr, hid, -⟩ := h
    obtain ⟨r', hr', hid', hfailed⟩ := hrow r hr
    exact ⟨hm, r', hr', hid'.trans hid, hfailed trivial⟩
  | sending attempt m | awaiting attempt m i | storing attempt m i outcome =>
    obtain ⟨hm, r, hr, hid⟩ := h
    obtain ⟨r', hr', hid', -⟩ := hrow r hr
    exact ⟨hm, r', hr', hid'.trans hid⟩
  | authorizing => exact h
  | idle | reserving | loading | reloading | inspecting | returned | raised | crashed =>
    trivial

/-! ## Each step -/

/-- Only one caller changes, and the row stays. -/
theorem budget_caller {svc : Service} {s s' : System Payload} {c : ℕ} {p : Phase Payload}
    (h : Budget svc s) (hp : CallerOk svc s.row p)
    (hcallers : s'.callers = Function.update s.callers c p) (hrow : s'.row = s.row)
    (hgrants : s'.grants = s.grants) : Budget svc s' := by
  refine ⟨?_, by rw [hrow]; exact h.waiting, ?_⟩
  · rw [hcallers, hrow]
    exact (Function.forall_update_iff s.callers fun _ q => CallerOk svc s.row q).mpr
      ⟨hp, fun d _ => h.callers d⟩
  · have hkept := h.kept
    exact ⟨by rw [hrow]; exact hkept.total, by rw [hgrants]; exact hkept.resumed,
      by rw [hgrants]; exact hkept.failed_manual⟩

/-- A grant within the budget. -/
theorem budget_granted {svc : Service} {s : System Payload} (h : Budget svc s) {c : ℕ}
    {kind : GrantKind} {row attempt : DeliveryAttempt Payload} {m : ℕ}
    (hgrant : Granting s c kind row) (hid : row.deliveryId = attempt.deliveryId)
    (hsame : ∀ r, s.row = some r → row.deliveryId = r.deliveryId)
    (hm : m ≤ svc.maxAttempts ∨ m ≤ attempt.attemptNo)
    (htotal : row.attemptNo ≤ svc.maxTotalAttempts)
    (hresumed : kind = .resumed → s.row.map (·.status) = some .retryWait)
    (hfailed : s.row.map (·.status) = some .failed →
      ∃ confirmed, kind = .authorized confirmed) :
    Budget svc (s.granted c kind row attempt m) := by
  refine ⟨?_, ?_, ⟨htotal, ?_, ?_⟩⟩
  · refine (Function.forall_update_iff s.callers fun _ q => CallerOk svc (some row) q).mpr
      ⟨⟨hm, row, rfl, hid⟩, ?_⟩
    intro d _
    -- every other caller has seen the row of the same delivery
    refine callerOk_row (h.callers d) ?_
    intro r hr
    exact ⟨row, rfl, hsame r hr, fun _ => by simp [hgrant.pending]⟩
  -- the granted row is pending, so it does not wait
  · intro r hr hwait
    cases hr
    rw [hgrant.pending] at hwait
    cases hwait
  -- the new grant is a resume of a row in `retry_wait`, as are the ones before
  · intro g hg hkind
    rcases List.mem_append.mp hg with hg | hg
    · exact h.kept.resumed g hg hkind
    · rw [List.mem_singleton.mp hg] at hkind ⊢
      exact hresumed hkind
  -- and of a failed row it is a manual one
  · intro g hg hprior
    rcases List.mem_append.mp hg with hg | hg
    · exact h.kept.failed_manual g hg hprior
    · rw [List.mem_singleton.mp hg] at hprior ⊢
      exact hfailed hprior

/-- An outcome is stored. Were it a failure, nobody would be waiting. -/
theorem budget_settle {svc : Service} {s : System Payload} {c i m : ℕ}
    {attempt r : DeliveryAttempt Payload} {outcome : SendOutcome} (h : Budget svc s)
    (hc : s.callers c = .storing attempt m i outcome) (hrow : s.row = some r)
    (hid : r.deliveryId = attempt.deliveryId) (hno : r.attemptNo = attempt.attemptNo)
    (halone : nextStatus attempt m outcome = .failed → ∀ d, ¬ (s.callers d).Resuming) :
    Budget svc { s with
      row := some (r.settled m outcome)
      callers := Function.update s.callers c (afterStoring attempt m outcome) } := by
  have hstatus : (r.settled m outcome).status = nextStatus attempt m outcome := by
    simp [DeliveryAttempt.settled, nextStatus, hno]
  have hcaller := h.callers c
  rw [hc] at hcaller
  obtain ⟨hm, -⟩ := hcaller
  -- a retry is only left to callers within the automatic limit
  have hretry : nextStatus attempt m outcome = .retryWait →
      attempt.attemptNo < m ∧ m ≤ svc.maxAttempts := by
    intro hwait
    cases outcome with
    | sent messageId => simp [nextStatus] at hwait
    | failed errorCode retryable outcomeUnknown =>
      simp only [nextStatus] at hwait
      split_ifs at hwait with hunknown hlt
      exact ⟨hlt.2, by omega⟩
  refine ⟨?_, ?_, ⟨?_, h.kept.resumed, h.kept.failed_manual⟩⟩
  · refine (Function.forall_update_iff s.callers fun _ q =>
      CallerOk svc (some (r.settled m outcome)) q).mpr ⟨?_, ?_⟩
    · by_cases hwait : nextStatus attempt m outcome = .retryWait
      · have hafter : afterStoring attempt m outcome =
            .resuming (attempt.settled m outcome) m
              "delivery attempt disappeared during retry" := if_pos hwait
        rw [hafter]
        exact ⟨(hretry hwait).2, _, rfl, hid, by simp [hstatus, hwait]⟩
      · have hafter : afterStoring attempt m outcome =
            .returned ⟨false, some (attempt.settled m outcome)⟩ := if_neg hwait
        rw [hafter]
        trivial
    · intro d _
      refine callerOk_row (h.callers d) ?_
      intro r' hr'
      rw [hrow] at hr'
      cases hr'
      refine ⟨_, rfl, rfl, ?_⟩
      intro hresuming hfailed
      rw [hstatus] at hfailed
      exact halone hfailed d hresuming
  · intro r' hr' hwait
    cases hr'
    rw [hstatus] at hwait
    have hlt := hretry hwait
    have hsettled : (r.settled m outcome).attemptNo = attempt.attemptNo := hno
    omega
  · have htotal := h.kept.total
    rw [hrow] at htotal
    exact htotal

/-- Each step that fails alone keeps the budget. -/
theorem step_budget {svc : Service} {s s' : System Payload} {a : Act Payload}
    (hstep : Step svc s a s') (halone : FailsAlone s a) (h : Budget svc s) :
    Budget svc s' := by
  cases hstep with
  | start => exact budget_caller h (callerOk_begin _ _ _) rfl rfl rfl
  | crash => exact budget_caller (p := .crashed) h trivial rfl rfl rfl
  | stay hstay => exact budget_caller h (callerOk_stays hstay) rfl rfl rfl
  | accept => exact ⟨h.callers, h.waiting, ⟨h.kept.total, h.kept.resumed, h.kept.failed_manual⟩⟩
  | @send c attempt m hc =>
    have hcaller := h.callers c
    rw [hc] at hcaller
    exact budget_caller (p := .awaiting attempt m s.sends.length) h hcaller rfl rfl rfl
  | @reply c i attempt m outcome x y hc =>
    have hcaller := h.callers c
    rw [hc] at hcaller
    exact budget_caller (p := .storing attempt m i outcome) h hcaller rfl rfl rfl
  -- the first attempt is within any limit
  | insert hc hrow =>
    refine budget_granted h (granting_insert hrow _ _) rfl ?_ (Or.inl (Nat.le_refl _)) ?_
      (by simp) (by simp [hrow])
    · intro r hr
      rw [hrow] at hr
      cases hr
    · have h1 := svc.maxAttempts_pos
      have h2 := svc.maxTotal_covers
      exact Nat.le_trans h1 h2
  -- a caller resumes what it saw in `retry_wait`; no failure was stored since
  | @resume c attempt r m text hc hrow hid hstatus =>
    have hcaller := h.callers c
    rw [hc] at hcaller
    obtain ⟨hm, r', hr', -, hfailed⟩ := hcaller
    rw [hrow] at hr'
    cases hr'
    have hwait : r.status = .retryWait := hstatus.resolve_left hfailed
    have hlt := h.waiting r hrow hwait
    have hcovers := svc.maxTotal_covers
    refine budget_granted h (granting_resume hrow hstatus) hid ?_ (Or.inl hm) ?_
      (fun _ => by rw [hrow, Option.map_some, hwait]) (by simp [hrow, hwait])
    · intro r' hr'
      rw [hrow] at hr'
      cases hr'
      rfl
    · show r.attemptNo + 1 ≤ svc.maxTotalAttempts
      omega
  -- the total limit was checked when the row was read
  | @authorize c existing r confirmed hc hrow hid hno hstatus =>
    have hcaller := h.callers c
    rw [hc] at hcaller
    have hlt : existing.attemptNo < svc.maxTotalAttempts := hcaller
    refine budget_granted h (granting_authorize hrow hstatus) hid ?_
      (Or.inr (Nat.le_refl _)) ?_ (by simp) (fun _ => ⟨confirmed, rfl⟩)
    · intro r' hr'
      rw [hrow] at hr'
      cases hr'
      rfl
    · show r.attemptNo + 1 ≤ svc.maxTotalAttempts
      omega
  | @settle c i attempt r m outcome hc hrow hid hno hpending =>
    refine budget_settle h hc hrow hid hno ?_
    intro hfailed
    simp only [FailsAlone, hc] at halone
    exact halone hfailed ⟨r, hrow, hid, hno, hpending⟩

theorem init_budget {svc : Service} {s : System Payload} (h : Init s) : Budget svc s := by
  obtain ⟨hrow, hcallers, hgrants, -⟩ := h
  refine ⟨?_, ?_, ⟨?_, ?_, ?_⟩⟩ <;>
    simp [hrow, hcallers, hgrants, storedAttemptNo, CallerOk]

/-! ## The runs within the budget -/

/-- A failure stored while another caller waits: the next step of that caller is the
forbidden resume. -/
theorem forbidden_resume [DecidableEq Payload] {svc : Service} {s s' : System Payload}
    {a : Act Payload} (hstep : Next svc s a s') (hnum : Numbered s) (h : Budget svc s)
    (halone : ¬ FailsAlone s a) :
    ∃ d s'', Next svc s' (.store d) s'' ∧ ¬ BudgetKept svc s'' := by
  cases next_step hstep with
  | start | send | reply | accept | crash => exact absurd trivial halone
  | insert hc | resume hc | authorize hc => simp [FailsAlone, hc] at halone
  | @stay c p hstay =>
    simp only [FailsAlone] at halone
    split at halone
    · next attempt m i outcome hc =>
      -- the update that would have stored the failure did not apply
      rw [hc] at hstay
      refine absurd ?_ halone
      rintro - ⟨r, hrow, hguard⟩
      cases hstay with
      | unnumbered hlt =>
        have := hnum r hrow
        omega
      | notStored hmiss => exact absurd hguard (hmiss r hrow)
    · exact absurd trivial halone
  | @settle c i attempt r m outcome hc hrow hid hno hpending =>
    simp only [FailsAlone, hc, not_forall, not_not] at halone
    obtain ⟨hfailed, -, d, hd⟩ := halone
    have hne : d ≠ c := by
      rintro rfl
      rw [hc] at hd
      exact hd
    have hstatus : (r.settled m outcome).status = .failed := by
      simpa [DeliveryAttempt.settled, nextStatus, hno] using hfailed
    cases hphase : s.callers d with
    | resuming waiting n text =>
      have hcaller := h.callers d
      rw [hphase] at hcaller
      obtain ⟨-, r', hr', hwid, -⟩ := hcaller
      rw [hrow] at hr'
      cases hr'
      refine ⟨d, _, next_resume svc ((Function.update_of_ne hne _ _).trans hphase) rfl hwid
        (Or.inl hstatus), ?_⟩
      intro hkept
      have hprior := hkept.resumed ⟨d, .resumed, some .failed⟩
        (by simp [System.granted, hstatus]) rfl
      cases hprior
    | idle | reserving | loading | reloading | inspecting | authorizing | sending | awaiting
    | storing | returned | raised | crashed =>
      rw [hphase] at hd
      exact hd.elim

/-- Runs that store failures alone stay within the budget; a step that does not can be
followed by a resume that leaves it. -/
theorem budget_kept_of_fails_alone [DecidableEq Payload] (svc : Service)
    {s₀ s : System Payload} {as : List (Act Payload)} (hinit : Init s₀)
    (hrun : Run (guarded (Next svc) FailsAlone) s₀ as s) :
    BudgetKept svc s ∧
      ∀ (a : Act Payload) (s' : System Payload), Next svc s a s' → ¬ FailsAlone s a →
        ∃ d s'', Next svc s' (.store d) s'' ∧ ¬ BudgetKept svc s'' := by
  have hboth := run_invariant (fun t => Inv t ∧ Budget svc t)
    (fun t a t' hstep ht => ⟨step_inv hstep.2 ht.1,
      step_budget (next_step hstep.2) hstep.1 ht.2⟩) hrun ⟨init_inv hinit, init_budget hinit⟩
  refine ⟨hboth.2.kept, ?_⟩
  intro a s' hstep halone
  exact forbidden_resume hstep hboth.1.numbered hboth.2 halone

/-- No failure is stored at all. -/
def storesNoFailure (s : System Payload) : Act Payload → Bool
  | .store c =>
      match s.callers c with
      | .storing attempt maxAttemptNo _ outcome =>
          nextStatus attempt maxAttemptNo outcome != .failed
      | _ => true
  | _ => true

/-- A step that stores no failure fails alone. -/
theorem failsAlone_of_storesNoFailure {s : System Payload} {a : Act Payload}
    (h : storesNoFailure s a = true) : FailsAlone s a := by
  cases a with
  | start | send | reply | accept | crash => trivial
  | store c =>
    simp only [storesNoFailure, FailsAlone] at h ⊢
    split at h
    · next attempt m i outcome hc =>
      intro hfailed
      simp [hfailed] at h
    · next hc =>
      cases hphase : s.callers c with
      | storing attempt m i outcome => exact absurd hphase (hc attempt m i outcome)
      | idle | reserving | loading | resuming | reloading | inspecting | authorizing | sending
      | awaiting | returned | raised | crashed => trivial

/-- A delivery that is resumed twice, by its own caller and by another one. -/
def resumedTwice : List (Act Unit) :=
  [.start 0 (.deliver (some publishedReport) "r" "chat" false 7), .store 0, .send 0,
   .reply 0 (.failed "FEISHU_RATE_LIMITED" true false), .store 0, .store 0, .send 0,
   .reply 0 (.failed "FEISHU_RATE_LIMITED" true false), .store 0,
   .start 1 (.deliver (some publishedReport) "r" "chat" false 8), .store 1, .store 1,
   .store 1, .send 1, .reply 1 (.sent "om_1"), .store 1]

theorem budget_kept_resumedTwice :
    ∃ s : System Unit, storedAttemptNo s.row = 3 ∧ BudgetKept {} s := by
  have hrun : (exec (check storesNoFailure (next {})) emptySystem resumedTwice).map
      (fun s => storedAttemptNo s.row) = some 3 := by
    rfl
  obtain ⟨s, hs, hno⟩ := Option.map_eq_some_iff.mp hrun
  have hguarded := run_mono (fun t a t' hstep =>
    And.intro (failsAlone_of_storesNoFailure hstep.1) hstep.2) (run_of_exec_check hs)
  exact ⟨s, hno,
    (budget_kept_of_fails_alone {} ⟨rfl, fun _ => rfl, rfl, rfl⟩ hguarded).1⟩

/-- A manual retry fails for good while the delivery sleeps in its backoff; the delivery
then resumes the failed row, for an attempt beyond the total of two. -/
def resumedFailure : List (Act Unit) :=
  [.start 0 (.deliver (some publishedReport) "r" "chat" false 7), .store 0, .send 0,
   .reply 0 (.failed "FEISHU_RATE_LIMITED" true false), .store 0,
   .start 1 (.retry (some publishedReport) "r" "chat" false), .store 1, .store 1, .send 1,
   .reply 1 (.failed "FEISHU_RATE_LIMITED" true false), .store 1, .store 0]

/-- The resumed failure sends an attempt beyond the total. -/
theorem resumedFailure_exceeds_budget :
    ¬ ∀ (svc : Service) (s₀ s : System Unit) (as : List (Act Unit)), Init s₀ →
      Run (Next svc) s₀ as s → BudgetKept svc s := by
  intro hclaim
  have hrun : (exec (next { maxAttempts := 2, maxTotalAttempts := 2 }) emptySystem
      resumedFailure).map (fun s => storedAttemptNo s.row) = some 3 := by
    rfl
  obtain ⟨s, hs, hno⟩ := Option.map_eq_some_iff.mp hrun
  have hkept := hclaim _ emptySystem s resumedFailure ⟨rfl, fun _ => rfl, rfl, rfl⟩
    (run_of_exec hs)
  have htotal := hkept.total
  simp only at htotal
  omega

end MacroPlatform.Delivery
