import MacroPlatform.Delivery.Service
import MacroPlatform.Lib.Lookup

/-! # No duplicate delivery

Every grant moves the row to `pending` and makes its caller the only one between
the grant and the store of the outcome. While that caller works nobody else can be
granted, so a send is preceded by a grant of its own; and an outcome that may have
been accepted leaves the row in a status that only a confirmed operator retry takes
back to `pending`.

* `Held`, `Owned`, `ConfirmedBetween`: the three parts of the invariant;
* `step_inv`: every step keeps it, case by case;
* `no_duplicate_delivery`: over every interleaving of calls and crashes.
-/

namespace MacroPlatform.Delivery

open Transition Lookup

variable {Payload : Type}

/-! ## At most one caller holds the row -/

/-- The caller is between its grant and the store of its outcome. -/
def Phase.Holds : Phase Payload → Prop
  | .sending .. | .awaiting .. | .storing .. => True
  | _ => False

/-- One caller at most holds the row, which is `pending` meanwhile. -/
structure Held (s : System Payload) : Prop where
  unique : ∀ c d, (s.callers c).Holds → (s.callers d).Holds → c = d
  pending : ∀ c, (s.callers c).Holds → ∃ r, s.row = some r ∧ r.status = .pending

/-- A call that begins holds nothing. -/
theorem begin_not_holds (call : Call Payload) : ¬ call.begin.Holds := by
  cases call with
  | deliver report reportId chatId dryRun deliveryId =>
    cases report with
    | none => exact id
    | some report =>
      simp only [Call.begin, beginDeliver]
      split_ifs <;> exact id
  | retry report reportId chatId confirmed =>
    cases report with
    | none => exact id
    | some report =>
      simp only [Call.begin, beginRetry]
      split_ifs <;> exact id

theorem afterStoring_not_holds (attempt : DeliveryAttempt Payload) (maxAttemptNo : ℕ)
    (outcome : SendOutcome) : ¬ (afterStoring attempt maxAttemptNo outcome).Holds := by
  simp only [afterStoring]
  split_ifs <;> exact id

/-- Nor does one that goes on without the row. -/
theorem stays_not_holds {svc : Service} {row : DeliveryRow Payload} {p q : Phase Payload}
    (h : Stays svc row p q) : ¬ q.Holds := by
  cases h with
  | conflict | reused | notResumed | notAuthorized | unnumbered | notStored => exact id
  | loaded =>
    cases row with
    | none => exact id
    | some r =>
      simp only [afterLoading]
      split_ifs <;> exact id
  | @reloaded deliveryId text =>
    cases loadDeliveryAttempt row deliveryId <;> exact id
  | inspected =>
    cases row with
    | none => exact id
    | some r =>
      simp only [afterInspecting]
      split_ifs <;> exact id

/-- The caller whose phase changed, or any other. -/
theorem update_cases {callers : ℕ → Phase Payload} {c d : ℕ} {p : Phase Payload}
    {motive : Phase Payload → Prop} (hd : motive (Function.update callers c p d)) :
    (d = c ∧ motive p) ∨ (d ≠ c ∧ motive (callers d)) := by
  by_cases h : d = c
  · subst h
    rw [Function.update_self] at hd
    exact Or.inl ⟨rfl, hd⟩
  · rw [Function.update_of_ne h] at hd
    exact Or.inr ⟨h, hd⟩

/-- A caller that lets go leaves the others as they were. -/
theorem held_release {s s' : System Payload} {c : ℕ} {p : Phase Payload} (h : Held s)
    (hcallers : s'.callers = Function.update s.callers c p) (hp : ¬ p.Holds)
    (hrow : s'.row = s.row ∨ (s.callers c).Holds) : Held s' := by
  have old : ∀ d, (s'.callers d).Holds → d ≠ c ∧ (s.callers d).Holds := by
    intro d hd
    rw [hcallers] at hd
    rcases update_cases hd with ⟨-, hd⟩ | hd
    · exact absurd hd hp
    · exact hd
  constructor
  · intro d e hd he
    exact h.unique d e (old d hd).2 (old e he).2
  · intro d hd
    rcases hrow with hrow | hc
    · rw [hrow]
      exact h.pending d (old d hd).2
    · exact absurd (h.unique d c (old d hd).2 hc) (old d hd).1

/-- The holder moves on, and the row stays as it is. -/
theorem held_move {s s' : System Payload} {c : ℕ} {p : Phase Payload} (h : Held s)
    (hcallers : s'.callers = Function.update s.callers c p) (hc : (s.callers c).Holds)
    (hrow : s'.row = s.row) : Held s' := by
  have old : ∀ d, (s'.callers d).Holds → d = c := by
    intro d hd
    rw [hcallers] at hd
    rcases update_cases hd with ⟨hd, -⟩ | ⟨-, hd⟩
    · exact hd
    · exact h.unique d c hd hc
  constructor
  · intro d e hd he
    rw [old d hd, old e he]
  · intro d _
    rw [hrow]
    exact h.pending c hc

/-- A row that is not pending is held by nobody. -/
theorem not_held {s : System Payload} (h : Held s)
    (hrow : ∀ r, s.row = some r → r.status ≠ .pending) (c : ℕ) : ¬ (s.callers c).Holds := by
  intro hc
  obtain ⟨r, hr, hpending⟩ := h.pending c hc
  exact hrow r hr hpending

/-- The row is in a status that only a confirmed operator retry leaves. -/
def Closed (row : DeliveryRow Payload) : Prop :=
  ∃ r, row = some r ∧ (r.status = .succeeded ∨ r.status = .uncertain)

/-- What the guards of the three grants have in common. -/
structure Granting (s : System Payload) (c : ℕ) (kind : GrantKind)
    (row : DeliveryAttempt Payload) : Prop where
  free : ∀ r, s.row = some r → r.status ≠ .pending
  pending : row.status = .pending
  counted : row.attemptNo = storedAttemptNo s.row + 1
  confirmed : Closed s.row → (⟨c, kind, s.row.map (·.status)⟩ : Grant).confirmed

theorem granting_insert {s : System Payload} {c : ℕ} (hrow : s.row = none)
    (deliveryId : UUID) (auditPayload : Payload) :
    Granting s c .reserved (initialAttempt deliveryId auditPayload) := by
  refine ⟨?_, rfl, by rw [hrow]; rfl, ?_⟩
  · intro r hr
    rw [hrow] at hr
    cases hr
  · rintro ⟨r, hr, -⟩
    rw [hrow] at hr
    cases hr

/-- A resumption grants the next attempt. -/
theorem granting_resume {s : System Payload} {c : ℕ} {r : DeliveryAttempt Payload}
    (hrow : s.row = some r) (hstatus : r.status = .failed ∨ r.status = .retryWait) :
    Granting s c .resumed r.resumed := by
  refine ⟨?_, rfl, by rw [hrow]; rfl, ?_⟩
  · rintro r' hr'
    rw [hrow] at hr'
    cases hr'
    rcases hstatus with hs | hs <;> simp [hs]
  · rintro ⟨r', hr', hs'⟩
    rw [hrow] at hr'
    cases hr'
    rcases hstatus with hs | hs <;> simp [hs] at hs'

/-- Of the closed statuses the manual retry accepts `uncertain` alone, once confirmed. -/
theorem granting_authorize {s : System Payload} {c : ℕ} {r : DeliveryAttempt Payload}
    {confirmed : Bool} (hrow : s.row = some r)
    (hstatus : r.status = .failed ∨ r.status = .retryWait ∨
      (confirmed = true ∧ r.status = .uncertain)) :
    Granting s c (.authorized confirmed) r.resumed := by
  refine ⟨?_, rfl, by rw [hrow]; rfl, ?_⟩
  · rintro r' hr'
    rw [hrow] at hr'
    cases hr'
    rcases hstatus with hs | hs | ⟨-, hs⟩ <;> simp [hs]
  · rintro ⟨r', hr', hs'⟩
    rw [hrow] at hr'
    cases hr'
    rcases hstatus with hs | hs | ⟨rfl, hs⟩
    · simp [hs] at hs'
    · simp [hs] at hs'
    · exact ⟨rfl, by rw [hrow, Option.map_some, hs]⟩

/-- A grant on a row that nobody holds. -/
theorem held_take {s : System Payload} (h : Held s) {c : ℕ} {kind : GrantKind}
    {row attempt : DeliveryAttempt Payload} {maxAttemptNo : ℕ}
    (hgrant : Granting s c kind row) : Held (s.granted c kind row attempt maxAttemptNo) := by
  have old : ∀ d, ((s.granted c kind row attempt maxAttemptNo).callers d).Holds → d = c := by
    intro d hd
    rcases update_cases hd with ⟨hd, -⟩ | ⟨-, hd⟩
    · exact hd
    · exact absurd hd (not_held h hgrant.free d)
  constructor
  · intro d e hd he
    rw [old d hd, old e he]
  · intro d _
    exact ⟨row, rfl, hgrant.pending⟩

/-- One caller at most holds the row. -/
theorem step_held {svc : Service} {s s' : System Payload} {a : Act Payload}
    (hstep : Step svc s a s') (h : Held s) : Held s' := by
  cases hstep with
  | start => exact held_release h rfl (begin_not_holds _) (Or.inl rfl)
  | crash => exact held_release h rfl id (Or.inl rfl)
  | stay hstay => exact held_release h rfl (stays_not_holds hstay) (Or.inl rfl)
  | accept => exact ⟨h.unique, h.pending⟩
  | send hc => exact held_move h rfl (by rw [hc]; trivial) rfl
  | reply hc => exact held_move h rfl (by rw [hc]; trivial) rfl
  | insert hc hrow => exact held_take h (granting_insert hrow _ _)
  | resume hc hrow hid hstatus => exact held_take h (granting_resume hrow hstatus)
  | authorize hc hrow hid hno hstatus => exact held_take h (granting_authorize hrow hstatus)
  | settle hc hrow =>
    exact held_release h rfl (afterStoring_not_holds _ _ _) (Or.inr (by rw [hc]; trivial))

/-! ## Every send has a grant of its own -/

/-- The last grant before the send went to the caller that sends. -/
def Owned (grants : List Grant) (x : Send) : Prop :=
  ∃ k g, x.grantsBefore = k + 1 ∧ grants[k]? = some g ∧ g.caller = x.caller

/-- The grants are the stored attempt number, and the sends take them one by one. -/
structure Ledger (s : System Payload) : Prop where
  counted : s.grants.length = storedAttemptNo s.row
  owned : ∀ x ∈ s.sends, Owned s.grants x
  ordered : (s.sends.map (·.grantsBefore)).Pairwise (· < ·)
  unused : ∀ c a m, s.callers c = .sending a m →
    (∃ k g, s.grants.length = k + 1 ∧ s.grants[k]? = some g ∧ g.caller = c) ∧
      ∀ x ∈ s.sends, x.grantsBefore < s.grants.length

theorem Owned.append {grants : List Grant} {x : Send} (h : Owned grants x)
    (more : List Grant) : Owned (grants ++ more) x := by
  obtain ⟨k, g, hk, hg, hcaller⟩ := h
  exact ⟨k, g, hk, getElem?_append_of_some hg more, hcaller⟩

theorem Owned.le_length {grants : List Grant} {x : Send} (h : Owned grants x) :
    x.grantsBefore ≤ grants.length := by
  obtain ⟨k, g, hk, hg, -⟩ := h
  have hlt : k < grants.length := (List.getElem?_eq_some_iff.mp hg).1
  omega

theorem acceptSend_ledger {x y : Send} (h : acceptSend x = some y) :
    y.caller = x.caller ∧ y.grantsBefore = x.grantsBefore := by
  rw [(acceptSend_eq h).1]
  exact ⟨rfl, rfl⟩

theorem replySend_ledger {x y : Send} {outcome : SendOutcome}
    (h : replySend x outcome = some y) :
    y.caller = x.caller ∧ y.grantsBefore = x.grantsBefore := by
  rw [(replySend_eq h).2]
  exact ⟨rfl, rfl⟩

/-- A caller that is not `sending` afterwards, and a row with the same attempt number. -/
theorem ledger_release {s s' : System Payload} {c : ℕ} {p : Phase Payload} (h : Ledger s)
    (hcallers : s'.callers = Function.update s.callers c p)
    (hp : ∀ a m, p ≠ .sending a m)
    (hrow : storedAttemptNo s'.row = storedAttemptNo s.row)
    (hgrants : s'.grants = s.grants) (hsends : s'.sends = s.sends) : Ledger s' := by
  refine ⟨by rw [hgrants, hrow, h.counted], by rw [hgrants, hsends]; exact h.owned,
    by rw [hsends]; exact h.ordered, ?_⟩
  intro d a m hd
  rw [hcallers] at hd
  rcases update_cases (motive := (· = Phase.sending a m)) hd with ⟨-, hd⟩ | ⟨-, hd⟩
  · exact absurd hd (hp a m)
  · rw [hgrants, hsends]
    exact h.unused d a m hd

/-- A grant of the next attempt keeps the ledger. -/
theorem ledger_granted {s : System Payload} (hheld : Held s) (h : Ledger s) {c : ℕ}
    {kind : GrantKind} {row attempt : DeliveryAttempt Payload} {maxAttemptNo : ℕ}
    (hgrant : Granting s c kind row) :
    Ledger (s.granted c kind row attempt maxAttemptNo) := by
  have hlen : (s.granted c kind row attempt maxAttemptNo).grants.length =
      s.grants.length + 1 := by
    simp [System.granted]
  constructor
  · rw [hlen, h.counted]
    exact hgrant.counted.symm
  · intro x hx
    exact (h.owned x hx).append _
  · exact h.ordered
  · intro d a m hd
    -- the grantee holds the newest grant, and every send was made under an earlier one
    rcases update_cases (motive := (· = Phase.sending a m)) hd with ⟨rfl, -⟩ | ⟨-, hd⟩
    · refine ⟨⟨s.grants.length, ⟨d, kind, s.row.map (·.status)⟩, hlen, ?_, rfl⟩, ?_⟩
      · simp [System.granted]
      · intro x hx
        have := (h.owned x hx).le_length
        omega
    · -- nobody else can be sending under a row that was not pending
      exact absurd (by rw [hd]; trivial) (not_held hheld hgrant.free d)

/-- Acceptance and answers touch neither the grants nor what the ledger reads. -/
theorem ledger_set {s s' : System Payload} {i : ℕ} {x y : Send} (h : Ledger s)
    (hx : s.sends[i]? = some x) (hy : y.caller = x.caller ∧ y.grantsBefore = x.grantsBefore)
    (hrow : s'.row = s.row) (hgrants : s'.grants = s.grants)
    (hsends : s'.sends = s.sends.set i y)
    (hcallers : ∀ d a m, s'.callers d = .sending a m → s.callers d = .sending a m) :
    Ledger s' := by
  have hmem : x ∈ s.sends := List.mem_of_getElem? hx
  constructor
  · rw [hgrants, hrow, h.counted]
  · intro z hz
    rw [hsends] at hz
    rw [hgrants]
    -- the send that was written keeps its caller and its grants
    rcases List.mem_or_eq_of_mem_set hz with hz | rfl
    · exact h.owned z hz
    · obtain ⟨k, g, hk, hg, hcaller⟩ := h.owned x hmem
      exact ⟨k, g, by rw [hy.2, hk], hg, by rw [hcaller, hy.1]⟩
  · rw [hsends, map_set_same hx hy.2]
    exact h.ordered
  · intro d a m hd
    obtain ⟨hlast, hless⟩ := h.unused d a m (hcallers d a m hd)
    rw [hgrants]
    refine ⟨hlast, ?_⟩
    intro z hz
    rw [hsends] at hz
    rcases List.mem_or_eq_of_mem_set hz with hz | rfl
    · exact hless z hz
    · rw [hy.2]
      exact hless x hmem

/-- A send by the caller that holds the row keeps the ledger. -/
theorem ledger_send {s s' : System Payload} {c : ℕ} {a : DeliveryAttempt Payload} {m : ℕ}
    {x : Send} {p : Phase Payload} (hheld : Held s) (h : Ledger s)
    (hc : s.callers c = .sending a m) (hx : x.caller = c ∧ x.grantsBefore = s.grants.length)
    (hcallers : s'.callers = Function.update s.callers c p)
    (hp : ∀ a m, p ≠ .sending a m) (hrow : s'.row = s.row) (hgrants : s'.grants = s.grants)
    (hsends : s'.sends = s.sends ++ [x]) : Ledger s' := by
  obtain ⟨⟨k, g, hk, hg, hcaller⟩, hless⟩ := h.unused c a m hc
  constructor
  · rw [hgrants, hrow, h.counted]
  -- the new send was made under the newest grant, which its caller has not used before
  · intro z hz
    rw [hsends, List.mem_append, List.mem_singleton] at hz
    rw [hgrants]
    rcases hz with hz | rfl
    · exact h.owned z hz
    · exact ⟨k, g, by rw [hx.2, hk], hg, by rw [hcaller, hx.1]⟩
  · rw [hsends, List.map_append, List.pairwise_append]
    refine ⟨h.ordered, by simp, ?_⟩
    intro u hu v hv
    obtain ⟨z, hz, rfl⟩ := List.mem_map.mp hu
    rw [List.map_singleton, List.mem_singleton] at hv
    rw [hv, hx.2]
    exact hless z hz
  -- the sender goes on, and nobody else was about to send
  · intro d a' m' hd
    rw [hcallers] at hd
    rcases update_cases (motive := (· = Phase.sending a' m')) hd with ⟨-, hd⟩ | ⟨hne, hd⟩
    · exact absurd hd (hp a' m')
    · exact absurd (hheld.unique d c (by rw [hd]; trivial) (by rw [hc]; trivial)) hne

theorem not_sending {p : Phase Payload} (hp : ¬ p.Holds) :
    ∀ a m, p ≠ .sending a m := by
  rintro a m rfl
  exact hp trivial

/-- Each step keeps the ledger of grants and sends. -/
theorem step_ledger {svc : Service} {s s' : System Payload} {a : Act Payload}
    (hstep : Step svc s a s') (hheld : Held s) (h : Ledger s) : Ledger s' := by
  cases hstep with
  | start =>
    exact ledger_release h rfl (not_sending (begin_not_holds _)) rfl rfl rfl
  | crash => exact ledger_release h rfl (not_sending id) rfl rfl rfl
  | stay hstay =>
    -- acceptance and the answer change a send, the rest of the history stays
    exact ledger_release h rfl (not_sending (stays_not_holds hstay)) rfl rfl rfl
  | accept hx hy => exact ledger_set h hx (acceptSend_ledger hy) rfl rfl rfl fun _ _ _ hd => hd
  | send hc =>
    exact ledger_send hheld h hc ⟨rfl, rfl⟩ rfl (by intro a m hp; cases hp) rfl rfl rfl
  | @reply c i attempt maxAttemptNo outcome x y hc hx hy =>
    refine ledger_set h hx (replySend_ledger hy) rfl rfl rfl ?_
    intro d a m hd
    rcases update_cases (motive := (· = Phase.sending a m)) hd with ⟨-, hd⟩ | ⟨-, hd⟩
    · cases hd
    · exact hd
  -- the three grants
  | insert hc hrow => exact ledger_granted hheld h (granting_insert hrow _ _)
  | resume hc hrow hid hstatus => exact ledger_granted hheld h (granting_resume hrow hstatus)
  | authorize hc hrow hid hno hstatus =>
    exact ledger_granted hheld h (granting_authorize hrow hstatus)
  -- the outcome is stored under the same attempt number
  | settle hc hrow =>
    refine ledger_release h rfl (not_sending (afterStoring_not_holds _ _ _)) ?_ rfl rfl
    rw [hrow]
    rfl

/-! ## An outcome that may have been accepted closes the row -/

/-- Feishu told that it did not accept the message. -/
def Send.refused (x : Send) : Bool :=
  x.outcome.any SendOutcome.refused

/-- A confirmed operator retry is among the grants from `lo` up to `hi`. -/
def ConfirmedBetween (grants : List Grant) (lo hi : ℕ) : Prop :=
  ∃ k g, lo ≤ k ∧ k < hi ∧ grants[k]? = some g ∧ g.confirmed

/-- The caller is past send number `i` and has not stored its outcome. -/
def Phase.OnSend (i : ℕ) : Phase Payload → Prop
  | .awaiting _ _ j | .storing _ _ j _ => j = i
  | _ => False

/-- Nothing can follow send number `i` without a confirmed operator retry. -/
def Settled (s : System Payload) (i : ℕ) (x : Send) : Prop :=
  ConfirmedBetween s.grants x.grantsBefore s.grants.length ∨ Closed s.row ∨
    ((∃ r, s.row = some r ∧ r.status = .pending) ∧
      ∀ c, (s.callers c).Holds → (s.callers c).OnSend i)

/-- What is known of a send while, and after, its caller waits for the outcome. -/
structure Flight (s : System Payload) : Prop where
  awaiting : ∀ c a m i, s.callers c = .awaiting a m i →
    ∃ x, s.sends[i]? = some x ∧ x.outcome = none
  storing : ∀ c a m i o, s.callers c = .storing a m i o →
    ∃ x, s.sends[i]? = some x ∧ x.outcome = some o
  honest : ∀ x ∈ s.sends, x.accepted = true → x.refused = false
  settled : ∀ i x, s.sends[i]? = some x → x.refused = false → Settled s i x
  separated : ∀ (i j : ℕ) (x y : Send), i < j → s.sends[i]? = some x → s.sends[j]? = some y →
    x.refused = false → ConfirmedBetween s.grants x.grantsBefore y.grantsBefore

theorem ConfirmedBetween.append {grants : List Grant} {lo hi : ℕ}
    (h : ConfirmedBetween grants lo hi) (more : List Grant) :
    ConfirmedBetween (grants ++ more) lo hi := by
  obtain ⟨k, g, hlo, hhi, hg, hconf⟩ := h
  exact ⟨k, g, hlo, hhi, getElem?_append_of_some hg more, hconf⟩

theorem ConfirmedBetween.mono {grants : List Grant} {lo hi hi' : ℕ}
    (h : ConfirmedBetween grants lo hi) (hle : hi ≤ hi') :
    ConfirmedBetween grants lo hi' := by
  obtain ⟨k, g, hlo, hhi, hg, hconf⟩ := h
  exact ⟨k, g, hlo, by omega, hg, hconf⟩

theorem not_closed_of_pending {row : DeliveryRow Payload}
    (h : ∃ r, row = some r ∧ r.status = .pending) : ¬ Closed row := by
  rintro ⟨r, hr, hstatus⟩
  obtain ⟨r', hr', hpending⟩ := h
  rw [hr] at hr'
  cases hr'
  rcases hstatus with hs | hs <;> simp [hs] at hpending

/-- An outcome that is no refusal is stored as `succeeded` or `uncertain`. -/
theorem closed_of_not_refused {r : DeliveryAttempt Payload} {m : ℕ} {o : SendOutcome}
    (h : o.refused = false) : Closed (some (r.settled m o)) := by
  refine ⟨_, rfl, ?_⟩
  cases o with
  | sent messageId => exact Or.inl rfl
  | failed errorCode retryable outcomeUnknown =>
    cases outcomeUnknown with
    | false => cases h
    | true => exact Or.inr rfl

/-- A caller leaves without touching the row, or by storing its outcome. -/
theorem flight_release {s s' : System Payload} {c : ℕ} {p : Phase Payload} (h : Flight s)
    (hcallers : s'.callers = Function.update s.callers c p) (hp : ¬ p.Holds)
    (hgrants : s'.grants = s.grants) (hsends : s'.sends = s.sends)
    (hrow : s'.row = s.row ∨ ∀ i x, s.sends[i]? = some x → x.refused = false →
      Settled s i x → Settled s' i x) : Flight s' := by
  constructor
  · intro d a m i hd
    rw [hcallers] at hd
    rw [hsends]
    -- the caller that lets go awaits nothing
    rcases update_cases (motive := (· = Phase.awaiting a m i)) hd with ⟨-, hd⟩ | ⟨-, hd⟩
    · exact absurd (by rw [hd]; trivial) hp
    · exact h.awaiting d a m i hd
  · intro d a m i o hd
    rw [hcallers] at hd
    rw [hsends]
    rcases update_cases (motive := (· = Phase.storing a m i o)) hd with ⟨-, hd⟩ | ⟨-, hd⟩
    · exact absurd (by rw [hd]; trivial) hp
    · exact h.storing d a m i o hd
  · rw [hsends]
    exact h.honest
  · intro i x hx href
    rw [hsends] at hx
    rcases hrow with hrow | hrow
    -- what closes a send that may have been accepted is still there, wherever it was
    · rcases h.settled i x hx href with hconf | hclosed | ⟨hpending, hon⟩
      · exact Or.inl (by rw [hgrants]; exact hconf)
      · exact Or.inr (Or.inl (by rw [hrow]; exact hclosed))
      · refine Or.inr (Or.inr ⟨by rw [hrow]; exact hpending, ?_⟩)
        intro d hd
        rw [hcallers] at hd ⊢
        rcases update_cases (motive := Phase.Holds) hd with ⟨-, hd⟩ | ⟨hne, hd⟩
        · exact absurd hd hp
        · rw [Function.update_of_ne hne]
          exact hon d hd
    · exact hrow i x hx href (h.settled i x hx href)
  · rw [hsends, hgrants]
    exact h.separated

/-- A grant keeps what is known of the sends. -/
theorem flight_granted {s : System Payload} (hheld : Held s) (hledger : Ledger s)
    (h : Flight s) {c : ℕ} {kind : GrantKind} {row attempt : DeliveryAttempt Payload}
    {maxAttemptNo : ℕ} (hgrant : Granting s c kind row) :
    Flight (s.granted c kind row attempt maxAttemptNo) := by
  -- after a grant nobody but the grantee holds the row
  have old : ∀ {d : ℕ} {q : Phase Payload},
      (s.granted c kind row attempt maxAttemptNo).callers d = q → q.Holds →
        q = .sending attempt maxAttemptNo := by
    intro d q hd hq
    rcases update_cases (motive := (· = q)) hd with ⟨-, hd⟩ | ⟨-, hd⟩
    · exact hd.symm
    · exact absurd (by rw [hd]; exact hq) (not_held hheld hgrant.free d)
  constructor
  · intro d a m i hd
    cases old hd trivial
  · intro d a m i o hd
    cases old hd trivial
  · exact h.honest
  · intro i x hx href
    have hle := (hledger.owned x (List.mem_of_getElem? hx)).le_length
    refine Or.inl ?_
    -- the row was free, so the send is closed: either way a confirmation follows it
    rcases h.settled i x hx href with hconf | hcl | ⟨⟨r, hr, hpending⟩, -⟩
    · exact (hconf.append _).mono (by simp [System.granted])
    · exact ⟨s.grants.length, _, hle, by simp [System.granted], by simp [System.granted],
        hgrant.confirmed hcl⟩
    · exact absurd hpending (hgrant.free r hr)
  · intro i j x y hij hx hy href
    exact (h.separated i j x y hij hx hy href).append _

/-- A send of the caller that holds the row: whatever was sent before it and may have
been accepted was confirmed absent in between. -/
theorem flight_send {s s' : System Payload} {c : ℕ} {a : DeliveryAttempt Payload} {m : ℕ}
    {x : Send} (hheld : Held s) (h : Flight s) (hc : s.callers c = .sending a m)
    (hx : x.outcome = none ∧ x.accepted = false ∧ x.grantsBefore = s.grants.length)
    (hcallers : s'.callers = Function.update s.callers c (.awaiting a m s.sends.length))
    (hrow : s'.row = s.row) (hgrants : s'.grants = s.grants)
    (hsends : s'.sends = s.sends ++ [x]) : Flight s' := by
  have hholds : (s.callers c).Holds := by rw [hc]; trivial
  have hpending := hheld.pending c hholds
  have only : ∀ {d : ℕ}, (s'.callers d).Holds → d = c := by
    intro d hd
    rw [hcallers] at hd
    rcases update_cases (motive := Phase.Holds) hd with ⟨hd, -⟩ | ⟨-, hd⟩
    · exact hd
    · exact hheld.unique d c hd hholds
  -- every earlier send is refused or confirmed absent: the caller is still `sending`
  have before : ∀ (i : ℕ) (z : Send), s.sends[i]? = some z → z.refused = false →
      ConfirmedBetween s.grants z.grantsBefore s.grants.length := by
    intro i z hz href
    rcases h.settled i z hz href with hconf | hclosed | ⟨-, hon⟩
    · exact hconf
    · exact absurd hclosed (not_closed_of_pending hpending)
    · have := hon c hholds
      rw [hc] at this
      exact this.elim
  have look : ∀ {i : ℕ} {z : Send}, s'.sends[i]? = some z →
      s.sends[i]? = some z ∨ (i = s.sends.length ∧ z = x) := by
    intro i z hz
    rw [hsends] at hz
    exact getElem?_concat_cases hz
  constructor
  · intro d a' m' i hd
    have hdc : d = c := only (by rw [hd]; trivial)
    subst hdc
    rw [hcallers, Function.update_self] at hd
    cases hd
    exact ⟨x, by rw [hsends]; simp, hx.1⟩
  · intro d a' m' i o hd
    have hdc : d = c := only (by rw [hd]; trivial)
    subst hdc
    rw [hcallers, Function.update_self] at hd
    cases hd
  · intro z hz hacc
    rw [hsends, List.mem_append, List.mem_singleton] at hz
    rcases hz with hz | rfl
    · exact h.honest z hz hacc
    · rw [hx.2.1] at hacc
      cases hacc
  · intro i z hz href
    rcases look hz with hz | ⟨rfl, rfl⟩
    · exact Or.inl (by rw [hgrants]; exact before i z hz href)
    · refine Or.inr (Or.inr ⟨by rw [hrow]; exact hpending, ?_⟩)
      intro d hd
      rw [only hd, hcallers, Function.update_self]
      rfl
  · intro i j y z hij hy hz href
    rw [hgrants]
    rcases look hz with hz' | ⟨rfl, rfl⟩
    · rcases look hy with hy' | ⟨rfl, -⟩
      · exact h.separated i j y z hij hy' hz' href
      · have := (List.getElem?_eq_some_iff.mp hz').1
        omega
    · rcases look hy with hy' | ⟨rfl, -⟩
      · rw [hx.2.2]
        exact before i y hy' href
      · omega

/-- Acceptance, or the answer, of send number `i`. The caller whose send it is, if any,
stays on it. -/
theorem flight_set {s s' : System Payload} {i : ℕ} {x y : Send} (h : Flight s)
    (hx : s.sends[i]? = some x) (hy : y.grantsBefore = x.grantsBefore)
    (hhonest : y.accepted = true → y.refused = false)
    (hopen : y.refused = false → x.refused = false)
    (hrow : s'.row = s.row) (hgrants : s'.grants = s.grants)
    (hsends : s'.sends = s.sends.set i y)
    (hcallers : ∀ d,
      (s'.callers d = s.callers d ∧ ((s.callers d).OnSend i → y.outcome = x.outcome)) ∨
      ((s.callers d).OnSend i ∧ ∃ a m o, s'.callers d = .storing a m i o ∧
        y.outcome = some o)) : Flight s' := by
  -- of the sends, `look` reads the new list, `here` and `there` find an entry in it
  have look : ∀ {k : ℕ} {z : Send}, s'.sends[k]? = some z →
      (k = i ∧ z = y) ∨ (k ≠ i ∧ s.sends[k]? = some z) := by
    intro k z hz
    rw [hsends] at hz
    exact getElem?_set_cases hz
  have here : s'.sends[i]? = some y := by
    rw [hsends, List.getElem?_set_self (List.getElem?_eq_some_iff.mp hx).1]
  have there : ∀ {k : ℕ} {z : Send}, k ≠ i → s.sends[k]? = some z →
      s'.sends[k]? = some z := by
    intro k z hk hz
    rw [hsends, List.getElem?_set_ne fun h' => hk h'.symm, hz]
  constructor
  -- the callers that await an answer
  · intro d a m k hd
    rcases hcallers d with ⟨hsame, hon⟩ | ⟨-, a', m', o, hnew, -⟩
    · rw [hsame] at hd
      obtain ⟨z, hz, hnone⟩ := h.awaiting d a m k hd
      by_cases hk : k = i
      · subst hk
        rw [hx] at hz
        cases hz
        exact ⟨y, here, (hon (by rw [hd]; rfl)).trans hnone⟩
      · exact ⟨z, there hk hz, hnone⟩
    · rw [hnew] at hd
      cases hd
  · intro d a m k o hd
    -- the callers that store one
    rcases hcallers d with ⟨hsame, hon⟩ | ⟨-, a', m', o', hnew, hout⟩
    · rw [hsame] at hd
      obtain ⟨z, hz, hsome⟩ := h.storing d a m k o hd
      by_cases hk : k = i
      · subst hk
        rw [hx] at hz
        cases hz
        exact ⟨y, here, (hon (by rw [hd]; rfl)).trans hsome⟩
      · exact ⟨z, there hk hz, hsome⟩
    · rw [hnew] at hd
      cases hd
      exact ⟨y, here, hout⟩
  · intro z hz hacc
    rw [hsends] at hz
    rcases List.mem_or_eq_of_mem_set hz with hz | rfl
    · exact h.honest z hz hacc
    · exact hhonest hacc
  · intro k z hz href
    -- a send is as settled as it was, since its grants did not change
    have hold : Settled s k z := by
      rcases look hz with ⟨rfl, rfl⟩ | ⟨-, hz⟩
      · have := h.settled k x hx (hopen href)
        unfold Settled at this ⊢
        rwa [hy]
      · exact h.settled k z hz href
    rcases hold with hconf | hclosed | ⟨hpending, hon⟩
    · exact Or.inl (by rw [hgrants]; exact hconf)
    · exact Or.inr (Or.inl (by rw [hrow]; exact hclosed))
    · refine Or.inr (Or.inr ⟨by rw [hrow]; exact hpending, ?_⟩)
      intro d hd
      rcases hcallers d with ⟨hsame, -⟩ | ⟨honi, a', m', o', hnew, -⟩
      · rw [hsame] at hd ⊢
        exact hon d hd
      · -- the caller of send `i` is on send `k`, so the two are one
        have hki : k = i := by
          cases hd' : s.callers d <;> rw [hd'] at honi <;> try exact honi.elim
          all_goals
            have := hon d (by rw [hd']; trivial)
            rw [hd'] at this
            exact this.symm.trans honi
        rw [hnew, hki]
        rfl
  · intro k j z w hkj hz hw href
    rw [hgrants]
    -- the grants between two sends are those of before, whichever of the two was written
    rcases look hz with ⟨rfl, rfl⟩ | ⟨-, hz⟩ <;> rcases look hw with ⟨rfl, rfl⟩ | ⟨-, hw⟩
    · omega
    · rw [hy]
      exact h.separated k j x w hkj hx hw (hopen href)
    · rw [hy]
      exact h.separated k j z x hkj hz hx href
    · exact h.separated k j z w hkj hz hw href

theorem acceptSend_outcome {x y : Send} (h : acceptSend x = some y) :
    y.outcome = x.outcome ∧ x.refused = false := by
  obtain ⟨rfl, href⟩ := acceptSend_eq h
  exact ⟨rfl, href⟩

/-- A refusal comes only for a message that was not accepted, and tells of none. -/
theorem replySend_outcome {x y : Send} {outcome : SendOutcome}
    (h : replySend x outcome = some y) :
    y.outcome = some outcome ∧ (y.accepted = true → y.refused = false) := by
  obtain ⟨hno, rfl⟩ := replySend_eq h
  refine ⟨rfl, ?_⟩
  intro hacc
  cases outcome with
  | sent messageId => rfl
  | failed errorCode retryable outcomeUnknown =>
    cases outcomeUnknown with
    | true => rfl
    | false => exact absurd ⟨rfl, by simpa [SendOutcome.messageId] using hacc⟩ hno

/-- The holder's own outcome: the row goes from `pending` to the status it stores. -/
theorem flight_settle {s : System Payload} {c i : ℕ}
    {attempt r : DeliveryAttempt Payload} {maxAttemptNo : ℕ} {outcome : SendOutcome}
    (h : Flight s) (hc : s.callers c = .storing attempt maxAttemptNo i outcome)
    (hrow : s.row = some r) (hpending : r.status = .pending) {s' : System Payload}
    (hs' : s' = { s with
      row := some (r.settled maxAttemptNo outcome)
      callers := Function.update s.callers c (afterStoring attempt maxAttemptNo outcome) }) :
    Flight s' := by
  subst hs'
  refine flight_release h rfl (afterStoring_not_holds _ _ _) rfl rfl (Or.inr ?_)
  -- a confirmation stays, and the row of a holder is not closed
  rintro k x hx href (hconf | hclosed | ⟨-, hon⟩)
  · exact Or.inl hconf
  · exact absurd hclosed (not_closed_of_pending ⟨r, hrow, hpending⟩)
  · -- the holder is on send `k`, so it is the outcome of that send that is stored
    have hik : i = k := by
      have := hon c (by rw [hc]; trivial)
      rwa [hc] at this
    subst hik
    obtain ⟨x', hx', hout⟩ := h.storing c attempt maxAttemptNo i outcome hc
    rw [hx] at hx'
    cases hx'
    refine Or.inr (Or.inl (closed_of_not_refused ?_))
    simpa [Send.refused, hout] using href

/-- Each step keeps the sends in flight accounted for. -/
theorem step_flight {svc : Service} {s s' : System Payload} {a : Act Payload}
    (hstep : Step svc s a s') (hheld : Held s) (hledger : Ledger s) (h : Flight s) :
    Flight s' := by
  cases hstep with
  | start => exact flight_release h rfl (begin_not_holds _) rfl rfl (Or.inl rfl)
  | crash => exact flight_release h rfl id rfl rfl (Or.inl rfl)
  | stay hstay => exact flight_release h rfl (stays_not_holds hstay) rfl rfl (Or.inl rfl)
  -- acceptance leaves the outcome open
  | @accept i x y hx hy =>
    obtain ⟨hout, href⟩ := acceptSend_outcome hy
    have hyref : y.refused = x.refused := by simp only [Send.refused, hout]
    exact flight_set h hx (acceptSend_ledger hy).2 (fun _ => hyref.trans href)
      (fun hr => hyref.symm.trans hr) rfl rfl rfl fun d => Or.inl ⟨rfl, fun _ => hout⟩
  | send hc => exact flight_send hheld h hc ⟨rfl, rfl, rfl⟩ rfl rfl rfl rfl
  -- the answer goes to the caller of the send, which stores it next
  | @reply c i attempt maxAttemptNo outcome x y hc hx hy =>
    obtain ⟨hout, hacc⟩ := replySend_outcome hy
    obtain ⟨x', hx', hnone⟩ := h.awaiting c attempt maxAttemptNo i hc
    rw [hx] at hx'
    cases hx'
    refine flight_set h hx (replySend_ledger hy).2 hacc
      (fun _ => by simp [Send.refused, hnone]) rfl rfl rfl ?_
    intro d
    by_cases hd : d = c
    · subst hd
      exact Or.inr ⟨by rw [hc]; rfl, attempt, maxAttemptNo, outcome,
        Function.update_self .., hout⟩
    · refine Or.inl ⟨Function.update_of_ne hd _ _, ?_⟩
      intro hon
      have hholds : (s.callers d).Holds := by
        cases hd' : s.callers d <;> rw [hd'] at hon <;> first | exact hon.elim | trivial
      exact absurd (hheld.unique d c hholds (by rw [hc]; trivial)) hd
  | insert hc hrow => exact flight_granted hheld hledger h (granting_insert hrow _ _)
  | resume hc hrow hid hstatus =>
    exact flight_granted hheld hledger h (granting_resume hrow hstatus)
  | authorize hc hrow hid hno hstatus =>
    exact flight_granted hheld hledger h (granting_authorize hrow hstatus)
  | settle hc hrow hid hno hpending => exact flight_settle h hc hrow hpending rfl

/-! ## The delivery invariant -/

/-- Attempts are counted from one. -/
def Numbered (s : System Payload) : Prop :=
  ∀ r, s.row = some r → 1 ≤ r.attemptNo

/-- Each step counts the attempts from one. -/
theorem step_numbered {svc : Service} {s s' : System Payload} {a : Act Payload}
    (hstep : Step svc s a s') (h : Numbered s) : Numbered s' := by
  cases hstep with
  | start | crash | accept | send | reply | stay => exact h
  | insert =>
    rintro r ⟨⟩
    exact Nat.le_refl 1
  | resume | authorize =>
    rintro r ⟨⟩
    exact Nat.le_add_left 1 _
  | @settle c i attempt r m outcome hc hrow =>
    rintro r' ⟨⟩
    exact h r hrow

structure Inv (s : System Payload) : Prop where
  numbered : Numbered s
  held : Held s
  ledger : Ledger s
  flight : Flight s

theorem init_inv {s : System Payload} (h : Init s) : Inv s := by
  obtain ⟨hrow, hcallers, hgrants, hsends⟩ := h
  refine ⟨?_, ⟨?_, ?_⟩, ⟨?_, ?_, ?_, ?_⟩, ⟨?_, ?_, ?_, ?_, ?_⟩⟩ <;>
    simp [hrow, hcallers, hgrants, hsends, storedAttemptNo, Phase.Holds, Numbered]

theorem step_inv [DecidableEq Payload] {svc : Service} {s : System Payload}
    {a : Act Payload} {s' : System Payload} (hstep : Next svc s a s') (h : Inv s) : Inv s' :=
  have hs := next_step hstep
  ⟨step_numbered hs h.numbered, step_held hs h.held, step_ledger hs h.held h.ledger,
    step_flight hs h.held h.ledger h.flight⟩

theorem reachable_inv [DecidableEq Payload] {svc : Service} {s : System Payload}
    (h : Reachable Init (Next svc) s) : Inv s :=
  init_invariant Inv (fun _ => init_inv) (fun _ _ _ => step_inv) h

/-! ## A closed row is left by a confirmed retry alone -/

/-- Since a state with `lo` grants and `m` sends, nothing was sent without a confirmed
retry before it; while there is none the row stays closed. -/
structure Shut (lo m : ℕ) (s : System Payload) : Prop where
  sends : ∀ (j : ℕ) (y : Send), m ≤ j → s.sends[j]? = some y →
    ConfirmedBetween s.grants lo y.grantsBefore
  row : ConfirmedBetween s.grants lo s.grants.length ∨
    (Closed s.row ∧ lo ≤ s.grants.length)

/-- The steps that make neither a grant nor a send. -/
theorem shut_same {lo m : ℕ} {s s' : System Payload} (h : Shut lo m s)
    (hgrants : s'.grants = s.grants) (hsends : s'.sends = s.sends)
    (hrow : Closed s.row → Closed s'.row) : Shut lo m s' := by
  refine ⟨by rw [hgrants, hsends]; exact h.sends, ?_⟩
  rw [hgrants]
  rcases h.row with hconf | ⟨hclosed, hle⟩
  · exact Or.inl hconf
  · exact Or.inr ⟨hrow hclosed, hle⟩

/-- What becomes of a send opens nothing. -/
theorem shut_set {lo m i : ℕ} {s s' : System Payload} {x y : Send} (h : Shut lo m s)
    (hx : s.sends[i]? = some x) (hy : y.grantsBefore = x.grantsBefore)
    (hgrants : s'.grants = s.grants) (hrow : s'.row = s.row)
    (hsends : s'.sends = s.sends.set i y) : Shut lo m s' := by
  refine ⟨?_, by rw [hgrants, hrow]; exact h.row⟩
  intro j z hj hz
  rw [hsends] at hz
  rw [hgrants]
  rcases getElem?_set_cases hz with ⟨rfl, rfl⟩ | ⟨-, hz⟩
  · rw [hy]
    exact h.sends j x hj hx
  · exact h.sends j z hj hz

/-- A grant on a closed row is one of a confirmed retry. -/
theorem shut_granted {lo m : ℕ} {s : System Payload} (h : Shut lo m s) {c : ℕ}
    {kind : GrantKind} {row attempt : DeliveryAttempt Payload} {maxAttemptNo : ℕ}
    (hgrant : Granting s c kind row) :
    Shut lo m (s.granted c kind row attempt maxAttemptNo) := by
  constructor
  · intro j y hj hy
    exact (h.sends j y hj hy).append _
  · left
    rcases h.row with hconf | ⟨hclosed, hle⟩
    · exact (hconf.append _).mono (by simp [System.granted])
    · exact ⟨s.grants.length, _, hle, by simp [System.granted], by simp [System.granted],
        hgrant.confirmed hclosed⟩

/-- What is closed stays closed. -/
theorem step_shut {svc : Service} {s s' : System Payload} {a : Act Payload} {lo m : ℕ}
    (hstep : Step svc s a s') (hheld : Held s) (h : Shut lo m s) : Shut lo m s' := by
  cases hstep with
  | start | crash | stay => exact shut_same h rfl rfl id
  | accept hx hy => exact shut_set h hx (acceptSend_ledger hy).2 rfl rfl rfl
  | reply hc hx hy => exact shut_set h hx (replySend_ledger hy).2 rfl rfl rfl
  | insert hc hrow => exact shut_granted h (granting_insert hrow _ _)
  | resume hc hrow hid hstatus => exact shut_granted h (granting_resume hrow hstatus)
  | authorize hc hrow hid hno hstatus => exact shut_granted h (granting_authorize hrow hstatus)
  | settle hc hrow hid hno hpending =>
    refine shut_same h rfl rfl ?_
    intro hclosed
    exact absurd hclosed (not_closed_of_pending ⟨_, hrow, hpending⟩)
  | @send c attempt maxAttemptNo hc =>
    -- the sender holds a pending row, so a confirmed retry has come before
    have hconf : ConfirmedBetween s.grants lo s.grants.length := by
      rcases h.row with hconf | ⟨hclosed, -⟩
      · exact hconf
      · exact absurd hclosed (not_closed_of_pending (hheld.pending c (by rw [hc]; trivial)))
    refine ⟨?_, Or.inl hconf⟩
    intro j y hj hy
    rcases getElem?_concat_cases hy with hy | ⟨-, rfl⟩
    · exact h.sends j y hj hy
    · exact hconf

/-! ## At most once -/

/-- No message is sent again unless the previous one was not accepted, or an operator
confirmed so. -/
structure AtMostOnce [DecidableEq Payload] (svc : Service) (s : System Payload) : Prop where
  own_grant : ∀ x ∈ s.sends, Owned s.grants x
  distinct_grants : (s.sends.map (·.grantsBefore)).Pairwise (· < ·)
  sends_le : s.sends.length ≤ storedAttemptNo s.row
  accepted_last : ∀ (i j : ℕ) (x y : Send), i < j → s.sends[i]? = some x →
    s.sends[j]? = some y → x.accepted = true →
    ConfirmedBetween s.grants x.grantsBefore y.grantsBefore
  closed_last : Closed s.row → ∀ (as : List (Act Payload)) (s' : System Payload),
    Run (Next svc) s as s' → ∀ (j : ℕ) (y : Send), s.sends.length ≤ j →
    s'.sends[j]? = some y → ConfirmedBetween s'.grants s.grants.length y.grantsBefore

theorem sends_le_attemptNo {s : System Payload} (h : Ledger s) :
    s.sends.length ≤ storedAttemptNo s.row := by
  rw [← h.counted, ← List.length_map (·.grantsBefore)]
  refine length_le_of_increasing h.ordered ?_ ?_
  · intro k hk
    obtain ⟨x, hx, rfl⟩ := List.mem_map.mp hk
    obtain ⟨k, g, hkg, -⟩ := h.owned x hx
    omega
  · intro k hk
    obtain ⟨x, hx, rfl⟩ := List.mem_map.mp hk
    exact (h.owned x hx).le_length

/-- And so over a run. -/
theorem run_shut [DecidableEq Payload] {svc : Service} {s s' : System Payload}
    {as : List (Act Payload)} (h : Inv s) (hclosed : Closed s.row)
    (hrun : Run (Next svc) s as s') : Shut s.grants.length s.sends.length s' := by
  have hstart : Shut s.grants.length s.sends.length s := by
    refine ⟨?_, Or.inr ⟨hclosed, Nat.le_refl _⟩⟩
    intro j y hj hy
    have := (List.getElem?_eq_some_iff.mp hy).1
    omega
  have hboth := run_invariant
    (fun t => Inv t ∧ Shut s.grants.length s.sends.length t)
    (fun t a t' hstep ht =>
      ⟨step_inv hstep ht.1, step_shut (next_step hstep) ht.1.held ht.2⟩) hrun ⟨h, hstart⟩
  exact hboth.2

/-- In every interleaving of calls and crashes. -/
theorem no_duplicate_delivery [DecidableEq Payload] (svc : Service) {s : System Payload}
    (h : Reachable Init (Next svc) s) : AtMostOnce svc s := by
  have hinv := reachable_inv h
  refine ⟨hinv.ledger.owned, hinv.ledger.ordered, sends_le_attemptNo hinv.ledger, ?_, ?_⟩
  · intro i j x y hij hx hy hacc
    exact hinv.flight.separated i j x y hij hx hy
      (hinv.flight.honest x (List.mem_of_getElem? hx) hacc)
  · intro hclosed as s' hrun j y hj hy
    exact (run_shut hinv hclosed hrun).sends j y hj hy

/-- The report every call of the runs below is about. -/
def publishedReport : StoredReport Unit := ⟨"validated", "published", ()⟩

/-- A send of unknown outcome, then a confirmed operator retry that succeeds. -/
def confirmedRetry : List (Act Unit) :=
  [.start 0 (.deliver (some publishedReport) "r" "chat" false 7), .store 0, .send 0,
   .accept 0, .reply 0 (.failed "FEISHU_REQUEST_FAILED" false true), .store 0,
   .start 1 (.retry (some publishedReport) "r" "chat" true), .store 1, .store 1, .send 1,
   .reply 1 (.sent "om_1"), .store 1]

theorem no_duplicate_delivery_confirmed_retry :
    ∃ s : System Unit, exec (next {}) emptySystem confirmedRetry = some s ∧
      s.sends.length = 2 ∧ AtMostOnce {} s := by
  have hrun : (exec (next {}) emptySystem confirmedRetry).map (·.sends.length) = some 2 := by
    rfl
  obtain ⟨s, hs, hlen⟩ := Option.map_eq_some_iff.mp hrun
  exact ⟨s, hs, hlen,
    no_duplicate_delivery {} ⟨emptySystem, confirmedRetry, ⟨rfl, fun _ => rfl, rfl, rfl⟩,
      run_of_exec hs⟩⟩

end MacroPlatform.Delivery
