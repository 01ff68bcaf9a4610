import Mathlib.Data.Nat.Notation
import MacroPlatform.Lib.Transaction

/-! # Processes that may be stopped

A process commits transactions to a durable store and calls other systems. It may be
stopped before any of the two; what it has committed and called by then stays, what it holds
in memory is lost.

* `triple_bind` and the rules beside it: what a program establishes of the store and its result;
* `keeps_bind`: what it preserves wherever it is stopped;
* `appends_bind`: what it adds to the calls.
-/

namespace Process

open Transaction

variable {ε σ κ α β : Type}

/-- Why a program ends without a value. -/
inductive Halt (ε : Type) where
  | raised (error : ε)
  | stopped

/-- The durable store, the calls that were made, and the steps that are left before the
process is stopped; `none` when it is not. -/
structure World (σ κ : Type) where
  durable : σ
  calls : List κ := []
  steps : Option ℕ := none

abbrev Program (ε σ κ α : Type) := EStateM (Halt ε) (World σ κ) α

/-- A step of the process: the store and the calls after it, and the steps that are left. -/
def World.stepped (w : World σ κ) (durable : σ) (calls : List κ) : World σ κ :=
  ⟨durable, calls, w.steps.map (· - 1)⟩

/-- A transaction: what its body does is kept when it does not raise. -/
def commit (body : EStateM ε σ α) : Program ε σ κ α := fun w =>
  if w.steps = some 0 then .error .stopped w
  else
    match body w.durable with
    | .ok a s => .ok a (w.stepped s w.calls)
    | .error e _ => .error (.raised e) (w.stepped w.durable w.calls)

/-- A call of another system. -/
def call (c : κ) : Program ε σ κ PUnit := fun w =>
  if w.steps = some 0 then .error .stopped w
  else .ok ⟨⟩ (w.stepped w.durable (w.calls ++ [c]))

def read (f : σ → α) : Program ε σ κ α := fun w => .ok (f w.durable) w

def raise (error : ε) : Program ε σ κ α := fun w => .error (.raised error) w

/-- The process does not get any further. -/
def stop : Program ε σ κ α := fun w => .error .stopped w

def ofExcept (x : Except ε α) : Program ε σ κ α :=
  match x with
  | .ok a => pure a
  | .error e => raise e

/-- `try: body except Exception`; a process that is stopped catches nothing. -/
def catching (body : Program ε σ κ α) (handler : ε → Program ε σ κ α) : Program ε σ κ α := fun w =>
  match body w with
  | .error (.raised e) w' => handler e w'
  | result => result

/-- The value of a program, or the error that it raises. -/
def trying (body : Program ε σ κ α) : Program ε σ κ (Except ε α) :=
  catching (body >>= fun a => pure (.ok a)) fun e => pure (.error e)

/-- A call of another system, noted with its answer, which may depend on the calls before. -/
def ask (answer : List κ → Except ε α) (event : Except ε α → κ) : Program ε σ κ α := fun w =>
  (call (event (answer w.calls)) >>= fun _ => ofExcept (answer w.calls)) w

/-! ## What holds wherever a process is stopped -/

/-- From `P` a program returns in `Q`, and ends in `E` when it does not return. -/
def Triple (P : σ → List κ → Prop) (p : Program ε σ κ α) (Q : α → σ → List κ → Prop)
    (E : σ → List κ → Prop) : Prop :=
  ∀ w : World σ κ, P w.durable w.calls →
    match p w with
    | .ok a w' => Q a w'.durable w'.calls
    | .error _ w' => E w'.durable w'.calls

variable {P P' E : σ → List κ → Prop} {Q Q' : α → σ → List κ → Prop}
  {R : β → σ → List κ → Prop}

theorem triple_pure {a : α} (h : ∀ s calls, P s calls → Q a s calls) :
    Triple P (pure a : Program ε σ κ α) Q E :=
  fun w hw => h w.durable w.calls hw

theorem triple_raise {e : ε} (h : ∀ s calls, P s calls → E s calls) :
    Triple P (raise e : Program ε σ κ α) Q E :=
  fun w hw => h w.durable w.calls hw

theorem triple_stop (h : ∀ s calls, P s calls → E s calls) :
    Triple P (stop : Program ε σ κ α) Q E :=
  fun w hw => h w.durable w.calls hw

theorem triple_read {f : σ → α} (h : ∀ s calls, P s calls → Q (f s) s calls) :
    Triple P (read f : Program ε σ κ α) Q E :=
  fun w hw => h w.durable w.calls hw

/-- The rule of sequence: a raise of either part is met by the exceptional postcondition. -/
theorem triple_bind {p : Program ε σ κ α} {f : α → Program ε σ κ β} (hp : Triple P p Q E)
    (hf : ∀ a, Triple (Q a) (f a) R E) : Triple P (p >>= f) R E := by
  intro w hw
  have hfirst := hp w hw
  change match EStateM.bind p f w with
    | .ok b w' => R b w'.durable w'.calls
    | .error _ w' => E w'.durable w'.calls
  unfold EStateM.bind
  cases hpw : p w with
  | ok a w' =>
    rw [hpw] at hfirst
    exact hf a w' hfirst
  | error e w' =>
    rw [hpw] at hfirst
    exact hfirst

/-- The rule of consequence. -/
theorem triple_weaken {p : Program ε σ κ α} (h : Triple P p Q E)
    (hP : ∀ s calls, P' s calls → P s calls) (hQ : ∀ a s calls, Q a s calls → Q' a s calls) :
    Triple P' p Q' E := by
  intro w hw
  have hrun := h w (hP _ _ hw)
  cases hpw : p w with
  | ok a w' =>
    rw [hpw] at hrun
    exact hQ a _ _ hrun
  | error e w' =>
    rw [hpw] at hrun
    exact hrun

theorem triple_errors {E' : σ → List κ → Prop} {p : Program ε σ κ α} (h : Triple P p Q E)
    (hE : ∀ s calls, E s calls → E' s calls) : Triple P p Q E' := by
  intro w hw
  have hrun := h w hw
  cases hpw : p w with
  | ok a w' =>
    rw [hpw] at hrun
    exact hrun
  | error e w' =>
    rw [hpw] at hrun
    exact hE _ _ hrun

/-- A fact that does not depend on the store is known throughout. -/
theorem triple_known {φ : Prop} {p : Program ε σ κ α} (h : φ → Triple P p Q E) :
    Triple (fun s calls => P s calls ∧ φ) p Q E :=
  fun w hw => h hw.2 w hw.1

/-- A transaction that commits, or that leaves the state. -/
theorem triple_commit {body : EStateM ε σ α}
    (hok : ∀ s calls a s', P s calls → body s = .ok a s' → Q a s' calls)
    (herror : ∀ s calls, P s calls → E s calls) :
    Triple P (commit body : Program ε σ κ α) Q E := by
  intro w hw
  unfold commit
  by_cases hsteps : w.steps = some 0
  · rw [if_pos hsteps]
    exact herror _ _ hw
  · rw [if_neg hsteps]
    cases hbody : body w.durable with
    | ok a s => exact hok _ _ a s hw hbody
    | error e s => exact herror _ _ hw

theorem triple_call {c : κ} {Q : PUnit → σ → List κ → Prop}
    (hok : ∀ s calls, P s calls → Q ⟨⟩ s (calls ++ [c]))
    (herror : ∀ s calls, P s calls → E s calls) :
    Triple P (call c : Program ε σ κ PUnit) Q E := by
  intro w hw
  unfold call
  by_cases hsteps : w.steps = some 0
  · rw [if_pos hsteps]
    exact herror _ _ hw
  · rw [if_neg hsteps]
    exact hok _ _ hw

theorem triple_ofExcept {x : Except ε α} (hok : ∀ a s calls, P s calls → Q a s calls)
    (herror : ∀ s calls, P s calls → E s calls) :
    Triple P (ofExcept x : Program ε σ κ α) Q E := by
  cases x with
  | ok a => exact triple_pure fun s calls => hok a s calls
  | error e => exact triple_raise herror

/-- A handler starts from the exceptional postcondition. -/
theorem triple_catching {p : Program ε σ κ α} {handler : ε → Program ε σ κ α}
    (hp : Triple P p Q E) (hhandler : ∀ e, Triple E (handler e) Q E) :
    Triple P (catching p handler) Q E := by
  intro w hw
  have hfirst := hp w hw
  unfold catching
  cases hpw : p w with
  | ok a w' =>
    rw [hpw] at hfirst
    exact hfirst
  | error halt w' =>
    rw [hpw] at hfirst
    cases halt with
    | raised e => exact hhandler e w' hfirst
    | stopped => exact hfirst

theorem triple_trying {p : Program ε σ κ α} {Q : Except ε α → σ → List κ → Prop}
    (hp : Triple P p (fun a => Q (.ok a)) E) (he : ∀ e s calls, E s calls → Q (.error e) s calls) :
    Triple P (trying p) Q E :=
  triple_catching (triple_bind hp fun _ => triple_pure fun _ _ h => h)
    fun e => triple_pure fun s calls h => he e s calls h

/-- A call whose answer depends on the calls before it. -/
theorem triple_ask {answer : List κ → Except ε α} {event : Except ε α → κ}
    (hok : ∀ s calls a, P s calls → answer calls = .ok a → Q a s (calls ++ [event (.ok a)]))
    (herror : ∀ s calls e, P s calls → answer calls = .error e →
      E s (calls ++ [event (.error e)]))
    (hstop : ∀ s calls, P s calls → E s calls) :
    Triple P (ask answer event : Program ε σ κ α) Q E := by
  intro w hw
  -- the answer is of the log at the call, so this log is kept in the precondition
  unfold ask
  have hcall : Triple (fun s calls => P s calls ∧ s = w.durable ∧ calls = w.calls)
      (call (event (answer w.calls)) >>= fun _ => ofExcept (answer w.calls) :
        Program ε σ κ α) Q E := by
    apply triple_bind (Q := fun _ s calls => P s w.calls ∧
      calls = w.calls ++ [event (answer w.calls)])
    -- the call itself: it is recorded, or the process stops
    · apply triple_call
      · rintro s calls ⟨hP, -, rfl⟩
        exact ⟨hP, rfl⟩
      · rintro s calls ⟨hP, -, -⟩
        exact hstop s calls hP
    -- what the answer says is then known
    · intro _
      cases hanswer : answer w.calls with
      | ok a =>
        refine triple_pure ?_
        rintro s calls ⟨hP, rfl⟩
        exact hok s w.calls a hP hanswer
      | error e =>
        refine triple_raise ?_
        rintro s calls ⟨hP, rfl⟩
        exact herror s w.calls e hP hanswer
  exact hcall w ⟨hw, rfl, rfl⟩

/-- A program that keeps an invariant, wherever it ends. -/
def Keeps (I : σ → List κ → Prop) (p : Program ε σ κ α) : Prop :=
  Triple I p (fun _ => I) I

section Keeps

variable {I : σ → List κ → Prop}

theorem keeps_pure {a : α} : Keeps I (pure a : Program ε σ κ α) :=
  triple_pure fun _ _ h => h

theorem keeps_raise {e : ε} : Keeps I (raise e : Program ε σ κ α) :=
  triple_raise fun _ _ h => h

theorem keeps_stop : Keeps I (stop : Program ε σ κ α) :=
  triple_stop fun _ _ h => h

theorem keeps_read {f : σ → α} : Keeps I (read f : Program ε σ κ α) :=
  triple_read fun _ _ h => h

theorem keeps_ofExcept {x : Except ε α} : Keeps I (ofExcept x : Program ε σ κ α) :=
  triple_ofExcept (fun _ _ _ h => h) fun _ _ h => h

theorem keeps_bind {p : Program ε σ κ α} {f : α → Program ε σ κ β} (hp : Keeps I p)
    (hf : ∀ a, Keeps I (f a)) : Keeps I (p >>= f) :=
  triple_bind hp hf

theorem keeps_commit {body : EStateM ε σ α}
    (h : ∀ s calls a s', I s calls → body s = .ok a s' → I s' calls) :
    Keeps I (commit body : Program ε σ κ α) :=
  triple_commit h fun _ _ h => h

theorem keeps_call {c : κ} (h : ∀ s calls, I s calls → I s (calls ++ [c])) :
    Keeps I (call c : Program ε σ κ PUnit) :=
  triple_call h fun _ _ h => h

theorem keeps_catching {p : Program ε σ κ α} {handler : ε → Program ε σ κ α} (hp : Keeps I p)
    (hhandler : ∀ e, Keeps I (handler e)) : Keeps I (catching p handler) :=
  triple_catching hp hhandler

theorem keeps_trying {p : Program ε σ κ α} (hp : Keeps I p) : Keeps I (trying p) :=
  keeps_catching (keeps_bind hp fun _ => keeps_pure) fun _ => keeps_pure

end Keeps

/-! ## Runs that are not stopped -/

/-- The world of a process that is not stopped. -/
abbrev live (s : σ) (calls : List κ) : World σ κ := ⟨s, calls, none⟩

theorem bind_of_ok {p : Program ε σ κ α} {f : α → Program ε σ κ β} {w w' : World σ κ} {a : α}
    (h : p w = .ok a w') : (p >>= f) w = f a w' := by
  change EStateM.bind p f w = f a w'
  unfold EStateM.bind
  rw [h]

theorem bind_of_error {p : Program ε σ κ α} {f : α → Program ε σ κ β} {w w' : World σ κ}
    {e : Halt ε} (h : p w = .error e w') : (p >>= f) w = .error e w' := by
  change EStateM.bind p f w = .error e w'
  unfold EStateM.bind
  rw [h]

theorem call_live {c : κ} {s : σ} {calls : List κ} :
    (call c : Program ε σ κ PUnit) (live s calls) = .ok ⟨⟩ (live s (calls ++ [c])) := by
  unfold call
  rw [if_neg (by simp)]
  rfl

theorem catching_of_ok {p : Program ε σ κ α} {handler : ε → Program ε σ κ α}
    {w w' : World σ κ} {a : α} (h : p w = .ok a w') : catching p handler w = .ok a w' := by
  unfold catching
  rw [h]

theorem catching_of_raised {p : Program ε σ κ α} {handler : ε → Program ε σ κ α}
    {w w' : World σ κ} {e : ε} (h : p w = .error (.raised e) w') :
    catching p handler w = handler e w' := by
  unfold catching
  rw [h]

/-- A program that is not stopped appends its calls to those before it: in `Q` when it returns,
in `E` when it raises. -/
def Appends (p : Program ε σ κ α) (Q : α → List κ → Prop) (E : ε → List κ → Prop) : Prop :=
  ∀ s calls, match p (live s calls) with
    | .ok a w => ∃ s' l, w = live s' (calls ++ l) ∧ Q a l
    | .error (.raised e) w => ∃ s' l, w = live s' (calls ++ l) ∧ E e l
    | .error .stopped _ => False

section Appends

variable {Q Q' : α → List κ → Prop} {R : β → List κ → Prop} {E E' : ε → List κ → Prop}

theorem appends_pure {a : α} (h : Q a []) : Appends (pure a : Program ε σ κ α) Q E :=
  fun s calls => ⟨s, [], by simp, h⟩

theorem appends_raise {e : ε} (h : E e []) : Appends (raise e : Program ε σ κ α) Q E :=
  fun s calls => ⟨s, [], by simp, h⟩

/-- The rule of consequence. -/
theorem appends_weaken {p : Program ε σ κ α} (h : Appends p Q E)
    (hQ : ∀ a l, Q a l → Q' a l) (hE : ∀ e l, E e l → E' e l) : Appends p Q' E' := by
  intro s calls
  have hrun := h s calls
  cases hp : p (live s calls) with
  | ok a w =>
    rw [hp] at hrun
    obtain ⟨s', l, hw, ha⟩ := hrun
    exact ⟨s', l, hw, hQ a l ha⟩
  | error halt w =>
    rw [hp] at hrun
    cases halt with
    | raised e =>
      obtain ⟨s', l, hw, he⟩ := hrun
      exact ⟨s', l, hw, hE e l he⟩
    | stopped => exact hrun

/-- The log of a sequence is the two logs one after the other. -/
theorem appends_bind {p : Program ε σ κ α} {f : α → Program ε σ κ β} (hp : Appends p Q E)
    (hf : ∀ a l, Q a l →
      Appends (f a) (fun b l' => R b (l ++ l')) (fun e l' => E' e (l ++ l')))
    (hE : ∀ e l, E e l → E' e l) : Appends (p >>= f) R E' := by
  intro s calls
  have hrun := hp s calls
  -- by what the first part does
  cases hpw : p (live s calls) with
  | ok a w =>
    rw [hpw] at hrun
    obtain ⟨s', l, rfl, ha⟩ := hrun
    have hrest := hf a l ha s' (calls ++ l)
    rw [bind_of_ok hpw]
    -- and, when it returned, by what the rest does
    cases hfw : f a (live s' (calls ++ l)) with
    | ok b w' =>
      rw [hfw] at hrest
      obtain ⟨s'', l', rfl, hb⟩ := hrest
      exact ⟨s'', l ++ l', by rw [List.append_assoc], hb⟩
    | error halt w' =>
      rw [hfw] at hrest
      -- a raise in the rest leaves both logs, one after the other
      cases halt with
      | raised e =>
        obtain ⟨s'', l', rfl, he⟩ := hrest
        exact ⟨s'', l ++ l', by rw [List.append_assoc], he⟩
      | stopped => exact hrest
  | error halt w =>
    rw [hpw] at hrun
    rw [bind_of_error hpw]
    -- a raise in the first part skips the rest
    cases halt with
    | raised e =>
      obtain ⟨s', l, hw, he⟩ := hrun
      exact ⟨s', l, hw, hE e l he⟩
    | stopped => exact hrun

/-- The log of a handler follows what was logged before the raise. -/
theorem appends_catching {p : Program ε σ κ α} {handler : ε → Program ε σ κ α}
    (hp : Appends p Q E)
    (hhandler : ∀ e l, E e l →
      Appends (handler e) (fun a l' => Q a (l ++ l')) (fun e' l' => E' e' (l ++ l'))) :
    Appends (catching p handler) Q E' := by
  intro s calls
  have hrun := hp s calls
  -- by what the program does
  cases hpw : p (live s calls) with
  | ok a w =>
    rw [hpw] at hrun
    rw [catching_of_ok hpw]
    exact hrun
  | error halt w =>
    rw [hpw] at hrun
    cases halt with
    | raised e =>
      obtain ⟨s', l, rfl, he⟩ := hrun
      have hrest := hhandler e l he s' (calls ++ l)
      rw [catching_of_raised hpw]
      -- the handler starts where the raise left the state
      cases hfw : handler e (live s' (calls ++ l)) with
      | ok a w' =>
        rw [hfw] at hrest
        obtain ⟨s'', l', rfl, ha⟩ := hrest
        exact ⟨s'', l ++ l', by rw [List.append_assoc], ha⟩
      | error halt' w' =>
        rw [hfw] at hrest
        cases halt' with
        | raised e' =>
          obtain ⟨s'', l', rfl, he'⟩ := hrest
          exact ⟨s'', l ++ l', by rw [List.append_assoc], he'⟩
        | stopped => exact hrest
    -- a stop is not caught
    | stopped => exact hrun.elim

theorem appends_trying {p : Program ε σ κ α} (hp : Appends p Q E) :
    Appends (trying p)
      (fun x l => (∃ a, x = .ok a ∧ Q a l) ∨ ∃ e, x = .error e ∧ E e l) E' := by
  refine appends_catching (appends_bind hp ?_ fun _ _ he => he) ?_
  · intro a l ha
    exact appends_pure (Or.inl ⟨a, rfl, by rwa [List.append_nil]⟩)
  · intro e l he
    exact appends_pure (Or.inr ⟨e, rfl, by rwa [List.append_nil]⟩)

theorem appends_ask {answer : List κ → Except ε α} {event : Except ε α → κ} :
    Appends (ask answer event : Program ε σ κ α) (fun a l => l = [event (.ok a)])
      (fun e l => l = [event (.error e)]) := by
  intro s calls
  unfold ask
  rw [bind_of_ok call_live]
  cases hanswer : answer calls with
  | ok a => exact ⟨s, _, rfl, rfl⟩
  | error e => exact ⟨s, _, rfl, rfl⟩

end Appends

end Process
