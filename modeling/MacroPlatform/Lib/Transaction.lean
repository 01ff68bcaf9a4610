import Mathlib.Logic.Basic

/-! # Transactions

A transaction's body is a program over the store that may raise at any statement; the
statements before it have then changed what the session sees. Leaving the transaction
keeps the body's state when the commit goes through, and the state before it in every
other case, so an exception in the body leaves no trace.

* `transaction_cases`: a transaction keeps its whole body or leaves the store as it was;
* `finalState_transaction`: the same of the store alone.
-/

namespace Transaction

universe u

variable {ε σ τ α β : Type u}

/-- What becomes of a commit: it goes through, it is rolled back with an error, or it goes
through while its acknowledgement is lost. -/
inductive CommitFate (ε : Type u) where
  | committed
  | rolledBack (error : ε)
  | unacknowledged (error : ε)

/-- `async with session.begin(): body`. -/
def transaction (fate : CommitFate ε) (body : EStateM ε σ α) : EStateM ε σ α := fun s =>
  match body s with
  | .error e _ => .error e s
  | .ok a s' =>
      match fate with
      | .committed => .ok a s'
      | .rolledBack e => .error e s
      | .unacknowledged e => .error e s'

/-- The transaction keeps what its body did. -/
def commits (fate : CommitFate ε) (body : EStateM ε σ α) (s : σ) : Bool :=
  match body s, fate with
  | .ok _ _, .committed => true
  | .ok _ _, .unacknowledged _ => true
  | _, _ => false

/-- A statement that raises when there is a fault for it. -/
def interrupt (fault : Option ε) : EStateM ε σ PUnit := fun s =>
  match fault with
  | none => .ok ⟨⟩ s
  | some e => .error e s

/-- A program on a part of the store. -/
def onPart (get : σ → τ) (set : τ → σ → σ) (body : EStateM ε τ α) : EStateM ε σ α := fun s =>
  match body (get s) with
  | .ok a t => .ok a (set t s)
  | .error e t => .error e (set t s)

/-- The store that a program leaves. -/
def finalState (x : EStateM ε σ α) (s : σ) : σ :=
  match x s with
  | .ok _ s' => s'
  | .error _ s' => s'

/-! ## Rules -/

/-- A sequence returns when its parts do. -/
theorem bind_ok_iff {x : EStateM ε σ α} {f : α → EStateM ε σ β} {s s' : σ} {b : β} :
    (x >>= f) s = .ok b s' ↔ ∃ a t, x s = .ok a t ∧ f a t = .ok b s' := by
  change EStateM.bind x f s = .ok b s' ↔ _
  unfold EStateM.bind
  cases x s with
  | ok a t =>
    constructor
    · exact fun h => ⟨a, t, rfl, h⟩
    · rintro ⟨a, t, ⟨⟩, h⟩
      exact h
  | error e t => simp

theorem interrupt_ok_iff {fault : Option ε} {s s' : σ} :
    (interrupt fault : EStateM ε σ PUnit) s = .ok ⟨⟩ s' ↔ fault = none ∧ s' = s := by
  cases fault with
  | none => simp [interrupt, eq_comm]
  | some e => simp [interrupt]

/-- A transaction on a part of the store changes this part alone. -/
theorem onPart_ok_iff {get : σ → τ} {set : τ → σ → σ} {body : EStateM ε τ α} {s s' : σ}
    {a : α} :
    onPart get set body s = .ok a s' ↔ ∃ t, body (get s) = .ok a t ∧ s' = set t s := by
  unfold onPart
  cases body (get s) with
  | ok b t =>
    constructor
    · rintro ⟨⟩
      exact ⟨t, rfl, rfl⟩
    · rintro ⟨t, ⟨⟩, rfl⟩
      rfl
  | error e t => simp

theorem get_ok_iff {s s' t : σ} : (get : EStateM ε σ σ) s = .ok t s' ↔ s = t ∧ s = s' := by
  change EStateM.Result.ok s s = EStateM.Result.ok t s' ↔ _
  simp

theorem set_ok_iff {s s' t : σ} :
    (set t : EStateM ε σ PUnit) s = .ok ⟨⟩ s' ↔ t = s' := by
  change EStateM.Result.ok PUnit.unit t = EStateM.Result.ok PUnit.unit s' ↔ _
  simp

theorem throw_not_ok {e : ε} {a : α} {s s' : σ} :
    (throw e : EStateM ε σ α) s ≠ .ok a s' := by
  change EStateM.Result.error e s ≠ _
  simp

/-- A transaction keeps its whole body, acknowledged or not, or leaves the store as it was. -/
theorem transaction_cases (fate : CommitFate ε) (body : EStateM ε σ α) (s : σ) :
    (∃ a s', body s = .ok a s' ∧ commits fate body s = true ∧
      finalState (transaction fate body) s = s' ∧
      (transaction fate body s = .ok a s' ∨ ∃ e, transaction fate body s = .error e s')) ∨
    (commits fate body s = false ∧ finalState (transaction fate body) s = s ∧
      ∃ e, transaction fate body s = .error e s) := by
  -- by the body, and when it returns by the fate of the commit
  cases hbody : body s with
  | error e s' =>
    right
    simp [commits, finalState, transaction, hbody]
  | ok a s' =>
    cases fate with
    | committed =>
      left
      exact ⟨a, s', rfl, by simp [commits, finalState, transaction, hbody]⟩
    | rolledBack e =>
      right
      simp [commits, finalState, transaction, hbody]
    | unacknowledged e =>
      left
      exact ⟨a, s', rfl, by simp [commits, finalState, transaction, hbody]⟩

/-- A transaction leaves the store as it was, or as its whole body made it. -/
theorem finalState_transaction (fate : CommitFate ε) (body : EStateM ε σ α) (s : σ) :
    finalState (transaction fate body) s = s ∨
      ∃ a, body s = .ok a (finalState (transaction fate body) s) := by
  cases hbody : body s with
  | error e s' => exact Or.inl (by simp [finalState, transaction, hbody])
  | ok a s' =>
    cases fate with
    | committed => exact Or.inr ⟨a, by simp [finalState, transaction, hbody]⟩
    | rolledBack e => exact Or.inl (by simp [finalState, transaction, hbody])
    | unacknowledged e => exact Or.inr ⟨a, by simp [finalState, transaction, hbody]⟩

end Transaction
