import Mathlib.Algebra.BigOperators.Group.List.Basic
import Mathlib.Algebra.Order.Ring.Int
import MacroPlatform.Lib.Lookup
import MacroPlatform.Lib.Trail
import MacroPlatform.Schedule.Task

/-! # Every page of a task is counted once

The row is a function of the leases that were granted and of the pages that were
counted, and the pages counted so far are the first ones of the provider's chain of
cursors. A worker that still holds the last lease knows the row as it is; every other
worker is refused.

* `checkpointOk_grant`, `checkpointOk_count`: a lease and a page keep the invariant;
* `checkpoint_exactly_once`: over every interleaving of runs, with faults and crashes anywhere.
-/

namespace MacroPlatform.Schedule

open Lookup Transaction Transition Trails

variable (task : CheckpointedScheduledTask) (execute : IngestJobRequest → IngestJobResult)
  (reportDate : Day)

/-- The result of the page at a cursor. -/
def CheckpointedScheduledTask.page (requestAsOf : Instant) (cursor : Option String) :
    IngestJobResult :=
  execute (task.requestFactory reportDate requestAsOf cursor)

/-- The cursor that a page ends with, unless it is the last one. -/
def following (result : IngestJobResult) : Option (Option String) :=
  result.nextCursor.map fun cursor => some cursor.value

/-- The cursors of a task, in order: from none to that of the last page. -/
def CheckpointedScheduledTask.Chain (requestAsOf : Instant) (chain : List (Option String)) :
    Prop :=
  Trail (fun cursor => following (task.page execute reportDate requestAsOf cursor)) none chain

/-- The provider's chain of cursors ends, and each of its requests has a run of its own. -/
structure PageChain : Prop where
  finite : ∀ requestAsOf, ∃ chain, task.Chain execute reportDate requestAsOf chain
  run_ids : ∀ requestAsOf chain, task.Chain execute reportDate requestAsOf chain →
    ∀ c ∈ chain, ∀ d ∈ chain,
      (task.page execute reportDate requestAsOf c).runId =
        (task.page execute reportDate requestAsOf d).runId →
      task.requestFactory reportDate requestAsOf c = task.requestFactory reportDate requestAsOf d

/-! ## The row as a function of its history -/

/-- The cursor that comes after the counted pages. -/
def pending (counted : List (Option String × IngestJobResult)) : Option (Option String) :=
  match counted.getLast? with
  | none => some none
  | some page => following page.2

/-- The row of a task with these leases and these pages. -/
def countedRow (leases : List TaskLease) (counted : List (Option String × IngestJobResult)) :
    CheckpointTable :=
  leases.head?.map fun first =>
    { reportDate := reportDate
      taskId := task.taskId
      providerRole := task.providerRole
      dataset := task.dataset.value
      region := task.region.value
      requestAsOf := first.requestAsOf
      status := if pending counted = none then .completed else .active
      nextCursor := (pending counted).join
      sourceWatermark := counted.getLast?.bind fun page => page.2.sourceWatermark.map (·.value)
      runId := counted.getLast?.map (·.2.runId)
      runIds := counted.map (·.2.runId)
      recordsAccepted := (counted.map (·.2.recordsAccepted)).sum
      recordsRejected := (counted.map (·.2.recordsRejected)).sum
      leaseEpoch := leases.length
      leaseOwnerId := leases.getLast?.map (·.leaseOwnerId) }

variable {task execute reportDate}

theorem following_eq_none {result : IngestJobResult} :
    following result = none ↔ (pageProgress result).nextCursor = none := by
  simp [following, pageProgress]

theorem following_join (result : IngestJobResult) :
    (following result).join = (pageProgress result).nextCursor := by
  cases hnext : result.nextCursor <;> simp [following, pageProgress, hnext]

/-- The first lease inserts the row. -/
theorem countedRow_inserted {c : ℕ} {now : Instant} {leaseOwnerId : UUID} :
    countedRow task reportDate [⟨c, leaseOwnerId, now + task.requestAsOfLead⟩] [] =
      some (task.claim reportDate now leaseOwnerId).inserted := by
  rfl

/-- A later lease claims it. -/
theorem countedRow_claimed {leases : List TaskLease}
    {counted : List (Option String × IngestJobResult)} {row : ScheduledTaskCheckpointRow}
    (h : countedRow task reportDate leases counted = some row) (lease : TaskLease) :
    countedRow task reportDate (leases ++ [lease]) counted =
      some (row.claimed lease.leaseOwnerId) := by
  obtain ⟨first, hfirst, rfl⟩ := Option.map_eq_some_iff.mp h
  have hhead : (leases ++ [lease]).head? = some first := by
    rw [List.head?_append, hfirst]
    rfl
  simp [countedRow, hhead, ScheduledTaskCheckpointRow.claimed]

/-- A page advances it, when its run is a new one. -/
theorem countedRow_advanced {leases : List TaskLease}
    {counted : List (Option String × IngestJobResult)} {row : ScheduledTaskCheckpointRow}
    {checkpoint : ScheduledTaskCheckpoint} {result : IngestJobResult}
    (h : countedRow task reportDate leases counted = some row)
    (hrunIds : checkpoint.runIds = row.runIds) (hnew : result.runId ∉ row.runIds)
    (cursor : Option String) :
    countedRow task reportDate leases (counted ++ [(cursor, result)]) =
      some (row.advanced checkpoint (pageProgress result)) := by
  obtain ⟨first, hfirst, rfl⟩ := Option.map_eq_some_iff.mp h
  have hpending : pending (counted ++ [(cursor, result)]) = following result := by
    simp [pending]
  have hrun : withRun checkpoint.runIds result.runId =
      counted.map (·.2.runId) ++ [result.runId] := by
    rw [hrunIds]
    exact withRun_of_not_mem hnew
  simp only [countedRow, hfirst, Option.map_some, hpending, following_eq_none, following_join,
    ScheduledTaskCheckpointRow.advanced]
  simp [pageProgress, hrun]

/-- The row that the counted pages leave. -/
theorem countedRow_some {leases : List TaskLease}
    {counted : List (Option String × IngestJobResult)} {row : ScheduledTaskCheckpointRow}
    (h : countedRow task reportDate leases counted = some row) :
    leases.head?.map (·.requestAsOf) = some row.requestAsOf ∧
      (row.status = .completed ↔ pending counted = none) ∧
      row.nextCursor = (pending counted).join ∧
      row.runIds = counted.map (·.2.runId) ∧
      row.recordsAccepted = (counted.map (·.2.recordsAccepted)).sum ∧
      row.recordsRejected = (counted.map (·.2.recordsRejected)).sum ∧
      row.leaseEpoch = leases.length ∧
      row.leaseOwnerId = leases.getLast?.map (·.leaseOwnerId) := by
  obtain ⟨first, hfirst, rfl⟩ := Option.map_eq_some_iff.mp h
  refine ⟨by rw [hfirst]; rfl, ?_, rfl, rfl, rfl, rfl, rfl, rfl⟩
  simp

/-! ## The invariant -/

/-- A worker holds a lease, and if it is the last one its checkpoint is the row. -/
def Holds (table : CheckpointTable) (leases : List TaskLease) (c : ℕ)
    (checkpoint : ScheduledTaskCheckpoint) : Prop :=
  ∃ i lease, leases[i]? = some lease ∧ lease.worker = c ∧ checkpoint.leaseEpoch = i + 1 ∧
    checkpoint.leaseOwnerId = some lease.leaseOwnerId ∧
    (i + 1 = leases.length → ∃ row, table = some row ∧ scheduledTaskCheckpoint row = .ok checkpoint)

variable (task execute reportDate)

def WorkerOk (table : CheckpointTable) (leases : List TaskLease) (c : ℕ) : TaskPhase → Prop
  | .executing checkpoint => Holds table leases c checkpoint
  | .advancing checkpoint result =>
      Holds table leases c checkpoint ∧
        result = task.page execute reportDate checkpoint.requestAsOf checkpoint.nextCursor
  | .returned result =>
      result.status = .succeeded → ∃ row checkpoint, table = some row ∧ row.status = .completed ∧
        scheduledTaskCheckpoint row = .ok checkpoint ∧
        scheduledTaskResultFromCheckpoint checkpoint = .ok result
  | _ => True

/-- The pages counted under `requestAsOf` are the first ones of its chain. -/
def CountedOk (requestAsOf : Instant) (counted : List (Option String × IngestJobResult)) : Prop :=
  (∀ page ∈ counted, page.2 = task.page execute reportDate requestAsOf page.1) ∧
    ∃ rest, task.Chain execute reportDate requestAsOf (counted.map Prod.fst ++ rest)

structure CheckpointOk (s : TaskSystem) : Prop where
  table : s.table = countedRow task reportDate s.leases s.counted
  fresh : s.leases = [] → s.counted = []
  counted : ∀ lease, s.leases.head? = some lease →
    CountedOk task execute reportDate lease.requestAsOf s.counted
  workers : ∀ c, WorkerOk task execute reportDate s.table s.leases c (s.workers c)

variable {task execute reportDate}

/-- What is left of the chain begins with the pending cursor. -/
theorem pending_eq_head {requestAsOf : Instant}
    {counted : List (Option String × IngestJobResult)} {rest : List (Option String)}
    (hpages : ∀ page ∈ counted, page.2 = task.page execute reportDate requestAsOf page.1)
    (hchain : task.Chain execute reportDate requestAsOf (counted.map Prod.fst ++ rest)) :
    pending counted = rest.head? := by
  unfold CheckpointedScheduledTask.Chain at hchain
  rcases List.eq_nil_or_concat counted with rfl | ⟨before, page, rfl⟩
  · have hhead := hchain.head
    rw [List.map_nil, List.nil_append] at hhead
    rw [hhead]
    rfl
  · have hlast : page.2 = task.page execute reportDate requestAsOf page.1 :=
      hpages page (by simp)
    have hsplit : (before ++ [page]).map Prod.fst ++ rest =
        before.map Prod.fst ++ page.1 :: rest := by
      simp
    rw [List.concat_eq_append, hsplit] at hchain
    have hnext := hchain.suffix.next_head
    rw [← hlast] at hnext
    rw [← hnext]
    simp [pending]

/-- The page at the pending cursor extends the counted ones, under a run of its own. -/
theorem countedOk_count (hpages : PageChain task execute reportDate) {requestAsOf : Instant}
    {counted : List (Option String × IngestJobResult)} {cursor : Option String}
    (h : CountedOk task execute reportDate requestAsOf counted)
    (hpending : pending counted = some cursor) :
    CountedOk task execute reportDate requestAsOf
        (counted ++ [(cursor, task.page execute reportDate requestAsOf cursor)]) ∧
      (task.page execute reportDate requestAsOf cursor).runId ∉ counted.map (·.2.runId) := by
  obtain ⟨hresults, rest, hchain⟩ := h
  have hhead := pending_eq_head hresults hchain
  rw [hpending] at hhead
  obtain ⟨rest', rfl⟩ : ∃ rest', rest = cursor :: rest' := by
    cases rest with
    | nil => cases hhead
    | cons d rest' =>
      cases hhead
      exact ⟨rest', rfl⟩
  have hcounted : CountedOk task execute reportDate requestAsOf
      (counted ++ [(cursor, task.page execute reportDate requestAsOf cursor)]) := by
    refine ⟨?_, rest', by simpa using hchain⟩
    intro page hpage
    rcases List.mem_append.mp hpage with hold | hnew
    · exact hresults page hold
    · rw [List.mem_singleton.mp hnew]
  refine ⟨hcounted, ?_⟩
  intro hmem
  obtain ⟨page, hpage, hsame⟩ := List.mem_map.mp hmem
  -- two cursors of the chain with one run have one request, and so one next cursor
  have hnodup := hchain.nodup_map
    (fun c => (task.page execute reportDate requestAsOf c).runId) (by
      intro c hc d hd heq
      have hrequest := hpages.run_ids requestAsOf _ hchain c hc d hd heq
      simp only [CheckpointedScheduledTask.page, hrequest])
  rw [List.map_append, List.nodup_append] at hnodup
  refine hnodup.2.2 _ (List.mem_map_of_mem (List.mem_map_of_mem hpage)) _
    List.mem_cons_self ?_
  rw [← hresults page hpage]
  exact hsame

/-- What a worker does after a transaction that left its row. -/
theorem workerOk_afterCheckpoint {table : CheckpointTable} {leases : List TaskLease} {c : ℕ}
    {row : ScheduledTaskCheckpointRow} {checkpoint : ScheduledTaskCheckpoint}
    (htable : table = some row) (hload : scheduledTaskCheckpoint row = .ok checkpoint)
    (hholds : row.status = .active → Holds table leases c checkpoint) :
    WorkerOk task execute reportDate table leases c (afterCheckpoint checkpoint) := by
  have hstatus := (scheduledTaskCheckpoint_ok hload).2.1
  unfold afterCheckpoint
  split_ifs with hcompleted
  · cases hresult : scheduledTaskResultFromCheckpoint checkpoint with
    | error message => trivial
    | ok result =>
      intro _
      exact ⟨row, checkpoint, htable, by rw [← hstatus]; exact hcompleted, hload, hresult⟩
  · apply hholds
    rw [← hstatus]
    cases hactive : checkpoint.status with
    | active => rfl
    | completed => exact absurd hactive hcompleted

/-- A worker that does not write the row: its own checkpoint is unchanged, or read. -/
theorem workerOk_moves {table : CheckpointTable} {leases : List TaskLease} {c : ℕ}
    {p q : TaskPhase} (h : WorkerOk task execute reportDate table leases c p)
    (hmoves : WorkerMoves task execute reportDate table p q) :
    WorkerOk task execute reportDate table leases c q := by
  cases hmoves with
  | raised => trivial
  | crashed => trivial
  | loaded hrow hcompleted hload =>
    refine workerOk_afterCheckpoint hrow hload ?_
    intro hactive
    rw [hcompleted] at hactive
    cases hactive
  | executed => exact ⟨h, rfl⟩
  | stopped hstatus => exact fun hsucceeded => absurd hsucceeded hstatus

/-- Another worker keeps its lease and its answer when an active row is written, if it does
not hold the last lease. -/
theorem workerOk_written {table table' : CheckpointTable} {leases leases' : List TaskLease}
    {d : ℕ} {p : TaskPhase} (h : WorkerOk task execute reportDate table leases d p)
    (hleases : leases <+: leases')
    (hlast : ∀ i lease, leases[i]? = some lease → lease.worker = d → i + 1 ≠ leases'.length)
    (hopen : ∀ row, table = some row → row.status ≠ .completed) :
    WorkerOk task execute reportDate table' leases' d p := by
  -- a lease that is not the last says nothing of the row
  have hholds : ∀ checkpoint, Holds table leases d checkpoint →
      Holds table' leases' d checkpoint := by
    rintro checkpoint ⟨i, lease, hlease, hworker, hepoch, howner, -⟩
    obtain ⟨more, rfl⟩ := hleases
    exact ⟨i, lease, getElem?_append_of_some hlease more, hworker, hepoch, howner,
      fun hi => absurd hi (hlast i lease hlease hworker)⟩
  cases p with
  | idle | raised | crashed => trivial
  | executing checkpoint => exact hholds checkpoint h
  | advancing checkpoint result => exact ⟨hholds checkpoint h.1, h.2⟩
  -- the answer was read from a completed row, and the row is active
  | returned result =>
    intro hsucceeded
    obtain ⟨row, -, hrow, hcompleted, -⟩ := h hsucceeded
    exact absurd hcompleted (hopen row hrow)

/-- A granted lease is the last one, and its row is the one of the longer history. -/
theorem checkpointOk_grant (hpages : PageChain task execute reportDate) {s : TaskSystem} {c : ℕ}
    {now : Instant} {leaseOwnerId : UUID} {row : ScheduledTaskCheckpointRow}
    {checkpoint : ScheduledTaskCheckpoint} {p : TaskPhase}
    (h : CheckpointOk task execute reportDate s)
    (hrow : GrantedRow s.table (task.claim reportDate now leaseOwnerId) row)
    (hload : scheduledTaskCheckpoint row = .ok checkpoint)
    (hp : p = afterCheckpoint checkpoint ∨ ∃ message, p = .raised message) :
    CheckpointOk task execute reportDate { s with
      table := some row
      workers := Function.update s.workers c p
      leases := s.leases ++ [⟨c, leaseOwnerId, now + task.requestAsOfLead⟩] } := by
  -- the row was inserted, or claimed under the next epoch
  have htable : some row = countedRow task reportDate
      (s.leases ++ [⟨c, leaseOwnerId, now + task.requestAsOfLead⟩]) s.counted := by
    rcases hrow with ⟨hnone, rfl⟩ | ⟨old, hold, -, rfl⟩
    · have hleases : s.leases = [] := by
        have htable := h.table
        rw [hnone] at htable
        simpa [countedRow] using htable.symm
      rw [hleases, h.fresh hleases]
      exact countedRow_inserted.symm
    · have htable := h.table
      rw [hold] at htable
      exact (countedRow_claimed htable.symm
        ⟨c, leaseOwnerId, now + task.requestAsOfLead⟩).symm
  -- neither is granted on a completed row
  have hopen : ∀ old, s.table = some old → old.status ≠ .completed := by
    intro old hold
    rcases hrow with ⟨hnone, -⟩ | ⟨old', hold', hactive, -⟩
    · rw [hnone] at hold
      cases hold
    · rw [hold'] at hold
      cases hold
      simp [hactive]
  refine ⟨htable, by simp, ?_, ?_⟩
  -- before the first lease nothing was counted
  · intro lease hlease
    cases hleases : s.leases with
    | nil =>
      rw [h.fresh hleases]
      obtain ⟨chain, hchain⟩ := hpages.finite lease.requestAsOf
      exact ⟨by simp, chain, hchain⟩
    | cons first more =>
      apply h.counted lease
      rw [hleases] at hlease ⊢
      exact hlease
  · refine (Function.forall_update_iff s.workers fun d q => WorkerOk task execute reportDate
      (some row) (s.leases ++ [⟨c, leaseOwnerId, now + task.requestAsOfLead⟩]) d q).mpr ⟨?_, ?_⟩
    -- the grantee goes on with its checkpoint, or has raised
    · rcases hp with rfl | ⟨message, rfl⟩
      · refine workerOk_afterCheckpoint rfl hload ?_
        intro _
        obtain ⟨-, -, -, -, hepoch, howner⟩ := scheduledTaskCheckpoint_ok hload
        obtain ⟨-, -, -, -, -, -, hepoch', howner'⟩ := countedRow_some htable.symm
        refine ⟨s.leases.length, ⟨c, leaseOwnerId, now + task.requestAsOfLead⟩, by simp, rfl,
          ?_, ?_, fun _ => ⟨row, rfl, hload⟩⟩
        · rw [hepoch, hepoch', List.length_append, List.length_singleton]
        · rw [howner, howner']
          simp
      · trivial
    -- the others hold earlier leases
    · intro d _
      refine workerOk_written (h.workers d) (List.prefix_append _ _) ?_ hopen
      intro i lease hlease _
      have hi := (List.getElem?_eq_some_iff.mp hlease).1
      rw [List.length_append, List.length_singleton]
      omega

/-- A counted page is the next one of the chain. -/
theorem checkpointOk_count (hpages : PageChain task execute reportDate) {s : TaskSystem} {c : ℕ}
    {checkpoint checkpoint' : ScheduledTaskCheckpoint} {result : IngestJobResult}
    {row : ScheduledTaskCheckpointRow} {p : TaskPhase}
    (h : CheckpointOk task execute reportDate s) (hc : s.workers c = .advancing checkpoint result)
    (hrow : s.table = some row) (hleased : row.LeasedTo checkpoint)
    (hload : scheduledTaskCheckpoint (row.advanced checkpoint (pageProgress result)) =
      .ok checkpoint')
    (hp : p = afterCheckpoint checkpoint' ∨ ∃ message, p = .raised message) :
    CheckpointOk task execute reportDate { s with
      table := some (row.advanced checkpoint (pageProgress result))
      workers := Function.update s.workers c p
      counted := s.counted ++ [(checkpoint.nextCursor, result)] } := by
  obtain ⟨-, -, hactive, hepoch, howner⟩ := hleased
  have htable := h.table
  rw [hrow] at htable
  obtain ⟨hasOf, hstatus, hnext, hrunIds, -, -, hlength, -⟩ := countedRow_some htable.symm
  have hworker := h.workers c
  rw [hc] at hworker
  obtain ⟨⟨i, lease, hlease, hmine, hi, howns, hcurrent⟩, hresult⟩ := hworker
  -- the worker holds the last lease, so its checkpoint is the row
  have hlast : i + 1 = s.leases.length := by omega
  obtain ⟨row', hrow', hread⟩ := hcurrent hlast
  rw [hrow] at hrow'
  cases hrow'
  obtain ⟨hread₁, -, hread₃, hread₄, -, -⟩ := scheduledTaskCheckpoint_ok hread
  obtain ⟨first, hfirst, hfirstAsOf⟩ := Option.map_eq_some_iff.mp hasOf
  have hpending : pending s.counted = some checkpoint.nextCursor := by
    cases hp' : pending s.counted with
    | none =>
      rw [hstatus.mpr hp'] at hactive
      cases hactive
    | some cursor =>
      rw [hread₃, hnext, hp']
      rfl
  have hpage : result =
      task.page execute reportDate first.requestAsOf checkpoint.nextCursor := by
    rw [hresult, hread₁, hfirstAsOf]
  obtain ⟨hcounted, hfresh⟩ := countedOk_count hpages (h.counted first hfirst) hpending
  rw [← hpage] at hcounted hfresh
  have hadvanced := countedRow_advanced htable.symm hread₄ (by rw [hrunIds]; exact hfresh)
    checkpoint.nextCursor
  refine ⟨hadvanced.symm, ?_, ?_, ?_⟩
  · intro hnone
    have hno : s.leases = [] := hnone
    rw [hno] at hfirst
    cases hfirst
  · intro lease' hlease'
    have hhead : s.leases.head? = some lease' := hlease'
    rw [hfirst] at hhead
    cases hhead
    exact hcounted
  · refine (Function.forall_update_iff s.workers fun d q => WorkerOk task execute reportDate
      (some (row.advanced checkpoint (pageProgress result))) s.leases d q).mpr ⟨?_, ?_⟩
    · rcases hp with rfl | ⟨message, rfl⟩
      · refine workerOk_afterCheckpoint rfl hload ?_
        intro _
        obtain ⟨-, -, -, -, hepoch', howner'⟩ := scheduledTaskCheckpoint_ok hload
        refine ⟨i, lease, hlease, hmine, ?_, ?_, fun _ => ⟨_, rfl, hload⟩⟩
        · rw [hepoch', ← hi, ← hepoch]
          rfl
        · rw [howner', ← howns, ← howner]
          rfl
      · trivial
    · intro d hd
      refine workerOk_written (h.workers d) (List.prefix_refl _) ?_ ?_
      · intro j lease' hlease' hother hj
        have hij : i = j := by omega
        rw [← hij, hlease] at hlease'
        cases hlease'
        exact hd (hother.symm.trans hmine)
      · intro old hold
        rw [hrow] at hold
        cases hold
        simp [hactive]

theorem step_checkpointOk (hpages : PageChain task execute reportDate) {s s' : TaskSystem}
    (hstep : TaskStep task execute reportDate s s') (h : CheckpointOk task execute reportDate s) :
    CheckpointOk task execute reportDate s' := by
  cases hstep with
  | @move c p hmoves =>
    refine ⟨h.table, h.fresh, h.counted, ?_⟩
    exact (Function.forall_update_iff s.workers fun d q => WorkerOk task execute reportDate
      s.table s.leases d q).mpr ⟨workerOk_moves (h.workers c) hmoves, fun d _ => h.workers d⟩
  | grant _ hrow hload hp => exact checkpointOk_grant hpages h hrow hload hp
  | count hc hrow hleased hload hp => exact checkpointOk_count hpages h hc hrow hleased hload hp

theorem init_checkpointOk {s : TaskSystem} (h : s.Init) :
    CheckpointOk task execute reportDate s := by
  obtain ⟨htable, hworkers, hleases, hcounted⟩ := h
  refine ⟨by rw [htable, hleases]; rfl, fun _ => hcounted, ?_, ?_⟩
  · intro lease hlease
    rw [hleases] at hlease
    cases hlease
  · intro c
    rw [hworkers c]
    trivial

theorem reachable_checkpointOk (hpages : PageChain task execute reportDate) {s : TaskSystem}
    (h : Reachable TaskSystem.Init (TaskNext task execute reportDate) s) :
    CheckpointOk task execute reportDate s :=
  init_invariant (CheckpointOk task execute reportDate) (fun _ => init_checkpointOk)
    (fun _ _ _ hstep => step_checkpointOk hpages (taskNext_step hstep)) h

/-! ## Exactly once -/

/-- The checkpoint that a worker goes on with. -/
def TaskPhase.checkpoint? : TaskPhase → Option ScheduledTaskCheckpoint
  | .executing checkpoint | .advancing checkpoint _ => some checkpoint
  | _ => none

variable (task execute reportDate)

structure ExactlyOnce (s : TaskSystem) : Prop where
  leased : ∀ c checkpoint, (s.workers c).checkpoint? = some checkpoint →
    ∃ i lease, s.leases[i]? = some lease ∧ lease.worker = c ∧ checkpoint.leaseEpoch = i + 1 ∧
      checkpoint.leaseOwnerId = some lease.leaseOwnerId
  superseded : ∀ checkpoint : ScheduledTaskCheckpoint,
    (checkpoint.leaseEpoch ≠ s.leases.length ∨
      checkpoint.leaseOwnerId ≠ s.leases.getLast?.map (·.leaseOwnerId)) →
    ∀ page fate, finalState (transaction fate (advance checkpoint page)) s.table = s.table
  columns : ∀ row, s.table = some row →
    row.runIds = s.counted.map (·.2.runId) ∧
      row.recordsAccepted = (s.counted.map (·.2.recordsAccepted)).sum ∧
      row.recordsRejected = (s.counted.map (·.2.recordsRejected)).sum
  counted : ∀ row, s.table = some row →
    (∀ page ∈ s.counted, page.2 = task.page execute reportDate row.requestAsOf page.1) ∧
      ∀ chain, task.Chain execute reportDate row.requestAsOf chain →
        chain.Nodup ∧ s.counted.map Prod.fst <+: chain ∧
        (row.status = .completed ↔ s.counted.map Prod.fst = chain)
  completed : ∀ row, s.table = some row → row.status = .completed →
    row.nextCursor = none ∧ row.runIds.Nodup ∧
      ∀ chain, task.Chain execute reportDate row.requestAsOf chain →
        let pages := chain.map (task.page execute reportDate row.requestAsOf)
        row.runIds = pages.map (·.runId) ∧
          row.recordsAccepted = (pages.map (·.recordsAccepted)).sum ∧
          row.recordsRejected = (pages.map (·.recordsRejected)).sum
  final : ∀ row, s.table = some row → row.status = .completed →
    ∀ (as : List TaskAct) (s' : TaskSystem), Run (TaskNext task execute reportDate) s as s' →
      s'.table = s.table
  request_as_of : ∀ row, s.table = some row →
    s.leases.head?.map (·.requestAsOf) = some row.requestAsOf ∧
      ∀ (as : List TaskAct) (s' : TaskSystem), Run (TaskNext task execute reportDate) s as s' →
        ∃ row', s'.table = some row' ∧ row'.requestAsOf = row.requestAsOf
  returned : ∀ c result, s.workers c = .returned result → result.status = .succeeded →
    ∃ row checkpoint, s.table = some row ∧ row.status = .completed ∧
      scheduledTaskCheckpoint row = .ok checkpoint ∧
      scheduledTaskResultFromCheckpoint checkpoint = .ok result

variable {task execute reportDate}

/-- A checkpoint that is not under the row's lease cannot write it. -/
theorem advance_refused {table : CheckpointTable} {checkpoint : ScheduledTaskCheckpoint}
    (h : ∀ row, table = some row → ¬ row.LeasedTo checkpoint) (page : PageProgress)
    (fate : CommitFate String) :
    finalState (transaction fate (advance checkpoint page)) table = table := by
  rcases finalState_transaction fate (advance checkpoint page) table with hsame | ⟨a, hbody⟩
  · exact hsame
  · obtain ⟨row, hrow, hleased, -⟩ := advance_ok hbody
    exact absurd hleased (h row hrow)

/-- A completed checkpoint stays as it is. -/
theorem step_final {s s' : TaskSystem} {row : ScheduledTaskCheckpointRow}
    (hstep : TaskStep task execute reportDate s s') (hrow : s.table = some row)
    (hcompleted : row.status = .completed) : s'.table = s.table := by
  -- only a grant and a page write the row, and both need an active one
  cases hstep with
  | move => rfl
  | grant _ hgranted =>
    rcases hgranted with ⟨hnone, -⟩ | ⟨old, hold, hactive, -⟩
    · rw [hrow] at hnone
      cases hnone
    · rw [hrow] at hold
      cases hold
      rw [hcompleted] at hactive
      cases hactive
  | count _ hold hleased =>
    rw [hrow] at hold
    cases hold
    have hactive := hleased.2.2.1
    rw [hcompleted] at hactive
    cases hactive

theorem run_final {s s' : TaskSystem} {as : List TaskAct} {row : ScheduledTaskCheckpointRow}
    (hrow : s.table = some row) (hcompleted : row.status = .completed)
    (hrun : Run (TaskNext task execute reportDate) s as s') : s'.table = s.table := by
  refine run_invariant (fun t => t.table = s.table) ?_ hrun rfl
  intro t a t' hstep ht
  rw [← ht]
  exact step_final (taskNext_step hstep) (ht.trans hrow) hcompleted

/-- Neither a claim nor a page changes `request_as_of`. -/
theorem step_requestAsOf {s s' : TaskSystem} {row : ScheduledTaskCheckpointRow}
    (hstep : TaskStep task execute reportDate s s') (hrow : s.table = some row) :
    ∃ row', s'.table = some row' ∧ row'.requestAsOf = row.requestAsOf := by
  cases hstep with
  | move => exact ⟨row, hrow, rfl⟩
  | grant _ hgranted =>
    rcases hgranted with ⟨hnone, -⟩ | ⟨old, hold, -, rfl⟩
    · rw [hrow] at hnone
      cases hnone
    · rw [hrow] at hold
      cases hold
      exact ⟨_, rfl, rfl⟩
  | count _ hold =>
    rw [hrow] at hold
    cases hold
    exact ⟨_, rfl, rfl⟩

theorem run_requestAsOf {s s' : TaskSystem} {as : List TaskAct}
    {row : ScheduledTaskCheckpointRow} (hrow : s.table = some row)
    (hrun : Run (TaskNext task execute reportDate) s as s') :
    ∃ row', s'.table = some row' ∧ row'.requestAsOf = row.requestAsOf := by
  refine run_invariant
    (fun t => ∃ row', t.table = some row' ∧ row'.requestAsOf = row.requestAsOf) ?_ hrun
    ⟨row, hrow, rfl⟩
  rintro t a t' hstep ⟨r, hr, hasOf⟩
  obtain ⟨r', hr', hasOf'⟩ := step_requestAsOf (taskNext_step hstep) hr
  exact ⟨r', hr', hasOf'.trans hasOf⟩

/-- Where the counted pages stand in the chain. -/
theorem counted_chain {s : TaskSystem} {row : ScheduledTaskCheckpointRow}
    (h : CheckpointOk task execute reportDate s) (hrow : s.table = some row) :
    (∀ page ∈ s.counted, page.2 = task.page execute reportDate row.requestAsOf page.1) ∧
      ∀ chain, task.Chain execute reportDate row.requestAsOf chain →
        chain.Nodup ∧ s.counted.map Prod.fst <+: chain ∧
        (row.status = .completed ↔ s.counted.map Prod.fst = chain) := by
  have htable := h.table
  rw [hrow] at htable
  obtain ⟨hasOf, hstatus, -⟩ := countedRow_some htable.symm
  obtain ⟨first, hfirst, hfirstAsOf⟩ := Option.map_eq_some_iff.mp hasOf
  have hcounted := h.counted first hfirst
  rw [hfirstAsOf] at hcounted
  obtain ⟨hpages, rest, hchain⟩ := hcounted
  refine ⟨hpages, ?_⟩
  intro chain hchain'
  have hsame := hchain.unique hchain'
  have hdistinct := hchain'.nodup_map id (by
    intro c _ d _ hcd
    rw [id_eq, id_eq] at hcd
    rw [hcd])
  refine ⟨by simpa using hdistinct, ⟨rest, hsame⟩, ?_⟩
  rw [hstatus, pending_eq_head hpages hchain, List.head?_eq_none_iff, ← hsame]
  simp

/-- The columns of a completed row are those of the whole chain. -/
theorem completed_columns {s : TaskSystem} {row : ScheduledTaskCheckpointRow}
    (h : CheckpointOk task execute reportDate s) (hrow : s.table = some row)
    (hcompleted : row.status = .completed) {chain : List (Option String)}
    (hchain : task.Chain execute reportDate row.requestAsOf chain) :
    let pages := chain.map (task.page execute reportDate row.requestAsOf)
    row.runIds = pages.map (·.runId) ∧
      row.recordsAccepted = (pages.map (·.recordsAccepted)).sum ∧
      row.recordsRejected = (pages.map (·.recordsRejected)).sum := by
  intro pages
  have htable := h.table
  rw [hrow] at htable
  obtain ⟨-, -, -, hrunIds, haccepted, hrejected, -, -⟩ := countedRow_some htable.symm
  obtain ⟨hresults, hplace⟩ := counted_chain h hrow
  have hwhole := (hplace chain hchain).2.2.mp hcompleted
  have hpages : s.counted.map Prod.snd = pages := by
    simp only [pages]
    rw [← hwhole, List.map_map]
    exact List.map_congr_left hresults
  have hcolumn : ∀ {β : Type} (f : IngestJobResult → β),
      s.counted.map (fun page => f page.2) = pages.map f := by
    intro β f
    rw [← hpages, List.map_map]
    rfl
  exact ⟨by rw [hrunIds, hcolumn], by rw [haccepted, hcolumn], by rw [hrejected, hcolumn]⟩

/-- In every interleaving of runs, with faults and crashes anywhere. -/
theorem checkpoint_exactly_once (hpages : PageChain task execute reportDate) {s : TaskSystem}
    (h : Reachable TaskSystem.Init (TaskNext task execute reportDate) s) :
    ExactlyOnce task execute reportDate s := by
  have hok := reachable_checkpointOk hpages h
  have hrows : ∀ row, s.table = some row →
      countedRow task reportDate s.leases s.counted = some row := by
    intro row hrow
    rw [← hok.table]
    exact hrow
  -- from the invariant of the reachable states, clause by clause
  refine ⟨?_, ?_, ?_, ?_, ?_, ?_, ?_, ?_⟩
  · intro c checkpoint hc
    have hworker := hok.workers c
    -- a checkpoint is held while it is executed or advanced
    cases hphase : s.workers c with
    | executing cp =>
      rw [hphase] at hc hworker
      cases hc
      obtain ⟨i, lease, hlease, hmine, hepoch, howner, -⟩ := hworker
      exact ⟨i, lease, hlease, hmine, hepoch, howner⟩
    | advancing cp result =>
      rw [hphase] at hc hworker
      cases hc
      obtain ⟨⟨i, lease, hlease, hmine, hepoch, howner, -⟩, -⟩ := hworker
      exact ⟨i, lease, hlease, hmine, hepoch, howner⟩
    | idle | returned | raised | crashed =>
      rw [hphase] at hc
      cases hc
  -- the row bears the epoch and the owner of the last lease
  · intro checkpoint hstale page fate
    apply advance_refused
    rintro row hrow ⟨-, -, -, hepoch, howner⟩
    obtain ⟨-, -, -, -, -, -, hepoch', howner'⟩ := countedRow_some (hrows row hrow)
    rcases hstale with hne | hne
    · exact hne (hepoch.symm.trans hepoch')
    · exact hne (howner.symm.trans howner')
  · intro row hrow
    obtain ⟨-, -, -, hrunIds, haccepted, hrejected, -, -⟩ := countedRow_some (hrows row hrow)
    exact ⟨hrunIds, haccepted, hrejected⟩
  · intro row hrow
    exact counted_chain hok hrow
  -- a completed row has counted the whole chain, whose run ids are distinct
  · intro row hrow hcompleted
    obtain ⟨-, hstatus, hnext, -, -, -, -, -⟩ := countedRow_some (hrows row hrow)
    refine ⟨?_, ?_, fun chain hchain => completed_columns hok hrow hcompleted hchain⟩
    · rw [hnext, hstatus.mp hcompleted]
      rfl
    · obtain ⟨chain, hchain⟩ := hpages.finite row.requestAsOf
      rw [(completed_columns hok hrow hcompleted hchain).1, List.map_map]
      refine hchain.nodup_map _ ?_
      intro c hc d hd heq
      have hrequest := hpages.run_ids row.requestAsOf chain hchain c hc d hd heq
      simp only [CheckpointedScheduledTask.page, hrequest]
  -- no step writes a completed row
  · intro row hrow hcompleted as s' hrun
    exact run_final hrow hcompleted hrun
  · intro row hrow
    exact ⟨(countedRow_some (hrows row hrow)).1, fun as s' hrun => run_requestAsOf hrow hrun⟩
  · intro c result hc hsucceeded
    have hworker := hok.workers c
    rw [hc] at hworker
    exact hworker hsucceeded

/-- A task of daily bars, whose provider has two pages. -/
def barsTask : CheckpointedScheduledTask :=
  { taskId := "us_bars"
    providerRole := "us_primary"
    dataset := .bars
    region := .us
    requestFactory := fun reportDate requestAsOf cursor =>
      { providerRole := .ofString "us_primary"
        dataset := .bars
        regions := [.us]
        start := ⟨(reportDate - 7) * 86400000000, 0⟩
        stop := ⟨reportDate * 86400000000, 0⟩
        asOf := ⟨requestAsOf, 0⟩
        cursor := cursor.map .ofString } }

def barsPages (request : IngestJobRequest) : IngestJobResult :=
  { runId := if request.cursor = none then 1 else 2
    status := .succeeded
    providerRole := .ofString "us_primary"
    dataset := .bars
    startedAt := 0
    finishedAt := 1
    recordsFetched := 4
    recordsAccepted := 3
    recordsRejected := 1
    recordsInserted := 3
    recordsUpdated := 0
    nextCursor := if request.cursor = none then some (.ofString "p2") else none }

theorem barsTask_chain (requestAsOf : Instant) :
    barsTask.Chain barsPages 0 requestAsOf [none, some "p2"] :=
  .step rfl (.last rfl)

theorem barsTask_pageChain : PageChain barsTask barsPages 0 := by
  refine ⟨fun requestAsOf => ⟨_, barsTask_chain requestAsOf⟩, ?_⟩
  intro requestAsOf chain hchain c hc d hd heq
  rw [← (barsTask_chain requestAsOf).unique hchain] at hc hd
  simp only [List.mem_cons, List.not_mem_nil, or_false] at hc hd
  rcases hc with rfl | rfl <;> rcases hd with rfl | rfl
  · rfl
  · cases heq
  · cases heq
  · rfl

def emptySchedule : TaskSystem :=
  { table := none, workers := fun _ => .idle, leases := [], counted := [] }

/-- A second worker takes over while the first page is fetched, and the acknowledgement of its
last page is lost. -/
def tookOver : List TaskAct :=
  [.begin 0 10 100 .committed, .begin 1 20 101 .committed, .execute 0 .page,
   .advance 0 .committed, .execute 1 .page, .advance 1 .committed, .execute 1 .page,
   .advance 1 (.unacknowledged "ConnectionError"), .begin 2 30 102 .committed]

theorem checkpoint_exactly_once_tookOver :
    ∃ s, exec (taskNext barsTask barsPages 0) emptySchedule tookOver = some s ∧
      s.table.map (·.runIds) = some [1, 2] ∧ ExactlyOnce barsTask barsPages 0 s := by
  have hrun : (exec (taskNext barsTask barsPages 0) emptySchedule tookOver).map
      (fun s => s.table.map (·.runIds)) = some (some [1, 2]) := by
    rfl
  obtain ⟨s, hs, hrunIds⟩ := Option.map_eq_some_iff.mp hrun
  exact ⟨s, hs, hrunIds, checkpoint_exactly_once barsTask_pageChain
    ⟨emptySchedule, tookOver, ⟨rfl, fun _ => rfl, rfl, rfl⟩, run_of_exec hs⟩⟩

end MacroPlatform.Schedule
