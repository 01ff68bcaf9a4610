import MacroPlatform.Ingestion.Fencing
import MacroPlatform.Ingestion.PageCommit

/-! # Workers that outlive their lease

The lease is checked when a run is completed; the pages of the handler are committed
in transactions of their own that do not look at it. A worker whose lease is
superseded therefore changes the store, and takes the watermark back, unless the
pages it still commits have been committed before.

* `storeKept_iff`: when a commit of a superseded worker leaves the store;
* `zombie_fencing_iff`: the runs that are free of such writes;
* `olderPage_moves_watermark_back`: a run that is not.
-/

namespace MacroPlatform.Ingestion

open Transition

variable {Facts ε : Type}

/-- The run and the page store, with the attempt of every page newly committed. -/
structure IngestSystem (Facts : Type) where
  runs : RunSystem
  store : PageStore Facts
  log : List (ℕ × CommittedPage)

/-- A step of the run, or a page that a worker's handler commits. -/
inductive IngestAct (Facts ε : Type) where
  | run (act : RunAct)
  | commitPage (worker : ℕ) (call : PageCall Facts ε)

/-- The handler commits pages under the run of its lease, while it runs. -/
def ingestNext (runner : JobRunner) (s : IngestSystem Facts) :
    IngestAct Facts ε → Option (IngestSystem Facts)
  | .run act => (runNext runner s.runs act).map fun runs => { s with runs }
  | .commitPage c call =>
      match s.runs.workers c with
      | .running _ lease =>
          let store := commitPageNext s.store (call.underRun lease.runId)
          some { s with
            store
            log := s.log ++
              if ¬ s.store.Reserved call.page.key ∧ store.Reserved call.page.key then
                [(lease.attemptNo, call.page)] else [] }
      | _ => none

def IngestNext (runner : JobRunner) : Action (IngestSystem Facts) (IngestAct Facts ε) :=
  ofNext (ingestNext runner)

def IngestSystem.Init (s : IngestSystem Facts) : Prop :=
  s.runs.Init ∧ s.log = []

instance (s : RunSystem) (lease : IngestionRunLease) : Decidable (Superseded s lease) :=
  inferInstanceAs (Decidable (∃ later ∈ s.leases, lease.attemptNo < later.attemptNo))

/-- A worker whose lease is superseded commits a page that is committed already, or in a
transaction that does not go through. -/
def StaleCommitKnown (s : IngestSystem Facts) : IngestAct Facts ε → Prop
  | .run _ => True
  | .commitPage c call =>
      match s.runs.workers c with
      | .running _ lease =>
          Superseded s.runs lease →
            s.store.Reserved call.page.key ∨ ¬ call.GoesThrough s.store.facts
      | _ => True

/-- A step of a worker whose lease is superseded leaves facts, pages and watermarks. -/
def StoreKept (s : IngestSystem Facts) (a : IngestAct Facts ε) (s' : IngestSystem Facts) :
    Prop :=
  ∀ c call request lease, a = .commitPage c call →
    s.runs.workers c = .running request lease → Superseded s.runs lease → s'.store = s.store

/-- The last page with the given watermark. -/
def lastLogged (log : List (ℕ × CommittedPage)) (key : WatermarkKey) : Option CommittedPage :=
  ((log.map Prod.snd).filter fun page => page.watermarkKey = key).getLast?

/-- No superseded worker wrote in the run: pages come in the order of their attempts, and
every watermark is that of the last one. -/
structure ZombieFencing (runner : JobRunner) (s₀ : IngestSystem Facts)
    (as : List (IngestAct Facts ε)) (s : IngestSystem Facts) : Prop where
  kept : Run (fun t a t' => IngestNext runner t a t' ∧ StoreKept t a t') s₀ as s
  ordered : (s.log.map Prod.fst).Pairwise (· ≤ ·)
  watermarks : ∀ key, s.store.watermarks key =
    ((lastLogged s.log key).map (·.jobWatermark)).or (s₀.store.watermarks key)

/-! ## One commit -/

/-- A commit of a running worker, spelled out. -/
theorem commit_next {runner : JobRunner} {s s' : IngestSystem Facts} {c : ℕ}
    {call : PageCall Facts ε} {request : IngestJobRequest} {lease : IngestionRunLease}
    (hc : s.runs.workers c = .running request lease)
    (h : IngestNext runner s (.commitPage c call) s') :
    s'.runs = s.runs ∧
      ((s'.store = s.store ∧ s'.log = s.log) ∨
        (CommitsPage s.store (call.underRun lease.runId) s'.store ∧
          s'.log = s.log ++ [(lease.attemptNo, call.page)])) := by
  have h : ingestNext runner s (.commitPage c call) = some s' := h
  simp only [ingestNext, hc, Option.some.injEq] at h
  subst h
  refine ⟨rfl, ?_⟩
  rcases commitPageNext_cases s.store (call.underRun lease.runId) with
    hsame | hcommits
  · left
    refine ⟨hsame, ?_⟩
    simp [hsame]
  · right
    refine ⟨hcommits, ?_⟩
    have hnew : ¬ s.store.Reserved call.page.key := hcommits.1
    have hreserved := (reserved_iff_commitsPage s.store (call.underRun lease.runId)
      call.page.key).mpr
        (Or.inr ⟨rfl, hcommits⟩)
    simp [hnew, hreserved]

/-- The condition says exactly that the step keeps the store. -/
theorem storeKept_iff {runner : JobRunner} {s s' : IngestSystem Facts}
    {a : IngestAct Facts ε} (h : IngestNext runner s a s') :
    StoreKept s a s' ↔ StaleCommitKnown s a := by
  cases a with
  -- the steps of the runs do not touch the facts
  | run act => simp [StoreKept, StaleCommitKnown]
  | commitPage c call =>
    -- only a running worker commits pages
    cases hc : s.runs.workers c with
    | running request lease =>
      have hkept : StoreKept s (.commitPage c call) s' ↔
          (Superseded s.runs lease → s'.store = s.store) := by
        constructor
        · intro hkept hstale
          exact hkept c call request lease rfl hc hstale
        · rintro hkept c' call' request' lease' ⟨⟩ hc' hstale
          rw [hc] at hc'
          cases hc'
          exact hkept hstale
      have hknown : StaleCommitKnown s (.commitPage c call) ↔ (Superseded s.runs lease →
          s.store.Reserved call.page.key ∨ ¬ call.GoesThrough s.store.facts) := by
        simp only [StaleCommitKnown, hc]
      rw [hkept, hknown]
      have h : ingestNext runner s (.commitPage c call) = some s' := h
      -- the two differ in what a superseded commit does to the store
      simp only [ingestNext, hc, Option.some.injEq] at h
      subst h
      exact imp_congr_right fun _ => commitPageNext_eq_iff s.store (call.underRun lease.runId)
    | idle | acquiring | waiting | completing | failing | closing | returned | raised
    | crashed =>
      have h : ingestNext runner s (.commitPage c call) = some s' := h
      simp [ingestNext, hc] at h

/-! ## The runs that keep the order of attempts -/

theorem leases_grow {s s' : RunSystem} (h : RunStep s s') :
    ∀ lease ∈ s.leases, lease ∈ s'.leases := by
  intro lease hlease
  cases h with
  | execute | crash | stay | renew | stale | complete | fail => exact hlease
  | insert | claim => exact List.mem_append_left _ hlease

/-- The log so far: its attempts are leases, in order, and it explains the watermarks. -/
structure LogOk (s₀ s : IngestSystem Facts) : Prop where
  fenced : Fenced s.runs
  leased : ∀ entry ∈ s.log, ∃ lease ∈ s.runs.leases, lease.attemptNo = entry.1
  ordered : (s.log.map Prod.fst).Pairwise (· ≤ ·)
  watermarks : ∀ key, s.store.watermarks key =
    ((lastLogged s.log key).map (·.jobWatermark)).or (s₀.store.watermarks key)

/-- A page of the newest lease. -/
theorem logOk_commit {s₀ s s' : IngestSystem Facts} {call : PageCall Facts ε}
    {lease : IngestionRunLease} {runId : UUID} (h : LogOk s₀ s) (hruns : s'.runs = s.runs)
    (hlease : lease ∈ s.runs.leases) (hnewest : ¬ Superseded s.runs lease)
    (hcommits : CommitsPage s.store (call.underRun runId) s'.store)
    (hlog : s'.log = s.log ++ [(lease.attemptNo, call.page)]) : LogOk s₀ s' := by
  obtain ⟨-, facts, -, hstore⟩ := hcommits
  -- of the log, the new entry is the last one
  constructor
  · rw [hruns]
    exact h.fenced
  · intro entry hentry
    rw [hlog] at hentry
    rw [hruns]
    rcases List.mem_append.mp hentry with hold | hnew
    · exact h.leased entry hold
    · rw [List.mem_singleton.mp hnew]
      exact ⟨lease, hlease, rfl⟩
  -- an earlier entry of a later lease would supersede this one
  · rw [hlog, List.map_append, List.pairwise_append]
    refine ⟨h.ordered, by simp, ?_⟩
    intro n hn m hm
    obtain ⟨entry, hentry, rfl⟩ := List.mem_map.mp hn
    obtain ⟨earlier, hearlier, hno⟩ := h.leased entry hentry
    simp only [List.map_singleton, List.mem_singleton] at hm
    rw [hm, ← hno]
    by_contra hlt
    exact hnewest ⟨earlier, hearlier, Nat.lt_of_not_le hlt⟩
  · intro key
    rw [hlog, hstore]
    -- the watermark of the page's key, or of another one
    by_cases hkey : call.page.watermarkKey = key
    · subst hkey
      simp [lastLogged, PageStore.withPage, PageCall.underRun]
    · have hother : (s.store.withPage (call.underRun runId) facts).watermarks key =
          s.store.watermarks key := Function.update_of_ne (fun h' => hkey h'.symm) _ _
      rw [hother, h.watermarks key]
      simp [lastLogged, hkey]

/-- Each step whose stale commits are known keeps the log. -/
theorem step_logOk {runner : JobRunner} {s₀ s s' : IngestSystem Facts} {a : IngestAct Facts ε}
    (hstep : IngestNext runner s a s') (hknown : StaleCommitKnown s a) (h : LogOk s₀ s) :
    LogOk s₀ s' := by
  cases a with
  -- a run grants more leases, and takes none away
  | run act =>
    obtain ⟨runs, hruns, rfl⟩ := Option.map_eq_some_iff.mp hstep
    have hrunStep := runNext_step hruns
    refine ⟨step_fenced hrunStep h.fenced, ?_, h.ordered, h.watermarks⟩
    intro entry hentry
    obtain ⟨lease, hlease, hno⟩ := h.leased entry hentry
    exact ⟨lease, leases_grow hrunStep lease hlease, hno⟩
  | commitPage c call =>
    cases hc : s.runs.workers c with
    | running request lease =>
      have hkept := (storeKept_iff hstep).mpr hknown
      -- the commit left the store, or committed its page whole
      obtain ⟨hruns, ⟨hstore, hlog⟩ | ⟨hcommits, hlog⟩⟩ := commit_next hc hstep
      · exact ⟨by rw [hruns]; exact h.fenced, by rw [hruns, hlog]; exact h.leased,
          by rw [hlog]; exact h.ordered, by rw [hlog, hstore]; exact h.watermarks⟩
      -- had the lease been superseded, the store would be as it was
      · have hworker := h.fenced.workers c
        rw [hc] at hworker
        refine logOk_commit h hruns hworker.1 ?_ hcommits hlog
        intro hstale
        exact ne_of_commitsPage hcommits (hkept c call request lease rfl hc hstale)
    | idle | acquiring | waiting | completing | failing | closing | returned | raised
    | crashed =>
      have hnone : ingestNext runner s (.commitPage c call) = some s' := hstep
      simp [ingestNext, hc] at hnone

theorem init_logOk {s : IngestSystem Facts} (h : s.Init) : LogOk s s := by
  refine ⟨init_fenced h.1, ?_, ?_, ?_⟩ <;> simp [h.2, lastLogged]

/-- A run is free of writes by superseded workers exactly when each of their commits is of
a known page, or does not go through. -/
theorem zombie_fencing_iff (runner : JobRunner) {s₀ s : IngestSystem Facts}
    {as : List (IngestAct Facts ε)} (hinit : s₀.Init) :
    ZombieFencing runner s₀ as s ↔
      Run (guarded (IngestNext runner) StaleCommitKnown) s₀ as s := by
  -- step by step the two runs are one
  have hsame : ∀ t (a : IngestAct Facts ε) t', True →
      ((IngestNext runner t a t' ∧ StoreKept t a t') ↔
        guarded (IngestNext runner) StaleCommitKnown t a t') := by
    intro t a t' _
    constructor
    · rintro ⟨hstep, hkept⟩
      exact ⟨(storeKept_iff hstep).mp hkept, hstep⟩
    · rintro ⟨hknown, hstep⟩
      exact ⟨hstep, (storeKept_iff hstep).mpr hknown⟩
  have hruns : Run (fun t a t' => IngestNext runner t a t' ∧ StoreKept t a t') s₀ as s ↔
      Run (guarded (IngestNext runner) StaleCommitKnown) s₀ as s :=
    run_congr (fun _ => True) (fun _ _ _ _ _ => trivial) hsame trivial
  constructor
  · intro h
    exact hruns.mp h.kept
  · intro h
    have hlog := run_invariant (LogOk s₀)
      (fun t a t' hstep ht => step_logOk hstep.2 hstep.1 ht) h (init_logOk hinit)
    exact ⟨hruns.mpr h, hlog.ordered, hlog.watermarks⟩

def emptyIngest : IngestSystem (List String) :=
  { runs := emptyRuns, store := noPages, log := [] }

/-- A second worker takes over the run of a worker that sleeps. -/
def takeover : List RunAct :=
  [.execute 0 barsRequest, .acquire 0 7 0, .execute 1 barsRequest, .acquire 1 8 30000000,
   .poll 1 30000000 false, .poll 1 90000000 false]

/-- The first worker commits again what the second one has committed. -/
def knownPage : List (IngestAct (List String) String) :=
  takeover.map .run ++ [.commitPage 1 (barCall "p1"), .commitPage 0 (barCall "p1")]

/-- The condition, where the page is known or the lease still is the last. -/
def commitsKnown (s : IngestSystem (List String)) : IngestAct (List String) String → Bool
  | .run _ => true
  | .commitPage c call =>
      match s.runs.workers c with
      | .running _ lease =>
          decide (s.store.Reserved call.page.key) || !decide (Superseded s.runs lease)
      | _ => true

/-- The test that can be run is enough. -/
theorem staleCommitKnown_of_commitsKnown {s : IngestSystem (List String)}
    {a : IngestAct (List String) String} (h : commitsKnown s a = true) :
    StaleCommitKnown s a := by
  cases a with
  | run act => trivial
  | commitPage c call =>
    cases hc : s.runs.workers c with
    | running request lease =>
      simp only [commitsKnown, hc, Bool.or_eq_true, Bool.not_eq_true', decide_eq_true_eq,
        decide_eq_false_iff_not] at h
      simp only [StaleCommitKnown, hc]
      intro hstale
      exact Or.inl (h.resolve_right fun hlast => hlast hstale)
    | idle | acquiring | waiting | completing | failing | closing | returned | raised
    | crashed => simp [StaleCommitKnown, hc]

/-- A stale worker commits a page that the next one has committed. -/
theorem zombie_fencing_iff_knownPage :
    ∃ s, (s.log.map Prod.fst = [2] ∧ s.store.facts = ["p1"]) ∧
      ZombieFencing {} emptyIngest knownPage s := by
  have hrun : (exec (check commitsKnown (ingestNext {})) emptyIngest knownPage).map
      (fun s => (s.log.map Prod.fst, s.store.facts)) = some ([2], ["p1"]) := by
    rfl
  obtain ⟨s, hs, heq⟩ := Option.map_eq_some_iff.mp hrun
  rw [Prod.mk.injEq] at heq
  have hguarded : Run (guarded (IngestNext {}) StaleCommitKnown) emptyIngest knownPage s :=
    run_mono (fun _ _ _ h => ⟨staleCommitKnown_of_commitsKnown h.1, h.2⟩)
      (run_of_exec_check hs)
  exact ⟨s, heq, (zombie_fencing_iff {} ⟨⟨rfl, fun _ => rfl, rfl, rfl⟩, rfl⟩).mpr hguarded⟩

/-- The second worker commits a page and completes the run, and then the first one commits
an older page. -/
def olderPage : List (IngestAct (List String) String) :=
  takeover.map .run ++ [.commitPage 1 (barCall "p2"), .run (.finish 1 (.ok barsResult)),
    .run (.complete 1), .commitPage 0 (barCall "p1")]

/-- A stale worker commits an older page after the next one. -/
theorem olderPage_moves_watermark_back :
    ¬ ∀ (runner : JobRunner) (s₀ s : IngestSystem (List String))
      (as : List (IngestAct (List String) String)),
      s₀.Init → Run (IngestNext runner) s₀ as s → ZombieFencing runner s₀ as s := by
  intro hclaim
  have hrun : (exec (ingestNext {}) emptyIngest olderPage).map
      (fun s => s.log.map Prod.fst) = some [2, 1] := by
    rfl
  obtain ⟨s, hs, hlog⟩ := Option.map_eq_some_iff.mp hrun
  have hfencing := hclaim {} emptyIngest s olderPage ⟨⟨rfl, fun _ => rfl, rfl, rfl⟩, rfl⟩
    (run_of_exec hs)
  have hordered := hfencing.ordered
  rw [hlog] at hordered
  revert hordered
  decide

end MacroPlatform.Ingestion
