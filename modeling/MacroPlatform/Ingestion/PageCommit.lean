import Mathlib.Data.List.Basic
import Mathlib.Logic.Function.Basic
import MacroPlatform.Contracts.Provider
import MacroPlatform.Lib.Transaction
import MacroPlatform.Lib.Transition

/-! # `commit_page`

A page's reservation, its facts and its watermark are three writes in one
transaction. Whatever raises, the store a sequence of such transactions leaves is
that of whole pages, each committed once.

* `commitPageNext_cases`: a transaction leaves the store alone or commits its page whole;
* `run_committedLog`: every store is the one of a log of whole pages;
* `commit_page_atomic_idempotent`: atomicity and idempotence after any sequence of transactions.
-/

namespace MacroPlatform.Ingestion

open Transaction Transition

/-- `CommittedPage`. -/
structure CommittedPage where
  providerRole : String
  dataset : Dataset
  region : String
  pageFingerprint : String
  sourceWatermark : Option String
  nextCursor : Option String
  acceptedRecordIds : List String
deriving DecidableEq

/-- `IngestPageCommitRow`. -/
structure IngestPageCommit where
  page : CommittedPage
  ingestionRunId : Option UUID
deriving DecidableEq

/-- The primary key of a watermark. -/
structure WatermarkKey where
  providerRole : String
  dataset : Dataset
  region : String
deriving DecidableEq

/-- The primary key of a page commit. -/
structure PageKey where
  watermark : WatermarkKey
  pageFingerprint : String
deriving DecidableEq

def CommittedPage.watermarkKey (page : CommittedPage) : WatermarkKey :=
  ⟨page.providerRole, page.dataset, page.region⟩

def CommittedPage.key (page : CommittedPage) : PageKey :=
  ⟨page.watermarkKey, page.pageFingerprint⟩

/-- `JobWatermarkRow`. -/
structure JobWatermark where
  watermark : Option String
  cursor : Option String
deriving DecidableEq, Repr

/-- The watermark and the cursor that a page stores. -/
def CommittedPage.jobWatermark (page : CommittedPage) : JobWatermark :=
  ⟨page.sourceWatermark, page.nextCursor⟩

/-- The facts, `ingest_page_commits` and `job_watermarks`. -/
structure PageStore (Facts : Type) where
  facts : Facts
  pages : List IngestPageCommit
  watermarks : WatermarkKey → Option JobWatermark

variable {Facts ε : Type}

def PageStore.Reserved (s : PageStore Facts) (key : PageKey) : Prop :=
  ∃ row ∈ s.pages, row.page.key = key

instance (s : PageStore Facts) (key : PageKey) : Decidable (s.Reserved key) :=
  inferInstanceAs (Decidable (∃ row ∈ s.pages, row.page.key = key))

/-- `reserve_page`. -/
def reservePage (page : CommittedPage) (ingestionRunId : Option UUID) :
    EStateM ε (PageStore Facts) Bool := fun s =>
  if s.Reserved page.key then .ok false s
  else .ok true { s with pages := s.pages ++ [⟨page, ingestionRunId⟩] }

/-- `save_watermark`. -/
def saveWatermark (key : WatermarkKey) (watermark cursor : Option String) :
    EStateM ε (PageStore Facts) Unit := fun s =>
  .ok () { s with
    watermarks := Function.update s.watermarks key (some ⟨watermark, cursor⟩) }

/-- One call of `commit_page` in its transaction. The faults come before the reservation,
after it, after the records and after the watermark; `writeRecords` may raise at any of its
own statements. -/
structure PageCall (Facts ε : Type) where
  page : CommittedPage
  ingestionRunId : Option UUID := none
  writeRecords : EStateM ε Facts PUnit
  faults : ℕ → Option ε := fun _ => none
  fate : CommitFate ε := .committed

/-- The call by a repository of an ingestion run. -/
def PageCall.underRun (call : PageCall Facts ε) (runId : UUID) : PageCall Facts ε :=
  { call with ingestionRunId := some runId }

/-- `IngestionCheckpointService.commit_page`. -/
def commitPage (call : PageCall Facts ε) : EStateM ε (PageStore Facts) Bool := do
  interrupt (call.faults 0)
  let reserved ← reservePage call.page call.ingestionRunId
  interrupt (call.faults 1)
  if reserved then
    onPart PageStore.facts (fun facts s => { s with facts }) call.writeRecords
    interrupt (call.faults 2)
    saveWatermark call.page.watermarkKey call.page.sourceWatermark call.page.nextCursor
    interrupt (call.faults 3)
    pure true
  else pure false

/-- The store after a call in `UnitOfWork.transaction`. -/
def commitPageNext (s : PageStore Facts) (call : PageCall Facts ε) : PageStore Facts :=
  finalState (transaction call.fate (commitPage call)) s

/-! ## One transaction -/

/-- The three writes of a page. -/
def PageStore.withPage (s : PageStore Facts) (call : PageCall Facts ε) (facts : Facts) :
    PageStore Facts :=
  { facts := facts
    pages := s.pages ++ [⟨call.page, call.ingestionRunId⟩]
    watermarks :=
      Function.update s.watermarks call.page.watermarkKey (some call.page.jobWatermark) }

/-- The page was new, its records were written to the end, and its watermark with them. -/
def CommitsPage (s : PageStore Facts) (call : PageCall Facts ε) (s' : PageStore Facts) : Prop :=
  ¬ s.Reserved call.page.key ∧
    ∃ facts, call.writeRecords s.facts = .ok ⟨⟩ facts ∧ s' = s.withPage call facts

/-- A page is reserved once. -/
theorem reservePage_ok {page : CommittedPage} {ingestionRunId : Option UUID}
    {s s' : PageStore Facts} {reserved : Bool}
    (h : reservePage page ingestionRunId s = (.ok reserved s' : EStateM.Result ε _ _)) :
    (s.Reserved page.key ∧ reserved = false ∧ s' = s) ∨
      (¬ s.Reserved page.key ∧ reserved = true ∧
        s' = { s with pages := s.pages ++ [⟨page, ingestionRunId⟩] }) := by
  unfold reservePage at h
  split_ifs at h with hreserved
  · cases h
    exact Or.inl ⟨hreserved, rfl, rfl⟩
  · cases h
    exact Or.inr ⟨hreserved, rfl, rfl⟩

/-- Nothing interrupts the call between its writes. -/
def PageCall.Quiet (call : PageCall Facts ε) : Prop :=
  call.faults 0 = none ∧ call.faults 1 = none ∧ call.faults 2 = none ∧ call.faults 3 = none

/-- Nothing raises in the call, and its commit is not rolled back. -/
def PageCall.GoesThrough (call : PageCall Facts ε) (facts : Facts) : Prop :=
  call.Quiet ∧ (∃ facts', call.writeRecords facts = .ok ⟨⟩ facts') ∧
    ∀ e, call.fate ≠ .rolledBack e

/-- A `commit_page` that returns has found the page, or has committed all of it. -/
theorem commitPage_ok {call : PageCall Facts ε} {s s' : PageStore Facts} {committed : Bool}
    (h : commitPage call s = .ok committed s') :
    (committed = false ∧ s.Reserved call.page.key ∧ s' = s) ∨
      (committed = true ∧ call.Quiet ∧ CommitsPage s call s') := by
  unfold commitPage at h
  obtain ⟨⟨⟩, s₁, h₁, hreserve⟩ := bind_ok_iff.mp h
  obtain ⟨hquiet₀, rfl⟩ := interrupt_ok_iff.mp h₁
  obtain ⟨reserved, s₂, h₂, hrest⟩ := bind_ok_iff.mp hreserve
  obtain ⟨⟨⟩, s₃, h₃, hbranch⟩ := bind_ok_iff.mp hrest
  obtain ⟨hquiet₁, rfl⟩ := interrupt_ok_iff.mp h₃
  rcases reservePage_ok h₂ with ⟨hreserved, rfl, rfl⟩ | ⟨hnew, rfl, rfl⟩
  · cases hbranch
    exact Or.inl ⟨rfl, hreserved, rfl⟩
  · right
    simp only [if_true] at hbranch
    obtain ⟨⟨⟩, s₄, h₄, hwritten⟩ := bind_ok_iff.mp hbranch
    obtain ⟨facts, hfacts, rfl⟩ := onPart_ok_iff.mp h₄
    obtain ⟨⟨⟩, s₅, h₅, hsave⟩ := bind_ok_iff.mp hwritten
    obtain ⟨hquiet₂, rfl⟩ := interrupt_ok_iff.mp h₅
    obtain ⟨⟨⟩, s₆, h₆, hsaved⟩ := bind_ok_iff.mp hsave
    cases h₆
    obtain ⟨⟨⟩, s₇, h₇, hdone⟩ := bind_ok_iff.mp hsaved
    obtain ⟨hquiet₃, rfl⟩ := interrupt_ok_iff.mp h₇
    cases hdone
    exact ⟨rfl, ⟨hquiet₀, hquiet₁, hquiet₂, hquiet₃⟩, hnew, facts, hfacts, rfl⟩

/-- A new page is committed with its facts. -/
theorem commitPage_of_new {call : PageCall Facts ε} {s : PageStore Facts} {facts : Facts}
    (hnew : ¬ s.Reserved call.page.key) (hquiet : call.Quiet)
    (hfacts : call.writeRecords s.facts = .ok ⟨⟩ facts) :
    commitPage call s = .ok true (s.withPage call facts) := by
  obtain ⟨h₀, h₁, h₂, h₃⟩ := hquiet
  unfold commitPage
  refine bind_ok_iff.mpr ⟨⟨⟩, s, interrupt_ok_iff.mpr ⟨h₀, rfl⟩, ?_⟩
  refine bind_ok_iff.mpr ⟨true, _, if_neg hnew, ?_⟩
  refine bind_ok_iff.mpr ⟨⟨⟩, _, interrupt_ok_iff.mpr ⟨h₁, rfl⟩, ?_⟩
  refine bind_ok_iff.mpr ⟨⟨⟩, _, onPart_ok_iff.mpr ⟨facts, hfacts, rfl⟩, ?_⟩
  refine bind_ok_iff.mpr ⟨⟨⟩, _, interrupt_ok_iff.mpr ⟨h₂, rfl⟩, ?_⟩
  refine bind_ok_iff.mpr ⟨⟨⟩, _, rfl, ?_⟩
  exact bind_ok_iff.mpr ⟨⟨⟩, _, interrupt_ok_iff.mpr ⟨h₃, rfl⟩, rfl⟩

/-- A transaction leaves the store alone, or commits its page whole. -/
theorem commitPageNext_cases (s : PageStore Facts) (call : PageCall Facts ε) :
    commitPageNext s call = s ∨ CommitsPage s call (commitPageNext s call) := by
  rcases finalState_transaction call.fate (commitPage call) s with hsame | ⟨committed, hbody⟩
  · exact Or.inl hsame
  · rcases commitPage_ok hbody with ⟨-, -, hsame⟩ | ⟨-, -, hcommits⟩
    · exact Or.inl hsame
    · exact Or.inr hcommits

theorem reserved_withPage {s : PageStore Facts} {call : PageCall Facts ε} {facts : Facts}
    {key : PageKey} :
    (s.withPage call facts).Reserved key ↔ s.Reserved key ∨ call.page.key = key := by
  simp [PageStore.Reserved, PageStore.withPage, or_and_right, exists_or]

/-- The reservation of a page appears with its facts and its watermark, and only then. -/
theorem reserved_iff_commitsPage (s : PageStore Facts) (call : PageCall Facts ε)
    (key : PageKey) :
    (commitPageNext s call).Reserved key ↔
      s.Reserved key ∨ (call.page.key = key ∧ CommitsPage s call (commitPageNext s call)) := by
  rcases commitPageNext_cases s call with hsame | hcommits
  · rw [hsame]
    constructor
    · exact Or.inl
    · rintro (hreserved | ⟨rfl, hnew, facts, -, heq⟩)
      · exact hreserved
      · rw [heq]
        exact reserved_withPage.mpr (Or.inr rfl)
  · have hwrites := hcommits
    obtain ⟨-, facts, -, heq⟩ := hcommits
    rw [and_iff_left hwrites, heq]
    exact reserved_withPage

theorem commitPageNext_of_reserved {s : PageStore Facts} {call : PageCall Facts ε}
    (h : s.Reserved call.page.key) : commitPageNext s call = s := by
  rcases commitPageNext_cases s call with hsame | ⟨hnew, -⟩
  · exact hsame
  · exact absurd h hnew

theorem ne_of_commitsPage {s s' : PageStore Facts} {call : PageCall Facts ε}
    (h : CommitsPage s call s') : s' ≠ s := by
  obtain ⟨-, facts, -, rfl⟩ := h
  intro hsame
  have hpages := congrArg (fun t => t.pages.length) hsame
  simp [PageStore.withPage] at hpages

/-- A new page is committed exactly when its transaction goes through. -/
theorem commitsPage_iff {s : PageStore Facts} {call : PageCall Facts ε}
    (hnew : ¬ s.Reserved call.page.key) :
    CommitsPage s call (commitPageNext s call) ↔ call.GoesThrough s.facts := by
  constructor
  -- the store changed, so the body returned and the commit was kept
  · intro hcommits
    have hchanged := ne_of_commitsPage hcommits
    obtain ⟨-, facts, hfacts, -⟩ := hcommits
    rcases finalState_transaction call.fate (commitPage call) s with hsame | ⟨committed, hbody⟩
    · exact absurd hsame hchanged
    -- the page was new, so its body wrote it
    · rcases commitPage_ok hbody with ⟨-, hreserved, -⟩ | ⟨-, hquiet, -⟩
      · exact absurd hreserved hnew
      · refine ⟨hquiet, ⟨facts, hfacts⟩, ?_⟩
        intro e he
        apply hchanged
        have hrolled : transaction call.fate (commitPage call) s = .error e s := by
          simp [transaction, hbody, he]
        simp [commitPageNext, finalState, hrolled]
  · rintro ⟨hquiet, ⟨facts, hfacts⟩, hfate⟩
    have hbody := commitPage_of_new hnew hquiet hfacts
    refine ⟨hnew, facts, hfacts, ?_⟩
    -- an answer that is lost leaves the commit in place
    cases hf : call.fate with
    | committed => simp [commitPageNext, finalState, transaction, hbody, hf]
    | rolledBack e => exact absurd hf (hfate e)
    | unacknowledged e => simp [commitPageNext, finalState, transaction, hbody, hf]

/-- When a transaction leaves the store alone. -/
theorem commitPageNext_eq_iff (s : PageStore Facts) (call : PageCall Facts ε) :
    commitPageNext s call = s ↔ s.Reserved call.page.key ∨ ¬ call.GoesThrough s.facts := by
  by_cases hreserved : s.Reserved call.page.key
  · simp [hreserved, commitPageNext_of_reserved hreserved]
  · rw [← commitsPage_iff hreserved]
    simp only [hreserved, false_or]
    constructor
    · intro hsame hcommits
      exact ne_of_commitsPage hcommits hsame
    · intro hnot
      exact (commitPageNext_cases s call).resolve_right hnot

/-! ## Sequences of transactions -/

/-- The transactions, one after another. -/
def CommitNext : Action (PageStore Facts) (PageCall Facts ε) :=
  ofNext fun s call => some (commitPageNext s call)

/-- The last of the pages with the given watermark. -/
def lastCommitted (log : List (PageCall Facts ε)) (key : WatermarkKey) :
    Option (PageCall Facts ε) :=
  (log.filter fun call => call.page.watermarkKey = key).getLast?

/-- The store is `s₀` with the pages of the log committed whole and in order. -/
structure CommittedLog (s₀ : PageStore Facts) (log : List (PageCall Facts ε))
    (s : PageStore Facts) : Prop where
  pages : s.pages = s₀.pages ++ log.map fun call => ⟨call.page, call.ingestionRunId⟩
  facts : (log.forM fun call => call.writeRecords) s₀.facts = .ok ⟨⟩ s.facts
  watermarks : ∀ key, s.watermarks key =
    ((lastCommitted log key).map (·.page.jobWatermark)).or (s₀.watermarks key)
  once : (log.map (·.page.key)).Nodup
  fresh : ∀ call ∈ log, ¬ s₀.Reserved call.page.key

theorem committedLog_nil (s₀ : PageStore Facts) :
    CommittedLog s₀ ([] : List (PageCall Facts ε)) s₀ := by
  refine ⟨by simp, rfl, ?_, .nil, by simp⟩
  intro key
  simp [lastCommitted]

theorem CommittedLog.reserved_iff {s₀ s : PageStore Facts} {log : List (PageCall Facts ε)}
    (h : CommittedLog s₀ log s) (key : PageKey) :
    s.Reserved key ↔ s₀.Reserved key ∨ ∃ call ∈ log, call.page.key = key := by
  simp [PageStore.Reserved, h.pages, or_and_right, exists_or]

/-- One more call that commits. -/
theorem committedLog_snoc {s₀ s s' : PageStore Facts} {log : List (PageCall Facts ε)}
    {call : PageCall Facts ε} (h : CommittedLog s₀ log s) (hcommits : CommitsPage s call s') :
    CommittedLog s₀ (log ++ [call]) s' := by
  obtain ⟨hnew, facts, hfacts, rfl⟩ := hcommits
  -- the page is new to the log and to the store before it
  rw [h.reserved_iff, not_or] at hnew
  obtain ⟨hfresh, hunlogged⟩ := hnew
  -- the facts: the log writes in its order
  constructor
  · simp [PageStore.withPage, h.pages]
  · have happend : (log ++ [call]).forM (fun c => c.writeRecords) =
        (do log.forM fun c => c.writeRecords; call.writeRecords) := by
      simp
    rw [happend]
    exact bind_ok_iff.mpr ⟨⟨⟩, s.facts, h.facts, hfacts⟩
  -- the watermarks: a key has that of its last page in the log
  · intro key
    by_cases hkey : call.page.watermarkKey = key
    · simp [PageStore.withPage, lastCommitted, hkey]
    · have hother : Function.update s.watermarks call.page.watermarkKey
          (some call.page.jobWatermark) key = s.watermarks key :=
        Function.update_of_ne (fun h' => hkey h'.symm) _ _
      simp only [PageStore.withPage, hother, h.watermarks key]
      simp [lastCommitted, hkey]
  -- no page is committed twice
  · rw [List.map_append, List.nodup_append]
    refine ⟨h.once, by simp, ?_⟩
    intro k hk k' hk'
    obtain ⟨c, hc, rfl⟩ := List.mem_map.mp hk
    simp only [List.map_singleton, List.mem_singleton] at hk'
    rintro rfl
    exact hunlogged ⟨c, hc, hk'⟩
  -- what the log commits was not reserved at the start
  · intro c hc
    rcases List.mem_append.mp hc with hc | hc
    · exact h.fresh c hc
    · rw [List.mem_singleton.mp hc]
      exact hfresh

/-- Every store a sequence leaves is the one of a log of whole pages. -/
theorem run_committedLog {s₀ s s' : PageStore Facts} {log calls : List (PageCall Facts ε)}
    (h : CommittedLog s₀ log s) (hrun : Run CommitNext s calls s') :
    ∃ more, more.Sublist calls ∧ CommittedLog s₀ (log ++ more) s' := by
  induction hrun generalizing log with
  | nil => exact ⟨[], List.Sublist.refl _, by simpa using h⟩
  | @cons s t s' call calls hstep _ ih =>
    cases hstep
    rcases commitPageNext_cases s call with hsame | hcommits
    · rw [hsame] at ih
      obtain ⟨more, hsub, hlog⟩ := ih h
      exact ⟨more, hsub.cons call, hlog⟩
    · obtain ⟨more, hsub, hlog⟩ := ih (committedLog_snoc h hcommits)
      exact ⟨call :: more, hsub.cons_cons call, by simpa using hlog⟩

/-- Atomicity and idempotence after any sequence of transactions, with any faults: the
store is that of the whole pages of a log; and what the next transaction would do. -/
theorem commit_page_atomic_idempotent {s₀ s : PageStore Facts}
    {calls : List (PageCall Facts ε)} (hrun : Run CommitNext s₀ calls s) :
    (∃ log, log.Sublist calls ∧ CommittedLog s₀ log s ∧
      ∀ key, s.Reserved key ↔ s₀.Reserved key ∨ ∃ call ∈ log, call.page.key = key) ∧
    ∀ call : PageCall Facts ε,
      (s.Reserved call.page.key → commitPageNext s call = s) ∧
      (∀ key, (commitPageNext s call).Reserved key ↔ s.Reserved key ∨
        (call.page.key = key ∧ CommitsPage s call (commitPageNext s call))) ∧
      (commitPageNext s call = s ∨ CommitsPage s call (commitPageNext s call)) := by
  constructor
  · obtain ⟨log, hsub, hlog⟩ := run_committedLog (committedLog_nil s₀) hrun
    rw [List.nil_append] at hlog
    exact ⟨log, hsub, hlog, hlog.reserved_iff⟩
  · intro call
    exact ⟨commitPageNext_of_reserved, reserved_iff_commitsPage s call,
      commitPageNext_cases s call⟩

/-- A page of one bar, whose watermark is its fingerprint. -/
def barPage (fingerprint : String) : CommittedPage :=
  { providerRole := "us_primary", dataset := .bars, region := "US",
    pageFingerprint := fingerprint, sourceWatermark := some fingerprint, nextCursor := none,
    acceptedRecordIds := [fingerprint] }

/-- Facts are the fingerprints written so far. -/
def barCall (fingerprint : String) : PageCall (List String) String :=
  { page := barPage fingerprint
    writeRecords := fun facts => .ok ⟨⟩ (facts ++ [fingerprint]) }

def noPages : PageStore (List String) :=
  { facts := [], pages := [], watermarks := fun _ => none }

/-- A page, one that raises after its records, and the first one again. -/
def faultyCalls : List (PageCall (List String) String) :=
  [barCall "p1", { barCall "p2" with faults := fun i => if i = 2 then some "error" else none },
   barCall "p1"]

/-- A page that fails, is committed, and comes again. -/
theorem commit_page_atomic_idempotent_faultyCalls :
    ∃ s, exec (fun s call => some (commitPageNext s call)) noPages faultyCalls = some s ∧
      s.facts = ["p1"] ∧ commitPageNext s (barCall "p1") = s := by
  have hrun : (exec (fun s call => some (commitPageNext s call)) noPages faultyCalls).map
      (fun s => (s.facts, s.pages.map (·.page))) = some (["p1"], [barPage "p1"]) := by
    rfl
  obtain ⟨s, hs, heq⟩ := Option.map_eq_some_iff.mp hrun
  rw [Prod.mk.injEq] at heq
  have hreserved : s.Reserved (barCall "p1").page.key := by
    have hmem : barPage "p1" ∈ s.pages.map (·.page) := by simp [heq.2]
    obtain ⟨row, hrow, hpage⟩ := List.mem_map.mp hmem
    exact ⟨row, hrow, congrArg CommittedPage.key hpage⟩
  exact ⟨s, hs, heq.1,
    ((commit_page_atomic_idempotent (run_of_exec hs)).2 (barCall "p1")).1 hreserved⟩

end MacroPlatform.Ingestion
