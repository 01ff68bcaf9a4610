import MacroPlatform.Store.Queries

/-! # Market observations

`market_observations` has one row for an observation. A refetch overwrites what the row says,
the time it became available included, so that a query at an earlier time loses it.

* `selectedObservations_upsertAll`: what a run of late upserts leaves to a query;
* `listMarketObservations_unchanged_iff`: when its answer is the one from before.
-/

namespace MacroPlatform.Store

open Query

/-- `MarketObservation`. -/
structure MarketObservation where
  observationId : String
  region : Region
  scopeId : String
  metricCode : String
  value : Option DecimalValue
  observedAt : Instant
  availableAt : Instant
  source : SourceRef
deriving DecidableEq

/-- `MarketObservationQuery`. -/
structure MarketObservationQuery where
  regions : List Region
  metricCodes : List String
  scopeIds : List String := []
  start : Instant
  stop : Instant
  asOf : Instant
  limit : ℕ := 1000

/-- `MarketObservationRow`. -/
structure MarketObservationRow where
  observationId : String
  region : Region
  metricCode : String
  scopeId : String
  observedAt : Instant
  availableAt : Instant
  providerId : String
  providerRecordId : String
  ingestionRunId : Option UUID
  payload : MarketObservation
deriving DecidableEq

/-- An upsert of an observation, and the run it is for. -/
structure ObservationUpsert where
  ingestionRunId : UUID
  observation : MarketObservation

/-- The row that `upsert_market_observation` inserts. -/
def ObservationUpsert.row (u : ObservationUpsert) : MarketObservationRow :=
  { observationId := u.observation.observationId
    region := u.observation.region
    metricCode := u.observation.metricCode
    scopeId := u.observation.scopeId
    observedAt := u.observation.observedAt
    availableAt := u.observation.availableAt
    providerId := u.observation.source.providerId
    providerRecordId := u.observation.source.providerRecordId
    ingestionRunId := some u.ingestionRunId
    payload := u.observation }

/-- What it sets in the row that is there already. -/
def ObservationUpsert.refetch (u : ObservationUpsert) (row : MarketObservationRow) :
    MarketObservationRow :=
  { row with
    availableAt := u.observation.availableAt
    providerRecordId := u.observation.source.providerRecordId
    ingestionRunId := some u.ingestionRunId
    payload := u.observation }

/-- `upsert_market_observation`. -/
def upsertMarketObservation (rows : List MarketObservationRow) (u : ObservationUpsert) :
    List MarketObservationRow :=
  if ∃ row ∈ rows, row.observationId = u.observation.observationId then
    rows.map fun row =>
      if row.observationId = u.observation.observationId then u.refetch row else row
  else rows ++ [u.row]

/-- The conditions of `list_market_observations`. -/
def MarketObservationRow.matchesQuery (row : MarketObservationRow)
    (query : MarketObservationQuery) : Bool :=
  row.region ∈ query.regions ∧ row.metricCode ∈ query.metricCodes ∧
    query.start ≤ row.observedAt ∧ row.observedAt < query.stop ∧
    row.availableAt ≤ query.asOf ∧ (query.scopeIds = [] ∨ row.scopeId ∈ query.scopeIds)

/-- The order of `list_market_observations`. -/
def MarketObservationRow.order (engine : Engine) : SortKey MarketObservationRow :=
  lexicographic [asc compare (·.observedAt), asc engine.collate (·.metricCode),
    asc engine.collate (·.observationId)]

/-- The rows that a query selects, before it orders and limits them. -/
def selectedObservations (rows : List MarketObservationRow) (query : MarketObservationQuery) :
    List MarketObservationRow :=
  rows.filter (·.matchesQuery query)

/-- `list_market_observations`. -/
def listMarketObservations (engine : Engine) (rows : List MarketObservationRow)
    (query : MarketObservationQuery) : List MarketObservation :=
  ((engine.orderBy (MarketObservationRow.order engine)
    (selectedObservations rows query)).take query.limit).map (·.payload)

/-- The table: its primary key, and payloads that repeat it. -/
structure ObservationStore where
  rows : List MarketObservationRow
  pkey : (rows.map (·.observationId)).Nodup
  payload_id : ∀ row ∈ rows, row.payload.observationId = row.observationId

/-- An upsert adds at most the id of its observation. -/
theorem upsertMarketObservation_ids (rows : List MarketObservationRow) (u : ObservationUpsert) :
    (upsertMarketObservation rows u).map (·.observationId) =
      if ∃ row ∈ rows, row.observationId = u.observation.observationId then
        rows.map (·.observationId)
      else rows.map (·.observationId) ++ [u.observation.observationId] := by
  unfold upsertMarketObservation
  split_ifs with hexists
  · rw [List.map_map]
    apply List.map_congr_left
    intro row _
    rw [Function.comp_apply]
    split_ifs
    · rfl
    · rfl
  · rw [List.map_append]
    rfl

def ObservationStore.upsert (s : ObservationStore) (u : ObservationUpsert) :
    ObservationStore where
  rows := upsertMarketObservation s.rows u
  pkey := by
    rw [upsertMarketObservation_ids]
    split_ifs with hexists
    · exact s.pkey
    · rw [List.nodup_append]
      refine ⟨s.pkey, by simp, ?_⟩
      intro id hid id' hid' hsame
      rcases List.mem_map.mp hid with ⟨row, hrow, hrowId⟩
      rw [List.mem_singleton.mp hid'] at hsame
      exact hexists ⟨row, hrow, hrowId.trans hsame⟩
  payload_id := by
    intro row hrow
    unfold upsertMarketObservation at hrow
    split_ifs at hrow with hexists
    · rcases List.mem_map.mp hrow with ⟨before, hbefore, heq⟩
      split_ifs at heq with hid
      · rw [← heq]
        exact hid.symm
      · rw [← heq]
        exact s.payload_id before hbefore
    · rcases List.mem_append.mp hrow with hold | hnew
      · exact s.payload_id row hold
      · rw [List.mem_singleton.mp hnew]
        rfl

/-- The upserts one after another. -/
def ObservationStore.upsertAll (s : ObservationStore) (us : List ObservationUpsert) :
    ObservationStore :=
  us.foldl ObservationStore.upsert s

/-! ## What a later refetch takes away -/

variable {engine : Engine} {query : MarketObservationQuery}

/-- A row that a late upsert wrote is not selected, every other row is as it was. -/
theorem selectedObservations_upsert (rows : List MarketObservationRow) {u : ObservationUpsert}
    (hlate : query.asOf < u.observation.availableAt) :
    selectedObservations (upsertMarketObservation rows u) query =
      (selectedObservations rows query).filter
        (·.observationId ≠ u.observation.observationId) := by
  -- a row with the time of the late upsert does not match
  have hlateRow : ∀ row : MarketObservationRow,
      row.availableAt = u.observation.availableAt → row.matchesQuery query = false := by
    intro row havailable
    refine decide_eq_false ?_
    rintro ⟨-, -, -, -, hle, -⟩
    rw [havailable] at hle
    exact not_le_of_gt hlate hle
  unfold selectedObservations upsertMarketObservation
  -- the upsert overwrites the row of its id, or adds one
  split_ifs with hexists
  · clear hexists
    induction rows with
    | nil => rfl
    | cons row rows ih =>
      rw [List.map_cons, List.filter_cons, List.filter_cons, ih]
      by_cases hid : row.observationId = u.observation.observationId
      · -- the row is overwritten
        have hrefetched := hlateRow (u.refetch row) rfl
        rw [if_pos hid, hrefetched, if_neg (by simp)]
        split_ifs with hmatches
        · rw [List.filter_cons, if_neg (by simpa using hid)]
        · rfl
      · rw [if_neg hid]
        split_ifs with hmatches
        · rw [List.filter_cons, if_pos (decide_eq_true hid)]
        · rfl
  -- the row is added behind the others
  · have hnew : [u.row].filter (·.matchesQuery query) = [] := by
      rw [List.filter_cons, hlateRow u.row rfl, if_neg (by simp), List.filter_nil]
    rw [List.filter_append, hnew, List.append_nil]
    symm
    apply List.filter_eq_self.mpr
    intro row hrow
    refine decide_eq_true ?_
    intro hid
    exact hexists ⟨row, List.mem_of_mem_filter hrow, hid⟩

/-- No upsert of a run is of the row's observation. -/
def Untouched (us : List ObservationUpsert) (row : MarketObservationRow) : Prop :=
  ∀ u ∈ us, row.observationId ≠ u.observation.observationId

instance (us : List ObservationUpsert) (row : MarketObservationRow) :
    Decidable (Untouched us row) :=
  inferInstanceAs (Decidable (∀ u ∈ us, _))

/-- After a run of late upserts the untouched rows are selected. -/
theorem selectedObservations_upsertAll (s : ObservationStore) {us : List ObservationUpsert}
    (hlate : ∀ u ∈ us, query.asOf < u.observation.availableAt) :
    selectedObservations (s.upsertAll us).rows query =
      (selectedObservations s.rows query).filter (Untouched us ·) := by
  induction us generalizing s with
  | nil =>
    symm
    apply List.filter_eq_self.mpr
    intro row _
    exact decide_eq_true fun u hu => by cases hu
  | cons u us ih =>
    have hfirst : query.asOf < u.observation.availableAt := hlate u List.mem_cons_self
    have hrest := ih (s.upsert u) fun u' hu' => hlate u' (List.mem_cons_of_mem u hu')
    have hstep := selectedObservations_upsert s.rows hfirst
    have hfold : s.upsertAll (u :: us) = (s.upsert u).upsertAll us := rfl
    have hrows : (s.upsert u).rows = upsertMarketObservation s.rows u := rfl
    rw [hfold, hrest, hrows, hstep, List.filter_filter]
    apply List.filter_congr
    intro row _
    have hcons : Untouched (u :: us) row ↔
        row.observationId ≠ u.observation.observationId ∧ Untouched us row :=
      List.forall_mem_cons
    rw [decide_eq_decide.mpr hcons, Bool.decide_and, Bool.and_comm]

theorem observationOrder_ties (s : ObservationStore) {row other : MarketObservationRow}
    (hrow : row ∈ selectedObservations s.rows query)
    (hother : other ∈ selectedObservations s.rows query)
    (htie : MarketObservationRow.order engine row other = .eq) : row = other := by
  have := engine.collate_eq
  simp only [MarketObservationRow.order, lexicographic_cons_eq, asc,
    Std.LawfulEqCmp.compare_eq_iff_eq] at htie
  rcases htie with ⟨-, -, hid, -⟩
  exact List.inj_on_of_nodup_map s.pkey (List.mem_of_mem_filter hrow)
    (List.mem_of_mem_filter hother) hid

/-- A first part of the rows stays the first part when no row of it is left out. -/
theorem take_filter_of_kept {α : Type} {p : α → Bool} {l : List α} {limit : ℕ}
    (h : ∀ x ∈ l.take limit, p x) : (l.filter p).take limit = l.take limit := by
  induction l generalizing limit with
  | nil => rfl
  | cons x l ih =>
    cases limit with
    | zero => rfl
    | succ limit =>
      rw [List.take_succ_cons] at h ⊢
      have hx : p x := h x List.mem_cons_self
      rw [List.filter_cons, if_pos hx, List.take_succ_cons]
      rw [ih fun y hy => h y (List.mem_cons_of_mem x hy)]

/-- The answer is that of the rows of the limit, when no row of them is touched. -/
theorem payloads_unchanged_iff (s : ObservationStore) {p : MarketObservationRow → Bool}
    {l : List MarketObservationRow} (hl : ∀ row ∈ l, row ∈ s.rows) (limit : ℕ) :
    ((l.filter p).take limit).map (·.payload) = (l.take limit).map (·.payload) ↔
      ∀ row ∈ l.take limit, p row := by
  constructor
  · intro heq row hrow
    have hpayload : row.payload ∈ (l.take limit).map (·.payload) := List.mem_map_of_mem hrow
    rw [← heq] at hpayload
    rcases List.mem_map.mp hpayload with ⟨other, hother, hsame⟩
    rcases List.mem_filter.mp (List.mem_of_mem_take hother) with ⟨hmem, hp⟩
    -- the payload has the primary key in it
    have hrowStored := hl row (List.mem_of_mem_take hrow)
    have hotherStored := hl other hmem
    have hid : other.observationId = row.observationId := by
      rw [← s.payload_id other hotherStored, ← s.payload_id row hrowStored, hsame]
    rwa [List.inj_on_of_nodup_map s.pkey hotherStored hrowStored hid] at hp
  · intro hkept
    rw [take_filter_of_kept hkept]

/-- A run of upserts that become available after `asOf` leaves an answer at `asOf` as it was
if and only if every observation it refetches, of those that the query selects, is beyond the
limit already. -/
theorem listMarketObservations_unchanged_iff (engine : Engine) (s : ObservationStore)
    (query : MarketObservationQuery) (us : List ObservationUpsert)
    (hlate : ∀ u ∈ us, query.asOf < u.observation.availableAt) :
    listMarketObservations engine (s.upsertAll us).rows query =
        listMarketObservations engine s.rows query ↔
      ∀ u ∈ us, ∀ row ∈ selectedObservations s.rows query,
        row.observationId = u.observation.observationId →
          query.limit ≤ ((selectedObservations s.rows query).filter fun other =>
            MarketObservationRow.order engine other row = .lt).length := by
  have := engine.collate_trans
  have htrans : Std.TransCmp (MarketObservationRow.order engine) := by
    unfold MarketObservationRow.order
    infer_instance
  have hties : ∀ a ∈ selectedObservations s.rows query, ∀ b ∈ selectedObservations s.rows query,
      MarketObservationRow.order engine a b = .eq → a = b :=
    fun a ha b hb => observationOrder_ties s ha hb
  have hnodup : (selectedObservations s.rows query).Nodup :=
    (List.Nodup.of_map _ s.pkey).filter _
  have hperm := engine.orderBy_perm (MarketObservationRow.order engine)
    (selectedObservations s.rows query)
  have hstrict := engine.orderBy_strict hnodup hties
  have hstored : ∀ row ∈ engine.orderBy (MarketObservationRow.order engine)
      (selectedObservations s.rows query), row ∈ s.rows := by
    intro row hrow
    exact List.mem_of_mem_filter (hperm.mem_iff.mp hrow)
  unfold listMarketObservations
  rw [selectedObservations_upsertAll s hlate, ← engine.orderBy_filter hties,
    payloads_unchanged_iff s hstored]
  constructor
  · intro hkept u hu row hrow hid
    by_contra hfew
    have hordered := hperm.mem_iff.mpr hrow
    have hcount := (hperm.filter fun other =>
      MarketObservationRow.order engine other row = .lt).length_eq
    have htaken := (mem_take_iff hstrict hordered query.limit).mpr (by omega)
    have huntouched : Untouched us row := of_decide_eq_true (hkept row htaken)
    exact huntouched u hu hid
  · intro hbeyond row hrow
    refine decide_eq_true ?_
    intro u hu hid
    have hordered := List.mem_of_mem_take hrow
    have hcount := (hperm.filter fun other =>
      MarketObservationRow.order engine other row = .lt).length_eq
    have hfew := (mem_take_iff hstrict hordered query.limit).mp hrow
    have hmany := hbeyond u hu row (hperm.mem_iff.mp hordered) hid
    omega

/-- Turnover, with the value that a fetch at a time gives. -/
def turnover (observationId : String) (availableAt : Instant) (value : DecimalValue) :
    MarketObservation :=
  { observationId
    region := .cn
    scopeId := "CN"
    metricCode := "market.turnover"
    value := some value
    observedAt := 1
    availableAt
    source := ⟨"cn", observationId, "CN", "a"⟩ }

def noObservations : ObservationStore := ⟨[], .nil, by simp⟩

/-- Turnover as it is known at 5. -/
def turnoverStore : ObservationStore := noObservations.upsertAll [⟨1, turnover "t" 5 100⟩]

def turnoverQuery : MarketObservationQuery :=
  { regions := [.cn]
    metricCodes := ["market.turnover"]
    start := 0
    stop := 2
    asOf := 10 }

theorem listMarketObservations_unchanged_other :
    listMarketObservations .plain (turnoverStore.upsertAll [⟨2, turnover "other" 20 7⟩]).rows
        turnoverQuery =
      listMarketObservations .plain turnoverStore.rows turnoverQuery := by
  have hlate : ∀ u ∈ [(⟨2, turnover "other" 20 7⟩ : ObservationUpsert)],
      turnoverQuery.asOf < u.observation.availableAt := by decide
  refine (listMarketObservations_unchanged_iff .plain turnoverStore turnoverQuery _ hlate).mpr ?_
  decide

/-- A refetch at 20 takes the observation away from the query at 10. -/
theorem refetched_not_listed :
    listMarketObservations .plain turnoverStore.rows turnoverQuery = [turnover "t" 5 100] ∧
      listMarketObservations .plain (turnoverStore.upsertAll [⟨2, turnover "t" 20 101⟩]).rows
        turnoverQuery = [] :=
  ⟨rfl, rfl⟩

end MacroPlatform.Store
