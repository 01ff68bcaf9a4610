import MacroPlatform.Lib.BoundedWalk
import MacroPlatform.Lib.JsonEquality
import MacroPlatform.Providers.DateOnlyNews

/-! # The snapshot of the HKMA press releases

The snapshot is collected page by page. The next offset is the number of records received so far,
and the pages end when the announced size is reached, or with a short page when none was
announced. Nothing the server answers keeps the loop going without a new record.

* `visitHkmaPage_ok`: a page ends the loop with all that was announced, or moves the offset past
  its records.
* `hkmaWalk_accounts`: a walk that returns has accounted for every exchange.
* `fetchSnapshot_lossless`: the snapshot has each record of each page once, in order.
-/

namespace MacroPlatform.Providers

open Report (Writing)

variable (w : Writing)

/-- What `_fetch_snapshot` raises. -/
inductive SnapshotError where
  | parse (error : ParseError)
  | cursor (message code : String)
  | unhashable
  | transport (message : String)
deriving DecidableEq, Repr

/-- What `_fetch_page` returns. -/
structure HkmaPage where
  payload : Json
  url : String
  fetchedAt : Instant

/-- An announced size: a `bool` is an `int`. -/
structure Datasize where
  value : Json
  count : ℕ
deriving Repr

/-- `_mapping`. -/
def asMapping (value : Json) (path : String) : Except SnapshotError Json :=
  match value with
  | .obj fields => .ok (.obj fields)
  | _ => .error (.parse (schemaDrift (path ++ " must be an object")))

/-- `err_code not in {"0000", 0}`, which raises on what has no hash. -/
def errCodeFails : Json → Except SnapshotError Bool
  | .arr _ => .error .unhashable
  | .obj _ => .error .unhashable
  | errCode => .ok (!(errCode.pyEq (.str "0000") || errCode.pyEq (.int 0)))

/-- The size a page announces; `none` is a size that is none. -/
def readDatasize : Json → Option (Option Datasize)
  | .null => some none
  | .bool value => some (some ⟨.bool value, if value then 1 else 0⟩)
  | .int value => if value < 0 then none else some (some ⟨.int value, value.toNat⟩)
  | _ => none

/-- `_hkma_records`. -/
def hkmaRecords (payload : Json) : Except SnapshotError (List Json × Option Datasize) :=
  asMapping (payload.get "header") "header" >>= fun header =>
  (if (header.get "success").isTrue then errCodeFails (header.get "err_code") else .ok true) >>=
    fun fails =>
  if fails then
    .error (.parse (.schema "HKMA response reports failure" "UPSTREAM_SCHEMA_ERROR"))
  else
    asMapping (payload.get "result") "result" >>= fun result =>
    match (result.get "records").toArr? with
    | none => .error (.parse (schemaDrift "HKMA records must be a list"))
    | some rawRecords =>
      if rawRecords.all (·.toObj?.isSome) then
        match readDatasize (result.get "datasize") with
        | none => .error (.parse (schemaDrift "HKMA datasize must be a non-negative integer"))
        | some datasize => .ok (rawRecords, datasize)
      else .error (.parse (schemaDrift "HKMA records must contain only objects"))

/-- `_raw_news_record_key`. -/
def rawNewsRecordKey (record : Json) : Except ParseError String :=
  requiredText record "title" "result.records.title" >>= fun title =>
  requiredText record "link" "result.records.link" >>= fun link =>
  requiredText record "date" "result.records.date" >>= fun date =>
  .ok (canonicalJsonChecksum w
    (.obj [("title", .str title), ("link", .str link), ("date", .str date)]))

/-- The variables of the loop of `_fetch_snapshot`. -/
structure Collected where
  records : List Json
  seenKeys : List String
  offset : ℕ
  total : Option Datasize
  sourceUrl : String
  fetchedAt : Instant

/-- The loop over the records of a page. -/
def collectRecords : List Json → Collected → Except SnapshotError Collected
  | [], s => .ok s
  | record :: rest, s =>
    match rawNewsRecordKey w record with
    | .error error => .error (.parse error)
    | .ok key =>
      if key ∈ s.seenKeys then
        .error (.cursor "HKMA returned a duplicate page" "DUPLICATE_PAGE")
      else
        collectRecords rest
          { s with records := s.records ++ [record], seenKeys := s.seenKeys ++ [key] }

/-- The size to go by after a page; two sizes have to be the same number. -/
def mergeTotal (total pageTotal : Option Datasize) : Except SnapshotError (Option Datasize) :=
  match total, pageTotal with
  | none, _ => .ok pageTotal
  | some total, none => .ok (some total)
  | some total, some pageTotal =>
    if pageTotal.count ≠ total.count then
      .error (.cursor "HKMA result size changed during pagination" "SNAPSHOT_CHANGED")
    else .ok (some total)

/-- `_MAX_API_PAGE_SIZE`. -/
def hkmaPageSize : ℕ := 100

/-- The body of the loop, from a page on. -/
def visitHkmaPage (page : HkmaPage) (s : Collected) : Except SnapshotError (Turn Collected) :=
  hkmaRecords page.payload >>= fun (pageRecords, pageTotal) =>
  mergeTotal s.total pageTotal >>= fun total =>
  collectRecords w pageRecords
    { s with
      total := total
      sourceUrl := if s.sourceUrl = "" then page.url else s.sourceUrl
      fetchedAt := page.fetchedAt } >>= fun s' =>
  if pageRecords = [] then
    if total.any (·.count ≠ 0) then
      .error (.parse (schemaDrift "HKMA returned an empty page before datasize was reached"))
    else .ok (.done s')
  else if total.any (·.count ≤ s'.records.length) then .ok (.done s')
  else if pageRecords.length < hkmaPageSize ∧ total.isNone then .ok (.done s')
  else .ok (.more { s' with offset := s.offset + pageRecords.length })

/-- A request and what came back. -/
structure Exchange where
  offset : ℕ
  reply : Except SnapshotError HkmaPage

/-- The records and the size that came back. -/
def Exchange.body (exchange : Exchange) : List Json × Option Datasize :=
  match exchange.reply >>= fun page => hkmaRecords page.payload with
  | .ok body => body
  | .error _ => ([], none)

/-- What came back could be read. -/
def Exchange.Read (exchange : Exchange) : Prop :=
  ∃ page, exchange.reply = .ok page ∧ hkmaRecords page.payload = .ok exchange.body

/-! ## One turn -/

variable {w}

theorem rawNewsRecordKey_ok {record : Json} {title link date : String}
    (htitle : requiredText record "title" "result.records.title" = .ok title)
    (hlink : requiredText record "link" "result.records.link" = .ok link)
    (hdate : requiredText record "date" "result.records.date" = .ok date) :
    rawNewsRecordKey w record = .ok (canonicalJsonChecksum w
      (.obj [("title", .str title), ("link", .str link), ("date", .str date)])) := by
  rw [rawNewsRecordKey, htitle, hlink, hdate]
  rfl

/-- A page that is collected adds its records, under keys that are new. -/
theorem collectRecords_ok {page : List Json} {s s' : Collected}
    (h : collectRecords w page s = .ok s') (hdistinct : s.seenKeys.Nodup)
    (hkeys : List.Forall₂ (fun record key => rawNewsRecordKey w record = .ok key) s.records
      s.seenKeys) :
    s'.records = s.records ++ page ∧ s'.seenKeys.Nodup ∧
      List.Forall₂ (fun record key => rawNewsRecordKey w record = .ok key) s'.records s'.seenKeys ∧
      s'.offset = s.offset ∧ s'.total = s.total := by
  induction page generalizing s with
  | nil =>
    cases h
    exact ⟨by simp, hdistinct, hkeys, rfl, rfl⟩
  | cons record rest ih =>
    rw [collectRecords] at h
    cases hkey : rawNewsRecordKey w record with
    | error error =>
      simp only [hkey] at h
      cases h
    | ok key =>
      simp only [hkey] at h
      by_cases hseen : key ∈ s.seenKeys
      · rw [if_pos hseen] at h
        cases h
      · rw [if_neg hseen] at h
        -- a key that was not seen goes to the end, with its record
        have hnew : (s.seenKeys ++ [key]).Nodup :=
          List.nodup_append.mpr ⟨hdistinct, List.nodup_singleton key,
            fun a ha b hb hab => hseen (by rw [← List.mem_singleton.mp hb, ← hab]; exact ha)⟩
        have hpairs := List.rel_append hkeys (List.Forall₂.cons hkey List.Forall₂.nil)
        rcases ih h hnew hpairs with ⟨hrecords, hrest⟩
        refine ⟨?_, hrest⟩
        rw [hrecords, List.append_assoc]
        rfl

/-- A merged total agrees with both counts. -/
theorem mergeTotal_ok {total pageTotal merged : Option Datasize}
    (h : mergeTotal total pageTotal = .ok merged) :
    (∀ size ∈ total, ∃ t ∈ merged, t.count = size.count) ∧
      ∀ size ∈ pageTotal, ∃ t ∈ merged, t.count = size.count := by
  -- the first size that is announced is kept, a later one has to agree with it
  cases total with
  | none =>
    cases h
    exact ⟨by simp, fun size hsize => ⟨size, hsize, rfl⟩⟩
  | some total =>
    cases pageTotal with
    | none =>
      cases h
      simp
    | some pageTotal =>
      by_cases hcount : pageTotal.count ≠ total.count
      · rw [mergeTotal, if_pos hcount] at h
        cases h
      · rw [mergeTotal, if_neg hcount] at h
        cases h
        simpa [eq_comm] using hcount

/-- What a page makes of the variables of the loop, but for the offset. -/
structure Received (w : Writing) (body : List Json × Option Datasize) (s s' : Collected) :
    Prop where
  records : s'.records = s.records ++ body.1
  distinct : s'.seenKeys.Nodup
  keys : List.Forall₂ (fun record key => rawNewsRecordKey w record = .ok key) s'.records s'.seenKeys
  kept : ∀ size ∈ s.total, ∃ t ∈ s'.total, t.count = size.count
  announced : ∀ size ∈ body.2, ∃ t ∈ s'.total, t.count = size.count

/-- A page ends the loop when what was announced is there, or moves the offset past its records,
of which there are some. -/
theorem visitHkmaPage_ok {page : HkmaPage} {s : Collected} {turn : Turn Collected}
    (h : visitHkmaPage w page s = .ok turn) (hdistinct : s.seenKeys.Nodup)
    (hkeys : List.Forall₂ (fun record key => rawNewsRecordKey w record = .ok key) s.records
      s.seenKeys) :
    ∃ body s', hkmaRecords page.payload = .ok body ∧ Received w body s s' ∧
      (turn = .done s' ∧ (∀ t ∈ s'.total, t.count ≤ s'.records.length) ∨
        turn = .more s' ∧ body.1 ≠ [] ∧ s'.offset = s.offset + body.1.length) := by
  rw [visitHkmaPage, Raising.bind_ok] at h
  rcases h with ⟨⟨pageRecords, pageTotal⟩, hbody, h⟩
  rw [Raising.bind_ok] at h
  rcases h with ⟨total, htotal, h⟩
  rw [Raising.bind_ok] at h
  rcases h with ⟨s', hcollect, h⟩
  -- the records of the page are collected, unless one of their keys was seen
  rcases collectRecords_ok hcollect hdistinct hkeys with
    ⟨hrecords, hdistinct', hkeys', hoffset, htotal'⟩
  rcases mergeTotal_ok htotal with ⟨hkept, hannounced⟩
  have hreceived : Received w (pageRecords, pageTotal) s s' :=
    { records := hrecords
      distinct := hdistinct'
      keys := hkeys'
      kept := by rw [htotal']; exact hkept
      announced := by rw [htotal']; exact hannounced }
  by_cases hempty : pageRecords = []
  · -- an empty page ends the loop unless a size was announced that is not zero
    simp only [if_pos hempty] at h
    by_cases hmissing : total.any (·.count ≠ 0) = true
    · rw [if_pos hmissing] at h
      cases h
    · rw [if_neg hmissing] at h
      cases h
      refine ⟨_, s', hbody, hreceived, Or.inl ⟨rfl, ?_⟩⟩
      intro t ht
      rw [htotal'] at ht
      have hzero : t.count = 0 := by
        have hsome : total = some t := ht
        simpa [hsome] using hmissing
      omega
  simp only [if_neg hempty] at h
  -- enough is there when the size that was announced is reached
  by_cases hreached : total.any (·.count ≤ s'.records.length) = true
  · rw [if_pos hreached] at h
    cases h
    refine ⟨_, s', hbody, hreceived, Or.inl ⟨rfl, ?_⟩⟩
    intro t ht
    rw [htotal'] at ht
    have hsome : total = some t := ht
    simpa [hsome] using hreached
  rw [if_neg hreached] at h
  by_cases hshort : pageRecords.length < hkmaPageSize ∧ total.isNone = true
  · -- a short page ends the loop when no size was announced
    rw [if_pos hshort] at h
    cases h
    refine ⟨_, s', hbody, hreceived, Or.inl ⟨rfl, ?_⟩⟩
    intro t ht
    rw [htotal'] at ht
    have hsome : total = some t := ht
    simp [hsome] at hshort
  · rw [if_neg hshort] at h
    cases h
    exact ⟨_, { s' with offset := s.offset + pageRecords.length }, hbody,
      { hreceived with }, Or.inr ⟨rfl, hempty, rfl⟩⟩

/-- Going on moves the offset up. -/
theorem visitHkmaPage_advances {page : HkmaPage} {s s' : Collected}
    (h : visitHkmaPage w page s = .ok (.more s')) : s.offset < s'.offset := by
  rw [visitHkmaPage, Raising.bind_ok] at h
  rcases h with ⟨⟨pageRecords, pageTotal⟩, -, h⟩
  rw [Raising.bind_ok] at h
  rcases h with ⟨total, -, h⟩
  rw [Raising.bind_ok] at h
  rcases h with ⟨collected, -, h⟩
  -- an empty page never goes on
  by_cases hempty : pageRecords = []
  · simp only [if_pos hempty] at h
    split at h <;> cases h
  simp only [if_neg hempty] at h
  have hsome : 0 < pageRecords.length := List.length_pos_iff.mpr hempty
  split at h
  · cases h
  split at h
  · cases h
  · cases h
    show s.offset < s.offset + pageRecords.length
    omega

/-- What is known of the exchanges so far and the variables of the loop. -/
structure HkmaAccounts (w : Writing) (respond : ℕ → ℕ → Except SnapshotError HkmaPage)
    (log : List Exchange) (s : Collected) : Prop where
  read : ∀ exchange ∈ log, exchange.Read
  replies : ∀ i (hi : i < log.length), log[i].reply = respond i log[i].offset
  records : s.records = log.flatMap (·.body.1)
  offsets : ∀ i (hi : i < log.length), log[i].offset = ((log.take i).flatMap (·.body.1)).length
  distinct : s.seenKeys.Nodup
  keys : List.Forall₂ (fun record key => rawNewsRecordKey w record = .ok key) s.records s.seenKeys
  announced : ∀ exchange ∈ log, ∀ size ∈ exchange.body.2, ∃ t ∈ s.total, t.count = size.count

/-- A request at the number of records so far, with its reply, goes on the accounts. -/
theorem HkmaAccounts.received {respond : ℕ → ℕ → Except SnapshotError HkmaPage}
    {log : List Exchange} {s s' : Collected} {page : HkmaPage} {body : List Json × Option Datasize}
    (h : HkmaAccounts w respond log s) (hoffset : s.offset = s.records.length)
    (hreply : respond log.length s.offset = .ok page) (hbody : hkmaRecords page.payload = .ok body)
    (hreceived : Received w body s s') :
    HkmaAccounts w respond (log ++ [⟨s.offset, respond log.length s.offset⟩]) s' := by
  have hread : (⟨s.offset, respond log.length s.offset⟩ : Exchange).body = body := by
    simp only [Exchange.body, hreply, Raising.ok_bind, hbody]
  refine
    { read := ?_
      replies := ?_
      records := ?_
      offsets := ?_
      distinct := hreceived.distinct
      keys := hreceived.keys
      announced := ?_ }
  -- what the log has grown by is the one exchange
  · intro exchange hmem
    rcases List.mem_append.mp hmem with hmem | hmem
    · exact h.read exchange hmem
    · rw [List.mem_singleton.mp hmem]
      exact ⟨page, hreply, by rw [hread]; exact hbody⟩
  -- each index is one of before, or the new one
  · intro i hi
    by_cases hold : i < log.length
    · simp only [List.getElem_append_left hold]
      exact h.replies i hold
    · have hlast : i = log.length := by
        simp only [List.length_append, List.length_singleton] at hi
        omega
      subst hlast
      simp
  · rw [List.flatMap_append, ← h.records, hreceived.records]
    simp [hread]
  · intro i hi
    by_cases hold : i < log.length
    · rw [List.getElem_append_left hold, List.take_append_of_le_length (le_of_lt hold)]
      exact h.offsets i hold
    · have hlast : i = log.length := by
        simp only [List.length_append, List.length_singleton] at hi
        omega
      subst hlast
      simp [hoffset, h.records]
  -- a size that a page announced stays within what is announced now
  · intro exchange hmem size hsize
    rcases List.mem_append.mp hmem with hmem | hmem
    · rcases h.announced exchange hmem size hsize with ⟨t, ht, hcount⟩
      rcases hreceived.kept t ht with ⟨t', ht', hcount'⟩
      exact ⟨t', ht', hcount'.trans hcount⟩
    · rw [List.mem_singleton.mp hmem, hread] at hsize
      exact hreceived.announced size hsize

/-! ## The whole loop -/

variable (w)

/-- The loop of `_fetch_snapshot` against a server that may answer every request anew. -/
def hkmaWalk (respond : ℕ → ℕ → Except SnapshotError HkmaPage) :
    BoundedWalk Collected Exchange SnapshotError where
  offset := (·.offset)
  limit := 100000
  exceeded := .cursor "HKMA snapshot exceeds the bounded pagination limit" "CURSOR_LIMIT"
  visit asked s :=
    (⟨s.offset, respond asked s.offset⟩,
      respond asked s.offset >>= fun page => visitHkmaPage w page s)
  advances := by
    intro asked s s' h
    rcases Raising.bind_ok.mp h with ⟨page, -, hvisit⟩
    exact visitHkmaPage_advances hvisit

/-- What `_fetch_snapshot` returns. -/
structure HkmaSnapshot where
  records : List Json
  sourceUrl : String
  fetchedAt : Instant
  sourceWatermark : String

/-- `_fetch_snapshot`, with the requests it made. -/
def fetchSnapshot (respond : ℕ → ℕ → Except SnapshotError HkmaPage) (now : Instant) :
    List Exchange × Except SnapshotError HkmaSnapshot :=
  let walked := (hkmaWalk w respond).run 0 ⟨[], [], 0, none, "", now⟩
  (walked.1, walked.2.map fun s =>
    { records := s.records
      sourceUrl := s.sourceUrl
      fetchedAt := s.fetchedAt
      sourceWatermark := canonicalJsonChecksum w
        (.obj [("datasize", .ofOption Datasize.value s.total), ("records", .arr s.records)]) })

variable {w}

theorem hkmaWalk_visit {respond : ℕ → ℕ → Except SnapshotError HkmaPage} {asked : ℕ}
    {s : Collected} {page : HkmaPage} (h : respond asked s.offset = .ok page) :
    ((hkmaWalk w respond).visit asked s).2 = visitHkmaPage w page s := by
  show (respond asked s.offset >>= fun page => visitHkmaPage w page s) = visitHkmaPage w page s
  rw [h, Raising.ok_bind]

/-- A walk that returns has accounted for every exchange, of which there is one at least, and has as
many records as any page announced. -/
theorem hkmaWalk_accounts {respond : ℕ → ℕ → Except SnapshotError HkmaPage} {now : Instant}
    {s : Collected} (h : ((hkmaWalk w respond).run 0 ⟨[], [], 0, none, "", now⟩).2 = .ok s) :
    HkmaAccounts w respond ((hkmaWalk w respond).run 0 ⟨[], [], 0, none, "", now⟩).1 s ∧
      ((hkmaWalk w respond).run 0 ⟨[], [], 0, none, "", now⟩).1 ≠ [] ∧
      ∀ t ∈ s.total, t.count ≤ s.records.length := by
  refine BoundedWalk.run_rule
    (fun log s => HkmaAccounts w respond log s ∧ s.offset = s.records.length)
    (fun log s => HkmaAccounts w respond log s ∧ log ≠ [] ∧
      ∀ t ∈ s.total, t.count ≤ s.records.length)
    ?_ ?_ [] _ s ?_ h
  · rintro log s s' ⟨haccounts, hoffset⟩ hturn
    rcases Raising.bind_ok.mp hturn with ⟨page, hreply, hvisit⟩
    rcases visitHkmaPage_ok hvisit haccounts.distinct haccounts.keys with
      ⟨body, collected, hbody, hreceived, ⟨hdone, -⟩ | ⟨hmore, -, hnext⟩⟩
    · cases hdone
    · cases hmore
      refine ⟨haccounts.received hoffset hreply hbody hreceived, ?_⟩
      rw [hnext, hreceived.records, List.length_append, hoffset]
  · rintro log s s' ⟨haccounts, hoffset⟩ hturn
    rcases Raising.bind_ok.mp hturn with ⟨page, hreply, hvisit⟩
    rcases visitHkmaPage_ok hvisit haccounts.distinct haccounts.keys with
      ⟨body, collected, hbody, hreceived, ⟨hdone, hreached⟩ | ⟨hmore, -, -⟩⟩
    · cases hdone
      -- only a page ends the loop, so the last exchange is there
      exact ⟨haccounts.received hoffset hreply hbody hreceived,
        List.append_ne_nil_of_right_ne_nil log (List.cons_ne_nil _ []), hreached⟩
    · cases hmore
  · -- before the first request there is nothing to account for
    refine ⟨?_, rfl⟩
    exact
      { read := fun exchange hmem => absurd hmem List.not_mem_nil
        replies := fun i hi => absurd hi (Nat.not_lt_zero i)
        records := rfl
        offsets := fun i hi => absurd hi (Nat.not_lt_zero i)
        distinct := List.nodup_nil
        keys := List.Forall₂.nil
        announced := fun exchange hmem => absurd hmem List.not_mem_nil }

/-- The snapshot ends after at most 100001 requests, whatever is answered. When it returns, a page
was read, it has the records of all pages in their order and with distinct keys, every request was
made at the number of records received before it, and no page announced more. -/
theorem fetchSnapshot_lossless (w : Writing) (respond : ℕ → ℕ → Except SnapshotError HkmaPage)
    (now : Instant) :
    (fetchSnapshot w respond now).1.length ≤ 100001 ∧
      ∀ snapshot, (fetchSnapshot w respond now).2 = .ok snapshot →
        let log := (fetchSnapshot w respond now).1
        log ≠ [] ∧ (∀ exchange ∈ log, exchange.Read) ∧
          (∀ i (hi : i < log.length), log[i].reply = respond i log[i].offset ∧
            log[i].offset = ((log.take i).flatMap (·.body.1)).length) ∧
          snapshot.records = log.flatMap (·.body.1) ∧
          (∃ keys, List.Forall₂ (fun record key => rawNewsRecordKey w record = .ok key)
            snapshot.records keys ∧ keys.Nodup) ∧
          ∀ exchange ∈ log, ∀ size ∈ exchange.body.2, size.count ≤ snapshot.records.length := by
  constructor
  · exact (hkmaWalk w respond).run_length_le 0 ⟨[], [], 0, none, "", now⟩
  -- without a snapshot the walk has failed
  · intro snapshot h
    rcases hwalk : ((hkmaWalk w respond).run 0 ⟨[], [], 0, none, "", now⟩).2 with error | s
    · simp only [fetchSnapshot, hwalk] at h
      cases h
    simp only [fetchSnapshot, hwalk] at h
    cases h
    rcases hkmaWalk_accounts hwalk with ⟨haccounts, hasked, hreached⟩
    refine ⟨hasked, haccounts.read, ?_, haccounts.records, ⟨s.seenKeys, haccounts.keys,
      haccounts.distinct⟩, ?_⟩
    · intro i hi
      exact ⟨haccounts.replies i hi, haccounts.offsets i hi⟩
    · intro exchange hmem size hsize
      rcases haccounts.announced exchange hmem size hsize with ⟨t, ht, hcount⟩
      rw [← hcount]
      exact hreached t ht

/-! ## Two pages

A server with two releases, which gives one a page: the loop asks twice and returns. -/

def tenderRelease : String :=
  "https://www.hkma.gov.hk/eng/news-and-media/press-releases/2026/07/20260728-4/"

def tenderTitle : String := "Exchange Fund bills tender results"

/-- A record of the day before `sampleHkmaRecord`. -/
def tenderRecord : Json :=
  .obj [("title", .str tenderTitle), ("link", .str tenderRelease), ("date", .str "2026-07-28")]

def statisticsKey : String := "7d50cc6e427e5ffb9c4a77bad014d4310d2f6ead4403fe28d768526ad0caecf1"

def tenderKey : String := "b1fe7a8235f83b95362293b2766b10b96fed8091022f05831c17fffcd38e3c63"

/-- The text of the second record has its own digest. -/
def releasesSha256 (text : String) : String :=
  if text = Report.canonicalJson sampleHkmaRecord then statisticsKey
  else if text = Report.canonicalJson tenderRecord then tenderKey
  else emptyTextDigest

theorem releasesSha256_isSha256 (text : String) : Report.IsSha256 (releasesSha256 text) := by
  have hstatistics : Report.IsSha256 statisticsKey := by decide +kernel
  have htender : Report.IsSha256 tenderKey := by decide +kernel
  have hempty : Report.IsSha256 emptyTextDigest := by decide +kernel
  unfold releasesSha256
  split_ifs
  · exact hstatistics
  · exact htender
  · exact hempty

def releasesWriting : Writing where
  decimal := sampleTextWriting.decimal
  dumpsParts := sampleTextWriting.dumpsParts
  dumpsPayload := Report.canonicalJson
  sha256Hex := releasesSha256
  hexdigest := releasesSha256_isSha256

theorem releases_checksum (payload : Json) :
    canonicalJsonChecksum releasesWriting payload =
      releasesSha256 (Report.canonicalJson payload) := rfl

theorem statistics_key :
    rawNewsRecordKey releasesWriting sampleHkmaRecord = .ok statisticsKey := by
  have htitle : requiredText sampleHkmaRecord "title" "result.records.title" =
      .ok sampleHkmaTitle := by decide +kernel
  have hlink : requiredText sampleHkmaRecord "link" "result.records.link" =
      .ok sampleRelease := by decide +kernel
  have hdate : requiredText sampleHkmaRecord "date" "result.records.date" =
      .ok "2026-07-29" := by decide +kernel
  rw [rawNewsRecordKey_ok htitle hlink hdate, releases_checksum, ← sampleHkmaRecord,
    releasesSha256, if_pos rfl]

/-- The second release has a key of its own. -/
theorem tender_key : rawNewsRecordKey releasesWriting tenderRecord = .ok tenderKey := by
  have htitle : requiredText tenderRecord "title" "result.records.title" =
      .ok tenderTitle := by decide +kernel
  have hlink : requiredText tenderRecord "link" "result.records.link" =
      .ok tenderRelease := by decide +kernel
  have hdate : requiredText tenderRecord "date" "result.records.date" =
      .ok "2026-07-28" := by decide +kernel
  -- the two texts have different dates
  have hother : Report.canonicalJson tenderRecord ≠ Report.canonicalJson sampleHkmaRecord := by
    decide +kernel
  rw [rawNewsRecordKey_ok htitle hlink hdate, releases_checksum, ← tenderRecord,
    releasesSha256, if_neg hother, if_pos rfl]

/-- A page of one record, of two announced. -/
def onePage (record : Json) : HkmaPage where
  payload := .obj [("header", .obj [("success", .bool true), ("err_code", .str "0000")]),
    ("result", .obj [("datasize", .int 2), ("records", .arr [record])])]
  url := "https://api.hkma.gov.hk/public/press-releases?lang=en&pagesize=100"
  fetchedAt := 20663 * dayMicroseconds

/-- The server: the first release at 0, the other past it. -/
def twoReleases (_ offset : ℕ) : Except SnapshotError HkmaPage :=
  .ok (onePage (if offset = 0 then sampleHkmaRecord else tenderRecord))

/-- The variables after the first page. -/
def afterStatistics : Collected where
  records := [sampleHkmaRecord]
  seenKeys := [statisticsKey]
  offset := 1
  total := some ⟨.int 2, 2⟩
  sourceUrl := (onePage sampleHkmaRecord).url
  fetchedAt := 20663 * dayMicroseconds

/-- The variables after both. -/
def afterTender : Collected where
  records := [sampleHkmaRecord, tenderRecord]
  seenKeys := [statisticsKey, tenderKey]
  offset := 1
  total := some ⟨.int 2, 2⟩
  sourceUrl := (onePage sampleHkmaRecord).url
  fetchedAt := 20663 * dayMicroseconds

theorem statisticsPage_records : hkmaRecords (onePage sampleHkmaRecord).payload =
    .ok ([sampleHkmaRecord], some ⟨.int 2, 2⟩) := rfl

theorem tenderPage_records : hkmaRecords (onePage tenderRecord).payload =
    .ok ([tenderRecord], some ⟨.int 2, 2⟩) := rfl

theorem statisticsPage_visited (now : Instant) :
    visitHkmaPage releasesWriting (onePage sampleHkmaRecord) ⟨[], [], 0, none, "", now⟩ =
      .ok (.more afterStatistics) := by
  rw [visitHkmaPage, statisticsPage_records]
  simp only [Raising.ok_bind, mergeTotal, collectRecords, statistics_key]
  rfl

theorem tenderPage_visited :
    visitHkmaPage releasesWriting (onePage tenderRecord) afterStatistics =
      .ok (.done afterTender) := by
  rw [visitHkmaPage, tenderPage_records]
  simp only [Raising.ok_bind, afterStatistics, mergeTotal, collectRecords, tender_key]
  rfl

/-- The loop asks at 0 and at 1. -/
theorem twoReleases_walked (now : Instant) :
    (hkmaWalk releasesWriting twoReleases).run 0 ⟨[], [], 0, none, "", now⟩ =
      ([⟨0, .ok (onePage sampleHkmaRecord)⟩, ⟨1, .ok (onePage tenderRecord)⟩],
        .ok afterTender) := by
  have hfirst : ((hkmaWalk releasesWriting twoReleases).visit 0
      ⟨[], [], 0, none, "", now⟩).2 = .ok (.more afterStatistics) := by
    rw [hkmaWalk_visit (rfl : twoReleases 0 0 = .ok (onePage sampleHkmaRecord))]
    exact statisticsPage_visited now
  have hsecond : ((hkmaWalk releasesWriting twoReleases).visit 1 afterStatistics).2 =
      .ok (.done afterTender) := by
    rw [hkmaWalk_visit (rfl : twoReleases 1 1 = .ok (onePage tenderRecord))]
    exact tenderPage_visited
  have hlimit : (hkmaWalk releasesWriting twoReleases).offset afterStatistics ≤
      (hkmaWalk releasesWriting twoReleases).limit := by
    simp [hkmaWalk, afterStatistics]
  rw [BoundedWalk.run_more (by simp [hkmaWalk]) hfirst, BoundedWalk.run_done hlimit hsecond]
  rfl

/-- Both releases are in the snapshot, each once. -/
theorem fetchSnapshot_lossless_twoReleases :
    ∃ log snapshot, fetchSnapshot releasesWriting twoReleases 0 = (log, .ok snapshot) ∧
      log.map (·.offset) = [0, 1] ∧ snapshot.records = [sampleHkmaRecord, tenderRecord] ∧
      ∃ keys, List.Forall₂ (fun record key => rawNewsRecordKey releasesWriting record = .ok key)
        snapshot.records keys ∧ keys.Nodup := by
  have hwalk := twoReleases_walked 0
  rcases hsnapshot : (fetchSnapshot releasesWriting twoReleases 0).2 with error | snapshot
  · simp only [fetchSnapshot, hwalk] at hsnapshot
    cases hsnapshot
  have hlossless := (fetchSnapshot_lossless releasesWriting twoReleases 0).2 snapshot hsnapshot
  refine ⟨(fetchSnapshot releasesWriting twoReleases 0).1, snapshot, ?_, ?_, ?_,
    hlossless.2.2.2.2.1⟩
  · rw [← hsnapshot]
  · simp only [fetchSnapshot, hwalk]
    rfl
  · rw [hlossless.2.2.2.1]
    simp only [fetchSnapshot, hwalk]
    rfl

end MacroPlatform.Providers
