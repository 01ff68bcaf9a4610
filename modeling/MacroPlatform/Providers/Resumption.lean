import MacroPlatform.Providers.FetchBars

/-! # A walk over an unchanged source resumes

As long as the source answers the same, it does not matter when it is asked: the bars differ in
their times only, the cursor of a page is accepted for the next one, and that page is the next
slice of the same bars.

* `decodeCursor_cursorAt`: the cursor of an offset is read back;
* `fetchBars_outcome`: on an unchanged source a cursor serves the page at its offset.
-/

namespace MacroPlatform.Providers.TwelveData

open Paging
open Raising (bind_ok ok_bind)
open Report (Writing)

variable (w : Writing) (r : Reading) (web : Web) (provider : TwelveDataDailyBarsProvider)

/-- What the source holds for a symbol and two dates. -/
abbrev Snapshot := String → Day → Day → Payload

/-- The source answers with the snapshot, whenever it is asked. -/
def Upstream.Serves (upstream : Upstream) (snapshot : Snapshot) : Prop :=
  ∀ symbol startDate endDate, ∃ fetchedAt,
    upstream symbol startDate endDate = .ok (snapshot symbol startDate endDate, fetchedAt)

/-- The answers of a snapshot, at one time. -/
def Snapshot.upstream (snapshot : Snapshot) : Upstream :=
  fun symbol startDate endDate => .ok (snapshot symbol startDate endDate, 0)

/-- The bars of a query over a snapshot, and the warnings of its rows. -/
def snapshotRead (snapshot : Snapshot) (query : BarQuery) :
    Except FetchError (List (ValidBar r web) × List RowWarning) :=
  queryDates provider query >>= fun (startDate, endDate) =>
  if endDate < startDate then .ok ([], [])
  else (readInstruments w r web provider snapshot.upstream query startDate endDate).map
    fun read => (allItems read, allWarnings read)

/-- The cursor of the page at an offset. -/
def cursorAt {r : Reading} {web : Web} (codec : CursorCodec) (fingerprint : String)
    (items : List (ValidBar r web)) (offset : ℕ) : Option Text :=
  if offset = 0 then none
  else items[offset - 1]?.map fun item =>
    codec.encode ⟨fingerprint, offset, item.val.barId, watermark w items⟩

variable {w} {r} {web} {provider}

/-! ## Times do not matter -/

/-- The same bars, apart from their times, and the same warnings. -/
def SameRead (read read' : InstrumentBars r web) : Prop :=
  read.1.map (ValidBar.readAt 0) = read'.1 ∧ read.2.1 = read'.2.1

/-- A server that serves the snapshot gives an instrument the snapshot's bars. -/
theorem readInstrument_serves {upstream : Upstream} {snapshot : Snapshot}
    (hserves : upstream.Serves snapshot) {query : BarQuery} {startDate endDate : Day}
    {instrument : BarInstrument} {read' : InstrumentBars r web}
    (h : readInstrument w r web provider snapshot.upstream query startDate endDate instrument =
      .ok read') :
    ∃ read, readInstrument w r web provider upstream query startDate endDate instrument =
      .ok read ∧ SameRead read read' := by
  obtain ⟨fetchedAt, hanswer⟩ := hserves instrument.sourceSymbol startDate endDate
  have hsame : parsePayload provider.newYork w r web instrument query 0
      (snapshot instrument.sourceSymbol startDate endDate) =
        (parsePayload provider.newYork w r web instrument query fetchedAt
          (snapshot instrument.sourceSymbol startDate endDate)).map
            fun parsed => (parsed.1.map (ValidBar.readAt 0), parsed.2) :=
    parsePayload_readAt fetchedAt 0 instrument query _
  simp only [readInstrument, Snapshot.upstream, ok_bind] at h
  simp only [readInstrument, hanswer, ok_bind]
  cases hparsed : parsePayload provider.newYork w r web instrument query fetchedAt
      (snapshot instrument.sourceSymbol startDate endDate) with
  | error error =>
    rw [hsame, hparsed] at h
    cases h
  | ok parsed =>
    rw [hsame, hparsed] at h
    cases h
    exact ⟨_, rfl, rfl, rfl⟩

theorem readInstruments_serves {upstream : Upstream} {snapshot : Snapshot}
    (hserves : upstream.Serves snapshot) {query : BarQuery} {startDate endDate : Day}
    {read' : List (InstrumentBars r web)}
    (h : readInstruments w r web provider snapshot.upstream query startDate endDate = .ok read') :
    ∃ read, readInstruments w r web provider upstream query startDate endDate = .ok read ∧
      List.Forall₂ SameRead read read' := by
  obtain ⟨instruments, hrequested, hread⟩ := bind_ok.mp h
  obtain ⟨read, hread', hall⟩ := Raising.mapM_follows
    (fun instrument _ _ hone => readInstrument_serves hserves hone) hread
  exact ⟨read, bind_ok.mpr ⟨instruments, hrequested, hread'⟩, hall⟩

/-- The order of bars does not look at their times. -/
theorem allItems_same {read read' : List (InstrumentBars r web)}
    (h : List.Forall₂ SameRead read read') :
    (allItems read).map (ValidBar.readAt 0) = allItems read' := by
  have hflat : (read.flatMap fun bars => bars.1).map (ValidBar.readAt 0) =
      read'.flatMap fun bars => bars.1 := by
    induction h with
    | nil => rfl
    | cons hhead _ ih =>
      rw [List.flatMap_cons, List.flatMap_cons, List.map_append, ih, hhead.1]
  rw [allItems, allItems, ← hflat]
  exact List.map_insertionSort NotAfter NotAfter (ValidBar.readAt 0) _ fun a _ b _ => Iff.rfl

theorem allWarnings_same {read read' : List (InstrumentBars r web)}
    (h : List.Forall₂ SameRead read read') : allWarnings read = allWarnings read' := by
  unfold allWarnings
  induction h with
  | nil => rfl
  | cons hhead _ ih => rw [List.flatMap_cons, List.flatMap_cons, ih, hhead.2]

theorem watermark_same {items items' : List (ValidBar r web)}
    (h : items.map (ValidBar.readAt 0) = items') : watermark w items = watermark w items' := by
  rw [watermark, watermark, ← h, List.map_map]
  rfl

theorem ids_same {items items' : List (ValidBar r web)}
    (h : items.map (ValidBar.readAt 0) = items') :
    items.map (fun item => item.val.barId) = items'.map fun item => item.val.barId := by
  rw [← h, List.map_map]
  rfl

theorem cursorAt_same {codec : CursorCodec} {fingerprint : String} {offset : ℕ}
    {items items' : List (ValidBar r web)} (h : items.map (ValidBar.readAt 0) = items') :
    cursorAt w codec fingerprint items offset = cursorAt w codec fingerprint items' offset := by
  rw [cursorAt, cursorAt, watermark_same h, ← h, List.getElem?_map, Option.map_map]
  rfl

/-! ## The page at an offset -/

/-- The page at an offset, whenever it was fetched. -/
structure PageMatches (w : Writing) (codec : CursorCodec) (fingerprint : String)
    (limit offset : ℕ) (items : List (ValidBar r web)) (warnings : List RowWarning)
    (page : ProviderPage r web) : Prop where
  items_eq : page.items.map (ValidBar.readAt 0) = pageAt limit offset items
  warnings_eq : page.warnings = warnings
  next_eq : page.nextCursor =
    if offset + limit < items.length then cursorAt w codec fingerprint items (offset + limit)
    else none
  next_le : offset + limit < items.length → offset + limit ≤ maxCursorOffset

/-- What can come of a page that is asked for at an offset: the page, or an error that is not one
of the cursor. -/
def PageOutcome (w : Writing) (codec : CursorCodec) (fingerprint : String) (limit offset : ℕ)
    (items : List (ValidBar r web)) (warnings : List RowWarning) :
    Except FetchError (ProviderPage r web) → Prop
  | .ok page => PageMatches w codec fingerprint limit offset items warnings page
  | .error e => e.isCursor = false

/-- The cursor of an offset is read back. -/
theorem decodeCursor_cursorAt {codec : CursorCodec} {fingerprint : String} {offset : ℕ}
    {items : List (ValidBar r web)} (hoffset : offset ≤ items.length)
    (hmax : offset ≤ maxCursorOffset) :
    ∃ resumed, decodeCursor codec (cursorAt w codec fingerprint items offset) fingerprint =
        .ok resumed ∧ resumed.offset = offset ∧
      (∀ expected ∈ resumed.expectedWatermark, expected = watermark w items) ∧
      (offset ≠ 0 → ∃ last, items[offset - 1]? = some last ∧
        resumed.previousId = some last.val.barId) := by
  -- the first page needs no cursor, a later one has a bar before it
  by_cases hfirst : offset = 0
  · refine ⟨{}, ?_, hfirst.symm, nofun, fun hne => absurd hfirst hne⟩
    rw [cursorAt, if_pos hfirst]
    rfl
  · have hlast : offset - 1 < items.length := by omega
    refine ⟨⟨offset, some items[offset - 1].val.barId, some (watermark w items)⟩, ?_, rfl, ?_, ?_⟩
    · rw [cursorAt, if_neg hfirst, List.getElem?_eq_getElem hlast]
      simp only [Option.map_some, decodeCursor, codec.decode_encode]
      rw [if_neg (by simpa using hmax)]
    · rintro expected ⟨⟩
      rfl
    · intro _
      exact ⟨items[offset - 1], List.getElem?_eq_getElem hlast, rfl⟩

/-- The cursor after the page at an offset: none is needed, or its offset is too large, or it is the
one of the next page. -/
theorem nextCursor_pageAt {codec : CursorCodec} {fingerprint : String} {limit offset : ℕ}
    {items : List (ValidBar r web)} (hlimit : 0 < limit) (hoffset : offset ≤ items.length) :
    nextCursor codec w fingerprint offset items (pageAt limit offset items) =
      if offset + limit < items.length then
        if maxCursorOffset < offset + limit then
          .error (.reading (.value "Twelve Data cursor offset is outside the allowed range"))
        else .ok (cursorAt w codec fingerprint items (offset + limit))
      else .ok none := by
  unfold nextCursor
  -- a next page is needed when the bars go on
  by_cases hmore : offset + limit < items.length
  · have hlast : items[offset + limit - 1]? = some items[offset + limit - 1] :=
      List.getElem?_eq_getElem (by omega)
    rw [getLast?_pageAt hlimit hmore, hlast, if_pos hmore]
    simp only [length_pageAt_of_more hmore]
    rw [if_pos hmore, encodeCursor]
    -- its offset has to stay within the limit of the cursors
    by_cases hmax : maxCursorOffset < offset + limit
    · rw [if_pos hmax, if_pos hmax]
      rfl
    · rw [if_neg hmax, if_neg hmax, cursorAt, if_neg (by omega), hlast]
      rfl
  · have hlast : ¬ offset + (pageAt limit offset items).length < items.length := by
      rwa [more_iff hoffset]
    rw [if_neg hmore]
    cases (pageAt limit offset items).getLast? with
    | none => rfl
    | some last => exact if_neg hlast

/-- A page of the same bars, from where the cursor says: every check of it is passed. -/
theorem pageOf_checked {codec : CursorCodec} {fingerprint : String} {limit offset : ℕ}
    {items items' : List (ValidBar r web)} {warnings : List RowWarning} {resumed : Resumed}
    {fetchedAt : Instant} (hsame : items.map (ValidBar.readAt 0) = items')
    (hids : (items'.map fun item => item.val.barId).Nodup) (hoffset : offset ≤ items'.length)
    (hresumed : resumed.offset = offset)
    (hwatermark : ∀ expected ∈ resumed.expectedWatermark, expected = watermark w items')
    (hprevious : offset ≠ 0 → ∃ last, items'[offset - 1]? = some last ∧
      resumed.previousId = some last.val.barId) :
    pageOf codec w fingerprint limit resumed items warnings fetchedAt =
      (nextCursor codec w fingerprint offset items (pageAt limit offset items)).map fun next =>
        { items := pageAt limit offset items
          nextCursor := next
          sourceWatermark := some (.ofString (watermark w items))
          fetchedAt := fetchedAt
          complete := decide (¬ offset + (pageAt limit offset items).length < items.length)
          warnings := warnings } := by
  have hlength : items.length = items'.length := by rw [← hsame, List.length_map]
  have hunique : ¬ ¬ (items.map fun item => item.val.barId).Nodup := by
    rw [ids_same hsame]
    exact not_not.mpr hids
  have hexpected : ¬ resumed.expectedWatermark.any (· ≠ watermark w items) = true := by
    rw [watermark_same hsame]
    cases hfound : resumed.expectedWatermark with
    | none => simp
    | some expected => simp [hwatermark expected hfound]
  have hbefore : ¬ (offset ≠ 0 ∧ (resumed.previousId = none ∨
      (items[offset - 1]?.map fun item => item.val.barId) ≠ resumed.previousId)) := by
    rintro ⟨hne, hwrong⟩
    obtain ⟨last, hlast, hid⟩ := hprevious hne
    have hitem : (items[offset - 1]?.map fun item => item.val.barId) = some last.val.barId := by
      rw [← hsame, List.getElem?_map] at hlast
      obtain ⟨item, hget, rfl⟩ := Option.map_eq_some_iff.mp hlast
      rw [hget]
      rfl
    rw [hid, hitem] at hwrong
    simp at hwrong
  unfold pageOf
  simp only [hresumed]
  rw [if_neg hunique, if_neg hexpected, if_neg (by omega), if_neg hbefore]

/-- What can come of such a page; it is served when the offset after it is not too large. -/
theorem pageOf_outcome {codec : CursorCodec} {fingerprint : String} {limit offset : ℕ}
    {items items' : List (ValidBar r web)} {warnings : List RowWarning} {resumed : Resumed}
    {fetchedAt : Instant} (hlimit : 0 < limit) (hsame : items.map (ValidBar.readAt 0) = items')
    (hids : (items'.map fun item => item.val.barId).Nodup) (hoffset : offset ≤ items'.length)
    (hresumed : resumed.offset = offset)
    (hwatermark : ∀ expected ∈ resumed.expectedWatermark, expected = watermark w items')
    (hprevious : offset ≠ 0 → ∃ last, items'[offset - 1]? = some last ∧
      resumed.previousId = some last.val.barId) :
    PageOutcome w codec fingerprint limit offset items' warnings
      (pageOf codec w fingerprint limit resumed items warnings fetchedAt) ∧
    ((offset + limit < items'.length → offset + limit ≤ maxCursorOffset) →
      ∃ page, pageOf codec w fingerprint limit resumed items warnings fetchedAt = .ok page) := by
  have hlength : items.length = items'.length := by rw [← hsame, List.length_map]
  have hitems : (pageAt limit offset items).map (ValidBar.readAt 0) =
      pageAt limit offset items' := by
    rw [map_pageAt, hsame]
  rw [pageOf_checked hsame hids hoffset hresumed hwatermark hprevious,
    nextCursor_pageAt hlimit (by omega), hlength]
  -- the page that is served has the bars of the slice, and the cursor after it
  by_cases hmore : offset + limit < items'.length
  · rw [if_pos hmore]
    by_cases hmax : maxCursorOffset < offset + limit
    · rw [if_pos hmax]
      exact ⟨rfl, fun hsmall => absurd (hsmall hmore) (by omega)⟩
    · rw [if_neg hmax]
      refine ⟨⟨hitems, rfl, ?_, fun _ => not_lt.mp hmax⟩, fun _ => ⟨_, rfl⟩⟩
      rw [if_pos hmore, ← cursorAt_same hsame]
  · rw [if_neg hmore]
    refine ⟨⟨hitems, rfl, ?_, fun hmore' => absurd hmore' hmore⟩, fun _ => ⟨_, rfl⟩⟩
    rw [if_neg hmore]

/-- A page of an unchanged source, for a query that passes the checks. -/
theorem fetchBars_passed {upstream : Upstream} {snapshot : Snapshot}
    (hserves : upstream.Serves snapshot) {query : BarQuery} {fetchedAt contextAsOf : Instant}
    {offset : ℕ} {items : List (ValidBar r web)} {warnings : List RowWarning}
    (hlimit : 0 < query.limit)
    (hread : snapshotRead w r web provider snapshot query = .ok (items, warnings))
    (hids : (items.map fun item => item.val.barId).Nodup) (hoffset : offset ≤ items.length)
    (hmax : offset ≤ maxCursorOffset) (hpassed : checkQuery provider query fetchedAt = .ok ())
    {startDate endDate : Day} (hdates : queryDates provider query = .ok (startDate, endDate))
    (hwindow : ¬ (¬ endDate < startDate ∧ maxQueryWindow < endDate - startDate)) :
    PageOutcome w provider.codec (provider.fingerprint query contextAsOf) query.limit offset items
      warnings (fetchBars w r web provider upstream fetchedAt contextAsOf query
        (cursorAt w provider.codec (provider.fingerprint query contextAsOf) items offset)) ∧
    ((offset + query.limit < items.length → offset + query.limit ≤ maxCursorOffset) →
      ∃ page, fetchBars w r web provider upstream fetchedAt contextAsOf query
        (cursorAt w provider.codec (provider.fingerprint query contextAsOf) items offset) =
          .ok page) := by
  unfold fetchBars
  obtain ⟨dates', hdates', hread⟩ := bind_ok.mp hread
  rw [hdates] at hdates'
  cases hdates'
  rw [hpassed, ok_bind, hdates, ok_bind]
  simp only at hread ⊢
  by_cases hempty : endDate < startDate
  · rw [if_pos hempty] at hread ⊢
    cases hread
    exact ⟨⟨by simp [pageAt], rfl, (if_neg (Nat.not_lt_zero _)).symm,
      fun hmore => absurd hmore (Nat.not_lt_zero _)⟩, fun _ => ⟨_, rfl⟩⟩
  · rw [if_neg hempty] at hread ⊢
    rw [if_neg fun hlong => hwindow ⟨hempty, hlong⟩]
    obtain ⟨read', hread', heq⟩ := RowLoop.map_ok.mp hread
    cases heq
    obtain ⟨read, hinstruments, hall⟩ := readInstruments_serves hserves hread'
    obtain ⟨resumed, hdecoded, hresumed, hwatermark, hprevious⟩ :=
      @decodeCursor_cursorAt w r web provider.codec (provider.fingerprint query contextAsOf)
        offset (allItems read') hoffset hmax
    rw [hdecoded, ok_bind, hinstruments, ok_bind, allWarnings_same hall]
    exact pageOf_outcome hlimit (allItems_same hall) hids hoffset hresumed hwatermark hprevious

/-- On an unchanged source, the page that is asked for with the cursor of an offset is the page
at that offset. -/
theorem fetchBars_outcome {upstream : Upstream} {snapshot : Snapshot}
    (hserves : upstream.Serves snapshot) {query : BarQuery} {fetchedAt contextAsOf : Instant}
    {offset : ℕ} {items : List (ValidBar r web)} {warnings : List RowWarning}
    (hlimit : 0 < query.limit)
    (hread : snapshotRead w r web provider snapshot query = .ok (items, warnings))
    (hids : (items.map fun item => item.val.barId).Nodup) (hoffset : offset ≤ items.length)
    (hmax : offset ≤ maxCursorOffset) :
    PageOutcome w provider.codec (provider.fingerprint query contextAsOf) query.limit offset items
      warnings (fetchBars w r web provider upstream fetchedAt contextAsOf query
        (cursorAt w provider.codec (provider.fingerprint query contextAsOf) items offset)) := by
  -- the checks of the query come first, then the length of the window
  by_cases hpassed : checkQuery provider query fetchedAt = .ok ()
  · obtain ⟨⟨startDate, endDate⟩, hdates, -⟩ := bind_ok.mp hread
    by_cases hlong : ¬ endDate < startDate ∧ maxQueryWindow < endDate - startDate
    · unfold fetchBars
      rw [hpassed, ok_bind, hdates, ok_bind]
      simp only
      rw [if_neg hlong.1, if_pos hlong.2]
      rfl
    · exact (fetchBars_passed hserves hlimit hread hids hoffset hmax hpassed hdates hlong).1
  · unfold fetchBars
    cases hchecked : checkQuery provider query fetchedAt with
    | error e =>
      unfold checkQuery at hchecked
      split_ifs at hchecked <;> cases hchecked <;> rfl
    | ok checked => exact absurd hchecked hpassed

/-- A page is only served when no two bars of the source have one id. -/
theorem nodup_of_fetchBars {upstream : Upstream} {snapshot : Snapshot}
    (hserves : upstream.Serves snapshot) {query : BarQuery} {fetchedAt contextAsOf : Instant}
    {cursor : Option Text} {items : List (ValidBar r web)} {warnings : List RowWarning}
    {page : ProviderPage r web}
    (hread : snapshotRead w r web provider snapshot query = .ok (items, warnings))
    (h : fetchBars w r web provider upstream fetchedAt contextAsOf query cursor = .ok page) :
    (items.map fun item => item.val.barId).Nodup := by
  obtain ⟨_, -, h⟩ := bind_ok.mp h
  obtain ⟨⟨startDate, endDate⟩, hdates, hread⟩ := bind_ok.mp hread
  obtain ⟨dates', hdates', h⟩ := bind_ok.mp h
  rw [hdates] at hdates'
  cases hdates'
  simp only at hread h
  by_cases hempty : endDate < startDate
  · rw [if_pos hempty] at hread
    cases hread
    exact List.nodup_nil
  · rw [if_neg hempty] at hread h
    split_ifs at h with hlong
    obtain ⟨resumed, -, h⟩ := bind_ok.mp h
    obtain ⟨read, hinstruments, h⟩ := bind_ok.mp h
    obtain ⟨read', hread', heq⟩ := RowLoop.map_ok.mp hread
    cases heq
    obtain ⟨same, hsame, hall⟩ := readInstruments_serves hserves hread'
    rw [hinstruments] at hsame
    cases hsame
    by_contra hdouble
    unfold pageOf at h
    rw [ids_same (allItems_same hall), if_pos hdouble] at h
    cases h

end MacroPlatform.Providers.TwelveData
