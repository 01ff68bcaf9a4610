import Mathlib.Data.List.Sort
import MacroPlatform.Lib.Paging
import MacroPlatform.Providers.TwelveData

/-! # Pages of daily bars

Every page of Twelve Data reads the whole window again, sorts its bars and returns a slice of
them. A signed cursor carries the offset, the bar before it and a watermark of all the bars, so
that a source that changed in between is noticed.
-/

namespace MacroPlatform.Providers.TwelveData

open Paging
open Report (Writing)

/-- What a provider raises: what the reading of a response raises, or a `ProviderError` of
another kind. -/
inductive FetchError where
  | reading (error : RowError)
  | provider (message code : String) (retryable : Bool := false)
deriving DecidableEq

/-- `isinstance(error, ProviderCursorError)`. -/
def FetchError.isCursor : FetchError → Bool
  | .reading (.cursor ..) => true
  | _ => false

def cursorError (message code : String) : FetchError := .reading (.cursor message code)

def unsupported (message : String) : FetchError := .provider message "UNSUPPORTED_CAPABILITY"

/-! ## Cursors -/

/-- The body of a cursor. -/
structure CursorBody where
  fingerprint : String
  offset : ℕ
  lastBarId : String
  sourceWatermark : String
deriving DecidableEq

/-- How a body is written as base64 and signed, and read back; the error is the text of the
`ProviderCursorError` of a text that is malformed or not signed with the secret. -/
structure CursorCodec where
  encode : CursorBody → Text
  decode : Text → Except String CursorBody
  decode_encode : ∀ body, decode (encode body) = .ok body

/-- `_MAX_CURSOR_OFFSET`. -/
def maxCursorOffset : ℕ := 100000

variable (codec : CursorCodec)

/-- `_encode_cursor`. -/
def encodeCursor (body : CursorBody) : Except FetchError Text :=
  if maxCursorOffset < body.offset then
    .error (.reading (.value "Twelve Data cursor offset is outside the allowed range"))
  else .ok (codec.encode body)

/-- Where a page starts, and what the cursor says of the page before. -/
structure Resumed where
  offset : ℕ := 0
  previousId : Option String := none
  expectedWatermark : Option String := none

/-- `_decode_cursor`. -/
def decodeCursor (cursor : Option Text) (fingerprint : String) : Except FetchError Resumed :=
  match cursor with
  | none => .ok {}
  | some text =>
      match codec.decode text with
      | .error message => .error (cursorError message "INVALID_CURSOR")
      | .ok body =>
          if body.fingerprint ≠ fingerprint ∨ maxCursorOffset < body.offset then
            .error (cursorError "Twelve Data cursor is not valid" "INVALID_CURSOR")
          else .ok ⟨body.offset, some body.lastBarId, some body.sourceWatermark⟩

/-! ## The bars of a window -/

/-- What `_fetch_payload` returns for a symbol and two dates, and when. -/
abbrev Upstream := String → Day → Day → Except FetchError (Payload × Instant)

variable (w : Writing) (r : Reading) (web : Web)

/-- `TwelveDataDailyBarsProvider`: the fingerprint is of the query without its cursor, and of the
`as_of` of the context. -/
structure TwelveDataDailyBarsProvider where
  instruments : List BarInstrument
  hasApiKey : Bool
  newYork : Zone
  codec : CursorCodec
  fingerprint : BarQuery → Instant → String

variable (provider : TwelveDataDailyBarsProvider)

/-- The bars of one instrument, its warnings, and when they were fetched. -/
abbrev InstrumentBars := List (ValidBar r web) × List RowWarning × Instant

/-- An iteration of the loop over the instruments. -/
def readInstrument (upstream : Upstream) (query : BarQuery) (startDate endDate : Day)
    (instrument : BarInstrument) : Except FetchError (InstrumentBars r web) :=
  upstream instrument.sourceSymbol startDate endDate >>= fun (payload, fetchedAt) =>
  match parsePayload provider.newYork w r web instrument query fetchedAt payload with
  | .error error => .error (.reading error)
  | .ok (bars, warnings) => .ok (bars, warnings, fetchedAt)

/-- `_requested_instruments`. -/
def requestedInstruments (instrumentIds : List String) :
    Except FetchError (List BarInstrument) :=
  instrumentIds.eraseDups.mapM fun instrumentId =>
    match provider.instruments.find? (·.instrumentId = instrumentId) with
    | some instrument => .ok instrument
    | none =>
        .error (unsupported ("Twelve Data is not configured for instrument " ++ instrumentId))

/-- Every requested instrument, read in turn. -/
def readInstruments (upstream : Upstream) (query : BarQuery) (startDate endDate : Day) :
    Except FetchError (List (InstrumentBars r web)) :=
  requestedInstruments provider query.instrumentIds >>= fun instruments =>
  instruments.mapM (readInstrument w r web provider upstream query startDate endDate)

variable {r web}

/-- `(item.bar_end, item.instrument_id, item.bar_id)` is not after the other one. -/
def NotAfter (a b : ValidBar r web) : Prop :=
  a.val.barEnd < b.val.barEnd ∨ a.val.barEnd = b.val.barEnd ∧
    (a.val.instrumentId < b.val.instrumentId ∨ a.val.instrumentId = b.val.instrumentId ∧
      a.val.barId ≤ b.val.barId)

instance (a b : ValidBar r web) : Decidable (NotAfter a b) := by
  unfold NotAfter
  infer_instance

/-- `all_items`, sorted. -/
def allItems (read : List (InstrumentBars r web)) : List (ValidBar r web) :=
  (read.flatMap fun bars => bars.1).insertionSort NotAfter

/-- `warnings`. -/
def allWarnings (read : List (InstrumentBars r web)) : List RowWarning :=
  read.flatMap fun bars => bars.2.1

/-- `fetched_at = max(fetched_at, request_fetched_at)`. -/
def lastFetchedAt (fetchedAt : Instant) (read : List (InstrumentBars r web)) : Instant :=
  read.foldl (fun latest bars => max latest bars.2.2) fetchedAt

/-! ## A page -/

/-- `ProviderPage`. -/
structure ProviderPage (r : Reading) (web : Web) where
  items : List (ValidBar r web)
  nextCursor : Option Text := none
  sourceWatermark : Option Text := none
  fetchedAt : Instant
  complete : Bool
  warnings : List RowWarning := []

/-- The checksum of what the bars are and hold. -/
def watermark (items : List (ValidBar r web)) : String :=
  w.sha256Hex (w.dumpsPayload (.arr (items.map fun item =>
    .obj [("provider_record_id", .str item.val.source.val.providerRecordId),
      ("checksum_sha256", .str item.val.source.val.checksumSha256)])))

/-- The cursor of the page after this one. -/
def nextCursor (fingerprint : String) (offset : ℕ) (items page : List (ValidBar r web)) :
    Except FetchError (Option Text) :=
  match page.getLast? with
  | none => .ok none
  | some last =>
      if offset + page.length < items.length then
        (encodeCursor codec ⟨fingerprint, offset + page.length, last.val.barId,
          watermark w items⟩).map some
      else .ok none

/-- The page of a query whose bars and warnings were read. -/
def pageOf (fingerprint : String) (limit : ℕ) (resumed : Resumed) (items : List (ValidBar r web))
    (warnings : List RowWarning) (fetchedAt : Instant) :
    Except FetchError (ProviderPage r web) :=
  let offset := resumed.offset
  if ¬ (items.map fun item => item.val.barId).Nodup then
    .error (cursorError "Twelve Data response contains a duplicate bar" "INVALID_PAGINATION")
  else if resumed.expectedWatermark.any (· ≠ watermark w items) then
    .error (cursorError "Twelve Data source changed while continuing a paginated query"
      "SNAPSHOT_CHANGED")
  else if items.length < offset then
    .error (cursorError "Twelve Data cursor is past the result set" "INVALID_CURSOR")
  else if offset ≠ 0 ∧ (resumed.previousId = none ∨
      (items[offset - 1]?.map fun item => item.val.barId) ≠ resumed.previousId) then
    .error (cursorError "Twelve Data cursor predecessor does not match the source snapshot"
      "SNAPSHOT_CHANGED")
  else
    let page := pageAt limit offset items
    (nextCursor codec w fingerprint offset items page).map fun next =>
      { items := page
        nextCursor := next
        sourceWatermark := some (.ofString (watermark w items))
        fetchedAt := fetchedAt
        complete := decide (¬ offset + page.length < items.length)
        warnings := warnings }

variable (r web)

/-- The checks of `_fetch_bars` before anything is read. -/
def checkQuery (query : BarQuery) (fetchedAt : Instant) : Except FetchError Unit :=
  if query.interval ≠ .d1 ∨ query.adjustment ≠ .raw then
    .error (unsupported "Twelve Data supports raw daily bars only")
  else if ¬ provider.hasApiKey then
    .error (.provider "Twelve Data API key is not configured" "PROVIDER_AUTHENTICATION_FAILED")
  else if query.asOf < fetchedAt then
    .error (unsupported
      "Twelve Data daily bars do not provide historical point-in-time snapshots")
  else .ok ()

/-- The local dates of a window. -/
def queryDates (query : BarQuery) : Except FetchError (Day × Day) :=
  match provider.newYork.date query.start, provider.newYork.date (query.stop - 1) with
  | some startDate, some endDate => .ok (startDate, endDate)
  | _, _ => .error (.reading .overflow)

/-- `_MAX_QUERY_WINDOW`, in days. -/
def maxQueryWindow : ℤ := 5 * 366

/-- `_fetch_bars`. -/
def fetchBars (upstream : Upstream) (fetchedAt contextAsOf : Instant) (query : BarQuery)
    (cursor : Option Text) : Except FetchError (ProviderPage r web) :=
  checkQuery provider query fetchedAt >>= fun _ =>
  queryDates provider query >>= fun (startDate, endDate) =>
  if endDate < startDate then .ok { items := [], fetchedAt := fetchedAt, complete := true }
  else if maxQueryWindow < endDate - startDate then
    .error (unsupported "Twelve Data query window exceeds five calendar years")
  else
    decodeCursor provider.codec cursor (provider.fingerprint query contextAsOf) >>= fun resumed =>
    readInstruments w r web provider upstream query startDate endDate >>= fun read =>
    pageOf provider.codec w (provider.fingerprint query contextAsOf) query.limit resumed
      (allItems read) (allWarnings read) (lastFetchedAt fetchedAt read)

end MacroPlatform.Providers.TwelveData
