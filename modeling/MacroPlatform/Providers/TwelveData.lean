import MacroPlatform.Contracts.Civil
import MacroPlatform.Providers.Rows

/-! # The bars of Twelve Data

US equity sessions follow a calendar of approved years. A response that is not the one asked for
is refused; of the others each row becomes a bar or a warning.

* `parsePayload_conserves`: the rows of a response are conserved.
-/

namespace MacroPlatform

namespace Providers

open Raising (ok_bind)
open Report (Writing)

/-! ## The US equity calendar -/

/-- `UsEquityCalendarSnapshot`, of one trading year. -/
structure UsEquityCalendarSnapshot where
  closedDays : List Day
  earlyCloseDays : List Day

/-- `US_EQUITY_CALENDAR_SNAPSHOTS`. -/
def usEquityCalendarSnapshots : List (ℤ × UsEquityCalendarSnapshot) :=
  [(2025,
      { closedDays :=
          [Day.ofDate 2025 1 1, Day.ofDate 2025 1 20, Day.ofDate 2025 2 17,
            Day.ofDate 2025 4 18, Day.ofDate 2025 5 26, Day.ofDate 2025 6 19,
            Day.ofDate 2025 7 4, Day.ofDate 2025 9 1, Day.ofDate 2025 11 27,
            Day.ofDate 2025 12 25]
        earlyCloseDays :=
          [Day.ofDate 2025 7 3, Day.ofDate 2025 11 28, Day.ofDate 2025 12 24] }),
    (2026,
      { closedDays :=
          [Day.ofDate 2026 1 1, Day.ofDate 2026 1 19, Day.ofDate 2026 2 16,
            Day.ofDate 2026 4 3, Day.ofDate 2026 5 25, Day.ofDate 2026 6 19,
            Day.ofDate 2026 7 3, Day.ofDate 2026 9 7, Day.ofDate 2026 11 26,
            Day.ofDate 2026 12 25]
        earlyCloseDays := [Day.ofDate 2026 11 27, Day.ofDate 2026 12 24] }),
    (2027,
      { closedDays :=
          [Day.ofDate 2027 1 1, Day.ofDate 2027 1 18, Day.ofDate 2027 2 15,
            Day.ofDate 2027 3 26, Day.ofDate 2027 5 31, Day.ofDate 2027 6 18,
            Day.ofDate 2027 7 5, Day.ofDate 2027 9 6, Day.ofDate 2027 11 25,
            Day.ofDate 2027 12 24]
        earlyCloseDays := [Day.ofDate 2027 11 26] })]

/-- `UsEquityCalendarStatus`. -/
inductive UsEquityCalendarStatus where
  | regular
  | earlyClose
  | closed
deriving DecidableEq, Repr

/-- `us_equity_calendar_day`, its status. -/
def usEquityCalendarDay (tradingDate : Day) : Except RowError UsEquityCalendarStatus :=
  match usEquityCalendarSnapshots.find? fun (year, _) =>
      Day.ofDate year 1 1 ≤ tradingDate ∧ tradingDate < Day.ofDate (year + 1) 1 1 with
  | none =>
      .error (.normalization "CALENDAR_UNAVAILABLE"
        ("US equity calendar snapshot is unavailable for " ++
          toString tradingDate.civil.1))
  | some (_, snapshot) =>
      if 5 ≤ tradingDate.weekday ∨ tradingDate ∈ snapshot.closedDays then .ok .closed
      else if tradingDate ∈ snapshot.earlyCloseDays then .ok .earlyClose
      else .ok .regular

example : ([20638, 20639, 20640].map usEquityCalendarDay).filterMap Except.toOption =
    [.closed, .closed, .regular] := by decide +kernel

/-- `_UsEquitySessionWindow`. -/
structure UsEquitySessionWindow where
  openAt : Instant
  closeAt : Instant

variable (newYork : Zone)

/-- `to_us_market_utc` of a local time of a date. -/
def toUsMarketUtc (tradingDate : Day) (time : ℤ) : Except RowError Instant :=
  match newYork.localTime (newYork.at tradingDate time) with
  | none => .error .overflow
  | some roundTripped =>
      if roundTripped = tradingDate * dayMicroseconds + time then .ok (newYork.at tradingDate time)
      else .error (.normalization "NONEXISTENT_LOCAL_TIME" "NONEXISTENT_LOCAL_TIME")

/-- `us_equity_session_window`. -/
def usEquitySessionWindow (tradingDate : Day) : Except RowError UsEquitySessionWindow :=
  usEquityCalendarDay tradingDate >>= fun status =>
    if status = .closed then
      .error (.normalization "MARKET_CLOSED"
        ("US equity market is closed on " ++ tradingDate.isoformat))
    else
      toUsMarketUtc newYork tradingDate (clock 9 30) >>= fun openAt =>
      toUsMarketUtc newYork tradingDate
        (if status = .earlyClose then clock 13 0 else clock 16 0) >>= fun closeAt =>
      .ok ⟨openAt, closeAt⟩

/-! ## A row -/

variable (w : Writing) (r : Reading) (web : Web)

namespace TwelveData

/-- `TWELVE_DATA_PROVIDER_ID`. -/
def providerId : String := "us.twelve-data.v1"

/-- The sessions of the bars. -/
def session : DailySession where
  idNamespace := "bar_us"
  providerId := providerId
  zone := newYork
  openTime := clock 9 30

/-- `_parse_date`. -/
def parseDate (value : Cell) (path : String) : Except RowError Day :=
  match value with
  | .str s =>
      match web.dateFromIsoformat s with
      | some day => .ok day
      | none => .error (.schema ("Twelve Data " ++ path ++ " must be an ISO date"))
  | _ => .error (.schema ("Twelve Data " ++ path ++ " must be an ISO date"))

/-- `_decimal`. -/
def decimal (value : Cell) (path : String) : Except RowError Decimal :=
  match value with
  | .bool _ | .null => .error (.schema ("Twelve Data " ++ path ++ " must be a decimal"))
  | _ =>
      match r.decimal (value.text r) with
      | none => .error (.schema ("Twelve Data " ++ path ++ " must be a decimal"))
      | some none => .error (.schema ("Twelve Data " ++ path ++ " must be finite"))
      | some (some parsed) => .ok parsed

/-- The prices and the volume of a row. -/
structure Values where
  «open» : Decimal
  high : Decimal
  low : Decimal
  close : Decimal
  volume : Option Decimal

def values (rawRow : Row) : Except RowError Values :=
  decimal r (rawRow.get "open") "open" >>= fun openValue =>
  decimal r (rawRow.get "high") "high" >>= fun highValue =>
  decimal r (rawRow.get "low") "low" >>= fun lowValue =>
  decimal r (rawRow.get "close") "close" >>= fun closeValue =>
  (rawRow.get "volume").optional (decimal r · "volume") >>= fun volume =>
  .ok ⟨openValue, highValue, lowValue, closeValue, volume⟩

/-- `SourceRef(...)` of a bar. -/
def source (instrument : BarInstrument) (tradingDate : Day) (openAt fetchedAt : Instant)
    (values : Values) : ProviderSource where
  providerId := providerId
  providerRecordId := providerId ++ ":" ++ instrument.sourceSymbol ++ ":1day:" ++
    isoformatUtc openAt ++ ":raw"
  sourceName := "Twelve Data"
  sourceUrl := some ("https://api.twelvedata.com/time_series?symbol=" ++
    instrument.sourceSymbol ++ "&interval=1day")
  retrievedAt := fetchedAt
  checksumSha256 := w.sha256Hex (r.dumpsFields
    [("symbol", .str instrument.sourceSymbol), ("interval", .str "1day"),
      ("datetime", .str tradingDate.isoformat), ("open", .str (r.decimalText values.open)),
      ("high", .str (r.decimalText values.high)), ("low", .str (r.decimalText values.low)),
      ("close", .str (r.decimalText values.close)), ("volume", r.optionalText values.volume),
      ("currency", .str instrument.currency)])

/-- The arguments of `MarketBar(...)` of a row. -/
def bar {web : Web} (instrument : BarInstrument) (tradingDate : Day)
    (window : UsEquitySessionWindow) (fetchedAt : Instant) (values : Values)
    (source : ValidSource web) : ProviderBar web where
  barId := (session newYork).barId w r instrument.instrumentId tradingDate
  instrumentId := instrument.instrumentId
  canonicalSymbol := instrument.canonicalSymbol
  region := .us
  barStart := window.openAt
  barEnd := window.closeAt
  tradingDate := tradingDate
  «open» := values.open
  high := values.high
  low := values.low
  close := values.close
  volume := values.volume
  currency := instrument.currency
  availableAt := fetchedAt
  source := source
  qualityFlags := if values.volume = none then ["VOLUME_MISSING"] else []

/-- `_market_bar`. -/
def marketBar (instrument : BarInstrument) (fetchedAt : Instant) (rawRow : Row)
    (tradingDate : Day) : Except RowError (ValidBar r web) :=
  usEquitySessionWindow newYork tradingDate >>= fun window =>
  values r rawRow >>= fun values =>
  sourceRef web (source w r instrument tradingDate window.openAt fetchedAt values) >>= fun source =>
  (bar newYork w r instrument tradingDate window fetchedAt values source).validate r

/-- `_rejection_details`. -/
def rejectionDetails (error : RowError) (rawRow : Row) : Rejection where
  errorCode := error.rejectionCode
  redactedPayload :=
    [("datetime", .cell
        (match rawRow.get "datetime" with
          | .str s => .str ((Cell.str s).fragment r)
          | _ => .null)),
      ("fields", .texts (Evidence.sortedText ((rawRow.map Prod.fst).filter fun key =>
        web.lower key ∉ ["apikey", "api_key", "authorization", "cookie", "token", "password"])))]

/-! ## A response -/

/-- The JSON object of a response: its `meta` and `values`, where these are a dict and a list, and
of the values those that are dicts. -/
structure Payload where
  metadata : Option Row
  values : Option (List (Option Row))

/-- How the rows are read: a value that is no dict is refused before its errors are caught. -/
def reader (instrument : BarInstrument) (query : BarQuery) (fetchedAt : Instant) :
    BarReader r web (Option Row) where
  key index
    | none => .error (.schema "Twelve Data values must contain objects")
    | some rawRow =>
        parseDate web (rawRow.get "datetime") ("values[" ++ toString index ++ "].datetime")
  item value tradingDate := marketBar newYork w r web instrument fetchedAt (value.getD []) tradingDate
  keyCaught value error := value.isSome && error.isSchema
  itemCaught error := error.isSchema || error.isValueError
  note index value error :=
    quarantine r "values" index error (rejectionDetails r web error (value.getD []))
  disorder := .cursor "Twelve Data values contain duplicate or descending trading dates"
    "INVALID_PAGINATION"
  keeps := inWindow r query

/-- `_MAX_OUTPUT_SIZE`. -/
def maxOutputSize : ℕ := 5000

/-- The checks of a response before its rows. -/
def checkResponse (instrument : BarInstrument) (payload : Payload) :
    Except RowError (List (Option Row)) :=
  match payload.metadata, payload.values with
  | some metadata, some values =>
      if metadata.get "symbol" ≠ .str instrument.sourceSymbol then
        .error (.schema "Twelve Data response symbol does not match the request")
      else if metadata.get "interval" ≠ .str "1day" then
        .error (.schema "Twelve Data response interval is not 1day")
      else if metadata.get "currency" ≠ .str instrument.currency then
        .error (.schema "Twelve Data response currency is not approved USD")
      else if maxOutputSize < values.length then
        .error (.schema "Twelve Data response exceeds the requested output bound")
      else .ok values
  | _, _ => .error (.schema "Twelve Data response is missing meta or values")

/-- `_parse_payload`. -/
def parsePayload (instrument : BarInstrument) (query : BarQuery) (fetchedAt : Instant)
    (payload : Payload) : Except RowError (List (ValidBar r web) × List RowWarning) :=
  checkResponse instrument payload >>= fun values =>
  (reader newYork w r web instrument query fetchedAt).run 0 none values

variable {newYork} {w} {r} {web}

/-- A row that becomes a bar was read in an open session, and the bar is built from it. -/
theorem marketBar_ok {instrument : BarInstrument} {fetchedAt : Instant} {rawRow : Row}
    {tradingDate : Day} {built : ValidBar r web}
    (h : marketBar newYork w r web instrument fetchedAt rawRow tradingDate = .ok built) :
    ∃ window values source, usEquitySessionWindow newYork tradingDate = .ok window ∧
      TwelveData.values r rawRow = .ok values ∧
      built.val =
        (bar newYork w r instrument tradingDate window fetchedAt values source).stripped := by
  obtain ⟨window, hwindow, h⟩ := Raising.bind_ok.mp h
  obtain ⟨values, hvalues, h⟩ := Raising.bind_ok.mp h
  obtain ⟨source, -, h⟩ := Raising.bind_ok.mp h
  exact ⟨window, values, source, hwindow, hvalues, ProviderBar.validate_ok h⟩

theorem reader_item {instrument : BarInstrument} {query : BarQuery} {fetchedAt : Instant}
    (value : Option Row) (day : Day) (built : ValidBar r web)
    (h : (reader newYork w r web instrument query fetchedAt).item value day = .ok built) :
    built.val.tradingDate = day ∧
      built.val.barId = (session newYork).barId w r instrument.instrumentId day := by
  have hspace : ∀ c ∈ "bar_us".toList, isWhiteSpace c = false := by decide
  have hlength : "bar_us".length ≤ 63 := by decide
  obtain ⟨window, values, source, -, -, hbuilt⟩ := marketBar_ok h
  rw [hbuilt]
  exact ⟨rfl, DailySession.barId_stripped w r _ _ hspace hlength⟩

/-- Only a response with values is parsed, and its rows are all read. -/
theorem parsePayload_ok {instrument : BarInstrument} {query : BarQuery} {fetchedAt : Instant}
    {payload : Payload} {bars : List (ValidBar r web)} {warnings : List RowWarning}
    (h : parsePayload newYork w r web instrument query fetchedAt payload = .ok (bars, warnings)) :
    ∃ rows, payload.values = some rows ∧
      (reader newYork w r web instrument query fetchedAt).run 0 none rows =
        .ok (bars, warnings) := by
  obtain ⟨rows, hchecked, hrun⟩ := Raising.bind_ok.mp h
  refine ⟨rows, ?_, hrun⟩
  unfold checkResponse at hchecked
  -- the response has values, or is refused
  cases hvalues : payload.values with
  | none =>
    rw [hvalues] at hchecked
    split at hchecked
    · next hsome => cases hsome
    · cases hchecked
  | some values =>
    rw [hvalues] at hchecked
    split at hchecked
    · next hsome =>
      cases hsome
      split_ifs at hchecked
      cases hchecked
      rfl
    · cases hchecked

/-- The rows of a response are conserved. -/
theorem parsePayload_conserves {instrument : BarInstrument} {query : BarQuery}
    {fetchedAt : Instant} {payload : Payload} {rows : List (Option Row)}
    {bars : List (ValidBar r web)} {warnings : List RowWarning}
    (hrows : payload.values = some rows)
    (hdistinct : DistinctDigests w r (session newYork) instrument.instrumentId
      (readDays r (reader newYork w r web instrument query fetchedAt) rows))
    (h : parsePayload newYork w r web instrument query fetchedAt payload = .ok (bars, warnings)) :
    Conserves (reader newYork w r web instrument query fetchedAt) query rows bars warnings := by
  obtain ⟨found, hfound, hrun⟩ := parsePayload_ok h
  rw [hrows] at hfound
  cases hfound
  exact conserves_of_run w reader_item rfl hrun hdistinct

/-! ## The same response, read at another time -/

/-- A bar read at another time differs in this time alone. -/
theorem marketBar_readAt (s t : Instant) (instrument : BarInstrument) (rawRow : Row)
    (tradingDate : Day) :
    marketBar newYork w r web instrument t rawRow tradingDate =
      (marketBar newYork w r web instrument s rawRow tradingDate).map (ValidBar.readAt t) := by
  unfold marketBar
  -- no step of the reading looks at the time of the fetch
  cases usEquitySessionWindow newYork tradingDate with
  | error e => rfl
  | ok window =>
    cases values r rawRow with
    | error e => rfl
    | ok values =>
      have hsource : sourceRef web (source w r instrument tradingDate window.openAt t values) =
          (sourceRef web (source w r instrument tradingDate window.openAt s values)).map
            (sourceReadAt t) :=
        sourceRef_readAt t (source w r instrument tradingDate window.openAt s values)
      simp only [ok_bind, hsource]
      cases sourceRef web (source w r instrument tradingDate window.openAt s values) with
      | error e => rfl
      | ok source =>
        exact ProviderBar.validate_readAt t
          (bar newYork w r instrument tradingDate window s values source)

/-- So do the bars of a payload. -/
theorem parsePayload_readAt (s t : Instant) (instrument : BarInstrument) (query : BarQuery)
    (payload : Payload) :
    parsePayload newYork w r web instrument query t payload =
      (parsePayload newYork w r web instrument query s payload).map
        fun (bars, warnings) => (bars.map (ValidBar.readAt t), warnings) := by
  unfold parsePayload
  cases checkResponse instrument payload with
  | error e => rfl
  | ok rows =>
    simp only [ok_bind]
    have hitem : ∀ row day, (reader newYork w r web instrument query t).item row day =
        ((reader newYork w r web instrument query s).item row day).map (ValidBar.readAt t) :=
      fun row day => marketBar_readAt s t instrument (row.getD []) day
    have hkeeps : ∀ bar, (reader newYork w r web instrument query t).keeps
        (ValidBar.readAt t bar) = (reader newYork w r web instrument query s).keeps bar :=
      fun _ => rfl
    exact RowLoop.Reader.run_map (ValidBar.readAt t) hitem hkeeps rfl rfl rfl rfl rfl 0 none rows

end TwelveData

end Providers

end MacroPlatform
