import MacroPlatform.Providers.Rows

/-! # The bars of XtQuant

The records of a data frame: the date is the index, a date or both a date and a time, and numbers
come as whatever the frame holds. A volume or a turnover that is not finite is missing.

* `parseRows_conserves`: the rows of a response are conserved.
-/

namespace MacroPlatform.Providers.XtQuant

open Report (Writing)

variable (hongKong : Zone) (w : Writing) (r : Reading) (web : Web)

/-- `HK_XTQUANT_PROVIDER_ID`. -/
def providerId : String := "hk.xtquant.v1"

/-- The sessions of the bars. -/
def session : DailySession where
  idNamespace := "bar_hk"
  providerId := providerId
  zone := hongKong
  openTime := clock 9 30

/-! ## A row -/

/-- `_parse_date`. -/
def parseDate (value : Cell) : Except RowError Day :=
  match value with
  | .datetime wall (some utcoffset) =>
      match hongKong.date (wall - utcoffset) with
      | some day => .ok day
      | none => .error .overflow
  | .datetime wall none => .ok (wall / dayMicroseconds)
  | .notATime => .error (.value "NaTType does not support date")
  | .date day => .ok day
  | .str s =>
      match (r.strptime "%Y%m%d" (pyStrip s)).or (r.strptime "%Y-%m-%d" (pyStrip s)) with
      | some day => .ok day
      | none => .error (.schema "XtQuant daily-bar date must be YYYYMMDD or ISO format")
  | _ => .error (.schema "XtQuant daily-bar date must be a date string")

/-- `datetime.fromtimestamp(value / 1000, UTC)` of a positive number, as a date in Hong Kong. -/
def stampedDate (milliseconds : ℚ) : Except RowError Day :=
  if milliseconds ≤ 0 then
    .error (.schema "XtQuant daily-bar time must be a positive finite timestamp")
  else
    match (r.fromTimestamp milliseconds).bind hongKong.date with
    | some day => .ok day
    | none => .error (.schema "XtQuant daily-bar time is outside the supported range")

/-- `_timestamp_date`. -/
def timestampDate (value : Cell) : Except RowError Day :=
  match value with
  | .int n =>
      match r.floatOfInt n with
      | some milliseconds => stampedDate hongKong r milliseconds
      | none => .error .overflow
  | .float milliseconds => stampedDate hongKong r milliseconds
  | .nonFinite _ => .error (.schema "XtQuant daily-bar time must be a positive finite timestamp")
  | _ => .error (.schema "XtQuant daily-bar time must be epoch milliseconds")

/-- The date of a row as it is written: its index, or its date. -/
def rawDate (rawRow : Row) : Cell := rawRow.get "index" (rawRow.get "date")

/-- `_trading_date`. -/
def tradingDate (rawRow : Row) : Except RowError Day :=
  (rawDate rawRow).optional (parseDate hongKong r) >>= fun parsedDate =>
  (rawRow.get "time").optional (timestampDate hongKong r) >>= fun timestampDate =>
  match parsedDate, timestampDate with
  | none, none => .error (.schema "XtQuant daily-bar row has neither date nor time")
  | some parsedDate, some timestampDate =>
      if parsedDate ≠ timestampDate then
        .error (.schema "XtQuant daily-bar date and time disagree")
      else .ok parsedDate
  | some parsedDate, none => .ok parsedDate
  | none, some timestampDate => .ok timestampDate

/-- `_decimal`. -/
def decimal (value : Cell) (path : String) : Except RowError Decimal :=
  match value with
  | .null | .nonFinite _ => .error (.schema ("XtQuant " ++ path ++ " must be a finite decimal"))
  | _ =>
      match r.decimal (pyStrip (value.text r)) with
      | none => .error (.schema ("XtQuant " ++ path ++ " must be a decimal"))
      | some none => .error (.schema ("XtQuant " ++ path ++ " must be a finite decimal"))
      | some (some parsed) => .ok parsed

/-- `value is None`, a blank text, or a float that is not finite. -/
def isMissing : Cell → Bool
  | .null | .nonFinite _ => true
  | .str s => pyStrip s = ""
  | _ => false

/-- `_optional_decimal`. -/
def optionalDecimal (value : Cell) (path : String) : Except RowError (Option Decimal) :=
  if isMissing value then .ok none
  else
    decimal r value path >>= fun parsed =>
    if parsed.value < 0 then .error (.schema ("XtQuant " ++ path ++ " must not be negative"))
    else .ok (some parsed)

/-- The numbers of a row. -/
structure Values where
  «open» : Decimal
  high : Decimal
  low : Decimal
  close : Decimal
  volume : Option Decimal
  turnover : Option Decimal

def values (rawRow : Row) : Except RowError Values :=
  decimal r (rawRow.get "open") "open" >>= fun openValue =>
  decimal r (rawRow.get "high") "high" >>= fun highValue =>
  decimal r (rawRow.get "low") "low" >>= fun lowValue =>
  decimal r (rawRow.get "close") "close" >>= fun closeValue =>
  optionalDecimal r (rawRow.get "volume") "volume" >>= fun volume =>
  optionalDecimal r (rawRow.get "amount") "amount" >>= fun turnover =>
  .ok ⟨openValue, highValue, lowValue, closeValue, volume, turnover⟩

/-- `_bounded_value`. -/
def boundedValue (value : Cell) : Cell :=
  match value with
  | .null | .bool _ | .int _ | .float _ | .nonFinite _ => value
  | _ => .str (value.fragment r)

/-- `SourceRef(...)` of a bar. -/
def source (instrument : BarInstrument) (rawRow : Row) (tradingDate : Day) (fetchedAt : Instant)
    (values : Values) : ProviderSource where
  providerId := providerId
  providerRecordId := providerId ++ ":" ++ instrument.sourceSymbol ++ ":1d:" ++
    tradingDate.isoformat ++ ":raw"
  sourceName := "XtQuant"
  retrievedAt := fetchedAt
  checksumSha256 := w.sha256Hex (r.dumpsFields
    [("date", .str tradingDate.isoformat), ("open", .str (r.decimalText values.open)),
      ("high", .str (r.decimalText values.high)), ("low", .str (r.decimalText values.low)),
      ("close", .str (r.decimalText values.close)),
      ("preClose", boundedValue r (rawRow.get "preClose")),
      ("volume", r.optionalText values.volume), ("amount", r.optionalText values.turnover)])

/-- The arguments of `MarketBar(...)` of a row. -/
def bar {web : Web} (instrument : BarInstrument) (tradingDate : Day) (fetchedAt : Instant)
    (values : Values) (source : ValidSource web) : ProviderBar web where
  barId := (session hongKong).barId w r instrument.instrumentId tradingDate
  instrumentId := instrument.instrumentId
  canonicalSymbol := instrument.canonicalSymbol
  region := .hk
  barStart := (session hongKong).openAt tradingDate
  barEnd := hongKong.at tradingDate (clock 16 0)
  tradingDate := tradingDate
  «open» := values.open
  high := values.high
  low := values.low
  close := values.close
  volume := values.volume
  turnover := values.turnover
  currency := instrument.currency
  availableAt := fetchedAt
  source := source
  qualityFlags := missingFlags values.volume values.turnover

/-- `_market_bar`. -/
def marketBar (instrument : BarInstrument) (fetchedAt : Instant) (rawRow : Row)
    (tradingDate : Day) : Except RowError (ValidBar r web) :=
  values r rawRow >>= fun values =>
  sourceRef web (source w r instrument rawRow tradingDate fetchedAt values) >>= fun source =>
  (bar hongKong w r instrument tradingDate fetchedAt values source).validate r

/-- `_rejection_details`. -/
def rejectionDetails (error : RowError) (rawRow : Row) : Rejection where
  errorCode := error.rejectionCode
  redactedPayload :=
    [("date", .cell (boundedValue r (rawDate rawRow))),
      ("time", .cell (boundedValue r (rawRow.get "time"))),
      ("fields", .texts (Evidence.sortedText (rawRow.map Prod.fst)))]

/-! ## A response -/

/-- How the rows are read. -/
def reader (instrument : BarInstrument) (query : BarQuery) (fetchedAt : Instant) :
    BarReader r web Row where
  key _ rawRow := tradingDate hongKong r rawRow
  item rawRow tradingDate := marketBar hongKong w r web instrument fetchedAt rawRow tradingDate
  keyCaught _ error := error.isSchema || error.isValueError
  itemCaught error := error.isSchema || error.isValueError
  note index rawRow error := quarantine r "rows" index error (rejectionDetails r error rawRow)
  disorder := .cursor "XtQuant rows contain duplicate or descending trading dates"
    "INVALID_PAGINATION"
  keeps := inWindow r query

/-- `_parse_rows`. -/
def parseRows (instrument : BarInstrument) (query : BarQuery) (fetchedAt : Instant)
    (rows : List Row) : Except RowError (List (ValidBar r web) × List RowWarning) :=
  (reader hongKong w r web instrument query fetchedAt).run 0 none rows

variable {hongKong} {w} {r} {web}

/-- The bar of a row is built from its numbers. -/
theorem marketBar_ok {instrument : BarInstrument} {fetchedAt : Instant} {rawRow : Row}
    {tradingDate : Day} {built : ValidBar r web}
    (h : marketBar hongKong w r web instrument fetchedAt rawRow tradingDate = .ok built) :
    ∃ values source, XtQuant.values r rawRow = .ok values ∧
      built.val = (bar hongKong w r instrument tradingDate fetchedAt values source).stripped := by
  obtain ⟨values, hvalues, h⟩ := Raising.bind_ok.mp h
  obtain ⟨source, -, h⟩ := Raising.bind_ok.mp h
  exact ⟨values, source, hvalues, ProviderBar.validate_ok h⟩

theorem reader_item {instrument : BarInstrument} {query : BarQuery} {fetchedAt : Instant}
    (rawRow : Row) (day : Day) (built : ValidBar r web)
    (h : (reader hongKong w r web instrument query fetchedAt).item rawRow day = .ok built) :
    built.val.tradingDate = day ∧
      built.val.barId = (session hongKong).barId w r instrument.instrumentId day := by
  have hspace : ∀ c ∈ "bar_hk".toList, isWhiteSpace c = false := by decide
  have hlength : "bar_hk".length ≤ 63 := by decide
  obtain ⟨values, source, -, hbuilt⟩ := marketBar_ok h
  rw [hbuilt]
  exact ⟨rfl, DailySession.barId_stripped w r _ _ hspace hlength⟩

/-- The rows of a response are conserved. -/
theorem parseRows_conserves {instrument : BarInstrument} {query : BarQuery} {fetchedAt : Instant}
    {rows : List Row} {bars : List (ValidBar r web)} {warnings : List RowWarning}
    (hdistinct : DistinctDigests w r (session hongKong) instrument.instrumentId
      (readDays r (reader hongKong w r web instrument query fetchedAt) rows))
    (h : parseRows hongKong w r web instrument query fetchedAt rows = .ok (bars, warnings)) :
    Conserves (reader hongKong w r web instrument query fetchedAt) query rows bars warnings :=
  conserves_of_run w reader_item rfl h hdistinct

end MacroPlatform.Providers.XtQuant
