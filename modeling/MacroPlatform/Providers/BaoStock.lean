import MacroPlatform.Providers.Rows

/-! # The bars of BaoStock

The rows of one index, as texts. Volume and turnover may be missing; a row of another code is set
aside like one that cannot be read.

* `parseRows_conserves`: the rows of a response are conserved.
-/

namespace MacroPlatform.Providers.BaoStock

open Report (Writing)

variable (shanghai : Zone) (w : Writing) (r : Reading) (web : Web)

/-- `BAOSTOCK_PROVIDER_ID`. -/
def providerId : String := "cn.baostock.v1"

/-- The sessions of the bars. -/
def session : DailySession where
  idNamespace := "bar_cn"
  providerId := providerId
  zone := shanghai
  openTime := clock 9 30

/-! ## A row -/

/-- `_parse_date`. -/
def parseDate (value : Cell) (path : String) : Except RowError Day :=
  match value with
  | .str s =>
      match web.dateFromIsoformat s with
      | some day => .ok day
      | none => .error (.schema ("BaoStock " ++ path ++ " must be an ISO date"))
  | _ => .error (.schema ("BaoStock " ++ path ++ " must be an ISO date"))

/-- `_required_text`. -/
def requiredText (value : Cell) (path : String) : Except RowError String :=
  match value with
  | .str s =>
      if pyStrip s = "" then
        .error (.schema ("BaoStock " ++ path ++ " must be a non-empty string"))
      else .ok (pyStrip s)
  | _ => .error (.schema ("BaoStock " ++ path ++ " must be a non-empty string"))

/-- `_decimal`. -/
def decimal (value : Cell) (path : String) : Except RowError Decimal :=
  requiredText value path >>= fun textValue =>
  match r.decimal textValue with
  | none => .error (.schema ("BaoStock " ++ path ++ " must be a decimal"))
  | some none => .error (.schema ("BaoStock " ++ path ++ " must be finite"))
  | some (some parsed) => .ok parsed

/-- `_optional_decimal`. -/
def optionalDecimal (value : Cell) (path : String) : Except RowError (Option Decimal) :=
  if value = .null ∨ value = .str "" then .ok none
  else
    decimal r value path >>= fun parsed =>
    if parsed.value < 0 then .error (.schema ("BaoStock " ++ path ++ " must not be negative"))
    else .ok (some parsed)

/-- What is read of a row. -/
structure Values where
  sourceSymbol : String
  «open» : Decimal
  high : Decimal
  low : Decimal
  close : Decimal
  preclose : Decimal
  volume : Option Decimal
  turnover : Option Decimal

def values (instrument : BarInstrument) (rawRow : Row) : Except RowError Values :=
  requiredText (rawRow.get "code") "code" >>= fun sourceSymbol =>
  if sourceSymbol ≠ instrument.sourceSymbol then
    .error (.schema "BaoStock response symbol does not match the request")
  else
    decimal r (rawRow.get "open") "open" >>= fun openValue =>
    decimal r (rawRow.get "high") "high" >>= fun highValue =>
    decimal r (rawRow.get "low") "low" >>= fun lowValue =>
    decimal r (rawRow.get "close") "close" >>= fun closeValue =>
    decimal r (rawRow.get "preclose") "preclose" >>= fun precloseValue =>
    optionalDecimal r (rawRow.get "volume") "volume" >>= fun volume =>
    optionalDecimal r (rawRow.get "amount") "amount" >>= fun turnover =>
    .ok ⟨sourceSymbol, openValue, highValue, lowValue, closeValue, precloseValue, volume, turnover⟩

/-- `SourceRef(...)` of a bar. -/
def source (rawRow : Row) (tradingDate : Day) (fetchedAt : Instant) (values : Values) :
    ProviderSource where
  providerId := providerId
  providerRecordId := providerId ++ ":" ++ values.sourceSymbol ++ ":1d:" ++
    tradingDate.isoformat ++ ":raw"
  sourceName := "BaoStock"
  sourceUrl := some "https://www.baostock.com/"
  retrievedAt := fetchedAt
  checksumSha256 := w.sha256Hex (r.dumpsFields
    [("date", .str tradingDate.isoformat), ("code", .str values.sourceSymbol),
      ("open", .str (r.decimalText values.open)), ("high", .str (r.decimalText values.high)),
      ("low", .str (r.decimalText values.low)), ("close", .str (r.decimalText values.close)),
      ("preclose", .str (r.decimalText values.preclose)),
      ("volume", r.optionalText values.volume), ("amount", r.optionalText values.turnover),
      ("pctChg", rawRow.get "pctChg")])

/-- The arguments of `MarketBar(...)` of a row. -/
def bar {web : Web} (instrument : BarInstrument) (tradingDate : Day) (fetchedAt : Instant)
    (values : Values) (source : ValidSource web) : ProviderBar web where
  barId := (session shanghai).barId w r instrument.instrumentId tradingDate
  instrumentId := instrument.instrumentId
  canonicalSymbol := instrument.canonicalSymbol
  region := .cn
  barStart := (session shanghai).openAt tradingDate
  barEnd := shanghai.at tradingDate (clock 15 0)
  tradingDate := tradingDate
  «open» := values.open
  high := values.high
  low := values.low
  close := values.close
  volume := values.volume
  turnover := values.turnover
  currency := instrument.currency
  availableAt := fetchedAt
  source := source
  qualityFlags := missingFlags values.volume values.turnover

/-- `_market_bar`. -/
def marketBar (instrument : BarInstrument) (fetchedAt : Instant) (rawRow : Row)
    (tradingDate : Day) : Except RowError (ValidBar r web) :=
  values r instrument rawRow >>= fun values =>
  sourceRef web (source w r rawRow tradingDate fetchedAt values) >>= fun source =>
  (bar shanghai w r instrument tradingDate fetchedAt values source).validate r

/-- `details["rejection"]` of a row. -/
def rejection (error : RowError) (rawRow : Row) : Rejection where
  errorCode := error.codeAttribute?.getD "SCHEMA_DRIFT"
  redactedPayload := rawRow.map fun (key, value) => (key, .cell value)

/-! ## A response -/

/-- How the rows are read. -/
def reader (instrument : BarInstrument) (query : BarQuery) (fetchedAt : Instant) :
    BarReader r web Row where
  key _ rawRow := parseDate web (rawRow.get "date") "date"
  item rawRow tradingDate := marketBar shanghai w r web instrument fetchedAt rawRow tradingDate
  keyCaught _ error := error.isSchema || error.isValueError
  itemCaught error := error.isSchema || error.isValueError
  note index rawRow error := quarantine r "rows" index error (rejection error rawRow)
  disorder := .cursor "BaoStock rows contain duplicate or descending trading dates"
    "INVALID_PAGINATION"
  keeps := inWindow r query

/-- `_parse_rows`. -/
def parseRows (instrument : BarInstrument) (query : BarQuery) (fetchedAt : Instant)
    (rows : List Row) : Except RowError (List (ValidBar r web) × List RowWarning) :=
  (reader shanghai w r web instrument query fetchedAt).run 0 none rows

variable {shanghai} {w} {r} {web}

/-- A row that becomes a bar is one of the instrument's, and the bar is built from it. -/
theorem marketBar_ok {instrument : BarInstrument} {fetchedAt : Instant} {rawRow : Row}
    {tradingDate : Day} {built : ValidBar r web}
    (h : marketBar shanghai w r web instrument fetchedAt rawRow tradingDate = .ok built) :
    ∃ values source, BaoStock.values r instrument rawRow = .ok values ∧
      built.val = (bar shanghai w r instrument tradingDate fetchedAt values source).stripped := by
  obtain ⟨values, hvalues, h⟩ := Raising.bind_ok.mp h
  obtain ⟨source, -, h⟩ := Raising.bind_ok.mp h
  exact ⟨values, source, hvalues, ProviderBar.validate_ok h⟩

theorem reader_item {instrument : BarInstrument} {query : BarQuery} {fetchedAt : Instant}
    (rawRow : Row) (day : Day) (built : ValidBar r web)
    (h : (reader shanghai w r web instrument query fetchedAt).item rawRow day = .ok built) :
    built.val.tradingDate = day ∧
      built.val.barId = (session shanghai).barId w r instrument.instrumentId day := by
  have hspace : ∀ c ∈ "bar_cn".toList, isWhiteSpace c = false := by decide
  have hlength : "bar_cn".length ≤ 63 := by decide
  obtain ⟨values, source, -, hbuilt⟩ := marketBar_ok h
  rw [hbuilt]
  exact ⟨rfl, DailySession.barId_stripped w r _ _ hspace hlength⟩

/-- The rows of a response are conserved. -/
theorem parseRows_conserves {instrument : BarInstrument} {query : BarQuery} {fetchedAt : Instant}
    {rows : List Row} {bars : List (ValidBar r web)} {warnings : List RowWarning}
    (hdistinct : DistinctDigests w r (session shanghai) instrument.instrumentId
      (readDays r (reader shanghai w r web instrument query fetchedAt) rows))
    (h : parseRows shanghai w r web instrument query fetchedAt rows = .ok (bars, warnings)) :
    Conserves (reader shanghai w r web instrument query fetchedAt) query rows bars warnings :=
  conserves_of_run w reader_item rfl h hdistinct

end MacroPlatform.Providers.BaoStock
