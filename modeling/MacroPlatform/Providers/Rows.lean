import MacroPlatform.Lib.RowLoop
import MacroPlatform.Providers.NewsEvent
import Mathlib.Algebra.Order.Ring.Unbundled.Rat

/-! # Rows of daily bars

The daily bars of three providers are read row by row. A row is a dict of whatever the response
held; what is read of it becomes a `MarketBar`, and a row that cannot be read becomes a warning.

* `conserves_of_run`: when a loop conserves its rows;
* `DailySession.openAt_injective`: sessions of different days open at different times.
-/

namespace MacroPlatform.Providers

open Report (Writing stableId stableId_fits)

/-! ## Values -/

/-- A value in a row. A datetime is its local time and its UTC offset, if it has one; `notATime`
is the one of pandas. -/
inductive Cell where
  | null
  | bool (value : Bool)
  | int (n : ℤ)
  | float (x : ℚ)
  | nonFinite (text : String)
  | str (s : String)
  | date (day : Day)
  | datetime (wall : Instant) (utcoffset : Option ℤ)
  | notATime
  | other (text : String)
deriving DecidableEq, Repr

abbrev Row := List (String × Cell)

/-- `row.get(key, default)`. -/
def Row.get (row : Row) (key : String) (default : Cell := .null) : Cell :=
  (row.lookup key).getD default

/-- A finite `Decimal`. -/
structure Decimal where
  negative : Bool := false
  digits : ℕ
  exponent : ℤ := 0
deriving DecidableEq, Repr

/-- The number that a `Decimal` stands for. -/
def Decimal.value (d : Decimal) : ℚ :=
  let magnitude : ℚ :=
    if 0 ≤ d.exponent then (d.digits * 10 ^ d.exponent.toNat : ℕ)
    else mkRat d.digits (10 ^ d.exponent.natAbs)
  if d.negative then -magnitude else magnitude

example : (Decimal.mk false 1205 (-2)).value = 241 / 20 := by decide +kernel

/-- The functions of the standard library and of pydantic that a row is read with. -/
structure Reading where
  /-- `repr(x)` of a finite float. -/
  floatText : ℚ → String
  /-- `str(value)` of a datetime. -/
  datetimeText : Instant → Option ℤ → String
  /-- `Decimal(text)`: `none` is an `InvalidOperation`, `some none` an infinity or a NaN. -/
  decimal : String → Option (Option Decimal)
  /-- `str(value)` of a `Decimal`. -/
  decimalText : Decimal → String
  /-- The type of the error of `Field(max_digits=38, decimal_places=18)`. -/
  decimalError : Decimal → Option String
  /-- `datetime.strptime(text, format).date()`, of the format and the text. -/
  strptime : String → String → Option Day
  /-- `float(n)`: `none` is an `OverflowError`. -/
  floatOfInt : ℤ → Option ℚ
  /-- `datetime.fromtimestamp(x / 1000, UTC)`. -/
  fromTimestamp : ℚ → Option Instant
  /-- `json.dumps(fields, sort_keys=True, ...)` of a flat dict. -/
  dumpsFields : Row → String
  /-- `str(error)` of a `ValidationError`. -/
  validationText : List ContractError → String

/-- What a provider knows of a symbol that it may ask for: `TwelveDataInstrument`,
`BaoStockInstrument`, `HkXtQuantInstrument`. -/
structure BarInstrument where
  instrumentId : String
  canonicalSymbol : String
  sourceSymbol : String
  currency : String
deriving DecidableEq, Repr

variable (w : Writing) (r : Reading) (web : Web)

/-- `str(value)` of an optional `Decimal`. -/
def Reading.optionalText : Option Decimal → Cell
  | none => .null
  | some d => .str (r.decimalText d)

/-- `value.isoformat()` of a datetime in UTC. -/
def isoformatUtc (t : Instant) : String :=
  String.ofList (Report.utcIsoformat t).toList.dropLast ++ "+00:00"

example : isoformatUtc 1785331800000000 = "2026-07-29T13:30:00+00:00" := by decide +kernel

/-- `str(value)`. -/
def Cell.text : Cell → String
  | .null => "None"
  | .bool value => if value then "True" else "False"
  | .int n => toString n
  | .float x => r.floatText x
  | .nonFinite text => text
  | .str s => s
  | .date day => day.isoformat
  | .datetime wall utcoffset => r.datetimeText wall utcoffset
  | .notATime => "NaT"
  | .other text => text

/-- `str(value)[:64]`. -/
def Cell.fragment (value : Cell) : String := String.ofList ((value.text r).toList.take 64)

/-! ## Local times -/

/-- A `ZoneInfo`: the UTC offset of a local time, and the local time of an instant, where the
years of a datetime hold it. The offsets lie less than a day apart. -/
structure Zone where
  utcoffset : Instant → ℤ
  localTime : Instant → Option Instant
  least : ℤ
  greatest : ℤ
  least_le : ∀ wall, least ≤ utcoffset wall
  le_greatest : ∀ wall, utcoffset wall ≤ greatest
  spread : greatest - least < dayMicroseconds

/-- `datetime.combine(date, time, zone).astimezone(UTC)`. -/
def Zone.at (zone : Zone) (day : Day) (time : ℤ) : Instant :=
  let wall := day * dayMicroseconds + time
  wall - zone.utcoffset wall

/-- `value.astimezone(zone).date()`. -/
def Zone.date (zone : Zone) (t : Instant) : Option Day :=
  (zone.localTime t).map (· / dayMicroseconds)

/-- `time(hours, minutes)`. -/
def clock (hours minutes : ℤ) : ℤ := (hours * 60 + minutes) * 60000000

/-- One time of two days comes earlier on the earlier day. -/
theorem Zone.at_lt (zone : Zone) {a b : ℤ} (h : a < b) (time : ℤ) :
    zone.at a time < zone.at b time := by
  have hleast := zone.least_le (a * 86400000000 + time)
  have hgreatest := zone.le_greatest (b * 86400000000 + time)
  have hspread : zone.greatest - zone.least < 86400000000 := zone.spread
  show (a * 86400000000 + time - zone.utcoffset (a * 86400000000 + time) : ℤ) <
    b * 86400000000 + time - zone.utcoffset (b * 86400000000 + time)
  omega

/-! ## Errors -/

/-- What the reading of a row raises: a `ProviderSchemaError`, a `ProviderCursorError`, a
`UsNormalizationError`, the `ValidationError` of a contract, another `ValueError`, or an
`OverflowError`. -/
inductive RowError where
  | schema (message : String) (code : String := "PROVIDER_SCHEMA_CHANGED")
  | cursor (message code : String)
  | normalization (code message : String)
  | validation (errors : List ContractError)
  | value (message : String)
  | overflow
deriving DecidableEq, Repr

/-- `str(error)`. -/
def RowError.text : RowError → String
  | .schema message _ | .cursor message _ | .value message => message
  | .normalization code message => code ++ ": " ++ message
  | .validation errors => r.validationText errors
  | .overflow => "date value out of range"

def RowError.ofParse : ParseError → RowError
  | .schema message code => .schema message code
  | .validation errors => .validation errors
  | .malformedUrl => .value "Invalid URL"

/-- `SourceRef(...)` of a bar. -/
def sourceRef (source : ProviderSource) : Except RowError (ValidSource web) :=
  (source.validate web).mapError RowError.ofParse

/-- `isinstance(error, ProviderSchemaError)`. -/
def RowError.isSchema : RowError → Bool
  | .schema .. => true
  | _ => false

/-- `isinstance(error, ValueError)`. -/
def RowError.isValueError : RowError → Bool
  | .normalization .. | .validation _ | .value _ => true
  | _ => false

/-- `error.code` of a `ProviderError`. -/
def RowError.providerCode? : RowError → Option String
  | .schema _ code | .cursor _ code => some code
  | _ => none

/-- `getattr(error, "code", ...)`. -/
def RowError.codeAttribute? : RowError → Option String
  | .schema _ code | .cursor _ code | .normalization code _ => some code
  | _ => none

/-- `None if value is None else read(value)`. -/
def Cell.optional {α : Type} (read : Cell → Except RowError α) : Cell → Except RowError (Option α)
  | .null => .ok none
  | value => (read value).map some

/-- `_rejection_details`, its error code. -/
def RowError.rejectionCode (error : RowError) : String :=
  error.providerCode?.getD "NORMALIZATION_ERROR"

/-! ## Warnings -/

/-- A value of the details of a warning. -/
inductive Detail where
  | cell (value : Cell)
  | texts (values : List String)
deriving DecidableEq

/-- `details["rejection"]`. -/
structure Rejection where
  errorCode : String
  redactedPayload : List (String × Detail)
deriving DecidableEq

/-- The `WarningItem` of a row, whose code is `PROVIDER_RECORD_QUARANTINED`. -/
structure RowWarning where
  message : Text
  scope : Text
  rejection : Rejection
  message_length : 1 ≤ message.value.length ∧ message.value.length ≤ 500

/-- `WarningItem(code="PROVIDER_RECORD_QUARANTINED", message=str(error)[:500], ...)` of the row
with an index in this list. -/
def quarantine (rowsName : String) (index : ℕ) (error : RowError) (rejection : Rejection) :
    Except RowError RowWarning :=
  let message := Text.ofString (String.ofList ((error.text r).toList.take 500))
  if h : 1 ≤ message.value.length ∧ message.value.length ≤ 500 then
    .ok
      { message := message
        scope := .ofString (rowsName ++ "[" ++ toString index ++ "]")
        rejection := rejection
        message_length := h }
  else .error (.validation (lengthErrors "message" 1 500 message.value))

/-- An error with a short text makes a warning. -/
theorem quarantine_ok {error : RowError} {message : String} (rowsName : String)
    (index : ℕ) (rejection : Rejection) (htext : error.text r = message)
    (hlength : 1 ≤ (Text.ofString (String.ofList (message.toList.take 500))).value.length ∧
      (Text.ofString (String.ofList (message.toList.take 500))).value.length ≤ 500) :
    ∃ warning, quarantine r rowsName index error rejection = .ok warning := by
  subst htext
  unfold quarantine
  rw [dif_pos hlength]
  exact ⟨_, rfl⟩

/-- A value as JSON, which has no numbers that are not finite. -/
def Cell.json (value : Cell) : Json :=
  match value with
  | .null => .null
  | .bool b => .bool b
  | .int n => .int n
  | .float x => .float x
  | _ => .str (value.text r)

def Detail.json : Detail → Json
  | .cell value => value.json r
  | .texts values => .arr (values.map .str)

/-- The warning as the contract has it. -/
def RowWarning.warningItem (warning : RowWarning) : WarningItem where
  code := .ofString "PROVIDER_RECORD_QUARANTINED"
  message := warning.message
  scope := some warning.scope
  details :=
    [("rejection", .obj
      [("error_code", .str warning.rejection.errorCode),
        ("redacted_payload", .obj
          (warning.rejection.redactedPayload.map fun (key, value) => (key, value.json r)))])]
  code_length := by decide
  message_length := warning.message_length

/-! ## `MarketBar` -/

/-- The arguments of `MarketBar(...)`. -/
structure ProviderBar where
  barId : String
  instrumentId : String
  canonicalSymbol : String
  region : Region
  interval : Interval := .d1
  barStart : Instant
  barEnd : Instant
  tradingDate : Day
  «open» : Decimal
  high : Decimal
  low : Decimal
  close : Decimal
  volume : Option Decimal
  turnover : Option Decimal := none
  currency : String
  adjustment : Adjustment := .raw
  adjustmentAsOf : Option Instant := none
  availableAt : Instant
  availabilityBasis : AvailabilityBasis := .firstSeen
  source : ValidSource web
  qualityFlags : List String := []

variable {web}

def ProviderBar.stripped (bar : ProviderBar web) : ProviderBar web :=
  { bar with
    barId := modelStrip bar.barId
    instrumentId := modelStrip bar.instrumentId
    canonicalSymbol := modelStrip bar.canonicalSymbol
    currency := modelStrip bar.currency
    qualityFlags := bar.qualityFlags.map modelStrip }

/-- `DecimalValue`. -/
def decimalErrors (location : String) (d : Decimal) : List ContractError :=
  ((r.decimalError d).map fun error => ⟨location, error⟩).toList

/-- `DecimalValue | None = Field(default=None, ge=0)`. -/
def nonNegativeErrors (location : String) : Option Decimal → List ContractError
  | none => []
  | some d =>
      if decimalErrors r location d ≠ [] then decimalErrors r location d
      else if d.value < 0 then [⟨location, "greater_than_equal"⟩]
      else []

/-- `Field(pattern=r"^[A-Z]{3}$")`. -/
def currencyErrors (currency : String) : List ContractError :=
  if currency.length = 3 ∧ ∀ c ∈ currency.toList, 'A' ≤ c ∧ c ≤ 'Z' then []
  else [⟨"currency", "string_pattern_mismatch"⟩]

/-- The checks of the fields. -/
def ProviderBar.fieldErrors (bar : ProviderBar web) : List ContractError :=
  decimalErrors r "open" bar.open ++ decimalErrors r "high" bar.high ++
    decimalErrors r "low" bar.low ++ decimalErrors r "close" bar.close ++
    nonNegativeErrors r "volume" bar.volume ++ nonNegativeErrors r "turnover" bar.turnover ++
    currencyErrors bar.currency

/-- `MarketBar.validate_bar`: the text of its `ValueError`. -/
def ProviderBar.barError (bar : ProviderBar web) : Option String :=
  if bar.barEnd ≤ bar.barStart then some "bar_start must be earlier than bar_end"
  else if min bar.open.value bar.close.value < bar.low.value ∨
      bar.high.value < max bar.open.value bar.close.value then
    some "open and close must be within low/high"
  else if bar.high.value < bar.low.value then some "low must not exceed high"
  else if bar.adjustment ≠ .raw ∧ bar.adjustmentAsOf = none then
    some "adjustment_as_of is required for adjusted bars"
  else none

variable (web)

/-- A validated `MarketBar`. -/
abbrev ValidBar := { bar : ProviderBar web // bar.fieldErrors r = [] ∧ bar.barError = none }

variable {web}

/-- `MarketBar(...)`. -/
def ProviderBar.validate (bar : ProviderBar web) : Except RowError (ValidBar r web) :=
  if hfields : bar.stripped.fieldErrors r = [] then
    match hbar : bar.stripped.barError with
    | none => .ok ⟨bar.stripped, hfields, hbar⟩
    | some message => .error (.validation [⟨"", message⟩])
  else .error (.validation (bar.stripped.fieldErrors r))

/-- The bar as it is stored and queried. -/
def ProviderBar.marketBar (bar : ProviderBar web) : MarketBar where
  barId := bar.barId
  instrumentId := bar.instrumentId
  canonicalSymbol := bar.canonicalSymbol
  region := bar.region
  interval := bar.interval
  barStart := bar.barStart
  barEnd := bar.barEnd
  tradingDate := bar.tradingDate
  «open» := bar.open.value
  high := bar.high.value
  low := bar.low.value
  close := bar.close.value
  volume := bar.volume.map Decimal.value
  currency := bar.currency
  adjustment := bar.adjustment
  availableAt := bar.availableAt
  source := bar.source.val.toSourceRef

variable {r}

theorem ProviderBar.validate_ok {bar : ProviderBar web} {built : ValidBar r web}
    (h : bar.validate r = .ok built) : built.val = bar.stripped := by
  unfold ProviderBar.validate at h
  split_ifs at h with hfields
  split at h
  · cases h
    rfl
  · cases h

/-! ## The same bar, read at another time -/

def sourceReadAt (t : Instant) (source : ValidSource web) : ValidSource web :=
  ⟨{ source.val with retrievedAt := t }, source.property⟩

def ProviderBar.readAt (t : Instant) (bar : ProviderBar web) : ProviderBar web :=
  { bar with availableAt := t, source := sourceReadAt t bar.source }

def ValidBar.readAt (t : Instant) (bar : ValidBar r web) : ValidBar r web :=
  ⟨bar.val.readAt t, bar.property⟩

@[simp] theorem ValidBar.readAt_readAt (s t : Instant) (bar : ValidBar r web) :
    ValidBar.readAt s (ValidBar.readAt t bar) = ValidBar.readAt s bar := rfl

/-- The time of a read is the only thing of a source that it changes. -/
theorem sourceRef_readAt (t : Instant) (source : ProviderSource) :
    sourceRef web { source with retrievedAt := t } =
      (sourceRef web source).map (sourceReadAt t) := by
  have hstripped : ({ source with retrievedAt := t } : ProviderSource).stripped.errors web =
      source.stripped.errors web := rfl
  by_cases hfields : source.stripped.errors web = []
  · rw [sourceRef, sourceRef, ProviderSource.validate_ok hfields,
      ProviderSource.validate_ok (hstripped.trans hfields)]
    rfl
  · rw [sourceRef, sourceRef, ProviderSource.validate, ProviderSource.validate, dif_neg hfields,
      dif_neg (hstripped ▸ hfields)]
    rfl

theorem ProviderBar.validate_of_none {bar : ProviderBar web}
    (hfields : bar.stripped.fieldErrors r = []) (hbar : bar.stripped.barError = none) :
    bar.validate r = .ok ⟨bar.stripped, hfields, hbar⟩ := by
  unfold ProviderBar.validate
  rw [dif_pos hfields]
  split
  · rfl
  · next hsome => simp [hbar] at hsome

theorem ProviderBar.validate_of_some {bar : ProviderBar web} {message : String}
    (hfields : bar.stripped.fieldErrors r = []) (hbar : bar.stripped.barError = some message) :
    bar.validate r = .error (.validation [⟨"", message⟩]) := by
  unfold ProviderBar.validate
  rw [dif_pos hfields]
  split
  · next hnone => simp [hbar] at hnone
  · next hsome =>
    rw [hbar] at hsome
    cases hsome
    rfl

/-- No check looks at the time of the reading. -/
theorem ProviderBar.validate_readAt (t : Instant) (bar : ProviderBar web) :
    (bar.readAt t).validate r = (bar.validate r).map (ValidBar.readAt t) := by
  have hfields : (bar.readAt t).stripped.fieldErrors r = bar.stripped.fieldErrors r := rfl
  have hbar : (bar.readAt t).stripped.barError = bar.stripped.barError := rfl
  by_cases hempty : bar.stripped.fieldErrors r = []
  · cases hcontent : bar.stripped.barError with
    | none =>
      rw [validate_of_none hempty hcontent,
        validate_of_none (hfields.trans hempty) (hbar.trans hcontent)]
      rfl
    | some message =>
      rw [validate_of_some hempty hcontent,
        validate_of_some (hfields.trans hempty) (hbar.trans hcontent)]
      rfl
  · unfold ProviderBar.validate
    rw [dif_neg hempty, dif_neg (hfields ▸ hempty)]
    rfl

/-- The prices of a validated bar are in order. -/
theorem ValidBar.prices (bar : ValidBar r web) :
    bar.val.low.value ≤ min bar.val.open.value bar.val.close.value ∧
      max bar.val.open.value bar.val.close.value ≤ bar.val.high.value := by
  have hbar := bar.property.2
  unfold ProviderBar.barError at hbar
  split_ifs at hbar with hperiod hwithin
  obtain ⟨hlow, hhigh⟩ := not_or.mp hwithin
  exact ⟨Rat.not_lt.mp hlow, Rat.not_lt.mp hhigh⟩

/-- The flags of a bar without volume or turnover. -/
def missingFlags (volume turnover : Option Decimal) : List String :=
  (if volume = none then ["VOLUME_MISSING"] else []) ++
    if turnover = none then ["TURNOVER_MISSING"] else []

/-! ## Daily sessions -/

/-- How one provider names its bars and when their sessions open. -/
structure DailySession where
  idNamespace : String
  providerId : String
  zone : Zone
  openTime : ℤ

variable (r) (session : DailySession)

def DailySession.openAt (day : Day) : Instant := session.zone.at day session.openTime

/-- The parts of the id of a bar. -/
def DailySession.idParts (instrumentId : String) (day : Day) : List String :=
  [instrumentId, "1d", r.datetimeText (session.openAt day) (some 0), "raw", session.providerId]

/-- `stable_id(namespace, instrument_id, "1d", session_open, "raw", provider_id)`. -/
def DailySession.barId (instrumentId : String) (day : Day) : String :=
  stableId w session.idNamespace (session.idParts r instrumentId day)

/-- `str` of a datetime, `json.dumps` and SHA-256 keep the ids of the bars of these days apart. -/
structure DistinctDigests (instrumentId : String) (days : Set Day) : Prop where
  opens : Set.InjOn (fun t => r.datetimeText t (some 0)) (session.openAt '' days)
  dumps : Set.InjOn w.dumpsParts (session.idParts r instrumentId '' days)
  digests : Set.InjOn w.sha256Hex (w.dumpsParts '' (session.idParts r instrumentId '' days))

/-- An id has no white space to strip. -/
theorem DailySession.barId_stripped {session : DailySession} (instrumentId : String) (day : Day)
    (hspace : ∀ c ∈ session.idNamespace.toList, isWhiteSpace c = false)
    (hlength : session.idNamespace.length ≤ 63) :
    modelStrip (session.barId w r instrumentId day) = session.barId w r instrumentId day :=
  (stableId_fits hspace hlength).stripped

/-- Sessions of different days open at different times. -/
theorem DailySession.openAt_injective : Function.Injective session.openAt := by
  intro a b hopen
  rcases lt_trichotomy a b with hlt | heq | hlt
  · exact absurd hopen (session.zone.at_lt hlt session.openTime).ne
  · exact heq
  · exact absurd hopen (session.zone.at_lt hlt session.openTime).ne'

/-- Two bars of one instrument with one id are of one day. -/
theorem DistinctDigests.barId_inj {session : DailySession} {instrumentId : String}
    {days : Set Day} (h : DistinctDigests w r session instrumentId days) {a b : Day}
    (ha : a ∈ days) (hb : b ∈ days)
    (hid : session.barId w r instrumentId a = session.barId w r instrumentId b) : a = b := by
  have hdigest : w.sha256Hex (w.dumpsParts (session.idParts r instrumentId a)) =
      w.sha256Hex (w.dumpsParts (session.idParts r instrumentId b)) := by
    unfold DailySession.barId stableId at hid
    exact String.append_right_inj _ |>.mp hid
  have haParts := Set.mem_image_of_mem (session.idParts r instrumentId) ha
  have hbParts := Set.mem_image_of_mem (session.idParts r instrumentId) hb
  have hdumps := h.digests (Set.mem_image_of_mem _ haParts) (Set.mem_image_of_mem _ hbParts) hdigest
  have htext : r.datetimeText (session.openAt a) (some 0) =
      r.datetimeText (session.openAt b) (some 0) := by
    simpa [DailySession.idParts] using h.dumps haParts hbParts hdumps
  exact session.openAt_injective
    (h.opens (Set.mem_image_of_mem _ ha) (Set.mem_image_of_mem _ hb) htext)

/-! ## What a loop over rows keeps -/

variable {ρ : Type} (web)

/-- A loop over the rows of one response. -/
abbrev BarReader (ρ : Type) := RowLoop.Reader ρ Day (ValidBar r web) RowWarning RowError

variable {web}

/-- `query.start <= bar.bar_start < query.end`. -/
def inWindow (query : BarQuery) (bar : ValidBar r web) : Bool :=
  decide (query.start ≤ bar.val.barStart ∧ bar.val.barStart < query.stop)

/-- The days that the loop reads. -/
def readDays (reader : BarReader r web ρ) (rows : List ρ) : Set Day :=
  {day | ∃ i row, rows[i]? = some row ∧ reader.key i row = .ok day}

variable {r}

/-- The rows of a response became these bars and warnings: each row is exactly one of a bar that
is returned, a valid bar outside the window, and one warning. -/
structure Conserves (reader : BarReader r web ρ) (query : BarQuery) (rows : List ρ)
    (bars : List (ValidBar r web)) (warnings : List RowWarning) : Prop where
  accounted : ∃ outcomes : List (RowLoop.Outcome (ValidBar r web) RowWarning),
    outcomes.length = rows.length ∧
      bars = outcomes.filterMap RowLoop.Outcome.kept? ∧
      warnings = outcomes.filterMap RowLoop.Outcome.noted? ∧
      (∀ bar ∈ outcomes.filterMap RowLoop.Outcome.passed?, ¬ inWindow r query bar) ∧
      ∀ i row, rows[i]? = some row → ∃ outcome, outcomes[i]? = some outcome ∧
        reader.Accounts i row outcome ∧ ∀ other, reader.Accounts i row other → other = outcome
  increasing : (bars.map fun bar => bar.val.tradingDate).Pairwise (· < ·)
  inside : ∀ bar ∈ bars, query.start ≤ bar.val.barStart ∧ bar.val.barStart < query.stop
  distinct : (bars.map fun bar => bar.val.barId).Nodup
  prices : ∀ bar ∈ bars, bar.val.low.value ≤ min bar.val.open.value bar.val.close.value ∧
    max bar.val.open.value bar.val.close.value ≤ bar.val.high.value

/-- A loop conserves its rows when every bar that it builds has the day that was read as its
trading date, and an id of that day. -/
theorem conserves_of_run {reader : BarReader r web ρ} {session : DailySession}
    {instrumentId : String} {query : BarQuery} {rows : List ρ} {bars : List (ValidBar r web)}
    {warnings : List RowWarning}
    (hitem : ∀ row day bar, reader.item row day = .ok bar →
      bar.val.tradingDate = day ∧ bar.val.barId = session.barId w r instrumentId day)
    (hkeeps : reader.keeps = inWindow r query)
    (hrun : reader.run 0 none rows = .ok (bars, warnings))
    (hdistinct : DistinctDigests w r session instrumentId (readDays r reader rows)) :
    Conserves reader query rows bars warnings := by
  -- a bar that is kept was read from a row of its day
  have hkept : ∀ bar ∈ bars, bar.val.tradingDate ∈ readDays r reader rows ∧
      bar.val.barId = session.barId w r instrumentId bar.val.tradingDate ∧
      inWindow r query bar = true := by
    intro bar hbar
    rcases RowLoop.Reader.run_kept hrun bar hbar with ⟨j, row, day, hrow, hkey, hread, hkeep⟩
    obtain ⟨hdate, hid⟩ := hitem row day bar hread
    rw [hdate]
    exact ⟨⟨0 + j, row, by rwa [Nat.zero_add], hkey⟩, hid, hkeeps ▸ hkeep⟩
  have hincreasing := (RowLoop.Reader.run_increasing
    (fun row day bar hread => (hitem row day bar hread).1) hrun).1
  refine ⟨?_, List.pairwise_map.mpr hincreasing, ?_, ?_, fun bar _ => ValidBar.prices bar⟩
  -- every row comes to one outcome
  · obtain ⟨outcomes, hlength, hbars, hwarnings, hall⟩ := RowLoop.Reader.run_accounted hrun
    have haccounts : ∀ i row, rows[i]? = some row → ∃ outcome, outcomes[i]? = some outcome ∧
        reader.Accounts i row outcome := by
      intro i row hrow
      obtain ⟨outcome, hget, haccount⟩ := hall i row hrow
      rw [Nat.zero_add] at haccount
      exact ⟨outcome, hget, haccount⟩
    refine ⟨outcomes, hlength, hbars, hwarnings, ?_, ?_⟩
    · -- a bar that was passed over is the one of the row with its index
      intro bar hbar
      obtain ⟨outcome, hmem, hpassed⟩ := List.mem_filterMap.mp hbar
      obtain ⟨i, hi, hget⟩ := List.getElem_of_mem hmem
      obtain ⟨found, hfound, haccount⟩ :=
        haccounts i rows[i] (List.getElem?_eq_getElem (hlength ▸ hi))
      rw [List.getElem?_eq_getElem hi, hget] at hfound
      cases hfound
      cases outcome with
      | passed b =>
        cases hpassed
        obtain ⟨day, -, -, hout⟩ := haccount
        rw [← hkeeps, hout]
        exact Bool.false_ne_true
      | kept | noted => cases hpassed
    · intro i row hrow
      obtain ⟨outcome, hget, haccount⟩ := haccounts i row hrow
      exact ⟨outcome, hget, haccount, fun other hother => haccount.unique hother⟩
  · intro bar hbar
    simpa [inWindow] using (hkept bar hbar).2.2
  · -- equal ids would be ids of one day, and the days increase
    refine List.pairwise_map.mpr (hincreasing.imp_of_mem ?_)
    intro a b ha hb hlt hsame
    obtain ⟨haDay, haId, -⟩ := hkept a ha
    obtain ⟨hbDay, hbId, -⟩ := hkept b hb
    rw [haId, hbId] at hsame
    exact absurd (DistinctDigests.barId_inj w r hdistinct haDay hbDay hsame) (ne_of_lt hlt)

end MacroPlatform.Providers
