import MacroPlatform.Contracts.Civil
import MacroPlatform.Providers.DateOnlyNews
import MacroPlatform.Providers.Rows

/-! # The release calendar of the NBS

The calendar is a table with a row for each release and a column for each month. A cell holds a day
and perhaps a time, which may also stand in the row below. The parser takes the table as it comes:
rows are ragged, columns are looked up by their heading, and the numbers of the cells become dates
and times.

* `readEntry_cases`: an entry is read, refused, or nowhere;
* `releaseIds_nodup`: entries that are read have ids of their own;
* `parseNbsReleaseCalendar_ends_iff`: which calendars end in releases or in a schema error;
* `februaryCalendar_fails`: a date that does not exist.
-/

namespace MacroPlatform.Providers

open Report (Writing stableId stableId_fits)

/-! ## Macro releases -/

/-- `MacroRelease.status`. -/
inductive ReleaseStatus where
  | scheduled
  | released
  | delayed
  | cancelled
deriving DecidableEq, Repr

/-- `MacroRelease`. -/
structure ProviderRelease (web : Web) where
  releaseId : String
  seriesId : String
  region : Region
  releaseName : String
  scheduledAt : Option Instant
  scheduledDate : Option Day
  timePrecision : TimePrecision
  releasedAt : Option Instant
  availableAt : Instant
  periodStart : Day
  periodEnd : Day
  actual : Option DecimalValue
  consensus : Option DecimalValue
  previous : Option DecimalValue
  unit : String
  status : ReleaseStatus
  source : ValidSource web

namespace ProviderRelease

variable {web : Web}

def stripped (release : ProviderRelease web) : ProviderRelease web :=
  { release with
    releaseId := modelStrip release.releaseId
    seriesId := modelStrip release.seriesId
    releaseName := modelStrip release.releaseName
    unit := modelStrip release.unit }

/-- `MacroRelease.validate_time_precision`: the text of its `ValueError`. -/
def timeError (release : ProviderRelease web) : Option String :=
  match release.timePrecision with
  | .instant =>
    if release.scheduledAt = none ∨ release.scheduledDate ≠ none then
      some "instant macro releases require scheduled_at and must not set scheduled_date"
    else none
  | .date =>
    if release.scheduledDate = none ∨ release.scheduledAt ≠ none then
      some "date macro releases require scheduled_date and must not set scheduled_at"
    else none

end ProviderRelease

/-- A validated `MacroRelease`. -/
abbrev ValidRelease (web : Web) := { release : ProviderRelease web // release.timeError = none }

/-- `MacroRelease(...)`. -/
def ProviderRelease.validate {web : Web} (release : ProviderRelease web) :
    Except ParseError (ValidRelease web) :=
  match h : release.stripped.timeError with
  | none => .ok ⟨release.stripped, h⟩
  | some error => .error (.validation [⟨"", error⟩])

theorem ProviderRelease.validate_ok {web : Web} {release : ProviderRelease web}
    (h : release.stripped.timeError = none) : release.validate = .ok ⟨release.stripped, h⟩ := by
  simp only [ProviderRelease.validate]
  split
  · rfl
  · rename_i error herror
    rw [h] at herror
    cases herror

/-! ## The table -/

/-- What the calendar is read with. -/
structure CalendarReading where
  unicode : Unicode
  /-- `str.isdigit` of one character. -/
  isDigit : Char → Bool
  /-- The calls of `HTMLParser.feed` and `close`; `none` is the `AssertionError` of a marked section
  that it does not know. -/
  feed : String → Option (List HtmlToken)
  /-- `ZoneInfo("Asia/Shanghai")`: its later dates are later instants, whatever the times. -/
  shanghai : Zone
  datesInOrder : ∀ a b : Day, a < b → ∀ s t, 0 ≤ s → s < dayMicroseconds → 0 ≤ t →
    t < dayMicroseconds → shanghai.at a s < shanghai.at b t

variable (cal : CalendarReading) (w : Writing) (web : Web)

/-- What the parser of the calendar raises: as the other parsers do, the `AssertionError` of
`HTMLParser`, the `ValueError` of `date`, or the `OverflowError` of `astimezone`. -/
inductive CalendarError where
  | parse (error : ParseError)
  | markup
  | invalidDate
  | overflow
deriving DecidableEq, Repr

def calendarDrift (message : String) : CalendarError := .parse (schemaDrift message)

/-- `_TableParser`. -/
structure TableParser where
  rows : List (List String) := []
  row : Option (List String) := none
  cell : Option (List String) := none

def TableParser.handleStarttag (parser : TableParser) (tag : String) : TableParser :=
  if tag = "tr" then { parser with row := some [] }
  else if (tag = "td" ∨ tag = "th") ∧ parser.row ≠ none then { parser with cell := some [] }
  else parser

def TableParser.handleData (parser : TableParser) (text : String) : TableParser :=
  { parser with cell := parser.cell.map (· ++ [text]) }

def TableParser.handleEndtag (parser : TableParser) (tag : String) : TableParser :=
  if tag = "td" ∨ tag = "th" then
    match parser.cell, parser.row with
    | some cell, some row =>
      { parser with
        row := some (row ++ [" ".intercalate (pySplit (String.join cell))])
        cell := none }
    | _, _ => parser
  else if tag = "tr" then
    match parser.row with
    | some row => { parser with rows := parser.rows ++ [row], row := none }
    | none => parser
  else parser

def TableParser.handle (parser : TableParser) : HtmlToken → TableParser
  | .starttag tag _ => parser.handleStarttag tag
  | .data text => parser.handleData text
  | .endtag tag => parser.handleEndtag tag

/-- `_TableParser.parse`. -/
def TableParser.parse (tokens : List HtmlToken) : List (List String) :=
  (tokens.foldl TableParser.handle {}).rows

/-! ## The columns of the months -/

/-- `columns[month] = column` of a dict in the order of its keys. -/
def setColumn (columns : List (ℕ × ℕ)) (month column : ℕ) : List (ℕ × ℕ) :=
  if month ∈ columns.map Prod.fst then
    columns.map fun entry => if entry.1 = month then (month, column) else entry
  else columns ++ [(month, column)]

/-- The months of a row, each with the last column that it heads. -/
def monthColumns (row : List String) : List (ℕ × ℕ) :=
  row.zipIdx.foldl (fun columns cell =>
    (List.range' 1 12).foldl (fun columns month =>
      if pyStrip cell.1 = toString month ++ "月" then setColumn columns month cell.2
      else columns) columns) []

/-- `_find_schedule_header`; `none` is its `ProviderSchemaError`. -/
def findScheduleHeader (rows : List (List String)) : Option (ℕ × List (ℕ × ℕ)) :=
  rows.zipIdx.findSome? fun (row, index) =>
    if "内容" ∈ row ∧ monthColumns row ≠ [] then some (index, monthColumns row) else none

/-! ## The cells -/

/-- `\d` of a pattern. -/
def CalendarReading.isDecimal (c : Char) : Bool := (cal.unicode.decimal c).isSome

/-- `\w` of a pattern. -/
def CalendarReading.isWord (c : Char) : Bool := cal.unicode.isAlnum c || c = '_'

/-- `int(text)` of decimals. -/
def CalendarReading.toNat (digits : List Char) : ℕ :=
  digits.foldl (fun n c => 10 * n + ((cal.unicode.decimal c).elim 0 Fin.val)) 0

/-- What `_MONTH_PATTERN` finds in a cell. -/
structure MonthMatch where
  day : List Char
  time : Option (List Char × List Char)

/-- `\d{1,2}:\d{2}` of the whole text. -/
def matchTime (text : List Char) : Option (List Char × List Char) :=
  let hour := text.takeWhile cal.isDecimal
  match text.dropWhile cal.isDecimal with
  | ':' :: minute =>
    if (hour.length = 1 ∨ hour.length = 2) ∧ minute.length = 2 ∧ minute.all cal.isDecimal then
      some (hour, minute)
    else none
  | _ => none

/-- `_MONTH_PATTERN.match` of a stripped text. What is no decimal after the slash is passed over, so
a time can only begin at the first decimal. -/
def matchMonth (text : String) : Option MonthMatch :=
  let day := text.toList.takeWhile cal.isDecimal
  if day.length = 1 ∨ day.length = 2 then
    match (text.toList.dropWhile cal.isDecimal).dropWhile isPySpace with
    | '/' :: rest =>
      match rest.dropWhile (!cal.isDecimal ·) with
      | [] => some ⟨day, none⟩
      | time => (matchTime cal time).map fun time => ⟨day, some time⟩
    | _ => none
  else none

/-- `\b` between two characters, or at an end of the text. -/
def wordBoundary (before after : Option Char) : Bool :=
  (before.any cal.isWord) != (after.any cal.isWord)

/-- A match of `\b\d{1,2}:\d{2}\b` that begins here, with so many digits of the hour. -/
def timeHere (before : Option Char) (text : List Char) (hourDigits : ℕ) : Option (List Char) :=
  let hour := text.take hourDigits
  match text.drop hourDigits with
  | ':' :: rest =>
    if wordBoundary cal before text.head? ∧ hour.length = hourDigits ∧ hour.all cal.isDecimal ∧
        (rest.take 2).length = 2 ∧ (rest.take 2).all cal.isDecimal ∧
        wordBoundary cal rest[1]? rest[2]? then some (hour ++ ':' :: rest.take 2)
    else none
  | _ => none

/-- `re.search(r"\b\d{1,2}:\d{2}\b", text)`. -/
def searchTime (before : Option Char) : List Char → Option (List Char)
  | [] => none
  | c :: rest =>
    ((timeHere cal before (c :: rest) 2).or (timeHere cal before (c :: rest) 1)).or
      (searchTime (some c) rest)

/-- `_row_month_value`. -/
def rowMonthValue (rows : List (List String)) (rowIndex : ℕ) (row : List String) (column : ℕ) :
    String :=
  let value := row[column]?.getD ""
  if (matchMonth cal (pyStrip value)).isNone ∨ ':' ∈ value.toList then value
  else
    match rows[rowIndex + 1]? with
    | none => value
    | some continuation =>
      let continuationIndex :=
        if continuation.length ≤ column ∧ 2 ≤ column then column - 2 else column
      match continuation[continuationIndex]? with
      | none => value
      | some below =>
        match searchTime cal none below.toList with
        | none => value
        | some time => value ++ " " ++ String.ofList time

/-- A cell with a day in it, of a row with a name. -/
structure CalendarEntry where
  name : String
  month : ℕ
  day : ℕ
  /-- The hour and the minute. -/
  time : Option (ℕ × ℕ)
deriving DecidableEq, Repr

/-- The name of a release; rows without one are passed over. -/
def releaseName (row : List String) : Option String :=
  match row with
  | _ :: cell :: _ =>
    let name := pyStrip cell
    if name = "" ∨ (name.toList.all cal.isDigit) = true ∨ name ∈ ["内容", "合计"] then none
    else some name
  | _ => none

/-- The entry of a cell. -/
def cellEntry (rows : List (List String)) (rowIndex : ℕ) (row : List String) (name : String)
    (column : ℕ × ℕ) : Option CalendarEntry :=
  if row.length ≤ column.2 then none
  else
    (matchMonth cal (pyStrip (rowMonthValue cal rows rowIndex row column.2))).map fun found =>
      { name := name
        month := column.1
        day := cal.toNat found.day
        time := found.time.map fun time => (cal.toNat time.1, cal.toNat time.2) }

/-- The entries of the rows below the header, in the order of the loops. -/
def scheduleEntries (rows : List (List String)) (headerIndex : ℕ) (columns : List (ℕ × ℕ)) :
    List CalendarEntry :=
  (rows.zipIdx.drop (headerIndex + 1)).flatMap fun (row, rowIndex) =>
    match releaseName cal row with
    | none => []
    | some name => columns.filterMap (cellEntry cal rows rowIndex row name)

/-! ## The releases -/

/-- `CN_NBS_SERIES_ID`. -/
def cnNbsSeriesId : String := "macro:CN:NBS:release_calendar"

/-- `datetime.combine(release_date, _parse_time(...), _CN_TIMEZONE).astimezone(UTC)`, of a time that
the cell has. -/
def scheduledAt (releaseDate : Day) : Option (ℕ × ℕ) → Except CalendarError (Option Instant)
  | none => .ok none
  | some (hour, minute) =>
    if 23 < hour ∨ 59 < minute then .error (calendarDrift "NBS schedule contains an invalid time")
    else
      let instant := cal.shanghai.at releaseDate (clock hour minute)
      if datetimeMin ≤ instant ∧ instant ≤ datetimeMax then .ok (some instant)
      else .error .overflow

/-- The parts of `release_id`. -/
def releaseIdParts (releaseDate : Day) (scheduledAt : Option Instant) (name : String) :
    List String :=
  [cnNbsSeriesId, scheduledAt.elim releaseDate.isoformat isoformatUtc, name]

/-- `source_ref(...)` of an entry. The parts of its id are a list, which has no keys to sort. -/
def calendarSource (year : ℤ) (fetchedAt : Instant) (sourceUrl : String)
    (entry : CalendarEntry) : ProviderSource where
  providerId := "cn.nbs.release-calendar.v1"
  providerRecordId := "cn-nbs-release_" ++ w.sha256Hex (w.dumpsPayload
    (.arr [.int year, .int entry.month, .int entry.day, .str entry.name]))
  sourceName := "National Bureau of Statistics of China release calendar"
  sourceUrl := some sourceUrl
  retrievedAt := fetchedAt
  checksumSha256 := canonicalJsonChecksum w
    (.obj [("year", .int year), ("month", .int entry.month), ("day", .int entry.day),
      ("release_name", .str entry.name)])

/-- The arguments of `MacroRelease(...)` of an entry. -/
def calendarRelease {web : Web} (fetchedAt : Instant) (entry : CalendarEntry)
    (releaseDate : Day) (scheduledAt : Option Instant) (source : ValidSource web) :
    ProviderRelease web where
  releaseId := stableId w "rel" (releaseIdParts releaseDate scheduledAt entry.name)
  seriesId := cnNbsSeriesId
  region := .cn
  releaseName := entry.name
  scheduledAt := scheduledAt
  scheduledDate := if entry.time = none then some releaseDate else none
  timePrecision := if entry.time = none then .date else .instant
  releasedAt := none
  availableAt := fetchedAt
  periodStart := releaseDate
  periodEnd := releaseDate
  actual := none
  consensus := none
  previous := none
  unit := "unknown"
  status := .scheduled
  source := source

variable (year : ℤ) (fetchedAt : Instant) (sourceUrl : String)

/-- The release of an entry that has a date. -/
def readRelease (entry : CalendarEntry) (releaseDate : Day) :
    Except CalendarError (ValidRelease web) :=
  scheduledAt cal releaseDate entry.time >>= fun scheduled =>
  ((calendarSource w year fetchedAt sourceUrl entry).validate web).mapError .parse >>=
    fun source =>
  (calendarRelease w fetchedAt entry releaseDate scheduled source).validate.mapError .parse

/-- The loops of `parse_nbs_release_calendar`, with the keys seen so far. -/
def readEntries (seen : List (String × Day)) :
    List CalendarEntry → Except CalendarError (List (ValidRelease web))
  | [] => .ok []
  | entry :: rest =>
    if entry.day < 1 ∨ 31 < entry.day then
      .error (calendarDrift "NBS schedule contains an invalid day")
    else
      match Day.ofDate? year entry.month entry.day with
      | none => .error .invalidDate
      | some releaseDate =>
        if (entry.name, releaseDate) ∈ seen then readEntries seen rest
        else
          readRelease cal w web year fetchedAt sourceUrl entry releaseDate >>= fun release =>
          readEntries ((entry.name, releaseDate) :: seen) rest >>= fun releases =>
          .ok (release :: releases)

/-- `parse_nbs_release_calendar` as `CnNbsReleaseProvider` calls it. -/
def parseNbsReleaseCalendar (html : String) : Except CalendarError (List (ValidRelease web)) :=
  match cal.feed html with
  | none => .error .markup
  | some tokens =>
    let rows := TableParser.parse tokens
    match findScheduleHeader rows with
    | none => .error (calendarDrift "NBS release calendar header is missing month columns")
    | some (headerIndex, columns) =>
      readEntries cal w web year fetchedAt sourceUrl []
        (scheduleEntries cal rows headerIndex columns) >>= fun parsed =>
      if parsed.isEmpty then
        .error (calendarDrift "NBS release calendar has no parseable schedule rows")
      else .ok parsed

/-! ## Cells that the parser fails on -/

variable {cal w web year fetchedAt sourceUrl}

/-- `day < 1 or day > 31` is not so. -/
def CalendarEntry.DayInRange (entry : CalendarEntry) : Prop := 1 ≤ entry.day ∧ entry.day ≤ 31

def CalendarEntry.TimeInRange (entry : CalendarEntry) : Prop :=
  ∀ time ∈ entry.time, time.1 ≤ 23 ∧ time.2 ≤ 59

/-- `date(year, month, day)` of the entry. -/
def CalendarEntry.date? (year : ℤ) (entry : CalendarEntry) : Option Day :=
  Day.ofDate? year entry.month entry.day

/-- A cell that the checks of the parser refuse. -/
def CalendarEntry.Refused (year : ℤ) (entry : CalendarEntry) : Prop :=
  ¬ entry.DayInRange ∨ (∃ date, entry.date? year = some date) ∧ ¬ entry.TimeInRange

/-- A cell that passes the checks although its date does not exist, or its time not in UTC. -/
def CalendarEntry.Nowhere (cal : CalendarReading) (year : ℤ) (entry : CalendarEntry) : Prop :=
  entry.DayInRange ∧ (entry.date? year = none ∨
    ∃ date, entry.date? year = some date ∧ entry.TimeInRange ∧ ∃ time ∈ entry.time,
      ¬ (datetimeMin ≤ cal.shanghai.at date (clock time.1 time.2) ∧
        cal.shanghai.at date (clock time.1 time.2) ≤ datetimeMax))

/-- The entries without those that repeat the name and the date of an earlier one. -/
def distinctEntries (year : ℤ) (seen : List (String × Day)) :
    List CalendarEntry → List CalendarEntry
  | [] => []
  | entry :: rest =>
    match entry.date? year with
    | none => entry :: distinctEntries year seen rest
    | some date =>
      if (entry.name, date) ∈ seen then distinctEntries year seen rest
      else entry :: distinctEntries year ((entry.name, date) :: seen) rest

/-- The cells with a day in the calendar. -/
def calendarEntries (cal : CalendarReading) (tokens : List HtmlToken) : List CalendarEntry :=
  match findScheduleHeader (TableParser.parse tokens) with
  | none => []
  | some (headerIndex, columns) =>
    scheduleEntries cal (TableParser.parse tokens) headerIndex columns

/-- A date that exists has a day in range. -/
theorem CalendarEntry.dayInRange_of_date {entry : CalendarEntry} {date : Day}
    (h : entry.date? year = some date) : entry.DayInRange := by
  simp only [CalendarEntry.date?, Day.ofDate?] at h
  split at h
  · rename_i hvalid
    rcases hvalid with ⟨-, -, hday, hday'⟩
    have hshort : daysInMonth year entry.month ≤ 31 := by
      simp only [daysInMonth]
      split <;> split <;> omega
    constructor <;> omega
  · cases h

theorem CalendarEntry.not_nowhere_of_refused {entry : CalendarEntry} (h : entry.Refused year) :
    ¬ entry.Nowhere cal year := by
  rintro ⟨hday, hplace⟩
  rcases h with hrefused | ⟨⟨date, hdate⟩, htime⟩
  · exact hrefused hday
  · rcases hplace with hnone | ⟨-, -, hrange, -⟩
    · rw [hdate] at hnone
      cases hnone
    · exact htime hrange

/-! ## One entry -/

/-- What the loop makes of an entry that is not skipped. -/
def readEntry (cal : CalendarReading) (w : Writing) (web : Web) (year : ℤ) (fetchedAt : Instant)
    (sourceUrl : String) (entry : CalendarEntry) : Except CalendarError (ValidRelease web) :=
  if entry.day < 1 ∨ 31 < entry.day then
    .error (calendarDrift "NBS schedule contains an invalid day")
  else
    match entry.date? year with
    | none => .error .invalidDate
    | some releaseDate => readRelease cal w web year fetchedAt sourceUrl entry releaseDate

/-- Entries are skipped only when they would have been read. -/
theorem readEntries_eq (seen : List (String × Day)) (entries : List CalendarEntry) :
    readEntries cal w web year fetchedAt sourceUrl seen entries =
      (distinctEntries year seen entries).mapM (readEntry cal w web year fetchedAt sourceUrl) := by
  -- the loop skips an entry whose name and date it has seen
  induction entries generalizing seen with
  | nil => rfl
  | cons entry rest ih =>
    cases hdate : entry.date? year with
    -- without a date the entry fails where it stands
    | none =>
      have hdate' : Day.ofDate? year entry.month entry.day = none := hdate
      simp only [distinctEntries, hdate, readEntries, hdate', List.mapM_cons, readEntry]
      split <;> rfl
    | some date =>
      have hdate' : Day.ofDate? year entry.month entry.day = some date := hdate
      have hday : ¬ (entry.day < 1 ∨ 31 < entry.day) := by
        rcases CalendarEntry.dayInRange_of_date hdate with ⟨hlow, hhigh⟩
        omega
      by_cases hseen : (entry.name, date) ∈ seen
      · simp only [distinctEntries, hdate, readEntries, hdate', if_neg hday, if_pos hseen, ih]
      · simp only [distinctEntries, hdate, readEntries, hdate', if_neg hday, if_neg hseen, ih,
          List.mapM_cons, readEntry]
        rfl

/-- A calendar page makes a source without errors. -/
theorem calendarSource_valid {entry : CalendarEntry} (hurl : web.httpUrlError sourceUrl = none) :
    (calendarSource w year fetchedAt sourceUrl entry).stripped.errors web = [] := by
  have hprovider : Report.FitsText 2 64 "cn.nbs.release-calendar.v1" := by
    refine ⟨?_, ?_, ?_⟩ <;> decide +kernel
  have hname : Report.FitsText 1 256
      "National Bureau of Statistics of China release calendar" := by
    refine ⟨?_, ?_, ?_⟩ <;> decide +kernel
  have hrecord : Report.FitsText 1 128 ("cn-nbs-release_" ++ w.sha256Hex (w.dumpsPayload
      (.arr [.int year, .int entry.month, .int entry.day, .str entry.name]))) :=
    @Report.digestId_fits w "cn-nbs-release" _ (by decide) (by decide)
  have hlength := hrecord.atMost.trans (by decide : 128 ≤ 256)
  simp only [ProviderSource.errors, ProviderSource.stripped, calendarSource,
    hprovider.stripped, hname.stripped, hrecord.stripped, canonicalJsonChecksum,
    sha256Errors_digest, urlErrors_nil hurl, lengthErrors_nil hrecord.atLeast hlength,
    lengthErrors_nil hprovider.atLeast hprovider.atMost,
    lengthErrors_nil hname.atLeast hname.atMost, List.append_nil]

/-- The time of an entry, once its date is known. -/
theorem scheduledAt_cases {entry : CalendarEntry} {date : Day}
    (hdate : entry.date? year = some date) :
    (∃ scheduled, scheduledAt cal date entry.time = .ok scheduled ∧
      (scheduled = none ↔ entry.time = none) ∧ ¬ entry.Refused year ∧
        ¬ entry.Nowhere cal year) ∨
    (scheduledAt cal date entry.time =
      .error (calendarDrift "NBS schedule contains an invalid time") ∧ entry.Refused year) ∨
    (scheduledAt cal date entry.time = .error .overflow ∧ entry.Nowhere cal year) := by
  have hday := CalendarEntry.dayInRange_of_date hdate
  -- without a time there is only the date
  cases htime : entry.time with
  | none =>
    refine .inl ⟨none, rfl, by simp, ?_, ?_⟩
    · rintro (hbad | ⟨-, hbad⟩)
      · exact hbad hday
      · exact hbad (by simp [CalendarEntry.TimeInRange, htime])
    · rintro ⟨-, hnone | ⟨-, -, -, time, hmem, -⟩⟩
      · rw [hdate] at hnone
        cases hnone
      · rw [htime] at hmem
        cases hmem
  | some time =>
    rcases time with ⟨hour, minute⟩
    -- the time of the day is checked before the datetime is built
    by_cases hbad : 23 < hour ∨ 59 < minute
    · refine .inr (.inl ⟨by simp only [scheduledAt, if_pos hbad], .inr ⟨⟨date, hdate⟩, ?_⟩⟩)
      intro hrange
      have := hrange (hour, minute) htime
      omega
    · have hrange : entry.TimeInRange := by
        intro time hmem
        rw [htime, Option.mem_def, Option.some.injEq] at hmem
        subst hmem
        omega
      -- a datetime without a UTC time is nowhere
      by_cases hutc : datetimeMin ≤ cal.shanghai.at date (clock hour minute) ∧
          cal.shanghai.at date (clock hour minute) ≤ datetimeMax
      · refine .inl ⟨_, by simp only [scheduledAt, if_neg hbad, if_pos hutc]; rfl, by simp, ?_, ?_⟩
        · rintro (hbad | ⟨-, hbad⟩)
          · exact hbad hday
          · exact hbad hrange
        · rintro ⟨-, hnone | ⟨date', hdate', -, time, hmem, houtside⟩⟩
          · rw [hdate] at hnone
            cases hnone
          · rw [hdate, Option.some.injEq] at hdate'
            rw [htime, Option.mem_def, Option.some.injEq] at hmem
            subst hdate' hmem
            exact houtside hutc
      · exact .inr (.inr ⟨by simp only [scheduledAt, if_neg hbad, if_neg hutc],
          hday, .inr ⟨date, hdate, hrange, _, htime, hutc⟩⟩)

/-- A release passes the contract: it has the time that its precision asks for. -/
theorem readRelease_of_scheduled {entry : CalendarEntry} {date : Day} {scheduled : Option Instant}
    (hurl : web.httpUrlError sourceUrl = none)
    (hscheduled : scheduledAt cal date entry.time = .ok scheduled)
    (hnone : scheduled = none ↔ entry.time = none) :
    ∃ release, readRelease cal w web year fetchedAt sourceUrl entry date = .ok release ∧
      release.1.releaseId = stableId w "rel" (releaseIdParts date scheduled entry.name) := by
  have hsource : (calendarSource w year fetchedAt sourceUrl entry).stripped.errors web = [] :=
    calendarSource_valid hurl
  have hid : Report.FitsText 1 128 (stableId w "rel" (releaseIdParts date scheduled entry.name)) :=
    stableId_fits (by decide) (by decide)
  have htime : (calendarRelease w fetchedAt entry date scheduled
      ⟨_, hsource⟩).stripped.timeError = none := by
    by_cases hdated : entry.time = none
    · simp [ProviderRelease.timeError, ProviderRelease.stripped, calendarRelease, hdated,
        hnone.mpr hdated]
    · have hsome : scheduled ≠ none := fun h => hdated (hnone.mp h)
      simp [ProviderRelease.timeError, ProviderRelease.stripped, calendarRelease, hdated, hsome]
  refine ⟨⟨_, htime⟩, ?_, hid.stripped⟩
  simp only [readRelease, hscheduled, Raising.ok_bind, ProviderSource.validate, dif_pos hsource,
    Except.mapError, ProviderRelease.validate_ok htime]

/-- An entry is read, refused, or nowhere. -/
theorem readEntry_cases (hurl : web.httpUrlError sourceUrl = none) (entry : CalendarEntry) :
    (∃ date scheduled release, entry.date? year = some date ∧
      scheduledAt cal date entry.time = .ok scheduled ∧
      readEntry cal w web year fetchedAt sourceUrl entry = .ok release ∧
      release.1.releaseId = stableId w "rel" (releaseIdParts date scheduled entry.name) ∧
      ¬ entry.Refused year ∧ ¬ entry.Nowhere cal year) ∨
    ((∃ message, readEntry cal w web year fetchedAt sourceUrl entry =
      .error (calendarDrift message)) ∧ entry.Refused year) ∨
    ((readEntry cal w web year fetchedAt sourceUrl entry = .error .invalidDate ∨
      readEntry cal w web year fetchedAt sourceUrl entry = .error .overflow) ∧
        entry.Nowhere cal year) := by
  -- the day of the month is checked before the date is built
  by_cases hday : entry.day < 1 ∨ 31 < entry.day
  · refine .inr (.inl ⟨⟨_, by simp only [readEntry, if_pos hday]; rfl⟩, .inl ?_⟩)
    rintro ⟨hlow, hhigh⟩
    omega
  have hrange : entry.DayInRange := by constructor <;> omega
  cases hdate : entry.date? year with
  | none =>
    exact .inr (.inr ⟨.inl (by simp only [readEntry, if_neg hday, hdate]), hrange, .inl hdate⟩)
  | some date =>
    have hread : readEntry cal w web year fetchedAt sourceUrl entry =
        readRelease cal w web year fetchedAt sourceUrl entry date := by
      simp only [readEntry, if_neg hday, hdate]
    rw [hread]
    -- the date is there, so the time decides
    rcases scheduledAt_cases hdate with
      ⟨scheduled, hscheduled, hnone, hrefused, hnowhere⟩ | ⟨herror, hrefused⟩ | ⟨herror, hnowhere⟩
    · rcases readRelease_of_scheduled hurl hscheduled hnone with ⟨release, hrelease, hid⟩
      exact .inl ⟨date, scheduled, release, rfl, hscheduled, hrelease, hid, hrefused, hnowhere⟩
    · refine .inr (.inl ⟨⟨_, by simp only [readRelease, herror]; rfl⟩, hrefused⟩)
    · exact .inr (.inr ⟨.inr (by simp only [readRelease, herror]; rfl), hnowhere⟩)

/-! ## The texts of datetimes -/

/-- The fraction of a second in the text of a datetime. -/
def fractionText (microseconds : ℤ) : String :=
  if microseconds = 0 then "" else "." ++ zeroPadded 6 microseconds

/-- The parts of a UTC time as it is written. -/
theorem isoformatUtc_eq (t : Instant) :
    isoformatUtc t = Day.isoformat (t / dayMicroseconds) ++ ("T" ++
      (zeroPadded 2 (t % dayMicroseconds / 1000000 / 3600) ++ (":" ++
      (zeroPadded 2 (t % dayMicroseconds / 1000000 / 60 % 60) ++ (":" ++
      (zeroPadded 2 (t % dayMicroseconds / 1000000 % 60) ++
      (fractionText (t % dayMicroseconds % 1000000) ++ "+00:00"))))))) := by
  have hlast : ∀ s : String, String.ofList (s ++ "Z").toList.dropLast = s := by
    intro s
    have hz : "Z".toList = ['Z'] := rfl
    rw [String.toList_append, hz, List.dropLast_concat, String.ofList_toList]
  simp only [isoformatUtc, Report.utcIsoformat, hlast]
  simp only [fractionText, String.append_assoc]

/-- Two fractions of a second with one text are equal. -/
theorem fractionText_inj {a b : ℤ} (ha : 0 ≤ a) (hb : 0 ≤ b)
    (h : fractionText a = fractionText b) : a = b := by
  have hpoint : ∀ s : String, "." ++ s ≠ "" := by
    intro s heq
    have hlength := congrArg String.length heq
    rw [String.length_append] at hlength
    have hone : ".".length = 1 := rfl
    have hzero : "".length = 0 := rfl
    omega
  simp only [fractionText] at h
  by_cases hza : a = 0 <;> by_cases hzb : b = 0
  · rw [hza, hzb]
  · rw [if_pos hza, if_neg hzb] at h
    exact absurd h.symm (hpoint _)
  · rw [if_neg hza, if_pos hzb] at h
    exact absurd h (hpoint _)
  · rw [if_neg hza, if_neg hzb, String.append_right_inj] at h
    exact zeroPadded_int_inj ha hb h

/-- A datetime lies on a date. -/
theorem date_of_datetime {t : Instant} (hmin : datetimeMin ≤ t) (hmax : t ≤ datetimeMax) :
    dateMin ≤ t / dayMicroseconds ∧ t / dayMicroseconds ≤ dateMax := by
  have hdays : ∀ n : ℤ, -719162 * 86400000000 ≤ n → n ≤ (2932896 + 1) * 86400000000 - 1 →
      -719162 ≤ n / 86400000000 ∧ n / 86400000000 ≤ 2932896 := by
    intro n hlow hhigh
    omega
  exact hdays t hmin hmax

/-- Datetimes of the same text are the same. -/
theorem isoformatUtc_inj {a b : Instant} (ha : datetimeMin ≤ a) (ha' : a ≤ datetimeMax)
    (hb : datetimeMin ≤ b) (hb' : b ≤ datetimeMax) (h : isoformatUtc a = isoformatUtc b) :
    a = b := by
  rcases date_of_datetime ha ha' with ⟨hda, hda'⟩
  rcases date_of_datetime hb hb' with ⟨hdb, hdb'⟩
  -- The parts of the time are those of a clock.
  have hclock : ∀ n : ℤ, (0 ≤ n % 86400000000 / 1000000 / 3600 ∧
      n % 86400000000 / 1000000 / 3600 < 10 ^ 2) ∧
      (0 ≤ n % 86400000000 / 1000000 / 60 % 60 ∧ n % 86400000000 / 1000000 / 60 % 60 < 10 ^ 2) ∧
      (0 ≤ n % 86400000000 / 1000000 % 60 ∧ n % 86400000000 / 1000000 % 60 < 10 ^ 2) ∧
      0 ≤ n % 86400000000 % 1000000 := by
    intro n
    omega
  have hparts : ∀ m n : ℤ, m / 86400000000 = n / 86400000000 →
      m % 86400000000 / 1000000 / 3600 = n % 86400000000 / 1000000 / 3600 →
      m % 86400000000 / 1000000 / 60 % 60 = n % 86400000000 / 1000000 / 60 % 60 →
      m % 86400000000 / 1000000 % 60 = n % 86400000000 / 1000000 % 60 →
      m % 86400000000 % 1000000 = n % 86400000000 % 1000000 → m = n := by
    intro m n
    omega
  rcases hclock a with ⟨⟨hh, hh'⟩, ⟨hm, hm'⟩, ⟨hs, hs'⟩, hf⟩
  rcases hclock b with ⟨⟨kh, kh'⟩, ⟨km, km'⟩, ⟨ks, ks'⟩, kf⟩
  have hwidth : ∀ {m n : ℤ}, 0 ≤ m → m < 10 ^ 2 → 0 ≤ n → n < 10 ^ 2 →
      (zeroPadded 2 m).length = (zeroPadded 2 n).length := by
    intro m n hm hm' hn hn'
    rw [zeroPadded_int_length (by decide) hm hm', zeroPadded_int_length (by decide) hn hn']
  rw [isoformatUtc_eq, isoformatUtc_eq] at h
  have hdates : (Day.isoformat (a / dayMicroseconds)).length =
      (Day.isoformat (b / dayMicroseconds)).length := by
    rw [Day.isoformat_length hda hda', Day.isoformat_length hdb hdb']
  rcases append_inj_of_length hdates h with ⟨hdate, h⟩
  rcases append_inj_of_length rfl h with ⟨-, h⟩
  rcases append_inj_of_length (hwidth hh hh' kh kh') h with ⟨hhour, h⟩
  rcases append_inj_of_length rfl h with ⟨-, h⟩
  rcases append_inj_of_length (hwidth hm hm' km km') h with ⟨hminute, h⟩
  rcases append_inj_of_length rfl h with ⟨-, h⟩
  rcases append_inj_of_length (hwidth hs hs' ks ks') h with ⟨hsecond, h⟩
  exact hparts a b (Day.isoformat_inj hda hda' hdb hdb' hdate)
    (zeroPadded_int_inj hh kh hhour) (zeroPadded_int_inj hm km hminute)
    (zeroPadded_int_inj hs ks hsecond)
    (fractionText_inj hf kf ((String.append_left_inj _).mp h))

theorem isoformatUtc_length_ge {t : Instant} (hmin : datetimeMin ≤ t) (hmax : t ≤ datetimeMax) :
    11 ≤ (isoformatUtc t).length := by
  rcases date_of_datetime hmin hmax with ⟨hlow, hhigh⟩
  have hmark : "T".length = 1 := rfl
  rw [isoformatUtc_eq, String.length_append, String.length_append, Day.isoformat_length hlow hhigh,
    hmark]
  omega

/-! ## The ids of releases -/

/-- A datetime that an entry is scheduled at. -/
theorem scheduledAt_some {date : Day} {time : Option (ℕ × ℕ)} {t : Instant}
    (h : scheduledAt cal date time = .ok (some t)) :
    ∃ clockTime, 0 ≤ clockTime ∧ clockTime < dayMicroseconds ∧
      t = cal.shanghai.at date clockTime ∧ datetimeMin ≤ t ∧ t ≤ datetimeMax := by
  rcases time with - | ⟨hour, minute⟩
  · cases h
  · simp only [scheduledAt] at h
    -- only a time in range with a UTC time comes to a datetime
    split at h
    · cases h
    · rename_i hrange
      split at h
      · rename_i hutc
        have ht := Option.some.inj (Except.ok.inj h)
        subst ht
        have hclock : ∀ m n : ℤ, 0 ≤ m → 0 ≤ n → m ≤ 23 → n ≤ 59 →
            0 ≤ (m * 60 + n) * 60000000 ∧ (m * 60 + n) * 60000000 < 86400000000 := by
          intro m n hm hn hm' hn'
          omega
        rcases hclock hour minute (by omega) (by omega) (by omega) (by omega) with ⟨hlow, hhigh⟩
        exact ⟨_, hlow, hhigh, rfl, hutc.1, hutc.2⟩
      · cases h

/-- The text in an id tells the date of the entry. -/
theorem date_of_idText {a b : Day} {s t : Option Instant} {time time' : Option (ℕ × ℕ)}
    (ha : dateMin ≤ a ∧ a ≤ dateMax) (hb : dateMin ≤ b ∧ b ≤ dateMax)
    (hs : scheduledAt cal a time = .ok s) (ht : scheduledAt cal b time' = .ok t)
    (h : s.elim a.isoformat isoformatUtc = t.elim b.isoformat isoformatUtc) : a = b := by
  -- a date is shorter than a datetime, so no text is both
  have hmixed : ∀ {day : Day} {instant : Instant}, dateMin ≤ day → day ≤ dateMax →
      datetimeMin ≤ instant → instant ≤ datetimeMax → day.isoformat ≠ isoformatUtc instant := by
    intro day instant hday hday' hlow hhigh heq
    have hlength := isoformatUtc_length_ge hlow hhigh
    rw [← heq, Day.isoformat_length hday hday'] at hlength
    omega
  rcases s with - | s <;> rcases t with - | t
  · exact Day.isoformat_inj ha.1 ha.2 hb.1 hb.2 h
  · rcases scheduledAt_some ht with ⟨-, -, -, -, hlow, hhigh⟩
    exact absurd h (hmixed ha.1 ha.2 hlow hhigh)
  · rcases scheduledAt_some hs with ⟨-, -, -, -, hlow, hhigh⟩
    exact absurd h.symm (hmixed hb.1 hb.2 hlow hhigh)
  · rcases scheduledAt_some hs with ⟨u, hu, hu', rfl, hlow, hhigh⟩
    rcases scheduledAt_some ht with ⟨v, hv, hv', rfl, klow, khigh⟩
    have heq := isoformatUtc_inj hlow hhigh klow khigh h
    -- datetimes of different dates are in their order, so equal ones are of one date
    rcases lt_trichotomy a b with hlt | hsame | hlt
    · exact absurd heq (cal.datesInOrder a b hlt u v hu hu' hv hv').ne
    · exact hsame
    · exact absurd heq (cal.datesInOrder b a hlt v u hv hv' hu hu').ne'

/-- The parts of the ids that the calendar gives to its entries. -/
def idPartsOf (cal : CalendarReading) (year : ℤ) (entries : List CalendarEntry) :
    Set (List String) :=
  {parts | ∃ entry ∈ entries, ∃ date scheduled, entry.date? year = some date ∧
    scheduledAt cal date entry.time = .ok scheduled ∧
    parts = releaseIdParts date scheduled entry.name}

/-- `json.dumps` and SHA-256 keep these parts of ids apart. -/
structure DistinctIds (w : Writing) (parts : Set (List String)) : Prop where
  dumps : Set.InjOn w.dumpsParts parts
  digests : Set.InjOn w.sha256Hex (w.dumpsParts '' parts)

theorem DistinctIds.parts_eq {parts : Set (List String)} (h : DistinctIds w parts)
    {a b : List String} (ha : a ∈ parts) (hb : b ∈ parts)
    (hid : stableId w "rel" a = stableId w "rel" b) : a = b := by
  have hdigest : w.sha256Hex (w.dumpsParts a) = w.sha256Hex (w.dumpsParts b) :=
    (String.append_right_inj _).mp hid
  exact h.dumps ha hb (h.digests (Set.mem_image_of_mem _ ha) (Set.mem_image_of_mem _ hb) hdigest)

/-- The entries that are read have names and dates of their own. -/
theorem distinctEntries_pairwise (year : ℤ) (seen : List (String × Day))
    (entries : List CalendarEntry) :
    ((distinctEntries year seen entries).Pairwise fun a b => ∀ da db, a.date? year = some da →
      b.date? year = some db → (a.name, da) ≠ (b.name, db)) ∧
    ∀ b ∈ distinctEntries year seen entries, b ∈ entries ∧ ∀ db, b.date? year = some db →
      (b.name, db) ∉ seen := by
  induction entries generalizing seen with
  | nil => exact ⟨List.Pairwise.nil, fun b hb => absurd hb List.not_mem_nil⟩
  | cons entry rest ih =>
    -- an entry without a date cannot agree with another one
    cases hdate : entry.date? year with
    | none =>
      simp only [distinctEntries, hdate]
      rcases ih seen with ⟨hpairs, hmem⟩
      refine ⟨List.pairwise_cons.mpr ⟨?_, hpairs⟩, ?_⟩
      · intro b hb da db hda
        rw [hdate] at hda
        cases hda
      · intro b hb
        rcases List.mem_cons.mp hb with rfl | hb
        · refine ⟨List.mem_cons_self, fun db hdb => ?_⟩
          rw [hdate] at hdb
          cases hdb
        · exact ⟨List.mem_cons_of_mem _ (hmem b hb).1, (hmem b hb).2⟩
    | some date =>
      simp only [distinctEntries, hdate]
      -- an entry that was seen is left out, a new one is remembered
      by_cases hseen : (entry.name, date) ∈ seen
      · rw [if_pos hseen]
        rcases ih seen with ⟨hpairs, hmem⟩
        exact ⟨hpairs, fun b hb => ⟨List.mem_cons_of_mem _ (hmem b hb).1, (hmem b hb).2⟩⟩
      · rw [if_neg hseen]
        rcases ih ((entry.name, date) :: seen) with ⟨hpairs, hmem⟩
        refine ⟨List.pairwise_cons.mpr ⟨?_, hpairs⟩, ?_⟩
        · intro b hb da db hda hdb heq
          rw [hdate, Option.some.injEq] at hda
          subst hda
          have hnew := (hmem b hb).2 db hdb
          rw [← heq] at hnew
          exact hnew List.mem_cons_self
        · intro b hb
          rcases List.mem_cons.mp hb with rfl | hb
          · refine ⟨List.mem_cons_self, fun db hdb => ?_⟩
            rw [hdate, Option.some.injEq] at hdb
            subst hdb
            exact hseen
          · refine ⟨List.mem_cons_of_mem _ (hmem b hb).1, fun db hdb => ?_⟩
            exact fun hold => (hmem b hb).2 db hdb (List.mem_cons_of_mem _ hold)

/-! ## What the parser comes to -/

/-- The releases of entries that are read have ids of their own. -/
theorem releaseIds_nodup (hurl : web.httpUrlError sourceUrl = none)
    {entries read : List CalendarEntry} (hsub : ∀ e ∈ read, e ∈ entries)
    (hids : DistinctIds w (idPartsOf cal year entries))
    (hpairs : read.Pairwise fun a b => ∀ da db, a.date? year = some da →
      b.date? year = some db → (a.name, da) ≠ (b.name, db))
    {releases : List (ValidRelease web)}
    (h : List.Forall₂ (fun e release => readEntry cal w web year fetchedAt sourceUrl e =
      .ok release) read releases) :
    (releases.map fun release => release.1.releaseId).Nodup := by
  -- What an entry that is read says of its id.
  have hread : ∀ {e : CalendarEntry} {release : ValidRelease web},
      readEntry cal w web year fetchedAt sourceUrl e = .ok release →
      ∃ date scheduled, e.date? year = some date ∧
        scheduledAt cal date e.time = .ok scheduled ∧
        release.1.releaseId = stableId w "rel" (releaseIdParts date scheduled e.name) := by
    intro e release hrelease
    rcases readEntry_cases hurl e with ⟨date, scheduled, release', hdate, hscheduled, hok, hid, -⟩ |
      ⟨⟨message, herror⟩, -⟩ | ⟨herror | herror, -⟩
    · rw [hrelease] at hok
      rw [← Except.ok.inj hok] at hid
      exact ⟨date, scheduled, hdate, hscheduled, hid⟩
    · rw [hrelease] at herror
      cases herror
    · rw [hrelease] at herror
      cases herror
    · rw [hrelease] at herror
      cases herror
  induction h with
  | nil => exact List.nodup_nil
  | @cons e release read releases hrelease hrest ih =>
    rcases List.pairwise_cons.mp hpairs with ⟨hfirst, hpairs⟩
    refine List.nodup_cons.mpr ⟨?_, ih (fun e he => hsub e (List.mem_cons_of_mem _ he)) hpairs⟩
    intro hmem
    rcases List.mem_map.mp hmem with ⟨other, hother, hsame⟩
    rcases Raising.exists_left hrest hother with ⟨e', he', hrelease'⟩
    rcases hread hrelease with ⟨da, sa, hda, hsa, hida⟩
    rcases hread hrelease' with ⟨db, sb, hdb, hsb, hidb⟩
    have hparts := hids.parts_eq
      ⟨e, hsub e List.mem_cons_self, da, sa, hda, hsa, rfl⟩
      ⟨e', hsub e' (List.mem_cons_of_mem _ he'), db, sb, hdb, hsb, rfl⟩
      (hida.symm.trans (hsame.symm.trans hidb))
    simp only [releaseIdParts, List.cons.injEq, true_and, and_true] at hparts
    have hdate := date_of_idText (Day.ofDate?_bounds hda) (Day.ofDate?_bounds hdb) hsa hsb hparts.1
    exact hfirst e' he' da db hda hdb (Prod.ext hparts.2 hdate)

/-- A list of releases that are told apart, or a `ProviderSchemaError`. -/
inductive ReleasesOrSchemaError {web : Web} : Except CalendarError (List (ValidRelease web)) → Prop
  | releases (releases : List (ValidRelease web)) (nonempty : releases ≠ [])
      (distinct : (releases.map fun release => release.1.releaseId).Nodup) :
      ReleasesOrSchemaError (.ok releases)
  | schemaError (message code : String) :
      ReleasesOrSchemaError (.error (.parse (.schema message code)))

/-- Every cell that passes the checks without a date comes after one that is refused. -/
def RefusedFirst (cal : CalendarReading) (year : ℤ) (entries : List CalendarEntry) : Prop :=
  ∀ before entry rest, distinctEntries year [] entries = before ++ entry :: rest →
    entry.Nowhere cal year → ∃ earlier ∈ before, earlier.Refused year

/-- The loop ends in releases or in a `ProviderSchemaError` exactly when no cell without a date is
the first to fail. -/
theorem readEntries_ends_iff (hurl : web.httpUrlError sourceUrl = none)
    {entries : List CalendarEntry} (hids : DistinctIds w (idPartsOf cal year entries)) :
    (∃ releases, readEntries cal w web year fetchedAt sourceUrl [] entries = .ok releases ∧
      (releases.map fun release => release.1.releaseId).Nodup) ∨
    (∃ message code, readEntries cal w web year fetchedAt sourceUrl [] entries =
      .error (.parse (.schema message code))) ↔ RefusedFirst cal year entries := by
  rcases distinctEntries_pairwise year [] entries with ⟨hpairs, hmem⟩
  rw [readEntries_eq]
  generalize hread : distinctEntries year [] entries = read at hpairs hmem
  -- the loop ends with the first entry that is not read
  rcases Raising.first_failing
      (fun e => ¬ e.Refused year ∧ ¬ e.Nowhere cal year) read with hall |
      ⟨before, entry, rest, rfl, hbefore, hentry⟩
  · -- Every entry is read.
    have hok : ∀ e ∈ read, ∃ release,
        readEntry cal w web year fetchedAt sourceUrl e = .ok release := by
      intro e he
      rcases readEntry_cases hurl e with ⟨-, -, release, -, -, hrelease, -⟩ | ⟨-, hrefused⟩ |
        ⟨-, hnowhere⟩
      · exact ⟨release, hrelease⟩
      · exact absurd hrefused (hall e he).1
      · exact absurd hnowhere (hall e he).2
    rcases Raising.exists_mapM_ok.mpr hok with ⟨releases, hreleases⟩
    refine iff_of_true (.inl ⟨releases, hreleases, ?_⟩) ?_
    · exact releaseIds_nodup hurl (fun e he => (hmem e he).1) hids hpairs
        (Raising.mapM_ok.mp hreleases)
    · intro before entry rest hsplit hnowhere
      rw [hread] at hsplit
      subst hsplit
      exact absurd hnowhere (hall entry (by simp)).2
  · have hok : ∀ e ∈ before, ∃ release,
        readEntry cal w web year fetchedAt sourceUrl e = .ok release := by
      intro e he
      rcases readEntry_cases hurl e with ⟨-, -, release, -, -, hrelease, -⟩ | ⟨-, hrefused⟩ |
        ⟨-, hnowhere⟩
      · exact ⟨release, hrelease⟩
      · exact absurd hrefused (hbefore e he).1
      · exact absurd hnowhere (hbefore e he).2
    -- the first entry that fails is refused or nowhere
    rcases readEntry_cases hurl entry with ⟨-, -, -, -, -, -, -, hrefused, hnowhere⟩ |
      ⟨⟨message, herror⟩, hrefused⟩ | ⟨herror, hnowhere⟩
    · exact absurd ⟨hrefused, hnowhere⟩ hentry
    · -- The first entry that fails is refused: the rest does not matter.
      refine iff_of_true (.inr ⟨message, _, Raising.mapM_error hok herror⟩) ?_
      intro before' entry' rest' hsplit hnowhere'
      rw [hread] at hsplit
      have hother : entry ≠ entry' := by
        rintro rfl
        exact CalendarEntry.not_nowhere_of_refused hrefused hnowhere'
      rcases List.append_eq_append_iff.mp hsplit with ⟨skipped, rfl, htail⟩ | ⟨skipped, rfl, htail⟩
      · rcases skipped with - | ⟨head, skipped⟩
        · exact absurd (List.cons.inj htail).1 hother
        · rw [← (List.cons.inj htail).1]
          exact ⟨entry, by simp, hrefused⟩
      · rcases skipped with - | ⟨head, skipped⟩
        · exact absurd (List.cons.inj htail).1.symm hother
        · rw [← (List.cons.inj htail).1] at hbefore
          exact absurd hnowhere' (hbefore entry' (by simp)).2
    -- an entry that is nowhere ends the loop with another error
    · refine iff_of_false ?_ ?_
      · rintro (⟨releases, hreleases, -⟩ | ⟨message, code, hmessage⟩)
        · rcases herror with herror | herror
          · rw [Raising.mapM_error hok herror] at hreleases
            cases hreleases
          · rw [Raising.mapM_error hok herror] at hreleases
            cases hreleases
        · rcases herror with herror | herror
          · rw [Raising.mapM_error hok herror] at hmessage
            cases hmessage
          · rw [Raising.mapM_error hok herror] at hmessage
            cases hmessage
      · intro hfirst
        rcases hfirst before entry rest hread hnowhere with ⟨earlier, hearlier, hrefused⟩
        exact (hbefore earlier hearlier).1 hrefused

/-- The parser of the calendar returns releases with distinct ids or raises `ProviderSchemaError`
exactly when `HTMLParser` takes the text and no cell whose date does not exist is the first to
fail. -/
theorem parseNbsReleaseCalendar_ends_iff (html : String)
    (hurl : web.httpUrlError sourceUrl = none)
    (hids : ∀ tokens, cal.feed html = some tokens →
      DistinctIds w (idPartsOf cal year (calendarEntries cal tokens))) :
    ReleasesOrSchemaError (parseNbsReleaseCalendar cal w web year fetchedAt sourceUrl html) ↔
      ∃ tokens, cal.feed html = some tokens ∧
        RefusedFirst cal year (calendarEntries cal tokens) := by
  -- `HTMLParser` takes the text, or raises
  cases hfeed : cal.feed html with
  | none =>
    refine iff_of_false ?_ (by simp)
    simp only [parseNbsReleaseCalendar, hfeed]
    rintro ⟨⟩
  | some tokens =>
    have hids := hids tokens hfeed
    simp only [Option.some.injEq, exists_eq_left', parseNbsReleaseCalendar, hfeed]
    -- without a header there are no entries
    cases hheader : findScheduleHeader (TableParser.parse tokens) with
    | none =>
      have hentries : calendarEntries cal tokens = [] := by simp only [calendarEntries, hheader]
      refine iff_of_true (.schemaError _ _) ?_
      intro before entry rest hsplit
      rw [hentries] at hsplit
      simp [distinctEntries] at hsplit
    | some header =>
      rcases header with ⟨headerIndex, columns⟩
      have hentries : calendarEntries cal tokens =
          scheduleEntries cal (TableParser.parse tokens) headerIndex columns := by
        simp only [calendarEntries, hheader]
      rw [hentries] at hids ⊢
      have hiff := @readEntries_ends_iff cal w web year fetchedAt sourceUrl hurl _ hids
      rw [← hiff]
      dsimp only
      cases hresult : readEntries cal w web year fetchedAt sourceUrl []
          (scheduleEntries cal (TableParser.parse tokens) headerIndex columns) with
      | error error =>
        show ReleasesOrSchemaError (.error error) ↔ _
        constructor
        · rintro ⟨⟩
          exact .inr ⟨_, _, rfl⟩
        · rintro (⟨releases, hreleases, -⟩ | ⟨message, code, hmessage⟩)
          · cases hreleases
          · rw [Except.error.inj hmessage]
            exact .schemaError message code
      | ok parsed =>
        rw [Raising.ok_bind]
        -- a calendar without releases is a schema error
        by_cases hempty : parsed.isEmpty
        · rw [if_pos hempty]
          rw [List.isEmpty_iff] at hempty
          subst hempty
          exact iff_of_true (.schemaError _ _) (.inl ⟨[], rfl, List.nodup_nil⟩)
        · rw [if_neg hempty]
          rw [List.isEmpty_iff] at hempty
          constructor
          · rintro ⟨_, hnonempty, hdistinct⟩
            exact .inl ⟨parsed, rfl, hdistinct⟩
          · rintro (⟨releases, hreleases, hdistinct⟩ | ⟨message, code, hmessage⟩)
            · rw [Except.ok.inj hreleases] at hempty ⊢
              exact .releases releases hempty hdistinct
            · cases hmessage

/-! ## Sample calendars -/

/-- China Standard Time. -/
def beijing : Zone where
  utcoffset _ := 28800000000
  localTime t := some (t + 28800000000)
  least := 28800000000
  greatest := 28800000000
  least_le _ := le_refl _
  le_greatest _ := le_refl _
  spread := by decide

/-- A table with one release and a column for each month, with its cell. -/
def calendarHtml (columns : List (String × String)) : String :=
  "<table><tr><th>序号</th><th>内容</th>" ++
    String.join (columns.map fun column => "<th>" ++ column.1 ++ "</th>") ++
    "</tr><tr><td>1</td><td>国民经济运行情况</td>" ++
    String.join (columns.map fun column => "<td>" ++ column.2 ++ "</td>") ++ "</tr></table>"

def calendarTokens (columns : List (String × String)) : List HtmlToken :=
  let cellTokens (tag text : String) : List HtmlToken :=
    [.starttag tag [], .data text, .endtag tag]
  .starttag "table" [] :: .starttag "tr" [] ::
    (cellTokens "th" "序号" ++ cellTokens "th" "内容" ++
      columns.flatMap (fun column => cellTokens "th" column.1) ++
      (.endtag "tr" :: .starttag "tr" [] ::
        (cellTokens "td" "1" ++ cellTokens "td" "国民经济运行情况" ++
          columns.flatMap (fun column => cellTokens "td" column.2) ++
          [.endtag "tr", .endtag "table"])))

def summerColumns : List (String × String) := [("7月", "27/一 9:30"), ("8月", "25/二")]

def februaryColumns : List (String × String) := [("2月", "30/一")]

/-- `HTMLParser` on the two samples. -/
def sampleFeed (html : String) : Option (List HtmlToken) :=
  if html = calendarHtml summerColumns then some (calendarTokens summerColumns)
  else if html = calendarHtml februaryColumns then some (calendarTokens februaryColumns)
  else none

theorem sampleFeed_summer :
    sampleFeed (calendarHtml summerColumns) = some (calendarTokens summerColumns) := by
  unfold sampleFeed
  rw [if_pos rfl]

/-- The interpreter, on a sample of each kind. -/
def sampleCalendar : CalendarReading where
  unicode := .ascii
  isDigit := Char.isDigit
  feed := sampleFeed
  shanghai := beijing
  datesInOrder a b hlt s t hs hs' ht ht' := by
    have horder : ∀ m n : ℤ, m < n →
        m * 86400000000 + s - 28800000000 < n * 86400000000 + t - 28800000000 := by
      have hday : dayMicroseconds = 86400000000 := rfl
      intro m n hmn
      omega
    exact horder a b hlt

/-- The release of the 27th of July has a time, the one of the 25th of August has none. -/
def julyEntry : CalendarEntry := ⟨"国民经济运行情况", 7, 27, some (9, 30)⟩

def augustEntry : CalendarEntry := ⟨"国民经济运行情况", 8, 25, none⟩

def julyInstant : Instant := 20661 * dayMicroseconds + 5400000000

def julyParts : List String := releaseIdParts 20661 (some julyInstant) "国民经济运行情况"

def augustParts : List String := releaseIdParts 20690 none "国民经济运行情况"

def julyDigest : String := "ae88668d946b4dbf889140efd880840fc9b48cfeb69ba6f7be6ab0f173ec70a2"

def augustDigest : String := "39e3a94b1dea5a18deb2fcd2b655f335cd23c37d51a72fe51d34348b5d3a0ca8"

/-- The digests of the ids of the two releases beside those of the sample. -/
def calendarSha256 (text : String) : String :=
  if text = sampleTextWriting.dumpsParts julyParts then julyDigest
  else if text = sampleTextWriting.dumpsParts augustParts then augustDigest
  else sampleTextWriting.sha256Hex text

def calendarWriting : Writing where
  decimal := sampleTextWriting.decimal
  dumpsParts := sampleTextWriting.dumpsParts
  dumpsPayload := sampleTextWriting.dumpsPayload
  sha256Hex := calendarSha256
  hexdigest text := by
    have hjuly : Report.IsSha256 julyDigest := by decide +kernel
    have haugust : Report.IsSha256 augustDigest := by decide +kernel
    unfold calendarSha256
    split_ifs
    · exact hjuly
    · exact haugust
    · exact sampleTextWriting.hexdigest text

/-- The two ids are written differently: the text of a datetime is longer than that of a date. -/
theorem dumps_august_ne_july :
    sampleTextWriting.dumpsParts augustParts ≠ sampleTextWriting.dumpsParts julyParts := by
  decide +kernel

theorem calendarSha256_july :
    calendarSha256 (sampleTextWriting.dumpsParts julyParts) = julyDigest := by
  unfold calendarSha256
  rw [if_pos rfl]

theorem calendarSha256_august :
    calendarSha256 (sampleTextWriting.dumpsParts augustParts) = augustDigest := by
  unfold calendarSha256
  rw [if_neg dumps_august_ne_july, if_pos rfl]

/-- Ids with digests of their own are kept apart. -/
theorem distinctIds_of_digests {cal : CalendarReading} {w : Writing} {year : ℤ}
    {entries : List CalendarEntry} {parts : List (List String)}
    (hparts : ∀ p ∈ idPartsOf cal year entries, p ∈ parts)
    (hdigests : (parts.map fun p => w.sha256Hex (w.dumpsParts p)).Nodup) :
    DistinctIds w (idPartsOf cal year entries) := by
  have hsame : ∀ a ∈ idPartsOf cal year entries, ∀ b ∈ idPartsOf cal year entries,
      w.sha256Hex (w.dumpsParts a) = w.sha256Hex (w.dumpsParts b) → a = b :=
    fun a ha b hb heq => List.inj_on_of_nodup_map hdigests (hparts a ha) (hparts b hb) heq
  refine ⟨?_, ?_⟩
  · intro a ha b hb heq
    exact hsame a ha b hb (congrArg w.sha256Hex heq)
  · rintro _ ⟨a, ha, rfl⟩ _ ⟨b, hb, rfl⟩ heq
    rw [hsame a ha b hb heq]

theorem julyEntry_date : julyEntry.date? 2026 = some 20661 := by decide +kernel

theorem augustEntry_date : augustEntry.date? 2026 = some 20690 := by decide +kernel

theorem julyEntry_scheduled :
    scheduledAt sampleCalendar 20661 julyEntry.time = .ok (some julyInstant) := by
  decide +kernel

/-- The entries of two months have ids of their own. -/
theorem summer_distinctIds :
    DistinctIds calendarWriting (idPartsOf sampleCalendar 2026 [julyEntry, augustEntry]) := by
  refine @distinctIds_of_digests _ _ _ _ [julyParts, augustParts] ?_ ?_
  · rintro _ ⟨entry, hmem, date, scheduled, hdate, hscheduled, rfl⟩
    rcases List.mem_cons.mp hmem with rfl | hlast
    · rw [julyEntry_date, Option.some.injEq] at hdate
      subst hdate
      rw [julyEntry_scheduled, Except.ok.injEq] at hscheduled
      subst hscheduled
      exact List.mem_cons_self
    · rw [List.mem_singleton] at hlast
      subst hlast
      rw [augustEntry_date, Option.some.injEq] at hdate
      subst hdate
      cases hscheduled
      exact List.mem_cons_of_mem _ List.mem_cons_self
  · show [calendarSha256 (sampleTextWriting.dumpsParts julyParts),
      calendarSha256 (sampleTextWriting.dumpsParts augustParts)].Nodup
    rw [calendarSha256_july, calendarSha256_august]
    decide

/-- A calendar of two months, with a release on a date of each. -/
theorem julyCalendar_read : ReleasesOrSchemaError
    (parseNbsReleaseCalendar sampleCalendar calendarWriting sampleWeb 2026
      (20663 * dayMicroseconds) "https://www.stats.gov.cn/sj/fbrc/bnxxfb/"
      (calendarHtml summerColumns)) := by
  have hfeed : sampleCalendar.feed (calendarHtml summerColumns) =
      some (calendarTokens summerColumns) := by
    have hsample : sampleCalendar.feed = sampleFeed := rfl
    rw [hsample]
    exact sampleFeed_summer
  have hentries : calendarEntries sampleCalendar (calendarTokens summerColumns) =
      [julyEntry, augustEntry] := by decide +kernel
  refine (parseNbsReleaseCalendar_ends_iff _ rfl ?_).mpr ⟨_, hfeed, ?_⟩
  · intro tokens htokens
    rw [hfeed, Option.some.injEq] at htokens
    subst htokens
    rw [hentries]
    exact summer_distinctIds
  · rw [hentries]
    intro before entry rest hsplit hnowhere
    have hlist : distinctEntries 2026 [] [julyEntry, augustEntry] = [julyEntry, augustEntry] := by
      decide +kernel
    have hmem : entry ∈ [julyEntry, augustEntry] := by
      rw [← hlist, hsplit]
      simp
    -- both dates exist, and the one time is a time of UTC
    rcases List.mem_cons.mp hmem with rfl | hlast
    · rcases hnowhere with ⟨-, hnone | ⟨date, hdate, -, time, htime, houtside⟩⟩
      · rw [julyEntry_date] at hnone
        cases hnone
      · rw [julyEntry_date, Option.some.injEq] at hdate
        rw [julyEntry, Option.mem_def, Option.some.injEq] at htime
        subst hdate htime
        exact absurd (by decide) houtside
    · rw [List.mem_singleton] at hlast
      subst hlast
      rcases hnowhere with ⟨-, hnone | ⟨date, -, -, time, htime, -⟩⟩
      · rw [augustEntry_date] at hnone
        cases hnone
      · cases htime

/-- The thirtieth of February passes the check of the day. -/
theorem februaryCalendar_fails : ¬ ReleasesOrSchemaError
    (parseNbsReleaseCalendar sampleCalendar sampleTextWriting sampleWeb 2026
      (20663 * dayMicroseconds) "https://www.stats.gov.cn/sj/fbrc/bnxxfb/"
      (calendarHtml februaryColumns)) := by
  have hfeed : sampleCalendar.feed (calendarHtml februaryColumns) =
      some (calendarTokens februaryColumns) := by decide +kernel
  have hheader : findScheduleHeader (TableParser.parse (calendarTokens februaryColumns)) =
      some (0, [(2, 2)]) := by decide +kernel
  have hentries : scheduleEntries sampleCalendar
      (TableParser.parse (calendarTokens februaryColumns)) 0 [(2, 2)] =
        [⟨"国民经济运行情况", 2, 30, none⟩] := by decide +kernel
  have hdate : Day.ofDate? 2026 (2 : ℕ) (30 : ℕ) = none := by decide +kernel
  simp only [parseNbsReleaseCalendar, hfeed, hheader, hentries, readEntries, hdate]
  rw [if_neg (by decide)]
  rintro ⟨⟩

end MacroPlatform.Providers
