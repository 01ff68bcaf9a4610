import Mathlib.Data.Rat.Defs
import MacroPlatform.Contracts.Common
import MacroPlatform.Contracts.Provider

/-! # Facts and the queries for them

The contracts of market bars, macro observations, macro releases and news events, with the
fields that the repositories read, and the point-in-time queries.
-/

namespace MacroPlatform

/-- `DecimalValue`. -/
abbrev DecimalValue := ℚ

/-- The microseconds of a day. -/
def dayMicroseconds : ℤ := 86400000000

/-- `value.astimezone(UTC).date()`. -/
def Instant.date (t : Instant) : Day := t / dayMicroseconds

/-- A number with leading zeros. -/
def zeroPadded (width : ℕ) (n : ℤ) : String := String.leftpad width '0' (toString n)

/-- `value.isoformat()` of a date: the civil date of a day number, by years that start in
March. -/
def Day.isoformat (day : Day) : String :=
  let shifted := day + 719468
  let era := shifted / 146097
  let dayOfEra := shifted - era * 146097
  let yearOfEra := (dayOfEra - dayOfEra / 1460 + dayOfEra / 36524 - dayOfEra / 146096) / 365
  let dayOfYear := dayOfEra - (365 * yearOfEra + yearOfEra / 4 - yearOfEra / 100)
  let monthFromMarch := (5 * dayOfYear + 2) / 153
  let month := if monthFromMarch < 10 then monthFromMarch + 3 else monthFromMarch - 9
  let year := yearOfEra + era * 400 + if month ≤ 2 then 1 else 0
  let dayOfMonth := dayOfYear - (153 * monthFromMarch + 2) / 5 + 1
  zeroPadded 4 year ++ "-" ++ zeroPadded 2 month ++ "-" ++ zeroPadded 2 dayOfMonth

example : Day.isoformat 19782 = "2024-02-29" := by decide

/-- `SourceRef`. -/
structure SourceRef where
  providerId : String
  providerRecordId : String
  sourceName : String
  checksumSha256 : String
deriving DecidableEq

/-! ## Market bars -/

/-- `Interval`. -/
inductive Interval where
  | d1
  | w1
  | mo1
deriving DecidableEq, Repr

/-- `Adjustment`. -/
inductive Adjustment where
  | raw
  | splitAdjusted
  | totalReturn
deriving DecidableEq, Repr

/-- `MarketBar`. -/
structure MarketBar where
  barId : String
  instrumentId : String
  canonicalSymbol : String
  region : Region
  interval : Interval
  barStart : Instant
  barEnd : Instant
  tradingDate : Day
  «open» : DecimalValue
  high : DecimalValue
  low : DecimalValue
  close : DecimalValue
  volume : Option DecimalValue
  currency : String
  adjustment : Adjustment
  availableAt : Instant
  source : SourceRef
deriving DecidableEq

/-- `MarketSnapshot`. -/
structure MarketSnapshot where
  instrumentId : String
  canonicalSymbol : String
  region : Region
  priceTime : Instant
  last : DecimalValue
  currency : String
  availableAt : Instant
  sourceRecords : List SourceRef
deriving DecidableEq

/-- `BarQuery`. -/
structure BarQuery where
  instrumentIds : List String
  interval : Interval
  start : Instant
  stop : Instant
  adjustment : Adjustment := .raw
  asOf : Instant
  limit : ℕ := 1000

/-- `MarketSnapshotQuery`. -/
structure MarketSnapshotQuery where
  instrumentIds : List String
  asOf : Instant

/-! ## Macro observations and releases -/

/-- `RevisionPolicy`. -/
inductive RevisionPolicy where
  | latestAsOf
  | firstRelease
  | allVintages
deriving DecidableEq, Repr

/-- `MacroObservation`. -/
structure MacroObservation where
  observationId : String
  seriesId : String
  region : Region
  periodEnd : Day
  value : Option DecimalValue
  availableAt : Instant
  vintageId : String
  revisionNo : ℕ
  source : SourceRef
deriving DecidableEq

/-- `MacroObservationQuery`. -/
structure MacroObservationQuery where
  seriesIds : List String
  periodFrom : Day
  periodTo : Day
  asOf : Instant
  revisionPolicy : RevisionPolicy := .latestAsOf
  limit : ℕ := 1000

/-- `MacroRelease`. -/
structure MacroRelease where
  releaseId : String
  seriesId : String
  region : Region
  scheduledAt : Option Instant
  scheduledDate : Option Day
  availableAt : Instant
  actual : Option DecimalValue
  status : String
  source : SourceRef
deriving DecidableEq

/-- `MacroReleaseQuery`. -/
structure MacroReleaseQuery where
  regions : List Region
  scheduledFrom : Instant
  scheduledTo : Instant
  asOf : Instant
  limit : ℕ := 500

/-! ## News -/

/-- `SourceTier`. -/
inductive SourceTier where
  | official
  | licensedMedia
  | research
  | social
  | other
deriving DecidableEq, Repr

/-- `ContentMode`. -/
inductive ContentMode where
  | headline
  | snippet
  | fullText
deriving DecidableEq, Repr

/-- `NewsEvent.status`. -/
inductive NewsStatus where
  | active
  | corrected
  | retracted
deriving DecidableEq, Repr

/-- `EntityRef`. -/
structure EntityRef where
  entityType : String
  entityId : String
deriving DecidableEq

/-- `NewsEvent`. -/
structure NewsEvent where
  newsId : String
  clusterId : Option String
  supersedesNewsId : Option String
  status : NewsStatus
  title : String
  summary : Option String
  body : Option String
  contentMode : ContentMode
  language : String
  sourceTier : SourceTier
  publishedAt : Option Instant
  publishedDate : Option Day
  availableAt : Instant
  regions : List Region
  entities : List EntityRef
  topics : List String
  source : SourceRef
deriving DecidableEq

/-- `NewsQuery`. -/
structure NewsQuery where
  regions : List Region
  publishedFrom : Instant
  publishedTo : Instant
  asOf : Instant
  entityIds : List String := []
  topics : List String := []
  languages : List String := []
  sourceTiers : List SourceTier := []
  includeSuperseded : Bool := false
  contentMode : ContentMode := .snippet
  limit : ℕ := 100

/-- `_date_only_window`: the days of `[start, stop)`. -/
def dateOnlyWindow (start stop : Instant) : Day × Day :=
  (Instant.date start, Instant.date (stop - 1))

end MacroPlatform
