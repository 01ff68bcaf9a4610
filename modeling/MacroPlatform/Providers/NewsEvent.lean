import MacroPlatform.Report.Snapshot

/-! # The `NewsEvent` contract at the providers

A provider builds its events through the contract: every string is stripped, the checks of the
fields come first, and then `validate_content`. The entities, annotations and links that no
provider of a listing sets are left out.

* `ProviderNews.validate_ok_iff`: which events with well-formed fields are built.
-/

namespace MacroPlatform.Providers

/-- What a contract model raises: the location of the field, empty for the model itself, and the
type of the error, or the text of the `ValueError`. -/
structure ContractError where
  location : String
  error : String
deriving DecidableEq, Repr

/-- What a parser raises: a `ProviderSchemaError`, the `ValidationError` of a contract, or the
`ValueError` of a malformed URL. -/
inductive ParseError where
  | schema (message code : String)
  | validation (errors : List ContractError)
  | malformedUrl
deriving DecidableEq, Repr

/-- What `urlsplit` gives, with the attributes that it derives from the network location. -/
structure SplitUrl where
  scheme : String
  netloc : String
  path : String
  query : String
  username : Option String := none
  password : Option String := none
  hostname : Option String := none
deriving DecidableEq, Repr

/-- A call of a handler of `HTMLParser`. -/
inductive HtmlToken where
  | starttag (tag : String) (attrs : List (String × Option String))
  | data (text : String)
  | endtag (tag : String)
deriving DecidableEq, Repr

/-- The functions of the standard library and of pydantic that a listing is read with. -/
structure Web where
  /-- The calls that `HTMLParser.feed` and `close` make. -/
  htmlTokens : String → List HtmlToken
  urljoin : String → String → String
  /-- `none` is a `ValueError`. -/
  urlsplit : String → Option SplitUrl
  urlunsplit : SplitUrl → String
  parseQsl : String → Option (List (String × String))
  urlencode : List (String × String) → String
  lower : String → String
  dateFromIsoformat : String → Option Day
  /-- The type of the error that `HttpUrl` has with a text, if it has one. -/
  httpUrlError : String → Option String

variable (web : Web)

/-! ## Checks of fields -/

/-- `Field(min_length=..., max_length=...)` of a string. -/
def lengthErrors (location : String) (minLength maxLength : ℕ) (s : String) :
    List ContractError :=
  if s.length < minLength then [⟨location, "string_too_short"⟩]
  else if maxLength < s.length then [⟨location, "string_too_long"⟩]
  else []

/-- `Field(pattern=r"^[a-f0-9]{64}$")`. -/
def sha256Errors (location s : String) : List ContractError :=
  if s.length = 64 ∧ ∀ c ∈ s.toList, c ∈ "0123456789abcdef".toList then []
  else [⟨location, "string_pattern_mismatch"⟩]

/-- `HttpUrl | None`. -/
def urlErrors (location : String) (url : Option String) : List ContractError :=
  ((url.bind web.httpUrlError).map fun error => ⟨location, error⟩).toList

/-- `re.match(r"^[a-z]{2,3}(-[A-Z]{2})?$", s)`. -/
def isLanguage (s : String) : Bool :=
  let letters := s.toList.takeWhile fun c => 'a' ≤ c ∧ c ≤ 'z'
  let rest := s.toList.drop letters.length
  (letters.length = 2 || letters.length = 3) &&
    match rest with
    | [] => true
    | ['-', c, d] => 'A' ≤ c && c ≤ 'Z' && 'A' ≤ d && d ≤ 'Z'
    | _ => false

/-! ## `SourceRef` -/

/-- `SourceRef` with what a report cites of it. -/
structure ProviderSource extends SourceRef where
  sourceUrl : Option String := none
  retrievedAt : Instant
deriving DecidableEq

def ProviderSource.stripped (source : ProviderSource) : ProviderSource :=
  { source with
    providerId := modelStrip source.providerId
    providerRecordId := modelStrip source.providerRecordId
    sourceName := modelStrip source.sourceName
    checksumSha256 := modelStrip source.checksumSha256 }

def ProviderSource.errors (source : ProviderSource) : List ContractError :=
  lengthErrors "provider_id" 2 64 source.providerId ++
    lengthErrors "provider_record_id" 1 256 source.providerRecordId ++
    lengthErrors "source_name" 1 256 source.sourceName ++
    urlErrors web "source_url" source.sourceUrl ++
    sha256Errors "checksum_sha256" source.checksumSha256

/-- A validated `SourceRef`. -/
abbrev ValidSource := { source : ProviderSource // source.errors web = [] }

/-- `SourceRef(...)`. -/
def ProviderSource.validate (source : ProviderSource) : Except ParseError (ValidSource web) :=
  if h : source.stripped.errors web = [] then .ok ⟨source.stripped, h⟩
  else .error (.validation (source.stripped.errors web))

/-! ## `NewsEvent` -/

/-- `AvailabilityBasis`. -/
inductive AvailabilityBasis where
  | providerDisseminated
  | firstSeen
  | exchangePublished
  | inferred
deriving DecidableEq, Repr

/-- `NewsEvent.time_precision`. -/
inductive TimePrecision where
  | instant
  | date
deriving DecidableEq, Repr

/-- `UsageRights`. -/
structure UsageRights where
  storageAllowed : Bool
  internalAnalysisAllowed : Bool
  externalLlmAllowed : Bool
  embeddingAllowed : Bool
  redistributionAllowed : Bool
deriving DecidableEq, Repr

/-- `NewsEvent`. -/
structure ProviderNews where
  newsId : String
  title : String
  summary : Option String
  body : Option String
  contentMode : ContentMode
  language : String
  sourceName : String
  sourceTier : SourceTier
  canonicalUrl : Option String
  publishedAt : Option Instant
  publishedDate : Option Day
  timePrecision : TimePrecision
  firstSeenAt : Instant
  availableAt : Instant
  availabilityBasis : AvailabilityBasis
  regions : List Region
  topics : List String := []
  contentHashSha256 : String
  usageRights : UsageRights
  source : ValidSource web

variable {web}

def ProviderNews.stripped (event : ProviderNews web) : ProviderNews web :=
  { event with
    newsId := modelStrip event.newsId
    title := modelStrip event.title
    summary := event.summary.map modelStrip
    body := event.body.map modelStrip
    language := modelStrip event.language
    sourceName := modelStrip event.sourceName
    topics := event.topics.map modelStrip
    contentHashSha256 := modelStrip event.contentHashSha256 }

/-- The checks of the fields. -/
def ProviderNews.fieldErrors (event : ProviderNews web) : List ContractError :=
  lengthErrors "title" 1 1000 event.title ++
    event.summary.elim [] (lengthErrors "summary" 0 10000) ++
    (if isLanguage event.language then [] else [⟨"language", "string_pattern_mismatch"⟩]) ++
    urlErrors web "canonical_url" event.canonicalUrl ++
    (if event.regions = [] then [⟨"regions", "too_short"⟩] else []) ++
    sha256Errors "content_hash_sha256" event.contentHashSha256

/-- `NewsEvent.validate_content`: the text of its `ValueError`. The date of `available_at` is the
one of the offset it has, which is UTC here. -/
def ProviderNews.contentError (event : ProviderNews web) : Option String :=
  if event.body.isSome ∧ event.contentMode ≠ .fullText then
    some "body requires content_mode=full_text"
  else
    match event.timePrecision, event.publishedAt, event.publishedDate with
    | .instant, some publishedAt, none =>
        if event.availableAt < publishedAt then some "available_at cannot precede published_at"
        else none
    | .instant, _, _ =>
        some "instant news requires published_at and must not set published_date"
    | .date, none, some publishedDate =>
        if Instant.date event.availableAt < publishedDate then
          some "available_at cannot precede published_date"
        else none
    | .date, _, _ => some "date news requires published_date and must not set published_at"

/-- A validated `NewsEvent`. -/
abbrev ValidNews (web : Web) :=
  { event : ProviderNews web // event.fieldErrors = [] ∧ event.contentError = none }

/-- `NewsEvent(...)`. -/
def ProviderNews.validate (event : ProviderNews web) : Except ParseError (ValidNews web) :=
  if hfields : event.stripped.fieldErrors = [] then
    match hcontent : event.stripped.contentError with
    | none => .ok ⟨event.stripped, hfields, hcontent⟩
    | some message => .error (.validation [⟨"", message⟩])
  else .error (.validation event.stripped.fieldErrors)

/-! ## Fields that pass their checks -/

theorem lengthErrors_nil {location s : String} {minLength maxLength : ℕ}
    (hmin : minLength ≤ s.length) (hmax : s.length ≤ maxLength) :
    lengthErrors location minLength maxLength s = [] := by
  unfold lengthErrors
  rw [if_neg (by omega), if_neg (by omega)]

theorem sha256Errors_digest (w : Report.Writing) (location text : String) :
    sha256Errors location (modelStrip (w.sha256Hex text)) = [] := by
  rw [Report.modelStrip_of_noSpace (w.hexdigest text).noSpace]
  exact if_pos (w.hexdigest text)

theorem urlErrors_nil {web : Web} {location url : String} (h : web.httpUrlError url = none) :
    urlErrors web location (some url) = [] := by
  simp [urlErrors, h]

theorem ProviderSource.validate_ok {source : ProviderSource} {web : Web}
    (h : source.stripped.errors web = []) :
    source.validate web = .ok ⟨source.stripped, h⟩ := dif_pos h

/-- An event whose fields are well formed is built when its content is consistent. -/
theorem ProviderNews.validate_ok_iff {event : ProviderNews web}
    (hfields : event.stripped.fieldErrors = []) :
    (∃ built, event.validate = .ok built) ↔ event.stripped.contentError = none := by
  unfold ProviderNews.validate
  rw [dif_pos hfields]
  split
  · next hnone => exact iff_of_true ⟨_, rfl⟩ hnone
  · next message hsome => simp [hsome]

end MacroPlatform.Providers
