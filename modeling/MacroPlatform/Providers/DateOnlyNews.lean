import MacroPlatform.Contracts.Unicode
import MacroPlatform.Lib.Except
import MacroPlatform.Lib.FirstWins
import MacroPlatform.Providers.NewsEvent
import MacroPlatform.Report.Canonical

/-! # News with a date alone

The listings of the National Bureau of Statistics and of the Hong Kong Monetary Authority give an
item a date and no time. The date is one of their own time zone; `validate_content` compares it
with the UTC date of the fetch.

* `newsEvent_ok_iff`: when one item becomes an event;
* `date_only_news_parsed_iff`: when a listing is parsed;
* `item_of_today_refused`: an item of the local day.
-/

namespace MacroPlatform.Providers

open Report (IsSha256 Writing stableId)

variable (w : Writing) (web : Web)

/-! ## URLs -/

/-- `sorted` of the items of a query. -/
def sortedQuery (query : List (String × String)) : List (String × String) :=
  query.mergeSort fun a b => decide (a.1 < b.1 ∨ (a.1 = b.1 ∧ a.2 ≤ b.2))

/-- A parameter that is kept. -/
def keptParameter (web : Web) (key : String) : Bool :=
  !("utm_".toList.isPrefixOf (web.lower key).toList) &&
    !(["fbclid", "gclid", "ref", "spm"].contains (web.lower key))

/-- `canonicalize_url`. -/
def canonicalizeUrl (url : String) : Option String := do
  let parts ← web.urlsplit (pyStrip url)
  let query ← web.parseQsl parts.query
  some (web.urlunsplit
    { scheme := web.lower parts.scheme
      netloc := web.lower parts.netloc
      path := parts.path
      query := web.urlencode (sortedQuery (query.filter fun item => keptParameter web item.1)) })

/-- `validate_allowlisted_url` passes. -/
def allowlisted (url : String) (allowedHosts : List String) : Bool :=
  match web.urlsplit url with
  | none => false
  | some parsed =>
      parsed.scheme = "https" && parsed.username.getD "" = "" && parsed.password.getD "" = "" &&
        parsed.hostname.elim false (allowedHosts.contains ·)

/-! ## The event of an item -/

/-- `canonical_json_checksum`. -/
def canonicalJsonChecksum (payload : Json) : String := w.sha256Hex (w.dumpsPayload payload)

/-- What the events of one listing have in common. -/
structure Listing where
  recordNamespace : String
  providerId : String
  sourceName : String
  language : String
  region : Region
  topics : List String

/-- `source_ref(...)` of an item. -/
def Listing.source (listing : Listing) (fetchedAt : Instant) (title canonicalUrl : String)
    (publishedDate : Day) : ProviderSource where
  providerId := listing.providerId
  providerRecordId := stableId w listing.recordNamespace [canonicalUrl]
  sourceName := listing.sourceName
  sourceUrl := some canonicalUrl
  retrievedAt := fetchedAt
  checksumSha256 := canonicalJsonChecksum w
    (.obj [("title", .str title), ("link", .str canonicalUrl),
      ("date", .str (Day.isoformat publishedDate))])

/-- The arguments of `NewsEvent(...)` of an item. -/
def Listing.event {web : Web} (listing : Listing) (fetchedAt : Instant)
    (title canonicalUrl : String) (publishedDate : Day) (source : ValidSource web) :
    ProviderNews web where
  newsId := stableId w "news"
    [listing.providerId, stableId w listing.recordNamespace [canonicalUrl], canonicalUrl,
      Day.isoformat publishedDate]
  title := title
  summary := none
  body := none
  contentMode := .headline
  language := listing.language
  sourceName := listing.sourceName
  sourceTier := .official
  canonicalUrl := some canonicalUrl
  publishedAt := none
  publishedDate := some publishedDate
  timePrecision := .date
  firstSeenAt := fetchedAt
  availableAt := fetchedAt
  availabilityBasis := .firstSeen
  regions := [listing.region]
  topics := listing.topics
  contentHashSha256 := canonicalJsonChecksum w
    (.obj [("title", .str title), ("summary", .null), ("body", .null)])
  usageRights :=
    { storageAllowed := true
      internalAnalysisAllowed := true
      externalLlmAllowed := true
      embeddingAllowed := true
      redistributionAllowed := false }
  source := source

/-- The event of an item. -/
def Listing.newsEvent (listing : Listing) (fetchedAt : Instant) (title canonicalUrl : String)
    (publishedDate : Day) : Except ParseError (ValidNews web) := do
  let source ← (listing.source w fetchedAt title canonicalUrl publishedDate).validate web
  (listing.event w fetchedAt title canonicalUrl publishedDate source).validate

/-! ## The listing of the NBS -/

/-- `_NbsNewsRecord`. -/
structure NbsNewsRecord where
  title : String
  href : String
  publishedDate : String
deriving DecidableEq, Repr

/-- `_NbsNewsListParser`. -/
structure NbsNewsListParser where
  records : List NbsNewsRecord := []
  listDepth : ℕ := 0
  inItem : Bool := false
  inDate : Bool := false
  title : Option String := none
  href : Option String := none
  dateParts : List String := []

/-- `(dict(attrs).get(name) or "")`. -/
def attributeText (attrs : List (String × Option String)) (name : String) : String :=
  (((attrs.reverse.find? fun a => a.1 = name).map Prod.snd).join).getD ""

def NbsNewsListParser.handleStarttag (parser : NbsNewsListParser) (tag : String)
    (attrs : List (String × Option String)) : NbsNewsListParser :=
  if tag = "div" then
    if parser.listDepth ≠ 0 then { parser with listDepth := parser.listDepth + 1 }
    else if "list-content" ∈ pySplit (attributeText attrs "class") then { parser with listDepth := 1 }
    else parser
  else if parser.listDepth = 0 then parser
  else if tag = "li" then
    { parser with inItem := true, title := none, href := none, dateParts := [] }
  else if tag = "a" ∧ parser.inItem ∧ parser.title = none then
    let title := pyStrip (attributeText attrs "title")
    let href := pyStrip (attributeText attrs "href")
    if title ≠ "" ∧ href ≠ "" then { parser with title := some title, href := some href }
    else parser
  else if tag = "span" ∧ parser.inItem then { parser with inDate := true }
  else parser

def NbsNewsListParser.handleData (parser : NbsNewsListParser) (text : String) :
    NbsNewsListParser :=
  if parser.inDate then { parser with dateParts := parser.dateParts ++ [text] } else parser

/-- The record of the item that ends, when it is complete. -/
def NbsNewsListParser.finished (parser : NbsNewsListParser) : Option NbsNewsRecord := do
  let title ← parser.title
  let href ← parser.href
  let publishedDate := pyStrip (String.join parser.dateParts)
  if publishedDate ≠ "" then some ⟨title, href, publishedDate⟩ else none

def NbsNewsListParser.handleEndtag (parser : NbsNewsListParser) (tag : String) :
    NbsNewsListParser :=
  if tag = "span" then { parser with inDate := false }
  else if tag = "li" ∧ parser.inItem then
    { parser with
      records := parser.records ++ parser.finished.toList
      inItem := false
      inDate := false }
  else if tag = "div" ∧ parser.listDepth ≠ 0 then
    { parser with listDepth := parser.listDepth - 1 }
  else parser

def NbsNewsListParser.handle (parser : NbsNewsListParser) : HtmlToken → NbsNewsListParser
  | .starttag tag attrs => parser.handleStarttag tag attrs
  | .data text => parser.handleData text
  | .endtag tag => parser.handleEndtag tag

/-- `_NbsNewsListParser.parse`. -/
def NbsNewsListParser.parse (html : String) : List NbsNewsRecord :=
  ((web.htmlTokens html).foldl NbsNewsListParser.handle {}).records

def schemaDrift (message : String) : ParseError := .schema message "SCHEMA_DRIFT"

/-- The events of `CnNbsNewsProvider`. -/
def nbsListing : Listing where
  recordNamespace := "cn-nbs-data-release"
  providerId := "cn.nbs.data-release-news.v1"
  sourceName := "National Bureau of Statistics of China data releases"
  language := "zh-CN"
  region := .cn
  topics := ["economic_data"]

/-- `canonicalize_url(urljoin(source_url, record.href))`. -/
def articleUrl (sourceUrl : String) (record : NbsNewsRecord) : Option String :=
  canonicalizeUrl web (web.urljoin sourceUrl record.href)

/-- The loop of `parse_nbs_data_release_news`, with the URLs seen so far. -/
def parseNbsRecords (fetchedAt : Instant) (sourceUrl : String) (seenUrls : List String) :
    List NbsNewsRecord → Except ParseError (List (ValidNews web))
  | [] => .ok []
  | record :: rest =>
      match articleUrl web sourceUrl record with
      | none => .error .malformedUrl
      | some canonicalUrl =>
          if allowlisted web canonicalUrl ["www.stats.gov.cn"] = false then
            .error (schemaDrift "NBS data-release article URL is outside the approved host")
          else if canonicalUrl ∈ seenUrls then parseNbsRecords fetchedAt sourceUrl seenUrls rest
          else
            match web.dateFromIsoformat record.publishedDate with
            | none => .error (schemaDrift "NBS data-release publication date is invalid")
            | some publishedDate => do
                let event ← nbsListing.newsEvent w web fetchedAt record.title canonicalUrl
                  publishedDate
                let events ←
                  parseNbsRecords fetchedAt sourceUrl (canonicalUrl :: seenUrls) rest
                .ok (event :: events)

/-- `parse_nbs_data_release_news` as `CnNbsNewsProvider` calls it. -/
def parseNbsDataReleaseNews (html : String) (fetchedAt : Instant) (sourceUrl : String) :
    Except ParseError (List (ValidNews web)) :=
  let records := NbsNewsListParser.parse web html
  if records = [] then .error (schemaDrift "NBS data-release listing has no parseable rows")
  else parseNbsRecords w web fetchedAt sourceUrl [] records

/-! ## The records of the HKMA -/

/-- The events of `HkmaPressReleaseProvider`. -/
def hkmaListing : Listing where
  recordNamespace := "hkma-release"
  providerId := "hk.hkma.press-releases.v1"
  sourceName := "Hong Kong Monetary Authority press releases"
  language := "en"
  region := .hk
  topics := []

/-- `_required_text`. -/
def requiredText (row : Json) (key path : String) : Except ParseError String :=
  match (row.get key).toStr? with
  | none => .error (schemaDrift (path ++ " is missing"))
  | some value =>
      if pyStrip value = "" then .error (schemaDrift (path ++ " is missing"))
      else .ok (pyStrip value)

/-- `_parse_date`. -/
def parseHkmaDate (value : String) : Except ParseError Day :=
  match web.dateFromIsoformat value with
  | none => .error (schemaDrift "HKMA release date is invalid")
  | some day => .ok day

/-- `_news_event` as `HkmaPressReleaseProvider` calls it. -/
def hkmaNewsEvent (fetchedAt : Instant) (record : Json) : Except ParseError (ValidNews web) := do
  let title ← requiredText record "title" "result.records.title"
  let link ← requiredText record "link" "result.records.link"
  let date ← requiredText record "date" "result.records.date"
  let publishedDate ← parseHkmaDate web date
  match canonicalizeUrl web link with
  | none => .error .malformedUrl
  | some canonicalUrl => hkmaListing.newsEvent w web fetchedAt title canonicalUrl publishedDate

/-! ## One item -/

/-- The names of a listing pass the contracts. -/
structure Listing.Fits (listing : Listing) : Prop where
  provider : Report.FitsText 2 64 listing.providerId
  name : Report.FitsText 1 256 listing.sourceName
  recordSpace : ∀ c ∈ listing.recordNamespace.toList, isWhiteSpace c = false
  recordLength : listing.recordNamespace.length ≤ 63
  language : isLanguage (modelStrip listing.language) = true

theorem nbsListing_fits : nbsListing.Fits := by
  refine ⟨⟨?_, ?_, ?_⟩, ⟨?_, ?_, ?_⟩, ?_, ?_, ?_⟩ <;> decide +kernel

theorem hkmaListing_fits : hkmaListing.Fits := by
  refine ⟨⟨?_, ?_, ?_⟩, ⟨?_, ?_, ?_⟩, ?_, ?_, ?_⟩ <;> decide +kernel

/-- A title that the contract takes. -/
def FitsTitle (title : String) : Prop :=
  1 ≤ (modelStrip title).length ∧ (modelStrip title).length ≤ 1000

/-- A listing that fits makes a source without errors. -/
theorem Listing.source_fits {listing : Listing} (hfits : listing.Fits) {web : Web}
    {fetchedAt : Instant} {title canonicalUrl : String} {publishedDate : Day}
    (hurl : web.httpUrlError canonicalUrl = none) :
    (listing.source w fetchedAt title canonicalUrl publishedDate).stripped.errors web = [] := by
  have hrecord : Report.FitsText 1 128 (stableId w listing.recordNamespace [canonicalUrl]) :=
    Report.stableId_fits hfits.recordSpace hfits.recordLength
  have hlength : (stableId w listing.recordNamespace [canonicalUrl]).length ≤ 256 :=
    hrecord.atMost.trans (by decide)
  simp only [ProviderSource.errors, ProviderSource.stripped, Listing.source,
    hfits.provider.stripped, hrecord.stripped, hfits.name.stripped, canonicalJsonChecksum,
    sha256Errors_digest, urlErrors_nil hurl, lengthErrors_nil hrecord.atLeast hlength,
    lengthErrors_nil hfits.provider.atLeast hfits.provider.atMost,
    lengthErrors_nil hfits.name.atLeast hfits.name.atMost, List.append_nil]

theorem Listing.event_fits {listing : Listing} (hfits : listing.Fits) {web : Web}
    {fetchedAt : Instant} {title canonicalUrl : String} {publishedDate : Day}
    (hurl : web.httpUrlError canonicalUrl = none) (htitle : FitsTitle title)
    (source : ValidSource web) :
    (listing.event w fetchedAt title canonicalUrl publishedDate source).stripped.fieldErrors =
      [] := by
  simp only [ProviderNews.fieldErrors, ProviderNews.stripped, Listing.event,
    canonicalJsonChecksum, sha256Errors_digest, urlErrors_nil hurl,
    lengthErrors_nil htitle.1 htitle.2, hfits.language, if_true, Option.map_none,
    Option.elim_none, List.cons_ne_nil, if_false, List.append_nil]

/-- An item with a title and a URL that the contract takes becomes an event exactly when its date
is not after the UTC date of the fetch. -/
theorem newsEvent_ok_iff {listing : Listing} (hfits : listing.Fits) (fetchedAt : Instant)
    {title canonicalUrl : String} (publishedDate : Day)
    (hurl : web.httpUrlError canonicalUrl = none) (htitle : FitsTitle title) :
    (∃ event, listing.newsEvent w web fetchedAt title canonicalUrl publishedDate = .ok event) ↔
      publishedDate ≤ Instant.date fetchedAt := by
  unfold Listing.newsEvent
  rw [ProviderSource.validate_ok (Listing.source_fits w hfits hurl)]
  simp only [bind, Except.bind]
  rw [ProviderNews.validate_ok_iff (Listing.event_fits w hfits hurl htitle _)]
  by_cases hlate : Instant.date fetchedAt < publishedDate
  · refine iff_of_false ?_ (not_le.mpr hlate)
    simp [ProviderNews.contentError, ProviderNews.stripped, Listing.event, hlate]
  · refine iff_of_true ?_ (not_lt.mp hlate)
    simp [ProviderNews.contentError, ProviderNews.stripped, Listing.event, hlate]

/-! ## The rows of the listing -/

/-- A title as the parser keeps it. -/
def CleanTitle (title : String) : Prop := modelStrip title = title ∧ title ≠ ""

/-- The parser keeps no other title. -/
structure CleanTitles (parser : NbsNewsListParser) : Prop where
  title : ∀ title, parser.title = some title → CleanTitle title
  records : ∀ record ∈ parser.records, CleanTitle record.title

theorem finished_title {parser : NbsNewsListParser} {record : NbsNewsRecord}
    (h : parser.finished = some record) : parser.title = some record.title := by
  obtain ⟨title, htitle, hrest⟩ := Option.bind_eq_some_iff.mp h
  obtain ⟨href, -, hrest⟩ := Option.bind_eq_some_iff.mp hrest
  simp only [Option.ite_none_right_eq_some] at hrest
  obtain ⟨-, hrecord⟩ := hrest
  cases hrecord
  exact htitle

/-- No token leaves a title with spaces around it. -/
theorem handle_cleanTitles {parser : NbsNewsListParser} (h : CleanTitles parser)
    (token : HtmlToken) : CleanTitles (parser.handle token) := by
  -- only the end of a row makes a record, and only a start tag sets the title
  cases token with
  | data text =>
    simp only [NbsNewsListParser.handle, NbsNewsListParser.handleData]
    split_ifs
    · exact ⟨h.title, h.records⟩
    · exact h
  | endtag tag =>
    simp only [NbsNewsListParser.handle, NbsNewsListParser.handleEndtag]
    split_ifs
    · exact ⟨h.title, h.records⟩
    · refine ⟨h.title, ?_⟩
      intro record hrecord
      rcases List.mem_append.mp hrecord with hold | hnew
      · exact h.records record hold
      · exact h.title _ (finished_title (Option.mem_toList.mp hnew))
    · exact ⟨h.title, h.records⟩
    · exact h
  | starttag tag attrs =>
    simp only [NbsNewsListParser.handle, NbsNewsListParser.handleStarttag]
    -- an anchor with a title, of which the stripped text is not empty
    split_ifs with _ _ _ _ _ _ hfilled
    · exact ⟨h.title, h.records⟩
    · exact ⟨h.title, h.records⟩
    · exact h
    · exact h
    · exact ⟨nofun, h.records⟩
    · refine ⟨?_, h.records⟩
      rintro title ⟨⟩
      exact ⟨modelStrip_pyStrip _, hfilled.1⟩
    · exact h
    · exact ⟨h.title, h.records⟩
    · exact h

/-- Every row of a listing has a title that is stripped and not empty. -/
theorem parse_cleanTitles (html : String) :
    ∀ record ∈ NbsNewsListParser.parse web html, CleanTitle record.title := by
  have hfold : ∀ (tokens : List HtmlToken) (parser : NbsNewsListParser), CleanTitles parser →
      CleanTitles (tokens.foldl NbsNewsListParser.handle parser) := by
    intro tokens
    induction tokens with
    | nil => exact fun _ h => h
    | cons token tokens ih => exact fun _ h => ih _ (handle_cleanTitles h token)
  exact (hfold _ {} ⟨nofun, nofun⟩).records

theorem CleanTitle.fits {title : String} (h : CleanTitle title) (hlength : title.length ≤ 1000) :
    FitsTitle title := by
  have hne : title.length ≠ 0 := fun hzero => h.2 (String.length_eq_zero_iff.mp hzero)
  unfold FitsTitle
  rw [h.1]
  omega

/-! ## Well-formed listings -/

/-- A row of a well-formed listing of the NBS: an approved URL, an ISO date, and a title that is
not too long. -/
structure NbsRow (sourceUrl : String) (record : NbsNewsRecord) : Prop where
  url : ∃ canonicalUrl, articleUrl web sourceUrl record = some canonicalUrl ∧
    allowlisted web canonicalUrl ["www.stats.gov.cn"] = true ∧
    web.httpUrlError canonicalUrl = none
  date : ∃ day, web.dateFromIsoformat record.publishedDate = some day
  title : record.title.length ≤ 1000

/-- A well-formed listing of the NBS. -/
structure NbsPage (html sourceUrl : String) : Prop where
  rows : NbsNewsListParser.parse web html ≠ []
  row : ∀ record ∈ NbsNewsListParser.parse web html, NbsRow web sourceUrl record

/-- A record of a well-formed listing of the HKMA: a title that is not too long, a URL that the
contract takes, and an ISO date. -/
structure HkmaRecord (record : Json) : Prop where
  title : ∃ title, record.get "title" = .str title ∧ pyStrip title ≠ "" ∧
    (pyStrip title).length ≤ 1000
  url : ∃ link canonicalUrl, record.get "link" = .str link ∧ pyStrip link ≠ "" ∧
    canonicalizeUrl web (pyStrip link) = some canonicalUrl ∧
    web.httpUrlError canonicalUrl = none
  date : ∃ date day, record.get "date" = .str date ∧ pyStrip date ≠ "" ∧
    web.dateFromIsoformat (pyStrip date) = some day

/-- The date of an item. -/
def NbsNewsRecord.day? (record : NbsNewsRecord) : Option Day :=
  web.dateFromIsoformat record.publishedDate

def hkmaDay? (record : Json) : Option Day :=
  (record.get "date").toStr?.bind fun date => web.dateFromIsoformat (pyStrip date)

/-! ## When a listing is parsed -/

/-- Of the rows with one URL the first alone becomes an event. -/
def NbsDatesReached (html : String) (sourceUrl : String) (today : Day) : Prop :=
  ∀ url record,
    FirstWins.first (articleUrl web sourceUrl) (NbsNewsListParser.parse web html) url = some record →
      ∀ day, record.day? web = some day → day ≤ today

theorem first_cons_self {key : NbsNewsRecord → Option String} {record : NbsNewsRecord}
    {rest : List NbsNewsRecord} {url : String} (h : key record = some url) :
    FirstWins.first key (record :: rest) url = some record :=
  List.find?_cons_of_pos (by simpa using h)

theorem first_cons_other {key : NbsNewsRecord → Option String} {record : NbsNewsRecord}
    {rest : List NbsNewsRecord} {url url' : String} (h : key record = some url)
    (hne : url' ≠ url) :
    FirstWins.first key (record :: rest) url' = FirstWins.first key rest url' := by
  refine List.find?_cons_of_neg ?_
  simpa [h] using Ne.symm hne

/-- The loop returns exactly when the rows that become events have dates up to the UTC date of the
fetch. -/
theorem parseNbsRecords_ok_iff (fetchedAt : Instant) {sourceUrl : String}
    {records : List NbsNewsRecord} (hrows : ∀ record ∈ records, NbsRow web sourceUrl record)
    (htitles : ∀ record ∈ records, CleanTitle record.title) (seenUrls : List String) :
    (∃ events, parseNbsRecords w web fetchedAt sourceUrl seenUrls records = .ok events) ↔
      ∀ url, url ∉ seenUrls → ∀ record,
        FirstWins.first (articleUrl web sourceUrl) records url = some record →
          ∀ day, record.day? web = some day → day ≤ Instant.date fetchedAt := by
  induction records generalizing seenUrls with
  | nil => exact iff_of_true ⟨[], rfl⟩ (fun _ _ _ h => nomatch h)
  | cons record rest ih =>
    have hrow := hrows record List.mem_cons_self
    obtain ⟨canonicalUrl, hurl, hallowed, haccepted⟩ := hrow.url
    obtain ⟨day, hday⟩ := hrow.date
    have htail := ih (fun x hx => hrows x (List.mem_cons_of_mem _ hx))
      (fun x hx => htitles x (List.mem_cons_of_mem _ hx))
    simp only [parseNbsRecords, hurl, hallowed, Bool.true_eq_false, if_false, hday]
    by_cases hseen : canonicalUrl ∈ seenUrls
    · -- a URL that was seen is passed over
      rw [if_pos hseen, htail]
      refine forall₂_congr fun url hnew => ?_
      have hne : url ≠ canonicalUrl := by
        rintro rfl
        exact hnew hseen
      rw [first_cons_other hurl hne]
    -- a new URL becomes an event, or the loop ends with its date
    · rw [if_neg hseen]
      have hevent := newsEvent_ok_iff w web nbsListing_fits fetchedAt day haccepted
        ((htitles record List.mem_cons_self).fits hrow.title)
      have hsplit : (∃ events, (do
            let event ← nbsListing.newsEvent w web fetchedAt record.title canonicalUrl day
            let events ← parseNbsRecords w web fetchedAt sourceUrl (canonicalUrl :: seenUrls) rest
            Except.ok (event :: events) : Except ParseError (List (ValidNews web))) =
              .ok events) ↔
          day ≤ Instant.date fetchedAt ∧ ∃ events,
            parseNbsRecords w web fetchedAt sourceUrl (canonicalUrl :: seenUrls) rest =
              .ok events := by
        rw [← hevent]
        constructor
        · rintro ⟨events, h⟩
          obtain ⟨event, hbuilt, hrest⟩ := Raising.bind_ok.mp h
          obtain ⟨later, hlater, -⟩ := Raising.bind_ok.mp hrest
          exact ⟨⟨event, hbuilt⟩, later, hlater⟩
        · rintro ⟨⟨event, hbuilt⟩, later, hlater⟩
          exact ⟨event :: later, by rw [hbuilt, hlater]; rfl⟩
      rw [hsplit, htail]
      -- a URL is either the one of this record or first found in the rest
      constructor
      · rintro ⟨hfirst, hlater⟩ url hnew record' hrecord' day' hday'
        by_cases hsame : url = canonicalUrl
        · subst hsame
          rw [first_cons_self hurl] at hrecord'
          cases hrecord'
          have hboth := hday.symm.trans hday'
          cases hboth
          exact hfirst
        · rw [first_cons_other hurl hsame] at hrecord'
          exact hlater url (by simp [hsame, hnew]) record' hrecord' day' hday'
      · intro h
        refine ⟨h canonicalUrl hseen record (first_cons_self hurl) day hday, ?_⟩
        intro url hnew record' hrecord'
        rw [List.mem_cons, not_or] at hnew
        rw [← first_cons_other hurl hnew.1] at hrecord'
        exact h url hnew.2 record' hrecord'

theorem parseNbsDataReleaseNews_ok_iff {html sourceUrl : String} (fetchedAt : Instant)
    (h : NbsPage web html sourceUrl) :
    (∃ events, parseNbsDataReleaseNews w web html fetchedAt sourceUrl = .ok events) ↔
      NbsDatesReached web html sourceUrl (Instant.date fetchedAt) := by
  have hloop := parseNbsRecords_ok_iff w web fetchedAt h.row
    (parse_cleanTitles web html) []
  simp only [parseNbsDataReleaseNews, if_neg h.rows, hloop, List.not_mem_nil, not_false_eq_true,
    forall_const]
  exact Iff.rfl

theorem requiredText_ok {row : Json} {key path value : String} (h : row.get key = .str value)
    (hne : pyStrip value ≠ "") : requiredText row key path = .ok (pyStrip value) := by
  simp [requiredText, h, Json.toStr?, hne]

/-- A record becomes an event exactly when its day has come. -/
theorem hkmaNewsEvent_ok_iff {record : Json} (fetchedAt : Instant) (h : HkmaRecord web record) :
    (∃ event, hkmaNewsEvent w web fetchedAt record = .ok event) ↔
      ∀ day, hkmaDay? web record = some day → day ≤ Instant.date fetchedAt := by
  obtain ⟨title, htitle, hblank, hlength⟩ := h.title
  obtain ⟨link, canonicalUrl, hlink, hlinkBlank, hurl, haccepted⟩ := h.url
  obtain ⟨date, day, hdate, hdateBlank, hday⟩ := h.date
  have hclean : CleanTitle (pyStrip title) := ⟨modelStrip_pyStrip title, hblank⟩
  have hread : parseHkmaDate web (pyStrip date) = .ok day := by
    simp [parseHkmaDate, hday]
  have hknown : hkmaDay? web record = some day := by
    simp [hkmaDay?, hdate, Json.toStr?, hday]
  unfold hkmaNewsEvent
  rw [requiredText_ok htitle hblank, requiredText_ok hlink hlinkBlank,
    requiredText_ok hdate hdateBlank]
  simp only [bind, Except.bind, hread, hurl, hknown, Option.some.injEq, forall_eq']
  exact newsEvent_ok_iff w web hkmaListing_fits fetchedAt day haccepted (hclean.fits hlength)

/-- A well-formed listing is parsed, and a list of well-formed records becomes events, at a fetch
exactly when the dates of the items are not after its UTC date. -/
theorem date_only_news_parsed_iff (fetchedAt : Instant) :
    (∀ html sourceUrl, NbsPage web html sourceUrl →
      ((∃ events, parseNbsDataReleaseNews w web html fetchedAt sourceUrl = .ok events) ↔
        NbsDatesReached web html sourceUrl (Instant.date fetchedAt))) ∧
    ∀ records : List Json, (∀ record ∈ records, HkmaRecord web record) →
      ((∃ events, records.mapM (hkmaNewsEvent w web fetchedAt) = .ok events) ↔
        ∀ record ∈ records, ∀ day, hkmaDay? web record = some day →
          day ≤ Instant.date fetchedAt) := by
  refine ⟨fun html sourceUrl h => parseNbsDataReleaseNews_ok_iff w web fetchedAt h, ?_⟩
  intro records hrecords
  rw [Raising.exists_mapM_ok]
  exact forall₂_congr fun record hrecord =>
    hkmaNewsEvent_ok_iff w web fetchedAt (hrecords record hrecord)

/-! ## An item of today -/

/-- The date of an instant in Shanghai and in Hong Kong. -/
def chinaDate (t : Instant) : Day := Instant.date (t + 8 * 3600000000)

def sampleArticle : String := "https://www.stats.gov.cn/sj/zxfb/202607/t20260729_1.html"

def sampleRelease : String :=
  "https://www.hkma.gov.hk/eng/news-and-media/press-releases/2026/07/20260729-3/"

def sampleNbsTitle : String := "Industrial profits in June 2026"

def sampleHkmaTitle : String := "Monetary statistics for June 2026"

/-- A record of 2026-07-29. -/
def sampleHkmaRecord : Json :=
  .obj [("title", .str sampleHkmaTitle), ("link", .str sampleRelease), ("date", .str "2026-07-29")]

/-- A listing with one item of 2026-07-29. -/
def sampleHtml : String :=
  "<div class=\"list-content\"><ul><li><a href=\"" ++ sampleArticle ++ "\" title=\"" ++
    sampleNbsTitle ++ "\">Industrial profits</a><span>2026-07-29</span></li></ul></div>"

/-- Its tokens. -/
def sampleTokens : List HtmlToken :=
  [.starttag "div" [("class", some "list-content")], .starttag "ul" [], .starttag "li" [],
    .starttag "a" [("href", some sampleArticle), ("title", some sampleNbsTitle)],
    .data "Industrial profits", .endtag "a", .starttag "span" [], .data "2026-07-29",
    .endtag "span", .endtag "li", .endtag "ul", .endtag "div"]

/-- The functions of the library, on the texts of the two items. -/
def sampleWeb : Web where
  htmlTokens html := if html = sampleHtml then sampleTokens else []
  urljoin _ href := href
  urlsplit url :=
    if url = sampleArticle then
      some
        { scheme := "https"
          netloc := "www.stats.gov.cn"
          path := "/sj/zxfb/202607/t20260729_1.html"
          query := ""
          hostname := some "www.stats.gov.cn" }
    else if url = sampleRelease then
      some
        { scheme := "https"
          netloc := "www.hkma.gov.hk"
          path := "/eng/news-and-media/press-releases/2026/07/20260729-3/"
          query := ""
          hostname := some "www.hkma.gov.hk" }
    else none
  urlunsplit parts := parts.scheme ++ "://" ++ parts.netloc ++ parts.path ++ parts.query
  parseQsl query := if query = "" then some [] else none
  urlencode query := "&".intercalate (query.map fun item => item.1 ++ "=" ++ item.2)
  lower s := String.ofList (s.toList.map Char.toLower)
  dateFromIsoformat s := if s = "2026-07-29" then some 20663 else none
  httpUrlError _ := none

/-- The digests of the texts that the two items are written with. -/
def sampleTextDigests : List (String × String) :=
  [(Report.canonicalJson (Report.strings [sampleArticle]),
      "0b4faf20c8d06f0e8187e9e184f05d25ab188884e4b021911982683c4d74628e"),
    (Report.canonicalJson (Report.strings ["cn.nbs.data-release-news.v1",
        "cn-nbs-data-release_0b4faf20c8d06f0e8187e9e184f05d25ab188884e4b021911982683c4d74628e",
        sampleArticle, "2026-07-29"]),
      "8369408ca51d8ed2a0b62446ad2f122be4580eabdd6e1def6540eb95ad826a70"),
    (Report.canonicalJson (.obj [("title", .str sampleNbsTitle), ("link", .str sampleArticle),
        ("date", .str "2026-07-29")]),
      "684d58f40551e7a5ca098190895fa52eae09df54dd11ec9f005ebfcbf9a8ab46"),
    (Report.canonicalJson (.obj [("title", .str sampleNbsTitle), ("summary", .null),
        ("body", .null)]),
      "9172005d77b97013de2b1f763e07b9d57feb794098f5f80ffb55d5f5847f150c"),
    (Report.canonicalJson (Report.strings [sampleRelease]),
      "3c65cb1c734f07707f7a333eb0187c30d811ddd232af7c243caa109d353974f6"),
    (Report.canonicalJson (Report.strings ["hk.hkma.press-releases.v1",
        "hkma-release_3c65cb1c734f07707f7a333eb0187c30d811ddd232af7c243caa109d353974f6",
        sampleRelease, "2026-07-29"]),
      "d515514e21db82b33935cfb1d86cd2b27b8e76a5a6141882695a07ce870af2d7"),
    (Report.canonicalJson (.obj [("title", .str sampleHkmaTitle), ("link", .str sampleRelease),
        ("date", .str "2026-07-29")]),
      "7d50cc6e427e5ffb9c4a77bad014d4310d2f6ead4403fe28d768526ad0caecf1"),
    (Report.canonicalJson (.obj [("title", .str sampleHkmaTitle), ("summary", .null),
        ("body", .null)]),
      "04c62f0612352bfac2c91ba9a12ce641f283a7630227ae96043abbaae3c41567")]

/-- The digest of the empty text stands for those of other texts. -/
def emptyTextDigest : String := "e3b0c44298fc1c149afbf4c8996fb92427ae41e4649b934ca495991b7852b855"

def sampleTextWriting : Writing where
  decimal x := toString x
  dumpsParts parts := Report.canonicalJson (Report.strings parts)
  dumpsPayload := Report.canonicalJson
  sha256Hex text :=
    ((sampleTextDigests.find? fun entry => entry.1 = text).map Prod.snd).getD emptyTextDigest
  hexdigest text := by
    have hknown : ∀ digest ∈ sampleTextDigests.map Prod.snd, IsSha256 digest := by
      simp only [sampleTextDigests, List.map_cons, List.map_nil, List.forall_mem_cons]
      decide +kernel
    cases hfound : sampleTextDigests.find? fun entry => entry.1 = text with
    | none =>
      have hempty : IsSha256 emptyTextDigest := by decide +kernel
      exact hempty
    | some entry => exact hknown _ (List.mem_map_of_mem (List.mem_of_find?_eq_some hfound))

theorem sampleHtml_rows : NbsNewsListParser.parse sampleWeb sampleHtml =
    [⟨sampleNbsTitle, sampleArticle, "2026-07-29"⟩] := by decide +kernel

theorem sampleNbsPage : NbsPage sampleWeb sampleHtml "https://www.stats.gov.cn/sj/zxfb/" := by
  refine ⟨by rw [sampleHtml_rows]; exact List.cons_ne_nil _ _, ?_⟩
  rw [sampleHtml_rows, List.forall_mem_singleton]
  refine ⟨⟨sampleArticle, ?_, ?_, rfl⟩, ⟨20663, rfl⟩, ?_⟩ <;> decide +kernel

theorem sampleHkmaRecord_fits : HkmaRecord sampleWeb sampleHkmaRecord := by
  refine ⟨⟨sampleHkmaTitle, rfl, ?_, ?_⟩, ⟨sampleRelease, sampleRelease, rfl, ?_, ?_, rfl⟩,
    ⟨"2026-07-29", 20663, rfl, ?_, ?_⟩⟩ <;> decide +kernel

/-- The dates of the sample listing are reached on 2026-07-29. -/
theorem sample_dates_iff (today : Day) :
    NbsDatesReached sampleWeb sampleHtml "https://www.stats.gov.cn/sj/zxfb/" today ↔
      20663 ≤ today := by
  unfold NbsDatesReached
  rw [sampleHtml_rows]
  constructor
  · intro h
    exact h sampleArticle _ (first_cons_self (by decide +kernel)) 20663 rfl
  · intro htoday url record hrecord day hday
    have hmem := (FirstWins.first_some hrecord).1
    rw [List.mem_singleton] at hmem
    subst hmem
    cases hday
    exact htoday

/-- At two in the morning of 2026-07-30 in Beijing, an hour of 2026-07-29 in UTC. -/
theorem date_only_news_parsed_at_night :
    (∃ events, parseNbsDataReleaseNews sampleTextWriting sampleWeb sampleHtml
      (20663 * dayMicroseconds + 18 * 3600000000) "https://www.stats.gov.cn/sj/zxfb/" =
        .ok events) ∧
    ∃ events, [sampleHkmaRecord].mapM (hkmaNewsEvent sampleTextWriting sampleWeb
      (20663 * dayMicroseconds + 18 * 3600000000)) = .ok events := by
  have hparsed := date_only_news_parsed_iff sampleTextWriting sampleWeb
    (20663 * dayMicroseconds + 18 * 3600000000)
  have htoday : (20663 : Day) ≤ Instant.date (20663 * dayMicroseconds + 18 * 3600000000) := by
    decide +kernel
  refine ⟨(hparsed.1 _ _ sampleNbsPage).mpr ((sample_dates_iff _).mpr htoday), ?_⟩
  refine (hparsed.2 [sampleHkmaRecord] ?_).mpr ?_
  · exact List.forall_mem_singleton.mpr sampleHkmaRecord_fits
  · rw [List.forall_mem_singleton]
    intro day hday
    have hknown : hkmaDay? sampleWeb sampleHkmaRecord = some 20663 := by decide +kernel
    rw [hknown] at hday
    cases hday
    exact htoday

/-- At two in the morning of the item's day in Beijing, an hour of the day before in UTC, neither
the listing nor the record is parsed. -/
theorem item_of_today_refused :
    ∃ fetchedAt : Instant,
      NbsPage sampleWeb sampleHtml "https://www.stats.gov.cn/sj/zxfb/" ∧
      (∀ record ∈ NbsNewsListParser.parse sampleWeb sampleHtml,
        record.day? sampleWeb = some (chinaDate fetchedAt)) ∧
      (¬ ∃ events, parseNbsDataReleaseNews sampleTextWriting sampleWeb sampleHtml fetchedAt
        "https://www.stats.gov.cn/sj/zxfb/" = .ok events) ∧
      HkmaRecord sampleWeb sampleHkmaRecord ∧
      hkmaDay? sampleWeb sampleHkmaRecord = some (chinaDate fetchedAt) ∧
      ¬ ∃ event, hkmaNewsEvent sampleTextWriting sampleWeb fetchedAt sampleHkmaRecord =
        .ok event := by
  -- the record is of the day that begins in Beijing, the fetch is of the day before
  have hknown : hkmaDay? sampleWeb sampleHkmaRecord = some 20663 := by decide +kernel
  have hyesterday : ¬ (20663 : Day) ≤ Instant.date (20662 * dayMicroseconds + 18 * 3600000000) := by
    decide +kernel
  refine ⟨20662 * dayMicroseconds + 18 * 3600000000, sampleNbsPage, ?_, ?_,
    sampleHkmaRecord_fits, ?_, ?_⟩
  · rw [sampleHtml_rows, List.forall_mem_singleton]
    decide +kernel
  · rw [parseNbsDataReleaseNews_ok_iff _ _ _ sampleNbsPage, sample_dates_iff]
    exact hyesterday
  · rw [hknown]
    decide +kernel
  · rw [hkmaNewsEvent_ok_iff _ _ _ sampleHkmaRecord_fits]
    intro h
    exact hyesterday (h 20663 hknown)

end MacroPlatform.Providers
