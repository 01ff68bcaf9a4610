import MacroPlatform.Providers.BaoStock
import MacroPlatform.Providers.TwelveData
import MacroPlatform.Providers.XtQuant
import MacroPlatform.Report.Canonical

/-! # The rows of daily bars are conserved

Whatever a response holds, a parser that returns has made of each row a bar, a bar outside the
window, or a warning, and the bars that it returns are in order and apart.

* `bars_conserved`: of the three parsers.
-/

namespace MacroPlatform.Providers

open Report (IsSha256 Writing)

/-- The three parsers of daily bars conserve their rows. -/
theorem bars_conserved (w : Writing) (r : Reading) (web : Web) :
    (∀ newYork instrument query fetchedAt payload rows bars warnings,
      payload.values = some rows →
      DistinctDigests w r (TwelveData.session newYork) instrument.instrumentId
        (readDays r (TwelveData.reader newYork w r web instrument query fetchedAt) rows) →
      TwelveData.parsePayload newYork w r web instrument query fetchedAt payload =
        .ok (bars, warnings) →
      Conserves (TwelveData.reader newYork w r web instrument query fetchedAt) query rows bars
        warnings) ∧
    (∀ shanghai instrument query fetchedAt rows bars warnings,
      DistinctDigests w r (BaoStock.session shanghai) instrument.instrumentId
        (readDays r (BaoStock.reader shanghai w r web instrument query fetchedAt) rows) →
      BaoStock.parseRows shanghai w r web instrument query fetchedAt rows = .ok (bars, warnings) →
      Conserves (BaoStock.reader shanghai w r web instrument query fetchedAt) query rows bars
        warnings) ∧
    ∀ hongKong instrument query fetchedAt rows bars warnings,
      DistinctDigests w r (XtQuant.session hongKong) instrument.instrumentId
        (readDays r (XtQuant.reader hongKong w r web instrument query fetchedAt) rows) →
      XtQuant.parseRows hongKong w r web instrument query fetchedAt rows = .ok (bars, warnings) →
      Conserves (XtQuant.reader hongKong w r web instrument query fetchedAt) query rows bars
        warnings := by
  -- each parser is a loop over its rows
  refine ⟨?_, ?_, ?_⟩
  · intro newYork instrument query fetchedAt payload rows bars warnings hrows hdistinct h
    exact TwelveData.parsePayload_conserves hrows hdistinct h
  · intro shanghai instrument query fetchedAt rows bars warnings hdistinct h
    exact BaoStock.parseRows_conserves hdistinct h
  · intro hongKong instrument query fetchedAt rows bars warnings hdistinct h
    exact XtQuant.parseRows_conserves hdistinct h

/-! ## Two days and a row without a date -/

/-- It is enough that the ids of a list that holds the days differ. -/
theorem DistinctDigests.of_list {session : DailySession} {instrumentId : String} {days : Set Day}
    {listed : List Day} (hdays : ∀ day ∈ days, day ∈ listed)
    (hids : ∀ a ∈ listed, ∀ b ∈ listed,
      session.barId w r instrumentId a = session.barId w r instrumentId b → a = b) :
    DistinctDigests w r session instrumentId days := by
  -- texts, dumps and digests that agree make one id
  refine ⟨?_, ?_, ?_⟩
  · rintro _ ⟨a, ha, rfl⟩ _ ⟨b, hb, rfl⟩ htext
    have hid : session.barId w r instrumentId a = session.barId w r instrumentId b := by
      simp only [DailySession.barId, DailySession.idParts]
      rw [show r.datetimeText (session.openAt a) (some 0) =
        r.datetimeText (session.openAt b) (some 0) from htext]
    rw [hids a (hdays a ha) b (hdays b hb) hid]
  · rintro _ ⟨a, ha, rfl⟩ _ ⟨b, hb, rfl⟩ hdumps
    have hid : session.barId w r instrumentId a = session.barId w r instrumentId b := by
      simp only [DailySession.barId, Report.stableId, hdumps]
    rw [hids a (hdays a ha) b (hdays b hb) hid]
  · rintro _ ⟨_, ⟨a, ha, rfl⟩, rfl⟩ _ ⟨_, ⟨b, hb, rfl⟩, rfl⟩ hdigests
    have hid : session.barId w r instrumentId a = session.barId w r instrumentId b := by
      simp only [DailySession.barId, Report.stableId, hdigests]
    rw [hids a (hdays a ha) b (hdays b hb) hid]

/-- The opens of two sessions in New York and in China, as texts. -/
def sampleOpens : List (Instant × String) :=
  [(1785245400000000, "2026-07-28 13:30:00+00:00"), (1785331800000000, "2026-07-29 13:30:00+00:00"),
    (1785202200000000, "2026-07-28 01:30:00+00:00"), (1785288600000000, "2026-07-29 01:30:00+00:00")]

/-- The numbers of the rows, as texts. -/
def sampleDecimals : List (String × Decimal) :=
  [("630.10", ⟨false, 63010, -2⟩), ("636.40", ⟨false, 63640, -2⟩), ("629.50", ⟨false, 62950, -2⟩),
    ("635.80", ⟨false, 63580, -2⟩), ("630.1", ⟨false, 6301, -1⟩), ("636.4", ⟨false, 6364, -1⟩),
    ("629.5", ⟨false, 6295, -1⟩), ("635.8", ⟨false, 6358, -1⟩), ("70123456", ⟨false, 70123456, 0⟩)]

def sampleFloats : List (ℚ × String) :=
  [(6301 / 10, "630.1"), (6364 / 10, "636.4"), (6295 / 10, "629.5"), (6358 / 10, "635.8")]

def sampleDates : List (String × Day) := [("2026-07-28", 20662), ("2026-07-29", 20663)]

/-- A cell that is a text or none, as JSON. -/
def sampleJson : Cell → Json
  | .str s => .str s
  | _ => .null

/-- The functions of the library, on the values of the rows. -/
def sampleReading : Reading where
  floatText x := ((sampleFloats.find? fun entry => entry.1 = x).map Prod.snd).getD ""
  datetimeText t _ := ((sampleOpens.find? fun entry => entry.1 = t).map Prod.snd).getD ""
  decimal text := (sampleDecimals.find? fun entry => entry.1 = text).map fun entry => some entry.2
  decimalText d := ((sampleDecimals.find? fun entry => entry.2 = d).map Prod.fst).getD ""
  decimalError _ := none
  strptime format text :=
    if format = "%Y-%m-%d" then (sampleDates.find? fun entry => entry.1 = text).map Prod.snd
    else none
  floatOfInt n := some n
  fromTimestamp milliseconds := some (milliseconds * 1000).floor
  dumpsFields fields :=
    Report.canonicalJson (.obj (fields.map fun (key, value) => (key, sampleJson value)))
  validationText _ := "1 validation error for MarketBar"

def rowsWeb : Web where
  htmlTokens _ := []
  urljoin _ href := href
  urlsplit _ := none
  urlunsplit parts := parts.path
  parseQsl _ := none
  urlencode _ := ""
  lower s := String.ofList (s.toList.map Char.toLower)
  dateFromIsoformat text := (sampleDates.find? fun entry => entry.1 = text).map Prod.snd
  httpUrlError _ := none

/-- A zone with one offset, in hours. -/
def fixedZone (hours : ℤ) : Zone where
  utcoffset _ := hours * 3600000000
  localTime t := some (t + hours * 3600000000)
  least := hours * 3600000000
  greatest := hours * 3600000000
  least_le _ := le_refl _
  le_greatest _ := le_refl _
  spread := by rw [Int.sub_self]; decide

def spy : BarInstrument where
  instrumentId := "ins_us_etf_spy"
  canonicalSymbol := "ARCX:SPY"
  sourceSymbol := "SPY"
  currency := "USD"

def sseComposite : BarInstrument where
  instrumentId := "ins_cn_index_sse_composite"
  canonicalSymbol := "XSHG:000001"
  sourceSymbol := "sh.000001"
  currency := "CNY"

def tencent : BarInstrument where
  instrumentId := "ins_hk_equity_00700"
  canonicalSymbol := "XHKG:00700"
  sourceSymbol := "00700.HK"
  currency := "HKD"

/-- The prices of a row, as texts. -/
def priceCells : Row :=
  [("open", .str "630.10"), ("high", .str "636.40"), ("low", .str "629.50"),
    ("close", .str "635.80"), ("volume", .str "70123456")]

/-- Two days of SPY, and a value without a date. -/
def spyValues : List (Option Row) :=
  [some (("datetime", .str "2026-07-28") :: priceCells),
    some (("datetime", .str "2026-07-29") :: priceCells), some priceCells]

def spyPayload : TwelveData.Payload where
  metadata := some [("symbol", .str "SPY"), ("interval", .str "1day"), ("currency", .str "USD")]
  values := some spyValues

def sseRow (date : String) : Row :=
  [("date", .str date), ("code", .str "sh.000001"), ("preclose", .str "630.10"),
    ("amount", .str ""), ("pctChg", .str "0.90")] ++ priceCells

def sseRows : List Row := ["2026-07-28", "2026-07-29", ""].map sseRow

def tencentRow (index : Cell) : Row :=
  [("index", index), ("open", .float (6301 / 10)), ("high", .float (6364 / 10)),
    ("low", .float (6295 / 10)), ("close", .float (6358 / 10)), ("volume", .int 70123456),
    ("amount", .nonFinite "nan")]

def tencentRows : List Row := [.str "2026-07-28", .date 20663, .null].map tencentRow

/-- The window of 2026-07-29. -/
def july29 : BarQuery where
  instrumentIds := []
  interval := .d1
  start := 20663 * dayMicroseconds
  stop := 20664 * dayMicroseconds
  asOf := 20665 * dayMicroseconds

/-- The text of an id. -/
def idText (instrumentId opens providerId : String) : String :=
  Report.canonicalJson (Report.strings [instrumentId, "1d", opens, "raw", providerId])

def spyText (date : String) : String :=
  sampleReading.dumpsFields
    [("symbol", .str "SPY"), ("interval", .str "1day"), ("datetime", .str date),
      ("open", .str "630.10"), ("high", .str "636.40"), ("low", .str "629.50"),
      ("close", .str "635.80"), ("volume", .str "70123456"), ("currency", .str "USD")]

def sseText (date : String) : String :=
  sampleReading.dumpsFields
    [("date", .str date), ("code", .str "sh.000001"), ("open", .str "630.10"),
      ("high", .str "636.40"), ("low", .str "629.50"), ("close", .str "635.80"),
      ("preclose", .str "630.10"), ("volume", .str "70123456"), ("amount", .null),
      ("pctChg", .str "0.90")]

def tencentText (date : String) : String :=
  sampleReading.dumpsFields
    [("date", .str date), ("open", .str "630.1"), ("high", .str "636.4"), ("low", .str "629.5"),
      ("close", .str "635.8"), ("preClose", .null), ("volume", .str "70123456"),
      ("amount", .null)]

/-- The digests of the ids and of the contents of the bars. -/
def sampleBarDigests : List (String × String) :=
  [(idText "ins_us_etf_spy" "2026-07-28 13:30:00+00:00" "us.twelve-data.v1",
      "b3a367c3ad3658347ea71feb28d03326eb33dee35acfd75c3a5e4136292af24e"),
    (idText "ins_us_etf_spy" "2026-07-29 13:30:00+00:00" "us.twelve-data.v1",
      "ec7494b1dcd90ee32290ab1cf4bf1c2b30cef865314cf2ce27cd514be84e60ac"),
    (idText "ins_cn_index_sse_composite" "2026-07-28 01:30:00+00:00" "cn.baostock.v1",
      "10e6245d9cd2ce17b295c3c946620f98d2e6835b04b4f7f22220b5345ed8d9d9"),
    (idText "ins_cn_index_sse_composite" "2026-07-29 01:30:00+00:00" "cn.baostock.v1",
      "628a63588b16d9c1d25125df9cc83e34e881246b39a852cb2a41394d63110bbe"),
    (idText "ins_hk_equity_00700" "2026-07-28 01:30:00+00:00" "hk.xtquant.v1",
      "90789a74b75ee42d857596a99225e300654f985da5a8b28fe4103cd3c60695f8"),
    (idText "ins_hk_equity_00700" "2026-07-29 01:30:00+00:00" "hk.xtquant.v1",
      "686963230db8515dd4b4f318725da31e0c3d95ac50607e39f4ad6bdfc226ab01"),
    (spyText "2026-07-28", "867f86062f7f3ab2892c0050d1adffc65707c288fc0f97ab0a5d6c109f7b97ab"),
    (sseText "2026-07-28", "99161a96138ea20e852bffe8e5a96f0f67bbd7481d36b07c8f94475bd743643c"),
    (tencentText "2026-07-28",
      "dc2e5a5abcdcb4c798a219d209055addea24e0bd104bc7681cc3ce6461db213b"),
    (spyText "2026-07-29", "02ac18a1b068475ed947a90a98d3cb3cac3758484a329071ef41e399206f8ce6"),
    (sseText "2026-07-29", "896979ddca6b2c97f2a90854afc3775f109a5bf6bd75c164a54a0e7d3c1a0916"),
    (tencentText "2026-07-29",
      "4b106b80f120a565e8ee843239f8b69b5e6775b6ef0bd22dcfaef54b4ba54b4e")]

/-- The digest of the empty text stands for those of other texts. -/
def sampleBarWriting : Writing where
  decimal x := toString x
  dumpsParts parts := Report.canonicalJson (Report.strings parts)
  dumpsPayload := Report.canonicalJson
  sha256Hex text :=
    ((sampleBarDigests.find? fun entry => entry.1 = text).map Prod.snd).getD
      "e3b0c44298fc1c149afbf4c8996fb92427ae41e4649b934ca495991b7852b855"
  hexdigest text := by
    have hknown : ∀ digest ∈ sampleBarDigests.map Prod.snd, IsSha256 digest := by
      simp only [sampleBarDigests, List.map_cons, List.map_nil, List.forall_mem_cons]
      decide +kernel
    cases hfound : sampleBarDigests.find? fun entry => entry.1 = text with
    | none =>
      have hempty : IsSha256
          "e3b0c44298fc1c149afbf4c8996fb92427ae41e4649b934ca495991b7852b855" := by decide +kernel
      exact hempty
    | some entry => exact hknown _ (List.mem_map_of_mem (List.mem_of_find?_eq_some hfound))

/-- How many bars and warnings a parser returns. -/
def lengths {α β : Type} (parsed : Except RowError (List α × List β)) : Option (ℕ × ℕ) :=
  parsed.toOption.map fun (bars, warnings) => (bars.length, warnings.length)

theorem lengths_some {α β : Type} {parsed : Except RowError (List α × List β)} {m n : ℕ}
    (h : lengths parsed = some (m, n)) :
    ∃ bars warnings, parsed = .ok (bars, warnings) ∧ bars.length = m ∧ warnings.length = n := by
  cases parsed with
  | error e => cases h
  | ok result =>
    cases h
    exact ⟨result.1, result.2, rfl, rfl, rfl⟩

/-- Of three rows one is a bar, one is outside the window and one is set aside. -/
theorem bars_conserved_july29 :
    (∃ bars warnings,
      TwelveData.parsePayload (fixedZone (-4)) sampleBarWriting sampleReading rowsWeb spy july29
        july29.asOf spyPayload = .ok (bars, warnings) ∧ bars.length = 1 ∧ warnings.length = 1 ∧
      Conserves (TwelveData.reader (fixedZone (-4)) sampleBarWriting sampleReading rowsWeb spy
        july29 july29.asOf) july29 spyValues bars warnings) ∧
    (∃ bars warnings,
      BaoStock.parseRows (fixedZone 8) sampleBarWriting sampleReading rowsWeb sseComposite july29
        july29.asOf sseRows = .ok (bars, warnings) ∧ bars.length = 1 ∧ warnings.length = 1 ∧
      Conserves (BaoStock.reader (fixedZone 8) sampleBarWriting sampleReading rowsWeb sseComposite
        july29 july29.asOf) july29 sseRows bars warnings) ∧
    ∃ bars warnings,
      XtQuant.parseRows (fixedZone 8) sampleBarWriting sampleReading rowsWeb tencent july29
        july29.asOf tencentRows = .ok (bars, warnings) ∧ bars.length = 1 ∧ warnings.length = 1 ∧
      Conserves (XtQuant.reader (fixedZone 8) sampleBarWriting sampleReading rowsWeb tencent
        july29 july29.asOf) july29 tencentRows bars warnings := by
  obtain ⟨htwelve, hbao, hxt⟩ := bars_conserved sampleBarWriting sampleReading rowsWeb
  refine ⟨?_, ?_, ?_⟩
  -- the rows are run, and the two days that are read have different ids
  · have hcount : lengths (TwelveData.parsePayload (fixedZone (-4)) sampleBarWriting sampleReading
        rowsWeb spy july29 july29.asOf spyPayload) = some (1, 1) := by decide +kernel
    have hdays : ∀ day ∈ readDays sampleReading (TwelveData.reader (fixedZone (-4))
        sampleBarWriting sampleReading rowsWeb spy july29 july29.asOf) spyValues,
        day ∈ [(20662 : Day), 20663] := by
      rintro day ⟨_ | _ | _ | i, row, hrow, hkey⟩ <;> cases hrow <;> cases hkey <;> decide
    have hids : ∀ a ∈ [(20662 : Day), 20663], ∀ b ∈ [(20662 : Day), 20663],
        (TwelveData.session (fixedZone (-4))).barId sampleBarWriting sampleReading
          spy.instrumentId a =
        (TwelveData.session (fixedZone (-4))).barId sampleBarWriting sampleReading
          spy.instrumentId b → a = b := by decide +kernel
    obtain ⟨bars, warnings, hparsed, hbars, hwarnings⟩ := lengths_some hcount
    exact ⟨bars, warnings, hparsed, hbars, hwarnings,
      htwelve _ _ _ _ _ _ _ _ rfl (DistinctDigests.of_list hdays hids) hparsed⟩
  · have hcount : lengths (BaoStock.parseRows (fixedZone 8) sampleBarWriting sampleReading rowsWeb
        sseComposite july29 july29.asOf sseRows) = some (1, 1) := by decide +kernel
    have hdays : ∀ day ∈ readDays sampleReading (BaoStock.reader (fixedZone 8)
        sampleBarWriting sampleReading rowsWeb sseComposite july29 july29.asOf) sseRows,
        day ∈ [(20662 : Day), 20663] := by
      rintro day ⟨_ | _ | _ | i, row, hrow, hkey⟩ <;> cases hrow <;> cases hkey <;> decide
    have hids : ∀ a ∈ [(20662 : Day), 20663], ∀ b ∈ [(20662 : Day), 20663],
        (BaoStock.session (fixedZone 8)).barId sampleBarWriting sampleReading
          sseComposite.instrumentId a =
        (BaoStock.session (fixedZone 8)).barId sampleBarWriting sampleReading
          sseComposite.instrumentId b → a = b := by decide +kernel
    obtain ⟨bars, warnings, hparsed, hbars, hwarnings⟩ := lengths_some hcount
    exact ⟨bars, warnings, hparsed, hbars, hwarnings,
      hbao _ _ _ _ _ _ _ (DistinctDigests.of_list hdays hids) hparsed⟩
  · have hcount : lengths (XtQuant.parseRows (fixedZone 8) sampleBarWriting sampleReading rowsWeb
        tencent july29 july29.asOf tencentRows) = some (1, 1) := by decide +kernel
    have hdays : ∀ day ∈ readDays sampleReading (XtQuant.reader (fixedZone 8)
        sampleBarWriting sampleReading rowsWeb tencent july29 july29.asOf) tencentRows,
        day ∈ [(20662 : Day), 20663] := by
      rintro day ⟨_ | _ | _ | i, row, hrow, hkey⟩ <;> cases hrow <;> cases hkey <;> decide
    have hids : ∀ a ∈ [(20662 : Day), 20663], ∀ b ∈ [(20662 : Day), 20663],
        (XtQuant.session (fixedZone 8)).barId sampleBarWriting sampleReading
          tencent.instrumentId a =
        (XtQuant.session (fixedZone 8)).barId sampleBarWriting sampleReading
          tencent.instrumentId b → a = b := by decide +kernel
    obtain ⟨bars, warnings, hparsed, hbars, hwarnings⟩ := lengths_some hcount
    exact ⟨bars, warnings, hparsed, hbars, hwarnings,
      hxt _ _ _ _ _ _ _ (DistinctDigests.of_list hdays hids) hparsed⟩

end MacroPlatform.Providers
