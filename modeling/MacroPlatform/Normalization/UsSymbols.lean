import MacroPlatform.Contracts.Calendar
import MacroPlatform.Contracts.Unicode
import MacroPlatform.Lib.Except
import MacroPlatform.Lib.Validity
import Mathlib.Data.Finset.Card
import Mathlib.Data.List.MinMax

/-! # US symbols and their aliases

A symbol names an instrument for a while. The registry is checked when it is loaded, by comparing
the validities of its aliases two by two; a symbol is resolved for one date.

* `resolveUsAliasForDate_ok`: what is resolved is in effect and the newest of its symbol;
* `usAliasValidation_exact`: which registries are accepted.
-/

namespace MacroPlatform.Normalization

variable (u : Unicode) (digest : String → String)

/-! ## Errors -/

/-- The classes of `UsNormalizationError` that symbols raise. -/
inductive UsSymbolErrorClass where
  | symbolNormalization
  | unsupportedExchange
  | ambiguousSymbolAlias
deriving DecidableEq, Repr

def UsSymbolErrorClass.code : UsSymbolErrorClass → String
  | .symbolNormalization => "SYMBOL_UNRESOLVED"
  | .unsupportedExchange => "UNSUPPORTED_EXCHANGE"
  | .ambiguousSymbolAlias => "AMBIGUOUS_SYMBOL_ALIAS"

structure UsSymbolError where
  cls : UsSymbolErrorClass
  message : String
deriving DecidableEq, Repr

/-- `str(error)`. -/
def UsSymbolError.text (error : UsSymbolError) : String :=
  error.cls.code ++ ": " ++ error.message

/-! ## Symbols -/

/-- `_EXCHANGE_TO_MIC`. -/
def exchangeToMic : List (String × String) :=
  [("NASDAQ", "XNAS"), ("NAS", "XNAS"), ("XNAS", "XNAS"), ("NYSE", "XNYS"), ("XNYS", "XNYS"),
    ("NYSE ARCA", "ARCX"), ("ARCA", "ARCX"), ("ARCX", "ARCX"), ("NYSE AMERICAN", "XASE"),
    ("AMEX", "XASE"), ("XASE", "XASE"), ("CBOE", "BATS"), ("BATS", "BATS")]

/-- `_KNOWN_US_MICS`. -/
def knownUsMics : List String := exchangeToMic.map Prod.snd

/-- `_resolve_mic`. -/
def resolveMic (exchange : String) : Except UsSymbolError String :=
  let normalized := " ".intercalate
    (pySplit (pyReplace '-' ' ' (pyReplace '_' ' ' (u.pyUpper (pyStrip exchange)))))
  match exchangeToMic.lookup normalized with
  | none => .error ⟨.unsupportedExchange, "unsupported US exchange: " ++ exchange⟩
  | some mic => .ok mic

/-- `_normalize_local_symbol`. -/
def normalizeLocalSymbol (source : String) : Except UsSymbolError String :=
  let localSymbol := u.pyUpper (pyStrip source)
  if localSymbol = "" then .error ⟨.symbolNormalization, "source symbol is empty"⟩
  else .ok localSymbol

/-- `_CanonicalSymbolParts`. -/
structure CanonicalSymbolParts where
  sourceSymbol : String
  venueMic : String
  localSymbol : String
  canonicalSymbol : String

/-- `_normalize_canonical_symbol_parts`. -/
def normalizeCanonicalSymbolParts (sourceSymbol : String) (allowedMics : Option (List String)) :
    Except UsSymbolError CanonicalSymbolParts :=
  let source := pyStrip sourceSymbol
  if ':' ∉ source.toList then
    .error ⟨.symbolNormalization, "canonical symbol requires '<MIC>:<LOCAL_SYMBOL>'"⟩
  else
    let venueMic := u.pyUpper (pyStrip (pyPartition ':' source).1)
    normalizeLocalSymbol u (pyPartition ':' source).2 >>= fun localSymbol =>
    if venueMic = "" then .error ⟨.unsupportedExchange, "canonical symbol MIC is empty"⟩
    else if allowedMics.any (venueMic ∉ ·) then
      .error ⟨.unsupportedExchange, "unsupported MIC: " ++ venueMic⟩
    else .ok ⟨sourceSymbol, venueMic, localSymbol, venueMic ++ ":" ++ localSymbol⟩

/-- `_NormalizedUsSymbol`. -/
structure NormalizedUsSymbol where
  sourceSymbol : String
  localSymbol : String
  venueMic : String
  canonicalSymbol : String
deriving DecidableEq

/-- `normalize_us_symbol`. -/
def normalizeUsSymbol (sourceSymbol : String) (exchange : Option String) :
    Except UsSymbolError NormalizedUsSymbol :=
  let source := pyStrip sourceSymbol
  if source = "" then .error ⟨.symbolNormalization, "source symbol is empty"⟩
  else if ':' ∈ source.toList then
    normalizeCanonicalSymbolParts u source (some knownUsMics) >>= fun canonical =>
    let normalized : NormalizedUsSymbol :=
      ⟨sourceSymbol, canonical.localSymbol, canonical.venueMic,
        canonical.venueMic ++ ":" ++ canonical.localSymbol⟩
    match exchange with
    | none => .ok normalized
    | some exchange =>
      resolveMic u exchange >>= fun mic =>
      if mic ≠ canonical.venueMic then
        .error ⟨.ambiguousSymbolAlias,
          "canonical symbol " ++ source ++ " conflicts with exchange " ++ exchange⟩
      else .ok normalized
  else
    match exchange with
    | none =>
      .error ⟨.symbolNormalization, "exchange is required; refusing to guess US venue"⟩
    | some exchange =>
      resolveMic u exchange >>= fun venueMic =>
      normalizeLocalSymbol u source >>= fun localSymbol =>
      .ok ⟨sourceSymbol, localSymbol, venueMic, venueMic ++ ":" ++ localSymbol⟩

/-! ## Aliases -/

/-- `UsInstrumentIdentity`. -/
structure UsInstrumentIdentity where
  issuerKey : Option String
  firstCanonicalSymbol : String
  firstValidFrom : PyDate

/-- `_UsAlias`. -/
structure UsAlias where
  sourceSymbol : String
  localSymbol : String
  venueMic : String
  canonicalSymbol : String
  instrumentId : String
  validFrom : PyDate
  validTo : Option PyDate
  issuerKey : Option String
  qualityFlags : List String
deriving DecidableEq

/-- The dates the alias is in effect on. -/
def UsAlias.validity (entry : UsAlias) : Span PyDate := ⟨entry.validFrom, entry.validTo⟩

/-- `_normalize_id_canonical_symbol`. -/
def normalizeIdCanonicalSymbol (canonicalSymbol : String) : Except UsSymbolError String :=
  normalizeCanonicalSymbolParts u canonicalSymbol (some knownUsMics) >>= fun canonical =>
  .ok canonical.canonicalSymbol

/-- `_short_stable_id`; `digest` is the hexadecimal SHA-256. -/
def shortStableId (idNamespace seed : String) : String :=
  idNamespace ++ "_" ++ String.ofList ((digest seed).toList.take 16)

/-- `us_instrument_id`. -/
def usInstrumentId (identity : UsInstrumentIdentity) : Except UsSymbolError String :=
  normalizeIdCanonicalSymbol u identity.firstCanonicalSymbol >>= fun canonicalSymbol =>
  .ok (shortStableId digest "ins_us" (canonicalSymbol ++ Day.isoformat identity.firstValidFrom))

/-- `_normalize_issuer_key`. -/
def normalizeIssuerKey (issuerKey : Option String) : Option String :=
  (issuerKey.map pyStrip).filter (· ≠ "")

/-- `_issuer_quality_flags`. -/
def issuerQualityFlags : Option String → List String
  | none => ["issuer_enrichment_missing"]
  | some _ => []

/-- `normalize_us_alias`. -/
def normalizeUsAlias (sourceSymbol exchange : String) (validFrom : PyDate)
    (instrumentIdentity : UsInstrumentIdentity) (validTo : Option PyDate) :
    Except UsSymbolError UsAlias :=
  if validTo.any (· ≤ validFrom) then
    .error ⟨.symbolNormalization, "valid_to must be later than valid_from"⟩
  else
    normalizeUsSymbol u sourceSymbol (some exchange) >>= fun symbol =>
    normalizeIdCanonicalSymbol u instrumentIdentity.firstCanonicalSymbol >>=
      fun firstCanonicalSymbol =>
    if validFrom < instrumentIdentity.firstValidFrom then
      .error ⟨.symbolNormalization, "alias valid_from cannot precede instrument first_valid_from"⟩
    else if validFrom = instrumentIdentity.firstValidFrom ∧
        symbol.canonicalSymbol ≠ firstCanonicalSymbol then
      .error ⟨.symbolNormalization,
        "first effective alias must match instrument first_canonical_symbol"⟩
    else
      let issuerKey := normalizeIssuerKey instrumentIdentity.issuerKey
      usInstrumentId u digest instrumentIdentity >>= fun instrumentId =>
      .ok
        { sourceSymbol := sourceSymbol
          localSymbol := symbol.localSymbol
          venueMic := symbol.venueMic
          canonicalSymbol := symbol.canonicalSymbol
          instrumentId := instrumentId
          validFrom := validFrom
          validTo := validTo
          issuerKey := issuerKey
          qualityFlags := issuerQualityFlags issuerKey }

/-- `_date_ranges_overlap`. -/
def dateRangesOverlap (leftFrom : PyDate) (leftTo : Option PyDate) (rightFrom : PyDate)
    (rightTo : Option PyDate) : Bool :=
  leftFrom < rightTo.getD ⊤ ∧ rightFrom < leftTo.getD ⊤

/-- The inner loop of `validate_us_aliases`. -/
def validateAgainst (left : UsAlias) : List UsAlias → Except UsSymbolError Unit
  | [] => .ok ()
  | right :: rest =>
    if (left.venueMic, left.localSymbol) ≠ (right.venueMic, right.localSymbol) then
      validateAgainst left rest
    else if left.instrumentId = right.instrumentId then validateAgainst left rest
    else if dateRangesOverlap left.validFrom left.validTo right.validFrom right.validTo then
      .error ⟨.ambiguousSymbolAlias,
        left.canonicalSymbol ++ " maps to multiple instruments on overlapping dates"⟩
    else validateAgainst left rest

/-- `validate_us_aliases`. -/
def validateUsAliases : List UsAlias → Except UsSymbolError Unit
  | [] => .ok ()
  | left :: rest => validateAgainst left rest >>= fun _ => validateUsAliases rest

/-- The aliases of a symbol that are in effect on the date. -/
def effectiveAliases (symbol : NormalizedUsSymbol) (aliases : List UsAlias) (asOf : PyDate) :
    List UsAlias :=
  aliases.filter fun entry =>
    (entry.venueMic, entry.localSymbol) = (symbol.venueMic, symbol.localSymbol) ∧
      entry.validFrom ≤ asOf ∧ entry.validTo.all (asOf < ·)

/-- What `resolve_us_alias_for_date` raises when several instruments match. -/
def severalInstruments (symbol : NormalizedUsSymbol) (asOf : PyDate) : UsSymbolError :=
  ⟨.ambiguousSymbolAlias,
    symbol.canonicalSymbol ++ " maps to multiple instruments on " ++ Day.isoformat asOf⟩

/-- `resolve_us_alias_for_date`; nothing is the newest alias exactly when nothing matches. -/
def resolveUsAliasForDate (sourceSymbol exchange : String) (aliases : List UsAlias)
    (asOf : PyDate) : Except UsSymbolError UsAlias :=
  normalizeUsSymbol u sourceSymbol (some exchange) >>= fun symbol =>
  let effective := effectiveAliases symbol aliases asOf
  match effective.argmax (·.validFrom) with
  | none =>
    .error ⟨.symbolNormalization,
      "no effective alias mapping for " ++ symbol.canonicalSymbol ++ " on " ++
        Day.isoformat asOf⟩
  | some newest =>
    if 1 < (effective.map (·.instrumentId)).toFinset.card then
      .error (severalInstruments symbol asOf)
    else .ok newest

/-! ## The check and the resolution -/

variable {u digest}

/-- Two aliases name the same symbol. -/
def UsAlias.SameSymbol (left right : UsAlias) : Prop :=
  (left.venueMic, left.localSymbol) = (right.venueMic, right.localSymbol)

/-- If two aliases name the same symbol, it is for the same instrument. -/
def UsAlias.Agree (left right : UsAlias) : Prop :=
  left.SameSymbol right → left.instrumentId = right.instrumentId

theorem UsAlias.Agree.symm {left right : UsAlias} (h : left.Agree right) : right.Agree left :=
  fun hsame => (h (Eq.symm hsame)).symm

theorem dateRangesOverlap_iff {left right : UsAlias} :
    dateRangesOverlap left.validFrom left.validTo right.validFrom right.validTo = true ↔
      left.validity.Overlaps right.validity := by
  simp [dateRangesOverlap, UsAlias.validity, Span.Overlaps]

/-- An alias passes when it agrees with each later one that overlaps it. -/
theorem validateAgainst_ok {left : UsAlias} {rest : List UsAlias} :
    validateAgainst left rest = .ok () ↔
      ∀ right ∈ rest, left.validity.Overlaps right.validity → left.Agree right := by
  induction rest with
  | nil => simp [validateAgainst]
  | cons right rest ih =>
    rw [validateAgainst, List.forall_mem_cons, ← ih]
    by_cases hsymbol : (left.venueMic, left.localSymbol) ≠ (right.venueMic, right.localSymbol)
    · rw [if_pos hsymbol]
      exact (and_iff_right fun _ hsame => absurd hsame hsymbol).symm
    by_cases hid : left.instrumentId = right.instrumentId
    · rw [if_neg hsymbol, if_pos hid]
      exact (and_iff_right fun _ _ => hid).symm
    -- the symbol is the same and the instrument is not: the two may not overlap
    rw [if_neg hsymbol, if_neg hid]
    by_cases hoverlap :
        dateRangesOverlap left.validFrom left.validTo right.validFrom right.validTo = true
    · rw [if_pos hoverlap]
      constructor
      · intro h
        cases h
      · rintro ⟨hagree, -⟩
        exact absurd (hagree (dateRangesOverlap_iff.mp hoverlap) (not_not.mp hsymbol)) hid
    · rw [if_neg hoverlap]
      exact (and_iff_right fun h => absurd (dateRangesOverlap_iff.mpr h) hoverlap).symm

/-- The aliases pass when any two that overlap agree. -/
theorem validateUsAliases_ok {aliases : List UsAlias} :
    validateUsAliases aliases = .ok () ↔ aliases.Pairwise fun left right =>
      left.validity.Overlaps right.validity → left.Agree right := by
  induction aliases with
  | nil => simp [validateUsAliases]
  | cons left rest ih =>
    rw [validateUsAliases, Raising.bind_ok, List.pairwise_cons, ← validateAgainst_ok, ← ih]
    constructor
    · rintro ⟨⟨⟩, hleft, hrest⟩
      exact ⟨hleft, hrest⟩
    · rintro ⟨hleft, hrest⟩
      exact ⟨(), hleft, hrest⟩

theorem mem_effectiveAliases {symbol : NormalizedUsSymbol} {aliases : List UsAlias}
    {asOf : PyDate} {entry : UsAlias} :
    entry ∈ effectiveAliases symbol aliases asOf ↔ entry ∈ aliases ∧
      (entry.venueMic, entry.localSymbol) = (symbol.venueMic, symbol.localSymbol) ∧
      entry.validity.Contains asOf := by
  cases hto : entry.validTo <;>
    simp [effectiveAliases, UsAlias.validity, Span.Contains, hto]

/-- A set of ids has more than one element when two of them differ. -/
theorem severalIds_iff {entries : List UsAlias} :
    1 < (entries.map (·.instrumentId)).toFinset.card ↔
      ∃ left ∈ entries, ∃ right ∈ entries, left.instrumentId ≠ right.instrumentId := by
  simp [Finset.one_lt_card]

/-- The resolution of a symbol in its own words. -/
theorem resolveUsAliasForDate_eq {sourceSymbol exchange : String} {symbol : NormalizedUsSymbol}
    (hsymbol : normalizeUsSymbol u sourceSymbol (some exchange) = .ok symbol)
    (aliases : List UsAlias) (asOf : PyDate) :
    (resolveUsAliasForDate u sourceSymbol exchange aliases asOf =
        .error (severalInstruments symbol asOf) ↔
      ∃ left ∈ effectiveAliases symbol aliases asOf,
        ∃ right ∈ effectiveAliases symbol aliases asOf,
          left.instrumentId ≠ right.instrumentId) := by
  rw [resolveUsAliasForDate, hsymbol, Raising.ok_bind, ← severalIds_iff]
  -- from here on only the aliases in effect count, whichever they are
  generalize effectiveAliases symbol aliases asOf = effective
  -- without any there is no instrument at all
  cases hnewest : effective.argmax (·.validFrom) with
  | none =>
    rw [List.argmax_eq_none] at hnewest
    simp [hnewest, severalInstruments]
  | some newest =>
    simp only [hnewest]
    by_cases hseveral : 1 < (effective.map (·.instrumentId)).toFinset.card
    · simp [hseveral]
    · simp [hseveral]

/-- What is resolved is in effect and the newest of the symbol. -/
theorem resolveUsAliasForDate_ok {sourceSymbol exchange : String} {aliases : List UsAlias}
    {asOf : PyDate} {newest : UsAlias}
    (h : resolveUsAliasForDate u sourceSymbol exchange aliases asOf = .ok newest) :
    newest ∈ aliases ∧ newest.validity.Contains asOf ∧
      ∀ entry ∈ aliases, entry.SameSymbol newest → entry.validity.Contains asOf →
        entry.validFrom ≤ newest.validFrom := by
  rw [resolveUsAliasForDate, Raising.bind_ok] at h
  rcases h with ⟨symbol, -, h⟩
  cases hnewest : (effectiveAliases symbol aliases asOf).argmax (·.validFrom) with
  | none =>
    simp only [hnewest] at h
    cases h
  | some found =>
    simp only [hnewest] at h
    -- were there several instruments, an error would have come back
    have hfound : found = newest := by
      by_cases hseveral :
          1 < ((effectiveAliases symbol aliases asOf).map (·.instrumentId)).toFinset.card
      · rw [if_pos hseveral] at h
        cases h
      · rw [if_neg hseveral] at h
        exact Except.ok.inj h
    rw [hfound] at hnewest
    rcases mem_effectiveAliases.mp (List.argmax_mem hnewest) with ⟨hmem, hsymbol, heffective⟩
    refine ⟨hmem, heffective, ?_⟩
    -- an alias of the symbol that is in effect was among those compared
    intro entry hentry hsame hcontains
    have heffective' : entry ∈ effectiveAliases symbol aliases asOf :=
      mem_effectiveAliases.mpr ⟨hentry, Eq.trans hsame hsymbol, hcontains⟩
    exact List.le_of_mem_argmax heffective' hnewest

/-! ## Aliases that were built -/

variable (u digest)

/-- The alias is what `normalize_us_alias` makes of some arguments. -/
def UsAlias.Built (entry : UsAlias) : Prop :=
  ∃ sourceSymbol exchange validFrom identity validTo,
    normalizeUsAlias u digest sourceSymbol exchange validFrom identity validTo = .ok entry

variable {u digest}

/-- A built alias has the symbol of its source, and its validity is not empty. -/
theorem UsAlias.Built.sound {entry : UsAlias} (h : entry.Built u digest) :
    entry.validity.Proper ∧ ∃ sourceSymbol exchange symbol,
      normalizeUsSymbol u sourceSymbol (some exchange) = .ok symbol ∧
        (entry.venueMic, entry.localSymbol) = (symbol.venueMic, symbol.localSymbol) := by
  rcases h with ⟨sourceSymbol, exchange, validFrom, identity, validTo, h⟩
  -- the checks in the order of the source
  rw [normalizeUsAlias] at h
  by_cases hrange : validTo.any (· ≤ validFrom) = true
  · rw [if_pos hrange] at h
    cases h
  rw [if_neg hrange, Raising.bind_ok] at h
  rcases h with ⟨symbol, hsymbol, h⟩
  rw [Raising.bind_ok] at h
  rcases h with ⟨firstCanonicalSymbol, -, h⟩
  by_cases hprecedes : validFrom < identity.firstValidFrom
  · rw [if_pos hprecedes] at h
    cases h
  rw [if_neg hprecedes] at h
  by_cases hfirst : validFrom = identity.firstValidFrom ∧
      symbol.canonicalSymbol ≠ firstCanonicalSymbol
  · rw [if_pos hfirst] at h
    cases h
  rw [if_neg hfirst, Raising.bind_ok] at h
  rcases h with ⟨instrumentId, -, h⟩
  cases h
  refine ⟨?_, sourceSymbol, exchange, symbol, hsymbol, rfl⟩
  -- the first of them leaves no empty validity
  intro stop hstop
  have hto : validTo = some stop := hstop
  have hlater : ¬ stop ≤ validFrom := by
    simpa only [hto, Option.any_some, decide_eq_true_eq] using hrange
  exact lt_of_not_ge hlater

/-- The check on loading accepts exactly the registries in which no symbol is ambiguous on a date
before the last one, and what is resolved is the newest alias in effect. -/
theorem usAliasValidation_exact (aliases : List UsAlias)
    (hbuilt : ∀ entry ∈ aliases, entry.Built u digest) :
    (validateUsAliases aliases = .ok () ↔
      ¬ ∃ sourceSymbol exchange asOf symbol, asOf < ⊤ ∧
        normalizeUsSymbol u sourceSymbol (some exchange) = .ok symbol ∧
        resolveUsAliasForDate u sourceSymbol exchange aliases asOf =
          .error (severalInstruments symbol asOf)) ∧
      ∀ sourceSymbol exchange asOf newest,
        resolveUsAliasForDate u sourceSymbol exchange aliases asOf = .ok newest →
          newest ∈ aliases ∧ newest.validity.Contains asOf ∧
            ∀ entry ∈ aliases, entry.SameSymbol newest → entry.validity.Contains asOf →
              entry.validFrom ≤ newest.validFrom := by
  refine ⟨?_, fun _ _ _ _ => resolveUsAliasForDate_ok⟩
  rw [validateUsAliases_ok, Span.pairwise_iff (fun entry hmem => (hbuilt entry hmem).sound.1)
    (fun _ _ _ => rfl) fun _ _ => UsAlias.Agree.symm]
  constructor
  · -- two instruments that match would be two aliases that disagree on the date
    rintro hagree ⟨sourceSymbol, exchange, asOf, symbol, hasOf, hsymbol, hraised⟩
    rw [resolveUsAliasForDate_eq hsymbol] at hraised
    rcases hraised with ⟨left, hleft, right, hright, hne⟩
    rcases mem_effectiveAliases.mp hleft with ⟨hleft, hleftSymbol, hleftContains⟩
    rcases mem_effectiveAliases.mp hright with ⟨hright, hrightSymbol, hrightContains⟩
    exact hne (hagree asOf hasOf left hleft hleftContains right hright hrightContains
      (Eq.trans hleftSymbol (Eq.symm hrightSymbol)))
  · -- two aliases that disagree are found under the spelling one of them was built from
    intro hnever asOf hasOf left hleft hleftContains right hright hrightContains hsame
    by_contra hne
    rcases (hbuilt left hleft).sound with ⟨-, sourceSymbol, exchange, symbol, hsymbol, hparts⟩
    refine hnever ⟨sourceSymbol, exchange, asOf, symbol, hasOf, hsymbol, ?_⟩
    rw [resolveUsAliasForDate_eq hsymbol]
    exact ⟨left, mem_effectiveAliases.mpr ⟨hleft, hparts, hleftContains⟩, right,
      mem_effectiveAliases.mpr ⟨hright, Eq.trans (Eq.symm hsame) hparts, hrightContains⟩, hne⟩

/-! ## A rename onto a used ticker -/

/-- A company that was renamed. -/
def renamed : UsInstrumentIdentity :=
  ⟨some "cik0001326801", "XNAS:FB", ⟨15478, by decide, by decide⟩⟩

/-- The fund that had its second ticker before. -/
def formerFund : UsInstrumentIdentity :=
  ⟨none, "XNAS:META", ⟨18808, by decide, by decide⟩⟩

/-- The digests of the two seeds. -/
def renamedDigest (seed : String) : String :=
  if seed = "XNAS:META2021-06-30" then
    "5553ded43aaac8331f838c655d240672de1e692f3b3a8c10a4a6d9df9df9e13c"
  else "d783aabe57da8f19ff18af46a3c96f683e11dce1da83dc86c9af8b321a5eda4c"

/-- The first alias of the company and the alias of the fund end on the date the second alias of
the company starts. -/
def renamedAliases : List UsAlias :=
  [⟨"META", "META", "XNAS", "XNAS:META", "ins_us_5553ded43aaac833", ⟨18808, by decide, by decide⟩,
      some ⟨19152, by decide, by decide⟩, none, ["issuer_enrichment_missing"]⟩,
    ⟨"FB", "FB", "XNAS", "XNAS:FB", "ins_us_d783aabe57da8f19", ⟨15478, by decide, by decide⟩,
      some ⟨19152, by decide, by decide⟩, some "cik0001326801", []⟩,
    ⟨"META", "META", "XNAS", "XNAS:META", "ins_us_d783aabe57da8f19", ⟨19152, by decide, by decide⟩,
      none, some "cik0001326801", []⟩]

/-- The ticker is never ambiguous, and on the date of the change it is the company's. -/
theorem usAliasValidation_exact_renamed :
    (¬ ∃ sourceSymbol exchange asOf symbol, asOf < ⊤ ∧
      normalizeUsSymbol Unicode.ascii sourceSymbol (some exchange) = .ok symbol ∧
      resolveUsAliasForDate Unicode.ascii sourceSymbol exchange renamedAliases asOf =
        .error (severalInstruments symbol asOf)) ∧
      ∃ newest, resolveUsAliasForDate Unicode.ascii "META" "NASDAQ" renamedAliases
          ⟨19152, by decide, by decide⟩ = .ok newest ∧
        newest.instrumentId = "ins_us_d783aabe57da8f19" ∧
        newest.validity.Contains ⟨19152, by decide, by decide⟩ := by
  have hbuilt : ∀ entry ∈ renamedAliases, entry.Built Unicode.ascii renamedDigest := by
    intro entry hmem
    simp only [renamedAliases, List.mem_cons, List.not_mem_nil, or_false] at hmem
    rcases hmem with rfl | rfl | rfl
    · exact ⟨"META", "NASDAQ", ⟨18808, by decide, by decide⟩, formerFund,
        some ⟨19152, by decide, by decide⟩, by decide +kernel⟩
    · exact ⟨"FB", "NASDAQ", ⟨15478, by decide, by decide⟩, renamed,
        some ⟨19152, by decide, by decide⟩, by decide +kernel⟩
    · exact ⟨"META", "NASDAQ", ⟨19152, by decide, by decide⟩, renamed, none, by decide +kernel⟩
  have hexact := usAliasValidation_exact renamedAliases hbuilt
  refine ⟨hexact.1.mp (by decide +kernel), ?_⟩
  -- two aliases of the ticker are in the registry, and the later one starts on that date
  have hresolved : ((resolveUsAliasForDate Unicode.ascii "META" "NASDAQ" renamedAliases
      ⟨19152, by decide, by decide⟩).toOption.any
        fun newest => newest.instrumentId = "ins_us_d783aabe57da8f19") = true := by
    decide +kernel
  cases hfound : resolveUsAliasForDate Unicode.ascii "META" "NASDAQ" renamedAliases
      ⟨19152, by decide, by decide⟩ with
  | error error =>
    rw [hfound] at hresolved
    cases hresolved
  | ok newest =>
    rw [hfound] at hresolved
    exact ⟨newest, rfl, of_decide_eq_true hresolved,
      (hexact.2 "META" "NASDAQ" _ newest hfound).2.1⟩

end MacroPlatform.Normalization
