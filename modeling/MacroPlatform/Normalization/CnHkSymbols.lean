import MacroPlatform.Contracts.Calendar
import MacroPlatform.Contracts.Text
import MacroPlatform.Contracts.Unicode
import MacroPlatform.Lib.Except
import MacroPlatform.Lib.Validity
import Mathlib.Data.Finset.Card

/-! # CN and HK symbols and their aliases

A security is spelled with or without its venue, in front or behind, and with or without the
leading zeros. Normalization brings every spelling to one canonical symbol; an alias of the
registry is compared with a requested symbol in the same way, but for white space.

* `canonicalSymbol_injective`: the canonical symbol tells the venue and the digits;
* `aliasMatches_iff`: which aliases match;
* `spelling_resolves_iff`: which accepted spellings are found again.
-/

namespace MacroPlatform.Normalization

variable (u : Unicode) (token : String → String)

/-- `SymbolMappingError`. -/
structure SymbolMappingError where
  message : String
  field : Option String
deriving DecidableEq, Repr

/-- `CN_VENUES`. -/
def cnVenues : List String := ["XSHG", "XSHE"]

/-- `HK_VENUES`. -/
def hkVenues : List String := ["XHKG"]

/-- `text[n:]`. -/
def dropFirst (n : ℕ) (text : String) : String := String.ofList (text.toList.drop n)

/-- `text[:-n]`. -/
def dropLast (n : ℕ) (text : String) : String :=
  String.ofList (text.toList.take (text.length - n))

/-- `_split_prefixed_symbol`. -/
def splitPrefixedSymbol (sourceSymbol : String) : Option String × String :=
  let upperSymbol := u.pyUpper sourceSymbol
  if ':' ∈ upperSymbol.toList then
    (some (pyPartition ':' upperSymbol).1, (pyPartition ':' upperSymbol).2)
  else if startsWith "SH" upperSymbol ∧ upperSymbol.length = 8 then
    (some "XSHG", dropFirst 2 upperSymbol)
  else if startsWith "SZ" upperSymbol ∧ upperSymbol.length = 8 then
    (some "XSHE", dropFirst 2 upperSymbol)
  else if endsWith ".SH" upperSymbol ∨ endsWith ".SS" upperSymbol then
    (some "XSHG", dropLast 3 upperSymbol)
  else if endsWith ".SZ" upperSymbol then (some "XSHE", dropLast 3 upperSymbol)
  else if endsWith ".HK" upperSymbol then (some "XHKG", dropLast 3 upperSymbol)
  else (none, sourceSymbol)

/-- `_normalize_cn_symbol`. -/
def normalizeCnSymbol (venueMic localSymbol : String) : Except SymbolMappingError String :=
  if venueMic ∉ cnVenues then .error ⟨"CN venue must be XSHG or XSHE", some "venue_mic"⟩
  else if localSymbol.length = 6 ∧ u.isDecimal localSymbol then .ok localSymbol
  else .error ⟨"CN local_symbol must be a six-digit code", some "local_symbol"⟩

/-- `str.zfill`, of a text without a sign. -/
def zfill (width : ℕ) (text : String) : String :=
  String.ofList (List.replicate (width - text.length) '0') ++ text

/-- `_normalize_hk_symbol`. -/
def normalizeHkSymbol (venueMic localSymbol : String) : Except SymbolMappingError String :=
  if venueMic ∉ hkVenues then .error ⟨"HK venue must be XHKG", some "venue_mic"⟩
  else if (1 ≤ localSymbol.length ∧ localSymbol.length ≤ 5) ∧ u.isDecimal localSymbol then
    .ok (zfill 5 localSymbol)
  else .error ⟨"HK local_symbol must be one to five digits", some "local_symbol"⟩

/-- `_normalize_symbol_for_region`. -/
def normalizeSymbolForRegion (region : Region) (venueMic sourceSymbol : String) :
    Except SymbolMappingError String :=
  match region with
  | .cn => normalizeCnSymbol u venueMic sourceSymbol
  | .hk => normalizeHkSymbol u venueMic sourceSymbol
  | _ => .error ⟨"only CN/HK regions are supported", some "region"⟩

/-- The venue and the symbol to go by: a venue in the symbol may not conflict with the other. -/
def cleanVenueAndSymbol (venueMic localSymbol : String) :
    Except SymbolMappingError (String × String) :=
  let cleanVenue := u.pyUpper (pyStrip venueMic)
  let cleanSymbol := pyStrip localSymbol
  match splitPrefixedSymbol u cleanSymbol with
  | (some parsedVenue, parsedSymbol) =>
    if cleanVenue ≠ "" ∧ cleanVenue ≠ parsedVenue then
      .error ⟨"symbol venue conflicts with venue_mic", some "local_symbol"⟩
    else .ok (parsedVenue, parsedSymbol)
  | (none, _) => .ok (cleanVenue, cleanSymbol)

/-- `AliasEffectiveDate`. -/
structure AliasEffectiveDate where
  instrumentKey : String
  providerId : String
  sourceSymbol : String
  canonicalSymbol : String
  validFrom : PyDate
  validTo : Option PyDate
deriving DecidableEq

/-- `InstrumentAliasRegistryEntry`. -/
structure InstrumentAliasRegistryEntry where
  instrumentKey : String
  providerId : String
  sourceSymbol : String
  venueMic : String
  validFrom : PyDate
  validTo : Option PyDate

/-- `NormalizedInstrumentSymbol`. -/
structure NormalizedInstrumentSymbol where
  instrumentId : String
  instrumentKey : String
  canonicalSymbol : String
  region : Region
  venueMic : String
  localSymbol : String
  timezone : String
  aliases : List AliasEffectiveDate
deriving DecidableEq

/-- `CN_TIMEZONE` and `HK_TIMEZONE`. -/
def regionTimezone : Region → String
  | .cn => "Asia/Shanghai"
  | _ => "Asia/Hong_Kong"

/-- `_instrument_id`; `token` is the Base32 of the SHA-256. -/
def instrumentIdOf (region : Region) (instrumentKey : String) : String :=
  let encoded := u.lower (token (region.value ++ "|" ++ instrumentKey))
  "ins_" ++ String.ofList ((encoded.toList.reverse.dropWhile (· = '=')).reverse.take 26)

/-- `normalize_instrument_symbol`. -/
def normalizeInstrumentSymbol (region : Region) (venueMic localSymbol : String)
    (validFrom : PyDate) (providerId instrumentKey : String) (validTo : Option PyDate) :
    Except SymbolMappingError NormalizedInstrumentSymbol :=
  if pyStrip providerId = "" then .error ⟨"provider_id is required", some "provider_id"⟩
  else if pyStrip instrumentKey = "" then
    .error ⟨"instrument_key is required", some "instrument_key"⟩
  else if validTo.any (· ≤ validFrom) then
    .error ⟨"valid_to must be later than valid_from", some "valid_to"⟩
  else
    cleanVenueAndSymbol u venueMic localSymbol >>= fun (cleanVenue, cleanSymbol) =>
    normalizeSymbolForRegion u region cleanVenue cleanSymbol >>= fun normalizedSymbol =>
    let canonicalSymbol := cleanVenue ++ ":" ++ normalizedSymbol
    .ok
      { instrumentId := instrumentIdOf u token region (pyStrip instrumentKey)
        instrumentKey := pyStrip instrumentKey
        canonicalSymbol := canonicalSymbol
        region := region
        venueMic := cleanVenue
        localSymbol := normalizedSymbol
        timezone := regionTimezone region
        aliases := [⟨pyStrip instrumentKey, pyStrip providerId, pyStrip localSymbol,
          canonicalSymbol, validFrom, validTo⟩] }

/-- `entry_venue or venue`: an empty text is no venue. -/
def candidateVenue (venue : String) : Option String → String
  | none => venue
  | some entryVenue => if entryVenue = "" then venue else entryVenue

/-- `_alias_matches`. -/
def aliasMatches (region : Region) (entry : InstrumentAliasRegistryEntry)
    (venueMic normalizedSymbol : String) : Bool :=
  let (entryVenue, entrySymbol) := splitPrefixedSymbol u entry.sourceSymbol
  let candidate := candidateVenue (u.pyUpper (pyStrip entry.venueMic)) entryVenue
  if candidate ≠ venueMic then false
  else
    match normalizeSymbolForRegion u region candidate entrySymbol with
    | .error _ => false
    | .ok candidateSymbol => candidateSymbol = normalizedSymbol

/-- `_alias_active`. -/
def aliasActive (entry : InstrumentAliasRegistryEntry) (asOf : PyDate) : Bool :=
  entry.validFrom ≤ asOf ∧ entry.validTo.all (asOf < ·)

/-- `resolve_instrument_alias`. -/
def resolveInstrumentAlias (region : Region) (venueMic localSymbol : String) (asOf : PyDate)
    (providerId : String) (aliases : List InstrumentAliasRegistryEntry) (includeInactive : Bool) :
    Except SymbolMappingError NormalizedInstrumentSymbol :=
  if pyStrip providerId = "" then .error ⟨"provider_id is required", some "provider_id"⟩
  else
    cleanVenueAndSymbol u venueMic localSymbol >>= fun (cleanVenue, cleanSymbol) =>
    normalizeSymbolForRegion u region cleanVenue cleanSymbol >>= fun requestedSymbol =>
    let matching := aliases.filter fun entry =>
      pyStrip entry.providerId = pyStrip providerId ∧
        aliasMatches u region entry cleanVenue requestedSymbol
    let active := matching.filter (aliasActive · asOf)
    let candidates := if active ≠ [] then active else if includeInactive then matching else []
    match candidates with
    | [] =>
      if matching ≠ [] then .error ⟨"inactive symbol alias", some "local_symbol"⟩
      else .error ⟨"symbol alias unresolved", some "local_symbol"⟩
    | entry :: _ =>
      if (candidates.map (·.instrumentKey)).toFinset.card ≠ 1 then
        .error ⟨"ambiguous symbol alias", some "local_symbol"⟩
      else
        normalizeInstrumentSymbol u token region entry.venueMic entry.sourceSymbol entry.validFrom
          (pyStrip providerId) entry.instrumentKey entry.validTo

/-! ## What a spelling is made of -/

variable {u token}

/-- The characters around the digits of a spelling, but for a venue. -/
def affixChars : List Char := [':', '.', 'S', 'H', 'Z', 'K']

/-- A character of a text is in one of the parts or is the separator. -/
theorem mem_pyPartition (separator : Char) {c : Char} {text : String} (h : c ∈ text.toList) :
    c ∈ (pyPartition separator text).1.toList ∨ c ∈ (pyPartition separator text).2.toList ∨
      c = separator := by
  rw [← List.takeWhile_append_dropWhile (p := (· ≠ separator)) (l := text.toList)] at h
  simp only [pyPartition, String.toList_ofList]
  -- a character stands before the separator or behind where the first part stops
  rcases List.mem_append.mp h with hfirst | hrest
  · exact Or.inl hfirst
  · right
    rcases hdrop : text.toList.dropWhile (· ≠ separator) with - | ⟨d, rest⟩
    · rw [hdrop] at hrest
      cases hrest
    · -- what stops the first part is the separator
      have hstop : d = separator := by
        have hhead := head_dropWhile (· ≠ separator) text.toList d (by rw [hdrop]; rfl)
        simpa using hhead
      rw [hdrop] at hrest
      rcases List.mem_cons.mp hrest with hc | hc
      · exact Or.inr (hc.trans hstop)
      · exact Or.inl hc

theorem mem_of_mem_pyPartition {separator c : Char} {text : String}
    (h : c ∈ (pyPartition separator text).2.toList) : c ∈ text.toList := by
  simp only [pyPartition, String.toList_ofList] at h
  exact (List.dropWhile_suffix _).subset (List.mem_of_mem_tail h)

theorem mem_dropFirst {start text : String} {n : ℕ} (hn : start.length = n)
    (hstart : startsWith start text = true) {c : Char} :
    c ∈ text.toList ↔ c ∈ start.toList ∨ c ∈ (dropFirst n text).toList := by
  rcases List.isPrefixOf_iff_prefix.mp hstart with ⟨rest, hrest⟩
  have hdrop : text.toList.drop n = rest := by
    rw [← hrest, ← hn, ← String.length_toList, List.drop_left]
  rw [dropFirst, String.toList_ofList, hdrop, ← hrest, List.mem_append]

theorem mem_dropLast {stop text : String} {n : ℕ} (hn : stop.length = n)
    (hstop : endsWith stop text = true) {c : Char} :
    c ∈ text.toList ↔ c ∈ stop.toList ∨ c ∈ (dropLast n text).toList := by
  rcases List.isSuffixOf_iff_suffix.mp hstop with ⟨rest, hrest⟩
  have htake : text.toList.take (text.length - n) = rest := by
    have hlength : text.length - n = rest.length := by
      rw [← hn, ← String.length_toList, ← String.length_toList, ← hrest, List.length_append]
      omega
    rw [hlength, ← hrest, List.take_left]
  rw [dropLast, String.toList_ofList, htake, ← hrest, List.mem_append, or_comm]

/-- A venue and a symbol make up a spelling together with the characters around them. -/
structure MadeOf (u : Unicode) (spelling venue symbol : String) : Prop where
  parts : ∀ c ∈ (u.pyUpper spelling).toList,
    c ∈ venue.toList ∨ c ∈ symbol.toList ∨ c ∈ affixChars
  symbol : ∀ c ∈ symbol.toList, c ∈ (u.pyUpper spelling).toList

theorem madeOf_dropFirst {spelling start venue : String} {n : ℕ} (hn : start.length = n)
    (hstart : startsWith start (u.pyUpper spelling) = true)
    (haffix : ∀ c ∈ start.toList, c ∈ affixChars) :
    MadeOf u spelling venue (dropFirst n (u.pyUpper spelling)) where
  parts c hc := by
    rcases (mem_dropFirst hn hstart).mp hc with h | h
    · exact Or.inr (Or.inr (haffix c h))
    · exact Or.inr (Or.inl h)
  symbol c hc := (mem_dropFirst hn hstart).mpr (Or.inr hc)

theorem madeOf_dropLast {spelling stop venue : String} {n : ℕ} (hn : stop.length = n)
    (hstop : endsWith stop (u.pyUpper spelling) = true)
    (haffix : ∀ c ∈ stop.toList, c ∈ affixChars) :
    MadeOf u spelling venue (dropLast n (u.pyUpper spelling)) where
  parts c hc := by
    rcases (mem_dropLast hn hstop).mp hc with h | h
    · exact Or.inr (Or.inr (haffix c h))
    · exact Or.inr (Or.inl h)
  symbol c hc := (mem_dropLast hn hstop).mpr (Or.inr hc)

/-- A spelling is taken apart into a venue and a symbol, or is left as it is. -/
theorem splitPrefixedSymbol_cases (spelling : String) :
    splitPrefixedSymbol u spelling = (none, spelling) ∨ ∃ venue symbol,
      splitPrefixedSymbol u spelling = (some venue, symbol) ∧ MadeOf u spelling venue symbol := by
  -- the spellings of the source in its order: with a colon, in front, behind
  unfold splitPrefixedSymbol
  by_cases hcolon : ':' ∈ (u.pyUpper spelling).toList
  · rw [if_pos hcolon]
    refine Or.inr ⟨_, _, rfl, ?_, fun c hc => mem_of_mem_pyPartition hc⟩
    intro c hc
    rcases mem_pyPartition ':' hc with h | h | h
    · exact Or.inl h
    · exact Or.inr (Or.inl h)
    · exact Or.inr (Or.inr (by simp [affixChars, h]))
  rw [if_neg hcolon]
  by_cases hsh : startsWith "SH" (u.pyUpper spelling) = true ∧ (u.pyUpper spelling).length = 8
  · rw [if_pos hsh]
    exact Or.inr ⟨_, _, rfl, madeOf_dropFirst (by decide) hsh.1 (by decide)⟩
  rw [if_neg hsh]
  by_cases hsz : startsWith "SZ" (u.pyUpper spelling) = true ∧ (u.pyUpper spelling).length = 8
  · rw [if_pos hsz]
    exact Or.inr ⟨_, _, rfl, madeOf_dropFirst (by decide) hsz.1 (by decide)⟩
  rw [if_neg hsz]
  by_cases hshanghai : endsWith ".SH" (u.pyUpper spelling) = true ∨
      endsWith ".SS" (u.pyUpper spelling) = true
  · rw [if_pos hshanghai]
    rcases hshanghai with h | h
    · exact Or.inr ⟨_, _, rfl, madeOf_dropLast (by decide) h (by decide)⟩
    · exact Or.inr ⟨_, _, rfl, madeOf_dropLast (by decide) h (by decide)⟩
  rw [if_neg hshanghai]
  by_cases hshenzhen : endsWith ".SZ" (u.pyUpper spelling) = true
  · rw [if_pos hshenzhen]
    exact Or.inr ⟨_, _, rfl, madeOf_dropLast (by decide) hshenzhen (by decide)⟩
  rw [if_neg hshenzhen]
  by_cases hhk : endsWith ".HK" (u.pyUpper spelling) = true
  · rw [if_pos hhk]
    exact Or.inr ⟨_, _, rfl, madeOf_dropLast (by decide) hhk (by decide)⟩
  · rw [if_neg hhk]
    exact Or.inl rfl

/-- The venues of both regions. -/
def knownVenues : List String := cnVenues ++ hkVenues

/-- What a region accepts: a venue it knows and decimal digits, which stay. -/
structure Accepted (u : Unicode) (venue symbol normalized : String) : Prop where
  venue : venue ∈ knownVenues
  nonempty : symbol ≠ ""
  decimal : ∀ c ∈ symbol.toList, (u.decimal c).isSome
  kept : ∀ c ∈ symbol.toList, c ∈ normalized.toList
  digits : ∀ c ∈ normalized.toList, c ∈ symbol.toList ∨ c = '0'

/-- A symbol that is normalized is one that is accepted. -/
theorem normalizeSymbolForRegion_ok {region : Region} {venue symbol normalized : String}
    (h : normalizeSymbolForRegion u region venue symbol = .ok normalized) :
    Accepted u venue symbol normalized := by
  -- both regions check the venue, then the digits
  cases region with
  | cn =>
    rw [normalizeSymbolForRegion, normalizeCnSymbol] at h
    by_cases hvenue : venue ∉ cnVenues
    · rw [if_pos hvenue] at h
      cases h
    rw [if_neg hvenue] at h
    by_cases hcode : symbol.length = 6 ∧ u.isDecimal symbol = true
    · rw [if_pos hcode] at h
      cases h
      rcases Unicode.isDecimal_iff.mp hcode.2 with ⟨hnonempty, hdecimal⟩
      exact ⟨List.mem_append_left _ (not_not.mp hvenue), hnonempty, hdecimal, fun c hc => hc,
        fun c hc => Or.inl hc⟩
    · rw [if_neg hcode] at h
      cases h
  | hk =>
    rw [normalizeSymbolForRegion, normalizeHkSymbol] at h
    by_cases hvenue : venue ∉ hkVenues
    · rw [if_pos hvenue] at h
      cases h
    rw [if_neg hvenue] at h
    by_cases hcode : (1 ≤ symbol.length ∧ symbol.length ≤ 5) ∧ u.isDecimal symbol = true
    · rw [if_pos hcode] at h
      cases h
      rcases Unicode.isDecimal_iff.mp hcode.2 with ⟨hnonempty, hdecimal⟩
      refine ⟨List.mem_append_right _ (not_not.mp hvenue), hnonempty, hdecimal, ?_, ?_⟩
      · intro c hc
        simp [zfill, hc]
      · -- what is filled up is filled up with zeros
        intro c hc
        simp only [zfill, String.toList_append, String.toList_ofList, List.mem_append,
          List.mem_replicate] at hc
        exact hc.symm.imp id And.right
    · rw [if_neg hcode] at h
      cases h
  -- the other regions have no rule
  | us => cases h
  | global => cases h

/-- A venue that is known has no white space, and only digits of ASCII. -/
theorem knownVenues_plain : ∀ venue ∈ knownVenues, ∀ c ∈ venue.toList,
    isPySpace c = false ∧ c.toNat < 128 := by
  decide

theorem affixChars_plain : ∀ c ∈ affixChars, isPySpace c = false ∧ c.toNat < 128 := by
  decide

/-- A spelling made of plain characters and decimal digits has no white space anywhere. -/
theorem MadeOf.noSpace (hu : u.Lawful) {spelling venue symbol : String}
    (h : MadeOf u spelling venue symbol) (hvenue : ∀ c ∈ venue.toList, isPySpace c = false)
    (hdecimal : ∀ c ∈ symbol.toList, (u.decimal c).isSome) :
    ∀ c ∈ spelling.toList, isPySpace c = false := by
  intro c hc
  by_contra hspace
  rw [Bool.not_eq_false] at hspace
  -- white space goes to upper case as it is
  have hupper : c ∈ (u.pyUpper spelling).toList :=
    Unicode.mem_pyUpper.mpr ⟨c, hc, by rw [hu.upper_space c hspace]; simp⟩
  rcases h.parts c hupper with hmem | hmem | hmem
  · have hplain := hvenue c hmem
    simp [hplain] at hspace
  · have hsome := hdecimal c hmem
    simp [hu.decimal_space c hspace] at hsome
  · have hplain := (affixChars_plain c hmem).1
    simp [hplain] at hspace

theorem pyStrip_of_noSpace {s : String} (h : ∀ c ∈ s.toList, isPySpace c = false) :
    pyStrip s = s := by
  have hdrop : s.toList.dropWhile isPySpace = s.toList :=
    dropWhile_of_head fun c hc => h c (List.mem_of_mem_head? hc)
  have hreverse : s.toList.reverse.dropWhile isPySpace = s.toList.reverse :=
    dropWhile_of_head fun c hc => h c (List.mem_reverse.mp (List.mem_of_mem_head? hc))
  rw [pyStrip, stripWhere, hdrop, hreverse, List.reverse_reverse, String.ofList_toList]

/-! ## The two paths -/

/-- What normalization goes by. -/
theorem cleanVenueAndSymbol_ok {venueMic localSymbol venue symbol : String}
    (h : cleanVenueAndSymbol u venueMic localSymbol = .ok (venue, symbol)) :
    splitPrefixedSymbol u (pyStrip localSymbol) = (none, pyStrip localSymbol) ∧
        venue = u.pyUpper (pyStrip venueMic) ∧ symbol = pyStrip localSymbol ∨
      splitPrefixedSymbol u (pyStrip localSymbol) = (some venue, symbol) ∧
        MadeOf u (pyStrip localSymbol) venue symbol := by
  -- the venue of the spelling has to be the one that is named beside it, if any is
  rcases @splitPrefixedSymbol_cases u (pyStrip localSymbol) with
    hsplit | ⟨parsedVenue, parsedSymbol, hsplit, hmade⟩
  · simp only [cleanVenueAndSymbol, hsplit] at h
    rcases Prod.mk.inj (Except.ok.inj h) with ⟨hvenue, hsymbol⟩
    exact Or.inl ⟨hsplit, hvenue.symm, hsymbol.symm⟩
  · simp only [cleanVenueAndSymbol, hsplit] at h
    by_cases hconflict :
        u.pyUpper (pyStrip venueMic) ≠ "" ∧ u.pyUpper (pyStrip venueMic) ≠ parsedVenue
    · rw [if_pos hconflict] at h
      cases h
    · rw [if_neg hconflict] at h
      cases h
      exact Or.inr ⟨hsplit, hmade⟩

/-- An alias matches when its venue is the requested one and its symbol normalizes to the
requested one. -/
theorem aliasMatches_iff {region : Region} {entry : InstrumentAliasRegistryEntry}
    {venue normalized entrySymbol : String} {entryVenue : Option String}
    (hsplit : splitPrefixedSymbol u entry.sourceSymbol = (entryVenue, entrySymbol)) :
    aliasMatches u region entry venue normalized = true ↔
      candidateVenue (u.pyUpper (pyStrip entry.venueMic)) entryVenue = venue ∧
        normalizeSymbolForRegion u region venue entrySymbol = .ok normalized := by
  simp only [aliasMatches, hsplit]
  by_cases hvenue : candidateVenue (u.pyUpper (pyStrip entry.venueMic)) entryVenue = venue
  · rw [hvenue, if_neg (not_not.mpr rfl)]
    cases normalizeSymbolForRegion u region venue entrySymbol with
    | error error => simp
    | ok candidate => simp
  · rw [if_pos hvenue]
    simp [hvenue]

/-- An alias that matches was entered without white space. -/
theorem stripped_of_aliasMatches (hu : u.Lawful) {region : Region}
    {entry : InstrumentAliasRegistryEntry} {venue normalized : String}
    (h : aliasMatches u region entry venue normalized = true) :
    pyStrip entry.sourceSymbol = entry.sourceSymbol := by
  apply pyStrip_of_noSpace
  rcases @splitPrefixedSymbol_cases u entry.sourceSymbol with
    hsplit | ⟨parsedVenue, parsedSymbol, hsplit, hmade⟩
  · -- without a venue the whole spelling has to be digits
    rcases (aliasMatches_iff hsplit).mp h with ⟨-, hnormalized⟩
    intro c hc
    by_contra hspace
    rw [Bool.not_eq_false] at hspace
    have hsome := (normalizeSymbolForRegion_ok hnormalized).decimal c hc
    simp [hu.decimal_space c hspace] at hsome
  -- with a venue the rest has to be digits, and the venue is a known one
  · rcases (aliasMatches_iff hsplit).mp h with ⟨hcandidate, hnormalized⟩
    have haccepted := normalizeSymbolForRegion_ok hnormalized
    refine hmade.noSpace hu ?_ haccepted.decimal
    by_cases hempty : parsedVenue = ""
    · simp [hempty]
    · have hvenue : parsedVenue = venue := by
        rw [← hcandidate]
        exact (if_neg hempty).symm
      rw [hvenue]
      exact fun c hc => (knownVenues_plain venue haccepted.venue c hc).1

/-- An alias that was entered without white space around it matches its own symbol. -/
theorem aliasMatches_of_stripped {region : Region} {entry : InstrumentAliasRegistryEntry}
    {venue symbol normalized : String}
    (hclean : cleanVenueAndSymbol u entry.venueMic entry.sourceSymbol = .ok (venue, symbol))
    (hnormalized : normalizeSymbolForRegion u region venue symbol = .ok normalized)
    (hstripped : pyStrip entry.sourceSymbol = entry.sourceSymbol) :
    aliasMatches u region entry venue normalized = true := by
  rcases cleanVenueAndSymbol_ok hclean with ⟨hsplit, hvenue, hsymbol⟩ | ⟨hsplit, -⟩
  · rw [hstripped] at hsplit hsymbol
    rw [aliasMatches_iff hsplit, hvenue]
    rw [hvenue, hsymbol] at hnormalized
    exact ⟨rfl, hnormalized⟩
  · rw [hstripped] at hsplit
    have hnonempty : venue ≠ "" := by
      have hknown := (normalizeSymbolForRegion_ok hnormalized).venue
      rintro rfl
      revert hknown
      decide
    rw [aliasMatches_iff hsplit]
    exact ⟨if_neg hnonempty, hnormalized⟩

variable {region : Region} {venueMic localSymbol providerId instrumentKey : String}
  {validFrom : PyDate} {validTo : Option PyDate} {normalized : NormalizedInstrumentSymbol}

/-- An accepted spelling, step by step. -/
theorem normalizeInstrumentSymbol_ok
    (h : normalizeInstrumentSymbol u token region venueMic localSymbol validFrom providerId
      instrumentKey validTo = .ok normalized) :
    pyStrip providerId ≠ "" ∧ ¬ validTo.any (· ≤ validFrom) = true ∧ ∃ symbol,
      cleanVenueAndSymbol u venueMic localSymbol = .ok (normalized.venueMic, symbol) ∧
      normalizeSymbolForRegion u region normalized.venueMic symbol =
        .ok normalized.localSymbol ∧
      normalized.canonicalSymbol = normalized.venueMic ++ ":" ++ normalized.localSymbol := by
  -- the checks in the order of the source
  rw [normalizeInstrumentSymbol] at h
  by_cases hprovider : pyStrip providerId = ""
  · rw [if_pos hprovider] at h
    cases h
  rw [if_neg hprovider] at h
  by_cases hkey : pyStrip instrumentKey = ""
  · rw [if_pos hkey] at h
    cases h
  rw [if_neg hkey] at h
  by_cases hrange : validTo.any (· ≤ validFrom) = true
  · rw [if_pos hrange] at h
    cases h
  rw [if_neg hrange, Raising.bind_ok] at h
  rcases h with ⟨⟨venue, symbol⟩, hclean, h⟩
  rw [Raising.bind_ok] at h
  rcases h with ⟨localPart, hlocal, h⟩
  cases h
  exact ⟨hprovider, hrange, symbol, hclean, hlocal, rfl⟩

/-- The canonical symbol tells the venue and the digits. -/
theorem canonicalSymbol_injective {venue venue' symbol symbol' : String}
    (hvenue : venue ∈ knownVenues) (hvenue' : venue' ∈ knownVenues)
    (h : venue ++ ":" ++ symbol = venue' ++ ":" ++ symbol') : venue = venue' ∧ symbol = symbol' := by
  have hlengths : ∀ v ∈ knownVenues, v.toList.length = 4 := by
    decide
  have hlists := congrArg String.toList h
  simp only [String.toList_append, List.append_assoc] at hlists
  rcases List.append_inj hlists ((hlengths venue hvenue).trans (hlengths venue' hvenue').symm) with
    ⟨hfirst, hrest⟩
  exact ⟨String.toList_inj.mp hfirst, String.toList_inj.mp (List.append_cancel_left hrest)⟩

/-- Stripping the provider's id once more changes nothing. -/
theorem normalizeInstrumentSymbol_pyStrip :
    normalizeInstrumentSymbol u token region venueMic localSymbol validFrom (pyStrip providerId)
        instrumentKey validTo =
      normalizeInstrumentSymbol u token region venueMic localSymbol validFrom providerId
        instrumentKey validTo := by
  have hidem : pyStrip (pyStrip providerId) = pyStrip providerId := stripWhere_idem _ _
  simp only [normalizeInstrumentSymbol, hidem]

/-- The resolution against a single entry of the same provider. -/
theorem resolveInstrumentAlias_single {entry : InstrumentAliasRegistryEntry} {asOf : PyDate}
    {venue symbol requested : String}
    (hclean : cleanVenueAndSymbol u venueMic localSymbol = .ok (venue, symbol))
    (hrequested : normalizeSymbolForRegion u region venue symbol = .ok requested)
    (hprovider : pyStrip providerId ≠ "") (hentry : entry.providerId = providerId)
    (hactive : aliasActive entry asOf = true) :
    resolveInstrumentAlias u token region venueMic localSymbol asOf providerId [entry] false =
      if aliasMatches u region entry venue requested then
        normalizeInstrumentSymbol u token region entry.venueMic entry.sourceSymbol entry.validFrom
          providerId entry.instrumentKey entry.validTo
      else .error ⟨"symbol alias unresolved", some "local_symbol"⟩ := by
  subst hentry
  rw [resolveInstrumentAlias, if_neg hprovider, hclean, Raising.ok_bind]
  simp only [hrequested, Raising.ok_bind]
  by_cases hmatches : aliasMatches u region entry venue requested = true
  · simp [hmatches, hactive, normalizeInstrumentSymbol_pyStrip]
  · simp [hmatches]

/-- The digits of a spelling are those of its local symbol, as far as they are not of ASCII. -/
theorem digits_ascii_iff (hu : u.Lawful) {venue symbol : String}
    (hclean : cleanVenueAndSymbol u venueMic localSymbol = .ok (venue, symbol))
    (hnormalized : normalizeSymbolForRegion u region venue symbol = .ok normalized.localSymbol)
    (hstripped : pyStrip localSymbol = localSymbol) :
    (∀ c ∈ normalized.localSymbol.toList, c.isDigit = true) ↔
      ∀ c ∈ localSymbol.toList, (u.decimal c).isSome → c.isDigit = true := by
  have haccepted := normalizeSymbolForRegion_ok hnormalized
  rcases cleanVenueAndSymbol_ok hclean with ⟨-, -, hsymbol⟩ | ⟨-, hmade⟩
  · -- the spelling is the digits
    rw [hstripped] at hsymbol
    subst hsymbol
    constructor
    · intro h c hc _
      exact h c (haccepted.kept c hc)
    · intro h c hc
      rcases haccepted.digits c hc with hmem | rfl
      · exact h c hmem (haccepted.decimal c hmem)
      · decide
  -- the spelling is the digits, the venue and an affix of plain characters
  · rw [hstripped] at hmade
    constructor
    · intro h c hc hdecimal
      have hupper : c ∈ (u.pyUpper localSymbol).toList :=
        Unicode.mem_pyUpper.mpr ⟨c, hc, by rw [hu.upper_decimal c hdecimal]; simp⟩
      rcases hmade.parts c hupper with hmem | hmem | hmem
      · exact (hu.decimal_ascii c (knownVenues_plain venue haccepted.venue c hmem).2).mp hdecimal
      · exact h c (haccepted.kept c hmem)
      · exact (hu.decimal_ascii c (affixChars_plain c hmem).2).mp hdecimal
    · intro h c hc
      rcases haccepted.digits c hc with hmem | rfl
      · -- a digit in upper case was that digit before
        have hdecimal := haccepted.decimal c hmem
        rcases Unicode.mem_pyUpper.mp (hmade.symbol c hmem) with ⟨d, hd, hcd⟩
        have hsame := hu.decimal_of_upper c d hcd hdecimal
        subst hsame
        exact h d hd hdecimal
      · decide

/-- The entry that is made with a spelling. -/
def entryOf (venueMic localSymbol : String) (validFrom : PyDate)
    (providerId instrumentKey : String) (validTo : Option PyDate) : InstrumentAliasRegistryEntry :=
  { instrumentKey := instrumentKey
    providerId := providerId
    sourceSymbol := localSymbol
    venueMic := venueMic
    validFrom := validFrom
    validTo := validTo }

theorem entryOf_active {asOf : PyDate} (h : (Span.mk validFrom validTo).Contains asOf) :
    aliasActive (entryOf venueMic localSymbol validFrom providerId instrumentKey validTo) asOf =
      true := by
  rcases h with ⟨hfrom, hto⟩
  cases validTo with
  | none => simpa [aliasActive, entryOf] using hfrom
  | some stop => simpa [aliasActive, entryOf] using And.intro hfrom (hto stop rfl)

/-- An accepted spelling that is entered into the registry is found under every spelling of the
same canonical symbol, and its local symbol is in ASCII, exactly when it has no white space around
it and no other digits than those of ASCII. -/
theorem spelling_resolves_iff (hu : u.Lawful)
    (h : normalizeInstrumentSymbol u token region venueMic localSymbol validFrom providerId
      instrumentKey validTo = .ok normalized) :
    (∀ venueMic' localSymbol' asOf other,
        normalizeInstrumentSymbol u token region venueMic' localSymbol' validFrom providerId
          instrumentKey validTo = .ok other →
        other.canonicalSymbol = normalized.canonicalSymbol →
        (Span.mk validFrom validTo).Contains asOf →
        ∃ resolved, resolveInstrumentAlias u token region venueMic' localSymbol' asOf providerId
            [entryOf venueMic localSymbol validFrom providerId instrumentKey validTo] false =
              .ok resolved ∧
          resolved.instrumentId = normalized.instrumentId ∧
          resolved.canonicalSymbol = normalized.canonicalSymbol) ∧
        (∀ c ∈ normalized.localSymbol.toList, c.isDigit = true) ↔
      pyStrip localSymbol = localSymbol ∧
        ∀ c ∈ localSymbol.toList, (u.decimal c).isSome → c.isDigit = true := by
  rcases normalizeInstrumentSymbol_ok h with
    ⟨hprovider, hrange, symbol, hclean, hnormalized, hcanonical⟩
  constructor
  · rintro ⟨hresolves, hascii⟩
    -- the spelling itself, on the first date of its validity
    have hfirst : (Span.mk validFrom validTo).Contains validFrom := by
      refine ⟨le_refl _, ?_⟩
      intro stop hstop
      have hto : validTo = some stop := hstop
      have hlater : ¬ stop ≤ validFrom := by
        simpa only [hto, Option.any_some, decide_eq_true_eq] using hrange
      exact lt_of_not_ge hlater
    rcases hresolves venueMic localSymbol validFrom normalized h rfl hfirst with
      ⟨resolved, hresolved, -⟩
    rw [resolveInstrumentAlias_single hclean hnormalized hprovider rfl
      (entryOf_active hfirst)] at hresolved
    have hmatches : aliasMatches u region
        (entryOf venueMic localSymbol validFrom providerId instrumentKey validTo)
        normalized.venueMic normalized.localSymbol = true := by
      by_contra hunmatched
      rw [if_neg hunmatched] at hresolved
      cases hresolved
    have hentry := stripped_of_aliasMatches hu hmatches
    have hstripped : pyStrip localSymbol = localSymbol := hentry
    exact ⟨hstripped, (digits_ascii_iff hu hclean hnormalized hstripped).mp hascii⟩
  · rintro ⟨hstripped, hdigits⟩
    refine ⟨?_, (digits_ascii_iff hu hclean hnormalized hstripped).mpr hdigits⟩
    intro venueMic' localSymbol' asOf other hother hsame hcontains
    rcases normalizeInstrumentSymbol_ok hother with
      ⟨-, -, symbol', hclean', hnormalized', hcanonical'⟩
    -- the other spelling asks for the same venue and the same digits
    rw [hcanonical, hcanonical'] at hsame
    rcases canonicalSymbol_injective (normalizeSymbolForRegion_ok hnormalized').venue
      (normalizeSymbolForRegion_ok hnormalized).venue hsame with ⟨hvenue, hlocal⟩
    have hmatches : aliasMatches u region
        (entryOf venueMic localSymbol validFrom providerId instrumentKey validTo)
        normalized.venueMic normalized.localSymbol = true :=
      @aliasMatches_of_stripped u region
        (entryOf venueMic localSymbol validFrom providerId instrumentKey validTo) _ _ _ hclean
        hnormalized hstripped
    refine ⟨normalized, ?_, rfl, rfl⟩
    rw [resolveInstrumentAlias_single hclean' hnormalized' hprovider rfl
      (entryOf_active hcontains), hvenue, hlocal, if_pos hmatches]
    exact h

/-! ## Spellings of one security -/

/-- The Base32 of the SHA-256 of the one id there is. -/
def tencentToken (_seed : String) : String :=
  "ODCRW7U5CFZMGMB5PK766P6HSFNS4U3P2T7FTHOIDPB5MBAZKDSA===="

/-- The date of the listing. -/
def listedOn : PyDate := ⟨12585, by decide, by decide⟩

/-- The tables with the digits of full width. -/
def fullWidth : Unicode :=
  { Unicode.ascii with
    decimal := fun c =>
      if 0xFF10 ≤ c.toNat ∧ c.toNat ≤ 0xFF19 then
        some ⟨(c.toNat - 0xFF10) % 10, Nat.mod_lt _ (by decide)⟩
      else Unicode.ascii.decimal c }

/-- The spelling with a suffix, of a security listed in Hong Kong. -/
theorem spelling_resolves_iff_suffix :
    ∃ resolved, resolveInstrumentAlias Unicode.ascii tencentToken .hk "XHKG" "00700" listedOn "hkex"
        [entryOf "XHKG" "700.HK" listedOn "hkex" "hk-security-tencent" none] false = .ok resolved ∧
      resolved.instrumentId = "ins_odcrw7u5cfzmgmb5pk766p6hsf" ∧
      resolved.canonicalSymbol = "XHKG:00700" := by
  have hsuffix : normalizeInstrumentSymbol Unicode.ascii tencentToken .hk "XHKG" "700.HK" listedOn
      "hkex" "hk-security-tencent" none = .ok
        { instrumentId := "ins_odcrw7u5cfzmgmb5pk766p6hsf"
          instrumentKey := "hk-security-tencent"
          canonicalSymbol := "XHKG:00700"
          region := .hk
          venueMic := "XHKG"
          localSymbol := "00700"
          timezone := "Asia/Hong_Kong"
          aliases := [⟨"hk-security-tencent", "hkex", "700.HK", "XHKG:00700", listedOn, none⟩] } := by
    decide +kernel
  have hplain : normalizeInstrumentSymbol Unicode.ascii tencentToken .hk "XHKG" "00700" listedOn
      "hkex" "hk-security-tencent" none = .ok
        { instrumentId := "ins_odcrw7u5cfzmgmb5pk766p6hsf"
          instrumentKey := "hk-security-tencent"
          canonicalSymbol := "XHKG:00700"
          region := .hk
          venueMic := "XHKG"
          localSymbol := "00700"
          timezone := "Asia/Hong_Kong"
          aliases := [⟨"hk-security-tencent", "hkex", "00700", "XHKG:00700", listedOn, none⟩] } := by
    decide +kernel
  have hresolves := ((spelling_resolves_iff Unicode.ascii_lawful hsuffix).mpr
    ⟨by decide +kernel, by decide +kernel⟩).1
  have hlisted : (Span.mk listedOn none).Contains listedOn := by
    refine ⟨le_refl _, ?_⟩
    intro stop hstop
    cases hstop
  exact hresolves "XHKG" "00700" listedOn _ hplain rfl hlisted

/-- A spelling with a space in front is accepted and not found in the registry; digits of full
width stay in the local symbol. -/
theorem padded_unresolved :
    (normalizeInstrumentSymbol Unicode.ascii tencentToken .hk "XHKG" " 700.HK" listedOn "hkex"
        "hk-security-tencent" none).toOption.map (·.canonicalSymbol) = some "XHKG:00700" ∧
      resolveInstrumentAlias Unicode.ascii tencentToken .hk "XHKG" " 700.HK" listedOn "hkex"
          [entryOf "XHKG" " 700.HK" listedOn "hkex" "hk-security-tencent" none] false =
        .error ⟨"symbol alias unresolved", some "local_symbol"⟩ ∧
      (normalizeInstrumentSymbol fullWidth tencentToken .hk "XHKG" "７００" listedOn "hkex"
        "hk-security-tencent" none).toOption.map (·.localSymbol) = some "00７００" := by
  decide +kernel

end MacroPlatform.Normalization
