import MacroPlatform.Contracts.Text
import MacroPlatform.Lib.Except
import MacroPlatform.Lib.JsonEquality

/-! # Signed cursors

A provider hands out where it stopped as a signed text, and believes a text it gets back when the
signature is its own and the fingerprint is that of the query. Four providers have a copy of the
codec, with other names and other values beside the offset.

* `decode_encodeCursor`: what a codec writes, it reads back.
* `decodeCursor_unsigned`: a text that was not signed for the fingerprint is refused.
* `cursorCodecs_sound`: both, of the four codecs.
-/

namespace MacroPlatform.Providers

/-- `bytes`. -/
abbrev Bytes := List UInt8

/-- What the codec uses of the standard library; `none` is a `ValueError`. -/
structure CursorLibrary where
  /-- `json.dumps(payload, sort_keys=True, separators=(",", ":")).encode("utf-8")`. -/
  dumps : List (String × Json) → Bytes
  /-- `json.loads(body.decode("utf-8"))`. -/
  loads : Bytes → Option Json
  /-- `base64.urlsafe_b64encode(value).decode("ascii")`. -/
  urlsafeB64encode : Bytes → String
  urlsafeB64decode : String → Option Bytes
  /-- `hmac.new(secret, body, hashlib.sha256).digest()`. -/
  hmacSha256 : Bytes → Bytes → Bytes

variable (lib : CursorLibrary)

/-- What the codec raises: a `ValueError` for an offset, a `ProviderCursorError` for a text. -/
inductive CursorFailure where
  | value (message : String)
  | providerCursor (message code : String)
deriving DecidableEq, Repr

/-! ## The codec -/

/-- How one provider writes its cursors: the tag, the texts of its errors and the values beside
the fingerprint and the offset. -/
structure CursorScheme where
  Values : Type
  tag : String
  outOfRange : String
  malformed : String
  notObject : String
  notValid : String
  fields : Values → List (String × Json)
  /-- The values of a payload, when each of them has its type. -/
  read : Json → Option Values

/-- `_MAX_CURSOR_OFFSET`. -/
def largestCursorOffset : ℤ := 100000

/-- `_b64encode`. -/
def b64encode (value : Bytes) : String :=
  String.ofList ((lib.urlsafeB64encode value).toList.reverse.dropWhile (· = '=')).reverse

/-- `_with_padding`. -/
def withPadding (value : String) : String :=
  value ++ String.ofList (List.replicate ((4 - value.length % 4) % 4) '=')

/-- `text.split(separator, maxsplit=2)`, when it gives three parts. -/
def splitThree (separator : Char) (text : String) : Option (String × String × String) :=
  match text.toList.dropWhile (· ≠ separator) with
  | [] => none
  | _ :: rest =>
    match rest.dropWhile (· ≠ separator) with
    | [] => none
    | _ :: last =>
      some (String.ofList (text.toList.takeWhile (· ≠ separator)),
        String.ofList (rest.takeWhile (· ≠ separator)), String.ofList last)

namespace CursorScheme

variable (scheme : CursorScheme)

/-- The payload of a cursor. -/
def payload (fingerprint : String) (offset : ℤ) (values : scheme.Values) : List (String × Json) :=
  [("version", .int 1), ("fingerprint", .str fingerprint), ("offset", .int offset)] ++
    scheme.fields values

/-- `_encode_cursor`. -/
def encodeCursor (secret : Bytes) (fingerprint : String) (offset : ℤ) (values : scheme.Values) :
    Except CursorFailure String :=
  if offset < 0 ∨ largestCursorOffset < offset then .error (.value scheme.outOfRange)
  else
    let body := lib.dumps (scheme.payload fingerprint offset values)
    let signature := lib.hmacSha256 secret body
    .ok (".".intercalate [scheme.tag, b64encode lib body, b64encode lib signature])

/-- The `try` of `_decode_cursor`: the version, the body, the signature and the payload. -/
def parts (cursor : String) : Option (String × Bytes × Bytes × Json) :=
  (splitThree '.' cursor).bind fun (version, encodedBody, encodedSignature) =>
  (lib.urlsafeB64decode (withPadding encodedBody)).bind fun body =>
  (lib.urlsafeB64decode (withPadding encodedSignature)).bind fun signature =>
  (lib.loads body).map fun payload => (version, body, signature, payload)

/-- `_decode_cursor`; without a cursor there is no value to go by. -/
def decodeCursor (secret : Bytes) (cursor : Option String) (fingerprint : String) :
    Except CursorFailure (ℤ × Option scheme.Values) :=
  match cursor with
  | none => .ok (0, none)
  | some text =>
    match parts lib text with
    | none => .error (.providerCursor scheme.malformed "INVALID_CURSOR")
    | some (version, body, signature, payload) =>
      if payload.toObj?.isNone then .error (.providerCursor scheme.notObject "INVALID_CURSOR")
      else if version ≠ scheme.tag ∨ signature ≠ lib.hmacSha256 secret body ∨
          (payload.get "version").pyEq (.int 1) = false ∨
          (payload.get "fingerprint").pyEq (.str fingerprint) = false then
        .error (.providerCursor scheme.notValid "INVALID_CURSOR")
      else
        match (payload.get "offset").pyInt?, scheme.read payload with
        | some offset, some values =>
          if offset < 0 ∨ largestCursorOffset < offset then
            .error (.providerCursor scheme.notValid "INVALID_CURSOR")
          else .ok (offset, some values)
        | _, _ => .error (.providerCursor scheme.notValid "INVALID_CURSOR")

end CursorScheme

/-! ## The four providers -/

/-- The values of a cursor of `LiveHttpProvider`. -/
structure LiveCursorValues where
  snapshotAt : String
  snapshotWatermark : String
  lastRecordKey : Option String
deriving DecidableEq

/-- The cursor of `LiveHttpProvider`. -/
def liveCursor : CursorScheme where
  Values := LiveCursorValues
  tag := "live-v1"
  outOfRange := "live provider cursor offset is outside the allowed range"
  malformed := "live provider cursor is malformed"
  notObject := "live provider cursor is not an object"
  notValid := "live provider cursor is not valid for this query"
  fields values :=
    [("snapshot_at", .str values.snapshotAt), ("snapshot_watermark", .str values.snapshotWatermark),
      ("last_record_key", .ofOption .str values.lastRecordKey)]
  read payload :=
    (payload.get "last_record_key").toOption? Json.toStr? >>= fun lastRecordKey =>
    (payload.get "snapshot_at").toStr? >>= fun snapshotAt =>
    (payload.get "snapshot_watermark").toStr? >>= fun snapshotWatermark =>
    some ⟨snapshotAt, snapshotWatermark, lastRecordKey⟩

/-- The values of a cursor of daily bars. -/
structure BarCursorValues where
  lastBarId : String
  sourceWatermark : String
deriving DecidableEq

/-- The cursor of a provider of daily bars. -/
def barCursor (tag name : String) : CursorScheme where
  Values := BarCursorValues
  tag := tag
  outOfRange := name ++ " cursor offset is outside the allowed range"
  malformed := name ++ " cursor is malformed"
  notObject := name ++ " cursor is not an object"
  notValid := name ++ " cursor is not valid"
  fields values :=
    [("last_bar_id", .str values.lastBarId), ("source_watermark", .str values.sourceWatermark)]
  read payload :=
    (payload.get "last_bar_id").toStr? >>= fun lastBarId =>
    (payload.get "source_watermark").toStr? >>= fun sourceWatermark =>
    some ⟨lastBarId, sourceWatermark⟩

/-- The cursor of `TwelveDataDailyBarsProvider`. -/
def twelveDataCursor : CursorScheme := barCursor "twelve-data-v1" "Twelve Data"

/-- The cursor of `BaoStockDailyBarsProvider`. -/
def baoStockCursor : CursorScheme := barCursor "baostock-v1" "BaoStock"

/-- The cursor of `HkXtQuantDailyBarsProvider`. -/
def xtQuantCursor : CursorScheme := barCursor "xtquant-v1" "XtQuant"

/-- The copies of the codec. -/
inductive CursorProvider where
  | live
  | twelveData
  | baoStock
  | xtQuant
deriving DecidableEq, Repr

def CursorProvider.scheme : CursorProvider → CursorScheme
  | .live => liveCursor
  | .twelveData => twelveDataCursor
  | .baoStock => baoStockCursor
  | .xtQuant => xtQuantCursor

/-! ## Reading back -/

variable {lib}

/-- The base64 of some bytes is a plain text padded to a multiple of four, and reads back. -/
def CursorLibrary.Base64Of (lib : CursorLibrary) (bytes : Bytes) : Prop :=
  ∃ core padding, padding ≤ 2 ∧ 4 ∣ core.length + padding ∧ '=' ∉ core ∧ '.' ∉ core ∧
    (lib.urlsafeB64encode bytes).toList = core ++ List.replicate padding '=' ∧
    lib.urlsafeB64decode (lib.urlsafeB64encode bytes) = some bytes

/-- What is assumed of the standard library: the JSON of a payload reads back as an equal dict, and
the base64 of it and of its signature is as it should be. -/
structure CursorLibrary.ReadsBack (lib : CursorLibrary) (secret : Bytes)
    (payload : List (String × Json)) : Prop where
  json : ∃ read, lib.loads (lib.dumps payload) = some (.obj read) ∧ read.Perm payload
  body : lib.Base64Of (lib.dumps payload)
  signature : lib.Base64Of (lib.hmacSha256 secret (lib.dumps payload))

/-- Stripping the padding leaves the plain text. -/
theorem b64encode_eq {bytes : Bytes} {core : List Char} {padding : ℕ} (hcore : '=' ∉ core)
    (h : (lib.urlsafeB64encode bytes).toList = core ++ List.replicate padding '=') :
    b64encode lib bytes = String.ofList core := by
  have hstripped : (core.reverse).dropWhile (· = '=') = core.reverse := by
    apply dropWhile_of_head
    intro c hc
    have hmem : c ∈ core := List.mem_reverse.mp (List.mem_of_mem_head? hc)
    have hne : c ≠ '=' := fun heq => hcore (heq ▸ hmem)
    simpa using hne
  rw [b64encode, h, List.reverse_append, List.reverse_replicate]
  rw [List.dropWhile_append_of_pos (by simp), hstripped, List.reverse_reverse]

/-- Padding it again gives the base64 back. -/
theorem CursorLibrary.Base64Of.decode {bytes : Bytes} (h : lib.Base64Of bytes) :
    lib.urlsafeB64decode (withPadding (b64encode lib bytes)) = some bytes := by
  rcases h with ⟨core, padding, hpadding, hlength, hcore, -, hencoded, hdecoded⟩
  have hcount : (4 - core.length % 4) % 4 = padding := by
    omega
  have hpadded : withPadding (b64encode lib bytes) = lib.urlsafeB64encode bytes := by
    rw [b64encode_eq hcore hencoded, withPadding, String.length_ofList, hcount,
      ← String.ofList_append, ← hencoded, String.ofList_toList]
  rw [hpadded, hdecoded]

/-- The plain text has no separator. -/
theorem CursorLibrary.Base64Of.plain {bytes : Bytes} (h : lib.Base64Of bytes) :
    '.' ∉ (b64encode lib bytes).toList := by
  rcases h with ⟨core, padding, -, -, hcore, hplain, hencoded, -⟩
  rw [b64encode_eq hcore hencoded, String.toList_ofList]
  exact hplain

/-- A text without the separator is cut off where it stood. -/
theorem takeWhile_append_separator {separator : Char} {first : List Char} (rest : List Char)
    (h : separator ∉ first) :
    (first ++ separator :: rest).takeWhile (· ≠ separator) = first ∧
      (first ++ separator :: rest).dropWhile (· ≠ separator) = separator :: rest := by
  induction first with
  | nil => simp
  | cons c first ih =>
    rw [List.mem_cons, not_or] at h
    rcases ih h.2 with ⟨htake, hdrop⟩
    have hne : c ≠ separator := fun heq => h.1 heq.symm
    constructor
    · rw [List.cons_append, List.takeWhile_cons_of_pos (by simpa using hne), htake]
    · rw [List.cons_append, List.dropWhile_cons_of_pos (by simpa using hne), hdrop]

/-- What was joined with separators is split at them; the last part may have more of them. -/
theorem splitThree_intercalate {first second : String} (last : String)
    (hfirst : '.' ∉ first.toList) (hsecond : '.' ∉ second.toList) :
    splitThree '.' (".".intercalate [first, second, last]) = some (first, second, last) := by
  have htext : (".".intercalate [first, second, last]).toList =
      first.toList ++ '.' :: (second.toList ++ '.' :: last.toList) := by
    have hjoined : ".".intercalate [first, second, last] =
        first ++ "." ++ second ++ "." ++ last := rfl
    simp [hjoined]
  rcases takeWhile_append_separator (second.toList ++ '.' :: last.toList) hfirst with
    ⟨htake, hdrop⟩
  rcases takeWhile_append_separator last.toList hsecond with ⟨htake', hdrop'⟩
  simp only [splitThree, htext, hdrop, hdrop', htake, htake', String.ofList_toList]

/-! ## Every provider's values -/

/-- A scheme reads its own values back from any dict equal to its payload. -/
structure CursorScheme.Lawful (scheme : CursorScheme) : Prop where
  tag_plain : '.' ∉ scheme.tag.toList
  keys : ∀ fingerprint offset values,
    ((scheme.payload fingerprint offset values).map Prod.fst).Nodup
  read_payload : ∀ fingerprint offset values read,
    read.Perm (scheme.payload fingerprint offset values) → scheme.read (.obj read) = some values

/-- A dict that equals a payload has the payload's values under its keys. -/
theorem get_of_perm {payload read : List (String × Json)} (hperm : read.Perm payload)
    (hkeys : (payload.map Prod.fst).Nodup) {key : String} {value : Json}
    (hmem : (key, value) ∈ payload) : (Json.obj read).get key = value := by
  have hdistinct : (read.map Prod.fst).Nodup := (hperm.map Prod.fst).nodup_iff.mpr hkeys
  have hfound := Json.find?_key_of_mem hdistinct (hperm.mem_iff.mpr hmem)
  show ((read.find? fun f => f.1 = key).map Prod.snd).getD .null = value
  rw [hfound]
  rfl

/-- The fields of the live cursor are read back as they were written. -/
theorem liveCursor_lawful : liveCursor.Lawful := by
  have hkeys : ∀ fingerprint offset values,
      ((liveCursor.payload fingerprint offset values).map Prod.fst).Nodup := by
    intro fingerprint offset values
    simp [CursorScheme.payload, liveCursor]
  refine ⟨by decide, hkeys, ?_⟩
  intro fingerprint offset values read hperm
  have hat : (Json.obj read).get "snapshot_at" = .str values.snapshotAt :=
    get_of_perm hperm (hkeys _ _ _) (by simp [CursorScheme.payload, liveCursor])
  have hwatermark : (Json.obj read).get "snapshot_watermark" = .str values.snapshotWatermark :=
    get_of_perm hperm (hkeys _ _ _) (by simp [CursorScheme.payload, liveCursor])
  have hkey : (Json.obj read).get "last_record_key" = .ofOption .str values.lastRecordKey :=
    get_of_perm hperm (hkeys _ _ _) (by simp [CursorScheme.payload, liveCursor])
  have hback : Json.toOption? Json.toStr? (.ofOption .str values.lastRecordKey) =
      some values.lastRecordKey :=
    Json.toOption?_ofOption (f := Json.str) (fun _ => nofun) (fun _ => rfl) _
  simp only [liveCursor, hat, hwatermark, hkey, hback]
  rfl

/-- So are those of the bar cursors, whose tags have no dot. -/
theorem barCursor_lawful {tag : String} (htag : '.' ∉ tag.toList) (name : String) :
    (barCursor tag name).Lawful := by
  have hkeys : ∀ fingerprint offset values,
      (((barCursor tag name).payload fingerprint offset values).map Prod.fst).Nodup := by
    intro fingerprint offset values
    simp [CursorScheme.payload, barCursor]
  refine ⟨htag, hkeys, ?_⟩
  intro fingerprint offset values read hperm
  have hbar : (Json.obj read).get "last_bar_id" = .str values.lastBarId :=
    get_of_perm hperm (hkeys _ _ _) (by simp [CursorScheme.payload, barCursor])
  have hwatermark : (Json.obj read).get "source_watermark" = .str values.sourceWatermark :=
    get_of_perm hperm (hkeys _ _ _) (by simp [CursorScheme.payload, barCursor])
  simp only [barCursor, hbar, hwatermark]
  rfl

theorem CursorProvider.lawful (provider : CursorProvider) : provider.scheme.Lawful := by
  cases provider with
  | live => exact liveCursor_lawful
  | twelveData => exact barCursor_lawful (by decide) _
  | baoStock => exact barCursor_lawful (by decide) _
  | xtQuant => exact barCursor_lawful (by decide) _

/-! ## The codec as a whole -/

/-- The text carries the provider's signature of its body, and the body is for the fingerprint. -/
def SignedFor (lib : CursorLibrary) (secret : Bytes) (fingerprint text : String) : Prop :=
  ∃ version body payload,
    CursorScheme.parts lib text = some (version, body, lib.hmacSha256 secret body, payload) ∧
      (payload.get "fingerprint").pyEq (.str fingerprint) = true

/-- A text that the codec wrote has the parts it was written from. -/
theorem CursorScheme.parts_encoded {scheme : CursorScheme} (h : scheme.Lawful) {secret : Bytes}
    {payload : List (String × Json)} (hlib : lib.ReadsBack secret payload)
    {read : List (String × Json)} (hread : lib.loads (lib.dumps payload) = some (.obj read)) :
    CursorScheme.parts lib (".".intercalate [scheme.tag, b64encode lib (lib.dumps payload),
        b64encode lib (lib.hmacSha256 secret (lib.dumps payload))]) =
      some (scheme.tag, lib.dumps payload, lib.hmacSha256 secret (lib.dumps payload),
        .obj read) := by
  rw [CursorScheme.parts, splitThree_intercalate _ h.tag_plain hlib.body.plain]
  simp only [Option.bind_some, hlib.body.decode, hlib.signature.decode, hread, Option.map_some]

/-- A cursor that is written is read back, for its own fingerprint. -/
theorem decode_encodeCursor {scheme : CursorScheme} (h : scheme.Lawful) {secret : Bytes}
    {fingerprint : String} {offset : ℤ} {values : scheme.Values}
    (hoffset : 0 ≤ offset ∧ offset ≤ largestCursorOffset)
    (hlib : lib.ReadsBack secret (scheme.payload fingerprint offset values)) :
    ∃ text, scheme.encodeCursor lib secret fingerprint offset values = .ok text ∧
      scheme.decodeCursor lib secret (some text) fingerprint = .ok (offset, some values) := by
  have hrange : ¬ (offset < 0 ∨ largestCursorOffset < offset) := by
    omega
  refine ⟨_, if_neg hrange, ?_⟩
  rcases hlib.json with ⟨read, hread, hperm⟩
  have hkeys := h.keys fingerprint offset values
  have hversion : (Json.obj read).get "version" = .int 1 :=
    get_of_perm hperm hkeys (by simp [CursorScheme.payload])
  have hfingerprint : (Json.obj read).get "fingerprint" = .str fingerprint :=
    get_of_perm hperm hkeys (by simp [CursorScheme.payload])
  have hwritten : (Json.obj read).get "offset" = .int offset :=
    get_of_perm hperm hkeys (by simp [CursorScheme.payload])
  simp only [CursorScheme.decodeCursor, CursorScheme.parts_encoded h hlib hread, hversion,
    hfingerprint, hwritten, h.read_payload _ _ _ _ hperm, Json.pyInt?]
  simp [Json.toObj?, Json.pyEq, Json.number?, hrange]

/-- Nothing but a `ProviderCursorError` comes out for a text that was not signed for the
fingerprint. -/
theorem decodeCursor_unsigned {scheme : CursorScheme} {secret : Bytes} {fingerprint text : String}
    (h : ¬ SignedFor lib secret fingerprint text) :
    ∃ message, scheme.decodeCursor lib secret (some text) fingerprint =
      .error (.providerCursor message "INVALID_CURSOR") := by
  rcases hparts : CursorScheme.parts lib text with - | ⟨version, body, signature, payload⟩
  · exact ⟨scheme.malformed, by simp only [CursorScheme.decodeCursor, hparts]⟩
  simp only [CursorScheme.decodeCursor, hparts]
  by_cases hobject : payload.toObj?.isNone = true
  · exact ⟨scheme.notObject, if_pos hobject⟩
  refine ⟨scheme.notValid, ?_⟩
  rw [if_neg hobject]
  apply if_pos
  -- a signature that is right and a fingerprint that matches would be what the text lacks
  by_contra hvalid
  rw [not_or, not_or, not_or, not_not] at hvalid
  rcases hvalid with ⟨-, hsignature, -, hfingerprint⟩
  rw [not_not] at hsignature
  rw [hsignature] at hparts
  exact h ⟨version, body, payload, hparts, Bool.not_eq_false _ ▸ hfingerprint⟩

/-- The four cursors: what was encoded decodes to itself under the same fingerprint, and a text
that was not signed for the fingerprint is refused with a `ProviderCursorError`. -/
theorem cursorCodecs_sound (provider : CursorProvider) (lib : CursorLibrary) (secret : Bytes)
    (fingerprint : String) :
    (∀ offset values, 0 ≤ offset ∧ offset ≤ largestCursorOffset →
      lib.ReadsBack secret (provider.scheme.payload fingerprint offset values) →
        ∃ text, provider.scheme.encodeCursor lib secret fingerprint offset values = .ok text ∧
          provider.scheme.decodeCursor lib secret (some text) fingerprint =
            .ok (offset, some values)) ∧
      ∀ text, ¬ SignedFor lib secret fingerprint text →
        ∃ message, provider.scheme.decodeCursor lib secret (some text) fingerprint =
          .error (.providerCursor message "INVALID_CURSOR") :=
  ⟨fun _ _ hoffset hlib => decode_encodeCursor provider.lawful hoffset hlib,
    fun _ => decodeCursor_unsigned⟩

/-! ## A cursor of Twelve Data -/

/-- `{"fingerprint":"query","last_bar_id":"bar_1","offset":1000,...}`. -/
def sampleBody : Bytes :=
  ("\x7b\"fingerprint\":\"query\",\"last_bar_id\":\"bar_1\",\"offset\":1000," ++
    "\"source_watermark\":\"w\",\"version\":1\x7d").toList.map fun c => UInt8.ofNat c.toNat

/-- Its signature with the secret `secret`. -/
def sampleSignature : Bytes :=
  [153, 192, 48, 222, 139, 71, 85, 188, 181, 251, 149, 52, 5, 61, 43, 229, 40, 71, 43,
    49, 204, 37, 82, 19, 141, 90, 47, 127, 4, 211, 192, 85]

/-- The standard library on these texts. -/
def sampleLibrary : CursorLibrary where
  dumps _ := sampleBody
  loads _ := some (.obj
    [("fingerprint", .str "query"), ("last_bar_id", .str "bar_1"), ("offset", .int 1000),
      ("source_watermark", .str "w"), ("version", .int 1)])
  urlsafeB64encode bytes :=
    if bytes = sampleSignature then "mcAw3otHVby1-5U0BT0r5ShHKzHMJVITjVovfwTTwFU="
    else
      "eyJmaW5nZXJwcmludCI6InF1ZXJ5IiwibGFzdF9iYXJfaWQiOiJiYXJfMSIsIm9mZnNldCI6MTAwMCwi" ++
        "c291cmNlX3dhdGVybWFyayI6InciLCJ2ZXJzaW9uIjoxfQ=="
  urlsafeB64decode text :=
    if text = "mcAw3otHVby1-5U0BT0r5ShHKzHMJVITjVovfwTTwFU=" then some sampleSignature
    else if text = "AAAA" then some [0, 0, 0]
    else some sampleBody
  hmacSha256 _ _ := sampleSignature

theorem sampleBody_base64 : sampleLibrary.Base64Of sampleBody :=
  ⟨"eyJmaW5nZXJwcmludCI6InF1ZXJ5IiwibGFzdF9iYXJfaWQiOiJiYXJfMSIsIm9mZnNldC".toList ++
    "I6MTAwMCwic291cmNlX3dhdGVybWFyayI6InciLCJ2ZXJzaW9uIjoxfQ".toList, 2, by decide +kernel,
    by decide +kernel, by decide +kernel, by decide +kernel, by decide +kernel,
    by decide +kernel⟩

/-- The same body with three zero bytes for the signature. -/
def forgedCursor : String :=
  ".".intercalate [twelveDataCursor.tag, b64encode sampleLibrary sampleBody, "AAAA"]

/-- It is signed for no query. -/
theorem forgedCursor_unsigned (secret : Bytes) (fingerprint : String) :
    ¬ SignedFor sampleLibrary secret fingerprint forgedCursor := by
  rintro ⟨version, body, payload, hparts, -⟩
  have htag : '.' ∉ twelveDataCursor.tag.toList := CursorProvider.twelveData.lawful.tag_plain
  have hforged : sampleLibrary.urlsafeB64decode (withPadding "AAAA") = some [0, 0, 0] := by
    decide +kernel
  rw [CursorScheme.parts, forgedCursor,
    splitThree_intercalate _ htag sampleBody_base64.plain] at hparts
  simp only [Option.bind_some, sampleBody_base64.decode, hforged, Option.map_eq_some_iff,
    Prod.mk.injEq] at hparts
  rcases hparts with ⟨read, -, -, -, hsignature, -⟩
  -- the signature of every body has 32 bytes
  have hlength : ([0, 0, 0] : Bytes).length = sampleSignature.length :=
    congrArg List.length hsignature
  exact absurd hlength (by decide)

/-- A cursor that is read back, and a forged one that is refused. -/
theorem cursorCodecs_sound_sample :
    (∃ text, twelveDataCursor.encodeCursor sampleLibrary [115, 101, 99, 114, 101, 116] "query" 1000
        ⟨"bar_1", "w"⟩ = .ok text ∧
      twelveDataCursor.decodeCursor sampleLibrary [115, 101, 99, 114, 101, 116] (some text)
        "query" = .ok (1000, some ⟨"bar_1", "w"⟩)) ∧
      ∃ message, twelveDataCursor.decodeCursor sampleLibrary [115, 101, 99, 114, 101, 116]
        (some forgedCursor) "query" = .error (.providerCursor message "INVALID_CURSOR") := by
  have hsignature : sampleLibrary.Base64Of sampleSignature :=
    ⟨"mcAw3otHVby1-5U0BT0r5ShHKzHMJVITjVovfwTTwFU".toList, 1, by decide +kernel, by decide +kernel,
      by decide +kernel, by decide +kernel, by decide +kernel, by decide +kernel⟩
  have hjson : ∃ read, sampleLibrary.loads (sampleLibrary.dumps
        (twelveDataCursor.payload "query" 1000 ⟨"bar_1", "w"⟩)) = some (.obj read) ∧
      read.Perm (twelveDataCursor.payload "query" 1000 ⟨"bar_1", "w"⟩) := by
    refine ⟨_, rfl, ?_⟩
    have hlast := List.perm_append_singleton ("version", Json.int 1)
      [("fingerprint", .str "query"), ("last_bar_id", .str "bar_1"), ("offset", .int 1000),
        ("source_watermark", .str "w")]
    exact hlast.trans (.cons _ (.cons _ (.swap _ _ _)))
  have hsound := cursorCodecs_sound .twelveData sampleLibrary [115, 101, 99, 114, 101, 116] "query"
  exact ⟨hsound.1 1000 ⟨"bar_1", "w"⟩ (by decide) ⟨hjson, sampleBody_base64, hsignature⟩,
    hsound.2 forgedCursor (forgedCursor_unsigned _ "query")⟩

end MacroPlatform.Providers
