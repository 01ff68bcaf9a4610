import MacroPlatform.Contracts.Facts
import MacroPlatform.Lib.Json
import Mathlib.Data.List.Infix

/-! # `FeishuTransport`

What the two requests of a send make of the answers that they get: any status, any body, or a
request error. A body is what `response.json()` gives, `none` when it raises `ValueError`. The
`Authorization` header of a message decides whether it is sent at all: the client encodes it in
ASCII. The card and the other arguments of the requests decide nothing and are left out, and so
are the texts of Python's own exceptions.

* `sendResult_classified`, `sendResult_not_readable`: what one answer to a message comes to;
* `tokenAnswer`: what one answer to a token request comes to;
* `sendCardWithToken_classified_iff`: the send is classified exactly when every code that it looks
  up has a hash, every token that it bears is ASCII, and a granted expiry is a date.
-/

namespace MacroPlatform.Delivery

/-- The answer to a POST: an `httpx.RequestError` by its name, or a response. -/
inductive Reply where
  | requestError (exception : String)
  | response (status : ℕ) (body : Option Json)

structure FeishuTransportError where
  errorCode : String
  responsePayload : Json
  retryable : Bool := false
  outcomeUnknown : Bool := false

/-- What a send raises: the classified error, or what the code does not catch. -/
inductive FeishuException where
  | transport (error : FeishuTransportError)
  | typeError
  | overflowError
  | unicodeEncodeError

structure FeishuSendResult where
  messageId : String
  responsePayload : Json

def feishuRateLimitCodes : List ℤ := [230020, 11232, 11233, 99991400]
def feishuAuthCodes : List ℤ := [230006, 230027]
def feishuCardInvalidCodes : List ℤ := [200621, 200732, 200861, 230099]
def feishuChatUnavailableCodes : List ℤ :=
  [230002, 230013, 230018, 230034, 230035, 230053, 230054, 230075, 232009]

/-! ## Reading a response -/

/-- Lists and dicts have no hash. -/
def hashable : Json → Bool
  | .arr _ | .obj _ => false
  | _ => true

/-- `value in frozenset(codes)`. -/
def inFrozenset (value : Json) (codes : List ℤ) : Except FeishuException Bool :=
  if hashable value then .ok (codes.any fun code => value.pyEq (.int code))
  else .error .typeError

/-- `{"http_status": ...}`. -/
def httpStatus (status : ℕ) : Json := .obj [("http_status", .int status)]

/-- `_response_object`. -/
def responseObject (status : ℕ) (body : Option Json)
    (invalidResponseRetryable invalidResponseOutcomeUnknown : Bool) :
    Except FeishuException Json :=
  match body with
  | some (.obj fields) => .ok (.obj fields)
  | _ =>
      .error (.transport {
        errorCode := "FEISHU_RESPONSE_INVALID"
        responsePayload := httpStatus status
        retryable := invalidResponseRetryable
        outcomeUnknown := invalidResponseOutcomeUnknown })

/-- `_response_object_or_status`. -/
def responseObjectOrStatus (status : ℕ) (body : Option Json) : Json :=
  match body with
  | some (.obj fields) => .obj fields
  | _ => httpStatus status

/-- `_is_rate_limited_payload`. -/
def isRateLimitedPayload (payload : Json) : Except FeishuException Bool :=
  inFrozenset (payload.get "code") feishuRateLimitCodes

/-- The diagnostic texts of a payload; `lower` differs from Python's on characters alone that
occur in none of the tokens. -/
def diagnosticText (payload : Json) : String :=
  (" ".intercalate ([payload.get "msg", payload.get "message"].filterMap Json.toStr?)).toLower

/-- `_classify_send_failure`. -/
def classifySendFailure (payload : Json) (fallback : String) : Except FeishuException String := do
  let code := payload.get "code"
  let auth ← inFrozenset code feishuAuthCodes
  let cardInvalid ← inFrozenset code feishuCardInvalidCodes
  let chatUnavailable ← inFrozenset code feishuChatUnavailableCodes
  let limited ← inFrozenset code feishuRateLimitCodes
  let message := diagnosticText payload
  .ok <|
    if auth then "FEISHU_AUTH_FAILED"
    else if cardInvalid then "FEISHU_CARD_INVALID"
    else if chatUnavailable then "FEISHU_CHAT_UNAVAILABLE"
    else if limited then "FEISHU_RATE_LIMITED"
    else if code.pyEq (.int 230001) then
      if ["card", "content", "interactive", "schema"].any (containsText · message) then
        "FEISHU_CARD_INVALID"
      else if ["receive_id", "chat_id", "group", "群"].any (containsText · message) then
        "FEISHU_CHAT_UNAVAILABLE"
      else "FEISHU_REQUEST_INVALID"
    else fallback

def rateLimited (payload : Json) : FeishuException :=
  .transport { errorCode := "FEISHU_RATE_LIMITED", responsePayload := payload, retryable := true }

/-! ## The token -/

/-- `_tenant_access_token` and `_token_expires_at`. -/
structure TokenCache where
  token : Option String := none
  expiresAt : Option Instant := none
deriving DecidableEq, Repr

def tokenRefreshMargin : ℤ := 60 * 1000000

/-- `_token_is_fresh`, with the token that is. -/
def freshToken? (cache : TokenCache) (now : Instant) : Option String :=
  cache.token.bind fun token =>
    cache.expiresAt.bind fun expiresAt =>
      if now < expiresAt - tokenRefreshMargin then some token else none

/-- `_request_token`. -/
def requestToken : Reply → Except FeishuException Json
  | .requestError exception =>
      .error (.transport {
        errorCode := "FEISHU_TOKEN_REQUEST_FAILED"
        responsePayload := .obj [("exception", .str exception)]
        retryable := true })
  | .response status body =>
      if status = 429 then .error (rateLimited (responseObjectOrStatus status body))
      else if 400 ≤ status ∧ status < 500 then do
        let payload := responseObjectOrStatus status body
        let limited ← isRateLimitedPayload payload
        if limited then .error (rateLimited payload)
        else .error (.transport { errorCode := "FEISHU_AUTH_FAILED", responsePayload := payload })
      else do
        let payload ← responseObject status body (500 ≤ status) false
        let limited ← isRateLimitedPayload payload
        if limited then .error (rateLimited payload)
        else if 500 ≤ status then
          .error (.transport {
            errorCode := "FEISHU_TOKEN_SERVER_ERROR"
            responsePayload := payload
            retryable := true })
        else if (payload.get "code").pyEq (.int 0) then .ok payload
        else .error (.transport { errorCode := "FEISHU_AUTH_FAILED", responsePayload := payload })

/-- A `str` that is not empty. -/
def nonEmptyStr? (value : Json) : Option String := value.toStr?.filter (· ≠ "")

/-- `datetime.max`. -/
def datetimeMax : Instant := 253402300799999999

/-- The token of a payload, with its validity in seconds. -/
def tokenOfPayload (payload : Json) : Except FeishuException (String × ℤ) :=
  match nonEmptyStr? (payload.get "tenant_access_token") with
  | none =>
      .error (.transport {
        errorCode := "FEISHU_TOKEN_RESPONSE_INVALID", responsePayload := payload })
  | some token =>
      match (payload.get "expire" (payload.get "expires_in")).pyInt? with
      | some expiresIn =>
          if expiresIn ≤ 0 then
            .error (.transport {
              errorCode := "FEISHU_TOKEN_EXPIRY_INVALID", responsePayload := payload })
          else .ok (token, expiresIn)
      | none =>
          .error (.transport {
            errorCode := "FEISHU_TOKEN_EXPIRY_INVALID", responsePayload := payload })

/-- `_request_token`, and the checks of its payload. -/
def grantToken (reply : Reply) : Except FeishuException (String × ℤ) :=
  requestToken reply >>= tokenOfPayload

/-- `now + timedelta(seconds=expires_in)`. -/
def tokenExpiry (now : Instant) (expiresIn : ℤ) : Except FeishuException Instant :=
  if datetimeMax < now + expiresIn * 1000000 then .error .overflowError
  else .ok (now + expiresIn * 1000000)

/-! ## The send -/

/-- A POST by its answer, the one of a message with its `Authorization` header. -/
inductive Post where
  | message (authorization : String) (reply : Reply)
  | token (reply : Reply)

/-- What a send gets: the answers to its message POSTs in their order, the answer to its token
POST, the clock, and what another send has left in the cache when this one holds the token
lock. -/
structure Feishu where
  messageReply : ℕ → Reply
  tokenReply : Reply
  now : Instant
  cacheAtLock : TokenCache

/-- The POSTs that were made, the token cache, and the result. -/
structure Exchange (α : Type) where
  posts : List Post
  cache : TokenCache
  result : Except FeishuException α

/-- `_tenant_token`. -/
def tenantToken (feishu : Feishu) (cache : TokenCache) : Exchange String :=
  match freshToken? cache feishu.now with
  | some token => ⟨[], cache, .ok token⟩
  | none => underLock
where
  underLock : Exchange String :=
    match freshToken? feishu.cacheAtLock feishu.now with
    | some token => ⟨[], feishu.cacheAtLock, .ok token⟩
    | none => request
  request : Exchange String :=
    match grantToken feishu.tokenReply with
    | .error e => ⟨[.token feishu.tokenReply], feishu.cacheAtLock, .error e⟩
    | .ok (token, expiresIn) =>
        -- the token is in the cache before its expiry is computed
        match tokenExpiry feishu.now expiresIn with
        | .error e =>
            ⟨[.token feishu.tokenReply], ⟨some token, feishu.cacheAtLock.expiresAt⟩, .error e⟩
        | .ok expiresAt =>
            ⟨[.token feishu.tokenReply], ⟨some token, some expiresAt⟩, .ok token⟩

def isAscii (text : String) : Bool := text.toList.all fun c => c.toNat < 128

/-- The `Authorization` header of a message; the client encodes a header in ASCII. -/
def authorizationHeader (token : String) : Except FeishuException String :=
  if isAscii token then .ok ("Bearer " ++ token) else .error .unicodeEncodeError

/-- `_send_card_with_token` with the response's object. -/
def payloadResult (status : ℕ) (payload : Json) : Except FeishuException FeishuSendResult := do
  let limited ← isRateLimitedPayload payload
  if limited then .error (rateLimited payload)
  else if 500 ≤ status then
    .error (.transport {
      errorCode := "FEISHU_SEND_OUTCOME_UNKNOWN"
      responsePayload := payload
      outcomeUnknown := true })
  else if 400 ≤ status then do
    let errorCode ← classifySendFailure payload "FEISHU_SEND_HTTP_ERROR"
    .error (.transport { errorCode, responsePayload := payload })
  else if ¬ (payload.get "code").pyEq (.int 0) then do
    let errorCode ← classifySendFailure payload "FEISHU_SEND_REJECTED"
    .error (.transport { errorCode, responsePayload := payload })
  else
    match nonEmptyStr? ((payload.get "data").get "message_id") with
    | none =>
        .error (.transport {
          errorCode := "FEISHU_MESSAGE_ID_MISSING"
          responsePayload := payload
          outcomeUnknown := true })
    | some messageId => .ok { messageId, responsePayload := payload }

/-- `_send_card_with_token` from its response on, when it does not refresh the token. -/
def sendResult : Reply → Except FeishuException FeishuSendResult
  | .requestError exception =>
      .error (.transport {
        errorCode := "FEISHU_SEND_OUTCOME_UNKNOWN"
        responsePayload := .obj [("exception", .str exception)]
        outcomeUnknown := true })
  | .response status body =>
      if status = 401 ∨ status = 403 then
        .error (.transport {
          errorCode := "FEISHU_AUTH_FAILED"
          responsePayload := responseObjectOrStatus status body })
      else if status = 429 then .error (rateLimited (responseObjectOrStatus status body))
      else
        responseObject status body false ((200 ≤ status ∧ status ≤ 299) ∨ 500 ≤ status) >>=
          payloadResult status

/-- `_send_card_with_token` without a refresh: the message bears the token and is answered by
`reply`. -/
def sendWithoutRefresh (reply : Reply) (cache : TokenCache) (token : String) :
    Exchange FeishuSendResult :=
  match authorizationHeader token with
  | .error e => ⟨[], cache, .error e⟩
  | .ok header => ⟨[.message header reply], cache, sendResult reply⟩

/-- `_send_card_with_token`: a 401 is answered by one refresh of the token and one more send. -/
def sendCardWithToken (feishu : Feishu) (cache : TokenCache) (token : String)
    (allowTokenRefresh : Bool) : Exchange FeishuSendResult :=
  match authorizationHeader token with
  | .error e => ⟨[], cache, .error e⟩
  | .ok header =>
    match feishu.messageReply 0 with
    | .response 401 body =>
        if allowTokenRefresh then
          let refused : Post := .message header (.response 401 body)
          let refreshed := tenantToken feishu {}
          match refreshed.result with
          | .error e => ⟨refused :: refreshed.posts, refreshed.cache, .error e⟩
          | .ok newToken =>
              let again := sendWithoutRefresh (feishu.messageReply 1) refreshed.cache newToken
              ⟨refused :: refreshed.posts ++ again.posts, again.cache, again.result⟩
        else ⟨[.message header (.response 401 body)], cache, sendResult (.response 401 body)⟩
    | reply => ⟨[.message header reply], cache, sendResult reply⟩

/-! ## The two kinds of answer -/

/-- The value under `code` of a body; a body that is no object has none. -/
def Reply.code : Reply → Json
  | .requestError _ => .null
  | .response _ body => (body.getD .null).get "code"

/-- The code of the answer to a message POST can be looked up, where it is looked up. -/
def Reply.messageReadable : Reply → Bool
  | .requestError _ => true
  | .response status body =>
      status = 401 || status = 403 || status = 429 || hashable (Reply.response status body).code

/-- The answer to a message POST is a rate limit. -/
def Reply.RateLimited : Reply → Prop
  | .requestError _ => False
  | .response status body =>
      status = 429 ∨ ∃ code ∈ feishuRateLimitCodes,
        (Reply.response status body).code.pyEq (.int code) = true

/-- Feishu may have accepted the message in spite of the answer: a request error, a server error
without a rate-limit code, a body that is no object under a status of success or of a server
error, or code 0 without a message id. -/
def Reply.MayBeAccepted : Reply → Prop
  | .requestError _ => True
  | .response status body =>
      (500 ≤ status ∧ ¬ (Reply.response status body).RateLimited) ∨
      (((200 ≤ status ∧ status ≤ 299) ∨ 500 ≤ status) ∧ ∀ fields, body ≠ some (.obj fields)) ∨
      (status < 400 ∧ (Reply.response status body).code.pyEq (.int 0) = true ∧
        nonEmptyStr? (((body.getD .null).get "data").get "message_id") = none)

/-- A result with a message id, after an answer below 400 with code 0. -/
def Reply.Accepts (reply : Reply) (result : FeishuSendResult) : Prop :=
  result.messageId ≠ "" ∧ ∃ status body, reply = .response status body ∧ status < 400 ∧
    reply.code.pyEq (.int 0) = true

/-- What a send may make of the answer to its last message POST. -/
structure Classified (reply : Reply) (result : Except FeishuException FeishuSendResult) :
    Prop where
  total : (∃ sent, result = .ok sent ∧ reply.Accepts sent) ∨
    ∃ e, result = .error (.transport e)
  exclusive : ∀ e, result = .error (.transport e) → ¬ (e.retryable = true ∧ e.outcomeUnknown = true)
  unknown : reply.MayBeAccepted →
    ∃ e, result = .error (.transport e) ∧ e.outcomeUnknown = true
  retryable : ∀ e, result = .error (.transport e) → e.retryable = true → reply.RateLimited

theorem inFrozenset_of_hashable {value : Json} (h : hashable value = true) (codes : List ℤ) :
    inFrozenset value codes = .ok (codes.any fun code => value.pyEq (.int code)) :=
  if_pos h

theorem inFrozenset_of_not_hashable {value : Json} (h : hashable value = false)
    (codes : List ℤ) : inFrozenset value codes = .error .typeError :=
  if_neg (by simp [h])

/-- A hashable code always has a class. -/
theorem classifySendFailure_ok {payload : Json} (h : hashable (payload.get "code") = true)
    (fallback : String) : ∃ errorCode, classifySendFailure payload fallback = .ok errorCode := by
  unfold classifySendFailure
  simp only [inFrozenset_of_hashable h, bind, Except.bind]
  exact ⟨_, rfl⟩

theorem classified_error {reply : Reply} {e : FeishuTransportError}
    (hexclusive : ¬ (e.retryable = true ∧ e.outcomeUnknown = true))
    (hunknown : reply.MayBeAccepted → e.outcomeUnknown = true)
    (hretryable : e.retryable = true → reply.RateLimited) :
    Classified reply (.error (.transport e)) := by
  refine ⟨Or.inr ⟨e, rfl⟩, ?_, fun h => ⟨e, rfl, hunknown h⟩, ?_⟩
  · rintro e' ⟨⟩
    exact hexclusive
  · rintro e' ⟨⟩
    exact hretryable

theorem isRateLimited_iff {status : ℕ} {fields : List (String × Json)} (h429 : status ≠ 429) :
    (feishuRateLimitCodes.any fun code => ((Json.obj fields).get "code").pyEq (.int code)) = true ↔
      (Reply.response status (some (.obj fields))).RateLimited := by
  simp [Reply.RateLimited, Reply.code, h429, List.any_eq_true]

theorem pyEq_int_iff {value : Json} {n : ℤ} :
    value.pyEq (.int n) = true ↔ value.number? = some (n : ℚ) := by
  cases value <;> simp [Json.pyEq, Json.number?]

/-- A code is equal to one number. -/
theorem code_unique {value : Json} {m n : ℤ} (hm : value.pyEq (.int m) = true)
    (hn : value.pyEq (.int n) = true) : m = n := by
  rw [pyEq_int_iff] at hm hn
  rw [hm] at hn
  exact_mod_cast Option.some.inj hn

/-- A body that is an object is taken, any other is refused with one code. -/
theorem responseObject_cases (status : ℕ) (body : Option Json) (retryable unknown : Bool) :
    (∃ fields, body = some (.obj fields) ∧
      responseObject status body retryable unknown = .ok (.obj fields)) ∨
    ((∀ fields, body ≠ some (.obj fields)) ∧
      responseObject status body retryable unknown = .error (.transport {
        errorCode := "FEISHU_RESPONSE_INVALID"
        responsePayload := httpStatus status
        retryable := retryable
        outcomeUnknown := unknown })) := by
  unfold responseObject
  split
  · exact Or.inl ⟨_, rfl, rfl⟩
  · next hbody => exact Or.inr ⟨fun fields h => hbody fields h, rfl⟩

/-- An object with a code that can be looked up, under a status that is not its own class. -/
theorem payloadResult_classified {status : ℕ} {fields : List (String × Json)}
    (hcode : hashable ((Json.obj fields).get "code") = true) (h429 : status ≠ 429) :
    Classified (.response status (some (.obj fields))) (payloadResult status (.obj fields)) := by
  have hlimited : (feishuRateLimitCodes.any fun code =>
      ((Json.obj fields).get "code").pyEq (.int code)) = true ↔
        (Reply.response status (some (.obj fields))).RateLimited := isRateLimited_iff h429
  -- the branches of the source, in its order
  unfold payloadResult
  rw [isRateLimitedPayload, inFrozenset_of_hashable hcode]
  show Classified _ (if _ then _ else _)
  split_ifs with hrate hserver hclient hzero
  -- a rate limit is known not to be accepted
  · have hlimits := hlimited.mp hrate
    refine classified_error (by simp) ?_ fun _ => hlimits
    rintro (⟨-, hnot⟩ | ⟨-, hobject⟩ | ⟨-, hcodeZero, -⟩)
    · exact absurd hlimits hnot
    · exact absurd rfl (hobject fields)
    · -- code 0 is no rate-limit code
      rcases hlimits with heq | ⟨code, hmem, hequal⟩
      · exact absurd heq h429
      · rw [code_unique hequal hcodeZero] at hmem
        exact absurd hmem (by decide)
  -- a server error leaves it open
  · exact classified_error (by simp) (fun _ => rfl) (by simp)
  -- a client error under a code of its own
  · obtain ⟨errorCode, herror⟩ := classifySendFailure_ok hcode "FEISHU_SEND_HTTP_ERROR"
    rw [herror]
    refine classified_error (by simp) ?_ (by simp)
    rintro (⟨hge, -⟩ | ⟨-, hobject⟩ | ⟨hbelow, -⟩)
    · exact absurd hge hserver
    · exact absurd rfl (hobject fields)
    · omega
  -- code 0 is a success when it comes with a message id
  · cases hmessage : nonEmptyStr? (((Json.obj fields).get "data").get "message_id") with
    | none => exact classified_error (by simp) (fun _ => rfl) (by simp)
    | some messageId =>
      have hne : messageId ≠ "" := by
        have hkept := (Option.filter_eq_some_iff.mp hmessage).2
        simpa using hkept
      refine ⟨Or.inl ⟨_, rfl, hne, status, _, rfl, by omega, hzero⟩, ?_, ?_, ?_⟩
      · rintro e ⟨⟩
      · rintro (⟨hge, -⟩ | ⟨-, hobject⟩ | ⟨-, -, hmissing⟩)
        · exact absurd hge hserver
        · exact absurd rfl (hobject fields)
        · have hsome : nonEmptyStr? (((Json.obj fields).get "data").get "message_id") = none :=
            hmissing
          rw [hmessage] at hsome
          cases hsome
      · rintro e ⟨⟩
  -- another code is a rejection
  · obtain ⟨errorCode, herror⟩ := classifySendFailure_ok hcode "FEISHU_SEND_REJECTED"
    rw [herror]
    refine classified_error (by simp) ?_ (by simp)
    rintro (⟨hge, -⟩ | ⟨-, hobject⟩ | ⟨-, hequal, -⟩)
    · exact absurd hge hserver
    · exact absurd rfl (hobject fields)
    · exact absurd hequal hzero

/-- The answer to a message POST is classified when its code can be looked up. -/
theorem sendResult_classified {reply : Reply} (h : reply.messageReadable = true) :
    Classified reply (sendResult reply) := by
  cases reply with
  | requestError exception => exact classified_error (by simp) (fun _ => rfl) (by simp)
  | response status body =>
    simp only [sendResult]
    by_cases hauth : status = 401 ∨ status = 403
    · rw [if_pos hauth]
      refine classified_error (by simp) ?_ (by simp)
      -- neither is a status of an accepted message
      rintro (⟨hserver, -⟩ | ⟨hstatus, -⟩ | ⟨hbelow, -⟩) <;> omega
    rw [if_neg hauth]
    by_cases h429 : status = 429
    · rw [if_pos h429]
      refine classified_error (by simp) ?_ (fun _ => Or.inl h429)
      rintro (⟨hserver, -⟩ | ⟨hstatus, -⟩ | ⟨hbelow, -⟩) <;> omega
    rw [if_neg h429]
    rcases responseObject_cases status body false
      ((200 ≤ status ∧ status ≤ 299) ∨ 500 ≤ status) with
      ⟨fields, rfl, hobject⟩ | ⟨hobject, herror⟩
    · rw [hobject]
      have hcode : hashable ((Json.obj fields).get "code") = true := by
        simpa [Reply.messageReadable, Reply.code, not_or.mp hauth, h429] using h
      exact payloadResult_classified hcode h429
    · rw [herror]
      refine classified_error (by simp) ?_ (by simp)
      rintro (⟨hserver, -⟩ | ⟨hstatus, -⟩ | ⟨-, hequal, -⟩)
      · simp [hserver]
      · simpa using hstatus
      · -- a body that is no object has no code
        have hnull : (Reply.response status body).code = .null := by
          cases body with
          | none => rfl
          | some body =>
            cases body with
            | obj fields => exact absurd rfl (hobject fields)
            | null | bool | int | float | str | arr => rfl
        rw [hnull] at hequal
        cases hequal

/-- A code that cannot be looked up ends the send with a `TypeError`. -/
theorem sendResult_not_readable {reply : Reply} (h : reply.messageReadable = false) :
    sendResult reply = .error .typeError := by
  cases reply with
  | requestError exception => cases h
  | response status body =>
    simp only [Reply.messageReadable, Bool.or_eq_false_iff, decide_eq_false_iff_not] at h
    obtain ⟨⟨⟨h401, h403⟩, h429⟩, hcode⟩ := h
    -- an answer that is not readable is an object whose code is no hash
    simp only [sendResult]
    rw [if_neg (by omega), if_neg h429]
    cases body with
    | none => cases hcode
    | some body =>
      cases body with
      | null | bool | int | float | str | arr => cases hcode
      | obj fields =>
        change hashable ((Json.obj fields).get "code") = false at hcode
        show payloadResult status (.obj fields) = _
        unfold payloadResult
        rw [isRateLimitedPayload, inFrozenset_of_not_hashable hcode]
        rfl

/-! ## The refresh of the token -/

/-- The code of the answer to a token POST can be looked up, where it is looked up. -/
def Reply.tokenReadable : Reply → Bool
  | .requestError _ => true
  | .response status body => status = 429 || hashable (Reply.response status body).code

/-- The token of a payload with its validity in seconds, when both pass their checks. -/
def validToken? (payload : Json) : Option (String × ℤ) :=
  (nonEmptyStr? (payload.get "tenant_access_token")).bind fun token =>
    ((payload.get "expire" (payload.get "expires_in")).pyInt?.filter (0 < ·)).map fun expiresIn =>
      (token, expiresIn)

/-- The token that an answer grants, with its validity in seconds. -/
def Reply.granted? : Reply → Option (String × ℤ)
  | .response status (some (.obj fields)) =>
      if status < 400 ∧ ((Json.obj fields).get "code").pyEq (.int 0) = true then
        validToken? (.obj fields)
      else none
  | _ => none

/-- The answer to a token POST is turned down by a classified error, which leaves no send in
doubt. -/
def Refused (result : Except FeishuException (String × ℤ)) : Prop :=
  ∃ e : FeishuTransportError, result = .error (.transport e) ∧ e.outcomeUnknown = false

/-- A payload without a valid token is refused by its first check that fails. -/
theorem tokenOfPayload_refused {payload : Json} (h : validToken? payload = none) :
    Refused (tokenOfPayload payload) := by
  unfold validToken? at h
  unfold tokenOfPayload
  cases htoken : nonEmptyStr? (payload.get "tenant_access_token") with
  | none => exact ⟨_, rfl, rfl⟩
  | some token =>
    cases hseconds : (payload.get "expire" (payload.get "expires_in")).pyInt? with
    | none => exact ⟨_, rfl, rfl⟩
    | some seconds =>
      have hnonpositive : seconds ≤ 0 := by
        simpa [htoken, hseconds, Option.filter_eq_none_iff] using h
      show Refused (if seconds ≤ 0 then _ else _)
      rw [if_pos hnonpositive]
      exact ⟨_, rfl, rfl⟩

theorem tokenOfPayload_valid {payload : Json} {granted : String × ℤ}
    (h : validToken? payload = some granted) : tokenOfPayload payload = .ok granted := by
  unfold validToken? at h
  obtain ⟨token, htoken, hrest⟩ := Option.bind_eq_some_iff.mp h
  obtain ⟨seconds, hfilter, rfl⟩ := Option.map_eq_some_iff.mp hrest
  obtain ⟨hseconds, hpositive⟩ := Option.filter_eq_some_iff.mp hfilter
  unfold tokenOfPayload
  rw [htoken, hseconds]
  have hnot : ¬ seconds ≤ 0 := by simpa using hpositive
  show (if seconds ≤ 0 then _ else _) = _
  rw [if_neg hnot]

/-- What the answer to a token POST comes to. -/
inductive TokenAnswer (reply : Reply) : Prop
  | granted (token : String × ℤ) : reply.tokenReadable = true → reply.granted? = some token →
      grantToken reply = .ok token → TokenAnswer reply
  | refused : reply.tokenReadable = true → reply.granted? = none →
      Refused (grantToken reply) → TokenAnswer reply
  | unreadable : reply.tokenReadable = false → grantToken reply = .error .typeError →
      TokenAnswer reply

/-- The answer of the token endpoint, once its code is hashable. -/
theorem tokenAnswer_payload {status : ℕ} {fields : List (String × Json)}
    (hcode : hashable ((Json.obj fields).get "code") = true)
    (hgranted : (Reply.response status (some (.obj fields))).granted? =
      validToken? (.obj fields))
    (hreply : grantToken (.response status (some (.obj fields))) =
      tokenOfPayload (.obj fields)) :
    TokenAnswer (.response status (some (.obj fields))) := by
  have hreadable : (Reply.response status (some (.obj fields))).tokenReadable = true := by
    simp [Reply.tokenReadable, Reply.code, hcode]
  cases hvalid : validToken? (.obj fields) with
  | none =>
    refine .refused hreadable (hgranted.trans hvalid) ?_
    rw [hreply]
    exact tokenOfPayload_refused hvalid
  | some token =>
    exact .granted token hreadable (hgranted.trans hvalid)
      (hreply.trans (tokenOfPayload_valid hvalid))

theorem granted?_of_status {status : ℕ} (body : Option Json) (h : ¬ status < 400) :
    (Reply.response status body).granted? = none := by
  unfold Reply.granted?
  split
  · next heq =>
    cases heq
    simp [h]
  · rfl

theorem granted?_of_code {status : ℕ} {fields : List (String × Json)}
    (h : ¬ ((Json.obj fields).get "code").pyEq (.int 0) = true) :
    (Reply.response status (some (.obj fields))).granted? = none := by
  simp [Reply.granted?, h]

/-- The code of the payload that is looked up is the code of the answer. -/
theorem responseObjectOrStatus_code (status : ℕ) (body : Option Json) :
    (responseObjectOrStatus status body).get "code" = (Reply.response status body).code := by
  cases body with
  | none => rfl
  | some body => cases body <;> rfl

/-- Every answer of the token endpoint is granted, refused or unreadable. -/
theorem tokenAnswer (reply : Reply) : TokenAnswer reply := by
  cases reply with
  -- the request error of the client is classified by the transport
  | requestError exception => exact .refused rfl rfl ⟨_, rfl, rfl⟩
  | response status body =>
    -- 429 before the body is looked at
    by_cases h429 : status = 429
    · have hgrant : grantToken (.response status body) =
          .error (rateLimited (responseObjectOrStatus status body)) := by
        unfold grantToken requestToken
        simp only [if_pos h429]
        rfl
      refine .refused (by simp [Reply.tokenReadable, h429])
        (granted?_of_status body (by omega)) ⟨_, hgrant, rfl⟩
    -- a client error: the code says whether it is a rate limit
    by_cases hclient : 400 ≤ status ∧ status < 500
    · have hgrant : grantToken (.response status body) =
          (isRateLimitedPayload (responseObjectOrStatus status body) >>= fun limited =>
            if limited then .error (rateLimited (responseObjectOrStatus status body))
            else .error (.transport {
              errorCode := "FEISHU_AUTH_FAILED"
              responsePayload := responseObjectOrStatus status body })) >>=
            tokenOfPayload := by
        unfold grantToken requestToken
        simp only [if_neg h429, if_pos hclient]
      unfold isRateLimitedPayload at hgrant
      rw [responseObjectOrStatus_code] at hgrant
      cases hcode : hashable (Reply.response status body).code with
      | false =>
        rw [inFrozenset_of_not_hashable hcode] at hgrant
        exact .unreadable (by simp [Reply.tokenReadable, h429, hcode]) hgrant
      | true =>
        rw [inFrozenset_of_hashable hcode] at hgrant
        refine .refused (by simp [Reply.tokenReadable, hcode])
          (granted?_of_status body (by omega)) ?_
        rw [hgrant]
        show Refused ((if _ then _ else _) >>= _)
        split_ifs <;> exact ⟨_, rfl, rfl⟩
    -- the other statuses need an object
    have hgrant : grantToken (.response status body) =
        ((responseObject status body (500 ≤ status) false >>= fun payload =>
          isRateLimitedPayload payload >>= fun limited =>
            if limited then .error (rateLimited payload)
            else if 500 ≤ status then
              .error (.transport {
                errorCode := "FEISHU_TOKEN_SERVER_ERROR"
                responsePayload := payload
                retryable := true })
            else if (payload.get "code").pyEq (.int 0) then .ok payload
            else .error (.transport {
              errorCode := "FEISHU_AUTH_FAILED", responsePayload := payload })) >>=
          tokenOfPayload) := by
      unfold grantToken requestToken
      simp only [if_neg h429, if_neg hclient]
    rcases responseObject_cases status body (500 ≤ status) false with
      ⟨fields, rfl, hobject⟩ | ⟨hobject, herror⟩
    · rw [hobject] at hgrant
      change _ = (isRateLimitedPayload (.obj fields) >>= _) >>= _ at hgrant
      unfold isRateLimitedPayload at hgrant
      cases hcode : hashable ((Json.obj fields).get "code") with
      | false =>
        rw [inFrozenset_of_not_hashable hcode] at hgrant
        have hunreadable : (Reply.response status (some (.obj fields))).tokenReadable = false := by
          simp [Reply.tokenReadable, Reply.code, h429, hcode]
        exact .unreadable hunreadable hgrant
      | true =>
        have hreadable : (Reply.response status (some (.obj fields))).tokenReadable = true := by
          simp [Reply.tokenReadable, Reply.code, hcode]
        rw [inFrozenset_of_hashable hcode] at hgrant
        change _ = (if _ then _ else _) >>= _ at hgrant
        split_ifs at hgrant with hrate hserver hzero
        · -- a rate-limit code is not code 0
          refine .refused hreadable (granted?_of_code ?_) ⟨_, hgrant, rfl⟩
          intro hzero
          obtain ⟨code, hmem, hequal⟩ := List.any_eq_true.mp hrate
          rw [code_unique hequal hzero] at hmem
          exact absurd hmem (by decide)
        · exact .refused hreadable (granted?_of_status _ (by omega)) ⟨_, hgrant, rfl⟩
        · refine tokenAnswer_payload hcode ?_ hgrant
          have hbelow : status < 400 := by omega
          simp [Reply.granted?, hbelow, hzero]
        · exact .refused hreadable (granted?_of_code hzero) ⟨_, hgrant, rfl⟩
    -- a body that is no object is an error of its own
    · rw [herror] at hgrant
      have hgranted : (Reply.response status body).granted? = none := by
        unfold Reply.granted?
        split
        · next heq =>
          cases heq
          exact absurd rfl (hobject _)
        · rfl
      have hcode : (Reply.response status body).code = .null := by
        rw [← responseObjectOrStatus_code]
        unfold responseObjectOrStatus
        split
        · next fields => exact absurd rfl (hobject fields)
        · rfl
      refine .refused ?_ hgranted ⟨_, hgrant, rfl⟩
      unfold Reply.tokenReadable
      simp [hcode, hashable]

/-! ## The whole send -/

def Post.message? : Post → Option Reply
  | .message _ reply => some reply
  | .token _ => none

/-- A send that is classified, whatever was answered. -/
structure SafelyClassified (x : Exchange FeishuSendResult) : Prop where
  total : (∃ sent header reply, x.result = .ok sent ∧
    x.posts.getLast? = some (.message header reply) ∧ reply.Accepts sent) ∨
      ∃ e, x.result = .error (.transport e)
  exclusive : ∀ e, x.result = .error (.transport e) →
    ¬ (e.retryable = true ∧ e.outcomeUnknown = true)
  unknown : ∀ header reply, .message header reply ∈ x.posts → reply.MayBeAccepted →
    ∃ e, x.result = .error (.transport e) ∧ e.outcomeUnknown = true
  retryable : ∀ e, x.result = .error (.transport e) → e.retryable = true →
    (∃ reply, x.posts.getLast? = some (.token reply)) ∨
      ∃ header reply, x.posts.getLast? = some (.message header reply) ∧ reply.RateLimited
  messages : (∃ reply, x.posts.filterMap Post.message? = [reply]) ∨
    ∃ body reply, x.posts.filterMap Post.message? = [.response 401 body, reply]

/-- Every token that a message bears is ASCII, every code that the send looks up can be looked
up, and the expiry of a token that it is granted is a date. -/
def Feishu.Readable (feishu : Feishu) (token : String) (allowTokenRefresh : Bool) : Prop :=
  isAscii token = true ∧
    match feishu.messageReply 0, allowTokenRefresh with
    | .response 401 _, true =>
        match freshToken? feishu.cacheAtLock feishu.now with
        | some cached =>
            isAscii cached = true ∧ (feishu.messageReply 1).messageReadable = true
        | none =>
            feishu.tokenReply.tokenReadable = true ∧
              ∀ granted ∈ feishu.tokenReply.granted?,
                feishu.now + granted.2 * 1000000 ≤ datetimeMax ∧ isAscii granted.1 = true ∧
                  (feishu.messageReply 1).messageReadable = true
    | reply, _ => reply.messageReadable = true

/-- An answer of 401 is no acceptance. -/
theorem not_mayBeAccepted_401 (body : Option Json) :
    ¬ (Reply.response 401 body).MayBeAccepted := by
  rintro (⟨hserver, -⟩ | ⟨hstatus, -⟩ | ⟨hbelow, -⟩) <;> omega

/-- Nothing was posted yet, or one message that was answered by 401 and no other. -/
def Before (posts : List Post) : Prop :=
  posts = [] ∨ ∃ header body tokens, posts = .message header (.response 401 body) :: tokens ∧
    tokens.filterMap Post.message? = []

/-- A send whose last POST is a message, after one that was answered by 401 if there is one. -/
theorem safelyClassified_of_classified {posts : List Post} {cache : TokenCache} {header : String}
    {reply : Reply} {result : Except FeishuException FeishuSendResult}
    (h : Classified reply result) (hposts : Before posts) :
    SafelyClassified ⟨posts ++ [.message header reply], cache, result⟩ := by
  have hlast : (posts ++ [Post.message header reply]).getLast? = some (.message header reply) := by
    simp
  refine ⟨?_, h.exclusive, ?_, ?_, ?_⟩
  -- the result is that of the last message, the only one that may have been accepted
  · rcases h.total with ⟨sent, hsent, haccepts⟩ | herror
    · exact Or.inl ⟨sent, header, reply, hsent, hlast, haccepts⟩
    · exact Or.inr herror
  · intro otherHeader other hmem haccepted
    rcases List.mem_append.mp hmem with hbefore | hreply
    -- before it stands at most the message that was answered by 401
    · rcases hposts with rfl | ⟨first, body, tokens, rfl, htokens⟩
      · exact absurd hbefore List.not_mem_nil
      · rcases List.mem_cons.mp hbefore with heq | htoken
        · cases heq
          exact absurd haccepted (not_mayBeAccepted_401 body)
        · have hnone : other ∈ tokens.filterMap Post.message? :=
            List.mem_filterMap.mpr ⟨_, htoken, rfl⟩
          rw [htokens] at hnone
          exact absurd hnone List.not_mem_nil
    · rw [List.mem_singleton] at hreply
      cases hreply
      exact h.unknown haccepted
  · intro e he hretryable
    exact Or.inr ⟨header, reply, hlast, h.retryable e he hretryable⟩
  · rcases hposts with rfl | ⟨first, body, tokens, rfl, htokens⟩
    · exact Or.inl ⟨reply, rfl⟩
    · refine Or.inr ⟨body, reply, ?_⟩
      simp [List.filterMap_append, Post.message?, htokens]

theorem not_safelyClassified {posts : List Post} {cache : TokenCache} {e : FeishuException}
    (h : ∀ error, e ≠ .transport error) : ¬ SafelyClassified ⟨posts, cache, .error e⟩ := by
  intro hsafe
  rcases hsafe.total with ⟨sent, header, reply, hsent, -⟩ | ⟨error, herror⟩
  · cases hsent
  · cases herror
    exact h error rfl

/-- A send that ends with its answer is classified exactly when its code can be looked up. -/
theorem safelyClassified_iff {posts : List Post} {cache : TokenCache} {header : String}
    {reply : Reply} (hposts : Before posts) :
    SafelyClassified ⟨posts ++ [.message header reply], cache, sendResult reply⟩ ↔
      reply.messageReadable = true := by
  constructor
  · intro hsafe
    by_contra hunreadable
    rw [sendResult_not_readable (Bool.not_eq_true _ ▸ hunreadable)] at hsafe
    exact not_safelyClassified (by simp) hsafe
  · intro hreadable
    exact safelyClassified_of_classified (sendResult_classified hreadable) hposts

/-- A message that is sent without a further refresh: its header must be ASCII as well. -/
theorem sendWithoutRefresh_classified_iff {posts : List Post} {cache : TokenCache}
    {token : String} {reply : Reply} (hposts : Before posts) :
    SafelyClassified ⟨posts ++ (sendWithoutRefresh reply cache token).posts,
      (sendWithoutRefresh reply cache token).cache,
      (sendWithoutRefresh reply cache token).result⟩ ↔
        isAscii token = true ∧ reply.messageReadable = true := by
  unfold sendWithoutRefresh authorizationHeader
  by_cases hascii : isAscii token = true
  · rw [if_pos hascii]
    have hsend : SafelyClassified ⟨posts ++ [.message ("Bearer " ++ token) reply], cache,
        sendResult reply⟩ ↔ reply.messageReadable = true := safelyClassified_iff hposts
    exact hsend.trans (iff_and_self.mpr fun _ => hascii)
  · rw [if_neg hascii]
    -- the header is built before anything is posted
    exact iff_of_false (not_safelyClassified (by simp)) fun h => hascii h.1

/-- The refresh after a 401 finds the token of another send, or asks for one. -/
theorem tenantToken_of_fresh {feishu : Feishu} {token : String}
    (h : freshToken? feishu.cacheAtLock feishu.now = some token) :
    tenantToken feishu {} = ⟨[], feishu.cacheAtLock, .ok token⟩ := by
  show tenantToken.underLock feishu = _
  unfold tenantToken.underLock
  rw [h]

theorem tenantToken_of_stale {feishu : Feishu}
    (h : freshToken? feishu.cacheAtLock feishu.now = none) :
    tenantToken feishu {} = tenantToken.request feishu := by
  show tenantToken.underLock feishu = _
  unfold tenantToken.underLock
  rw [h]

/-- A refresh whose token request is turned down ends the send with a classified error. -/
theorem safelyClassified_refused {header : String} {body : Option Json} {reply : Reply}
    {cache : TokenCache} {e : FeishuTransportError} (h : e.outcomeUnknown = false) :
    SafelyClassified ⟨[.message header (.response 401 body), .token reply], cache,
      .error (.transport e)⟩ := by
  refine ⟨Or.inr ⟨e, rfl⟩, ?_, ?_, ?_, Or.inl ⟨_, rfl⟩⟩
  · rintro _ ⟨⟩
    simp [h]
  · intro otherHeader other hmem haccepted
    rcases List.mem_cons.mp hmem with heq | htoken
    · cases heq
      exact absurd haccepted (not_mayBeAccepted_401 body)
    · rw [List.mem_singleton] at htoken
      cases htoken
  · intro _ _ _
    exact Or.inl ⟨reply, rfl⟩

/-- The send after a 401 whose refresh is answered by `feishu.tokenReply`. -/
theorem refreshed_classified_iff (feishu : Feishu) (header : String) (body : Option Json) :
    (SafelyClassified <|
      match (tenantToken.request feishu).result with
      | .error e =>
          ⟨.message header (.response 401 body) :: (tenantToken.request feishu).posts,
            (tenantToken.request feishu).cache, .error e⟩
      | .ok newToken =>
          ⟨.message header (.response 401 body) :: (tenantToken.request feishu).posts ++
              (sendWithoutRefresh (feishu.messageReply 1) (tenantToken.request feishu).cache
                newToken).posts,
            (sendWithoutRefresh (feishu.messageReply 1) (tenantToken.request feishu).cache
              newToken).cache,
            (sendWithoutRefresh (feishu.messageReply 1) (tenantToken.request feishu).cache
              newToken).result⟩) ↔
      feishu.tokenReply.tokenReadable = true ∧
        ∀ granted ∈ feishu.tokenReply.granted?,
          feishu.now + granted.2 * 1000000 ≤ datetimeMax ∧ isAscii granted.1 = true ∧
            (feishu.messageReply 1).messageReadable = true := by
  unfold tenantToken.request
  cases tokenAnswer feishu.tokenReply with
  -- the token of the refresh bears the second message
  | granted token hreadable hgranted hgrant =>
    simp only [hgrant, hreadable, hgranted, Option.mem_some_iff, forall_eq', true_and]
    unfold tokenExpiry
    by_cases hrange : datetimeMax < feishu.now + token.2 * 1000000
    · -- the expiry is no date
      rw [if_pos hrange]
      exact iff_of_false (not_safelyClassified (by simp)) fun h => absurd hrange (Int.not_lt.mpr h.1)
    · rw [if_neg hrange]
      have hbefore : Before [.message header (.response 401 body), .token feishu.tokenReply] :=
        Or.inr ⟨header, body, _, rfl, rfl⟩
      have hsend := @sendWithoutRefresh_classified_iff _ ⟨some token.1,
        some (feishu.now + token.2 * 1000000)⟩ token.1 (feishu.messageReply 1) hbefore
      exact hsend.trans (iff_and_self.mpr fun _ => Int.not_lt.mp hrange)
  -- the refresh is turned down, and nothing further is sent
  | refused hreadable hgranted hrefused =>
    obtain ⟨e, hgrant, hunknown⟩ := hrefused
    simp only [hgrant, hreadable, hgranted]
    exact iff_of_true (safelyClassified_refused hunknown) (by simp)
  -- its answer cannot be read
  | unreadable hunreadable hgrant =>
    simp only [hgrant, hunreadable]
    exact iff_of_false (not_safelyClassified (by simp)) (by simp)

/-- A send that is not answered by 401, or may not refresh, makes one POST. -/
theorem sendCardWithToken_of_plain {feishu : Feishu} {allowTokenRefresh : Bool}
    (h : ¬ ((∃ body, feishu.messageReply 0 = .response 401 body) ∧ allowTokenRefresh = true))
    (cache : TokenCache) (token : String) :
    sendCardWithToken feishu cache token allowTokenRefresh =
        sendWithoutRefresh (feishu.messageReply 0) cache token ∧
      (feishu.Readable token allowTokenRefresh ↔
        isAscii token = true ∧ (feishu.messageReply 0).messageReadable = true) := by
  unfold sendCardWithToken sendWithoutRefresh Feishu.Readable
  cases hreply : feishu.messageReply 0 with
  | requestError exception => exact ⟨rfl, Iff.rfl⟩
  | response status body =>
    by_cases h401 : status = 401
    · subst h401
      cases allowTokenRefresh with
      | true => exact absurd ⟨⟨body, hreply⟩, rfl⟩ h
      | false => exact ⟨rfl, Iff.rfl⟩
    -- another status than 401 ends the send
    · refine ⟨?_, ?_⟩
      · cases authorizationHeader token with
        | error e => rfl
        | ok header =>
          simp only []
          split
          · next heq => exact absurd (Reply.response.inj heq).1 h401
          · rfl
      · split
        · next heq => exact absurd (Reply.response.inj heq).1 h401
        · exact Iff.rfl

/-- Whatever Feishu answers, the send is classified exactly when every token that it bears is
ASCII, every code that it looks up has a hash, and the expiry of a token that it is granted is a
date. -/
theorem sendCardWithToken_classified_iff (feishu : Feishu) (cache : TokenCache) (token : String)
    (allowTokenRefresh : Bool) :
    SafelyClassified (sendCardWithToken feishu cache token allowTokenRefresh) ↔
      feishu.Readable token allowTokenRefresh := by
  by_cases hrefresh : (∃ body, feishu.messageReply 0 = .response 401 body) ∧
      allowTokenRefresh = true
  · obtain ⟨⟨body, hreply⟩, rfl⟩ := hrefresh
    unfold sendCardWithToken Feishu.Readable
    rw [hreply]
    unfold authorizationHeader
    by_cases hascii : isAscii token = true
    · simp only [if_true, hascii, true_and]
      cases hfresh : freshToken? feishu.cacheAtLock feishu.now with
      | some cached =>
        -- another send has left a fresh token
        rw [tenantToken_of_fresh hfresh]
        exact sendWithoutRefresh_classified_iff (Or.inr ⟨_, body, [], rfl, rfl⟩)
      | none =>
        rw [tenantToken_of_stale hfresh]
        exact refreshed_classified_iff feishu _ body
    · rw [if_neg hascii]
      exact iff_of_false (not_safelyClassified (by simp)) fun h => hascii h.1
  · obtain ⟨hsend, hreadable⟩ := sendCardWithToken_of_plain hrefresh cache token
    rw [hsend, hreadable]
    exact @sendWithoutRefresh_classified_iff [] _ _ _ (Or.inl rfl)

/-- Feishu answers the message with success and a list under `code`. -/
def listCode : Feishu where
  messageReply := fun _ => .response 200 (some (.obj [("code", .arr [])]))
  tokenReply := .requestError "ConnectError"
  now := 0
  cacheAtLock := {}

theorem listCode_unclassified : ¬ SafelyClassified (sendCardWithToken listCode {} "t-1" true) :=
  not_safelyClassified (e := .typeError) (by simp)

/-- Feishu answers the first message by 401 and grants a token that no header bears. -/
def accentedToken : Feishu where
  messageReply := fun _ => .response 401 none
  tokenReply := .response 200 (some (.obj [("code", .int 0),
    ("tenant_access_token", .str "té"), ("expire", .int 7200)]))
  now := 0
  cacheAtLock := {}

example : ¬ SafelyClassified (sendCardWithToken accentedToken {} "t-1" true) :=
  not_safelyClassified (e := .unicodeEncodeError) (by simp)

end MacroPlatform.Delivery
