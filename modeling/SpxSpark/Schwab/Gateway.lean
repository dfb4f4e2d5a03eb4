import Mathlib.Data.List.Infix
import Mathlib.Tactic.NormNum
import SpxSpark.Lib.FloatRange

/-!
# Gateway — one market-data request with its retries

A request makes one attempt after another until an attempt ends it: a response, or one of the two
gateway errors.
-/

namespace SpxSpark.Schwab

open Lib

/-! ## Inputs -/

def allowedMarketDataPaths : List String :=
  ["/marketdata/v1/quotes", "/marketdata/v1/chains", "/marketdata/v1/pricehistory"]

/-- A request policy that its validator accepts. -/
structure SchwabRequestPolicy where
  requestsPerMinute : ℕ := 120
  maxRetries : ℕ := 3
  retryBaseSeconds : ℚ := 1 / 2
  retryMaxSeconds : ℚ := 8
  retryAfterMaxSeconds : ℚ := 30
  requests_pos : 0 < requestsPerMinute := by decide
  base_nonneg : 0 ≤ retryBaseSeconds := by decide +kernel
  base_le_max : retryBaseSeconds ≤ retryMaxSeconds := by decide +kernel
  after_nonneg : 0 ≤ retryAfterMaxSeconds := by decide +kernel

abbrev Client := ℕ

structure GatewayResponse where
  status : ℤ
  contentType : String
  body : List UInt8
  deriving DecidableEq

/-- An exception of the HTTP session: the name and module of its class, and whether the class is
one of the transient network failures. -/
structure SessionException where
  typeName : String
  module : String
  transient : Bool

/-- How an attempt comes out. The `retry-after` header is parsed twice, and a date in it is read
against the clock each time. -/
inductive Outcome
  | response (response : GatewayResponse) (retryAfter retryAfterAgain : Option ℚ≥0)
  | exception (exc : SessionException)

inductive LoadResult
  | loaded (client : Client)
  | tokenMissing
  | tokenLoadFailed

/-- One attempt as the outside plays it: its outcome, what reloading the token file would find
after it, the clocks, and how much longer than asked each sleep takes. -/
structure Attempt where
  outcome : Outcome
  reload : LoadResult := .tokenMissing
  jitter : Jitter
  beforeAcquire : ℚ≥0 := 0
  oversleep : ℚ≥0 := 0
  beforeStart : ℚ≥0 := 0
  duration : ℚ≥0 := 0
  backoffOversleep : ℚ≥0 := 0
  attemptedAt : ℚ := 0
  completedAt : ℚ := 0
  recordedAt : ℚ := 0
  finishedAt : ℚ := 0

/-! ## The manager -/

structure SchwabRequestObservation where
  path : String
  attemptedAtEpoch : ℚ
  completedAtEpoch : ℚ
  retryIndex : ℕ
  statusCode : Option ℤ
  responseBytes : ℕ
  latencyMs : ℚ
  retryAfterSeconds : Option ℚ≥0
  outcome : String

/-- When the limiter let an attempt through, and when it started, on the monotonic clock. -/
structure Release where
  index : ℕ
  releasedAt : ℚ
  startedAt : ℚ

/-- The session manager, with the monotonic clock, the attempts made and the observations recorded
so far. `observations` is what is left of the recorded ones after a minute. -/
structure Manager where
  client : Option Client := none
  reauthRequired : Bool := false
  lastSuccessAt : Option ℚ := none
  lastError : Option String := none
  observations : List SchwabRequestObservation := []
  nextAllowedAt : Option ℚ := none
  now : ℚ := 0
  released : List Release := []
  recorded : List SchwabRequestObservation := []

/-- How a request ends: the last three are neither a response nor a gateway error. -/
inductive Answer
  | response (response : GatewayResponse)
  | unavailable (message : String)
  | requestError (kind : String)
  | valueError (message : String)
  | overflowError (error : OverflowError)
  | assertionError (message : String)
  deriving DecidableEq

/-- A response, or one of the two declared gateway errors. -/
def Answer.Declared : Answer → Prop
  | .response _ | .unavailable _ | .requestError _ => True
  | .valueError _ | .overflowError _ | .assertionError _ => False

namespace Manager

def dropClient (m : Manager) : Manager := { m with client := none }

/-- `if self._client is client: self._drop_client()`. -/
def dropIfCurrent (m : Manager) (client : Client) : Manager :=
  if m.client = some client then m.dropClient else m

theorem dropIfCurrent_kept (m : Manager) (client : Client) :
    (m.dropIfCurrent client).released = m.released ∧
      (m.dropIfCurrent client).recorded = m.recorded ∧
      (m.dropIfCurrent client).nextAllowedAt = m.nextAllowedAt := by
  unfold dropIfCurrent
  split <;> exact ⟨rfl, rfl, rfl⟩

/-- `load`, given what it finds. -/
def load (m : Manager) : LoadResult → Bool × Manager
  | .loaded client =>
    (true, { m with client := some client, reauthRequired := false, lastError := none })
  | .tokenMissing =>
    (false, { m with client := none, reauthRequired := true, lastError := some "token_missing" })
  | .tokenLoadFailed =>
    (false,
      { m with client := none, reauthRequired := true, lastError := some "token_load_failed" })

/-- Reload the token-file client after an OAuth exception. -/
def reloadOauthClient (m : Manager) (found : LoadResult) (failedClient : Client) :
    Option Client × Manager :=
  if m.reauthRequired then (none, m)
  else
    let loaded := (m.dropIfCurrent failedClient).load found
    if loaded.1 then (loaded.2.client, loaded.2) else (none, loaded.2)

def recordObservation (m : Manager) (at' : ℚ) (observation : SchwabRequestObservation) : Manager :=
  { m with
    recorded := m.recorded ++ [observation]
    observations :=
      (m.observations ++ [observation]).filter fun item => at' - 60 ≤ item.attemptedAtEpoch }

/-- Seconds between requests. -/
def interval (policy : SchwabRequestPolicy) : ℚ := 60 / policy.requestsPerMinute

/-- The limiter lets an attempt through at the reading it returns. -/
def acquire (policy : SchwabRequestPolicy) (a : Attempt) (m : Manager) : ℚ × Manager :=
  let now := m.now + a.beforeAcquire
  match m.nextAllowedAt with
  | none => (now, { m with now := now, nextAllowedAt := some (now + interval policy) })
  | some allowed =>
    let delay := allowed - now
    let now := if 0 < delay then now + delay + a.oversleep else now
    (now, { m with now := now, nextAllowedAt := some (max now allowed + interval policy) })

def sleep (m : Manager) (seconds : ℚ) (longer : ℚ≥0) : Manager :=
  { m with now := m.now + seconds + longer }

end Manager

/-! ## Retries -/

section Request

variable (lower : String → String) (policy : SchwabRequestPolicy)

/-- `min(retry_max, retry_jitter(retry_base * 2**retry_index))`. -/
def backoffSeconds (jitter : Jitter) (retryIndex : ℕ) : Except OverflowError ℚ :=
  (timesInt policy.retryBaseSeconds (2 ^ retryIndex)).map fun grown =>
    min policy.retryMaxSeconds (grown * jitter.factor)

/-- `lower` is `str.lower`. -/
def isOauthFailure (exc : SessionException) : Bool :=
  "authlib.".toList.isPrefixOf (lower exc.module).toList ||
    decide ("oauth".toList <:+: (lower exc.typeName).toList) ||
    decide ("token".toList <:+: (lower exc.typeName).toList)

def isRetryableStatus (status : ℤ) : Bool := status = 429 ∨ (500 ≤ status ∧ status < 600)

def canRetry (retryIndex : ℕ) : Bool := retryIndex < policy.maxRetries

/-- The delay before a status is retried; none when the server asks for too long a wait. -/
def retryDelay (a : Attempt) (retryAfter : Option ℚ≥0) (retryIndex : ℕ) :
    Except OverflowError (Option ℚ) :=
  (backoffSeconds policy a.jitter retryIndex).map fun backoff =>
    match retryAfter with
    | none => some backoff
    | some seconds =>
      if policy.retryAfterMaxSeconds < seconds then none else some (max backoff seconds)

/-- What an attempt leads to. -/
inductive Next
  | ended (answer : Answer) (m : Manager)
  | again (client : Client) (oauthReloaded : Bool) (m : Manager)

/-- The limiter, the start, and the clock at the end of the call. -/
def begin (a : Attempt) (retryIndex : ℕ) (m : Manager) : ℚ × Manager :=
  let acquired := m.acquire policy a
  let started := acquired.2.now + a.beforeStart
  (started,
    { acquired.2 with
      now := started + a.duration
      released := m.released ++ [⟨retryIndex, acquired.1, started⟩] })

def latencyMs (m : Manager) (started : ℚ) : ℚ := max ((m.now - started) * 1000) 0

def failed (path : String) (a : Attempt) (exc : SessionException) (retryIndex : ℕ)
    (client : Client) (oauthReloaded : Bool) (started : ℚ) (m : Manager) : Next :=
  let m := m.recordObservation a.recordedAt
    { path
      attemptedAtEpoch := a.attemptedAt
      completedAtEpoch := a.completedAt
      retryIndex
      statusCode := none
      responseBytes := 0
      latencyMs := latencyMs m started
      retryAfterSeconds := none
      outcome := exc.typeName }
  let m := { m with lastError := some exc.typeName }
  if isOauthFailure lower exc then
    if oauthReloaded then
      .ended (.requestError exc.typeName) { m.dropIfCurrent client with reauthRequired := true }
    else
      let recovered := m.reloadOauthClient a.reload client
      match recovered.1 with
      | some client => .again client true recovered.2
      | none => .ended (.requestError exc.typeName) recovered.2
  else if exc.transient && canRetry policy retryIndex then
    match backoffSeconds policy a.jitter retryIndex with
    | .error e => .ended (.overflowError e) m
    | .ok seconds => .again client oauthReloaded (m.sleep seconds a.backoffOversleep)
  else .ended (.requestError exc.typeName) m

/-- The attempt got a response that is not retried. -/
def finish (a : Attempt) (response : GatewayResponse) (m : Manager) : Next :=
  .ended (.response response)
    (if 200 ≤ response.status ∧ response.status < 300 then
      { m with lastSuccessAt := some a.finishedAt, lastError := none }
    else { m with lastError := some ("http_" ++ toString response.status) })

def answered (path : String) (a : Attempt) (response : GatewayResponse)
    (retryAfter retryAfterAgain : Option ℚ≥0) (retryIndex : ℕ) (client : Client)
    (oauthReloaded : Bool) (started : ℚ) (m : Manager) : Next :=
  let status := response.status
  let m := m.recordObservation a.recordedAt
    { path
      attemptedAtEpoch := a.attemptedAt
      completedAtEpoch := a.completedAt
      retryIndex
      statusCode := some status
      responseBytes := response.body.length
      latencyMs := latencyMs m started
      retryAfterSeconds := retryAfter
      outcome := if 200 ≤ status ∧ status < 300 then "ok" else "http_" ++ toString status }
  if status = 401 then
    .ended (.response response)
      { m.dropIfCurrent client with reauthRequired := true, lastError := some "http_401" }
  else if isRetryableStatus status && canRetry policy retryIndex then
    let m := { m with lastError := some ("http_" ++ toString status) }
    match retryDelay policy a retryAfterAgain retryIndex with
    | .error e => .ended (.overflowError e) m
    | .ok (some seconds) => .again client oauthReloaded (m.sleep seconds a.backoffOversleep)
    | .ok none => finish a response m
  else finish a response m

def attempt (path : String) (a : Attempt) (retryIndex : ℕ) (client : Client)
    (oauthReloaded : Bool) (m : Manager) : Next :=
  let begun := begin policy a retryIndex m
  match a.outcome with
  | .exception exc =>
    failed lower policy path a exc retryIndex client oauthReloaded begun.1 begun.2
  | .response response retryAfter retryAfterAgain =>
    answered policy path a response retryAfter retryAfterAgain retryIndex client oauthReloaded
      begun.1 begun.2

/-- `for retry_index in range(max_retries + 1)`, with the attempts that are left. -/
def retryLoop (path : String) (script : ℕ → Attempt) :
    ℕ → ℕ → Client → Bool → Manager → Answer × Manager
  | 0, _, _, _, m =>
    (.assertionError "Schwab retry loop exhausted without a response", m)
  | remaining + 1, retryIndex, client, oauthReloaded, m =>
    match attempt lower policy path (script retryIndex) retryIndex client oauthReloaded m with
    | .ended answer m => (answer, m)
    | .again client oauthReloaded m =>
      retryLoop path script remaining (retryIndex + 1) client oauthReloaded m

/-- `entryLoad` is what loading the token file at the start would find. -/
def request (path : String) (entryLoad : LoadResult) (script : ℕ → Attempt) (m : Manager) :
    Answer × Manager :=
  if path ∉ allowedMarketDataPaths then
    (.valueError ("Unsupported Schwab market-data path: " ++ path), m)
  else if m.reauthRequired then
    (.unavailable "Schwab reauthorization is required; run spx-spark-schwab-oauth authorize", m)
  else
    match m.client with
    | some client => retryLoop lower policy path script (policy.maxRetries + 1) 0 client false m
    | none =>
      let loaded := m.load entryLoad
      if loaded.1 then
        match loaded.2.client with
        | some client =>
          retryLoop lower policy path script (policy.maxRetries + 1) 0 client false loaded.2
        | none => (.unavailable "Schwab authorization client is unavailable", loaded.2)
      else
        (.unavailable "Schwab authorization is not ready; run spx-spark-schwab-oauth authorize",
          loaded.2)

end Request

end SpxSpark.Schwab
