import Mathlib.Data.Nat.Log
import Mathlib.Data.Rat.Floor
import SpxSpark.Lib.Run

/-!
# CompetingSession — the conflict latch of the stream runtime

Another live session of the account takes the market data away; the broker says so with error 10197,
from a callback that may come between any two statements of the runtime.
-/

namespace SpxSpark.Ibkr

/-! ## The circuit -/

/-- The seconds of the cooldown and of the recovery window, as the overlay file gives them. -/
structure ConflictOverlay where
  recoverySeconds : ℚ
  probeSeconds : ℚ
  probeMaxSeconds : ℚ
  recovery_pos : 0 < recoverySeconds
  probe_pos : 0 < probeSeconds
  probe_le_max : probeSeconds ≤ probeMaxSeconds

structure CompetingSessionCircuit where
  overlay : ConflictOverlay
  failures : Nat := 0
  retryNotBefore : ℚ := 0
  recoveryStartedAt : Option ℚ := none

inductive CircuitState
  | closed
  | opened
  | recovering
  | halfOpen
  deriving DecidableEq

namespace CompetingSessionCircuit

/-- The exponential cooldown of the next attempt, and the circuit with one more failure. -/
def openCircuit (circuit : CompetingSessionCircuit) (now : ℚ) : ℚ × CompetingSessionCircuit :=
  let maxDoublings :=
    Nat.clog 2 ⌈circuit.overlay.probeMaxSeconds / circuit.overlay.probeSeconds⌉₊
  let exponent := min circuit.failures maxDoublings
  let delay := min (circuit.overlay.probeSeconds * 2 ^ exponent) circuit.overlay.probeMaxSeconds
  (delay, { circuit with
    failures := circuit.failures + 1
    retryNotBefore := now + delay
    recoveryStartedAt := none })

def close (circuit : CompetingSessionCircuit) : CompetingSessionCircuit :=
  { circuit with failures := 0, retryNotBefore := 0, recoveryStartedAt := none }

/-- Whether this observation closes the circuit, and the circuit afterwards. -/
def observeHealthy (circuit : CompetingSessionCircuit) (now : ℚ) :
    Bool × CompetingSessionCircuit :=
  if circuit.failures = 0 then (false, circuit)
  else
    match circuit.recoveryStartedAt with
    | none => (false, { circuit with recoveryStartedAt := some now })
    | some started =>
      if now - started < circuit.overlay.recoverySeconds then (false, circuit)
      else (true, circuit.close)

def interruptRecovery (circuit : CompetingSessionCircuit) : CompetingSessionCircuit :=
  { circuit with recoveryStartedAt := none }

def remainingSeconds (circuit : CompetingSessionCircuit) (now : ℚ) : ℚ :=
  max (circuit.retryNotBefore - now) 0

def state (circuit : CompetingSessionCircuit) (now : ℚ) : CircuitState :=
  if circuit.failures = 0 then .closed
  else if 0 < circuit.remainingSeconds now then .opened
  else if circuit.recoveryStartedAt.isSome then .recovering
  else .halfOpen

end CompetingSessionCircuit

/-! ## Broker errors -/

inductive Lane
  | base
  | hot
  | rotation
  | pinned
  | spy
  | slow
  deriving DecidableEq

structure IbkrError where
  reqId : Int
  errorCode : Nat
  subscriptionLane : Option Lane

def maxTrackedErrors : Nat := 200

def subscriptionRejectionCodes : List Nat := [100, 101, 200, 354, 420, 10197]

def twsConnectivityLostCodes : List Nat := [1100, 2110]

def twsConnectivityRestoredCodes : List Nat := [1101, 1102]

/-- An error that takes the conflict path. -/
def IbkrError.isCompeting (error : IbkrError) : Bool :=
  error.errorCode = 10197 && error.subscriptionLane ≠ some .rotation

def hasCompetingSessionError (errors : List IbkrError) : Bool := errors.any (·.isCompeting)

/-- The error behind the tracked ones, of which the last two hundred are kept. -/
def trackError (errors : List IbkrError) (error : IbkrError) : List IbkrError :=
  let tracked := errors ++ [error]
  tracked.drop (tracked.length - maxTrackedErrors)

/-- What the collector knows of a request when an error of it comes in: its lane, the lane it once
had, the lane of the request being made, and whether it has a row. -/
structure RequestLookup where
  lane : Option Lane
  history : Option Lane
  requestLane : Option Lane
  hasRow : Bool

structure BrokerError where
  reqId : Int
  errorCode : Nat
  lookup : RequestLookup

def BrokerError.tracked (error : BrokerError) : IbkrError where
  reqId := error.reqId
  errorCode := error.errorCode
  subscriptionLane :=
    (error.lookup.lane.or error.lookup.history).or
      (if 0 ≤ error.reqId then error.lookup.requestLane else none)

/-! ## The runtime -/

/-- Where the main thread is: outside a session, setting one up, in the standby loop, waiting for
the next flush, with the drained errors in hand before the health check and before the decision,
about to publish a flush, in the exception handler, or about to tear down. -/
inductive Phase
  | outer
  | setup
  | standby
  | session
  | drained (competing : Bool)
  | deciding (competing : Bool)
  | publishing (dataPlaneHealthy : Bool) (reason : String)
  | failing
  | ending
  deriving DecidableEq

structure StreamState where
  phase : Phase := .outer
  now : ℚ := 0
  circuit : CompetingSessionCircuit
  competingHealthLatchedSequence : Option Nat := none
  errors : List IbkrError := []
  subscriptionHealthFailed : Bool := false
  twsConnectivityLost : Bool := false
  subscriptionsLost : Bool := false
  connected : Bool := false

/-- What the health file says. -/
structure HealthProjection where
  dataPlaneHealthy : Bool
  policyBlocked : Bool
  reason : String
  connected : Bool
  circuitState : CircuitState
  conflictCount : Nat
  retryInSeconds : Option ℚ

/-- The projection as it is written: the latch wins over what the caller says, and over a closed
circuit. -/
def persistHealthLocked (s : StreamState) (dataPlaneHealthy policyBlocked : Bool) (reason : String)
    (retryInSeconds : Option ℚ) : HealthProjection :=
  let circuitState := s.circuit.state s.now
  if s.competingHealthLatchedSequence.isSome then {
    dataPlaneHealthy := false
    policyBlocked := true
    reason := "competing live session callback latched (IBKR 10197)"
    connected := s.connected
    circuitState := if circuitState = .closed then .opened else circuitState
    conflictCount := max s.circuit.failures 1
    retryInSeconds }
  else if circuitState = .opened then {
    dataPlaneHealthy
    policyBlocked := true
    reason := "competing live session cooldown (IBKR 10197)"
    connected := s.connected
    circuitState
    conflictCount := s.circuit.failures
    retryInSeconds := some (s.circuit.remainingSeconds s.now) }
  else {
    dataPlaneHealthy
    policyBlocked
    reason
    connected := s.connected
    circuitState
    conflictCount := s.circuit.failures
    retryInSeconds }

variable (dataRoot : Bool)

/-- Nothing is published without a data root. -/
def publishHealth (s : StreamState) (dataPlaneHealthy policyBlocked : Bool) (reason : String)
    (retryInSeconds : Option ℚ) : List HealthProjection :=
  if dataRoot then [persistHealthLocked s dataPlaneHealthy policyBlocked reason retryInSeconds]
  else []

/-- An unhealthy projection. -/
def publishDown (s : StreamState) (policyBlocked : Bool) (reason : String) :
    List HealthProjection :=
  publishHealth dataRoot s false policyBlocked reason none

def invalidateCompetingSessionHealth (s : StreamState) : List HealthProjection × StreamState :=
  let latched := { s with
    competingHealthLatchedSequence := some (s.competingHealthLatchedSequence.getD 0 + 1) }
  (publishDown dataRoot latched true "competing session callback (IBKR 10197)", latched)

/-- The flags a broker error changes before the conflict is looked at. -/
def observeConnectivity (s : StreamState) (errorCode : Nat) : StreamState :=
  if errorCode ∈ twsConnectivityLostCodes then { s with twsConnectivityLost := true }
  else if errorCode ∈ twsConnectivityRestoredCodes then
    if errorCode = 1101 then { s with
      twsConnectivityLost := false
      subscriptionsLost := true
      subscriptionHealthFailed := true }
    else { s with twsConnectivityLost := false }
  else s

/-- A rejection of a row in a lane that the session depends on, or of no request at all. -/
def BrokerError.failsHealth (error : BrokerError) : Bool :=
  subscriptionRejectionCodes.contains error.errorCode &&
    if error.lookup.hasRow then
      error.lookup.lane = some .base || error.lookup.lane = some .hot ||
        error.lookup.lane = some .pinned
    else decide (error.reqId < 0)

/-- The error callback. A conflict of the rotation lane stays with that lane; any other latches. -/
def onError (s : StreamState) (error : BrokerError) : List HealthProjection × StreamState :=
  let tracked := error.tracked
  let s := observeConnectivity { s with errors := trackError s.errors tracked } error.errorCode
  let outcome :=
    if tracked.isCompeting then
      invalidateCompetingSessionHealth dataRoot { s with subscriptionHealthFailed := true }
    else ([], s)
  (outcome.1, { outcome.2 with
    subscriptionHealthFailed := outcome.2.subscriptionHealthFailed || error.failsHealth })

/-- The latch falls once the circuit is closed and no subscription failure is flagged. -/
def clearCompetingSessionHealthLatch (s : StreamState) : StreamState :=
  if s.circuit.failures = 0 ∧ s.subscriptionHealthFailed = false then
    { s with competingHealthLatchedSequence := none }
  else s

/-- The circuit opens and the session ends. -/
def deferCompetingSession (s : StreamState) : List HealthProjection × StreamState :=
  let opened := s.circuit.openCircuit s.now
  let s := { s with circuit := opened.2, phase := .ending }
  (publishHealth dataRoot s false true
    "competing session blocks live market data (IBKR 10197)" (some opened.1), s)

structure FlushEvent where
  dataPlaneHealthy : Bool
  freshSpxwQuotes : Nat
  reason : String

def FlushEvent.publishedReason (event : FlushEvent) : String :=
  if event.dataPlaneHealthy then "healthy market-data flush" else event.reason

inductive StreamAction
  | continue_
  | reconnect
  | conflictWait
  | policyBlocked
  | gatewayRestart
  deriving DecidableEq

def decideAfterFlush (connected allowed competingSession gatewayRestart : Bool) : StreamAction :=
  if competingSession then .conflictWait
  else if gatewayRestart then .gatewayRestart
  else if !connected then .reconnect
  else if !allowed then .policyBlocked
  else .continue_

/-- The gateway is not restarted while the circuit has failures. -/
def shouldRestartGateway (s : StreamState) (wanted : Bool) : Bool :=
  s.circuit.failures = 0 && wanted

/-- A flush of a session that goes on: fresh quotes count for the recovery, and a recovered circuit
releases the latch. -/
def continueFlush (s : StreamState) (event : FlushEvent) : StreamState :=
  let phase := Phase.publishing event.dataPlaneHealthy event.publishedReason
  if 0 < event.freshSpxwQuotes then
    let observed := s.circuit.observeHealthy s.now
    let s := { s with circuit := observed.2, phase }
    if observed.1 then clearCompetingSessionHealthLatch s else s
  else { s with circuit := s.circuit.interruptRecovery, phase }

def teardown (s : StreamState) : StreamState :=
  { s with
    errors := []
    subscriptionHealthFailed := false
    twsConnectivityLost := false
    subscriptionsLost := false
    connected := false }

/-- The next statement of the main thread that matters here, with what it is told. -/
inductive Move
  | blocked (retryInSeconds : Option ℚ)
  | connectFailed (retryInSeconds : ℚ)
  | backoff (retryInSeconds : ℚ)
  | connect
  | standbyConnected
  | sessionReady (probeOk : Bool)
  | raise
  | expire
  | standbyTick (policyBlocked : Bool)
  | standbyEnd (policyBlocked : Bool) (reason : String)
  | waitFailed
  | drain
  | checkHealth
  | decide (allowed gatewayWanted : Bool) (event : FlushEvent)
  | publish (rollover : Bool)
  | handle
  | teardown (again : Bool)

inductive RuntimeEvent
  | callback (error : BrokerError)
  | elapse (seconds : ℚ≥0)
  | overlay (overlay : ConflictOverlay)
  | disconnect
  | lifecycleFailed (lost : Bool)
  | main (move : Move)

/-- The main thread; a move that does not belong to the phase does nothing. -/
def mainStep (s : StreamState) (move : Move) : List HealthProjection × StreamState :=
  match s.phase, move with
  | .outer, .blocked retry =>
    (publishHealth dataRoot s false true "runtime policy blocks IBKR collection" retry, s)
  | .outer, .connectFailed retry =>
    (publishHealth dataRoot s false false "connect failed" (some retry), s)
  | .outer, .backoff retry =>
    (publishHealth dataRoot s false false "session reconnect backoff" (some retry), s)
  | .outer, .connect =>
    let s := { s with phase := .setup, connected := true }
    (publishDown dataRoot s false "connected; awaiting first healthy data flush", s)
  | .setup, .standbyConnected =>
    (publishDown dataRoot s true "account standby connected; market data inactive",
      { s with phase := .standby })
  | .setup, .sessionReady probeOk =>
    (if probeOk then [] else publishDown dataRoot s false "data-plane probe failed",
      { s with phase := .session })
  | .setup, .raise | .standby, .raise | .session, .raise => ([], { s with phase := .failing })
  | .drained _, .raise | .deciding _, .raise | .publishing _ _, .raise =>
    ([], { s with phase := .failing })
  | .standby, .expire | .session, .expire => ([], { s with phase := .ending })
  | .standby, .standbyTick policyBlocked =>
    (publishDown dataRoot s policyBlocked "account standby; market data inactive", s)
  | .standby, .standbyEnd policyBlocked reason =>
    (publishDown dataRoot s policyBlocked reason, { s with phase := .ending })
  | .session, .waitFailed =>
    (if s.subscriptionHealthFailed then
      publishDown dataRoot s false "subscription health failed; awaiting error classification"
    else [], s)
  | .session, .drain =>
    ([], { s with errors := [], phase := .drained (hasCompetingSessionError s.errors) })
  | .drained competing, .checkHealth =>
    if s.subscriptionHealthFailed && !competing then
      (publishDown dataRoot s false "IBKR subscription lifecycle failed; reconnecting",
        { s with phase := .ending })
    else ([], { s with phase := .deciding competing })
  | .deciding competing, .decide allowed gatewayWanted event =>
    match decideAfterFlush s.connected allowed competing
      (shouldRestartGateway s gatewayWanted) with
    | .conflictWait => deferCompetingSession dataRoot s
    | .gatewayRestart =>
      (publishDown dataRoot s false "IBKR data farms broken; restarting gateway",
        { s with phase := .ending })
    | .reconnect =>
      (publishDown dataRoot s false "IBKR disconnected mid-session",
        { s with phase := .ending })
    | .policyBlocked =>
      (publishDown dataRoot s true "runtime policy blocked market data mid-session",
        { s with phase := .ending })
    | .continue_ => ([], continueFlush s event)
  | .publishing healthy reason, .publish rollover =>
    let written := publishHealth dataRoot s healthy false reason none
    if rollover then
      (written ++ publishDown dataRoot s false
        "futures rollover; awaiting new-contract fresh flush", { s with phase := .ending })
    else (written, { s with phase := .session })
  | .failing, .handle =>
    let competing := hasCompetingSessionError s.errors
    let s := { s with errors := [], phase := .ending }
    if competing then deferCompetingSession dataRoot s
    else (publishDown dataRoot s false "session failed", s)
  | .ending, .teardown again =>
    let s := teardown { s with circuit := s.circuit.interruptRecovery }
    ([], if again then s else { s with phase := .outer })
  | _, _ => ([], s)

def runtimeStep (s : StreamState) (event : RuntimeEvent) : List HealthProjection × StreamState :=
  match event with
  | .callback error => onError dataRoot s error
  | .elapse seconds => ([], { s with now := s.now + seconds })
  | .overlay overlay => ([], { s with circuit := { s.circuit with overlay } })
  | .disconnect => ([], { s with connected := false })
  | .lifecycleFailed lost => ([], { s with
      subscriptionHealthFailed := true
      subscriptionsLost := s.subscriptionsLost || lost })
  | .main move => mainStep dataRoot s move

end SpxSpark.Ibkr
