import SpxSpark.Bridge.State
import SpxSpark.Lib.Effect
import SpxSpark.Lib.Slot

/-!
# Runtime — one bridge process, tick by tick

A process works on its own copy of the state and writes the file through `persist`; every write and
every send asks the environment what happens, and the environment may also kill the process in the
middle of the call.
-/

namespace SpxSpark.Bridge

open Std Domain Lib SpxSpark.Core

/-- The bridge's hashes: `semantic_hash` of a batch and `failure_fingerprint` of a reason. -/
class BridgeHash where
  semanticHash : QuoteBatchV1 → Sha256Hex
  failureFingerprint : String → Sha256Hex

inductive RuntimeError
  | state (error : StateError)
  | map (error : DomainError)
  | futureSnapshot
  | permanentRejection (reason : CoreAckReason)
  | rejectionLimit
  | staleCursor
  | sourceTimeRegression
  | envelope (error : DomainError)
  | localIngress

/-- Why a process ends: it was killed, or it halts with an error. -/
inductive Halt
  | killed
  | error (e : RuntimeError)

/-- What one call into the file system or the socket comes to. An `effective` failure had its effect
before it was reported. -/
inductive Answer
  | done
  | failed (effective : Bool)
  | tooLarge
  | replied (ack : CoreAckV1)
  | killed (effective : Bool)

inductive SendDisposition
  | acknowledged
  | reconnect
  deriving DecidableEq

/-! ## What a process reads -/

/-- The source's data on one provider: `map_provider_state` without its cursor, and the mapped
quotes. -/
structure MappedProvider where
  snapshotAt : DateTime
  providerState : ProviderStateV1
  quotes : List QuoteV1

/-- A source document as the bridge reads it. -/
structure SourceDocument where
  fingerprint : String
  sourceAt : Except String DateTime
  sourceEpoch : Provider → Option String
  mapped : Provider → Except DomainError MappedProvider
  ibkrHealth : Bool

/-- What the lanes that do not touch the state do to the connection. -/
inductive LaneOutcome
  | quiet
  | disconnected
  | halted (error : RuntimeError)

/-- What one tick finds: the source, the clock as it is read for the tick and for each provider's
frame, whether a connection succeeds, and the other lanes. -/
structure TickInput where
  source : Except String SourceDocument
  now : DateTime
  clock : Provider → DateTime
  connects : Bool
  otherLanes : LaneOutcome

variable {R M F : Type}

/-- A running process with the file and the socket it works on. -/
structure Machine (R M F : Type) where
  state : BridgeState R M F
  connected : Bool
  needsResync : Bool
  maxRejectedAttempts : Nat
  disk : BridgeState R M F
  log : List (SlotEvent (IngressEnvelopeV1 R M F))
  answers : List Answer

abbrev BridgeM (R M F : Type) := Effect (Machine R M F) Halt

/-! ## Calls that can fail -/

/-- The next answer of the environment; a process is killed when there is none. -/
def nextAnswer : BridgeM R M F Answer := do
  let m ← get
  match m.answers with
  | [] => throw .killed
  | answer :: rest => do
      modify fun m => { m with answers := rest }
      pure answer

def liftState {α : Type} (x : Except StateError α) : BridgeM R M F α :=
  match x with
  | .ok a => pure a
  | .error e => throw (.error (.state e))

variable [DecidableEq R] [DecidableEq M] [DecidableEq F]

/-- What replacing the file does to the slot. -/
def slotEvents (old new : BridgeState R M F) : List (SlotEvent (IngressEnvelopeV1 R M F)) :=
  match old.pending, new.pending with
  | none, none => []
  | none, some frame => [.filled frame.envelope]
  | some frame, none => [.cleared frame.envelope]
  | some frame, some frame' =>
    if frame.envelope = frame'.envelope then [] else [.filled frame'.envelope]

/-- The rename that puts a new state in place. -/
def commitState (s : BridgeState R M F) (m : Machine R M F) : Machine R M F :=
  { m with disk := s, log := m.log ++ slotEvents m.disk s }

variable [ResearchPayload R] [DeskMapPayload M] [ForecastPayload F]

/-- `BridgeState::persist`. -/
def persist (s : BridgeState R M F) : BridgeM R M F Unit := do
  liftState s.validate
  match ← nextAnswer with
  | .done => modify (commitState s)
  | .failed effective => do
      if effective then modify (commitState s) else pure ()
      throw (.error (.state .io))
  | .killed effective => do
      if effective then modify (commitState s) else pure ()
      throw .killed
  | .tooLarge | .replied _ => throw .killed

/-- The bytes of a frame reach the core. -/
def deliver (e : IngressEnvelopeV1 R M F) (m : Machine R M F) : Machine R M F :=
  { m with log := m.log ++ [.used e] }

def takes (ack : CoreAckV1) : Bool :=
  ack.status = .accepted ∧ ack.disposition ≠ some .staleBatch

/-- An acknowledgement arrives. -/
def recordAck (e : IngressEnvelopeV1 R M F) (ack : CoreAckV1) (m : Machine R M F) :
    Machine R M F :=
  if takes ack then { m with log := m.log ++ [.released e] } else m

/-- `CoreClient::send`: the acknowledgement, or nothing when the outcome is unknown. -/
def clientSend (e : IngressEnvelopeV1 R M F) : BridgeM R M F (Option CoreAckV1) := do
  match e.validate with
  | .error _ => throw (.error .localIngress)
  | .ok () => do
      match ← nextAnswer with
      | .tooLarge => throw (.error .localIngress)
      | .done => do
          modify (deliver e)
          pure none
      | .failed effective => do
          if effective then modify (deliver e) else pure ()
          pure none
      | .killed effective => do
          if effective then modify (deliver e) else pure ()
          throw .killed
      | .replied ack => do
          modify (deliver e)
          let matching := ack.messageId = some e.messageId ∨
            (ack.status = .rejected ∧ ack.messageId = none)
          if ack.validate.isOk ∧ matching ∧
              (ack.status = .accepted → quoteDispositionMatches ack.disposition) then do
            modify (recordAck e ack)
            pure (some ack)
          else pure none

/-! ## The runtime -/

def disconnect : BridgeM R M F Unit :=
  modify fun m => { m with connected := false, needsResync := true }

/-- `BridgeRuntime::connect`, when the socket accepts. -/
def connect : BridgeM R M F Unit := do
  let m ← get
  let (changed, state) := m.state.resetSourceFailureProgress
  modify fun m => { m with state }
  if changed then persist state else pure ()
  modify fun m => { m with connected := true, needsResync := true }

/-- What `send_pending` makes of an acknowledgement. -/
def handleAck (now : DateTime) (ack : CoreAckV1) : BridgeM R M F SendDisposition := do
  let m ← get
  match ack.status, ack.reasonCode with
  | .accepted, _ =>
    if ack.disposition = some .staleBatch then throw (.error .staleCursor)
    else do
      let state ← liftState (m.state.acknowledge ((ack.messageId.map (·.value)).getD "") now)
      modify fun m => { m with state }
      persist state
      pure .acknowledged
  | .rejected, .processingRejected => do
      let (attempts, state) ← liftState m.state.recordRejection
      modify fun m => { m with state }
      persist state
      if m.maxRejectedAttempts ≤ attempts then throw (.error .rejectionLimit)
      else pure .reconnect
  | .rejected, .serverBusy => pure .reconnect
  | .rejected, reason => throw (.error (.permanentRejection reason))

def sendPending (now : DateTime) : BridgeM R M F SendDisposition := do
  let m ← get
  match m.state.pending with
  | none => throw (.error (.state .noPending))
  | some pending =>
    if m.connected then do
      match ← clientSend pending.envelope with
      | none => pure .reconnect
      | some ack => handleAck now ack
    else pure .reconnect

/-- `provider_name`. -/
def providerName : Provider → String
  | .schwab => "schwab"
  | .ibkr => "ibkr"

/-- `&fingerprint[..fingerprint.len().min(n)]`; fingerprints are ASCII. -/
def fingerprintPrefix (fingerprint : String) (n : Nat) : String :=
  String.ofList (fingerprint.toList.take n)

/-- `format!("mirror:{provider_name}:{generation}:{sequence}:{tail}")`. -/
def mirrorId (provider : Provider) (generation sequence : Nat) (tail : String) : String :=
  "mirror:" ++ providerName provider ++ ":" ++ toString generation ++ ":" ++ toString sequence ++
    ":" ++ tail

/-- `map_provider_batch`, from the quotes it mapped. -/
def mapProviderBatch (source : MappedProvider) (provider : Provider) (generation sequence : Nat)
    (fingerprint : String) (emittedAt : DateTime) : Except RuntimeError QuoteBatchV1 := do
  require (source.snapshotAt ≤ emittedAt) .futureSnapshot
  let providerState :=
    { source.providerState with provider := provider, connectionGeneration := generation }
  providerState.validate.mapError .map
  let quotes := if providerState.isLive then source.quotes else []
  let receivedAt := (quotes.flatMap (·.sides)).foldl (fun t side => max t side.receivedAt)
    (max source.snapshotAt providerState.observedAt)
  let batchId ←
    (Token.new (mirrorId provider generation sequence (fingerprintPrefix fingerprint 24))
      "batch_id").mapError .map
  let batch : QuoteBatchV1 :=
    { schemaVersion := quoteBatchSchemaVersion
      batchId, provider
      mode := .replaceProviderSnapshot
      sequence, receivedAt, providerState, quotes }
  batch.validate.mapError .map
  pure batch

def mapSourceFailureBatch (provider : Provider) (generation sequence : Nat) (fingerprint : String)
    (observedAt : DateTime) : Except RuntimeError QuoteBatchV1 := do
  let providerState : ProviderStateV1 :=
    { schemaVersion := providerStateSchemaVersion
      provider, observedAt
      operational := .unavailable
      transport := .disconnected
      authentication := .unauthenticated
      entitlement := .missing
      reasonCodes := [.transportDisconnected, .authenticationUnavailable, .entitlementUnavailable,
        .providerError]
      latencyMs := none
      connectionGeneration := generation }
  let batchId ←
    (Token.new (mirrorId provider generation sequence
      ("failure:" ++ fingerprintPrefix fingerprint 16)) "batch_id").mapError .map
  let batch : QuoteBatchV1 :=
    { schemaVersion := quoteBatchSchemaVersion
      batchId, provider
      mode := .replaceProviderSnapshot
      sequence
      receivedAt := observedAt
      providerState
      quotes := [] }
  batch.validate.mapError .map
  pure batch

def envelopeOf (batch : QuoteBatchV1) (now : DateTime) :
    Except RuntimeError (IngressEnvelopeV1 R M F) := do
  let messageId ← (Token.new ("message:" ++ batch.batchId.value) "message_id").mapError .envelope
  let envelope : IngressEnvelopeV1 R M F :=
    { schemaVersion := ingressSchemaVersion
      messageId
      emittedAt := now
      message := .quoteBatch batch }
  envelope.validate.mapError .envelope
  pure envelope

def liftRuntime {α : Type} (x : Except RuntimeError α) : BridgeM R M F α :=
  match x with
  | .ok a => pure a
  | .error e => throw (.error e)

variable [BridgeHash]

/-- Puts a frame for `batch` into the slot and sends it. -/
def sendFrame (proposed : BridgeState R M F) (batch : QuoteBatchV1) (fingerprint : String)
    (purpose : PendingPurpose) (now : DateTime) : BridgeM R M F SendDisposition := do
  let envelope ← liftRuntime (envelopeOf batch now)
  let state ← liftState (proposed.setPending batch.provider fingerprint
    (BridgeHash.semanticHash batch).value purpose envelope)
  persist state
  modify fun m => { m with state }
  sendPending now

variable (document : SourceDocument)

def documentBatch (provider : Provider) (cursor : ProviderCursor) (now : DateTime) :
    Except RuntimeError QuoteBatchV1 :=
  if provider = .ibkr ∧ document.ibkrHealth = false then
    mapSourceFailureBatch provider cursor.connectionGeneration cursor.sequence
      document.fingerprint now
  else do
    let source ← (document.mapped provider).mapError .map
    mapProviderBatch source provider cursor.connectionGeneration cursor.sequence
      document.fingerprint now

/-- One provider of `process_document`. -/
def processProvider (now : DateTime) (provider : Provider) : BridgeM R M F SendDisposition := do
  let m ← get
  let sourceEpoch := document.sourceEpoch provider
  let epochChanged ← liftState (m.state.sourceEpochChanged provider sourceEpoch)
  let (cursor, proposed) ← liftState (m.state.nextCursor provider sourceEpoch)
  let batch ← liftRuntime (documentBatch document provider cursor now)
  let semanticHash := (BridgeHash.semanticHash batch).value
  let unchanged := (m.state.providers[provider]?).bind (·.lastSemanticHash) = some semanticHash
  if unchanged ∧ epochChanged = false ∧ m.needsResync = false ∧
      m.state.activeSourceFailure = none then
    pure .acknowledged
  else sendFrame proposed batch document.fingerprint .snapshot now

/-- `process_document`: stops at the first provider whose frame is not acknowledged. -/
def processDocument (clock : Provider → DateTime) : BridgeM R M F SendDisposition := do
  match ← processProvider document (clock .schwab) .schwab with
  | .reconnect => pure .reconnect
  | .acknowledged => processProvider document (clock .ibkr) .ibkr

/-- One provider of `handle_source_failure`. -/
def failProvider (fingerprint : String) (now : DateTime) (provider : Provider) :
    BridgeM R M F SendDisposition := do
  let m ← get
  if m.state.sourceFailureAcknowledged provider then pure .acknowledged
  else do
    let (cursor, proposed) ← liftState (m.state.nextCursor provider none)
    let batch ← liftRuntime (mapSourceFailureBatch provider cursor.connectionGeneration
      cursor.sequence fingerprint now)
    sendFrame proposed batch fingerprint .sourceFailure now

def handleSourceFailure (reason : String) (clock : Provider → DateTime) :
    BridgeM R M F Unit := do
  let m ← get
  let fingerprint := (BridgeHash.failureFingerprint reason).value
  let state := m.state.beginSourceFailure fingerprint
  modify fun m => { m with state }
  persist state
  match ← failProvider fingerprint (clock .schwab) .schwab with
  | .reconnect => disconnect
  | .acknowledged =>
    match ← failProvider fingerprint (clock .ibkr) .ibkr with
    | .reconnect => disconnect
    | .acknowledged => modify fun m => { m with needsResync := false }

def completeDocument (sourceAt : DateTime) : BridgeM R M F Unit := do
  let m ← get
  let state := m.state.completeSource document.fingerprint sourceAt
  modify fun m => { m with state }
  persist state
  modify fun m => { m with needsResync := false }

def handleDocument (now : DateTime) (clock : Provider → DateTime) : BridgeM R M F Unit := do
  let m ← get
  match document.sourceAt with
  | .error reason => handleSourceFailure reason clock
  | .ok sourceAt =>
    if now < sourceAt then
      handleSourceFailure "future-dated normalized source timestamp" clock
    else if m.state.lastCompletedSourceFingerprint = some document.fingerprint ∧
        m.needsResync = false ∧ m.state.activeSourceFailure = none then
      pure ()
    else if m.state.lastCompletedSourceAt.any fun previous => sourceAt < previous then
      throw (.error .sourceTimeRegression)
    else do
      match ← processDocument document clock with
      | .acknowledged => completeDocument document sourceAt
      | .reconnect => disconnect

/-- The lanes that send without touching the state. -/
def otherLanes (outcome : LaneOutcome) : BridgeM R M F Unit :=
  match outcome with
  | .quiet => pure ()
  | .disconnected => disconnect
  | .halted error => throw (.error error)

/-- The part of a tick after a connection and an empty slot. -/
def tickSource (input : TickInput) : BridgeM R M F Unit := do
  match input.source with
  | .ok document => handleDocument document input.now input.clock
  | .error reason => handleSourceFailure reason input.clock
  otherLanes input.otherLanes

def tick (input : TickInput) : BridgeM R M F Unit := do
  let m ← get
  if m.connected = false then
    if input.connects then connect else pure ()
  else pure ()
  let m ← get
  if m.connected = false then pure ()
  else if m.state.pending.isSome then
    match ← sendPending input.now with
    | .reconnect => disconnect
    | .acknowledged => tickSource input
  else tickSource input

/-- `BridgeRuntime::open`: loads the state, starts a new boot and writes the health file. -/
def openBridge : BridgeM R M F Unit := do
  let m ← get
  liftState m.disk.validate
  let state ← liftState m.disk.beginBoot
  persist state
  modify fun m => { m with state, connected := false, needsResync := true }
  match ← nextAnswer with
  | .done => pure ()
  | .killed _ => throw .killed
  | _ => throw (.error (.state .io))

/-! ## Boots, ticks and kills -/

/-- A process between two ticks. -/
structure Process (R M F : Type) where
  state : BridgeState R M F
  connected : Bool
  needsResync : Bool

/-- The file, the log of the slot, and the process that holds the runtime lock, if one runs. -/
structure System (R M F : Type) where
  maxRejectedAttempts : Nat
  disk : BridgeState R M F
  log : List (SlotEvent (IngressEnvelopeV1 R M F))
  process : Option (Process R M F)

/-- A state file that was just initialized. -/
def System.initial (maxRejectedAttempts : Nat) (bridgeId : String) : System R M F where
  maxRejectedAttempts
  disk := .new bridgeId
  log := []
  process := none

/-- What happens next, with the answers of the environment to the calls made. -/
inductive BridgeInput
  | boot (answers : List Answer)
  | tick (input : TickInput) (answers : List Answer)
  | kill

/-- Runs a program in a process, and the process that is left. -/
def System.runIn (s : System R M F) (process : Process R M F) (answers : List Answer)
    (program : BridgeM R M F Unit) : Option Halt × System R M F :=
  let m : Machine R M F :=
    { state := process.state
      connected := process.connected
      needsResync := process.needsResync
      maxRejectedAttempts := s.maxRejectedAttempts
      disk := s.disk
      log := s.log
      answers }
  match program m with
  | .ok () m =>
    (none, { s with
      disk := m.disk
      log := m.log
      process := some
        { state := m.state, connected := m.connected, needsResync := m.needsResync } })
  | .error halt m => (some halt, { s with disk := m.disk, log := m.log, process := none })

/-- A second process does not get the lock; a process that is not running does nothing. -/
def System.step (s : System R M F) : BridgeInput → Option Halt × System R M F
  | .boot answers =>
    match s.process with
    | some _ => (none, s)
    | none => s.runIn { state := s.disk, connected := false, needsResync := true } answers
        openBridge
  | .tick input answers =>
    match s.process with
    | some process => s.runIn process answers (Bridge.tick input)
    | none => (none, s)
  | .kill => (none, { s with process := none })

end SpxSpark.Bridge
