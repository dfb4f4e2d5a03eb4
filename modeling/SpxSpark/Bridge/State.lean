import SpxSpark.Core.QuoteBook
import SpxSpark.Domain.Ingress
import Mathlib.Data.Finset.Insert

/-!
# State — the durable cursor and the one pending frame of the bridge

One file holds everything the bridge must remember across processes: a cursor per provider, the
frame whose outcome is not known yet, and how far the clearing of a failed source has come.
-/

namespace SpxSpark.Bridge

open Std Domain Lib SpxSpark.Core

def stateSchema : String := "spx_normalized_bridge_state.v1"

inductive StateError
  | schemaMismatch
  | providerSet
  | counterOverflow
  | pendingExists
  | noPending
  | ackMismatch
  | sourceFailureMismatch
  | invalidPending
  | io
  deriving DecidableEq

/-- `u64::checked_add(1)`. -/
def checkedSucc (n : Nat) : Except StateError Nat :=
  if n + 1 < 2 ^ 64 then .ok (n + 1) else .error .counterOverflow

theorem checkedSucc_ok {n m : Nat} : checkedSucc n = .ok m ↔ n + 1 < 2 ^ 64 ∧ m = n + 1 := by
  unfold checkedSucc
  split
  · rename_i h
    exact ⟨fun heq => ⟨h, (Except.ok.inj heq).symm⟩, fun heq => heq.2 ▸ rfl⟩
  · rename_i h
    exact ⟨fun heq => (nomatch heq), fun heq => absurd heq.1 h⟩

structure ProviderCursor where
  connectionGeneration : Nat
  sequence : Nat
  sourceEpoch : Option String
  lastSemanticHash : Option String
  lastAckMessageId : Option String
  lastAckAt : Option DateTime

def ProviderCursor.position (c : ProviderCursor) : Nat ×ₗ Nat :=
  toLex (c.connectionGeneration, c.sequence)

inductive PendingPurpose
  | snapshot
  | sourceFailure
  deriving DecidableEq

structure PendingFrame (R M F : Type) where
  provider : Provider
  sourceFingerprint : String
  semanticHash : String
  purpose : PendingPurpose
  rejectedAttempts : Nat
  envelope : IngressEnvelopeV1 R M F

structure SourceFailureProgress where
  fingerprint : String
  acknowledgedProviders : Finset Provider

structure BridgeState (R M F : Type) where
  schemaVersion : String
  bridgeId : String
  bootCount : Nat
  providers : ExtTreeMap Provider ProviderCursor
  pending : Option (PendingFrame R M F)
  activeSourceFailure : Option SourceFailureProgress
  lastCompletedSourceFingerprint : Option String
  lastCompletedSourceAt : Option DateTime

namespace BridgeState

variable {R M F : Type}

/-- A cursor before the first boot. -/
def freshCursor : ProviderCursor where
  connectionGeneration := 0
  sequence := 0
  sourceEpoch := none
  lastSemanticHash := none
  lastAckMessageId := none
  lastAckAt := none

/-- `BridgeState::new`, for the random `bridgeId`. -/
def new (bridgeId : String) : BridgeState R M F where
  schemaVersion := stateSchema
  bridgeId
  bootCount := 0
  providers := ((∅ : ExtTreeMap Provider ProviderCursor).insert .schwab freshCursor).insert .ibkr
    freshCursor
  pending := none
  activeSourceFailure := none
  lastCompletedSourceFingerprint := none
  lastCompletedSourceAt := none

def bootCursor (cursor : ProviderCursor) : ProviderCursor :=
  { cursor with connectionGeneration := cursor.connectionGeneration + 1, sequence := 0 }

def beginBoot (s : BridgeState R M F) : Except StateError (BridgeState R M F) := do
  let bootCount ← checkedSucc s.bootCount
  (valuesOf s.providers).forM fun cursor => do
    let _ ← checkedSucc cursor.connectionGeneration
  pure { s with
    bootCount
    providers := s.providers.map fun _ cursor => bootCursor cursor
    activeSourceFailure :=
      s.activeSourceFailure.map fun failure => { failure with acknowledgedProviders := ∅ } }

def beginSourceFailure (s : BridgeState R M F) (fingerprint : String) : BridgeState R M F :=
  if s.activeSourceFailure.all fun failure => failure.fingerprint ≠ fingerprint then
    { s with activeSourceFailure := some { fingerprint, acknowledgedProviders := ∅ } }
  else s

/-- `reset_source_failure_progress`: the state, and whether it changed. -/
def resetSourceFailureProgress (s : BridgeState R M F) : Bool × BridgeState R M F :=
  match s.activeSourceFailure with
  | some failure =>
    (failure.acknowledgedProviders ≠ ∅,
      { s with activeSourceFailure := some { failure with acknowledgedProviders := ∅ } })
  | none => (false, s)

def sourceFailureAcknowledged (s : BridgeState R M F) (provider : Provider) : Bool :=
  s.activeSourceFailure.any fun failure => provider ∈ failure.acknowledgedProviders

/-- The cursor for the next frame of a provider. -/
def advanceCursor (cursor : ProviderCursor) (sourceEpoch : Option String) :
    Except StateError ProviderCursor := do
  let cursor ←
    if sourceEpoch.isSome ∧ sourceEpoch ≠ cursor.sourceEpoch then do
      let connectionGeneration ← checkedSucc cursor.connectionGeneration
      pure { cursor with connectionGeneration, sequence := 0, sourceEpoch }
    else pure cursor
  let sequence ← checkedSucc cursor.sequence
  pure { cursor with sequence }

def nextCursor (s : BridgeState R M F) (provider : Provider) (sourceEpoch : Option String) :
    Except StateError (ProviderCursor × BridgeState R M F) :=
  match s.providers[provider]? with
  | none => .error .providerSet
  | some cursor => do
      let cursor ← advanceCursor cursor sourceEpoch
      pure (cursor, { s with providers := s.providers.insert provider cursor })

def sourceEpochChanged (s : BridgeState R M F) (provider : Provider)
    (sourceEpoch : Option String) : Except StateError Bool :=
  match s.providers[provider]? with
  | none => .error .providerSet
  | some cursor => .ok (sourceEpoch.isSome && sourceEpoch != cursor.sourceEpoch)

def setPending (s : BridgeState R M F) (provider : Provider)
    (sourceFingerprint semanticHash : String) (purpose : PendingPurpose)
    (envelope : IngressEnvelopeV1 R M F) : Except StateError (BridgeState R M F) :=
  match s.pending with
  | some _ => .error .pendingExists
  | none =>
    .ok { s with
      pending := some
        { provider, sourceFingerprint, semanticHash, purpose, rejectedAttempts := 0, envelope } }

/-- `record_rejection`: the number of rejections of the pending frame, this one included. -/
def recordRejection (s : BridgeState R M F) : Except StateError (Nat × BridgeState R M F) :=
  match s.pending with
  | none => .error .noPending
  | some pending =>
    if pending.rejectedAttempts + 1 < 2 ^ 32 then
      .ok (pending.rejectedAttempts + 1,
        { s with
          pending := some { pending with rejectedAttempts := pending.rejectedAttempts + 1 } })
    else .error .counterOverflow

/-- The progress of a failed source once the pending frame is acknowledged. -/
def acknowledgeFailure (s : BridgeState R M F) (pending : PendingFrame R M F) :
    Except StateError (Option SourceFailureProgress) :=
  match pending.purpose, s.activeSourceFailure with
  | .snapshot, progress => .ok progress
  | .sourceFailure, none => .error .sourceFailureMismatch
  | .sourceFailure, some progress =>
    if progress.fingerprint = pending.sourceFingerprint then
      .ok (some { progress with
        acknowledgedProviders := insert pending.provider progress.acknowledgedProviders })
    else .error .sourceFailureMismatch

def acknowledge (s : BridgeState R M F) (messageId : String) (acknowledgedAt : DateTime) :
    Except StateError (BridgeState R M F) :=
  match s.pending with
  | none => .error .noPending
  | some pending =>
    if pending.envelope.messageId.value = messageId then do
      let activeSourceFailure ← s.acknowledgeFailure pending
      match s.providers[pending.provider]? with
      | none => .error .providerSet
      | some cursor =>
        .ok { s with
          activeSourceFailure
          providers := s.providers.insert pending.provider
            { cursor with
              lastAckMessageId := some messageId
              lastAckAt := some acknowledgedAt
              lastSemanticHash := some pending.semanticHash }
          pending := none }
    else .error .ackMismatch

def completeSource (s : BridgeState R M F) (fingerprint : String) (sourceAt : DateTime) :
    BridgeState R M F :=
  { s with
    activeSourceFailure := none
    lastCompletedSourceFingerprint := some fingerprint
    lastCompletedSourceAt := some sourceAt }

variable [ResearchPayload R] [DeskMapPayload M] [ForecastPayload F]

/-- What a pending frame must be in a state that is written or read. -/
def pendingValid (s : BridgeState R M F) (pending : PendingFrame R M F) : Bool :=
  pending.sourceFingerprint != "" && pending.semanticHash != "" &&
    s.providers.contains pending.provider && pending.envelope.validate.isOk &&
    pending.envelope.batch?.any (fun batch => batch.provider == pending.provider) &&
    !(pending.purpose == .sourceFailure && s.sourceFailureAcknowledged pending.provider)

def validate (s : BridgeState R M F) : Except StateError Unit := do
  require (s.schemaVersion = stateSchema) .schemaMismatch
  require (s.providers.size = 2 ∧ .schwab ∈ s.providers ∧ .ibkr ∈ s.providers) .providerSet
  require (¬ (0 < s.bootCount ∧ ∃ cursor ∈ valuesOf s.providers, cursor.connectionGeneration = 0))
    .providerSet
  require (s.activeSourceFailure.all fun failure => failure.fingerprint ≠ "" ∧
    ∀ provider ∈ failure.acknowledgedProviders, provider ∈ s.providers) .providerSet
  require (s.pending.all fun pending => pending.purpose = .sourceFailure →
    s.activeSourceFailure.any fun failure => failure.fingerprint = pending.sourceFingerprint)
    .sourceFailureMismatch
  require (s.pending.all s.pendingValid) .invalidPending

end BridgeState

end SpxSpark.Bridge
