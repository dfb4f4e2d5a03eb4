import SpxSpark.Domain.OperatorNotification
import SpxSpark.Domain.Strategy

/-!
# Ingress — envelopes into the core and the acknowledgements back

An envelope carries one of seven messages. The three projection payloads are only stored and
compared by the core, so they are type parameters with the times and the check the core reads from
them.
-/

namespace SpxSpark.Domain

def ingressSchemaVersion : String := "spx_ingress.v1"
def coreAckSchemaVersion : String := "spx_core_ack.v1"

/-! ## Projection payloads -/

/-- `ResearchSignalsV1`, as far as the core reads it. -/
class ResearchPayload (R : Type) where
  generatedAt : R → DateTime
  validate : R → Except DomainError Unit

/-- `DeskMapProjectionV1`, as far as the core reads it. -/
class DeskMapPayload (M : Type) where
  availableAt : M → DateTime
  validUntil : M → DateTime
  validate : M → Except DomainError Unit

/-- `StrategyDistributionForecastV1`, as far as the core reads it. -/
class ForecastPayload (F : Type) where
  documentId : F → Token
  availableAt : F → DateTime
  validUntil : F → DateTime
  validate : F → Except DomainError Unit

instance : ResearchPayload Empty := ⟨nofun, nofun⟩

instance : DeskMapPayload Empty := ⟨nofun, nofun, nofun⟩

instance : ForecastPayload Empty := ⟨nofun, nofun, nofun, nofun⟩

inductive IngressMessageV1 (R M F : Type)
  | quoteBatch (batch : QuoteBatchV1)
  | evaluate (request : EvaluationRequestV1)
  | researchSignals (signals : R)
  | deskMapProjection (projection : M)
  | strategyDistributionForecast (forecast : F)
  | operatorNotification (notification : OperatorNotificationV1)
  | operatorNotificationCancellation (cancellation : OperatorNotificationCancellationV1)
  deriving DecidableEq

structure IngressEnvelopeV1 (R M F : Type) where
  schemaVersion : String
  messageId : Token
  emittedAt : DateTime
  message : IngressMessageV1 R M F
  deriving DecidableEq

section
variable {R M F : Type} [ResearchPayload R] [DeskMapPayload M] [ForecastPayload F]

/-- The check a message makes for itself. -/
def IngressMessageV1.validate : IngressMessageV1 R M F → Except DomainError Unit
  | .quoteBatch batch => batch.validate
  | .evaluate request => request.validate
  | .researchSignals signals => ResearchPayload.validate signals
  | .deskMapProjection projection => DeskMapPayload.validate projection
  | .strategyDistributionForecast forecast => ForecastPayload.validate forecast
  | .operatorNotification notification => notification.validate
  | .operatorNotificationCancellation cancellation => cancellation.validate

/-- The instant of a message that its envelope must not precede, with the error it names. -/
def IngressMessageV1.instant : IngressMessageV1 R M F → DateTime × String
  | .quoteBatch batch => (batch.receivedAt, "quote batch received_at is after envelope emitted_at")
  | .evaluate request => (request.decisionAt, "decision_at is after envelope emitted_at")
  | .researchSignals signals =>
    (ResearchPayload.generatedAt signals, "research generated_at is after envelope emitted_at")
  | .deskMapProjection projection =>
    (DeskMapPayload.availableAt projection, "desk map available_at is after envelope emitted_at")
  | .strategyDistributionForecast forecast =>
    (ForecastPayload.availableAt forecast,
      "strategy distribution available_at is after envelope emitted_at")
  | .operatorNotification notification =>
    (notification.occurredAt, "operator notification occurred_at is after envelope emitted_at")
  | .operatorNotificationCancellation cancellation =>
    (cancellation.cancelledAt, "operator notification cancelled_at is after envelope emitted_at")

def IngressEnvelopeV1.validate (e : IngressEnvelopeV1 R M F) : Except DomainError Unit := do
  requireSchema e.schemaVersion ingressSchemaVersion "ingress envelope"
  e.message.validate
  require (e.message.instant.1 ≤ e.emittedAt) (.timeOrder e.message.instant.2)

end

/-- The quote batch an envelope carries, if that is what it carries. -/
def IngressEnvelopeV1.batch? {R M F : Type} (e : IngressEnvelopeV1 R M F) : Option QuoteBatchV1 :=
  match e.message with
  | .quoteBatch batch => some batch
  | _ => none

/-! ## Acknowledgements -/

inductive AckStatus
  | accepted
  | rejected
  deriving DecidableEq

inductive CoreAckReason
  | accepted
  | invalidContractJson
  | invalidFrameSize
  | processingRejected
  | serverBusy
  deriving DecidableEq

inductive CoreAckDisposition
  | applied
  | duplicateBatch
  | staleBatch
  | duplicateIngress
  | decisionAccepted
  | researchUpdated
  | researchUnchanged
  | researchStale
  | deskMapUpdated
  | deskMapUnchanged
  | deskMapStale
  | strategyDistributionUpdated
  | strategyDistributionUnchanged
  | strategyDistributionStale
  | operatorNotificationAccepted
  | operatorNotificationSemanticSuppressed
  | operatorNotificationCancellationAccepted
  | operatorNotificationCancellationDuplicate
  deriving DecidableEq

structure CoreAckV1 where
  schemaVersion : String
  status : AckStatus
  messageId : Option Token
  decisionId : Option Token
  reasonCode : CoreAckReason
  disposition : Option CoreAckDisposition

def CoreAckV1.validate (a : CoreAckV1) : Except DomainError Unit := do
  requireSchema a.schemaVersion coreAckSchemaVersion "core acknowledgement"
  match a.status with
  | .accepted => do
      require (a.messageId ≠ none ∧ a.reasonCode = .accepted ∧ a.disposition ≠ none)
        (.invalid "core acknowledgement"
          "accepted acknowledgement requires message, accepted reason, and disposition")
      require (a.disposition = some .decisionAccepted ↔ a.decisionId ≠ none)
        (.invalid "core acknowledgement decision"
          "decision id must exist only for an accepted decision")
  | .rejected =>
    require (a.reasonCode ≠ .accepted ∧ a.decisionId = none ∧ a.disposition = none)
      (.invalid "core acknowledgement"
        "rejected acknowledgement cannot contain accepted outcome fields")

/-- `ack_disposition_matches`, for the one kind of message the pending frame carries. -/
def quoteDispositionMatches (disposition : Option CoreAckDisposition) : Bool :=
  disposition == some .applied || disposition == some .duplicateBatch ||
    disposition == some .staleBatch || disposition == some .duplicateIngress

end SpxSpark.Domain
