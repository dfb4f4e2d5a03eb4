import SpxSpark.Domain.Market

/-!
# Strategy — evaluation requests and the decisions they produce

A request names a direction, the two legs to look at and until when the answer may be used. A
decision is either a refusal with its reasons or a manual candidate with its exact-leg evidence;
`StrategyDecisionV1.validate` keeps the two apart, and no decision orders anything.
-/

namespace SpxSpark.Domain

def evaluationSchemaVersion : String := "strategy_evaluation_request.v1"
def decisionSchemaVersion : String := "strategy_decision.v1"

inductive CandidateDirection
  | callVertical10
  | putVertical10
  deriving DecidableEq

def CandidateDirection.optionRight : CandidateDirection → OptionRight
  | .callVertical10 => .call
  | .putVertical10 => .put

inductive CalendarState
  | «open»
  | closed
  deriving DecidableEq

inductive MacroPermission
  | allowed
  | blocked
  deriving DecidableEq

inductive PlanState
  | clear
  | conflict
  deriving DecidableEq

/-- What a strategy asks of the core. -/
structure EvaluationRequestV1 where
  schemaVersion : String
  requestId : Token
  strategyId : Token
  policyVersion : Token
  session : MarketSession
  sessionDate : NaiveDate
  decisionAt : DateTime
  validUntil : DateTime
  direction : CandidateDirection
  longContractId : Token
  shortContractId : Token
  calendar : CalendarState
  macroPermission : MacroPermission
  planState : PlanState
  notificationTargets : List Token
  automaticOrdering : Bool
  deriving DecidableEq

def EvaluationRequestV1.validate (r : EvaluationRequestV1) : Except DomainError Unit := do
  requireSchema r.schemaVersion evaluationSchemaVersion "evaluation request"
  require (r.decisionAt < r.validUntil) (.timeOrder "valid_until must be after decision_at")
  require (r.longContractId ≠ r.shortContractId)
    (.invalid "contract ids" "long and short legs must differ")
  uniqueTokens r.notificationTargets "notification target"
  require (r.notificationTargets ≠ [])
    (.invalid "notification_targets" "production evaluation requires at least one target")
  require (r.automaticOrdering = false)
    (.invalid "automatic_ordering" "automatic ordering is forbidden")

inductive StrategyAction
  | noTrade
  | manualCandidate
  deriving DecidableEq

inductive StrategyBlockReason
  | calendarClosed
  | macroEventBlocked
  | activePlanConflict
  | ttlExpired
  | decisionTtlInvalid
  | evaluationDelayed
  | notificationTargetUnavailable
  | providerNotReady
  | providerExternalSessionOwns
  | exactLegMissing
  | exactLegWrongProvider
  | exactLegNotLive
  | exactLegOneSided
  | exactLegLockedOrCrossed
  | exactLegStale
  | exactLegSkew
  | exactLegContractMismatch
  | exactLegExpiryMismatch
  | invalidVertical
  deriving DecidableEq

/-- The two legs as they were quoted. -/
structure ExactLegEvidenceV1 where
  provider : Provider
  longContractId : Token
  shortContractId : Token
  right : OptionRight
  longStrike : PositiveF64
  shortStrike : PositiveF64
  longBid : PositiveF64
  longAsk : PositiveF64
  shortBid : PositiveF64
  shortAsk : PositiveF64
  maxAgeSeconds : NonNegativeF64
  maxSkewSeconds : NonNegativeF64
  observedAt : DateTime
  deriving DecidableEq

def ExactLegEvidenceV1.validate (e : ExactLegEvidenceV1) : Except DomainError Unit := do
  require (e.longContractId ≠ e.shortContractId)
    (.invalid "exact leg evidence" "long and short contract ids must differ")
  require (e.longBid.val < e.longAsk.val ∧ e.shortBid.val < e.shortAsk.val)
    (.invalid "exact leg evidence" "exact NBBO must be unlocked and uncrossed")

/-- What the core answers. -/
structure StrategyDecisionV1 where
  schemaVersion : String
  decisionId : Token
  requestId : Token
  strategyId : Token
  policyVersion : Token
  snapshotId : Token
  action : StrategyAction
  direction : Option CandidateDirection
  evaluatedAt : DateTime
  validUntil : DateTime
  blockReasons : List StrategyBlockReason
  exactLegs : Option ExactLegEvidenceV1
  evidenceHash : Token
  automaticOrdering : Bool
  deriving DecidableEq

namespace StrategyDecisionV1

/-- Points between the two strikes, counted the way the direction pays. -/
def width (direction : CandidateDirection) (legs : ExactLegEvidenceV1) : Rat :=
  match direction with
  | .callVertical10 => legs.shortStrike.val - legs.longStrike.val
  | .putVertical10 => legs.longStrike.val - legs.shortStrike.val

def executableDebit (legs : ExactLegEvidenceV1) : Rat := legs.longAsk.val - legs.shortBid.val

def validateNoTrade (d : StrategyDecisionV1) : Except DomainError Unit := do
  require (d.direction = none ∧ d.exactLegs = none)
    (.invalid "NO_TRADE" "cannot contain direction or exact legs")
  require (d.blockReasons ≠ []) (.invalid "NO_TRADE" "requires at least one block reason")

def validateLegs (d : StrategyDecisionV1) (direction : CandidateDirection)
    (legs : ExactLegEvidenceV1) : Except DomainError Unit := do
  require (d.blockReasons = []) (.invalid "MANUAL_CANDIDATE" "cannot contain block reasons")
  legs.validate
  require (legs.right = direction.optionRight)
    (.invalid "exact leg evidence" "option right must match candidate direction")
  require (-(1 / 1000000000) ≤ width direction legs - 10 ∧
      width direction legs - 10 ≤ 1 / 1000000000)
    (.invalid "exact leg evidence" "vertical width must be exactly 10 points")
  require (0 < executableDebit legs ∧ executableDebit legs < 10)
    (.invalid "exact leg evidence" "executable debit must be within zero and spread width")
  require (legs.observedAt ≤ d.evaluatedAt)
    (.timeOrder "exact leg evidence is after decision evaluated_at")

def validateManualCandidate (d : StrategyDecisionV1) : Except DomainError Unit :=
  match d.direction, d.exactLegs with
  | some direction, some legs => d.validateLegs direction legs
  | _, _ =>
    .error (.invalid "MANUAL_CANDIDATE" "requires direction and exact-leg evidence")

def validate (d : StrategyDecisionV1) : Except DomainError Unit := do
  requireSchema d.schemaVersion decisionSchemaVersion "strategy decision"
  require (d.evaluatedAt < d.validUntil)
    (.timeOrder "decision valid_until must be after evaluated_at")
  require (d.blockReasons.Pairwise fun a b => a.ctorIdx < b.ctorIdx)
    (.invalid "block_reasons" "must be unique and sorted")
  require (d.automaticOrdering = false)
    (.invalid "automatic_ordering" "automatic ordering is forbidden")
  match d.action with
  | .noTrade => d.validateNoTrade
  | .manualCandidate => d.validateManualCandidate

end StrategyDecisionV1

end SpxSpark.Domain
