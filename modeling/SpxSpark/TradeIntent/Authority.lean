import SpxSpark.Strategy.Contract

/-!
# Authority — which intents may reach a live manual lane

An intent is a document that a decision was written into, and the checks read it as it is found.
-/

namespace SpxSpark.TradeIntent

open Lib Strategy

/-! ## Members of an intent -/

def member (name : String) (intent : Members) : Option JsonValue := JsonValue.get name.toList intent

def tradeReady : Text := "trade_ready".toList

/-! ## Lanes -/

/-- `LEGACY_PUT_SHADOW_LANES`. -/
def legacyPutShadowLanes : List Text :=
  ["long_0dte_rth_flip_low_breakdown_put_shadow".toList,
    "long_0dte_rth_upper_rejection_put_shadow".toList,
    "long_0dte_rth_put_wall_breakdown_disabled".toList]

/-- `APPROVED_MANUAL_LANE_CONTRACTS`: the direction of a lane, and the right of its contracts. -/
def approvedManualLaneContracts (lane : Text) : Option (Text × Text) :=
  if lane ∈ ["long_0dte_rth_upper_breakout_call_manual".toList,
      "long_0dte_rth_lower_rejection_call_manual".toList, "rth_confirmed_level".toList,
      "long_0dte_rth_upside_breakout_pilot".toList] then some ("up".toList, "C".toList)
  else if lane ∈ ["long_0dte_rth_flip_low_breakdown_put_manual".toList,
      "long_0dte_rth_upper_rejection_put_manual".toList,
      "long_0dte_rth_put_wall_breakdown_put_manual".toList] then some ("down".toList, "P".toList)
  else none

/-! ## Authority -/

inductive AuthorityIssue
  | notTradeReady
  | executionAuthorityMissing
  | quoteObservationOnly
  | shadowMode
  | automaticOrderingContractInvalid
  | putLaneLiveExecutionForbidden
  | liveLaneNotApproved
  | liveDirectionMismatch
  | liveContractRightMismatch
  deriving DecidableEq

def AuthorityIssue.code : AuthorityIssue → String
  | .notTradeReady => "trade_intent_not_trade_ready"
  | .executionAuthorityMissing => "trade_intent_execution_authority_missing"
  | .quoteObservationOnly => "trade_intent_quote_observation_only"
  | .shadowMode => "trade_intent_shadow_mode"
  | .automaticOrderingContractInvalid => "trade_intent_automatic_ordering_contract_invalid"
  | .putLaneLiveExecutionForbidden => "put_lane_live_execution_forbidden"
  | .liveLaneNotApproved => "trade_intent_live_lane_not_approved"
  | .liveDirectionMismatch => "trade_intent_live_direction_mismatch"
  | .liveContractRightMismatch => "trade_intent_live_contract_right_mismatch"

def issueUnless (condition : Bool) (issue : AuthorityIssue) : List AuthorityIssue :=
  if condition then [] else [issue]

variable (py : PyTools)

/-- What the lane of an intent asks of its direction and its contract. -/
def laneIssues (intent : Members) : List AuthorityIssue :=
  match approvedManualLaneContracts (strOr py (member "strategy_lane" intent) []) with
  | none => [.liveLaneNotApproved]
  | some (direction, right) =>
    issueUnless (equalsText (member "direction" intent) direction) .liveDirectionMismatch ++
      issueUnless ((':' :: right).isSuffixOf (strOr py (member "contract_id" intent) []))
        .liveContractRightMismatch

/-- `live_trade_intent_authority_issues`. -/
def liveTradeIntentAuthorityIssues (intent : Members) : List AuthorityIssue :=
  issueUnless (equalsText (member "status" intent) tradeReady) .notTradeReady ++
    issueUnless (isTrue (member "execution_eligible" intent)) .executionAuthorityMissing ++
    issueUnless (isFalse (member "quote_observation_eligible" intent)) .quoteObservationOnly ++
    issueUnless (isFalse (member "shadow_mode" intent)) .shadowMode ++
    issueUnless (isFalse (member "automatic_ordering" intent)) .automaticOrderingContractInvalid ++
    issueUnless (strOr py (member "strategy_lane" intent) [] ∉ legacyPutShadowLanes)
      .putLaneLiveExecutionForbidden ++
    laneIssues py intent

end SpxSpark.TradeIntent
