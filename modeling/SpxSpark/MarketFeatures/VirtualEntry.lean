import SpxSpark.Lib.Text
import SpxSpark.MarketFeatures.VirtualEpisode

/-!
# VirtualEntry — what becomes of a signal

A trade intent or a GTH signal is evaluated against the quotes of the moment. The answer is an entry
decision with its reasons, terminal or still observing, and an episode when everything passes.
Events are typed here; `Strategy.Contract` has the checks of the contract on their raw members.
-/

namespace SpxSpark.MarketFeatures

open Lib

/-! ## The shared contract of strategy events -/

/-- A timestamp field as its parser finds it. -/
inductive TimeField
  | absent
  | invalid
  | at' (instant : Instant)
  deriving DecidableEq

/-- `parse_aware_time`. -/
def TimeField.parse : TimeField → Option Instant
  | .at' instant => some instant
  | _ => none

/-- `value or None` on a text. -/
def nonEmpty (text : String) : Option String := if text = "" then none else some text

/-- The trigger coordinate, its members as the event has them. -/
structure EventCoordinate where
  kind : String
  instrumentId : Option String

/-- `normalize_coordinate`. -/
def EventCoordinate.normalize (coordinate : EventCoordinate) : EventCoordinate where
  kind := (nonEmpty (strip coordinate.kind)).getD "unavailable"
  instrumentId := coordinate.instrumentId.bind fun text => nonEmpty (strip text)

/-- The five fields every strategy event carries. -/
structure StrategyEnvelope where
  schemaVersion : Option ℤ
  policyVersion : String
  validUntil : TimeField
  coordinate : Option EventCoordinate
  /-- Missing when the field is no list of reason codes. -/
  blockReasons : Option (List String)

def strategyEventSchemaVersion : ℤ := 3

/-- `_COORDINATE_INSTRUMENTS`. -/
def coordinateInstrument (kind : String) : Option String :=
  if kind = "official_spx" then some "index:SPX"
  else if kind = "chain_implied_spx" then some "synthetic:SPXW_PARITY"
  else if kind = "es_equivalent" then some "future:ES"
  else if kind = "raw_es" then some "future:ES"
  else none

/-- `normalize_block_reasons`. -/
def normalizeBlockReasons (values : List String) : List String :=
  ((values.map strip).filter (· ≠ "")).eraseDups

/-- `strategy_contract_issues`, with both requirements on. -/
def strategyContractIssues (e : StrategyEnvelope) : List String :=
  List.eraseDups <|
    (if e.schemaVersion = some strategyEventSchemaVersion then []
      else ["strategy_schema_unsupported"]) ++
    (if strip e.policyVersion = "" then ["policy_version_unavailable"] else []) ++
    (if e.validUntil = .invalid then ["valid_until_invalid"] else []) ++
    (if e.validUntil.parse.isNone then ["valid_until_unavailable"] else []) ++
    (match e.coordinate.map EventCoordinate.normalize with
      | none => ["coordinate_unavailable"]
      | some coordinate =>
        let expected := coordinateInstrument coordinate.kind
        if coordinate.kind = "unavailable" then ["coordinate_unavailable"]
        else if expected.isSome ∧ coordinate.instrumentId ≠ expected then
          ["coordinate_instrument_mismatch"]
        else if expected.isNone then ["coordinate_kind_unsupported"]
        else []) ++
    (match e.blockReasons with
      | none => ["block_reasons_invalid"]
      | some reasons =>
        if reasons.any (strip · = "") then ["block_reasons_invalid"]
        else if reasons ≠ normalizeBlockReasons reasons then ["block_reasons_not_normalized"]
        else [])

/-- An event is actionable strictly before its `valid_until`. -/
def elapsed (validUntil : Option Instant) (now : Instant) : Bool := validUntil.any (· ≤ now)

/-- `actionable_strategy_contract_issues`. -/
def actionableStrategyContractIssues (e : StrategyEnvelope) (now : Instant) : List String :=
  List.eraseDups <|
    strategyContractIssues e ++
    (if elapsed e.validUntil.parse now then ["strategy_event_expired"] else []) ++
    (if e.blockReasons.any (· ≠ []) then ["strategy_event_blocked"] else [])

/-! ## Signals -/

structure TradeIntent where
  intentId : String
  status : String
  contractId : String
  envelope : StrategyEnvelope
  executionEligible : Option Bool
  quoteObservationEligible : Option Bool
  shadowMode : Option Bool
  automaticOrdering : Option Bool
  strategyLane : String
  direction : String
  notificationEventId : String
  sessionId : Option String
  targetSpx : Option ℚ
  invalidationSpx : Option ℚ
  timeStopAt : Option Instant

/-- `trade_ready`, under an id. -/
def TradeIntent.ready (intent : TradeIntent) : Bool :=
  intent.status = "trade_ready" ∧ intent.intentId ≠ ""

structure GthSpread where
  right : String
  longStrike : Option ℚ
  shortStrike : Option ℚ
  widthPoints : Option ℚ
  expiryDate : String
  targetWall : Option ℚ
  invalidationEs : Option ℚ
  exitAt : Option Instant

structure GthSignal where
  eventId : String
  kind : String
  sessionDate : String
  envelope : StrategyEnvelope
  confirmedAt : Option Instant
  spread : Option GthSpread
  trough : Option ℚ
  /-- The digest of the whole signal, its name where it has no id. -/
  digest : String

structure ExternalDeliveryReceipt where
  eventId : String
  deliveredAt : Instant

/-- What the delivery ledger says of an intent's notification, where the trader requires one. -/
structure ReceiptLookup where
  receipt : Option ExternalDeliveryReceipt
  observable : Bool

/-- What is read off the quote state. -/
structure MarketView where
  /-- `trade_intent_action_snapshot`, whose quote may not precede the given instant. -/
  actionSnapshot : TradeIntent → Option Instant → Except (List String) Snapshot
  /-- `_spread_snapshot_decision` of the two legs. -/
  spreadSnapshot : String → String → Except (List String) Snapshot
  /-- The price of `_action_underlier_snapshot`. -/
  underlier : String → Except (List String) ℚ
  /-- The price of `_gth_chain_reference` for an expiry. -/
  chainReference : String → Option ℚ
  /-- `_active_snapshot`. -/
  mark : Episode → Option Snapshot
  /-- `_spx_reference`. -/
  spx : Episode → Option ℚ
  es : Option ℚ
  callWall : Option ℚ
  postEvent : Bool
  decisionGrade : Bool

/-! ## Decisions -/

inductive DecisionStatus
  | tradeReady
  | virtualReady
  | blocked
  | observing
  deriving DecidableEq

inductive ShadowLabel
  | censored
  | receiptObservationDegraded
  | noFill
  | waitingReceipt
  | waitingLimitFill
  | askEntryObserved
  deriving DecidableEq

/-- `virtual_entry_decision`. -/
structure EntryDecision where
  decisionId : String
  sourceSignalId : Option String
  sourceKind : SourceKind
  status : DecisionStatus
  terminal : Bool
  blockReasons : List String
  validUntil : Option Instant
  evaluatedAt : Instant
  episodeId : Option EpisodeId := none
  shadowExecutionLabel : Option ShadowLabel := none
  supersededBy : Option String := none

/-- `text.startswith(start)`. -/
def textStartsWith (text start : String) : Bool := start.toList.isPrefixOf text.toList

/-- `text.endswith(ending)`. -/
def textEndsWith (text ending : String) : Bool := ending.toList.isSuffixOf text.toList

/-- `_episode`, in the terms of its two callers. -/
def newEpisode (sourceId contractId : String) (sourceKind : SourceKind) (direction : TradeDirection)
    (snapshot : Snapshot) (now stop : Instant) (sessionId : Option String) : Episode where
  episodeId := ⟨sourceId, contractId⟩
  sourceSignalId := sourceId
  sourceKind := sourceKind
  debitSpread := false
  sessionId := sessionId
  direction := direction
  contractId := contractId
  openedAt := now
  timeStopAt := stop
  validUntil := some stop
  entryMid := snapshot.mid
  entryIv := snapshot.iv
  entryGamma := snapshot.gammaPerPoint
  spreadWidthPoints := none
  invalidationSpx := none
  targetSpx := none
  invalidationEs := none
  externalDeliveryEventId := none
  status := .active
  healthStatus := .healthy
  healthReason := none
  healthSince := none
  healthRecoveredAt := none
  lastHealthObservedAt := none
  closePendingSince := none
  closePendingReason := none
  closePendingAction := none
  mfeFraction := 0
  maeFraction := 0
  lastObservedAt := none
  last := some snapshot

/-! ## Trade intents -/

def legacyPutShadowLanes : List String :=
  ["long_0dte_rth_flip_low_breakdown_put_shadow", "long_0dte_rth_upper_rejection_put_shadow",
    "long_0dte_rth_put_wall_breakdown_disabled"]

/-- `APPROVED_MANUAL_LANE_CONTRACTS`: the direction and the right of a lane. -/
def approvedManualLaneContracts : List (String × String × String) :=
  [("long_0dte_rth_upper_breakout_call_manual", "up", "C"),
    ("long_0dte_rth_lower_rejection_call_manual", "up", "C"),
    ("long_0dte_rth_flip_low_breakdown_put_manual", "down", "P"),
    ("long_0dte_rth_upper_rejection_put_manual", "down", "P"),
    ("long_0dte_rth_put_wall_breakdown_put_manual", "down", "P"),
    ("rth_confirmed_level", "up", "C"),
    ("long_0dte_rth_upside_breakout_pilot", "up", "C")]

/-- `live_trade_intent_authority_issues`. -/
def liveTradeIntentAuthorityIssues (intent : TradeIntent) : List String :=
  List.eraseDups <|
    (if intent.status = "trade_ready" then [] else ["trade_intent_not_trade_ready"]) ++
    (if intent.executionEligible = some true then []
      else ["trade_intent_execution_authority_missing"]) ++
    (if intent.quoteObservationEligible = some false then []
      else ["trade_intent_quote_observation_only"]) ++
    (if intent.shadowMode = some false then [] else ["trade_intent_shadow_mode"]) ++
    (if intent.automaticOrdering = some false then []
      else ["trade_intent_automatic_ordering_contract_invalid"]) ++
    (if intent.strategyLane ∈ legacyPutShadowLanes then ["put_lane_live_execution_forbidden"]
      else []) ++
    (match approvedManualLaneContracts.lookup intent.strategyLane with
      | none => ["trade_intent_live_lane_not_approved"]
      | some (direction, right) =>
        (if intent.direction = direction then []
          else ["trade_intent_live_direction_mismatch"]) ++
        (if textEndsWith intent.contractId (":" ++ right) then []
          else ["trade_intent_live_contract_right_mismatch"]))

def tradeDirection (direction : String) : Option TradeDirection :=
  if direction = "up" then some .up else if direction = "down" then some .down else none

/-- The inner `result` of `evaluate_trade_intent_entry`. -/
def tradeIntentResult (intent : TradeIntent) (now : Instant) (reasons : List String)
    (terminal : Bool) (label : Option ShadowLabel := none) (episode : Option Episode := none) :
    Option Episode × EntryDecision :=
  (episode,
    { decisionId := "virtual-entry:" ++ (nonEmpty intent.intentId).getD "unavailable"
      sourceSignalId := nonEmpty intent.intentId
      sourceKind := .tradeIntent
      status := if episode.isSome then .tradeReady else if terminal then .blocked else .observing
      terminal := terminal || episode.isSome
      blockReasons := normalizeBlockReasons reasons
      validUntil := intent.envelope.validUntil.parse
      evaluatedAt := now
      episodeId := episode.map (·.episodeId)
      shadowExecutionLabel := label })

/-- The wait for the external receipt, while it is required: what to answer without one. -/
def receiptWait (intent : TradeIntent) (lookup : ReceiptLookup) (now : Instant) :
    Option (Option Episode × EntryDecision) :=
  let validUntil := intent.envelope.validUntil.parse
  let expired := elapsed validUntil now
  if intent.notificationEventId = "" then
    some (tradeIntentResult intent now ["external_delivery_event_id_unavailable"] true
      (some .censored))
  else if lookup.observable = false then
    some (tradeIntentResult intent now ["external_delivery_receipt_observation_unavailable"] expired
      (some (if expired then .censored else .receiptObservationDegraded)))
  else
    match lookup.receipt with
    | none =>
      some (tradeIntentResult intent now
        [if expired then "external_delivery_receipt_missing_before_expiry"
          else "external_delivery_receipt_pending"]
        expired (some (if expired then .noFill else .waitingReceipt)))
    | some receipt =>
      if receipt.eventId ≠ intent.notificationEventId then
        some (tradeIntentResult intent now ["external_delivery_receipt_event_mismatch"] true
          (some .noFill))
      else if elapsed validUntil receipt.deliveredAt then
        some (tradeIntentResult intent now ["external_delivery_receipt_after_expiry"] true
          (some .noFill))
      else if now < receipt.deliveredAt then
        some (tradeIntentResult intent now ["external_delivery_receipt_in_future"] false
          (some .waitingReceipt))
      else if expired then
        some (tradeIntentResult intent now ["entry_limit_not_reached_after_external_receipt"] true
          (some .noFill))
      else none

/-- The quote, the underlier and the clock of an intent whose contract is in order. -/
def revalidateTradeIntent (intent : TradeIntent) (market : MarketView) (now : Instant)
    (policy : StrategyPolicy) (notBefore : Option Instant) : Option Episode × EntryDecision :=
  match market.actionSnapshot intent notBefore with
  | .error reasons => tradeIntentResult intent now reasons false (some .waitingLimitFill)
  | .ok snapshot =>
    match market.underlier "index:SPX" with
    | .error reasons => tradeIntentResult intent now reasons false
    | .ok spx =>
      match intent.targetSpx, intent.invalidationSpx with
      | some target, some invalidation =>
        let direction := tradeDirection intent.direction
        if direction.any (levelReached (some spx) (some target) · true) then
          tradeIntentResult intent now ["target_reached_before_entry_quote"] true
        else if direction.any (levelReached (some spx) (some invalidation) · false) then
          tradeIntentResult intent now ["invalidation_reached_before_entry_quote"] true
        else
          let stop := intent.timeStopAt.getD
            (now + timedelta (policy.tradeTimeStopMinutes * 60))
          if stop ≤ now then
            tradeIntentResult intent now ["trade_time_stop_elapsed"] true
          else
            match direction with
            | none => tradeIntentResult intent now ["trade_direction_invalid"] true
            | some direction =>
              tradeIntentResult intent now [] true (some .askEntryObserved)
                (some
                  { newEpisode intent.intentId intent.contractId .tradeIntent direction
                      snapshot now stop intent.sessionId with
                    invalidationSpx := some invalidation
                    targetSpx := some target
                    externalDeliveryEventId := nonEmpty intent.notificationEventId })
      | _, _ => tradeIntentResult intent now ["action_underlier_guard_unavailable"] true

/-- `evaluate_trade_intent_entry`; `lookup` is there when a receipt is required. -/
def evaluateTradeIntentEntry (intent : TradeIntent) (market : MarketView) (now : Instant)
    (policy : StrategyPolicy) (expectedPolicyVersion : Option String)
    (lookup : Option ReceiptLookup) : Option Episode × EntryDecision :=
  if intent.intentId = "" then
    tradeIntentResult intent now ["source_signal_id_unavailable"] true
  else if intent.contractId = "" then
    tradeIntentResult intent now ["execution_contract_unavailable"] true
  else if liveTradeIntentAuthorityIssues intent ≠ [] then
    tradeIntentResult intent now (liveTradeIntentAuthorityIssues intent) true
  else
    match lookup.bind (receiptWait intent · now) with
    | some waiting => waiting
    | none =>
      let issues := actionableStrategyContractIssues intent.envelope now
      if issues ≠ [] then
        tradeIntentResult intent now
          (issues.map fun issue =>
            if issue = "strategy_event_expired" then "intent_expired" else issue) true
      else if
          textStartsWith intent.envelope.policyVersion "rth_trade_intent.v3+sha256:" = false then
        tradeIntentResult intent now ["source_policy_incompatible"] true
      else if expectedPolicyVersion.any (fun expected =>
          expected ≠ "" ∧ intent.envelope.policyVersion ≠ expected) then
        tradeIntentResult intent now ["source_policy_version_drift"] true
      else if intent.envelope.coordinate.all (·.kind ≠ "official_spx") then
        tradeIntentResult intent now ["source_coordinate_mismatch"] true
      else
        revalidateTradeIntent intent market now policy
          (lookup.bind fun l => l.receipt.map (·.deliveredAt))

/-! ## GTH signals -/

/-- The inner `result` of `_evaluate_gth_spread_entry`. -/
def gthResult (signal : GthSignal) (now : Instant) (reasons : List String) (terminal : Bool)
    (episode : Option Episode := none) : Option Episode × EntryDecision :=
  (episode,
    { decisionId := "virtual-entry:" ++ (nonEmpty signal.eventId).getD signal.digest
      sourceSignalId := nonEmpty signal.eventId
      sourceKind := .gthDipReclaimCall
      status := if episode.isSome then .virtualReady else if terminal then .blocked else .observing
      terminal := terminal || episode.isSome
      blockReasons := normalizeBlockReasons reasons
      validUntil := signal.envelope.validUntil.parse
      evaluatedAt := now
      episodeId := episode.map (·.episodeId) })

/-- `_gth_signal_age_seconds`, by whether it is there. -/
def gthSignalUsable (signal : GthSignal) (now : Instant) (toleranceSeconds : ℚ) : Bool :=
  match signal.confirmedAt, signal.envelope.validUntil.parse with
  | some confirmedAt, some validUntil =>
    confirmedAt ≤ validUntil ∧ -(max 0 toleranceSeconds) ≤ secondsBetween now confirmedAt ∧
      now < validUntil
  | _, _ => false

/-- `format_strike` of a whole strike, in the canonical id of an SPXW call. -/
def spxwCallId (expiry : String) (strike : ℚ) : String :=
  "option:SPX:SPXW:" ++ expiry ++ ":" ++ toString strike.num ++ ":C"

/-- `session_date.replace("-", "")`. -/
def compactDate (sessionDate : String) : String :=
  String.ofList (sessionDate.toList.filter (· ≠ '-'))

/-- `(value / 5.0).is_integer()`. -/
def multipleOfFive (value : ℚ) : Bool := (value / 5).den = 1

/-- `_gth_spread_contract_ids`. -/
def gthSpreadContractIds (spread : GthSpread) (sessionDate : String) : Option (String × String) :=
  match spread.longStrike, spread.shortStrike with
  | some long, some short =>
    let expiry := compactDate sessionDate
    if spread.right = "C" ∧ 0 < long ∧ long < short ∧ multipleOfFive long ∧ multipleOfFive short ∧
        expiry.length = 8 ∧ expiry.toList.all Char.isDigit then
      some (spxwCallId expiry long, spxwCallId expiry short)
    else none
  | _, _ => none

/-- `math.isclose`. -/
def isClose (a b absTol : ℚ) : Bool := |a - b| ≤ max (max |a| |b| / 1000000000) absTol

variable (calendar : ExpiryCalendar)

/-- `_gth_time_stop`. -/
def gthTimeStop (now : Instant) (policy : StrategyPolicy) : Instant :=
  let candidate := calendar.gthExitClock now
  if candidate ≤ now then now
  else min candidate (now + timedelta (policy.virtualGthTimeStopMinutes * 60))

/-- The spread episode of a signal that passed every check. -/
def gthSpreadEpisode (signal : GthSignal) (spread : GthSpread) (long short : String)
    (snapshot : Snapshot) (now stop : Instant) (invalidationEs : ℚ) : Episode :=
  { newEpisode signal.eventId (long ++ "|-" ++ short) .gthDipReclaimCall .up snapshot now stop
      (nonEmpty signal.sessionDate) with
    debitSpread := true
    spreadWidthPoints := spread.widthPoints
    targetSpx := spread.targetWall
    invalidationEs := some invalidationEs }

/-- The underliers and the clock of a spread whose debit is in order. -/
def revalidateGthSpread (signal : GthSignal) (spread : GthSpread) (long short : String)
    (market : MarketView) (snapshot : Snapshot) (now : Instant) (policy : StrategyPolicy) :
    Option Episode × EntryDecision :=
  let chain := market.chainReference (compactDate signal.sessionDate)
  if spread.targetWall.isSome ∧ chain.isNone then
    gthResult signal now ["chain_implied_target_unavailable"] false
  else if levelReached chain spread.targetWall .up true then
    gthResult signal now ["target_reached_before_entry_quote"] true
  else
    match spread.invalidationEs.or signal.trough with
    | none => gthResult signal now ["gth_invalidation_unavailable"] true
    | some invalidationEs =>
      if spread.invalidationEs.any fun own =>
          signal.trough.any fun trough => isClose own trough (1 / 1000000000) = false then
        gthResult signal now ["gth_invalidation_contract_mismatch"] true
      else
        match market.underlier "future:ES" with
        | .error reasons => gthResult signal now reasons false
        | .ok es =>
          let ownStop := gthTimeStop calendar now policy
          let stop := spread.exitAt.elim ownStop (min ownStop)
          if levelReached (some es) (some invalidationEs) .up false then
            gthResult signal now ["invalidation_reached_before_entry_quote"] true
          else if stop ≤ now then gthResult signal now ["gth_exit_clock_elapsed"] true
          else
            gthResult signal now [] true
              (some (gthSpreadEpisode signal spread long short snapshot now stop
                invalidationEs))

/-- The quotes and the width of a spread whose contracts are in order. -/
def quoteGthSpread (signal : GthSignal) (spread : GthSpread) (long short : String)
    (market : MarketView) (now : Instant) (policy : StrategyPolicy) :
    Option Episode × EntryDecision :=
  match market.spreadSnapshot long short with
  | .error reasons => gthResult signal now reasons false
  | .ok snapshot =>
    match spread.widthPoints, spread.longStrike, spread.shortStrike with
    | some width, some longStrike, some shortStrike =>
      if isClose width (shortStrike - longStrike) 0 = false then
        gthResult signal now ["spread_width_invalid"] true
      else if snapshot.ask.all (· ≤ 0) then
        gthResult signal now ["spread_debit_not_positive"] false
      else if snapshot.ask.any (width ≤ ·) then
        gthResult signal now ["spread_debit_not_below_width"] false
      else revalidateGthSpread calendar signal spread long short market snapshot now policy
    | _, _, _ => gthResult signal now ["spread_width_invalid"] true

/-- `_evaluate_gth_spread_entry`. -/
def evaluateGthSpreadEntry (signal : GthSignal) (market : MarketView) (now : Instant)
    (policy : StrategyPolicy) : Option Episode × EntryDecision :=
  let issues := actionableStrategyContractIssues signal.envelope now
  if signal.eventId = "" then gthResult signal now ["source_signal_id_unavailable"] true
  else if signal.kind ≠ "gth_dip_reclaim_call" then
    gthResult signal now ["source_signal_kind_mismatch"] true
  else if issues ≠ [] then
    gthResult signal now
      (issues.map fun issue =>
        if issue = "strategy_event_expired" then "signal_expired" else issue) true
  else if textStartsWith signal.envelope.policyVersion "gth_dip_reclaim.v4+sha256:" = false then
    gthResult signal now ["source_policy_incompatible"] true
  else if signal.envelope.coordinate.all (·.kind ≠ "raw_es") then
    gthResult signal now ["source_coordinate_mismatch"] true
  else if signal.sessionDate ≠ calendar.researchExpiry now then
    gthResult signal now ["signal_session_mismatch"] true
  else
    match signal.spread with
    | none => gthResult signal now ["exact_spread_contract_unavailable"] true
    | some spread =>
      if gthSignalUsable signal now policy.providerSyncToleranceSeconds = false then
        if signal.confirmedAt.any (now < ·) then
          gthResult signal now ["signal_timestamp_in_future"] false
        else gthResult signal now ["signal_time_contract_invalid"] true
      else if spread.expiryDate ≠ signal.sessionDate then
        gthResult signal now ["spread_expiry_mismatch"] true
      else
        match gthSpreadContractIds spread signal.sessionDate with
        | none => gthResult signal now ["spread_contract_invalid"] true
        | some (long, short) => quoteGthSpread calendar signal spread long short market now policy

/-! ## What an evaluation may answer -/

/-- A fresh episode of the signal `id`: in good health, and an exact spread if it is a GTH one. -/
structure FreshEpisode (id : String) (e : Episode) : Prop where
  source : e.sourceSignalId = id
  status : e.status = .active
  since : e.closePendingSince = none
  reason : e.closePendingReason = none
  action : e.closePendingAction = none
  spread : e.sourceKind = .gthDipReclaimCall → e.debitSpread = true

/-- The answer is about the signal `id`; an episode in it is fresh and makes it terminal. -/
structure Evaluates (id : String) (kind : SourceKind) (answer : Option Episode × EntryDecision) :
    Prop where
  source : answer.2.sourceSignalId = nonEmpty id
  kind : answer.2.sourceKind = kind
  opened : ∀ e, answer.1 = some e → answer.2.terminal = true ∧ FreshEpisode id e

section Evaluations

variable {intent : TradeIntent} {signal : GthSignal} {market : MarketView} {now : Instant}
  {policy : StrategyPolicy} {reasons : List String} {terminal : Bool} {label : Option ShadowLabel}

theorem evaluates_tradeIntentResult {episode : Option Episode}
    (hfresh : ∀ e, episode = some e → FreshEpisode intent.intentId e) :
    Evaluates intent.intentId .tradeIntent
      (tradeIntentResult intent now reasons terminal label episode) := by
  refine ⟨rfl, rfl, fun e he => ⟨?_, hfresh e he⟩⟩
  have hopened : episode = some e := he
  show (terminal || episode.isSome) = true
  rw [hopened, Option.isSome_some, Bool.or_true]

theorem evaluates_tradeIntentRefusal :
    Evaluates intent.intentId .tradeIntent (tradeIntentResult intent now reasons terminal label) :=
  evaluates_tradeIntentResult (by intro e he; cases he)

theorem evaluates_gthResult {episode : Option Episode}
    (hfresh : ∀ e, episode = some e → FreshEpisode signal.eventId e) :
    Evaluates signal.eventId .gthDipReclaimCall
      (gthResult signal now reasons terminal episode) := by
  refine ⟨rfl, rfl, fun e he => ⟨?_, hfresh e he⟩⟩
  have hopened : episode = some e := he
  show (terminal || episode.isSome) = true
  rw [hopened, Option.isSome_some, Bool.or_true]

theorem evaluates_gthRefusal :
    Evaluates signal.eventId .gthDipReclaimCall (gthResult signal now reasons terminal) :=
  evaluates_gthResult (by intro e he; cases he)

theorem evaluates_receiptWait {lookup : ReceiptLookup} {answer : Option Episode × EntryDecision}
    (h : receiptWait intent lookup now = some answer) :
    Evaluates intent.intentId .tradeIntent answer := by
  have hresult : ∀ {reasons terminal label},
      some (tradeIntentResult intent now reasons terminal label) = some answer →
      Evaluates intent.intentId .tradeIntent answer := by
    intro reasons terminal label hsome
    rw [← Option.some.inj hsome]
    exact evaluates_tradeIntentRefusal
  unfold receiptWait at h
  dsimp only at h
  split at h
  · exact hresult h
  split at h
  · exact hresult h
  split at h
  · exact hresult h
  split at h
  · exact hresult h
  split at h
  · exact hresult h
  split at h
  · exact hresult h
  split at h
  · exact hresult h
  · cases h

theorem evaluates_revalidateTradeIntent {notBefore : Option Instant} :
    Evaluates intent.intentId .tradeIntent
      (revalidateTradeIntent intent market now policy notBefore) := by
  unfold revalidateTradeIntent
  split
  · exact evaluates_tradeIntentRefusal
  split
  · exact evaluates_tradeIntentRefusal
  split
  · dsimp only
    split
    · exact evaluates_tradeIntentRefusal
    split
    · exact evaluates_tradeIntentRefusal
    split
    · exact evaluates_tradeIntentRefusal
    split
    · exact evaluates_tradeIntentRefusal
    · refine evaluates_tradeIntentResult fun e he => ?_
      cases he
      exact ⟨rfl, rfl, rfl, rfl, rfl, by intro hkind; cases hkind⟩
  · exact evaluates_tradeIntentRefusal

theorem evaluates_tradeIntent {expected : Option String} {lookup : Option ReceiptLookup} :
    Evaluates intent.intentId .tradeIntent
      (evaluateTradeIntentEntry intent market now policy expected lookup) := by
  unfold evaluateTradeIntentEntry
  split
  · exact evaluates_tradeIntentRefusal
  split
  · exact evaluates_tradeIntentRefusal
  split
  · exact evaluates_tradeIntentRefusal
  split
  · rename_i waiting hwait
    obtain ⟨l, _, hl⟩ := Option.bind_eq_some_iff.mp hwait
    exact evaluates_receiptWait hl
  dsimp only
  split
  · exact evaluates_tradeIntentRefusal
  split
  · exact evaluates_tradeIntentRefusal
  split
  · exact evaluates_tradeIntentRefusal
  split
  · exact evaluates_tradeIntentRefusal
  · exact evaluates_revalidateTradeIntent

theorem evaluates_gth : Evaluates signal.eventId .gthDipReclaimCall
      (evaluateGthSpreadEntry calendar signal market now policy) := by
  have hrevalidate : ∀ spread long short snapshot, Evaluates signal.eventId .gthDipReclaimCall
      (revalidateGthSpread calendar signal spread long short market snapshot now policy) := by
    intro spread long short snapshot
    unfold revalidateGthSpread
    dsimp only
    split
    · exact evaluates_gthRefusal
    split
    · exact evaluates_gthRefusal
    split
    · exact evaluates_gthRefusal
    split
    · exact evaluates_gthRefusal
    split
    · exact evaluates_gthRefusal
    split
    · exact evaluates_gthRefusal
    split
    · exact evaluates_gthRefusal
    · refine evaluates_gthResult fun e he => ?_
      cases he
      exact ⟨rfl, rfl, rfl, rfl, rfl, fun _ => rfl⟩
  have hquote : ∀ spread long short, Evaluates signal.eventId .gthDipReclaimCall
      (quoteGthSpread calendar signal spread long short market now policy) := by
    intro spread long short
    unfold quoteGthSpread
    split
    · exact evaluates_gthRefusal
    split
    · split
      · exact evaluates_gthRefusal
      split
      · exact evaluates_gthRefusal
      split
      · exact evaluates_gthRefusal
      · exact hrevalidate ..
    · exact evaluates_gthRefusal
  unfold evaluateGthSpreadEntry
  dsimp only
  split
  · exact evaluates_gthRefusal
  split
  · exact evaluates_gthRefusal
  split
  · exact evaluates_gthRefusal
  split
  · exact evaluates_gthRefusal
  split
  · exact evaluates_gthRefusal
  split
  · exact evaluates_gthRefusal
  split
  · exact evaluates_gthRefusal
  split
  · split
    · exact evaluates_gthRefusal
    · exact evaluates_gthRefusal
  split
  · exact evaluates_gthRefusal
  split
  · exact evaluates_gthRefusal
  · exact hquote ..

end Evaluations

end SpxSpark.MarketFeatures
