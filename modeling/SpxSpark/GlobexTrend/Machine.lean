import SpxSpark.Lib.Clock
import SpxSpark.Lib.Text

/-!
# Machine — the trend of the future, and the events it emits

Samples of a price are kept for some hours. What they say of several horizons targets a regime, and
a regime that is targeted often enough is switched to.
-/

namespace SpxSpark.GlobexTrend

/-! ## Settings -/

/-- `GlobexTrendSettings`, as far as the machine reads them. -/
structure GlobexTrendSettings where
  sampleIntervalSeconds : Int := 60
  shortHorizonMinutes : Int := 15
  mediumHorizonMinutes : Int := 60
  longHorizonMinutes : Int := 180
  shortMovePoints : ℚ := 7 / 2
  mediumMovePoints : ℚ := 8
  longMovePoints : ℚ := 15
  reversalPoints : ℚ := 10
  confirmationObservations : Nat := 2
  retentionHours : Int := 18
  pendingEventTtlSeconds : Int := 300
  continuationStepPoints : ℚ := 10
  continuationConfirmationObservations : Nat := 2
  continuationCooldownSeconds : Int := 1800
  continuationMaxMilestonesPerTransition : Nat := 2
  continuationSessionBudget : Nat := 3

/-- `ADVANCE_HOLD_BUFFER_POINTS`. -/
def advanceHoldBufferPoints : ℚ := 3 / 2

/-! ## States and events -/

/-- `GlobexTrendRegime`. -/
inductive GlobexTrendRegime
  | neutral | bearish | bullish
  deriving DecidableEq

def GlobexTrendRegime.value : GlobexTrendRegime → Text
  | .neutral => "neutral".toList
  | .bearish => "bearish".toList
  | .bullish => "bullish".toList

inductive Direction
  | up | down
  deriving DecidableEq

def Direction.text : Direction → Text
  | .up => "up".toList
  | .down => "down".toList

def Direction.regime : Direction → GlobexTrendRegime
  | .up => .bullish
  | .down => .bearish

structure Sample where
  at_ : Instant
  sourceAt : Text
  price : ℚ
  provider : Text

structure Metrics where
  price : ℚ
  return15mPoints : Option ℚ
  return60mPoints : Option ℚ
  return180mPoints : Option ℚ
  sessionHigh : ℚ
  sessionLow : ℚ
  regimeHigh : ℚ
  regimeLow : ℚ
  deriving DecidableEq

def Metrics.drawdownFromRegimeHighPoints (metrics : Metrics) : ℚ :=
  metrics.price - metrics.regimeHigh

def Metrics.reboundFromRegimeLowPoints (metrics : Metrics) : ℚ := metrics.price - metrics.regimeLow

inductive TransitionReason
  | confirmedReversalFromRegimeLow
  | confirmedReversalFromRegimeHigh
  | initialShortImpulse
  | multiHorizonDowntrend
  | multiHorizonUptrend
  deriving DecidableEq

structure TransitionEvent where
  eventId : Text
  sessionId : Text
  sequence : Nat
  fromRegime : GlobexTrendRegime
  toRegime : GlobexTrendRegime
  reason : Option TransitionReason
  at_ : Instant
  sourceAt : Text
  price : ℚ
  provider : Text
  metrics : Metrics
  invalidatedAdvisoryId : Option Text

inductive SignalStage
  | entryAdvisory | opportunityManagement
  deriving DecidableEq

/-- An advance or a continuation. -/
structure MilestoneEvent where
  eventId : Text
  sessionId : Text
  sequence : Nat
  regime : GlobexTrendRegime
  direction : Direction
  milestoneIndex : Nat
  anchorPrice : ℚ
  extensionPoints : ℚ
  thresholdPoints : ℚ
  at_ : Instant
  sourceAt : Text
  price : ℚ
  provider : Text
  metrics : Metrics
  advisoryId : Text
  signalStage : SignalStage
  optionRight : Text
  parentAdvisoryId : Option Text
  operatorAction : Text

inductive TrendEvent
  | transition (event : TransitionEvent)
  | advance (event : MilestoneEvent)
  | continuation (event : MilestoneEvent)

def TrendEvent.eventId : TrendEvent → Text
  | .transition event => event.eventId
  | .advance event => event.eventId
  | .continuation event => event.eventId

def TrendEvent.at_ : TrendEvent → Instant
  | .transition event => event.at_
  | .advance event => event.at_
  | .continuation event => event.at_

inductive SuppressedReason
  | continuationGateClosed
  | managementWithoutAcceptedEntryAdvisory
  | entryAdvisoryDeliveryExpired
  deriving DecidableEq

structure TrendState where
  sessionId : Text
  regime : GlobexTrendRegime := .neutral
  candidateRegime : Option GlobexTrendRegime := none
  candidateObservations : Nat := 0
  transitionSequence : Nat := 0
  regimeStartedAt : Option Instant := none
  regimeHigh : Option ℚ := none
  regimeLow : Option ℚ := none
  samples : List Sample := []
  metrics : Option Metrics := none
  lastTransition : Option TransitionEvent := none
  pendingEvent : Option TrendEvent := none
  continuationMilestoneIndex : Nat := 0
  continuationCandidateIndex : Option Nat := none
  continuationCandidateObservations : Nat := 0
  continuationCandidateProvider : Option Text := none
  continuationEventsInContext : Nat := 0
  lastContinuationAt : Option Instant := none
  lastContinuation : Option MilestoneEvent := none
  lastAdvance : Option MilestoneEvent := none
  lastAdvanceAt : Option Instant := none
  advanceMilestoneIndex : Nat := 0
  advanceCandidateIndex : Option Nat := none
  advanceCandidateObservations : Nat := 0
  advanceEventsInSession : Nat := 0
  pendingDirectionalAdvisoryId : Option Text := none
  activeDirectionalAdvisoryId : Option Text := none
  activeDirectionalAdvisoryAcceptedAt : Option Instant := none
  continuationMigrationBudgetConsumed : Bool := false
  continuationSuppressedReason : Option SuppressedReason := none
  updatedAt : Option Instant := none

/-- `initial_state`. -/
def initialState (sessionId : Text) : TrendState where
  sessionId := sessionId

/-! ## What the samples say -/

/-- `max(candidates, key=at)`: the first of the latest. -/
def latestSample : List Sample → Option Sample
  | [] => none
  | first :: rest =>
    some (rest.foldl (fun best row => if best.at_ < row.at_ then row else best) first)

/-- `_horizon_return`. -/
def horizonReturn (samples : List Sample) (at_ : Instant) (price : ℚ) (minutes : Int) : Option ℚ :=
  let target := at_ - minutes * 60000000
  let tolerance := max 180000000 (minutes * 12000000)
  match latestSample (samples.dropLast.filter fun row => row.at_ ≤ target) with
  | none => none
  | some reference =>
    if tolerance < target - reference.at_ then none else some (price - reference.price)

/-- The highest price, from a first one on. -/
def highest (price : ℚ) (samples : List Sample) : ℚ :=
  samples.foldl (fun best row => max best row.price) price

def lowest (price : ℚ) (samples : List Sample) : ℚ :=
  samples.foldl (fun best row => min best row.price) price

/-- `compute_metrics`, of the samples that end with the one now, with the extrema of the regime. -/
def computeMetrics (policy : GlobexTrendSettings) (samples : List Sample) (now : Sample)
    (regimeHigh regimeLow : ℚ) : Metrics where
  price := now.price
  return15mPoints := horizonReturn samples now.at_ now.price policy.shortHorizonMinutes
  return60mPoints := horizonReturn samples now.at_ now.price policy.mediumHorizonMinutes
  return180mPoints := horizonReturn samples now.at_ now.price policy.longHorizonMinutes
  sessionHigh := highest now.price samples
  sessionLow := lowest now.price samples
  regimeHigh := regimeHigh
  regimeLow := regimeLow

/-- The regime that the horizons target while there is none. -/
def targetFromNeutral (policy : GlobexTrendSettings) (short medium long : Option ℚ) :
    Option (GlobexTrendRegime × TransitionReason) :=
  if medium.isNone && long.isNone && short.any (· ≤ -policy.shortMovePoints) then
    some (.bearish, .initialShortImpulse)
  else if medium.isNone && long.isNone && short.any (policy.shortMovePoints ≤ ·) then
    some (.bullish, .initialShortImpulse)
  else if (medium.any (· ≤ -policy.mediumMovePoints) || long.any (· ≤ -policy.longMovePoints)) &&
      short.all (· ≤ 0) then
    some (.bearish, .multiHorizonDowntrend)
  else if (medium.any (policy.mediumMovePoints ≤ ·) || long.any (policy.longMovePoints ≤ ·)) &&
      short.all (0 ≤ ·) then
    some (.bullish, .multiHorizonUptrend)
  else none

/-- `target_regime`. -/
def targetRegime (policy : GlobexTrendSettings) (regime : GlobexTrendRegime) (metrics : Metrics) :
    Option (GlobexTrendRegime × TransitionReason) :=
  match regime with
  | .bearish =>
    if metrics.return15mPoints.any (policy.shortMovePoints ≤ ·) &&
        policy.reversalPoints ≤ metrics.reboundFromRegimeLowPoints then
      some (.bullish, .confirmedReversalFromRegimeLow)
    else none
  | .bullish =>
    if metrics.return15mPoints.any (· ≤ -policy.shortMovePoints) &&
        metrics.drawdownFromRegimeHighPoints ≤ -policy.reversalPoints then
      some (.bearish, .confirmedReversalFromRegimeHigh)
    else none
  | .neutral =>
    targetFromNeutral policy metrics.return15mPoints metrics.return60mPoints
      metrics.return180mPoints

/-! ## Ids -/

def natText (n : Nat) : Text := Nat.toDigits 10 n

def transitionEventId (sessionId : Text) (sequence : Nat) (target : GlobexTrendRegime) : Text :=
  "globex-trend:".toList ++ sessionId ++ ':' :: (natText sequence ++ ':' :: target.value)

def advanceEventId (sessionId : Text) (direction : Direction) (milestone : Nat) : Text :=
  "globex-advance:".toList ++ sessionId ++
    ':' :: (direction.text ++ ":m".toList ++ natText milestone)

def continuationEventId (sessionId : Text) (sequence : Nat) (direction : Direction)
    (milestone : Nat) : Text :=
  "globex-cont:".toList ++ sessionId ++ ':' ::
    (natText sequence ++ ':' :: (direction.text ++ ":m".toList ++ natText milestone))

def advanceAdvisoryId (sessionId : Text) (direction : Direction) (milestone : Nat) : Text :=
  "gth-advance:".toList ++ sessionId ++ ':' :: (direction.text ++ ":m".toList ++ natText milestone)

def advisoryIdOf (sessionId : Text) (sequence : Nat) (direction : Direction) : Text :=
  "gth-advisory:".toList ++ sessionId ++ ':' :: (natText sequence ++ ':' :: direction.text)

def optionRight : Direction → Text
  | .up => "C".toList
  | .down => "P".toList

def evaluateAction : Direction → Text
  | .up => "evaluate_call_setup".toList
  | .down => "evaluate_put_setup".toList

/-! ## Candidates -/

/-- `_reset_advance_candidate`. -/
def TrendState.resetAdvanceCandidate (state : TrendState) : TrendState :=
  { state with advanceCandidateIndex := none, advanceCandidateObservations := 0 }

/-- `_reset_continuation_candidate`. -/
def TrendState.resetContinuationCandidate (state : TrendState) : TrendState :=
  { state with
    continuationCandidateIndex := none
    continuationCandidateObservations := 0
    continuationCandidateProvider := none }

/-- The observations of a candidate, with one more. -/
def countObservation (candidate : Option Nat) (observations milestone : Nat) : Nat :=
  if candidate = some milestone then observations + 1 else 1

/-- The last event was less than the cooldown ago. -/
def coolingDown (policy : GlobexTrendSettings) (last : Option Instant) (at_ : Instant) : Bool :=
  last.any fun last => at_ - last < policy.continuationCooldownSeconds * 1000000

/-! ## Advances -/

/-- The price holds at the high of the session, above its low. -/
def upOk (policy : GlobexTrendSettings) (metrics : Metrics) : Bool :=
  metrics.return15mPoints.any (0 ≤ ·) && metrics.return60mPoints.all (0 ≤ ·) &&
    metrics.return180mPoints.all (0 ≤ ·) &&
    policy.continuationStepPoints ≤ metrics.price - metrics.sessionLow &&
    metrics.sessionHigh - metrics.price ≤ advanceHoldBufferPoints

/-- The price holds at the low of the session, below its high. -/
def downOk (policy : GlobexTrendSettings) (metrics : Metrics) : Bool :=
  metrics.return15mPoints.any (· ≤ 0) && metrics.return60mPoints.all (· ≤ 0) &&
    metrics.return180mPoints.all (· ≤ 0) &&
    policy.continuationStepPoints ≤ metrics.sessionHigh - metrics.price &&
    metrics.price - metrics.sessionLow ≤ advanceHoldBufferPoints

def advanceDirection (policy : GlobexTrendSettings) (metrics : Metrics) : Option Direction :=
  if upOk policy metrics then some .up
  else if downOk policy metrics then some .down
  else none

/-- How far the price is from the extreme behind it. -/
def advanceExtension (metrics : Metrics) : Direction → ℚ
  | .up => metrics.price - metrics.sessionLow
  | .down => metrics.sessionHigh - metrics.price

def advanceAnchor (metrics : Metrics) : Direction → ℚ
  | .up => metrics.sessionLow
  | .down => metrics.sessionHigh

def advanceEvent (policy : GlobexTrendSettings) (sessionId : Text) (now : Sample)
    (metrics : Metrics)
    (direction : Direction) (milestone : Nat) : MilestoneEvent where
  eventId := advanceEventId sessionId direction milestone
  sessionId := sessionId
  sequence := milestone
  regime := direction.regime
  direction := direction
  milestoneIndex := milestone
  anchorPrice := advanceAnchor metrics direction
  extensionPoints := advanceExtension metrics direction
  thresholdPoints := policy.continuationStepPoints * milestone
  at_ := now.at_
  sourceAt := now.sourceAt
  price := now.price
  provider := now.provider
  metrics := metrics
  advisoryId := advanceAdvisoryId sessionId direction milestone
  signalStage := .entryAdvisory
  optionRight := optionRight direction
  parentAdvisoryId := none
  operatorAction := evaluateAction direction

/-- An advance is observed once more. -/
def TrendState.countAdvance (state : TrendState) (milestone : Nat) : TrendState :=
  { state with
    advanceCandidateIndex := some milestone
    advanceCandidateObservations :=
      countObservation state.advanceCandidateIndex state.advanceCandidateObservations milestone }

variable (state : TrendState) (policy : GlobexTrendSettings) (now : Sample)

def TrendState.emitAdvance (metrics : Metrics) (direction : Direction) (milestone : Nat) :
    TrendState × Option TrendEvent :=
  let event := advanceEvent policy state.sessionId now metrics direction milestone
  ({ state with
      advanceMilestoneIndex := milestone
      advanceEventsInSession := state.advanceEventsInSession + 1
      lastAdvanceAt := some now.at_
      lastAdvance := some event
      pendingEvent := some (.advance event) }.resetAdvanceCandidate, some (.advance event))

/-- An advance that is observed often enough is emitted. -/
def TrendState.observeAdvance (metrics : Metrics) (direction : Direction) (milestone : Nat) :
    TrendState × Option TrendEvent :=
  let counted := state.countAdvance milestone
  if counted.advanceCandidateObservations < policy.continuationConfirmationObservations then
    (counted, none)
  else counted.emitAdvance policy now metrics direction milestone

/-- `_advance_session_trend`. -/
def TrendState.advanceSessionTrend (metrics : Metrics) (allowed : Bool) :
    TrendState × Option TrendEvent :=
  if metrics.return15mPoints.isNone ||
      policy.continuationSessionBudget ≤ state.advanceEventsInSession then
    (state.resetAdvanceCandidate, none)
  else
    match advanceDirection policy metrics with
    | none => (state.resetAdvanceCandidate, none)
    | some direction =>
      let milestone := state.advanceMilestoneIndex + 1
      if coolingDown policy state.lastAdvanceAt now.at_ then (state.resetAdvanceCandidate, none)
      else if advanceExtension metrics direction < policy.continuationStepPoints * milestone then
        (state.resetAdvanceCandidate, none)
      else if !allowed then
        ({ state with advanceMilestoneIndex := milestone }.resetAdvanceCandidate, none)
      else state.observeAdvance policy now metrics direction milestone

/-! ## Continuations -/

/-- How far the price has moved on from the anchor. -/
def signedExtension (anchor price : ℚ) : Direction → ℚ
  | .up => price - anchor
  | .down => anchor - price

def regimeDirection : GlobexTrendRegime → Option Direction
  | .neutral => none
  | .bullish => some .up
  | .bearish => some .down

def continuationEvent (policy : GlobexTrendSettings) (sessionId : Text) (now : Sample)
    (metrics : Metrics) (transition : TransitionEvent) (direction : Direction) (milestone : Nat)
    (parent : Option Text) : MilestoneEvent where
  eventId := continuationEventId sessionId transition.sequence direction milestone
  sessionId := sessionId
  sequence := transition.sequence
  regime := direction.regime
  direction := direction
  milestoneIndex := milestone
  anchorPrice := transition.price
  extensionPoints := signedExtension transition.price now.price direction
  thresholdPoints := policy.continuationStepPoints * milestone
  at_ := now.at_
  sourceAt := now.sourceAt
  price := now.price
  provider := now.provider
  metrics := metrics
  advisoryId := advisoryIdOf sessionId transition.sequence direction
  signalStage := if milestone = 1 then .entryAdvisory else .opportunityManagement
  optionRight := optionRight direction
  parentAdvisoryId := parent
  operatorAction :=
    if milestone = 1 then evaluateAction direction
    else "conditional_take_profit_or_raise_stop".toList

def TrendState.emitContinuation (metrics : Metrics) (transition : TransitionEvent)
    (direction : Direction) (milestone : Nat) (parent : Option Text) :
    TrendState × Option TrendEvent :=
  let event :=
    continuationEvent policy state.sessionId now metrics transition direction milestone parent
  ({ state with
      pendingDirectionalAdvisoryId :=
        if milestone = 1 then some event.advisoryId else state.pendingDirectionalAdvisoryId
      continuationMilestoneIndex := milestone
      continuationEventsInContext := state.continuationEventsInContext + 1
      lastContinuationAt := some now.at_
      lastContinuation := some event
      continuationSuppressedReason := none
      pendingEvent := some (.continuation event) }.resetContinuationCandidate,
    some (.continuation event))

/-- A continuation is observed once more. -/
def TrendState.countContinuation (state : TrendState) (now : Sample) (milestone : Nat) :
    TrendState :=
  { state with
    continuationCandidateIndex := some milestone
    continuationCandidateObservations := countObservation state.continuationCandidateIndex
      state.continuationCandidateObservations milestone
    continuationCandidateProvider := some now.provider }

/-- A continuation that is observed often enough is emitted. One behind the first needs an entry
that was accepted. -/
def TrendState.observeContinuation (metrics : Metrics) (transition : TransitionEvent)
    (direction : Direction) (milestone : Nat) : TrendState × Option TrendEvent :=
  let counted := state.countContinuation now milestone
  if counted.continuationCandidateObservations < policy.continuationConfirmationObservations then
    (counted, none)
  else if milestone = 1 then
    counted.emitContinuation policy now metrics transition direction milestone none
  else
    match state.activeDirectionalAdvisoryId.filter (fun parent => !parent.isEmpty) with
    | none =>
      ({ counted with
          continuationSuppressedReason := some .managementWithoutAcceptedEntryAdvisory
        }.resetContinuationCandidate, none)
    | some parent =>
      counted.emitContinuation policy now metrics transition direction milestone (some parent)

/-- The transition and the direction to continue in, where there are more milestones. -/
def TrendState.continues (state : TrendState) (policy : GlobexTrendSettings) :
    Option (TransitionEvent × Direction) :=
  if policy.continuationSessionBudget ≤ state.continuationEventsInContext ||
      policy.continuationMaxMilestonesPerTransition ≤ state.continuationMilestoneIndex then none
  else
    match regimeDirection state.regime, state.lastTransition with
    | some direction, some transition => some (transition, direction)
    | _, _ => none

/-- `_advance_continuation`. -/
def TrendState.advanceContinuation (metrics : Metrics) (allowed : Bool) :
    TrendState × Option TrendEvent :=
  match state.continues policy with
  | none => (state.resetContinuationCandidate, none)
  | some (transition, direction) =>
    let milestone := state.continuationMilestoneIndex + 1
    if signedExtension transition.price now.price direction <
        policy.continuationStepPoints * milestone then
      (state.resetContinuationCandidate, none)
    else if coolingDown policy state.lastContinuationAt now.at_ then
      (state.resetContinuationCandidate, none)
    else if !allowed then
      ({ state with
          continuationMilestoneIndex := milestone
          continuationSuppressedReason := some .continuationGateClosed
        }.resetContinuationCandidate, none)
    else state.observeContinuation policy now metrics transition direction milestone

/-! ## Transitions -/

def transitionEvent (state : TrendState) (now : Sample) (metrics : Metrics)
    (target : GlobexTrendRegime) (reason : TransitionReason) : TransitionEvent where
  eventId := transitionEventId state.sessionId (state.transitionSequence + 1) target
  sessionId := state.sessionId
  sequence := state.transitionSequence + 1
  fromRegime := state.regime
  toRegime := target
  reason := some reason
  at_ := now.at_
  sourceAt := now.sourceAt
  price := now.price
  provider := now.provider
  metrics := metrics
  invalidatedAdvisoryId := state.activeDirectionalAdvisoryId.filter (fun id => !id.isEmpty)

def TrendState.switchRegime (state : TrendState) (now : Sample) (metrics : Metrics)
    (target : GlobexTrendRegime) (reason : TransitionReason) : TrendState × Option TrendEvent :=
  let event := transitionEvent state now metrics target reason
  ({ state with
      regime := target
      candidateRegime := none
      candidateObservations := 0
      transitionSequence := state.transitionSequence + 1
      regimeStartedAt := some now.at_
      regimeHigh := some now.price
      regimeLow := some now.price
      lastTransition := some event
      pendingEvent := some (.transition event)
      continuationMilestoneIndex := 0
      lastContinuationAt := none
      pendingDirectionalAdvisoryId := none
      activeDirectionalAdvisoryId := none
      activeDirectionalAdvisoryAcceptedAt := none
      continuationEventsInContext :=
        if state.continuationMigrationBudgetConsumed then 0 else state.continuationEventsInContext
      continuationMigrationBudgetConsumed := false
      continuationSuppressedReason := none }.resetContinuationCandidate, some (.transition event))

/-- A regime is targeted once more. -/
def TrendState.countTarget (state : TrendState) (target : GlobexTrendRegime) : TrendState :=
  { state.resetContinuationCandidate with
    candidateRegime := some target
    candidateObservations :=
      if state.candidateRegime = some target then state.candidateObservations + 1 else 1 }

/-- A regime that is targeted often enough is switched to. -/
def TrendState.observeTarget (metrics : Metrics) (target : GlobexTrendRegime)
    (reason : TransitionReason) : TrendState × Option TrendEvent :=
  let counted := state.countTarget target
  if counted.candidateObservations < policy.confirmationObservations then (counted, none)
  else counted.switchRegime now metrics target reason

/-! ## One sample -/

/-- A sample is taken unless the quote is the last one again, or comes too early. -/
def TrendState.accepts : Bool :=
  state.samples.getLast?.all fun last =>
    last.sourceAt ≠ now.sourceAt &&
      policy.sampleIntervalSeconds * 1000000 ≤ now.at_ - last.at_

/-- The samples that are kept, with one more. -/
def TrendState.keptSamples : List Sample :=
  (state.samples ++ [now]).filter fun row => now.at_ - policy.retentionHours * 3600000000 ≤ row.at_

/-- `_update_regime_extrema` and the metrics of a sample. -/
def TrendState.measure : Metrics :=
  computeMetrics policy (state.keptSamples policy now) now
    (match state.regimeHigh with
      | some high => max high now.price
      | none => now.price)
    (match state.regimeLow with
      | some low => min low now.price
      | none => now.price)

/-- The state with a sample and its metrics. -/
def TrendState.take : TrendState :=
  let metrics := state.measure policy now
  { state with
    samples := state.keptSamples policy now
    regimeHigh := some metrics.regimeHigh
    regimeLow := some metrics.regimeLow
    metrics := some metrics
    updatedAt := some now.at_ }

/-- The other regime that a sample targets. -/
def TrendState.target : Option (GlobexTrendRegime × TransitionReason) :=
  (targetRegime policy state.regime (state.measure policy now)).filter (·.1 ≠ state.regime)

/-- The state with a sample that targets no other regime. -/
def TrendState.settled : TrendState :=
  { state.take policy now with candidateRegime := none, candidateObservations := 0 }

/-- `advance_trend_state`, of a sample that is taken. -/
def TrendState.decideSample (allowed : Bool) : TrendState × Option TrendEvent :=
  let metrics := state.measure policy now
  match state.target policy now with
  | some (target, reason) =>
    (state.take policy now).observeTarget policy now metrics target reason
  | none =>
    if state.regime = .neutral then
      (state.settled policy now).advanceSessionTrend policy now metrics allowed
    else (state.settled policy now).advanceContinuation policy now metrics allowed

/-- `advance_trend_state`. -/
def advanceTrendState (policy : GlobexTrendSettings) (state : TrendState) (sessionId : Text)
    (now : Sample) (allowed : Bool) : TrendState × Option TrendEvent :=
  let current := if state.sessionId = sessionId then state else initialState sessionId
  if current.accepts policy now then current.decideSample policy now allowed
  else ({ current with updatedAt := some now.at_ }, none)

/-! ## The service -/

/-- `acknowledge_advisory_delivery`. -/
def TrendState.acknowledgeAdvisoryDelivery (state : TrendState) (event : TrendEvent)
    (acceptedAt : Instant) : TrendState :=
  match event with
  | .transition _ => state
  | .advance event | .continuation event =>
    if event.signalStage ≠ .entryAdvisory then state
    else if event.advisoryId ≠ [] ∧ state.pendingDirectionalAdvisoryId = some event.advisoryId then
      { state with
        pendingDirectionalAdvisoryId := none
        activeDirectionalAdvisoryId := some event.advisoryId
        activeDirectionalAdvisoryAcceptedAt := some acceptedAt }
    else state

/-- The advisory that a pending event enters by. -/
def TrendEvent.entryAdvisory : TrendEvent → Option Text
  | .transition _ => none
  | .advance event | .continuation event =>
    if event.signalStage = .entryAdvisory then some event.advisoryId else none

/-- `reconcile_acknowledged_advisory`. -/
def TrendState.reconcileAcknowledgedAdvisory (state : TrendState) (acknowledged : List Text)
    (acceptedAt : Instant) : TrendState :=
  match state.pendingEvent with
  | none => state
  | some event =>
    if event.entryAdvisory.isSome && acknowledged.contains event.eventId then
      let reconciled := state.acknowledgeAdvisoryDelivery event acceptedAt
      if reconciled.activeDirectionalAdvisoryId = event.entryAdvisory then
        { reconciled with pendingEvent := none }
      else reconciled
    else state

/-- `expire_pending_advisory`. -/
def TrendState.expirePendingAdvisory (state : TrendState) (event : TrendEvent) : TrendState :=
  if event.entryAdvisory.any (fun id => !id.isEmpty) &&
      state.pendingDirectionalAdvisoryId = event.entryAdvisory then
    { state with
      pendingDirectionalAdvisoryId := none
      continuationSuppressedReason := some .entryAdvisoryDeliveryExpired }
  else state

/-- `pending_event`: what it leaves of the state. -/
def TrendState.expirePending (state : TrendState) (policy : GlobexTrendSettings) (now : Instant) :
    TrendState :=
  match state.pendingEvent with
  | none => state
  | some event =>
    if policy.pendingEventTtlSeconds * 1000000 < now - event.at_ then
      { state.expirePendingAdvisory event with pendingEvent := none }
    else state

/-- The end of a cycle whose alert was acknowledged. -/
def TrendState.acknowledgePending (state : TrendState) (eventId : Text) (acceptedAt : Instant) :
    TrendState :=
  match state.pendingEvent with
  | none => state
  | some event =>
    if event.eventId = eventId then
      { state.acknowledgeAdvisoryDelivery event acceptedAt with pendingEvent := none }
    else state

end SpxSpark.GlobexTrend
