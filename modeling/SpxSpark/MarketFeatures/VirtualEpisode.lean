import SpxSpark.Lib.Clock

/-!
# VirtualEpisode — the life of one virtual position

An open episode is looked at once a tick. A terminal trigger ends it at the bid of its own mark;
when there is no bid the episode waits as close-pending, with the reason that was seen first, until
a bid comes back or a deadline passes.
-/

namespace SpxSpark.MarketFeatures

/-- What the strategy asks of the exchange calendar. -/
structure ExpiryCalendar where
  /-- `_session_day`: the day a session id names. -/
  sessionDay : String → Option ℤ
  /-- The New York day of an instant. -/
  dayEt : Instant → ℤ
  /-- 13:00 New York time of a day. -/
  hardExitClock : ℤ → Instant
  /-- `session(day).close_at`, if the day trades. -/
  closeAt : ℤ → Option Instant
  /-- `research_expiry(now).isoformat()`. -/
  researchExpiry : Instant → String
  /-- The GTH exit clock on the expiry of an instant. -/
  gthExitClock : Instant → Instant

structure StrategyPolicy where
  virtualStrategyEnabled : Bool := true
  tradeQuoteMaxAgeSeconds : ℚ := 15
  providerSyncToleranceSeconds : ℚ := 5
  tradeTimeStopMinutes : ℚ := 15
  virtualGthTimeStopMinutes : ℚ := 810
  virtualGthSpreadSaturationFraction : ℚ := 85 / 100
  virtualProfitTakeFraction : ℚ := 30 / 100
  virtualWallTouchPoints : ℚ := 5
  greekDeltaSaturation : ℚ := 85 / 100
  virtualIvDropVolPoints : ℚ := 1
  virtualGammaRetentionFraction : ℚ := 60 / 100

/-! ## Episodes -/

inductive SourceKind
  | tradeIntent
  | gthDipReclaimCall
  deriving DecidableEq

inductive TradeDirection
  | up
  | down
  deriving DecidableEq

inductive ExitReason
  | timeStop
  | strategyInvalidation
  | gthDipLowBroken
  | spreadValueSaturation
  | premiumProfitTarget
  | underlierTargetReached
  | callWallTouched
  | deltaSaturated
  | postEventIvCrushVannaDrag
  | gammaConvexityDecayed
  | underlierDataUnavailable
  | optionMarkUnavailable
  deriving DecidableEq

inductive ExitAction
  | exit
  | takeProfitOrExit
  | takeProfitOrReduce
  | takeProfit
  | reduce
  | exitOrVerify
  | closePending
  | censor
  deriving DecidableEq

inductive EpisodeStatus
  | active
  | closePending
  deriving DecidableEq

inductive HealthStatus
  | healthy
  | degraded
  deriving DecidableEq

/-- `health_reason`: a reason, with the suffix it gets while the exit waits for its bid. -/
structure HealthReason where
  reason : ExitReason
  exitBidUnavailable : Bool
  deriving DecidableEq

/-- A mark of the position; every field may be missing. -/
structure Snapshot where
  mid : Option ℚ := none
  bid : Option ℚ := none
  ask : Option ℚ := none
  iv : Option ℚ := none
  delta : Option ℚ := none
  gammaPerPoint : Option ℚ := none
  colorGammaPerMinute : Option ℚ := none
  vannaDeltaPerVolPoint : Option ℚ := none
  qualityOk : Bool := false
  deriving DecidableEq

/-- What the digest in an episode id is taken of. -/
structure EpisodeId where
  sourceId : String
  contractId : String
  deriving DecidableEq

structure Episode where
  episodeId : EpisodeId
  sourceSignalId : String
  sourceKind : SourceKind
  /-- `position_type` is `call_debit_spread`. -/
  debitSpread : Bool
  sessionId : Option String
  direction : TradeDirection
  contractId : String
  openedAt : Instant
  timeStopAt : Instant
  validUntil : Option Instant
  entryMid : Option ℚ
  entryIv : Option ℚ
  entryGamma : Option ℚ
  spreadWidthPoints : Option ℚ
  invalidationSpx : Option ℚ
  targetSpx : Option ℚ
  invalidationEs : Option ℚ
  externalDeliveryEventId : Option String
  status : EpisodeStatus
  healthStatus : HealthStatus
  healthReason : Option HealthReason
  healthSince : Option Instant
  healthRecoveredAt : Option Instant
  lastHealthObservedAt : Option Instant
  closePendingSince : Option Instant
  closePendingReason : Option ExitReason
  closePendingAction : Option ExitAction
  mfeFraction : ℚ
  maeFraction : ℚ
  lastObservedAt : Option Instant
  last : Option Snapshot
  deriving DecidableEq

structure EpisodeTick where
  now : Instant
  policy : StrategyPolicy
  /-- `_active_snapshot`, missing when it is empty. -/
  mark : Option Snapshot
  /-- `_spx_reference`. -/
  spx : Option ℚ
  es : Option ℚ
  callWall : Option ℚ
  postEvent : Bool
  decisionGrade : Bool

/-- `_number(current.get("bid"))`. -/
def EpisodeTick.bid (t : EpisodeTick) : Option ℚ := t.mark.bind (·.bid)

variable (calendar : ExpiryCalendar)

/-! ## Clocks -/

/-- The day of an episode's session, or else of its opening. -/
def Episode.sessionDay (e : Episode) : ℤ :=
  (e.sessionId.bind calendar.sessionDay).getD (calendar.dayEt e.openedAt)

/-- `_rth_trade_hard_exit`. -/
def rthTradeHardExit (e : Episode) : Option Instant :=
  match e.sourceKind with
  | .tradeIntent => some (calendar.hardExitClock (e.sessionDay calendar))
  | .gthDipReclaimCall => none

/-- The time stop, capped for a trade intent. -/
def effectiveStop (e : Episode) : Instant :=
  match rthTradeHardExit calendar e with
  | some hardExit => min e.timeStopAt hardExit
  | none => e.timeStopAt

/-- `_cap_rth_trade_episode`. -/
def capRthTradeEpisode (e : Episode) : Episode :=
  let stop := effectiveStop calendar e
  { e with
    timeStopAt := stop
    validUntil :=
      if (rthTradeHardExit calendar e).isNone ∨ e.validUntil.any (· ≤ stop) then e.validUntil
      else some stop }

/-- `_episode_session_close`. -/
def episodeSessionClose (e : Episode) : Option Instant := calendar.closeAt (e.sessionDay calendar)

/-- The earlier of a deadline and the session close, if the day has one. -/
def noLaterThanClose (e : Episode) (deadline : Instant) : Instant :=
  match episodeSessionClose calendar e with
  | some close => min deadline close
  | none => deadline

/-- `_episode_censor_at`. -/
def episodeCensorAt (e : Episode) (stop : Instant) (policy : StrategyPolicy) : Instant :=
  noLaterThanClose calendar e (stop + timedelta (max 0 policy.tradeQuoteMaxAgeSeconds))

/-- `_locked_exit_censor_at`. -/
def lockedExitCensorAt (e : Episode) (stop : Instant) : Instant := noLaterThanClose calendar e stop

/-- The instant from which a pending exit is given up. -/
def censorDeadline (e : Episode) (reason : ExitReason) (policy : StrategyPolicy) : Instant :=
  if reason = .timeStop then episodeCensorAt calendar e (effectiveStop calendar e) policy
  else lockedExitCensorAt calendar e (effectiveStop calendar e)

/-! ## The exit decision -/

/-- `_TERMINAL_EXIT_ACTIONS`, with its default. -/
def terminalExitAction : ExitReason → ExitAction
  | .timeStop => .exit
  | .strategyInvalidation => .exit
  | .gthDipLowBroken => .exit
  | .spreadValueSaturation => .takeProfitOrExit
  | .premiumProfitTarget => .takeProfitOrReduce
  | .underlierTargetReached => .takeProfit
  | .callWallTouched => .takeProfitOrReduce
  | .deltaSaturated => .reduce
  | .postEventIvCrushVannaDrag => .takeProfitOrExit
  | .gammaConvexityDecayed => .exit
  | .underlierDataUnavailable => .exit
  | .optionMarkUnavailable => .exit

/-- `_terminal_exit`. -/
def terminalExit (t : EpisodeTick) (reason : ExitReason) (action : ExitAction) :
    ExitReason × ExitAction :=
  if t.bid.isNone then (reason, .closePending) else (reason, action)

/-- `_locked_pending_reason`. -/
def lockedPendingReason (e : Episode) : Option ExitReason :=
  if e.status = .closePending then e.closePendingReason else none

/-- `_level_reached`. -/
def levelReached (price level : Option ℚ) (direction : TradeDirection) (target : Bool) : Bool :=
  match price, level with
  | some price, some level =>
    match target, direction with
    | true, .up => level ≤ price
    | true, .down => price ≤ level
    | false, .up => price ≤ level
    | false, .down => level ≤ price
  | _, _ => false

variable (e : Episode) (t : EpisodeTick)

/-- The spread is worth nearly its width. -/
def spreadSaturated : Bool :=
  match e.spreadWidthPoints, t.mark.bind (·.mid) with
  | some width, some mid => width * t.policy.virtualGthSpreadSaturationFraction ≤ mid
  | _, _ => false

/-- The premium has gained its target fraction. -/
def profitTaken : Bool :=
  match e.entryMid, t.mark.bind (·.mid) with
  | some entryMid, some mid =>
    entryMid ≠ 0 ∧ t.policy.virtualProfitTakeFraction ≤ mid / entryMid - 1
  | _, _ => false

/-- A GTH position within reach of the call wall. -/
def callWallTouched : Bool :=
  match t.callWall, t.spx with
  | some wall, some spx =>
    e.sourceKind = .gthDipReclaimCall ∧ wall - t.policy.virtualWallTouchPoints ≤ spx
  | _, _ => false

/-- `greek_exit_allowed`. -/
def greekExitAllowed (t : EpisodeTick) : Bool := t.decisionGrade && t.mark.any (·.qualityOk)

def deltaSaturated (t : EpisodeTick) : Bool :=
  t.policy.greekDeltaSaturation ≤ |(t.mark.bind (·.delta)).getD 0|

/-- The implied volatility fell after the event, against a long vanna. -/
def ivCrushed : Bool :=
  match e.entryIv, t.mark.bind (·.iv), t.mark.bind (·.vannaDeltaPerVolPoint) with
  | some entryIv, some iv, some vanna =>
    t.postEvent ∧ t.policy.virtualIvDropVolPoints ≤ (entryIv - iv) * 100 ∧ 0 < vanna
  | _, _, _ => false

/-- The convexity decayed and goes on decaying. -/
def gammaDecayed : Bool :=
  match e.entryGamma, t.mark.bind (·.gammaPerPoint), t.mark.bind (·.colorGammaPerMinute) with
  | some entryGamma, some gamma, some color =>
    0 < entryGamma ∧ gamma / entryGamma ≤ t.policy.virtualGammaRetentionFraction ∧ color < 0
  | _, _, _ => false

/-- The triggers an open episode is watched for before its time stop, in their order. -/
def marketExit : Option (ExitReason × ExitAction) :=
  if (e.invalidationSpx.isSome ∨ e.targetSpx.isSome) ∧ t.spx.isNone then
    some (.underlierDataUnavailable, .exitOrVerify)
  else if levelReached t.spx e.invalidationSpx e.direction false then
    some (terminalExit t .strategyInvalidation .exit)
  else if e.invalidationEs.isSome ∧ t.es.isNone then
    some (.underlierDataUnavailable, .exitOrVerify)
  else if levelReached t.es e.invalidationEs e.direction false then
    some (terminalExit t .gthDipLowBroken .exit)
  else if e.debitSpread ∧ spreadSaturated e t then
    some (terminalExit t .spreadValueSaturation .takeProfitOrExit)
  else if ¬e.debitSpread ∧ profitTaken e t then
    some (terminalExit t .premiumProfitTarget .takeProfitOrReduce)
  else if levelReached t.spx e.targetSpx e.direction true then
    some (terminalExit t .underlierTargetReached .takeProfit)
  else if callWallTouched e t then
    some (terminalExit t .callWallTouched .takeProfitOrReduce)
  else if greekExitAllowed t ∧ deltaSaturated t then
    some (terminalExit t .deltaSaturated .reduce)
  else if greekExitAllowed t ∧ ivCrushed e t then
    some (terminalExit t .postEventIvCrushVannaDrag .takeProfitOrExit)
  else if greekExitAllowed t ∧ gammaDecayed e t then
    some (terminalExit t .gammaConvexityDecayed .exit)
  else if (t.mark.bind (·.mid)).isNone then some (.optionMarkUnavailable, .exitOrVerify)
  else none

/-- The exit of an episode that is already waiting for a bid. -/
def lockedExit (reason : ExitReason) : ExitReason × ExitAction :=
  if t.bid.isSome then (reason, e.closePendingAction.getD (terminalExitAction reason))
  else if censorDeadline calendar e reason t.policy ≤ t.now then (reason, .censor)
  else (reason, .closePending)

/-- The exit of an episode that reaches its time stop. -/
def timeStopExit : ExitReason × ExitAction :=
  if t.bid.isSome then (.timeStop, .exit)
  else if censorDeadline calendar e .timeStop t.policy ≤ t.now then (.timeStop, .censor)
  else (.timeStop, .closePending)

/-- `_exit_decision`. -/
def exitDecision : Option (ExitReason × ExitAction) :=
  match lockedPendingReason e with
  | some reason => some (lockedExit calendar e t reason)
  | none =>
    if effectiveStop calendar e ≤ t.now then some (timeStopExit calendar e t)
    else marketExit e t

/-! ## The lifecycle transition -/

/-- `_mark_episode_degraded`. -/
def markEpisodeDegraded (e : Episode) (reason : ExitReason) (now : Instant) (closePending : Bool) :
    Episode :=
  let transitioned := e.healthStatus ≠ .degraded
  { e with
    status := if closePending then .closePending else .active
    healthStatus := .degraded
    healthReason := some ⟨reason, closePending⟩
    healthSince := if transitioned then some now else e.healthSince.or (some now)
    healthRecoveredAt := if transitioned then none else e.healthRecoveredAt
    lastHealthObservedAt := some now
    closePendingSince := if closePending then e.closePendingSince.or (some now)
      else e.closePendingSince
    closePendingReason := if closePending then e.closePendingReason.or (some reason)
      else e.closePendingReason
    closePendingAction := if closePending then
        e.closePendingAction.or (some (terminalExitAction reason))
      else e.closePendingAction }

/-- `_recover_episode_health`. -/
def recoverEpisodeHealth (e : Episode) (now : Instant) : Episode :=
  { e with
    status := .active
    healthStatus := .healthy
    healthRecoveredAt := if e.healthStatus = .degraded then some now else e.healthRecoveredAt
    healthReason := none
    healthSince := none
    lastHealthObservedAt := none
    closePendingSince := none
    closePendingReason := none
    closePendingAction := none }

/-- `last_censored`. -/
structure CensoredEpisode where
  episode : Episode
  censoredAt : Instant
  censorReason : ExitReason

/-- `last_closed`: the episode in good health, with what it was waiting for, if it was. -/
structure ClosedEpisode where
  episode : Episode
  closePendingSince : Option Instant
  closePendingReason : Option ExitReason
  closePendingAction : Option ExitAction
  closedAt : Instant
  exitReason : ExitReason
  exitAction : ExitAction
  exitBid : Option ℚ

/-- What a tick leaves of an episode. -/
inductive EpisodeOutcome
  | held (e : Episode)
  | censored (record : CensoredEpisode)
  | closed (record : ClosedEpisode)

/-- `_lifecycle_transition`, with the record of a close. -/
def lifecycleTransition : Option (ExitReason × ExitAction) → EpisodeOutcome
  | some (reason, .exitOrVerify) => .held (markEpisodeDegraded e reason t.now false)
  | some (reason, .closePending) => .held (markEpisodeDegraded e reason t.now true)
  | some (reason, .censor) => .censored ⟨e, t.now, reason⟩
  | some (reason, action) =>
    .closed
      { episode := recoverEpisodeHealth e t.now
        closePendingSince := e.closePendingSince
        closePendingReason := e.closePendingReason
        closePendingAction := e.closePendingAction
        closedAt := t.now
        exitReason := reason
        exitAction := action
        exitBid := t.bid }
  | none => .held (recoverEpisodeHealth e t.now)

/-- The return of the position at a tick, where both mids are there. -/
def returnFraction : Option ℚ :=
  match e.entryMid, t.mark.bind (·.mid) with
  | some entryMid, some mid => if entryMid = 0 then none else some (mid / entryMid - 1)
  | _, _ => none

/-- The mark of a tick, written into the episode. -/
def observeEpisode : Episode :=
  { e with
    lastObservedAt := some t.now
    last := t.mark.or e.last
    mfeFraction := (returnFraction e t).elim e.mfeFraction (max e.mfeFraction)
    maeFraction := (returnFraction e t).elim e.maeFraction (min e.maeFraction) }

/-- One tick of an open episode. -/
def stepEpisode : EpisodeOutcome :=
  lifecycleTransition (observeEpisode e t) t (exitDecision calendar e t)

end SpxSpark.MarketFeatures
