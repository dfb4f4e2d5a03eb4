import Mathlib.Data.List.MinMax
import Mathlib.Data.Prod.Lex
import SpxSpark.Lib.Clock

/-!
# LevelDecision — the wall/flip decision state machine

One level is watched at a time. An observation arms the nearest published level, and later ones take
the event through testing, a pending thesis, acceptance, an optional retest and confirmation, or end
it.
-/

namespace SpxSpark.OrderMap

/-- `value or default` on a text. -/
def orText (value : Option String) (default : String) : String :=
  match value with
  | some text => if text = "" then default else text
  | none => default

/-! ## Levels, settings and observations -/

inductive LevelPhase
  | far
  | approaching
  | testing
  | breakPending
  | rejectPending
  | accepted
  | rejected
  | retest
  | confirmed
  | invalidated
  | expired
  deriving DecidableEq

inductive LevelThesis
  | none
  | breakout
  | fade
  deriving DecidableEq

/-- The level kinds of `LEVEL_OUTSIDE_DIRECTION`; the machine looks at no others. -/
inductive LevelKind
  | putWall
  | flipLow
  | flipHigh
  | callWall
  deriving DecidableEq

namespace LevelKind

/-- `LEVEL_OUTSIDE_DIRECTION`. -/
def outsideDirection : LevelKind → ℤ
  | .putWall => -1
  | .flipLow => -1
  | .flipHigh => 1
  | .callWall => 1

def all : List LevelKind := [.putWall, .flipLow, .flipHigh, .callWall]

theorem mem_all (kind : LevelKind) : kind ∈ all := by cases kind <;> simp [all]

/-- The place of a kind's name in text order. -/
def nameRank : LevelKind → ℕ
  | .callWall => 0
  | .flipHigh => 1
  | .flipLow => 2
  | .putWall => 3

end LevelKind

abbrev Levels := LevelKind → Option ℚ

structure LevelDecisionSettings where
  approachPoints : ℚ := 12
  testPoints : ℚ := 4
  breakBufferPoints : ℚ := 3
  rejectPoints : ℚ := 6
  acceptHoldSeconds : ℚ := 20
  retestPoints : ℚ := 4
  confirmMovePoints : ℚ := 4
  confirmHoldSeconds : ℚ := 10
  phaseTimeoutSeconds : ℚ := 90
  eventTtlSeconds : ℚ := 300
  dataGraceSeconds : ℚ := 30
  structureDriftPoints : ℚ := 5
  esConfirmRatio : ℚ := 1 / 4
  terminalRearmSeconds : ℚ := 30

structure LevelObservation where
  at' : Instant
  spot : Option ℚ
  es : Option ℚ
  levels : Levels
  qualityOk : Bool
  qualityReason : Option String := none
  sessionDate : String := ""
  sessionMode : String := "unknown"
  spxLevels : Levels := fun _ => none
  triggerCoordinateKind : String := "unknown"
  triggerInstrumentId : Option String := none
  triggerBasisPoints : Option ℚ := none
  spxSpot : Option ℚ := none
  armAllowed : Bool := true
  armBlockReason : Option String := none

namespace LevelPhase

/-- `TERMINAL_PHASES`. -/
def terminal : LevelPhase → Bool
  | .invalidated | .expired => true
  | _ => false

/-- `PHASE_TIMEOUT_PHASES`. -/
def timesOut : LevelPhase → Bool
  | .breakPending | .rejectPending | .accepted | .rejected | .retest => true
  | _ => false

end LevelPhase

/-! ## States -/

/-- The four `quality_…` keys. -/
structure Quality where
  status : Option String
  reason : Option String
  degradedAt : Option Instant
  failedAt : Option Instant

def Quality.clear : Quality := ⟨none, none, none, none⟩

/-- What `_event_id` hashes. -/
structure LevelEventId where
  sessionDate : String
  kind : LevelKind
  level : ℚ
  at' : Instant

/-- A `…_seen_at` key with its `…_seen_spot`. -/
structure Sighting where
  at' : Instant
  spot : ℚ

/-- The `confirmation_start_…` keys. -/
structure ConfirmationStart where
  at' : Instant
  spot : ℚ
  es : ℚ

inductive ConfirmationMode
  | retest
  | sustained
  deriving DecidableEq

inductive Direction
  | up
  | down
  deriving DecidableEq

/-- The `coordinate_upgraded_…` keys. -/
structure CoordinateUpgrade where
  at' : Instant
  fromKind : String
  basisPoints : Option ℚ

/-- The state between two events. -/
structure FarState where
  nextReentryGeneration : ℕ
  rearmGuard : Option (LevelKind × ℚ)
  reason : Option String
  updatedAt : Instant
  quality : Quality

/-- The state of an armed event. -/
structure LevelEvent where
  eventId : LevelEventId
  reentryGeneration : ℕ
  phase : LevelPhase
  thesis : LevelThesis
  levelKind : LevelKind
  level : ℚ
  spxLevel : ℚ
  triggerCoordinateKind : String
  triggerInstrumentId : Option String
  triggerBasisPoints : Option ℚ
  outsideDirection : ℤ
  startedAt : Instant
  phaseAt : Instant
  expiresAt : Instant
  startSpot : ℚ
  startEs : ℚ
  sessionDate : String
  sessionMode : String
  lastSpot : ℚ
  lastEs : ℚ
  updatedAt : Instant
  transitionCount : ℕ
  reason : String
  breakoutInsideSeen : Option Sighting
  confirmationStart : Option ConfirmationStart
  breakoutExtensionSeen : Option Sighting
  breakoutRetestSeen : Option Sighting
  breakoutSustainedSeenAt : Option Instant
  breakoutConfirmationMode : Option ConfirmationMode
  confirmStartedAt : Option Instant
  confirmedAt : Option Instant
  direction : Option Direction
  decisionSpot : Option ℚ
  coordinateUpgraded : Option CoordinateUpgrade
  quality : Quality

inductive LevelState
  | far (state : FarState)
  | event (event : LevelEvent)

/-- `_phase`. -/
def LevelState.phase : LevelState → LevelPhase
  | .far _ => .far
  | .event e => e.phase

structure LevelTransition where
  previousPhase : LevelPhase
  currentPhase : LevelPhase
  state : LevelState
  changed : Bool
  reason : String

def emptyLevelState (now : Instant) : FarState where
  nextReentryGeneration := 0
  rearmGuard := none
  reason := none
  updatedAt := now
  quality := .clear

/-! ## Small steps -/

/-- `_phase_age`. -/
def phaseAge (e : LevelEvent) (now : Instant) : ℚ := max (secondsBetween now e.phaseAt) 0

/-- `_phase_timed_out`. -/
def phaseTimedOut (e : LevelEvent) (now : Instant) (settings : LevelDecisionSettings) : Bool :=
  settings.phaseTimeoutSeconds < phaseAge e now

/-- `_expired`. -/
def expired (e : LevelEvent) (now : Instant) : Bool := e.expiresAt ≤ now

/-- `_unchanged` on the FAR state. -/
def unchangedFar (f : FarState) (now : Instant) (reason : String) : LevelTransition :=
  ⟨.far, .far, .far { f with updatedAt := now }, false, reason⟩

/-- `_unchanged` on an event. -/
def unchanged (e : LevelEvent) (now : Instant) (reason : String) : LevelTransition :=
  ⟨e.phase, e.phase, .event { e with updatedAt := now }, false, reason⟩

/-- `_update_extreme`. -/
def updateExtreme (e : LevelEvent) (now : Instant) (spot es : ℚ) (reason : String) :
    LevelTransition :=
  ⟨e.phase, e.phase, .event { e with lastSpot := spot, lastEs := es, updatedAt := now }, false,
    reason⟩

/-- `_transition`. -/
def transition (e : LevelEvent) (current : LevelPhase) (now : Instant) (reason : String) :
    LevelTransition :=
  ⟨e.phase, current,
    .event { e with
      phase := current
      phaseAt := now
      updatedAt := now
      reason := reason
      transitionCount := e.transitionCount + 1 },
    e.phase ≠ current, reason⟩

/-- `_to_far`. -/
def toFar (state : LevelState) (now : Instant) (reason : String)
    (rearmGuard : Option (LevelKind × ℚ)) : LevelTransition :=
  let reentryGeneration :=
    match state with
    | .far _ => 0
    | .event e => e.reentryGeneration
  let generation :=
    if reason = "session_boundary_reset" then 0
    else if state.phase.terminal then reentryGeneration + 1
    else reentryGeneration
  ⟨state.phase, .far,
    .far { emptyLevelState now with
      nextReentryGeneration := generation
      reason := some reason
      rearmGuard := rearmGuard },
    true, reason⟩

/-- `_spx_decision_spot`. -/
def spxDecisionSpot (o : LevelObservation) : Option ℚ :=
  match o.spxSpot, o.spot with
  | some spot, _ => some spot
  | none, none => none
  | none, some spot =>
    if o.triggerCoordinateKind = "official_spx" ∨
        o.triggerCoordinateKind = "chain_implied_spx" then some spot
    else if o.triggerCoordinateKind = "es_equivalent" then
      o.triggerBasisPoints.map (spot - ·)
    else none

/-- `_confirmed_transition`. -/
def confirmedTransition (e : LevelEvent) (o : LevelObservation) (desiredDirection : ℤ)
    (settings : LevelDecisionSettings) (reason : String) : LevelTransition :=
  transition
    { e with
      confirmedAt := some o.at'
      expiresAt := o.at' + timedelta settings.eventTtlSeconds
      direction := some (if 0 < desiredDirection then .up else .down)
      decisionSpot := (spxDecisionSpot o).or e.decisionSpot }
    .confirmed o.at' reason

/-- `_latch_confirmation_start`. -/
def latchConfirmationStart (e : LevelEvent) (now : Instant) (spot es : ℚ) : LevelEvent :=
  { e with confirmationStart := some ⟨now, spot, es⟩ }

/-- The distance of a price outside the level of an event, negative inside. -/
def outsideMove (e : LevelEvent) (spot : ℚ) : ℚ := e.outsideDirection * (spot - e.level)

/-- `_latch_breakout_inside_evidence`: the first observation on the inside is kept. -/
def latchBreakoutInsideEvidence (e : LevelEvent) (now : Instant) (spot : ℚ) : LevelEvent :=
  if e.breakoutInsideSeen.isNone ∧ outsideMove e spot ≤ 0 then
    { e with breakoutInsideSeen := some ⟨now, spot⟩ }
  else e

/-- `a or b` on two prices of which the first may be missing or zero. -/
def orPrice (a : Option ℚ) (b : ℚ) : ℚ :=
  match a with
  | some x => if x = 0 then b else x
  | none => b

/-- `_es_confirms`. -/
def esConfirms (e : LevelEvent) (spot es : ℚ) (direction : ℤ)
    (settings : LevelDecisionSettings) : Bool :=
  let startEs := orPrice (e.confirmationStart.map (·.es)) e.startEs
  let startSpot := orPrice (e.confirmationStart.map (·.spot)) e.startSpot
  startEs ≠ 0 ∧
    max (|spot - startSpot| * settings.esConfirmRatio) (1 / 4) ≤ direction * (es - startEs)

/-- `_structure_drifted`. -/
def structureDrifted (e : LevelEvent) (o : LevelObservation) (settings : LevelDecisionSettings) :
    Bool :=
  match o.levels e.levelKind with
  | none => true
  | some current => settings.structureDriftPoints < |current - e.level|

/-! ## Coordinates and sessions -/

/-- The coordinates that stand in for cash SPX. -/
def proxyCoordinate (kind : String) : Bool := kind = "chain_implied_spx" ∨ kind = "es_equivalent"

/-- `_can_upgrade_rth_trigger_coordinate`. -/
def canUpgradeRthTriggerCoordinate (e : LevelEvent) (o : LevelObservation) : Bool :=
  e.phase.terminal = false ∧ e.sessionMode = "rth" ∧ o.sessionMode = "rth" ∧
    proxyCoordinate e.triggerCoordinateKind ∧ o.triggerCoordinateKind = "official_spx"

/-- The basis the spots of an event are rebased by when it is upgraded. -/
def rebaseBasis (e : LevelEvent) : ℚ :=
  if e.triggerCoordinateKind = "es_equivalent" then e.triggerBasisPoints.getD 0 else 0

/-- `_upgrade_rth_trigger_coordinate`. An armed event always has its SPX level, so the level is
taken from it. -/
def upgradeRthTriggerCoordinate (e : LevelEvent) (o : LevelObservation) : LevelEvent :=
  let basis := rebaseBasis e
  { e with
    level := e.spxLevel
    startSpot := e.startSpot - basis
    lastSpot := e.lastSpot - basis
    confirmationStart := e.confirmationStart.map fun s => { s with spot := s.spot - basis }
    breakoutInsideSeen := e.breakoutInsideSeen.map fun s => { s with spot := s.spot - basis }
    breakoutExtensionSeen := e.breakoutExtensionSeen.map fun s => { s with spot := s.spot - basis }
    breakoutRetestSeen := e.breakoutRetestSeen.map fun s => { s with spot := s.spot - basis }
    triggerCoordinateKind := "official_spx"
    triggerInstrumentId := some (orText o.triggerInstrumentId "index:SPX")
    triggerBasisPoints := o.triggerBasisPoints
    coordinateUpgraded := some ⟨o.at', e.triggerCoordinateKind, e.triggerBasisPoints⟩ }

/-- `_session_boundary_changed`. The FAR state names no session. -/
def sessionBoundaryChanged (state : LevelState) (o : LevelObservation) : Bool :=
  match state with
  | .far _ => false
  | .event e =>
    (e.sessionMode ≠ "" ∧ o.sessionMode ≠ "" ∧ o.sessionMode ≠ "unknown" ∧
      e.sessionMode ≠ o.sessionMode) ∨
    (e.sessionDate ≠ "" ∧ o.sessionDate ≠ "" ∧ e.sessionDate ≠ o.sessionDate) ∨
    (e.phase.terminal ∧ o.sessionMode = "rth" ∧ o.triggerCoordinateKind = "official_spx" ∧
      proxyCoordinate e.triggerCoordinateKind)

/-- `_breakout_evidence_issue`. -/
def breakoutEvidenceIssue (e : LevelEvent) : Option String :=
  if e.thesis ≠ .breakout then none
  else
    let needsInside : Bool := e.phase = .breakPending ∨ e.phase = .accepted ∨ e.phase = .retest ∨
      e.phase = .confirmed
    let needsExtension : Bool := e.phase = .retest ∨ e.phase = .confirmed
    let mode := e.breakoutConfirmationMode.getD .retest
    if needsInside ∧ e.breakoutInsideSeen.isNone then
      some "breakout_inside_crossing_evidence_missing"
    else if needsExtension ∧ e.breakoutExtensionSeen.isNone then
      some "breakout_extension_evidence_missing"
    else if e.phase = .retest ∧ e.breakoutRetestSeen.isNone then
      some "breakout_retest_evidence_missing"
    else if e.phase = .confirmed ∧ mode = .sustained ∧ e.breakoutSustainedSeenAt.isNone then
      some "breakout_sustained_evidence_missing"
    else if e.phase = .confirmed ∧ mode = .retest ∧ e.breakoutRetestSeen.isNone then
      some "breakout_retest_evidence_missing"
    else none

/-! ## Arming -/

/-- `_rearm_guard_blocks`. -/
def rearmGuardBlocks (guard : Option (LevelKind × ℚ)) (kind : LevelKind) (level : ℚ)
    (settings : LevelDecisionSettings) : Bool :=
  guard.any fun g => kind = g.1 ∧ |level - g.2| ≤ settings.structureDriftPoints

/-- The published levels within reach that the guard does not block. -/
def eligibleLevels (o : LevelObservation) (spot : ℚ) (settings : LevelDecisionSettings)
    (guard : Option (LevelKind × ℚ)) : List (LevelKind × ℚ) :=
  (LevelKind.all.filterMap fun kind => (o.levels kind).map (kind, ·)).filter fun p =>
    |spot - p.2| ≤ settings.approachPoints ∧ rearmGuardBlocks guard p.1 p.2 settings = false

/-- `min(eligible, key=(distance, kind))`. -/
def nearestLevel (o : LevelObservation) (spot : ℚ) (settings : LevelDecisionSettings)
    (guard : Option (LevelKind × ℚ)) : Option (LevelKind × ℚ) :=
  (eligibleLevels o spot settings guard).argmin fun p => toLex (|spot - p.2|, p.1.nameRank)

/-- The state of a freshly armed event, before the inside latch. -/
def freshEvent (o : LevelObservation) (spot es : ℚ) (settings : LevelDecisionSettings)
    (reentryGeneration : ℕ) (kind : LevelKind) (level : ℚ) : LevelEvent where
  eventId := ⟨o.sessionDate, kind, level, o.at'⟩
  reentryGeneration := reentryGeneration
  phase := if |spot - level| ≤ settings.testPoints then .testing else .approaching
  thesis := .none
  levelKind := kind
  level := level
  spxLevel := (o.spxLevels kind).getD level
  triggerCoordinateKind := o.triggerCoordinateKind
  triggerInstrumentId := o.triggerInstrumentId
  triggerBasisPoints := o.triggerBasisPoints
  outsideDirection := kind.outsideDirection
  startedAt := o.at'
  phaseAt := o.at'
  expiresAt := o.at' + timedelta settings.eventTtlSeconds
  startSpot := spot
  startEs := es
  sessionDate := o.sessionDate
  sessionMode := o.sessionMode
  lastSpot := spot
  lastEs := es
  updatedAt := o.at'
  transitionCount := 1
  reason := "nearest_level_armed"
  breakoutInsideSeen := none
  confirmationStart := none
  breakoutExtensionSeen := none
  breakoutRetestSeen := none
  breakoutSustainedSeenAt := none
  breakoutConfirmationMode := none
  confirmStartedAt := none
  confirmedAt := none
  direction := none
  decisionSpot := none
  coordinateUpgraded := none
  quality := .clear

/-- The state of a freshly armed event. -/
def armedEvent (o : LevelObservation) (spot es : ℚ) (settings : LevelDecisionSettings)
    (reentryGeneration : ℕ) (kind : LevelKind) (level : ℚ) : LevelEvent :=
  latchBreakoutInsideEvidence
    (freshEvent o spot es settings reentryGeneration kind level) o.at' spot

/-- `_arm_nearest_level`. -/
def armNearestLevel (o : LevelObservation) (spot es : ℚ) (settings : LevelDecisionSettings)
    (reentryGeneration : ℕ) (guard : Option (LevelKind × ℚ)) : LevelTransition :=
  match nearestLevel o spot settings guard with
  | none =>
    ⟨.far, .far,
      .far { emptyLevelState o.at' with
        nextReentryGeneration := reentryGeneration
        rearmGuard := guard },
      false, if guard.isSome then "rearm_guard_active" else "no_near_level"⟩
  | some (kind, level) =>
    let armed := armedEvent o spot es settings reentryGeneration kind level
    ⟨.far, armed.phase, .event armed, true, "nearest_level_armed"⟩

/-! ## Degraded data -/

/-- The quality keys after a degraded observation. -/
def degrade (q : Quality) (now : Instant) (reason : String) : Quality :=
  { q with status := some "degraded", reason := some reason, degradedAt := q.degradedAt.or now }

/-- `_handle_bad_quality`. -/
def handleBadQuality (state : LevelState) (o : LevelObservation)
    (settings : LevelDecisionSettings) : LevelTransition :=
  let now := o.at'
  let reason := orText o.qualityReason "market_data_unavailable"
  match state with
  | .far f => unchangedFar { f with quality := degrade f.quality now reason } now reason
  | .event e =>
    let e := { e with quality := degrade e.quality now reason }
    if e.phase.terminal then unchanged e now reason
    else if e.phase.timesOut then
      if settings.phaseTimeoutSeconds < phaseAge e now then
        transition e .expired now "phase_timeout_during_data_degradation"
      else if expired e now then
        unchanged
          { e with expiresAt :=
            now + timedelta (settings.phaseTimeoutSeconds - phaseAge e now + 1) }
          now reason
      else unchanged e now reason
    else if expired e now then
      transition e .expired now
        (if e.phase = .confirmed then "confirmed_ttl_elapsed_during_data_degradation"
          else "event_ttl_elapsed_during_data_degradation")
    else if e.quality.failedAt.isNone then
      unchanged { e with quality := { e.quality with failedAt := some now } } now reason
    else unchanged e now reason

/-! ## FAR and terminal states -/

/-- The guard of a FAR state, unless the price has left its approach radius. -/
def liveGuard (f : FarState) (spot : ℚ) (settings : LevelDecisionSettings) :
    Option (LevelKind × ℚ) :=
  f.rearmGuard.filter fun g => |spot - g.2| ≤ settings.approachPoints

/-- The FAR branch of `advance_level_decision`. -/
def advanceFar (f : FarState) (o : LevelObservation) (spot es : ℚ)
    (settings : LevelDecisionSettings) : LevelTransition :=
  if o.armAllowed = false then
    unchangedFar f o.at' (orText o.armBlockReason "new_arm_blocked")
  else armNearestLevel o spot es settings f.nextReentryGeneration (liveGuard f spot settings)

/-- The published level of the event's kind moved away or is gone. -/
def structureMigrated (e : LevelEvent) (o : LevelObservation) (settings : LevelDecisionSettings) :
    Bool :=
  match o.levels e.levelKind with
  | none => true
  | some current => settings.structureDriftPoints < |current - e.level|

variable (e : LevelEvent) (o : LevelObservation) (spot es : ℚ) (settings : LevelDecisionSettings)

/-- `_handle_terminal_rearm`. -/
def handleTerminalRearm : LevelTransition :=
  let now := o.at'
  if phaseAge e now < settings.terminalRearmSeconds then unchanged e now "terminal_hold"
  else if structureMigrated e o settings then
    let armed := armNearestLevel o spot es settings (e.reentryGeneration + 1) none
    if armed.currentPhase ≠ .far then
      ⟨e.phase, armed.currentPhase, armed.state, true, "stable_structure_promoted_rearm"⟩
    else toFar (.event e) now "stable_structure_promoted" none
  else if |spot - e.level| ≤ max settings.retestPoints settings.rejectPoints then
    unchanged e now "terminal_waiting_for_level_exit"
  else
    toFar (.event e) now "terminal_level_exited"
      (if settings.approachPoints < |spot - e.level| then none else some (e.levelKind, e.level))

/-! ## Active events -/

def advanceApproaching : LevelTransition :=
  if |spot - e.level| ≤ settings.testPoints then
    transition e .testing o.at' "entered_test_zone"
  else if settings.approachPoints < |spot - e.level| then
    toFar (.event e) o.at' "moved_away_before_test" none
  else updateExtreme e o.at' spot es "approach_continues"

def advanceTesting : LevelTransition :=
  if e.breakoutInsideSeen.isSome ∧ settings.breakBufferPoints ≤ outsideMove e spot then
    transition (latchConfirmationStart { e with thesis := .breakout } o.at' spot es) .breakPending
      o.at' "crossed_outside_buffer"
  else if settings.breakBufferPoints ≤ outsideMove e spot then
    updateExtreme e o.at' spot es "breakout_blocked_no_inside_crossing"
  else if settings.rejectPoints ≤ -outsideMove e spot then
    transition (latchConfirmationStart { e with thesis := .fade } o.at' spot es) .rejectPending
      o.at' "rejected_from_level"
  else updateExtreme e o.at' spot es "testing_continues"

/-- The direction a thesis wants. -/
def desiredDirection (e : LevelEvent) : ℤ :=
  if e.thesis = .breakout then e.outsideDirection else -e.outsideDirection

def desiredMove (e : LevelEvent) (spot : ℚ) : ℚ := desiredDirection e * (spot - e.level)

/-- `max(retest_points, confirm_move_points)`. -/
def LevelDecisionSettings.extensionPoints (settings : LevelDecisionSettings) : ℚ :=
  max settings.retestPoints settings.confirmMovePoints

/-- The move a pending thesis must show to be accepted. -/
def pendingThreshold (e : LevelEvent) (settings : LevelDecisionSettings) : ℚ :=
  if e.phase = .breakPending then settings.breakBufferPoints else settings.rejectPoints

/-- The phase an accepted thesis enters. -/
def pendingTarget (e : LevelEvent) : LevelPhase :=
  if e.phase = .breakPending then .accepted else .rejected

/-- A thesis on its acceptance; a breakout far enough out latches its extension there. -/
def acceptThesis (e : LevelEvent) (now : Instant) (spot : ℚ) (settings : LevelDecisionSettings) :
    LevelEvent :=
  { e with
    breakoutExtensionSeen :=
      if e.thesis = .breakout ∧ settings.extensionPoints < desiredMove e spot then some ⟨now, spot⟩
      else e.breakoutExtensionSeen }

/-- The BREAK_PENDING and REJECT_PENDING branch. -/
def advancePending : LevelTransition :=
  if pendingThreshold e settings ≤ desiredMove e spot ∧
      settings.acceptHoldSeconds ≤ phaseAge e o.at' ∧
      esConfirms e spot es (desiredDirection e) settings then
    transition (acceptThesis e o.at' spot settings) (pendingTarget e) o.at' "direction_accepted"
  else updateExtreme e o.at' spot es "pending_acceptance"

/-- A thesis on its return to the level; a breakout latches the retest. -/
def beginRetest (e : LevelEvent) (now : Instant) (spot : ℚ) : LevelEvent :=
  { e with
    confirmStartedAt := none
    breakoutRetestSeen :=
      if e.thesis = .breakout then some ⟨now, spot⟩ else e.breakoutRetestSeen }

/-- The ACCEPTED and REJECTED branch. -/
def advanceAccepted : LevelTransition :=
  if e.thesis = .breakout ∧ e.breakoutExtensionSeen.isNone then
    if settings.extensionPoints < desiredMove e spot then
      updateExtreme { e with breakoutExtensionSeen := some ⟨o.at', spot⟩ } o.at' spot es
        "breakout_extension_latched_before_retest"
    else updateExtreme e o.at' spot es "waiting_for_breakout_extension_before_retest"
  else if |spot - e.level| ≤ settings.retestPoints then
    transition (beginRetest e o.at' spot) .retest o.at' "returned_for_retest"
  else if e.thesis = .breakout then
    if desiredMove e spot < settings.confirmMovePoints then
      updateExtreme { e with confirmStartedAt := none } o.at' spot es
        "sustained_breakout_not_resolved"
    else
      match e.confirmStartedAt with
      | none =>
        updateExtreme { e with confirmStartedAt := some o.at' } o.at' spot es
          "sustained_breakout_hold_started"
      | some started =>
        if settings.confirmHoldSeconds ≤ secondsBetween o.at' started ∧
            esConfirms e spot es (desiredDirection e) settings then
          confirmedTransition
            { e with
              breakoutConfirmationMode := some .sustained
              breakoutSustainedSeenAt := some o.at' }
            o (desiredDirection e) settings "sustained_breakout_confirmed"
        else updateExtreme e o.at' spot es "sustained_breakout_confirmation_hold"
  else if settings.confirmMovePoints ≤ desiredMove e spot ∧
      settings.confirmHoldSeconds ≤ phaseAge e o.at' ∧
      esConfirms e spot es (desiredDirection e) settings then
    confirmedTransition e o (desiredDirection e) settings "accepted_follow_through_confirmed"
  else updateExtreme e o.at' spot es "waiting_for_retest"

def advanceRetest : LevelTransition :=
  if desiredMove e spot < settings.confirmMovePoints then
    updateExtreme { e with confirmStartedAt := none } o.at' spot es "retest_not_resolved"
  else
    match e.confirmStartedAt with
    | none =>
      updateExtreme { e with confirmStartedAt := some o.at' } o.at' spot es
        "confirmation_hold_started"
    | some started =>
      if settings.confirmHoldSeconds ≤ secondsBetween o.at' started ∧
          esConfirms e spot es (desiredDirection e) settings then
        confirmedTransition
          { e with
            breakoutConfirmationMode :=
              if e.thesis = .breakout then some .retest else e.breakoutConfirmationMode }
          o (desiredDirection e) settings "retest_confirmed"
      else updateExtreme e o.at' spot es "confirmation_hold"

def advanceThesis : LevelTransition :=
  if desiredMove e spot ≤ -settings.breakBufferPoints then
    transition e .invalidated o.at' "crossed_invalidation"
  else if e.phase ≠ .confirmed ∧ phaseTimedOut e o.at' settings then
    transition e .expired o.at' "phase_timeout"
  else
    match e.phase with
    | .breakPending | .rejectPending => advancePending e o spot es settings
    | .accepted | .rejected => advanceAccepted e o spot es settings
    | .retest => advanceRetest e o spot es settings
    | _ => unchanged e o.at' "no_transition"

/-- An active event, once its time to live is settled. -/
def advanceLive : LevelTransition :=
  if orText (some e.triggerCoordinateKind) "unknown" ≠ o.triggerCoordinateKind then
    transition e .invalidated o.at' "trigger_coordinate_changed"
  else if structureDrifted e o settings then
    transition e .invalidated o.at' "structure_drift"
  else
    match e.phase with
    | .approaching =>
      advanceApproaching (latchBreakoutInsideEvidence e o.at' spot) o spot es settings
    | .testing => advanceTesting (latchBreakoutInsideEvidence e o.at' spot) o spot es settings
    | _ => advanceThesis e o spot es settings

def advanceActive : LevelTransition :=
  let now := o.at'
  if expired e now then
    if e.phase = .confirmed then transition e .expired now "confirmed_ttl_elapsed"
    else if e.phase.timesOut then
      -- Past its own limit the phase times out below instead.
      advanceLive
        (if phaseAge e now ≤ settings.phaseTimeoutSeconds then
          { e with expiresAt :=
            now + timedelta (settings.phaseTimeoutSeconds - phaseAge e now + 1) }
        else e) o spot es settings
    else if |spot - e.level| ≤ settings.approachPoints then
      unchanged { e with expiresAt := now + timedelta settings.eventTtlSeconds } now
        "event_ttl_extended_near_level"
    else transition e .expired now "event_ttl_elapsed"
  else advanceLive e o spot es settings

/-- The event without its quality keys, and in cash SPX once that is back. -/
def settleEvent (e : LevelEvent) (o : LevelObservation) : LevelEvent :=
  let e := { e with quality := .clear }
  if canUpgradeRthTriggerCoordinate e o then upgradeRthTriggerCoordinate e o else e

/-- An event, on an observation of good quality. -/
def advanceEvent : LevelTransition :=
  match breakoutEvidenceIssue e with
  | some issue => transition e .invalidated o.at' issue
  | none =>
    if e.phase.terminal then
      if o.armAllowed = false then
        unchanged e o.at' (orText o.armBlockReason "new_arm_blocked")
      else handleTerminalRearm e o spot es settings
    else advanceActive e o spot es settings

/-- Any state, on an observation of good quality. -/
def advanceGood (state : LevelState) (o : LevelObservation) (spot es : ℚ)
    (settings : LevelDecisionSettings) : LevelTransition :=
  match state with
  | .far f => advanceFar { f with quality := .clear } o spot es settings
  | .event e => advanceEvent (settleEvent e o) o spot es settings

def startState (previous : Option LevelState) (o : LevelObservation) : LevelState :=
  previous.getD (.far (emptyLevelState o.at'))

def advanceLevelDecision (previous : Option LevelState) (o : LevelObservation)
    (settings : LevelDecisionSettings) : LevelTransition :=
  let state := startState previous o
  if sessionBoundaryChanged state o then toFar state o.at' "session_boundary_reset" none
  else
    match o.qualityOk, o.spot, o.es with
    | true, some spot, some es => advanceGood state o spot es settings
    | _, _, _ => handleBadQuality state o settings

end SpxSpark.OrderMap
