import SpxSpark.Lib.Arrays
import SpxSpark.OrderMap.LevelSteps

/-!
# CoordinateSim — one market, observed in two coordinates

The level machine may be fed cash SPX prices, or ES-equivalent ones that lie a constant basis above.
-/

namespace SpxSpark.OrderMap

/-! ## Feeds -/

/-- The coordinate an observation is in, and how far its prices lie above cash SPX. -/
structure Feed where
  kind : String
  basis : ℚ
  named : kind ≠ ""

def cashFeed : Feed := ⟨"official_spx", 0, by decide⟩

def esFeed (basis : ℚ) : Feed := ⟨"es_equivalent", basis, by decide⟩

/-- `o` shows on the feed `c` what `o'` shows in cash SPX, in the regular session. -/
structure SameMarket (c : Feed) (o o' : LevelObservation) : Prop where
  at' : o.at' = o'.at'
  spot : o.spot = o'.spot.map (· + c.basis)
  es : o.es = o'.es
  levels : ∀ kind, o.levels kind = (o'.levels kind).map (· + c.basis)
  qualityOk : o.qualityOk = o'.qualityOk
  armAllowed : o.armAllowed = o'.armAllowed
  sessionDate : o.sessionDate = o'.sessionDate
  rth : o.sessionMode = "rth"
  rth' : o'.sessionMode = "rth"
  kind : o.triggerCoordinateKind = c.kind
  kind' : o'.triggerCoordinateKind = "official_spx"
  /-- A proxy names its basis, and publishes the cash levels besides its own. -/
  proxied : c.kind = "es_equivalent" →
    o.triggerBasisPoints = some c.basis ∧ ∀ kind, o.spxLevels kind = o'.levels kind

/-- The cash spot is not zero, and neither is what the feed makes of it. -/
def PricedIn (c : Feed) (o : LevelObservation) : Prop :=
  ∀ spot, o.spot = some spot → spot + c.basis ≠ 0 ∧ spot ≠ 0

/-! ## Events -/

def Sighting.below (basis : ℚ) (s : Sighting) : Sighting := { s with spot := s.spot - basis }

def ConfirmationStart.below (basis : ℚ) (s : ConfirmationStart) : ConfirmationStart :=
  { s with spot := s.spot - basis }

/-- An event with the basis taken off its prices, and without its labels. -/
def LevelEvent.inCash (basis : ℚ) (e : LevelEvent) : LevelEvent :=
  { e with
    eventId := ⟨"", e.levelKind, 0, 0⟩
    level := e.level - basis
    spxLevel := 0
    triggerCoordinateKind := "official_spx"
    triggerInstrumentId := none
    triggerBasisPoints := none
    startSpot := e.startSpot - basis
    lastSpot := e.lastSpot - basis
    breakoutInsideSeen := e.breakoutInsideSeen.map (·.below basis)
    confirmationStart := e.confirmationStart.map (·.below basis)
    breakoutExtensionSeen := e.breakoutExtensionSeen.map (·.below basis)
    breakoutRetestSeen := e.breakoutRetestSeen.map (·.below basis)
    decisionSpot := none
    coordinateUpgraded := none
    quality := { e.quality with reason := none } }

/-- The fields that tie an event to its coordinate. -/
structure Anchor where
  kind : String
  sessionMode : String
  basisPoints : Option ℚ
  spxLevel : ℚ
  level : ℚ
  confirmationStart : Option ConfirmationStart

def LevelEvent.anchor (e : LevelEvent) : Anchor where
  kind := e.triggerCoordinateKind
  sessionMode := e.sessionMode
  basisPoints := e.triggerBasisPoints
  spxLevel := e.spxLevel
  level := e.level
  confirmationStart := e.confirmationStart

/-- The anchor was set in the feed's coordinate. -/
structure Anchored (c : Feed) (a : Anchor) : Prop where
  kind : a.kind = c.kind
  rth : a.sessionMode = "rth"
  proxied : c.kind = "es_equivalent" →
    a.basisPoints = some c.basis ∧ a.spxLevel = a.level - c.basis
  priced : ∀ s, a.confirmationStart = some s → s.spot ≠ 0

/-- The event `a` of the feed `c` is the cash event `e`. -/
structure EventSim (c : Feed) (a e : LevelEvent) : Prop where
  view : a.inCash c.basis = e.inCash 0
  anchored : Anchored c a.anchor
  anchored' : Anchored cashFeed e.anchor

/-- The FAR state `f` of the feed `c` is the cash state `f'`. -/
structure FarSim (c : Feed) (f f' : FarState) : Prop where
  generation : f.nextReentryGeneration = f'.nextReentryGeneration
  guard : f.rearmGuard = f'.rearmGuard.map fun g => (g.1, g.2 + c.basis)

/-- The state of the feed is the cash state. -/
inductive StateSim (c : Feed) : LevelState → LevelState → Prop
  | far {f f' : FarState} : FarSim c f f' → StateSim c (.far f) (.far f')
  | event {a e : LevelEvent} : EventSim c a e → StateSim c (.event a) (.event e)

/-- Two transitions that say the same, each in its own coordinate. -/
structure StepSim (c : Feed) (t t' : LevelTransition) : Prop where
  previousPhase : t.previousPhase = t'.previousPhase
  currentPhase : t.currentPhase = t'.currentPhase
  changed : t.changed = t'.changed
  state : StateSim c t.state t'.state

variable {c : Feed} {a e : LevelEvent} {o o' : LevelObservation} {spot spot' es : ℚ}
  {settings : LevelDecisionSettings} {now : Instant} {reason reason' : String}

namespace EventSim

variable (h : EventSim c a e)

include h

theorem phase : a.phase = e.phase := congrArg (·.phase) h.view

theorem thesis : a.thesis = e.thesis := congrArg (·.thesis) h.view

theorem levelKind : a.levelKind = e.levelKind := congrArg (·.levelKind) h.view

theorem generation : a.reentryGeneration = e.reentryGeneration :=
  congrArg (·.reentryGeneration) h.view

theorem outsideDirection : a.outsideDirection = e.outsideDirection :=
  congrArg (·.outsideDirection) h.view

theorem startedAt : a.startedAt = e.startedAt := congrArg (·.startedAt) h.view

theorem phaseAt : a.phaseAt = e.phaseAt := congrArg (·.phaseAt) h.view

theorem expiresAt : a.expiresAt = e.expiresAt := congrArg (·.expiresAt) h.view

theorem startEs : a.startEs = e.startEs := congrArg (·.startEs) h.view

theorem sessionDate : a.sessionDate = e.sessionDate := congrArg (·.sessionDate) h.view

theorem confirmStartedAt : a.confirmStartedAt = e.confirmStartedAt :=
  congrArg (·.confirmStartedAt) h.view

theorem confirmedAt : a.confirmedAt = e.confirmedAt := congrArg (·.confirmedAt) h.view

theorem direction : a.direction = e.direction := congrArg (·.direction) h.view

theorem sustainedSeenAt : a.breakoutSustainedSeenAt = e.breakoutSustainedSeenAt :=
  congrArg (·.breakoutSustainedSeenAt) h.view

theorem confirmationMode : a.breakoutConfirmationMode = e.breakoutConfirmationMode :=
  congrArg (·.breakoutConfirmationMode) h.view

theorem failedAt : a.quality.failedAt = e.quality.failedAt := congrArg (·.quality.failedAt) h.view

theorem level : a.level = e.level + c.basis := by
  have hlevel : a.level - c.basis = e.level - 0 := congrArg (·.level) h.view
  rw [← sub_eq_iff_eq_add, hlevel, sub_zero]

theorem startSpot : a.startSpot = e.startSpot + c.basis := by
  have hspot : a.startSpot - c.basis = e.startSpot - 0 := congrArg (·.startSpot) h.view
  rw [← sub_eq_iff_eq_add, hspot, sub_zero]

theorem insideSeen : a.breakoutInsideSeen.isSome = e.breakoutInsideSeen.isSome := by
  have hseen := congrArg (·.breakoutInsideSeen.isSome) h.view
  simpa [LevelEvent.inCash] using hseen

theorem extensionSeen : a.breakoutExtensionSeen.isSome = e.breakoutExtensionSeen.isSome := by
  have hseen := congrArg (·.breakoutExtensionSeen.isSome) h.view
  simpa [LevelEvent.inCash] using hseen

theorem retestSeen : a.breakoutRetestSeen.isSome = e.breakoutRetestSeen.isSome := by
  have hseen := congrArg (·.breakoutRetestSeen.isSome) h.view
  simpa [LevelEvent.inCash] using hseen

theorem confirmationStart : a.confirmationStart.map (·.below c.basis) = e.confirmationStart := by
  have hstart : a.confirmationStart.map (·.below c.basis) = e.confirmationStart.map (·.below 0) :=
    congrArg (·.confirmationStart) h.view
  simpa [ConfirmationStart.below] using hstart

theorem touch {a' e' : LevelEvent} (hview : a'.inCash c.basis = e'.inCash 0)
    (ha : a'.anchor = a.anchor) (he : e'.anchor = e.anchor) : EventSim c a' e' :=
  ⟨hview, ha ▸ h.anchored, he ▸ h.anchored'⟩

/-! ### What the machine reads of an event -/

theorem outsideMove (hspot : spot = spot' + c.basis) :
    outsideMove a spot = outsideMove e spot' := by
  unfold OrderMap.outsideMove
  rw [h.outsideDirection, h.level, hspot, add_sub_add_right_eq_sub]

theorem distance (hspot : spot = spot' + c.basis) : |spot - a.level| = |spot' - e.level| := by
  rw [h.level, hspot, add_sub_add_right_eq_sub]

theorem phaseAge (now : Instant) : phaseAge a now = phaseAge e now := by
  unfold OrderMap.phaseAge
  rw [h.phaseAt]

theorem expired (now : Instant) : expired a now = expired e now := by
  unfold OrderMap.expired
  rw [h.expiresAt]

theorem phaseTimedOut (now : Instant) :
    phaseTimedOut a now settings = phaseTimedOut e now settings := by
  unfold OrderMap.phaseTimedOut
  rw [h.phaseAge]

theorem desiredDirection : desiredDirection a = desiredDirection e := by
  unfold OrderMap.desiredDirection
  rw [h.thesis, h.outsideDirection]

theorem desiredMove (hspot : spot = spot' + c.basis) :
    desiredMove a spot = desiredMove e spot' := by
  unfold OrderMap.desiredMove
  rw [h.desiredDirection, h.level, hspot, add_sub_add_right_eq_sub]

/-- The published level lies as far from the event's in either coordinate. -/
theorem structureDrifted (ho : SameMarket c o o') :
    structureDrifted a o settings = structureDrifted e o' settings := by
  unfold OrderMap.structureDrifted
  rw [ho.levels, h.levelKind, h.level]
  cases o'.levels e.levelKind with
  | none => rfl
  | some current => simp only [Option.map_some, add_sub_add_right_eq_sub]

theorem structureMigrated (ho : SameMarket c o o') :
    structureMigrated a o settings = structureMigrated e o' settings :=
  h.structureDrifted ho

theorem breakoutEvidenceIssue : breakoutEvidenceIssue a = breakoutEvidenceIssue e := by
  unfold OrderMap.breakoutEvidenceIssue
  simp only [← Option.not_isSome, h.thesis, h.phase, h.confirmationMode, h.insideSeen,
    h.extensionSeen, h.retestSeen, h.sustainedSeenAt]

/-- Both events measure the SPX move from the same observation: from the confirmation's start, or
from their own where there is none yet. -/
theorem esConfirms (hspot : spot = spot' + c.basis) (es : ℚ) (d : ℤ) :
    esConfirms a spot es d settings = esConfirms e spot' es d settings := by
  have hstart := h.confirmationStart
  unfold OrderMap.esConfirms
  rw [h.startEs, h.startSpot, hspot]
  cases ha : a.confirmationStart with
  | none =>
    rw [ha] at hstart
    rw [← hstart]
    simp [orPrice]
  | some s =>
    rw [ha] at hstart
    have hs : s.spot ≠ 0 := h.anchored.priced s ha
    have hs' : s.spot - c.basis ≠ 0 := h.anchored'.priced _ hstart.symm
    rw [← hstart]
    simp only [Option.map_some, orPrice, ConfirmationStart.below, if_neg hs, if_neg hs']
    rw [← sub_add, add_sub_right_comm, sub_add_eq_add_sub]

end EventSim

/-! ## Steps that say the same -/

theorem StepSim.ite {p p' : Prop} [Decidable p] [Decidable p'] {t t' u u' : LevelTransition}
    (hp : p ↔ p') (hthen : p → StepSim c t t') (helse : ¬p → StepSim c u u') :
    StepSim c (if p then t else u) (if p' then t' else u') := by
  by_cases h : p
  · rw [if_pos h, if_pos (hp.mp h)]
    exact hthen h
  · rw [if_neg h, if_neg (mt hp.mpr h)]
    exact helse h

section

variable (h : EventSim c a e)

include h

theorem stepSim_unchanged : StepSim c (unchanged a now reason) (unchanged e now reason') where
  previousPhase := h.phase
  currentPhase := h.phase
  changed := rfl
  state := .event (h.touch (congrArg (fun v => { v with updatedAt := now }) h.view) rfl rfl)

theorem stepSim_transition {current current' : LevelPhase}
    (hcurrent : current = current') (now : Instant) (reason : String) :
    StepSim c (transition a current now reason) (transition e current' now reason) := by
  subst hcurrent
  refine ⟨h.phase, rfl, ?_, .event (h.touch ?_ rfl rfl)⟩
  · show decide (a.phase ≠ current) = decide (e.phase ≠ current)
    rw [h.phase]
  · exact congrArg (fun v : LevelEvent => { v with
      phase := current
      phaseAt := now
      updatedAt := now
      reason := reason
      transitionCount := v.transitionCount + 1 }) h.view

omit h in
theorem shifted (hspot : spot = spot' + c.basis) : spot - c.basis = spot' - 0 := by
  rw [hspot, add_sub_cancel_right, sub_zero]

theorem stepSim_updateExtreme (hspot : spot = spot' + c.basis)
    (now : Instant) (es : ℚ) (reason : String) :
    StepSim c (updateExtreme a now spot es reason) (updateExtreme e now spot' es reason) where
  previousPhase := h.phase
  currentPhase := h.phase
  changed := rfl
  state := .event (h.touch (congrArg₂ (fun (v : LevelEvent) last => { v with
    lastSpot := last
    lastEs := es
    updatedAt := now }) h.view (shifted hspot)) rfl rfl)

theorem stepSim_confirmed (ho : SameMarket c o o') {d d' : ℤ} (hd : d = d')
    (reason : String) : StepSim c (confirmedTransition a o d settings reason)
      (confirmedTransition e o' d' settings reason) := by
  subst hd
  unfold confirmedTransition
  rw [ho.at']
  refine stepSim_transition ?_ rfl _ _
  exact h.touch (congrArg (fun v => { v with
    confirmedAt := some o'.at'
    expiresAt := o'.at' + timedelta settings.eventTtlSeconds
    direction := some (if 0 < d then .up else .down) }) h.view) rfl rfl

variable {s s' : LevelState}

omit h in
theorem stepSim_toFar (hs : StateSim c s s') (now : Instant) (reason : String)
    {guard guard' : Option (LevelKind × ℚ)}
    (hguard : guard = guard'.map fun g => (g.1, g.2 + c.basis)) :
    StepSim c (toFar s now reason guard) (toFar s' now reason guard') := by
  cases hs with
  | far h => exact ⟨rfl, rfl, rfl, .far ⟨rfl, hguard⟩⟩
  | event h =>
    refine ⟨h.phase, rfl, rfl, .far ⟨?_, hguard⟩⟩
    simp only [LevelState.phase, h.phase, h.generation]
    rfl

theorem eventSim_latch (hspot : spot = spot' + c.basis) (now : Instant) :
    EventSim c (latchBreakoutInsideEvidence a now spot)
      (latchBreakoutInsideEvidence e now spot') := by
  have hcond : (a.breakoutInsideSeen.isNone ∧ outsideMove a spot ≤ 0) ↔
      (e.breakoutInsideSeen.isNone ∧ outsideMove e spot' ≤ 0) := by
    rw [← Option.not_isSome, ← Option.not_isSome, h.insideSeen, h.outsideMove hspot]
  unfold latchBreakoutInsideEvidence
  by_cases hp : a.breakoutInsideSeen.isNone ∧ outsideMove a spot ≤ 0
  · rw [if_pos hp, if_pos (hcond.mp hp)]
    exact h.touch (congrArg₂ (fun (v : LevelEvent) seen => { v with
      breakoutInsideSeen := some ⟨now, seen⟩ }) h.view (shifted hspot)) rfl rfl
  · rw [if_neg hp, if_neg (mt hcond.mpr hp)]
    exact h

/-- The latched spot is a price in both coordinates, so that neither event falls back from it. -/
theorem eventSim_begin (hspot : spot = spot' + c.basis)
    (hpriced : spot ≠ 0 ∧ spot' ≠ 0) (now : Instant) (es : ℚ) (thesis : LevelThesis) :
    EventSim c (latchConfirmationStart { a with thesis := thesis } now spot es)
      (latchConfirmationStart { e with thesis := thesis } now spot' es) where
  view := congrArg₂ (fun (v : LevelEvent) start => { v with
    thesis := thesis
    confirmationStart := some ⟨now, start, es⟩ }) h.view (shifted hspot)
  anchored := ⟨h.anchored.kind, h.anchored.rth, h.anchored.proxied, fun s hs => by
    cases hs
    exact hpriced.1⟩
  anchored' := ⟨h.anchored'.kind, h.anchored'.rth, h.anchored'.proxied, fun s hs => by
    cases hs
    exact hpriced.2⟩

theorem eventSim_hold (started : Option Instant) :
    EventSim c { a with confirmStartedAt := started } { e with confirmStartedAt := started } :=
  h.touch (congrArg (fun v => { v with confirmStartedAt := started }) h.view) rfl rfl

theorem eventSim_extend (expires : Instant) :
    EventSim c { a with expiresAt := expires } { e with expiresAt := expires } :=
  h.touch (congrArg (fun v => { v with expiresAt := expires }) h.view) rfl rfl

theorem eventSim_extension (hspot : spot = spot' + c.basis) (now : Instant) :
    EventSim c { a with breakoutExtensionSeen := some ⟨now, spot⟩ }
      { e with breakoutExtensionSeen := some ⟨now, spot'⟩ } :=
  h.touch (congrArg₂ (fun (v : LevelEvent) seen => { v with
    breakoutExtensionSeen := some ⟨now, seen⟩ }) h.view (shifted hspot)) rfl rfl

theorem eventSim_acceptThesis (hspot : spot = spot' + c.basis)
    (now : Instant) :
    EventSim c (acceptThesis a now spot settings) (acceptThesis e now spot' settings) := by
  have hcond : (a.thesis = .breakout ∧ settings.extensionPoints < desiredMove a spot) ↔
      (e.thesis = .breakout ∧ settings.extensionPoints < desiredMove e spot') := by
    rw [h.thesis, h.desiredMove hspot]
  unfold acceptThesis
  by_cases hp : a.thesis = .breakout ∧ settings.extensionPoints < desiredMove a spot
  · rw [if_pos hp, if_pos (hcond.mp hp)]
    exact eventSim_extension h hspot now
  · rw [if_neg hp, if_neg (mt hcond.mpr hp)]
    exact h

theorem eventSim_beginRetest (hspot : spot = spot' + c.basis)
    (now : Instant) : EventSim c (beginRetest a now spot) (beginRetest e now spot') := by
  unfold beginRetest
  by_cases hp : a.thesis = .breakout
  · rw [if_pos hp, if_pos (h.thesis ▸ hp)]
    exact h.touch (congrArg₂ (fun (v : LevelEvent) seen => { v with
      confirmStartedAt := none
      breakoutRetestSeen := some ⟨now, seen⟩ }) h.view (shifted hspot)) rfl rfl
  · rw [if_neg hp, if_neg (h.thesis ▸ hp)]
    exact eventSim_hold h none

/-! ## Active events -/

end

section Active

variable (h : EventSim c a e) (ho : SameMarket c o o') (hspot : spot = spot' + c.basis)
include h ho hspot

theorem stepSim_approaching : StepSim c (advanceApproaching a o spot es settings)
      (advanceApproaching e o' spot' es settings) := by
  unfold advanceApproaching
  rw [ho.at']
  refine .ite (by rw [h.distance hspot]) (fun _ => ?_) fun _ => ?_
  · exact stepSim_transition h rfl _ _
  refine .ite (by rw [h.distance hspot]) (fun _ => ?_) fun _ => ?_
  · exact stepSim_toFar (.event h) _ _ rfl
  · exact stepSim_updateExtreme h hspot _ _ _

theorem stepSim_testing (hpriced : spot ≠ 0 ∧ spot' ≠ 0) :
    StepSim c (advanceTesting a o spot es settings) (advanceTesting e o' spot' es settings) := by
  unfold advanceTesting
  rw [ho.at']
  refine .ite (by rw [h.insideSeen, h.outsideMove hspot]) (fun _ => ?_) fun _ => ?_
  · exact stepSim_transition (eventSim_begin h hspot hpriced _ _ _) rfl _ _
  refine .ite (by rw [h.outsideMove hspot]) (fun _ => ?_) fun _ => ?_
  · exact stepSim_updateExtreme h hspot _ _ _
  refine .ite (by rw [h.outsideMove hspot]) (fun _ => ?_) fun _ => ?_
  · exact stepSim_transition (eventSim_begin h hspot hpriced _ _ _) rfl _ _
  · exact stepSim_updateExtreme h hspot _ _ _

theorem stepSim_pending :
    StepSim c (advancePending a o spot es settings) (advancePending e o' spot' es settings) := by
  have hthreshold : pendingThreshold a settings = pendingThreshold e settings := by
    unfold pendingThreshold
    rw [h.phase]
  have htarget : pendingTarget a = pendingTarget e := by
    unfold pendingTarget
    rw [h.phase]
  unfold advancePending
  rw [ho.at', hthreshold, htarget]
  refine .ite ?_ (fun _ => ?_) fun _ => ?_
  · rw [h.desiredMove hspot, h.phaseAge, h.desiredDirection, h.esConfirms hspot]
  · exact stepSim_transition (eventSim_acceptThesis h hspot _) rfl _ _
  · exact stepSim_updateExtreme h hspot _ _ _

theorem stepSim_accepted :
    StepSim c (advanceAccepted a o spot es settings) (advanceAccepted e o' spot' es settings) := by
  unfold advanceAccepted
  rw [ho.at']
  refine .ite ?_ (fun _ => ?_) fun _ => ?_
  · rw [h.thesis, ← Option.not_isSome, ← Option.not_isSome, h.extensionSeen]
  · refine .ite (by rw [h.desiredMove hspot]) (fun _ => ?_) fun _ => ?_
    · exact stepSim_updateExtreme (eventSim_extension h hspot _) hspot _ _ _
    · exact stepSim_updateExtreme h hspot _ _ _
  refine .ite (by rw [h.distance hspot]) (fun _ => ?_) fun _ => ?_
  · exact stepSim_transition (eventSim_beginRetest h hspot _) rfl _ _
  refine .ite (by rw [h.thesis]) (fun _ => ?_) fun _ => ?_
  · refine .ite (by rw [h.desiredMove hspot]) (fun _ => ?_) fun _ => ?_
    · exact stepSim_updateExtreme (eventSim_hold h _) hspot _ _ _
    rw [h.confirmStartedAt]
    split
    · exact stepSim_updateExtreme (eventSim_hold h _) hspot _ _ _
    · refine .ite (by rw [h.desiredDirection, h.esConfirms hspot]) (fun _ => ?_) fun _ => ?_
      · refine stepSim_confirmed ?_ ho h.desiredDirection _
        exact h.touch (congrArg (fun v => { v with
          breakoutConfirmationMode := some .sustained
          breakoutSustainedSeenAt := some o'.at'
          confirmStartedAt := e.confirmStartedAt }) h.view) rfl rfl
      · exact stepSim_updateExtreme h hspot _ _ _
  refine .ite ?_ (fun _ => ?_) fun _ => ?_
  · rw [h.desiredMove hspot, h.phaseAge, h.desiredDirection, h.esConfirms hspot]
  · exact stepSim_confirmed h ho h.desiredDirection _
  · exact stepSim_updateExtreme h hspot _ _ _

theorem stepSim_retest :
    StepSim c (advanceRetest a o spot es settings) (advanceRetest e o' spot' es settings) := by
  unfold advanceRetest
  rw [ho.at']
  refine .ite (by rw [h.desiredMove hspot]) (fun _ => ?_) fun _ => ?_
  · exact stepSim_updateExtreme (eventSim_hold h _) hspot _ _ _
  rw [h.confirmStartedAt]
  split
  · exact stepSim_updateExtreme (eventSim_hold h _) hspot _ _ _
  refine .ite (by rw [h.desiredDirection, h.esConfirms hspot]) (fun _ => ?_) fun _ => ?_
  · refine stepSim_confirmed ?_ ho h.desiredDirection _
    exact h.touch (congrArg (fun v : LevelEvent => { v with
      breakoutConfirmationMode :=
        if v.thesis = LevelThesis.breakout then some .retest else v.breakoutConfirmationMode
      confirmStartedAt := e.confirmStartedAt }) h.view) rfl rfl
  · exact stepSim_updateExtreme h hspot _ _ _

theorem stepSim_thesis :
    StepSim c (advanceThesis a o spot es settings) (advanceThesis e o' spot' es settings) := by
  unfold advanceThesis
  rw [ho.at']
  refine .ite (by rw [h.desiredMove hspot]) (fun _ => ?_) fun _ => ?_
  · exact stepSim_transition h rfl _ _
  refine .ite (by rw [h.phase, h.phaseTimedOut]) (fun _ => ?_) fun _ => ?_
  · exact stepSim_transition h rfl _ _
  rw [h.phase]
  split
  · exact stepSim_pending h ho hspot
  · exact stepSim_pending h ho hspot
  · exact stepSim_accepted h ho hspot
  · exact stepSim_accepted h ho hspot
  · exact stepSim_retest h ho hspot
  · exact stepSim_unchanged h

theorem stepSim_live (hpriced : spot ≠ 0 ∧ spot' ≠ 0) :
    StepSim c (advanceLive a o spot es settings) (advanceLive e o' spot' es settings) := by
  -- Neither event sees another coordinate than its own.
  have hsame : orText (some a.triggerCoordinateKind) "unknown" = o.triggerCoordinateKind := by
    rw [show a.triggerCoordinateKind = c.kind from h.anchored.kind, ho.kind]
    exact if_neg c.named
  have hsame' : orText (some e.triggerCoordinateKind) "unknown" = o'.triggerCoordinateKind := by
    rw [show e.triggerCoordinateKind = "official_spx" from h.anchored'.kind, ho.kind']
    rfl
  have hlatch := eventSim_latch h hspot o'.at'
  unfold advanceLive
  rw [if_neg (not_not.mpr hsame), if_neg (not_not.mpr hsame'), ho.at']
  refine .ite (by rw [h.structureDrifted ho]) (fun _ => ?_) fun _ => ?_
  · exact stepSim_transition h rfl _ _
  rw [h.phase]
  split
  · exact stepSim_approaching hlatch ho hspot
  · exact stepSim_testing hlatch ho hspot hpriced
  · exact stepSim_thesis h ho hspot

theorem stepSim_active (hpriced : spot ≠ 0 ∧ spot' ≠ 0) :
    StepSim c (advanceActive a o spot es settings) (advanceActive e o' spot' es settings) := by
  unfold advanceActive
  dsimp only
  rw [ho.at']
  refine .ite (by rw [h.expired]) (fun _ => ?_) fun _ => stepSim_live h ho hspot hpriced
  refine .ite (by rw [h.phase]) (fun _ => stepSim_transition h rfl _ _) fun _ => ?_
  refine .ite (by rw [h.phase]) (fun _ => ?_) fun _ => ?_
  · refine stepSim_live ?_ ho hspot hpriced
    rw [h.phaseAge]
    split
    · exact eventSim_extend h _
    · exact h
  refine .ite (by rw [h.distance hspot]) (fun _ => ?_) fun _ => stepSim_transition h rfl _ _
  exact stepSim_unchanged (eventSim_extend h _)

end Active

/-! ## Arming -/

theorem mem_levels_of_nearest {guard : Option (LevelKind × ℚ)} {kind : LevelKind} {level : ℚ}
    (h : nearestLevel o spot settings guard = some (kind, level)) : o.levels kind = some level := by
  have hmem := List.mem_of_mem_filter (List.argmin_mem h)
  obtain ⟨k, _, hk⟩ := List.mem_filterMap.mp hmem
  obtain ⟨l, hl, hpair⟩ := Option.map_eq_some_iff.mp hk
  cases hpair
  exact hl

section Arming

variable {guard guard' : Option (LevelKind × ℚ)} (ho : SameMarket c o o')
  (hspot : spot = spot' + c.basis)
include ho hspot

theorem eligibleLevels_shifted (hguard : guard = guard'.map fun g => (g.1, g.2 + c.basis)) :
    eligibleLevels o spot settings guard =
      (eligibleLevels o' spot' settings guard').map fun p => (p.1, p.2 + c.basis) := by
  have hlevels : (LevelKind.all.filterMap fun kind => (o.levels kind).map (kind, ·)) =
      (LevelKind.all.filterMap fun kind => (o'.levels kind).map (kind, ·)).map
        fun p => (p.1, p.2 + c.basis) := by
    rw [List.map_filterMap]
    refine List.filterMap_congr fun kind _ => ?_
    rw [ho.levels, Option.map_map, Option.map_map]
    rfl
  unfold eligibleLevels
  rw [hlevels, List.filter_map]
  congr 1
  refine List.filter_congr fun p _ => ?_
  simp [hspot, hguard, rearmGuardBlocks, Option.any_map]

theorem nearestLevel_shifted (hguard : guard = guard'.map fun g => (g.1, g.2 + c.basis)) :
    nearestLevel o spot settings guard =
      (nearestLevel o' spot' settings guard').map fun p => (p.1, p.2 + c.basis) := by
  unfold nearestLevel
  rw [eligibleLevels_shifted ho hspot hguard]
  refine Arrays.argmin_map (fun p => ?_) _
  rw [hspot, add_sub_add_right_eq_sub]

theorem eventSim_armed (kind : LevelKind) {level : ℚ} (hlevel : o'.levels kind = some level)
    (generation : ℕ) : EventSim c (armedEvent o spot es settings generation kind (level + c.basis))
      (armedEvent o' spot' es settings generation kind level) := by
  have hfresh : EventSim c (freshEvent o spot es settings generation kind (level + c.basis))
      (freshEvent o' spot' es settings generation kind level) := by
    refine ⟨?_, ⟨ho.kind, ho.rth, fun hproxy => ?_, nofun⟩, ⟨ho.kind', ho.rth', nofun, nofun⟩⟩
    · simp [LevelEvent.inCash, freshEvent, ho.at', ho.sessionDate, ho.rth, ho.rth', hspot]
    · obtain ⟨hbasis, hcash⟩ := ho.proxied hproxy
      refine ⟨hbasis, ?_⟩
      show (o.spxLevels kind).getD (level + c.basis) = level + c.basis - c.basis
      rw [hcash, hlevel, Option.getD_some, add_sub_cancel_right]
  unfold armedEvent
  rw [ho.at']
  exact eventSim_latch hfresh hspot _

theorem stepSim_arm (hguard : guard = guard'.map fun g => (g.1, g.2 + c.basis)) (generation : ℕ) :
    StepSim c (armNearestLevel o spot es settings generation guard)
      (armNearestLevel o' spot' es settings generation guard') := by
  unfold armNearestLevel
  rw [nearestLevel_shifted ho hspot hguard]
  cases hnear : nearestLevel o' spot' settings guard' with
  | none => exact ⟨rfl, rfl, rfl, .far ⟨rfl, hguard⟩⟩
  | some p =>
    have hsim : EventSim c (armedEvent o spot es settings generation p.1 (p.2 + c.basis))
        (armedEvent o' spot' es settings generation p.1 p.2) :=
      eventSim_armed ho hspot p.1 (mem_levels_of_nearest hnear) generation
    exact ⟨rfl, hsim.phase, rfl, .event hsim⟩

theorem stepSim_far {f f' : FarState} (h : FarSim c f f') :
    StepSim c (advanceFar f o spot es settings) (advanceFar f' o' spot' es settings) := by
  unfold advanceFar
  refine .ite (by rw [ho.armAllowed]) (fun _ => ?_) fun _ => ?_
  · exact ⟨rfl, rfl, rfl, .far ⟨h.generation, h.guard⟩⟩
  rw [h.generation]
  refine stepSim_arm ho hspot ?_ _
  unfold liveGuard
  rw [h.guard]
  cases f'.rearmGuard with
  | none => rfl
  | some g =>
    simp only [Option.map_some, Option.filter_some, hspot, add_sub_add_right_eq_sub]
    split
    · rfl
    · rfl

theorem stepSim_terminal (h : EventSim c a e) : StepSim c (handleTerminalRearm a o spot es settings)
      (handleTerminalRearm e o' spot' es settings) := by
  unfold handleTerminalRearm
  dsimp only
  rw [ho.at']
  refine .ite (by rw [h.phaseAge]) (fun _ => stepSim_unchanged h) fun _ => ?_
  refine .ite (by rw [h.structureMigrated ho]) (fun _ => ?_) fun _ => ?_
  · rw [h.generation]
    have hnone : (none : Option (LevelKind × ℚ)) =
        (none : Option (LevelKind × ℚ)).map fun g => (g.1, g.2 + c.basis) := rfl
    have harm : StepSim c (armNearestLevel o spot es settings (e.reentryGeneration + 1) none)
        (armNearestLevel o' spot' es settings (e.reentryGeneration + 1) none) :=
      stepSim_arm ho hspot hnone _
    refine .ite (by rw [harm.currentPhase]) (fun _ => ?_) fun _ => ?_
    · exact ⟨h.phase, harm.currentPhase, rfl, harm.state⟩
    · exact stepSim_toFar (.event h) _ _ rfl
  refine .ite (by rw [h.distance hspot]) (fun _ => stepSim_unchanged h) fun _ => ?_
  refine stepSim_toFar (.event h) _ _ ?_
  rw [h.distance hspot, h.levelKind, h.level]
  split
  · rfl
  · rfl

end Arming

/-! ## One observation -/

theorem stepSim_badQuality (hs : StateSim c s s') (hat : o.at' = o'.at') :
    StepSim c (handleBadQuality s o settings) (handleBadQuality s' o' settings) := by
  have hdegrade : ∀ {a e : LevelEvent} (reason reason' : String), EventSim c a e →
      EventSim c { a with quality := degrade a.quality o'.at' reason }
        { e with quality := degrade e.quality o'.at' reason' } := fun {_ _} _ _ h =>
    h.touch (congrArg (fun v => { v with quality :=
      { degrade v.quality o'.at' "" with reason := none } }) h.view) rfl rfl
  cases hs with
  | far h => exact ⟨rfl, rfl, rfl, .far ⟨h.generation, h.guard⟩⟩
  | @event a e h =>
    unfold handleBadQuality
    dsimp only
    rw [hat]
    replace h := hdegrade (orText o.qualityReason "market_data_unavailable")
      (orText o'.qualityReason "market_data_unavailable") h
    refine .ite (by rw [h.phase]) (fun _ => stepSim_unchanged h) fun _ => ?_
    refine .ite (by rw [h.phase]) (fun _ => ?_) fun _ => ?_
    · refine .ite (by rw [h.phaseAge]) (fun _ => stepSim_transition h rfl _ _) fun _ => ?_
      refine .ite (by rw [h.expired]) (fun _ => ?_) fun _ => stepSim_unchanged h
      rw [h.phaseAge]
      exact stepSim_unchanged (eventSim_extend h _)
    refine .ite (by rw [h.expired]) (fun _ => ?_) fun _ => ?_
    · have hphase : a.phase = e.phase := h.phase
      by_cases hconfirmed : e.phase = .confirmed
      · rw [if_pos (hphase.trans hconfirmed), if_pos hconfirmed]
        exact stepSim_transition h rfl _ _
      · rw [if_neg (hphase ▸ hconfirmed), if_neg hconfirmed]
        exact stepSim_transition h rfl _ _
    refine .ite (by rw [h.failedAt]) (fun _ => ?_) fun _ => stepSim_unchanged h
    refine stepSim_unchanged (h.touch ?_ rfl rfl)
    exact congrArg (fun v => { v with quality := { v.quality with failedAt := some o'.at' } })
      h.view

theorem stepSim_event (h : EventSim c a e) (ho : SameMarket c o o')
    (hspot : spot = spot' + c.basis) (hpriced : spot ≠ 0 ∧ spot' ≠ 0) :
    StepSim c (advanceEvent a o spot es settings) (advanceEvent e o' spot' es settings) := by
  unfold advanceEvent
  rw [h.breakoutEvidenceIssue, ho.at']
  cases OrderMap.breakoutEvidenceIssue e with
  | some issue => exact stepSim_transition h rfl _ _
  | none =>
    refine .ite (by rw [h.phase]) (fun _ => ?_) fun _ => stepSim_active h ho hspot hpriced
    refine .ite (by rw [ho.armAllowed]) (fun _ => stepSim_unchanged h) fun _ => ?_
    exact stepSim_terminal ho hspot h

theorem eventSim_clear (h : EventSim c a e) :
    EventSim c { a with quality := .clear } { e with quality := .clear } :=
  h.touch (congrArg (fun v => { v with quality := .clear }) h.view) rfl rfl

theorem settleEvent_same (e : LevelEvent)
    (hkind : o.triggerCoordinateKind = e.triggerCoordinateKind) :
    settleEvent e o = { e with quality := .clear } := by
  unfold settleEvent
  refine if_neg fun h => ?_
  obtain ⟨_, _, _, hproxy, hcash⟩ := of_decide_eq_true h
  rw [show ({ e with quality := .clear } : LevelEvent).triggerCoordinateKind =
    e.triggerCoordinateKind from rfl, ← hkind, hcash] at hproxy
  exact absurd hproxy (by decide)

theorem stepSim_good (hs : StateSim c s s') (ho : SameMarket c o o')
    (hspot : spot = spot' + c.basis) (hpriced : spot ≠ 0 ∧ spot' ≠ 0) :
    StepSim c (advanceGood s o spot es settings) (advanceGood s' o' spot' es settings) := by
  cases hs with
  | far h => exact stepSim_far ho hspot ⟨h.generation, h.guard⟩
  | @event a e h =>
    show StepSim c (advanceEvent (settleEvent a o) o spot es settings)
      (advanceEvent (settleEvent e o') o' spot' es settings)
    rw [settleEvent_same a (ho.kind.trans h.anchored.kind.symm),
      settleEvent_same e (ho.kind'.trans h.anchored'.kind.symm)]
    exact stepSim_event (eventSim_clear h) ho hspot hpriced

theorem sessionBoundary_shifted (hs : StateSim c s s') (ho : SameMarket c o o') :
    sessionBoundaryChanged s o = sessionBoundaryChanged s' o' := by
  cases hs with
  | far => rfl
  | @event a e h =>
    have hrth : a.sessionMode = "rth" := h.anchored.rth
    have hrth' : e.sessionMode = "rth" := h.anchored'.rth
    have hkind : a.triggerCoordinateKind = c.kind := h.anchored.kind
    have hkind' : e.triggerCoordinateKind = "official_spx" := h.anchored'.kind
    have hcash : proxyCoordinate "official_spx" = false := by decide
    simp [sessionBoundaryChanged, hrth, hrth', hkind, hkind', ho.rth, ho.rth', ho.kind, ho.kind',
      h.sessionDate, ho.sessionDate, hcash]
    intro _ hofficial hproxy
    rw [hofficial, hcash] at hproxy
    cases hproxy

theorem stateSim_start {s s' : Option LevelState} (hs : Option.Rel (StateSim c) s s')
    (o o' : LevelObservation) : StateSim c (startState s o) (startState s' o') := by
  cases hs with
  | none => exact .far ⟨rfl, rfl⟩
  | some h => exact h

/-- **One step of the machine says the same in both coordinates.** -/
theorem stepSim_advance {s s' : Option LevelState} (hs : Option.Rel (StateSim c) s s')
    (ho : SameMarket c o o') (hpriced : PricedIn c o') :
    StepSim c (advanceLevelDecision s o settings) (advanceLevelDecision s' o' settings) := by
  have hstart := stateSim_start hs o o'
  unfold advanceLevelDecision
  dsimp only
  refine .ite (by rw [sessionBoundary_shifted hstart ho]) (fun _ => ?_) fun _ => ?_
  · rw [ho.at']
    exact stepSim_toFar hstart _ _ rfl
  rw [ho.qualityOk, ho.spot, ho.es]
  cases hspot : o'.spot with
  | none => cases o'.qualityOk <;> exact stepSim_badQuality hstart ho.at'
  | some spot =>
    cases o'.es with
    | none => cases o'.qualityOk <;> exact stepSim_badQuality hstart ho.at'
    | some es =>
      cases o'.qualityOk with
      | false => exact stepSim_badQuality hstart ho.at'
      | true => exact stepSim_good hstart ho rfl (hpriced spot hspot)

end SpxSpark.OrderMap
