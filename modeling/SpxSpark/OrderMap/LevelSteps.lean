import SpxSpark.Lib.Run
import SpxSpark.OrderMap.LevelDecision

/-!
# LevelSteps — what one observation can do to the level machine

Said once, for every law about runs: an observation resets the machine at a session boundary, leaves
the FAR state idle, arms an event, carries an event on, withdraws it before its test, or takes a
terminal event back to FAR or straight into the next one.
-/

namespace SpxSpark.OrderMap

open Lib

variable {settings : LevelDecisionSettings} {o : LevelObservation} {spot es : ℚ}

/-! ## Carrying an event on -/

/-- What no step rewrites in an event it carries on. -/
structure EventIdentity where
  eventId : LevelEventId
  reentryGeneration : ℕ
  levelKind : LevelKind
  level : ℚ
  outsideDirection : ℤ
  startedAt : Instant
  sessionDate : String
  sessionMode : String
  triggerCoordinateKind : String

def LevelEvent.identity (e : LevelEvent) : EventIdentity where
  eventId := e.eventId
  reentryGeneration := e.reentryGeneration
  levelKind := e.levelKind
  level := e.level
  outsideDirection := e.outsideDirection
  startedAt := e.startedAt
  sessionDate := e.sessionDate
  sessionMode := e.sessionMode
  triggerCoordinateKind := e.triggerCoordinateKind

/-- `e'` is the event `e`, at a later observation. -/
def Continues (e e' : LevelEvent) : Prop := e'.identity = e.identity

namespace Continues

variable {e e' : LevelEvent}

theorem refl (e : LevelEvent) : Continues e e := rfl

theorem trans {a b c : LevelEvent} (h : Continues a b) (h' : Continues b c) : Continues a c :=
  Eq.trans h' h

section

variable (h : Continues e e')

include h

theorem eventId : e'.eventId = e.eventId := congrArg (·.eventId) h

theorem reentryGeneration : e'.reentryGeneration = e.reentryGeneration :=
  congrArg (·.reentryGeneration) h

theorem levelKind : e'.levelKind = e.levelKind := congrArg (·.levelKind) h

theorem level : e'.level = e.level := congrArg (·.level) h

theorem sessionDate : e'.sessionDate = e.sessionDate :=
  congrArg (·.sessionDate) h

theorem sessionMode : e'.sessionMode = e.sessionMode :=
  congrArg (·.sessionMode) h

theorem triggerCoordinateKind : e'.triggerCoordinateKind = e.triggerCoordinateKind :=
  congrArg (·.triggerCoordinateKind) h

end

end Continues

/-- A transition that carries `e` on, from its phase to any other but FAR. -/
def CarriesOn (e : LevelEvent) (t : LevelTransition) : Prop :=
  ∃ e', t.state = .event e' ∧ t.previousPhase = e.phase ∧ t.currentPhase = e'.phase ∧
    Continues e e' ∧ (e'.phase = .far → e.phase = .far)

section CarriesOn

variable {e e' : LevelEvent} {now : Instant} {reason : String}

variable {t : LevelTransition}

/-- The steps below first touch up the event; what they carry on is then the event itself. -/
theorem CarriesOn.of_continues (hc : Continues e e') (hphase : e'.phase = e.phase)
    (h : CarriesOn e' t) : CarriesOn e t := by
  obtain ⟨e'', hstate, hprev, hcur, hc', hfar⟩ := h
  exact ⟨e'', hstate, hprev.trans hphase, hcur, hc.trans hc', fun h => hphase ▸ hfar h⟩

theorem carriesOn_transition (e : LevelEvent) {current : LevelPhase} (hcurrent : current ≠ .far)
    (now : Instant) (reason : String) : CarriesOn e (transition e current now reason) :=
  ⟨_, rfl, rfl, rfl, rfl, fun h => absurd h hcurrent⟩

theorem carriesOn_unchanged (e : LevelEvent) (now : Instant) (reason : String) :
    CarriesOn e (unchanged e now reason) :=
  ⟨_, rfl, rfl, rfl, rfl, id⟩

theorem carriesOn_updateExtreme (e : LevelEvent) (now : Instant) (spot es : ℚ) (reason : String) :
    CarriesOn e (updateExtreme e now spot es reason) :=
  ⟨_, rfl, rfl, rfl, rfl, id⟩

theorem continues_latchBreakoutInsideEvidence (e : LevelEvent) (now : Instant) (spot : ℚ) :
    Continues e (latchBreakoutInsideEvidence e now spot) := by
  unfold latchBreakoutInsideEvidence
  split
  · exact rfl
  · exact .refl e

@[simp] theorem latchBreakoutInsideEvidence_phase (e : LevelEvent) (now : Instant) (spot : ℚ) :
    (latchBreakoutInsideEvidence e now spot).phase = e.phase := by
  unfold latchBreakoutInsideEvidence
  split <;> rfl

theorem carriesOn_confirmed (e : LevelEvent) (o : LevelObservation) (d : ℤ)
    (settings : LevelDecisionSettings) (reason : String) :
    CarriesOn e (confirmedTransition e o d settings reason) :=
  ⟨_, rfl, rfl, rfl, rfl, nofun⟩

theorem carriesOn_testing : CarriesOn e (advanceTesting e o spot es settings) := by
  unfold advanceTesting
  split
  · exact .of_continues rfl rfl (carriesOn_transition _ (by decide) _ _)
  split
  · exact carriesOn_updateExtreme ..
  split
  · exact .of_continues rfl rfl (carriesOn_transition _ (by decide) _ _)
  · exact carriesOn_updateExtreme ..

theorem pendingTarget_ne_far (e : LevelEvent) : pendingTarget e ≠ .far := by
  unfold pendingTarget
  split <;> decide

theorem carriesOn_pending : CarriesOn e (advancePending e o spot es settings) := by
  unfold advancePending
  split
  · exact .of_continues rfl rfl (carriesOn_transition _ (pendingTarget_ne_far e) _ _)
  · exact carriesOn_updateExtreme ..

theorem carriesOn_accepted : CarriesOn e (advanceAccepted e o spot es settings) := by
  unfold advanceAccepted
  split
  · split
    · exact .of_continues rfl rfl (carriesOn_updateExtreme _ _ _ _ _)
    · exact carriesOn_updateExtreme ..
  split
  · exact .of_continues rfl rfl (carriesOn_transition _ (by decide) _ _)
  split
  · split
    · exact .of_continues rfl rfl (carriesOn_updateExtreme _ _ _ _ _)
    · split
      · exact .of_continues rfl rfl (carriesOn_updateExtreme _ _ _ _ _)
      · split
        · exact .of_continues rfl rfl (carriesOn_confirmed _ _ _ _ _)
        · exact carriesOn_updateExtreme ..
  split
  · exact carriesOn_confirmed ..
  · exact carriesOn_updateExtreme ..

theorem carriesOn_retest : CarriesOn e (advanceRetest e o spot es settings) := by
  unfold advanceRetest
  split
  · exact .of_continues rfl rfl (carriesOn_updateExtreme _ _ _ _ _)
  split
  · exact .of_continues rfl rfl (carriesOn_updateExtreme _ _ _ _ _)
  split
  · exact .of_continues rfl rfl (carriesOn_confirmed _ _ _ _ _)
  · exact carriesOn_updateExtreme ..

theorem carriesOn_thesis : CarriesOn e (advanceThesis e o spot es settings) := by
  unfold advanceThesis
  split
  · exact carriesOn_transition _ (by decide) _ _
  split
  · exact carriesOn_transition _ (by decide) _ _
  split
  · exact carriesOn_pending
  · exact carriesOn_pending
  · exact carriesOn_accepted
  · exact carriesOn_accepted
  · exact carriesOn_retest
  · exact carriesOn_unchanged ..

theorem carriesOn_badQuality : CarriesOn e (handleBadQuality (.event e) o settings) := by
  unfold handleBadQuality
  dsimp only
  split
  · exact .of_continues rfl rfl (carriesOn_unchanged _ _ _)
  split
  · split
    · exact .of_continues rfl rfl (carriesOn_transition _ (by decide) _ _)
    split
    · exact .of_continues rfl rfl (carriesOn_unchanged _ _ _)
    · exact .of_continues rfl rfl (carriesOn_unchanged _ _ _)
  split
  · exact .of_continues rfl rfl (carriesOn_transition _ (by decide) _ _)
  split
  · exact .of_continues rfl rfl (carriesOn_unchanged _ _ _)
  · exact .of_continues rfl rfl (carriesOn_unchanged _ _ _)

end CarriesOn

/-! ## Going back to FAR -/

/-- The re-entry generation of the next event to be armed. -/
def LevelState.carried : LevelState → ℕ
  | .far f => f.nextReentryGeneration
  | .event e => if e.phase.terminal then e.reentryGeneration + 1 else e.reentryGeneration

/-- The FAR state an event leaves behind. -/
def farAfter (now : Instant) (generation : ℕ) (reason : String) (guard : Option (LevelKind × ℚ)) :
    FarState :=
  { emptyLevelState now with
    nextReentryGeneration := generation
    reason := some reason
    rearmGuard := guard }

theorem toFar_event (e : LevelEvent) (now : Instant) {reason : String}
    (hreason : reason ≠ "session_boundary_reset") (guard : Option (LevelKind × ℚ)) :
    toFar (.event e) now reason guard =
      ⟨e.phase, .far, .far (farAfter now (LevelState.event e).carried reason guard), true,
        reason⟩ := by
  simp only [toFar, hreason, farAfter, LevelState.carried, LevelState.phase, if_false]
  rfl

theorem toFar_boundary (state : LevelState) (now : Instant) :
    toFar state now "session_boundary_reset" none =
      ⟨state.phase, .far, .far (farAfter now 0 "session_boundary_reset" none), true,
        "session_boundary_reset"⟩ := by
  simp [toFar, farAfter]

/-! ## The outcomes of one observation -/

/-- The observation is one the machine may draw conclusions from. -/
structure Good (o : LevelObservation) (spot es : ℚ) : Prop where
  ok : o.qualityOk = true
  spot : o.spot = some spot
  es : o.es = some es

def armedTransition (previous : LevelPhase) (e : LevelEvent) (reason : String) : LevelTransition :=
  ⟨previous, e.phase, .event e, true, reason⟩

/-- An event that is given up before its test. -/
def withdrawnTransition (e : LevelEvent) (now : Instant) : LevelTransition :=
  ⟨.approaching, .far, .far (farAfter now e.reentryGeneration "moved_away_before_test" none), true,
    "moved_away_before_test"⟩

/-- What an observation that is no session boundary does. -/
inductive Outcome (settings : LevelDecisionSettings) (o : LevelObservation) :
    LevelState → LevelTransition → Prop
  /-- FAR stays FAR; its guard stays too, unless the price has left it. -/
  | idle {f f' : FarState} {reason : String} :
      f'.nextReentryGeneration = f.nextReentryGeneration →
      (f'.rearmGuard = f.rearmGuard ∨ ∃ spot guard, o.spot = some spot ∧
        f.rearmGuard = some guard ∧ settings.approachPoints < |spot - guard.2|) →
      Outcome settings o (.far f) ⟨.far, .far, .far f', false, reason⟩
  | armed {f : FarState} {spot es : ℚ} {kind : LevelKind} {level : ℚ} :
      Good o spot es → o.armAllowed = true →
      nearestLevel o spot settings (liveGuard f spot settings) = some (kind, level) →
      Outcome settings o (.far f)
        (armedTransition .far (armedEvent o spot es settings f.nextReentryGeneration kind level)
          "nearest_level_armed")
  /-- The event goes on, perhaps rebased to cash SPX first. -/
  | carried {e : LevelEvent} {t : LevelTransition} :
      CarriesOn e t ∨ canUpgradeRthTriggerCoordinate e o ∧
        CarriesOn (upgradeRthTriggerCoordinate e o) t →
      (e.phase.terminal → t.currentPhase = e.phase) →
      Outcome settings o (.event e) t
  | withdrawn {e : LevelEvent} :
      e.phase = .approaching →
      Outcome settings o (.event e) (withdrawnTransition e o.at')
  /-- A terminal event whose level was left, or is published no more. -/
  | exited {e : LevelEvent} {spot : ℚ} {guard : Option (LevelKind × ℚ)} {reason : String} :
      e.phase.terminal → o.spot = some spot → reason ≠ "session_boundary_reset" →
      (guard = some (e.levelKind, e.level) ∨ guard = none ∧
        (settings.approachPoints < |spot - e.level| ∨ structureMigrated e o settings)) →
      Outcome settings o (.event e)
        ⟨e.phase, .far, .far (farAfter o.at' (e.reentryGeneration + 1) reason guard), true, reason⟩
  | rearmed {e : LevelEvent} {spot es : ℚ} {kind : LevelKind} {level : ℚ} :
      e.phase.terminal → Good o spot es → o.armAllowed = true → structureMigrated e o settings →
      nearestLevel o spot settings none = some (kind, level) →
      Outcome settings o (.event e)
        (armedTransition e.phase
          (armedEvent o spot es settings (e.reentryGeneration + 1) kind level)
          "stable_structure_promoted_rearm")

section Outcomes

variable {e : LevelEvent}

/-- An active event is carried on, or given up before its test. -/
def ActiveOutcome (e : LevelEvent) (o : LevelObservation) (t : LevelTransition) : Prop :=
  CarriesOn e t ∨ e.phase = .approaching ∧ t = withdrawnTransition e o.at'

theorem ActiveOutcome.of_continues {e' : LevelEvent} (hc : Continues e e')
    (hphase : e'.phase = e.phase) (h : ActiveOutcome e' o t) : ActiveOutcome e o t := by
  rcases h with h | ⟨happ, rfl⟩
  · exact .inl (h.of_continues hc hphase)
  · refine .inr ⟨hphase ▸ happ, ?_⟩
    rw [withdrawnTransition, withdrawnTransition, hc.reentryGeneration]

theorem activeOutcome_approaching (hphase : e.phase = .approaching) :
    ActiveOutcome e o (advanceApproaching e o spot es settings) := by
  unfold advanceApproaching
  split
  · exact .inl (carriesOn_transition _ (by decide) _ _)
  split
  · refine .inr ⟨hphase, ?_⟩
    rw [toFar_event e o.at' (by decide), withdrawnTransition, hphase]
    simp [LevelState.carried, hphase, LevelPhase.terminal]
  · exact .inl (carriesOn_updateExtreme ..)

theorem activeOutcome_live : ActiveOutcome e o (advanceLive e o spot es settings) := by
  unfold advanceLive
  split
  · exact .inl (carriesOn_transition _ (by decide) _ _)
  split
  · exact .inl (carriesOn_transition _ (by decide) _ _)
  split
  · rename_i hphase
    exact (activeOutcome_approaching (by simpa using hphase)).of_continues
      (continues_latchBreakoutInsideEvidence ..) (latchBreakoutInsideEvidence_phase ..)
  · exact .inl (carriesOn_testing.of_continues (continues_latchBreakoutInsideEvidence ..)
      (latchBreakoutInsideEvidence_phase ..))
  · exact .inl carriesOn_thesis

theorem activeOutcome_active : ActiveOutcome e o (advanceActive e o spot es settings) := by
  unfold advanceActive
  dsimp only
  split
  · split
    · exact .inl (carriesOn_transition _ (by decide) _ _)
    split
    · refine .of_continues ?_ ?_ activeOutcome_live
      · split <;> rfl
      · split <;> rfl
    split
    · exact .inl (.of_continues rfl rfl (carriesOn_unchanged _ _ _))
    · exact .inl (carriesOn_transition _ (by decide) _ _)
  · exact activeOutcome_live

section Armed

variable (o : LevelObservation) (spot es : ℚ) (settings : LevelDecisionSettings) (generation : ℕ)
  (kind : LevelKind) (level : ℚ)

theorem armedEvent_phase :
    (armedEvent o spot es settings generation kind level).phase =
      if |spot - level| ≤ settings.testPoints then .testing else .approaching :=
  latchBreakoutInsideEvidence_phase ..

theorem armedEvent_active :
    (armedEvent o spot es settings generation kind level).phase = .testing ∨
      (armedEvent o spot es settings generation kind level).phase = .approaching := by
  rw [armedEvent_phase]
  split
  · exact .inl rfl
  · exact .inr rfl

theorem armedEvent_ne_far :
    (armedEvent o spot es settings generation kind level).phase ≠ .far := by
  rcases armedEvent_active o spot es settings generation kind level with h | h <;> rw [h] <;>
    decide

theorem armedEvent_not_terminal :
    (armedEvent o spot es settings generation kind level).phase.terminal = false := by
  rcases armedEvent_active o spot es settings generation kind level with h | h <;> rw [h] <;> rfl

@[simp] theorem armedEvent_reentryGeneration :
    (armedEvent o spot es settings generation kind level).reentryGeneration = generation :=
  (continues_latchBreakoutInsideEvidence ..).reentryGeneration

@[simp] theorem armedEvent_level :
    (armedEvent o spot es settings generation kind level).level = level :=
  (continues_latchBreakoutInsideEvidence ..).level

@[simp] theorem armedEvent_sessionDate :
    (armedEvent o spot es settings generation kind level).sessionDate = o.sessionDate :=
  (continues_latchBreakoutInsideEvidence ..).sessionDate

@[simp] theorem armedEvent_sessionMode :
    (armedEvent o spot es settings generation kind level).sessionMode = o.sessionMode :=
  (continues_latchBreakoutInsideEvidence ..).sessionMode

@[simp] theorem armedEvent_triggerCoordinateKind :
    (armedEvent o spot es settings generation kind level).triggerCoordinateKind =
      o.triggerCoordinateKind :=
  (continues_latchBreakoutInsideEvidence ..).triggerCoordinateKind

theorem armNearestLevel_cases (guard : Option (LevelKind × ℚ)) :
    (∃ reason, armNearestLevel o spot es settings generation guard =
      ⟨.far, .far,
        .far { emptyLevelState o.at' with
          nextReentryGeneration := generation
          rearmGuard := guard }, false, reason⟩) ∨
    ∃ kind level, nearestLevel o spot settings guard = some (kind, level) ∧
      armNearestLevel o spot es settings generation guard =
        armedTransition .far (armedEvent o spot es settings generation kind level)
          "nearest_level_armed" := by
  unfold armNearestLevel
  split
  · exact .inl ⟨_, rfl⟩
  · exact .inr ⟨_, _, ‹_›, rfl⟩

end Armed

theorem outcome_far (f : FarState) (quality : Quality) (hgood : Good o spot es) :
    Outcome settings o (.far f) (advanceFar { f with quality := quality } o spot es settings) := by
  unfold advanceFar
  split
  · exact .idle rfl (.inl rfl)
  rename_i hallowed
  have hlive : liveGuard { f with quality := quality } spot settings = liveGuard f spot settings :=
    rfl
  rw [hlive]
  rcases armNearestLevel_cases o spot es settings f.nextReentryGeneration
      (liveGuard f spot settings) with ⟨reason, h⟩ | ⟨kind, level, hnear, h⟩
  · rw [h]
    refine .idle rfl ?_
    unfold liveGuard
    cases hguard : f.rearmGuard with
    | none => exact .inl rfl
    | some guard =>
      by_cases hreach : |spot - guard.2| ≤ settings.approachPoints
      · simp [hreach]
      · exact .inr ⟨spot, guard, hgood.spot, rfl, not_le.mp hreach⟩
  · rw [h]
    exact .armed hgood (by simpa using hallowed) hnear

theorem outcome_terminal {e' : LevelEvent} (hc : Continues e e') (hphase : e'.phase = e.phase)
    (hterminal : e.phase.terminal) (hallowed : o.armAllowed = true) (hgood : Good o spot es) :
    Outcome settings o (.event e) (handleTerminalRearm e' o spot es settings) := by
  have hcarried : (LevelState.event e').carried = e.reentryGeneration + 1 := by
    simp [LevelState.carried, hphase, hterminal, hc.reentryGeneration]
  have hmigration : structureMigrated e' o settings = structureMigrated e o settings := by
    unfold structureMigrated
    rw [hc.levelKind, hc.level]
  unfold handleTerminalRearm
  dsimp only
  split
  · exact .carried (.inl ((carriesOn_unchanged ..).of_continues hc hphase)) fun _ => hphase
  split
  · rename_i hmigrated
    rw [hmigration] at hmigrated
    rcases armNearestLevel_cases o spot es settings (e'.reentryGeneration + 1) none with
      ⟨reason, h⟩ | ⟨kind, level, hnear, h⟩
    · rw [h, if_neg (by simp), toFar_event e' o.at' (by decide), hcarried, hphase]
      exact .exited hterminal hgood.spot (by decide) (.inr ⟨rfl, .inr hmigrated⟩)
    · have hactive := armedEvent_active o spot es settings (e'.reentryGeneration + 1) kind level
      rw [h, if_pos, hphase, hc.reentryGeneration]
      · exact .rearmed hterminal hgood hallowed hmigrated hnear
      · rcases hactive with h | h <;> simp [armedTransition, h]
  split
  · exact .carried (.inl ((carriesOn_unchanged ..).of_continues hc hphase)) fun _ => hphase
  · rw [toFar_event e' o.at' (by decide), hcarried, hphase, hc.level, hc.levelKind]
    refine .exited hterminal hgood.spot (by decide) ?_
    split
    · exact .inr ⟨rfl, .inl ‹_›⟩
    · exact .inl rfl

theorem badQuality_terminal (hterminal : e.phase.terminal) :
    (handleBadQuality (.event e) o settings).currentPhase = e.phase := by
  simp [handleBadQuality, hterminal, unchanged]

theorem settleEvent_phase (e : LevelEvent) (o : LevelObservation) :
    (settleEvent e o).phase = e.phase := by
  unfold settleEvent
  dsimp only
  split <;> rfl

theorem settleEvent_continues (e : LevelEvent) (o : LevelObservation) :
    Continues e (settleEvent e o) ∨
      canUpgradeRthTriggerCoordinate e o ∧
        Continues (upgradeRthTriggerCoordinate e o) (settleEvent e o) := by
  unfold settleEvent
  dsimp only
  split
  · exact .inr ⟨‹_›, rfl⟩
  · exact .inl rfl

theorem settleEvent_terminal (hterminal : e.phase.terminal) : Continues e (settleEvent e o) := by
  rcases settleEvent_continues e o with h | ⟨h, _⟩
  · exact h
  · simp [canUpgradeRthTriggerCoordinate, hterminal] at h

theorem breakoutEvidenceIssue_terminal (hterminal : e.phase.terminal) :
    breakoutEvidenceIssue e = none := by
  have hphase : e.phase = .invalidated ∨ e.phase = .expired := by
    revert hterminal
    cases e.phase <;> simp [LevelPhase.terminal]
  rcases hphase with h | h <;> simp [breakoutEvidenceIssue, h]

theorem activeOutcome_event (o : LevelObservation) (spot es : ℚ) (settings : LevelDecisionSettings)
    (hactive : e.phase.terminal = false) :
    ActiveOutcome e o (advanceEvent e o spot es settings) := by
  unfold advanceEvent
  split
  · exact .inl (carriesOn_transition _ (by decide) _ _)
  · rw [if_neg (by simp [hactive])]
    exact activeOutcome_active

theorem outcome_event (hgood : Good o spot es) :
    Outcome settings o (.event e) (advanceEvent (settleEvent e o) o spot es settings) := by
  have hphase := settleEvent_phase e o
  cases hterminal : e.phase.terminal with
  | true =>
    have hc := settleEvent_terminal (o := o) hterminal
    unfold advanceEvent
    rw [breakoutEvidenceIssue_terminal (hphase ▸ hterminal)]
    dsimp only
    rw [if_pos (hphase ▸ hterminal)]
    split
    · exact .carried (.inl ((carriesOn_unchanged ..).of_continues hc hphase)) fun _ => hphase
    · rename_i hallowed
      exact outcome_terminal hc hphase hterminal (by simpa using hallowed) hgood
  | false =>
    have hactive : (settleEvent e o).phase.terminal = false := hphase ▸ hterminal
    rcases activeOutcome_event o spot es settings hactive with h | ⟨happ, h⟩
    · refine .carried ?_ (by simp [hterminal])
      rcases settleEvent_continues e o with hc | ⟨hup, hc⟩
      · exact .inl (h.of_continues hc hphase)
      · exact .inr ⟨hup, h.of_continues hc hphase⟩
    · have hgeneration : (settleEvent e o).reentryGeneration = e.reentryGeneration := by
        rcases settleEvent_continues e o with hc | ⟨_, hc⟩
        · exact hc.reentryGeneration
        · exact hc.reentryGeneration
      rw [h, withdrawnTransition, hgeneration]
      exact .withdrawn (hphase ▸ happ)

/-- **Every observation that is no session boundary has one of the listed outcomes.** -/
theorem advanceLevelDecision_outcome (previous : Option LevelState) (o : LevelObservation)
    (settings : LevelDecisionSettings)
    (hsame : sessionBoundaryChanged (startState previous o) o = false) :
    Outcome settings o (startState previous o) (advanceLevelDecision previous o settings) := by
  unfold advanceLevelDecision
  generalize startState previous o = state at hsame ⊢
  dsimp only
  rw [hsame, if_neg (by simp)]
  split
  · rename_i spot es hok hspot hes
    have hgood : Good o spot es := ⟨hok, hspot, hes⟩
    cases state with
    | far f => exact outcome_far f .clear hgood
    | event e => exact outcome_event hgood
  · cases state with
    | far f => exact .idle rfl (.inl rfl)
    | event e => exact .carried (.inl carriesOn_badQuality) badQuality_terminal

theorem advanceLevelDecision_boundary (previous : Option LevelState) (o : LevelObservation)
    (settings : LevelDecisionSettings)
    (hchanged : sessionBoundaryChanged (startState previous o) o = true) :
    advanceLevelDecision previous o settings =
      ⟨(startState previous o).phase, .far,
        .far (farAfter o.at' 0 "session_boundary_reset" none), true, "session_boundary_reset"⟩ := by
  unfold advanceLevelDecision
  dsimp only
  rw [hchanged, if_pos rfl, toFar_boundary]

theorem advance_cases {P : LevelState → LevelTransition → Prop} (s : Option LevelState)
    (o : LevelObservation) (settings : LevelDecisionSettings)
    (hreset : P (startState s o) ⟨(startState s o).phase, .far,
      .far (farAfter o.at' 0 "session_boundary_reset" none), true, "session_boundary_reset"⟩)
    (hout : ∀ {state t}, Outcome settings o state t → P state t) :
    P (startState s o) (advanceLevelDecision s o settings) := by
  cases hboundary : sessionBoundaryChanged (startState s o) o with
  | true =>
    rw [advanceLevelDecision_boundary s o settings hboundary]
    exact hreset
  | false => exact hout (advanceLevelDecision_outcome s o settings hboundary)

end Outcomes

/-! ## Runs -/

/-- Every observation so far, with the transition it caused. -/
abbrev Log := List (LevelObservation × LevelTransition)

/-- One call of `advance_level_decision`, whose caller keeps the returned state. -/
def levelStep (settings : LevelDecisionSettings) (previous : Option LevelState)
    (o : LevelObservation) : LevelTransition × Option LevelState :=
  let t := advanceLevelDecision previous o settings
  (t, some t.state)

/-- A run of the machine, from no stored state. -/
abbrev LevelRun (settings : LevelDecisionSettings) (log : Log) (s : Option LevelState) : Prop :=
  Run (levelStep settings) anyStep none log s

def LevelTransition.arms (t : LevelTransition) : Bool :=
  (t.previousPhase = .far ∨ t.previousPhase.terminal) ∧
    (t.currentPhase = .approaching ∨ t.currentPhase = .testing)

theorem not_arms_of_terminal {t : LevelTransition} (h : t.currentPhase.terminal) : t.arms = false :=
    by
  have hactive : ¬(t.currentPhase = .approaching ∨ t.currentPhase = .testing) := by
    rintro (h' | h') <;> simp [h', LevelPhase.terminal] at h
  simp [LevelTransition.arms, hactive]

theorem arms_armedTransition {previous : LevelPhase} (hprev : previous = .far ∨ previous.terminal)
    (o : LevelObservation) (spot es : ℚ) (settings : LevelDecisionSettings) (generation : ℕ)
    (kind : LevelKind) (level : ℚ) (reason : String) :
    (armedTransition previous (armedEvent o spot es settings generation kind level) reason).arms :=
    by
  rcases armedEvent_active o spot es settings generation kind level with h | h <;>
    simp [armedTransition, LevelTransition.arms, h, hprev]

def LevelTransition.ends (t : LevelTransition) : Bool :=
  t.previousPhase.terminal = false ∧ t.currentPhase.terminal

theorem advanceLevelDecision_currentPhase (s : Option LevelState) (o : LevelObservation)
    (settings : LevelDecisionSettings) : (advanceLevelDecision s o settings).currentPhase =
      (advanceLevelDecision s o settings).state.phase := by
  refine advance_cases (P := fun _ t => t.currentPhase = t.state.phase) s o settings rfl
    fun hout => ?_
  cases hout with
  | carried hcarries =>
    rcases hcarries with ⟨e', hstate, _, hcur, _⟩ | ⟨_, e', hstate, _, hcur, _⟩
    · rw [hcur, hstate, LevelState.phase]
    · rw [hcur, hstate, LevelState.phase]
  | idle => rfl
  | withdrawn => rfl
  | exited => rfl
  | armed => rfl
  | rearmed => rfl

theorem advanceLevelDecision_previousPhase (s : Option LevelState) (o : LevelObservation)
    (settings : LevelDecisionSettings) :
    (advanceLevelDecision s o settings).previousPhase = (startState s o).phase := by
  refine advance_cases (P := fun state t => t.previousPhase = state.phase) s o settings rfl
    fun hout => ?_
  cases hout with
  | carried hcarries =>
    rcases hcarries with ⟨_, _, hprev, _⟩ | ⟨_, _, _, hprev, _⟩
    · exact hprev
    · exact hprev
  | withdrawn happroaching => exact happroaching.symm
  | idle => rfl
  | exited => rfl
  | armed => rfl
  | rearmed => rfl

/-- The event of a state is in one of the phases of an event. -/
def LevelState.WellFormed : LevelState → Prop
  | .far _ => True
  | .event e => e.phase ≠ .far

variable {s : Option LevelState}

theorem wellFormed_step (h : (startState s o).WellFormed) :
    (advanceLevelDecision s o settings).state.WellFormed := by
  refine advance_cases (P := fun state t => state.WellFormed → t.state.WellFormed) s o settings
    (fun _ => trivial) (fun hout h => ?_) h
  cases hout with
  | idle => trivial
  | withdrawn => trivial
  | exited => trivial
  | carried hcarries =>
    rcases hcarries with ⟨e', hstate, _, _, _, hfar⟩ | ⟨_, e', hstate, _, _, _, hfar⟩
    · rw [hstate]
      exact fun h' => h (hfar h')
    · rw [hstate]
      exact fun h' => h (hfar h')
  | armed => exact fun h => armedEvent_ne_far _ _ _ _ _ _ _ h
  | rearmed => exact fun h => armedEvent_ne_far _ _ _ _ _ _ _ h

theorem wellFormed_run {log : Log} (h : LevelRun settings log s) :
    ∀ o, (startState s o).WellFormed := by
  refine Run.invariant (I := fun s : Option LevelState => ∀ o, (startState s o).WellFormed)
    ?_ ?_ h
  · intro o
    exact trivial
  · intro s o hs _ _
    exact wellFormed_step (hs o)

theorem arms_cases (hwf : (startState s o).WellFormed)
    (h : (advanceLevelDecision s o settings).arms) : ∃ spot es kind level, Good o spot es ∧
      (advanceLevelDecision s o settings).state =
        .event (armedEvent o spot es settings (startState s o).carried kind level) := by
  refine advance_cases (P := fun state t => state.WellFormed → t.arms → ∃ spot es kind level,
    Good o spot es ∧ t.state = .event (armedEvent o spot es settings state.carried kind level))
    s o settings (fun _ h => by simp [LevelTransition.arms] at h) (fun {state t} hout hwf h => ?_)
    hwf h
  cases hout with
  | idle => simp [LevelTransition.arms] at h
  | withdrawn => simp [LevelTransition.arms, withdrawnTransition] at h
  | exited => simp [LevelTransition.arms] at h
  | @carried e _ hcarries hterminal =>
    exfalso
    have hprev : t.previousPhase = e.phase := by
      rcases hcarries with ⟨_, _, h, _⟩ | ⟨_, _, _, h, _⟩ <;> exact h
    obtain ⟨hfrom, hto⟩ : (e.phase = .far ∨ e.phase.terminal) ∧
        (t.currentPhase = .approaching ∨ t.currentPhase = .testing) := by
      simpa [LevelTransition.arms, hprev] using h
    rcases hfrom with hfar | hend
    · exact hwf hfar
    · rw [hterminal hend] at hto
      rcases hto with hto | hto <;> simp [hto, LevelPhase.terminal] at hend
  | armed hgood => exact ⟨_, _, _, _, hgood, rfl⟩
  | @rearmed e spot es kind level hterminal hgood =>
    refine ⟨spot, es, kind, level, hgood, ?_⟩
    rw [LevelState.carried, if_pos hterminal]
    rfl

/-! ## Observations for small runs -/

/-- `seconds` after the start. -/
def seconds (n : Int) : Instant := n * 1000000

def publish (kind : LevelKind) (level : ℚ) : Levels := fun k =>
    if k = kind then some level else none

/-- A good observation of cash SPX in the regular session. -/
def cashTick (at' : Instant) (spot es : ℚ) (levels : Levels) : LevelObservation where
  at' := at'
  spot := some spot
  es := some es
  levels := levels
  qualityOk := true
  sessionDate := "2026-07-13"
  sessionMode := "rth"
  triggerCoordinateKind := "official_spx"

end SpxSpark.OrderMap
