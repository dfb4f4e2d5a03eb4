import SpxSpark.OrderMap.LevelConfirmation

/-!
# LevelLife — the life of one level event

From the observation that arms it to the one that ends it, an event keeps its identity, walks the
phases forward, keeps the thesis it took and is not left in a phase past its time.
-/

namespace SpxSpark.OrderMap

open Lib

variable {settings : LevelDecisionSettings} {o : LevelObservation} {spot es : ℚ}
  {e e' e₁ : LevelEvent} {now : Instant} {t : LevelTransition}

/-! ## Phases, theses and limits -/

/-- The moves of an event from one phase to the next. -/
inductive Forward : LevelPhase → LevelPhase → Prop
  | test : Forward .approaching .testing
  | breakout : Forward .testing .breakPending
  | fade : Forward .testing .rejectPending
  | accept : Forward .breakPending .accepted
  | reject : Forward .rejectPending .rejected
  | retest {p : LevelPhase} : p = .accepted ∨ p = .rejected → Forward p .retest
  | confirm {p : LevelPhase} : p = .accepted ∨ p = .rejected ∨ p = .retest → Forward p .confirmed
  | finish {p q : LevelPhase} : p.terminal = false → q.terminal → Forward p q

/-- The thesis an event has in a phase. -/
def Fits : LevelPhase → LevelThesis → Prop
  | .far, _ => False
  | .approaching, thesis | .testing, thesis => thesis = .none
  | .breakPending, thesis | .accepted, thesis => thesis = .breakout
  | .rejectPending, thesis | .rejected, thesis => thesis = .fade
  | .retest, thesis | .confirmed, thesis => thesis ≠ .none
  | .invalidated, _ | .expired, _ => True

theorem fits_terminal {p : LevelPhase} (h : p.terminal) (thesis : LevelThesis) : Fits p thesis := by
  cases p <;> simp_all [LevelPhase.terminal, Fits]

theorem fits_thesis {p : LevelPhase} {thesis : LevelThesis} (h : Fits p thesis)
    (hp : p = .accepted ∨ p = .rejected ∨ p = .retest) : thesis ≠ .none := by
  rcases hp with rfl | rfl | rfl <;> simp_all [Fits]

/-- The event has stayed longer than its phase allows. -/
def Overdue (settings : LevelDecisionSettings) (now : Instant) (e : LevelEvent) : Prop :=
  e.phase.timesOut ∧ phaseTimedOut e now settings ∨ e.phase = .confirmed ∧ expired e now

/-! ## One observation -/

/-- What an observation leaves of an event it does not give up. -/
structure Proceeds (settings : LevelDecisionSettings) (now : Instant) (e e' : LevelEvent) :
    Prop where
  spxLevel : e'.spxLevel = e.spxLevel
  phase : e'.phase = e.phase ∨ Forward e.phase e'.phase
  thesis : e.thesis ≠ .none → e'.thesis = e.thesis
  fits : Fits e'.phase e'.thesis
  timely : Overdue settings now e → e'.phase.terminal

/-- Any event a transition returns, unless it arms it, is `e` gone on. -/
def GoesOn (settings : LevelDecisionSettings) (now : Instant) (e : LevelEvent)
    (t : LevelTransition) : Prop :=
  ∀ e', t.state = .event e' → t.arms = false → Proceeds settings now e e'

/-- The steps first touch up the event, away from what its life is about. -/
structure Touched (settings : LevelDecisionSettings) (now : Instant) (e e₁ : LevelEvent) :
    Prop where
  phase : e₁.phase = e.phase
  thesis : e₁.thesis = e.thesis
  spxLevel : e₁.spxLevel = e.spxLevel
  overdue : Overdue settings now e → Overdue settings now e₁

theorem Touched.refl : Touched settings now e e := ⟨rfl, rfl, rfl, id⟩

theorem Touched.fits (h : Touched settings now e e₁) (hfits : Fits e.phase e.thesis) :
    Fits e₁.phase e₁.thesis := by
  rw [h.phase, h.thesis]
  exact hfits

theorem GoesOn.of_touched (h : Touched settings now e e₁) (hgoes : GoesOn settings now e₁ t) :
    GoesOn settings now e t := by
  intro e' hstate harms
  have hp := hgoes e' hstate harms
  exact {
    spxLevel := hp.spxLevel.trans h.spxLevel
    phase := h.phase ▸ hp.phase
    thesis := h.thesis ▸ hp.thesis
    fits := hp.fits
    timely := fun hover => hp.timely (h.overdue hover) }

section GoesOn

variable {reason : String} {current : LevelPhase}

theorem goesOn_unchanged (h : Touched settings now e e₁) (hfits : Fits e.phase e.thesis)
    (hdue : Overdue settings now e → e.phase.terminal) :
    GoesOn settings now e (unchanged e₁ o.at' reason) := by
  rintro _ ⟨⟩ -
  exact ⟨h.spxLevel, .inl h.phase, fun _ => h.thesis, h.fits hfits, fun hover =>
    h.phase ▸ hdue hover⟩

theorem goesOn_updateExtreme (h : Touched settings now e e₁) (hfits : Fits e.phase e.thesis)
    (hdue : ¬Overdue settings now e) :
    GoesOn settings now e (updateExtreme e₁ o.at' spot es reason) := by
  rintro _ ⟨⟩ -
  exact ⟨h.spxLevel, .inl h.phase, fun _ => h.thesis, h.fits hfits, fun hover =>
    absurd hover hdue⟩

theorem goesOn_forward (hforward : Forward e.phase current) (hspx : e₁.spxLevel = e.spxLevel)
    (hthesis : e.thesis ≠ .none → e₁.thesis = e.thesis) (hfits : Fits current e₁.thesis)
    (hdue : ¬Overdue settings now e) :
    GoesOn settings now e (transition e₁ current o.at' reason) := by
  rintro _ ⟨⟩ -
  exact ⟨hspx, .inr hforward, hthesis, hfits, fun hover => absurd hover hdue⟩

theorem goesOn_finish (h : Touched settings now e e₁) (hactive : e.phase.terminal = false)
    (hterminal : current.terminal) :
    GoesOn settings now e (transition e₁ current o.at' reason) := by
  rintro _ ⟨⟩ -
  exact ⟨h.spxLevel, .inr (.finish hactive hterminal), fun _ => h.thesis,
    fits_terminal hterminal _, fun _ => hterminal⟩

section Phases

variable (hfits : Fits e.phase e.thesis) (hdue : ¬Overdue settings now e)

include hfits hdue

theorem goesOn_approaching (hphase : e.phase = .approaching) :
    GoesOn settings now e (advanceApproaching e o spot es settings) := by
  unfold advanceApproaching
  split
  · refine goesOn_forward (hphase ▸ .test) rfl (fun _ => rfl) ?_ hdue
    rw [hphase] at hfits
    exact hfits
  split
  · intro e' hstate
    simp [toFar] at hstate
  · exact goesOn_updateExtreme .refl hfits hdue

theorem goesOn_testing (hphase : e.phase = .testing) :
    GoesOn settings now e (advanceTesting e o spot es settings) := by
  have hnone : e.thesis = .none := by
    rw [hphase] at hfits
    exact hfits
  unfold advanceTesting
  split
  · exact goesOn_forward (hphase ▸ .breakout) rfl (absurd hnone) rfl hdue
  split
  · exact goesOn_updateExtreme .refl hfits hdue
  split
  · exact goesOn_forward (hphase ▸ .fade) rfl (absurd hnone) rfl hdue
  · exact goesOn_updateExtreme .refl hfits hdue

theorem goesOn_pending (hphase : e.phase = .breakPending ∨ e.phase = .rejectPending) :
    GoesOn settings now e (advancePending e o spot es settings) := by
  unfold advancePending
  split
  · refine goesOn_forward ?_ rfl (fun _ => rfl) ?_ hdue
    · rcases hphase with hphase | hphase <;> rw [pendingTarget, hphase]
      · exact .accept
      · exact .reject
    · rcases hphase with hphase | hphase <;> rw [hphase] at hfits <;> rw [pendingTarget, hphase]
      · exact hfits
      · exact hfits
  · exact goesOn_updateExtreme .refl hfits hdue

theorem goesOn_confirmed {d : ℤ}
    (hphase : e.phase = .accepted ∨ e.phase = .rejected ∨ e.phase = .retest)
    (hspx : e₁.spxLevel = e.spxLevel) (hthesis : e₁.thesis = e.thesis) :
    GoesOn settings now e (confirmedTransition e₁ o d settings reason) := by
  refine goesOn_forward (.confirm hphase) hspx (fun _ => hthesis) ?_ hdue
  exact hthesis ▸ fits_thesis hfits hphase

theorem goesOn_accepted (hphase : e.phase = .accepted ∨ e.phase = .rejected) :
    GoesOn settings now e (advanceAccepted e o spot es settings) := by
  have hconfirm : e.phase = .accepted ∨ e.phase = .rejected ∨ e.phase = .retest :=
    hphase.imp_right .inl
  unfold advanceAccepted
  split
  · split
    · exact goesOn_updateExtreme ⟨rfl, rfl, rfl, id⟩ hfits hdue
    · exact goesOn_updateExtreme .refl hfits hdue
  split
  · exact goesOn_forward (.retest hphase) rfl (fun _ => rfl) (fits_thesis hfits hconfirm) hdue
  split
  · split
    · exact goesOn_updateExtreme ⟨rfl, rfl, rfl, id⟩ hfits hdue
    · split
      · exact goesOn_updateExtreme ⟨rfl, rfl, rfl, id⟩ hfits hdue
      · split
        · exact goesOn_confirmed hfits hdue hconfirm rfl rfl
        · exact goesOn_updateExtreme .refl hfits hdue
  split
  · exact goesOn_confirmed hfits hdue hconfirm rfl rfl
  · exact goesOn_updateExtreme .refl hfits hdue

theorem goesOn_retest (hphase : e.phase = .retest) :
    GoesOn settings now e (advanceRetest e o spot es settings) := by
  unfold advanceRetest
  split
  · exact goesOn_updateExtreme ⟨rfl, rfl, rfl, id⟩ hfits hdue
  split
  · exact goesOn_updateExtreme ⟨rfl, rfl, rfl, id⟩ hfits hdue
  split
  · exact goesOn_confirmed hfits hdue (.inr (.inr hphase)) rfl rfl
  · exact goesOn_updateExtreme .refl hfits hdue

end Phases

theorem goesOn_thesis (hfits : Fits e.phase e.thesis) (hactive : e.phase.terminal = false)
    (hlive : e.phase = .confirmed → ¬expired e o.at') :
    GoesOn settings o.at' e (advanceThesis e o spot es settings) := by
  unfold advanceThesis
  split
  · exact goesOn_finish .refl hactive rfl
  split
  · exact goesOn_finish .refl hactive rfl
  rename_i hout
  have hdue : ¬Overdue settings o.at' e := by
    rintro (⟨htimed, hover⟩ | ⟨hconfirmed, hover⟩)
    · refine hout ⟨fun hconfirmed => ?_, hover⟩
      rw [hconfirmed] at htimed
      simp [LevelPhase.timesOut] at htimed
    · exact hlive hconfirmed hover
  split
  · exact goesOn_pending hfits hdue (.inl ‹_›)
  · exact goesOn_pending hfits hdue (.inr ‹_›)
  · exact goesOn_accepted hfits hdue (.inl ‹_›)
  · exact goesOn_accepted hfits hdue (.inr ‹_›)
  · exact goesOn_retest hfits hdue ‹_›
  · exact goesOn_unchanged .refl hfits (absurd · hdue)

theorem touched_latch (spot : ℚ) :
    Touched settings now e (latchBreakoutInsideEvidence e now spot) := by
  unfold latchBreakoutInsideEvidence
  split
  · exact ⟨rfl, rfl, rfl, id⟩
  · exact .refl

theorem touched_extended (hunconfirmed : e.phase ≠ .confirmed) (c : Prop) [Decidable c]
    (limit : Instant) :
    Touched settings now e (if c then { e with expiresAt := limit } else e) := by
  split
  · exact ⟨rfl, rfl, rfl, fun h => .inl (h.resolve_right fun h => hunconfirmed h.1)⟩
  · exact .refl

theorem goesOn_live (hfits : Fits e.phase e.thesis) (hactive : e.phase.terminal = false)
    (hlive : e.phase = .confirmed → ¬expired e o.at') :
    GoesOn settings o.at' e (advanceLive e o spot es settings) := by
  unfold advanceLive
  split
  · exact goesOn_finish .refl hactive rfl
  split
  · exact goesOn_finish .refl hactive rfl
  have htouched : Touched settings o.at' e (latchBreakoutInsideEvidence e o.at' spot) :=
    touched_latch spot
  have hdue : e.phase = .approaching ∨ e.phase = .testing →
      ¬Overdue settings o.at' (latchBreakoutInsideEvidence e o.at' spot) := by
    rintro (hphase | hphase) (⟨htimed, _⟩ | ⟨hconfirmed, _⟩) <;>
      simp_all [LevelPhase.timesOut]
  split
  · rename_i hphase
    exact .of_touched htouched
      (goesOn_approaching (htouched.fits hfits) (hdue (.inl hphase)) (htouched.phase.trans hphase))
  · rename_i hphase
    exact .of_touched htouched
      (goesOn_testing (htouched.fits hfits) (hdue (.inr hphase)) (htouched.phase.trans hphase))
  · exact goesOn_thesis hfits hactive hlive

theorem goesOn_extended (hfits : Fits e.phase e.thesis) (hactive : e.phase.terminal = false)
    (hunconfirmed : e.phase ≠ .confirmed) (c : Prop) [Decidable c] (limit : Instant) :
    GoesOn settings o.at' e
      (advanceLive (if c then { e with expiresAt := limit } else e) o spot es settings) := by
  have h : Touched settings o.at' e (if c then { e with expiresAt := limit } else e) :=
    touched_extended hunconfirmed c limit
  exact .of_touched h (goesOn_live (h.fits hfits) (by rwa [h.phase]) fun hconfirmed =>
    absurd (h.phase.symm.trans hconfirmed) hunconfirmed)

theorem goesOn_active (hfits : Fits e.phase e.thesis) (hactive : e.phase.terminal = false) :
    GoesOn settings o.at' e (advanceActive e o spot es settings) := by
  unfold advanceActive
  dsimp only
  split
  · rename_i hexpired
    split
    · exact goesOn_finish .refl hactive rfl
    rename_i hunconfirmed
    split
    · exact goesOn_extended hfits hactive hunconfirmed _ _
    rename_i huntimed
    split
    · have hdue : ¬Overdue settings o.at' e := by
        rintro (⟨htimed, _⟩ | ⟨hconfirmed, _⟩)
        · exact huntimed htimed
        · exact hunconfirmed hconfirmed
      exact goesOn_unchanged ⟨rfl, rfl, rfl, (absurd · hdue)⟩ hfits (absurd · hdue)
    · exact goesOn_finish .refl hactive rfl
  · exact goesOn_live hfits hactive fun _ => ‹_›

theorem goesOn_badQuality (hfits : Fits e.phase e.thesis) :
    GoesOn settings o.at' e (handleBadQuality (.event e) o settings) := by
  unfold handleBadQuality
  dsimp only
  split
  · exact goesOn_unchanged ⟨rfl, rfl, rfl, id⟩ hfits fun _ => ‹_›
  rename_i hactive
  have hactive : e.phase.terminal = false := by simpa using hactive
  split
  · rename_i htimed
    have hunconfirmed : e.phase ≠ .confirmed := by
      intro hconfirmed
      simp [hconfirmed, LevelPhase.timesOut] at htimed
    split
    · exact goesOn_finish ⟨rfl, rfl, rfl, id⟩ hactive rfl
    rename_i hin
    have hdue : ¬Overdue settings o.at' e := by
      rintro (⟨_, hover⟩ | ⟨hconfirmed, _⟩)
      · exact hin (of_decide_eq_true hover)
      · exact hunconfirmed hconfirmed
    split
    · exact goesOn_unchanged ⟨rfl, rfl, rfl, (absurd · hdue)⟩ hfits (absurd · hdue)
    · exact goesOn_unchanged ⟨rfl, rfl, rfl, id⟩ hfits (absurd · hdue)
  rename_i huntimed
  split
  · exact goesOn_finish ⟨rfl, rfl, rfl, id⟩ hactive rfl
  rename_i hlive
  have hdue : ¬Overdue settings o.at' e := by
    rintro (⟨htimed, _⟩ | ⟨_, hover⟩)
    · exact huntimed htimed
    · exact hlive hover
  split
  · exact goesOn_unchanged ⟨rfl, rfl, rfl, id⟩ hfits (absurd · hdue)
  · exact goesOn_unchanged ⟨rfl, rfl, rfl, id⟩ hfits (absurd · hdue)

theorem touched_settle : Touched settings now e (settleEvent e o) := by
  unfold settleEvent
  dsimp only
  split
  · exact ⟨rfl, rfl, rfl, id⟩
  · exact ⟨rfl, rfl, rfl, id⟩

theorem goesOn_terminal (hterminal : e.phase.terminal) :
    GoesOn settings now e (handleTerminalRearm e o spot es settings) := by
  have hfits := fits_terminal hterminal e.thesis
  unfold handleTerminalRearm
  dsimp only
  split
  · exact goesOn_unchanged .refl hfits fun _ => hterminal
  split
  · split
    · rename_i harmed
      intro e' _ harms
      exfalso
      rcases armNearestLevel_cases o spot es settings (e.reentryGeneration + 1) none with
        ⟨reason, h⟩ | ⟨kind, level, _, h⟩
      · simp [h] at harmed
      · rw [h] at harms
        have harm := arms_armedTransition (.inr hterminal) o spot es settings
          (e.reentryGeneration + 1) kind level "stable_structure_promoted_rearm"
        exact Bool.false_ne_true (harms.symm.trans harm)
    · intro e' hstate
      simp [toFar] at hstate
  split
  · exact goesOn_unchanged .refl hfits fun _ => hterminal
  · intro e' hstate
    simp [toFar] at hstate

theorem goesOn_event (hfits : Fits e.phase e.thesis) :
    GoesOn settings o.at' e (advanceEvent (settleEvent e o) o spot es settings) := by
  have htouched : Touched settings o.at' e (settleEvent e o) := touched_settle
  refine .of_touched htouched ?_
  have hfits := htouched.fits hfits
  generalize settleEvent e o = e at hfits
  unfold advanceEvent
  cases hterminal : e.phase.terminal with
  | true =>
    rw [breakoutEvidenceIssue_terminal hterminal]
    dsimp only
    rw [if_pos rfl]
    split
    · exact goesOn_unchanged .refl hfits fun _ => hterminal
    · exact goesOn_terminal hterminal
  | false =>
    split
    · exact goesOn_finish .refl hterminal rfl
    · rw [if_neg (by simp)]
      exact goesOn_active hfits hterminal

theorem goesOn_advance (hfits : Fits e.phase e.thesis) :
    GoesOn settings o.at' e (advanceLevelDecision (some (.event e)) o settings) := by
  unfold advanceLevelDecision
  dsimp only
  split
  · intro e' hstate
    simp [toFar] at hstate
  split
  · exact goesOn_event hfits
  · exact goesOn_badQuality hfits

end GoesOn

/-! ## Runs -/

/-- `e'` is the event `e`, some observations later. -/
structure SameEvent (e e' : LevelEvent) : Prop where
  eventId : e'.eventId = e.eventId
  reentryGeneration : e'.reentryGeneration = e.reentryGeneration
  levelKind : e'.levelKind = e.levelKind
  outsideDirection : e'.outsideDirection = e.outsideDirection
  startedAt : e'.startedAt = e.startedAt
  session : e'.sessionDate = e.sessionDate ∧ e'.sessionMode = e.sessionMode
  spxLevel : e'.spxLevel = e.spxLevel
  /-- The level changes with the coordinate, which changes once: cash SPX is no proxy. -/
  level : e'.level = e.level ∧ e'.triggerCoordinateKind = e.triggerCoordinateKind ∨
    proxyCoordinate e.triggerCoordinateKind ∧ e'.triggerCoordinateKind = "official_spx" ∧
      e'.level = e.spxLevel
  phase : Relation.ReflTransGen Forward e.phase e'.phase
  thesis : e.thesis ≠ .none → e'.thesis = e.thesis

theorem SameEvent.refl (e : LevelEvent) : SameEvent e e :=
  ⟨rfl, rfl, rfl, rfl, rfl, ⟨rfl, rfl⟩, rfl, .inl ⟨rfl, rfl⟩, .refl, fun _ => rfl⟩

theorem SameEvent.trans {a b c : LevelEvent} (h : SameEvent a b) (h' : SameEvent b c) :
    SameEvent a c where
  eventId := h'.eventId.trans h.eventId
  reentryGeneration := h'.reentryGeneration.trans h.reentryGeneration
  levelKind := h'.levelKind.trans h.levelKind
  outsideDirection := h'.outsideDirection.trans h.outsideDirection
  startedAt := h'.startedAt.trans h.startedAt
  session := ⟨h'.session.1.trans h.session.1, h'.session.2.trans h.session.2⟩
  spxLevel := h'.spxLevel.trans h.spxLevel
  level := by
    rcases h.level with ⟨hlevel, hcoord⟩ | ⟨hproxy, hcoord, hlevel⟩
    · rw [← hlevel, ← hcoord, ← h.spxLevel]
      exact h'.level
    · rcases h'.level with ⟨hlevel', hcoord'⟩ | ⟨hproxy', _, _⟩
      · exact .inr ⟨hproxy, hcoord'.trans hcoord, hlevel'.trans hlevel⟩
      · rw [hcoord] at hproxy'
        exact absurd hproxy' (by decide)
  phase := h.phase.trans h'.phase
  thesis := fun hsome => (h'.thesis (h.thesis hsome ▸ hsome)).trans (h.thesis hsome)

theorem carried_continues (hstate : (advanceLevelDecision (some (.event e)) o settings).state =
      .event e') (harms : (advanceLevelDecision (some (.event e)) o settings).arms = false) :
    Continues e e' ∨ canUpgradeRthTriggerCoordinate e o ∧
      Continues (upgradeRthTriggerCoordinate e o) e' := by
  refine advance_cases (P := fun state t => state = .event e → t.state = .event e' →
    t.arms = false → Continues e e' ∨ canUpgradeRthTriggerCoordinate e o ∧
      Continues (upgradeRthTriggerCoordinate e o) e') (some (.event e)) o settings nofun
    (fun hout hstart hstate harms => ?_) rfl hstate harms
  cases hout with
  | idle => nomatch hstart
  | armed => nomatch hstart
  | withdrawn => nomatch hstate
  | exited => nomatch hstate
  | carried hcarries =>
    cases hstart
    rcases hcarries with ⟨_, hstate', _, _, hc, _⟩ | ⟨hup, _, hstate', _, _, hc, _⟩
    · cases hstate.symm.trans hstate'
      exact .inl hc
    · cases hstate.symm.trans hstate'
      exact .inr ⟨hup, hc⟩
  | rearmed hterminal =>
    rw [arms_armedTransition (.inr hterminal)] at harms
    cases harms

theorem sameEvent_step (hfits : Fits e.phase e.thesis)
    (hstate : (advanceLevelDecision (some (.event e)) o settings).state = .event e')
    (harms : (advanceLevelDecision (some (.event e)) o settings).arms = false) :
    SameEvent e e' := by
  have hp := goesOn_advance hfits e' hstate harms
  have hphase : Relation.ReflTransGen Forward e.phase e'.phase := by
    rcases hp.phase with h | h
    · rw [h]
    · exact .single h
  rcases carried_continues hstate harms with h | ⟨hup, h⟩
  · exact ⟨h.eventId, h.reentryGeneration, h.levelKind, congrArg (·.outsideDirection) h,
      congrArg (·.startedAt) h, ⟨h.sessionDate, h.sessionMode⟩, hp.spxLevel,
      .inl ⟨h.level, h.triggerCoordinateKind⟩, hphase, hp.thesis⟩
  · have hproxy : proxyCoordinate e.triggerCoordinateKind := by
      simp only [canUpgradeRthTriggerCoordinate, decide_eq_true_eq] at hup
      exact hup.2.2.2.1
    exact ⟨h.eventId, h.reentryGeneration, h.levelKind, congrArg (·.outsideDirection) h,
      congrArg (·.startedAt) h, ⟨h.sessionDate, h.sessionMode⟩, hp.spxLevel,
      .inr ⟨hproxy, h.triggerCoordinateKind, h.level⟩, hphase, hp.thesis⟩

variable {s : Option LevelState} {log : Log}

theorem armedEvent_fits (o : LevelObservation) (spot es : ℚ) (settings : LevelDecisionSettings)
    (generation : ℕ) (kind : LevelKind) (level : ℚ) :
    Fits (armedEvent o spot es settings generation kind level).phase
      (armedEvent o spot es settings generation kind level).thesis := by
  have htouched : Touched settings o.at' (freshEvent o spot es settings generation kind level)
      (armedEvent o spot es settings generation kind level) := touched_latch spot
  refine htouched.fits ?_
  simp only [freshEvent]
  split
  · rfl
  · rfl

theorem event_of_unarmed (hstate : (advanceLevelDecision s o settings).state = .event e')
    (harms : (advanceLevelDecision s o settings).arms = false) : ∃ e, s = some (.event e) := by
  have hstart : ∃ e, startState s o = .event e := by
    refine advance_cases (P := fun state t => t.state = .event e' → t.arms = false →
      ∃ e, state = .event e) s o settings nofun (fun hout hstate harms => ?_) hstate harms
    cases hout with
    | idle => nomatch hstate
    | armed =>
      rw [arms_armedTransition (.inl rfl)] at harms
      cases harms
    | withdrawn => exact ⟨_, rfl⟩
    | exited => exact ⟨_, rfl⟩
    | carried => exact ⟨_, rfl⟩
    | rearmed => exact ⟨_, rfl⟩
  obtain ⟨e, hstart⟩ := hstart
  cases s with
  | none => nomatch hstart
  | some state => exact ⟨e, congrArg some hstart⟩

theorem fits_run (h : LevelRun settings log s) :
    ∀ e, s = some (.event e) → Fits e.phase e.thesis := by
  induction h with
  | nil =>
    intro e he
    cases he
  | @snoc log s o h _ ih =>
    intro e' he'
    have hstate : (advanceLevelDecision s o settings).state = .event e' := Option.some.inj he'
    cases harms : (advanceLevelDecision s o settings).arms with
    | true =>
      obtain ⟨_, _, _, _, _, harmed⟩ := arms_cases (wellFormed_run h o) harms
      obtain rfl := LevelState.event.inj (harmed.symm.trans hstate)
      exact armedEvent_fits ..
    | false =>
      obtain ⟨e, rfl⟩ := event_of_unarmed hstate harms
      exact (goesOn_advance (ih e rfl) e' hstate harms).fits

theorem overdue_ends (hfits : Fits e.phase e.thesis) (hover : Overdue settings o.at' e) :
    (advanceLevelDecision (some (.event e)) o settings).currentPhase = .far ∨
      (advanceLevelDecision (some (.event e)) o settings).currentPhase.terminal := by
  have hprev := advanceLevelDecision_previousPhase (some (.event e)) o settings
  rw [advanceLevelDecision_currentPhase]
  cases hstate : (advanceLevelDecision (some (.event e)) o settings).state with
  | far f => exact .inl rfl
  | event e' =>
    refine .inr ((goesOn_advance hfits e' hstate ?_).timely hover)
    have hactive : ¬(e.phase = .far ∨ e.phase.terminal) := by
      rcases hover with ⟨htimed, _⟩ | ⟨hconfirmed, _⟩
      · revert htimed
        cases e.phase <;> simp [LevelPhase.timesOut, LevelPhase.terminal]
      · simp [hconfirmed, LevelPhase.terminal]
    rw [LevelTransition.arms, hprev]
    exact decide_eq_false fun h => hactive h.1

/-- What holds of the event in the state of a run. -/
structure EventLife (settings : LevelDecisionSettings) (log : Log) (s : Option LevelState) :
    Prop where
  fits : ∀ e, s = some (.event e) → Fits e.phase e.thesis
  same : ∀ past o t e later, log = past ++ (o, t) :: later → t.state = .event e →
    (∀ x ∈ later, x.2.arms = false ∧ x.2.currentPhase ≠ .far) →
    ∃ e', s = some (.event e') ∧ SameEvent e e'
  timely : ∀ e o, s = some (.event e) → Overdue settings o.at' e →
    (advanceLevelDecision s o settings).currentPhase = .far ∨
      (advanceLevelDecision s o settings).currentPhase.terminal

/-- **The life of a level event.** As long as no event is armed and the machine is not reset, the
event of an earlier state is still there: with its identity, with its level, unless the coordinate
was upgraded since, in a phase that moves forward lead to, and with the thesis it took. And the
next observation after the time of its phase ends it, on good and on bad data. -/
theorem level_event_life (h : LevelRun settings log s) : EventLife settings log s where
  fits := fits_run h
  same := by
    induction h with
    | nil =>
      intro past o t e later hlog
      simp at hlog
    | @snoc log s i h _ ih =>
      intro past o t e later hlog hstate hlater
      rcases Run.snoc_split hlog with ⟨-, hlast, -⟩ | ⟨before, rfl, hbefore⟩
      · obtain ⟨rfl, rfl⟩ := Prod.mk.inj hlast
        exact ⟨e, congrArg some hstate, .refl e⟩
      · obtain ⟨e', rfl, hsame⟩ := ih past o t e before hbefore hstate fun x hx =>
          hlater x (List.mem_append_left _ hx)
        obtain ⟨harms, hfar⟩ := hlater _ (List.mem_append_right _ (List.mem_singleton_self _))
        rw [show (levelStep settings _ i).1.currentPhase = _ from
          advanceLevelDecision_currentPhase ..] at hfar
        cases hnext : (advanceLevelDecision (some (.event e')) i settings).state with
        | far f => exact absurd (congrArg LevelState.phase hnext) hfar
        | event e'' =>
          exact ⟨e'', congrArg some hnext,
            hsame.trans (sameEvent_step (fits_run h e' rfl) hnext harms)⟩
  timely := by
    rintro e o rfl hover
    exact overdue_ends (fits_run h e rfl) hover

theorem level_event_life_timedOut :
    EventLife {} (play (levelStep {}) none blinkingBreakout).1
      (play (levelStep {}) none blinkingBreakout).2 :=
  level_event_life (run_play _ _ _)

end SpxSpark.OrderMap
