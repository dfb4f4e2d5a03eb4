import SpxSpark.GlobexTrend.Machine

/-!
# Decisions — what one sample can lead to

A sample that is taken counts towards a regime, or drops, counts or emits an advance or a
continuation.
-/

namespace SpxSpark.GlobexTrend

variable {policy : GlobexTrendSettings} {state : TrendState} {now : Sample} {allowed : Bool}

/-- A sample meets an advance of a milestone in a direction. -/
structure MeetsAdvance (policy : GlobexTrendSettings) (metrics : Metrics) (allowed : Bool)
    (direction : Direction) (milestone : Nat) : Prop where
  hdirection : advanceDirection policy metrics = some direction
  hextension : policy.continuationStepPoints * milestone ≤ advanceExtension metrics direction
  hgate : allowed = true

/-- A sample meets a continuation of a milestone behind the last transition. -/
structure MeetsContinuation (policy : GlobexTrendSettings) (state : TrendState) (now : Sample)
    (allowed : Bool) (transition : TransitionEvent) (direction : Direction) (milestone : Nat) :
    Prop where
  hdirection : regimeDirection state.regime = some direction
  htransition : state.lastTransition = some transition
  hextension : policy.continuationStepPoints * milestone ≤
    signedExtension transition.price now.price direction
  hgate : allowed = true
  hbudget : state.continuationEventsInContext < policy.continuationSessionBudget

/-- What a sample that is taken can lead to. -/
inductive Decision (policy : GlobexTrendSettings) (state : TrendState) (now : Sample)
    (allowed : Bool) : TrendState × Option TrendEvent → Prop
  | targets {target : GlobexTrendRegime} {reason : TransitionReason}
      (htarget : state.target policy now = some (target, reason)) :
      Decision policy state now allowed ((state.take policy now).countTarget target, none)
  | switches {target : GlobexTrendRegime} {reason : TransitionReason}
      (htarget : state.target policy now = some (target, reason))
      (hcount : policy.confirmationObservations ≤
        ((state.take policy now).countTarget target).candidateObservations) :
      Decision policy state now allowed
        (((state.take policy now).countTarget target).switchRegime now
        (state.measure policy now) target reason)
  | dropsAdvance {milestone : Nat} (htarget : state.target policy now = none)
      (hregime : state.regime = .neutral) (hmilestone : state.advanceMilestoneIndex ≤ milestone) :
      Decision policy state now allowed
        ({ state.settled policy now with
            advanceMilestoneIndex := milestone }.resetAdvanceCandidate, none)
  | countsAdvance {direction : Direction} (htarget : state.target policy now = none)
      (hregime : state.regime = .neutral)
      (hmeets : MeetsAdvance policy (state.measure policy now) allowed direction
        (state.advanceMilestoneIndex + 1)) :
      Decision policy state now allowed
        ((state.settled policy now).countAdvance (state.advanceMilestoneIndex + 1), none)
  | emitsAdvance {direction : Direction} (htarget : state.target policy now = none)
      (hregime : state.regime = .neutral)
      (hmeets : MeetsAdvance policy (state.measure policy now) allowed direction
        (state.advanceMilestoneIndex + 1))
      (hbudget : state.advanceEventsInSession < policy.continuationSessionBudget)
      (hcount : policy.continuationConfirmationObservations ≤
        ((state.settled policy now).countAdvance
          (state.advanceMilestoneIndex + 1)).advanceCandidateObservations) :
      Decision policy state now allowed
        (((state.settled policy now).countAdvance (state.advanceMilestoneIndex + 1)).emitAdvance
          policy now (state.measure policy now) direction (state.advanceMilestoneIndex + 1))
  | dropsContinuation {milestone : Nat} {reason : Option SuppressedReason}
      (htarget : state.target policy now = none) (hregime : state.regime ≠ .neutral)
      (hmilestone : state.continuationMilestoneIndex ≤ milestone) :
      Decision policy state now allowed
        ({ state.settled policy now with
            continuationMilestoneIndex := milestone
            continuationSuppressedReason := reason }.resetContinuationCandidate, none)
  | countsContinuation {transition : TransitionEvent} {direction : Direction}
      (htarget : state.target policy now = none)
      (hmeets : MeetsContinuation policy state now allowed transition direction
        (state.continuationMilestoneIndex + 1)) :
      Decision policy state now allowed ((state.settled policy now).countContinuation now
        (state.continuationMilestoneIndex + 1), none)
  | emitsContinuation {transition : TransitionEvent} {direction : Direction} {parent : Option Text}
      (htarget : state.target policy now = none)
      (hmeets : MeetsContinuation policy state now allowed transition direction
        (state.continuationMilestoneIndex + 1))
      (hcount : policy.continuationConfirmationObservations ≤
        ((state.settled policy now).countContinuation now
          (state.continuationMilestoneIndex + 1)).continuationCandidateObservations)
      (hparent : state.continuationMilestoneIndex = 0 ∨ ∃ id,
        state.activeDirectionalAdvisoryId = some id ∧ parent = some id) :
      Decision policy state now allowed
        (((state.settled policy now).countContinuation now
          (state.continuationMilestoneIndex + 1)).emitContinuation policy now
            (state.measure policy now) transition direction (state.continuationMilestoneIndex + 1)
            parent)

theorem observeTarget_decision {target : GlobexTrendRegime} {reason : TransitionReason}
    (htarget : state.target policy now = some (target, reason)) :
    Decision policy state now allowed ((state.take policy now).observeTarget policy now
      (state.measure policy now) target reason) := by
  unfold TrendState.observeTarget
  dsimp only
  split
  · exact .targets htarget
  · rename_i hcount
    exact .switches htarget (not_lt.mp hcount)

theorem advanceSessionTrend_decision (htarget : state.target policy now = none)
    (hregime : state.regime = .neutral) :
    Decision policy state now allowed ((state.settled policy now).advanceSessionTrend policy now
      (state.measure policy now) allowed) := by
  have hdrop : Decision policy state now allowed
      ((state.settled policy now).resetAdvanceCandidate, none) :=
    .dropsAdvance htarget hregime le_rfl
  unfold TrendState.advanceSessionTrend
  split
  · exact hdrop
  · rename_i hopen
    have hbudget : state.advanceEventsInSession < policy.continuationSessionBudget := by
      simp only [Bool.or_eq_true, decide_eq_true_eq, not_or, not_le] at hopen
      exact hopen.2
    split
    · exact hdrop
    · rename_i direction hdirection
      dsimp only
      split
      · exact hdrop
      split
      · exact hdrop
      · rename_i hextension
        split
        · exact .dropsAdvance htarget hregime (Nat.le_succ _)
        · rename_i hgate
          have hmeets : MeetsAdvance policy (state.measure policy now) allowed direction
              (state.advanceMilestoneIndex + 1) :=
            ⟨hdirection, not_lt.mp hextension, by simpa using hgate⟩
          unfold TrendState.observeAdvance
          dsimp only
          split
          · exact .countsAdvance htarget hregime hmeets
          · rename_i hcount
            exact .emitsAdvance htarget hregime hmeets hbudget (not_lt.mp hcount)

theorem observeContinuation_decision {transition : TransitionEvent} {direction : Direction}
    (htarget : state.target policy now = none) (hregime : state.regime ≠ .neutral)
    (hmeets : MeetsContinuation policy state now allowed transition direction
      (state.continuationMilestoneIndex + 1)) :
    Decision policy state now allowed ((state.settled policy now).observeContinuation policy now
      (state.measure policy now) transition direction (state.continuationMilestoneIndex + 1)) := by
  unfold TrendState.observeContinuation
  dsimp only
  split
  · exact .countsContinuation htarget hmeets
  · rename_i hcount
    split
    · rename_i hfirst
      exact .emitsContinuation htarget hmeets (not_lt.mp hcount) (.inl (by omega))
    · split
      · exact .dropsContinuation htarget hregime le_rfl
      · rename_i parent hparent
        refine .emitsContinuation htarget hmeets (not_lt.mp hcount) (.inr ⟨parent, ?_, rfl⟩)
        exact (Option.filter_eq_some_iff.mp hparent).1

theorem advanceContinuation_decision (htarget : state.target policy now = none)
    (hregime : state.regime ≠ .neutral) :
    Decision policy state now allowed ((state.settled policy now).advanceContinuation policy now
      (state.measure policy now) allowed) := by
  have hdrop : Decision policy state now allowed
      ((state.settled policy now).resetContinuationCandidate, none) :=
    .dropsContinuation htarget hregime le_rfl
  unfold TrendState.advanceContinuation
  split
  · exact hdrop
  · rename_i transition direction hcontinues
    have hstate : state.continuationEventsInContext < policy.continuationSessionBudget ∧
        regimeDirection state.regime = some direction ∧
        state.lastTransition = some transition := by
      unfold TrendState.continues at hcontinues
      split at hcontinues
      · cases hcontinues
      · rename_i hopen
        simp only [Bool.or_eq_true, decide_eq_true_eq, not_or, not_le] at hopen
        split at hcontinues
        · rename_i found other hfound hother
          obtain ⟨rfl, rfl⟩ := Prod.mk.inj (Option.some.inj hcontinues)
          exact ⟨hopen.1, hfound, hother⟩
        · cases hcontinues
    obtain ⟨hbudget, hdirection, htransition⟩ := hstate
    dsimp only
    split
    · exact hdrop
    · rename_i hextension
      split
      · exact hdrop
      split
      · exact .dropsContinuation htarget hregime (Nat.le_succ _)
      · rename_i hgate
        exact observeContinuation_decision htarget hregime
          ⟨hdirection, htransition, not_lt.mp hextension, by simpa using hgate, hbudget⟩

theorem decideSample_decision :
    Decision policy state now allowed (state.decideSample policy now allowed) := by
  unfold TrendState.decideSample
  dsimp only
  split
  · rename_i target reason htarget
    exact observeTarget_decision htarget
  · rename_i htarget
    split
    · rename_i hregime
      exact advanceSessionTrend_decision htarget hregime
    · rename_i hregime
      exact advanceContinuation_decision htarget hregime

end SpxSpark.GlobexTrend
