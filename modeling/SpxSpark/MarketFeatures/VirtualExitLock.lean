import SpxSpark.Lib.Results
import SpxSpark.MarketFeatures.VirtualStrategy

/-!
# VirtualExitLock — the first exit trigger of an episode is the one it ends by

A trigger without a bid locks the episode: the reason, the instant and the action are written once.
-/

namespace SpxSpark.MarketFeatures

open Lib

variable (calendar : ExpiryCalendar)

/-! ## The lock -/

/-- The episode waits for a bid since `since`, to end with `reason` and `action`. -/
structure Locked (e : Episode) (since : Instant) (reason : ExitReason) (action : ExitAction) :
    Prop where
  status : e.status = .closePending
  since : e.closePendingSince = some since
  reason : e.closePendingReason = some reason
  action : e.closePendingAction = some action

/-- No exit was triggered yet. -/
structure Unlocked (e : Episode) : Prop where
  status : e.status = .active
  since : e.closePendingSince = none
  reason : e.closePendingReason = none
  action : e.closePendingAction = none

/-- The lock of an episode is all there or not at all, and its action belongs to its reason. -/
def LockSound (e : Episode) : Prop :=
  Unlocked e ∨ ∃ since reason, Locked e since reason (terminalExitAction reason)

variable {e e' : Episode} {t : EpisodeTick} {since : Instant} {reason : ExitReason}
  {action : ExitAction}

theorem Locked.pendingReason (h : Locked e since reason action) :
    lockedPendingReason e = some reason := by
  unfold lockedPendingReason
  rw [if_pos h.status, h.reason]

theorem Unlocked.pendingReason (h : Unlocked e) : lockedPendingReason e = none := by
  unfold lockedPendingReason
  rw [if_neg (by rw [h.status]; decide)]

@[simp] theorem effectiveStop_cap (e : Episode) :
    effectiveStop calendar (capRthTradeEpisode calendar e) = effectiveStop calendar e := by
  have hday : (capRthTradeEpisode calendar e).sessionDay calendar = e.sessionDay calendar := rfl
  have hexit : rthTradeHardExit calendar (capRthTradeEpisode calendar e) =
      rthTradeHardExit calendar e := by
    unfold rthTradeHardExit
    rw [hday]
    rfl
  have htime : (capRthTradeEpisode calendar e).timeStopAt = effectiveStop calendar e := rfl
  unfold effectiveStop at htime ⊢
  rw [hexit, htime]
  cases rthTradeHardExit calendar e with
  | none => rfl
  | some hardExit => exact (min_assoc _ _ _).trans (by rw [min_self])

@[simp] theorem censorDeadline_cap (e : Episode) (reason : ExitReason) (policy : StrategyPolicy) :
    censorDeadline calendar (capRthTradeEpisode calendar e) reason policy =
      censorDeadline calendar e reason policy := by
  have hclose : ∀ deadline, noLaterThanClose calendar (capRthTradeEpisode calendar e) deadline =
      noLaterThanClose calendar e deadline := fun _ => rfl
  unfold censorDeadline episodeCensorAt lockedExitCensorAt
  rw [effectiveStop_cap, hclose, hclose]

/-! ## What a tick does -/

theorem lifecycle_terminal (e : Episode) (t : EpisodeTick) (reason reason' : ExitReason) :
    lifecycleTransition e t (some (reason, terminalExitAction reason')) =
      .closed
        { episode := recoverEpisodeHealth e t.now
          closePendingSince := e.closePendingSince
          closePendingReason := e.closePendingReason
          closePendingAction := e.closePendingAction
          closedAt := t.now
          exitReason := reason
          exitAction := terminalExitAction reason'
          exitBid := t.bid } := by
  cases reason' <;> rfl

/-- The record of a locked episode that found its bid. -/
def lockedClose (e : Episode) (t : EpisodeTick) (reason : ExitReason) : ClosedEpisode where
  episode := recoverEpisodeHealth (observeEpisode e t) t.now
  closePendingSince := e.closePendingSince
  closePendingReason := e.closePendingReason
  closePendingAction := e.closePendingAction
  closedAt := t.now
  exitReason := reason
  exitAction := terminalExitAction reason
  exitBid := t.bid

/-- **A bid closes a locked episode, for the reason it was locked with.** -/
theorem step_locked_bid (h : Locked e since reason (terminalExitAction reason))
    (hbid : t.bid.isSome) : stepEpisode calendar e t = .closed (lockedClose e t reason) := by
  unfold stepEpisode exitDecision
  rw [h.pendingReason]
  simp only [lockedExit, if_pos hbid, h.action, Option.getD_some]
  exact lifecycle_terminal _ _ _ _

theorem step_locked_late (h : Locked e since reason action) (hbid : t.bid = none)
    (hlate : censorDeadline calendar e reason t.policy ≤ t.now) :
    stepEpisode calendar e t = .censored ⟨observeEpisode e t, t.now, reason⟩ := by
  unfold stepEpisode exitDecision
  rw [h.pendingReason]
  simp only [lockedExit, hbid, Option.isSome_none, if_pos hlate]
  rfl

theorem step_locked_waits (h : Locked e since reason action) (hbid : t.bid = none)
    (hearly : t.now < censorDeadline calendar e reason t.policy) : stepEpisode calendar e t =
        .held (markEpisodeDegraded (observeEpisode e t) reason t.now true) ∧
      Locked (markEpisodeDegraded (observeEpisode e t) reason t.now true) since reason action := by
  constructor
  · unfold stepEpisode exitDecision
    rw [h.pendingReason]
    simp only [lockedExit, hbid, Option.isSome_none, if_neg (not_le.mpr hearly)]
    rfl
  · refine ⟨rfl, ?_, ?_, ?_⟩
    · show e.closePendingSince.or (some t.now) = some since
      rw [h.since, Option.some_or]
    · show e.closePendingReason.or (some reason) = some reason
      rw [h.reason, Option.some_or]
    · show e.closePendingAction.or (some (terminalExitAction reason)) = some action
      rw [h.action, Option.some_or]

theorem step_locked_held (h : Locked e since reason (terminalExitAction reason))
    (hheld : stepEpisode calendar e t = .held e') :
    t.bid = none ∧ t.now < censorDeadline calendar e reason t.policy ∧
      Locked e' since reason (terminalExitAction reason) := by
  cases hbid : t.bid with
  | some bid =>
    rw [step_locked_bid calendar h (by rw [hbid]; rfl)] at hheld
    cases hheld
  | none =>
    refine ⟨rfl, ?_⟩
    rcases le_or_gt (censorDeadline calendar e reason t.policy) t.now with hlate | hearly
    · rw [step_locked_late calendar h hbid hlate] at hheld
      cases hheld
    · obtain ⟨hstep, hkept⟩ := step_locked_waits calendar h hbid hearly
      cases hstep.symm.trans hheld
      exact ⟨hearly, hkept⟩

theorem marketExit_action (h : marketExit e t = some (reason, action)) :
    action = .exitOrVerify ∨ t.bid = none ∧ action = .closePending ∨
      t.bid.isSome ∧ action = terminalExitAction reason := by
  have hverify : ∀ {r : ExitReason}, some (r, ExitAction.exitOrVerify) = some (reason, action) →
      action = .exitOrVerify ∨ t.bid = none ∧ action = .closePending ∨
        t.bid.isSome ∧ action = terminalExitAction reason := by
    intro r hr
    cases hr
    exact .inl rfl
  have hterminal : ∀ {r : ExitReason},
      some (terminalExit t r (terminalExitAction r)) = some (reason, action) →
      action = .exitOrVerify ∨ t.bid = none ∧ action = .closePending ∨
        t.bid.isSome ∧ action = terminalExitAction reason := by
    intro r hr
    cases hbid : t.bid with
    | none =>
      have hpending : terminalExit t r (terminalExitAction r) = (r, .closePending) := by
        simp [terminalExit, hbid]
      cases hpending ▸ hr
      exact .inr (.inl ⟨rfl, rfl⟩)
    | some bid =>
      have hfinal : terminalExit t r (terminalExitAction r) = (r, terminalExitAction r) := by
        simp [terminalExit, hbid]
      cases hfinal ▸ hr
      exact .inr (.inr ⟨rfl, rfl⟩)
  unfold marketExit at h
  -- One step for each trigger, in their order.
  refine of_ite h hverify fun h => ?_
  refine of_ite h hterminal fun h => ?_
  refine of_ite h hverify fun h => ?_
  refine of_ite h hterminal fun h => ?_
  refine of_ite h hterminal fun h => ?_
  refine of_ite h hterminal fun h => ?_
  refine of_ite h hterminal fun h => ?_
  refine of_ite h hterminal fun h => ?_
  refine of_ite h hterminal fun h => ?_
  refine of_ite h hterminal fun h => ?_
  refine of_ite h hterminal fun h => ?_
  exact of_ite h hverify nofun

theorem step_unlocked_held (h : Unlocked e) (hheld : stepEpisode calendar e t = .held e') :
    Unlocked e' ∧ t.now < effectiveStop calendar e ∨
      ∃ reason, Locked e' t.now reason (terminalExitAction reason) ∧ t.bid = none ∧
        (effectiveStop calendar e ≤ t.now →
          reason = .timeStop ∧ t.now < censorDeadline calendar e .timeStop t.policy) := by
  have hlocked : ∀ r, Locked (markEpisodeDegraded (observeEpisode e t) r t.now true) t.now r
      (terminalExitAction r) := by
    intro r
    refine ⟨rfl, ?_, ?_, ?_⟩
    · show e.closePendingSince.or (some t.now) = some t.now
      rw [h.since, Option.none_or]
    · show e.closePendingReason.or (some r) = some r
      rw [h.reason, Option.none_or]
    · show e.closePendingAction.or (some (terminalExitAction r)) = some (terminalExitAction r)
      rw [h.action, Option.none_or]
  unfold stepEpisode exitDecision at hheld
  rw [h.pendingReason] at hheld
  dsimp only at hheld
  by_cases hstop : effectiveStop calendar e ≤ t.now
  · rw [if_pos hstop, timeStopExit] at hheld
    cases hbid : t.bid with
    | some bid =>
      rw [hbid, if_pos Option.isSome_some] at hheld
      cases hheld
    | none =>
      rw [hbid, if_neg (by simp)] at hheld
      by_cases hlate : censorDeadline calendar e .timeStop t.policy ≤ t.now
      · rw [if_pos hlate] at hheld
        cases hheld
      · rw [if_neg hlate] at hheld
        cases hheld
        exact .inr ⟨_, hlocked _, rfl, fun _ => ⟨rfl, not_le.mp hlate⟩⟩
  · rw [if_neg hstop] at hheld
    have hearly : t.now < effectiveStop calendar e := not_le.mp hstop
    cases hexit : marketExit e t with
    | none =>
      rw [hexit] at hheld
      cases hheld
      exact .inl ⟨⟨rfl, rfl, rfl, rfl⟩, hearly⟩
    | some exit =>
      obtain ⟨reason, action⟩ := exit
      rw [hexit] at hheld
      rcases marketExit_action hexit with rfl | ⟨hbid, rfl⟩ | ⟨_, rfl⟩
      · cases hheld
        exact .inl ⟨⟨rfl, h.since, h.reason, h.action⟩, hearly⟩
      · cases hheld
        exact .inr ⟨_, hlocked _, hbid, fun hlate => absurd hlate hstop⟩
      · rw [lifecycle_terminal] at hheld
        cases hheld

end SpxSpark.MarketFeatures
