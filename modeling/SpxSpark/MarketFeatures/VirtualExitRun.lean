import SpxSpark.MarketFeatures.VirtualExitLock

/-!
# VirtualExitRun — the exit lock over the runs of the strategy

What one tick does to the active episode is what its step does to it: the entry half of a tick only
acts when there is no episode, and what it opens is unlocked.
-/

namespace SpxSpark.MarketFeatures

open Lib

variable (calendar : ExpiryCalendar)

/-! ## The position of an episode -/

/-- What no tick changes in an episode: which position it is, and its clocks. -/
structure SamePosition (e e' : Episode) : Prop where
  episodeId : e'.episodeId = e.episodeId
  source : e'.sourceSignalId = e.sourceSignalId
  kind : e'.sourceKind = e.sourceKind
  spread : e'.debitSpread = e.debitSpread
  stop : effectiveStop calendar e' = effectiveStop calendar e
  deadline : ∀ reason policy, censorDeadline calendar e' reason policy =
    censorDeadline calendar e reason policy

variable {e e' e'' : Episode} {since : Instant} {reason : ExitReason} {action : ExitAction}

theorem SamePosition.refl (e : Episode) : SamePosition calendar e e :=
  ⟨rfl, rfl, rfl, rfl, rfl, fun _ _ => rfl⟩

theorem SamePosition.trans (h : SamePosition calendar e e') (h' : SamePosition calendar e' e'') :
    SamePosition calendar e e'' where
  episodeId := h'.episodeId.trans h.episodeId
  source := h'.source.trans h.source
  kind := h'.kind.trans h.kind
  spread := h'.spread.trans h.spread
  stop := h'.stop.trans h.stop
  deadline reason policy := (h'.deadline reason policy).trans (h.deadline reason policy)

theorem samePosition_cap (e : Episode) : SamePosition calendar e (capRthTradeEpisode calendar e) :=
  ⟨rfl, rfl, rfl, rfl, effectiveStop_cap calendar e, fun _ _ => censorDeadline_cap calendar e _ _⟩

theorem lifecycle_held {t : EpisodeTick} {exit : Option (ExitReason × ExitAction)}
    (h : lifecycleTransition e t exit = .held e') :
    (∃ reason pending, e' = markEpisodeDegraded e reason t.now pending) ∨
      e' = recoverEpisodeHealth e t.now := by
  cases exit with
  | none =>
    cases h
    exact .inr rfl
  | some exit =>
    obtain ⟨reason, action⟩ := exit
    cases action with
    | exitOrVerify | closePending =>
      cases h
      exact .inl ⟨reason, _, rfl⟩
    | exit | takeProfitOrExit | takeProfitOrReduce | takeProfit | reduce | censor => cases h

theorem step_held_position {t : EpisodeTick} (h : stepEpisode calendar e t = .held e') :
    SamePosition calendar e e' := by
  rcases lifecycle_held h with ⟨reason, pending, rfl⟩ | rfl
  · exact ⟨rfl, rfl, rfl, rfl, rfl, fun _ _ => rfl⟩
  · exact ⟨rfl, rfl, rfl, rfl, rfl, fun _ _ => rfl⟩

/-! ## The episodes of a run -/

/-- An episode whose lock is sound, and which no exact spread has to replace. -/
structure EpisodeSound (e : Episode) : Prop where
  lock : LockSound e
  exact_spread : e.sourceKind = .gthDipReclaimCall → e.debitSpread = true

theorem FreshEpisode.sound {id : String} (h : FreshEpisode id e) : EpisodeSound e :=
  ⟨.inl ⟨h.status, h.since, h.reason, h.action⟩, h.spread⟩

theorem EpisodeSound.cap (h : EpisodeSound e) : EpisodeSound (capRthTradeEpisode calendar e) where
  lock := by
    rcases h.lock with h | ⟨since, reason, h⟩
    · exact .inl ⟨h.status, h.since, h.reason, h.action⟩
    · exact .inr ⟨since, reason, ⟨h.status, h.since, h.reason, h.action⟩⟩
  exact_spread := h.exact_spread

theorem EpisodeSound.not_replaced (h : EpisodeSound e) (signal : GthSignal) :
    shouldReplaceWithGthSpread (some e) signal = false := by
  show decide _ = false
  refine decide_eq_false ?_
  rintro ⟨hkind, hnaked, -, -⟩
  rw [h.exact_spread hkind] at hnaked
  cases hnaked

theorem EpisodeSound.held {t : EpisodeTick} (h : EpisodeSound e)
    (hheld : stepEpisode calendar e t = .held e') : EpisodeSound e' := by
  have hposition := step_held_position calendar hheld
  refine ⟨?_, fun hkind => ?_⟩
  · rcases h.lock with hopen | ⟨since, reason, hlock⟩
    · rcases step_unlocked_held calendar hopen hheld with ⟨hopen', _⟩ | ⟨reason, hlock, _⟩
      · exact .inl hopen'
      · exact .inr ⟨_, reason, hlock⟩
    · exact .inr ⟨since, reason, (step_locked_held calendar hlock hheld).2.2⟩
  · rw [hposition.spread]
    exact h.exact_spread (hposition.kind ▸ hkind)

/-- **A sound episode that outlives its tick is before its stop, or it waits before its
deadline.** -/
theorem EpisodeSound.held_in_time {t : EpisodeTick} (h : EpisodeSound e)
    (hheld : stepEpisode calendar e t = .held e') (hstop : effectiveStop calendar e' ≤ t.now) :
    ∃ since reason, Locked e' since reason (terminalExitAction reason) ∧
      t.now < censorDeadline calendar e' reason t.policy := by
  have hposition := step_held_position calendar hheld
  rw [hposition.stop] at hstop
  rcases h.lock with hopen | ⟨since, reason, hlock⟩
  · rcases step_unlocked_held calendar hopen hheld with ⟨_, hearly⟩ | ⟨reason, hlock, _, hlate⟩
    · exact absurd hstop (not_le.mpr hearly)
    · obtain ⟨rfl, hbefore⟩ := hlate hstop
      exact ⟨_, _, hlock, by rw [hposition.deadline]; exact hbefore⟩
  · obtain ⟨_, hearly, hkept⟩ := step_locked_held calendar hlock hheld
    exact ⟨since, reason, hkept, by rw [hposition.deadline]; exact hearly⟩

/-! ## One tick -/

variable {s : VirtualState} {t : StrategyTick} {w : Working}

theorem process_disabled (hoff : t.policy.virtualStrategyEnabled = false) :
    processVirtualStrategy calendar s t = ([], s) := by
  unfold processVirtualStrategy
  rw [if_pos hoff]

theorem censorWaiter_active (w : Working) (t : StrategyTick) :
    (censorWaiter w t).active = w.active := by
  unfold censorWaiter
  split
  · split <;> rfl
  · rfl

theorem supersedeWaiter_active (w : Working) (current : Option TradeIntent) (now : Instant) :
    (supersedeWaiter w current now).active = w.active := by
  unfold supersedeWaiter
  split
  · split <;> rfl
  · rfl

theorem entry_of_active (hactive : w.active = some e) (hsound : EpisodeSound e) :
    openEntry calendar (replaceWithGthSpread calendar (censorWaiter w t) t) t = w := by
  have hcensor : censorWaiter w t = w := by
    unfold censorWaiter
    rw [hactive]
  have hreplace : replaceWithGthSpread calendar w t = w := by
    unfold replaceWithGthSpread
    rw [hactive]
    dsimp only
    rw [hsound.not_replaced, if_neg (by simp)]
  rw [hcensor, hreplace, openEntry, if_pos (.inl (by rw [hactive]; rfl))]

theorem newEpisodeEntry_fresh {candidate : TradeIntent} {consumed : List Consumption}
    {answer : Option Episode × EntryDecision}
    (h : newEpisodeEntry calendar candidate t consumed = some answer)
    (hopened : answer.1 = some e) : ∃ id, FreshEpisode id e := by
  unfold newEpisodeEntry at h
  split at h
  · cases h
    exact ⟨_, (evaluates_tradeIntent.opened e hopened).2⟩
  split at h
  · cases h
    exact ⟨_, ((evaluates_gth calendar).opened e hopened).2⟩
  · cases h

theorem settleEntry_active (w : Working) (candidate : TradeIntent) (now : Instant)
    (answer : Option Episode × EntryDecision) (hidle : w.active = none) :
    (settleEntry w candidate now answer).active = answer.1 := by
  unfold settleEntry
  cases hopened : answer.1 with
  | some e => rfl
  | none =>
    dsimp only
    split <;> split <;> exact hidle

theorem entry_of_idle (hidle : w.active = none) :
    (openEntry calendar (replaceWithGthSpread calendar (censorWaiter w t) t) t).active = none ∨
      ∃ e id, FreshEpisode id e ∧
        (openEntry calendar (replaceWithGthSpread calendar (censorWaiter w t) t) t).active =
          some e := by
  have hcensor : (censorWaiter w t).active = none := (censorWaiter_active w t).trans hidle
  have hreplace : replaceWithGthSpread calendar (censorWaiter w t) t = censorWaiter w t := by
    unfold replaceWithGthSpread
    rw [hcensor]
  rw [hreplace, openEntry]
  split
  · exact .inl hcensor
  dsimp only
  split
  · exact .inl ((supersedeWaiter_active _ _ _).trans hcensor)
  · rename_i answer hanswer
    rw [settleEntry_active _ _ _ _ ((supersedeWaiter_active _ _ _).trans hcensor)]
    cases hopened : answer.1 with
    | none => exact .inl rfl
    | some e =>
      obtain ⟨id, hfresh⟩ := newEpisodeEntry_fresh calendar hanswer hopened
      exact .inr ⟨e, id, hfresh, rfl⟩

theorem finishTick_active (hactive : w.active = some e) :
    (finishTick calendar w s t).2.active =
      match stepEpisode calendar e (t.of e) with
      | .held e' => some e'
      | .censored _ => none
      | .closed _ => none := by
  unfold finishTick
  rw [hactive]
  cases hstep : stepEpisode calendar e (t.of e) <;> simp only [hstep]

theorem process_active (hon : t.policy.virtualStrategyEnabled = true)
    (hactive : s.active = some e) (hsound : EpisodeSound e) : processVirtualStrategy calendar s t =
      finishTick calendar (loadWorking calendar s) s t := by
  have hloaded : (loadWorking calendar s).active = some (capRthTradeEpisode calendar e) := by
    show s.active.map _ = _
    rw [hactive, Option.map_some]
  unfold processVirtualStrategy
  rw [if_neg (by rw [hon]; decide), entry_of_active calendar hloaded (hsound.cap calendar)]

theorem process_held (hon : t.policy.virtualStrategyEnabled = true)
    (hsound : ∀ e, s.active = some e → EpisodeSound e)
    (hheld : (processVirtualStrategy calendar s t).2.active = some e') :
    ∃ e, EpisodeSound e ∧ stepEpisode calendar e (t.of e) = .held e' := by
  have hfinish : ∀ {w : Working} {e : Episode}, w.active = some e → EpisodeSound e →
      (finishTick calendar w s t).2.active = some e' →
      ∃ e, EpisodeSound e ∧ stepEpisode calendar e (t.of e) = .held e' := by
    intro w e hactive hsound hleft
    rw [finishTick_active calendar hactive] at hleft
    split at hleft
    · rename_i e₁ hstep
      cases hleft
      exact ⟨e, hsound, hstep⟩
    · cases hleft
    · cases hleft
  cases hactive : s.active with
  | some e =>
    rw [process_active calendar hon hactive (hsound e hactive)] at hheld
    refine hfinish ?_ ((hsound e hactive).cap calendar) hheld
    show s.active.map _ = _
    rw [hactive, Option.map_some]
  | none =>
    have hloaded : (loadWorking calendar s).active = none := by
      show s.active.map _ = _
      rw [hactive, Option.map_none]
    unfold processVirtualStrategy at hheld
    rw [if_neg (by rw [hon]; decide)] at hheld
    rcases entry_of_idle calendar (t := t) hloaded with hidle | ⟨e, id, hfresh, hopened⟩
    · unfold finishTick at hheld
      rw [hidle] at hheld
      exact absurd (hidle.symm.trans hheld) (by simp)
    · exact hfinish hopened hfresh.sound hheld

theorem process_episodeSound (hsound : ∀ e, s.active = some e → EpisodeSound e) :
    ∀ e, (processVirtualStrategy calendar s t).2.active = some e → EpisodeSound e := by
  intro e' he'
  cases hon : t.policy.virtualStrategyEnabled with
  | false =>
    rw [process_disabled calendar hon] at he'
    exact hsound e' he'
  | true =>
    obtain ⟨e, he, hstep⟩ := process_held calendar hon hsound he'
    exact he.held calendar hstep

theorem run_episodeSound {s₀ : VirtualState} {log : List (StrategyTick × List StrategyEvent)}
    (hsound : ∀ e, s₀.active = some e → EpisodeSound e)
    (h : Run (processVirtualStrategy calendar) anyStep s₀ log s) :
    ∀ e, s.active = some e → EpisodeSound e :=
  h.invariant (I := fun s => ∀ e, s.active = some e → EpisodeSound e) hsound
    fun _ _ hs _ => process_episodeSound calendar hs

/-! ## The lock over a run -/

/-- The episode `e`, under the lock it has. -/
def StillLocked (e : Episode) (since : Instant) (reason : ExitReason) (s : VirtualState) : Prop :=
  ∃ e', s.active = some e' ∧ SamePosition calendar e e' ∧
    Locked e' since reason (terminalExitAction reason)

/-- The tick closes the episode `e` at a bid, for the reason it was locked with. -/
structure ClosesAt (e : Episode) (since : Instant) (reason : ExitReason) (s : VirtualState)
    (t : StrategyTick) (bid : ℚ) (record : ClosedEpisode) : Prop where
  left : (processVirtualStrategy calendar s t).2.active = none
  recorded : (processVirtualStrategy calendar s t).2.lastClosed = some record
  journaled : .closed record ∈ (processVirtualStrategy calendar s t).1
  episodeId : record.episode.episodeId = e.episodeId
  pendingSince : record.closePendingSince = some since
  exitReason : record.exitReason = reason
  exitAction : record.exitAction = terminalExitAction reason
  closedAt : record.closedAt = t.now
  exitBid : record.exitBid = some bid

/-- The tick gives the episode `e` up as censored, under the reason it was locked with. -/
structure CensorsAt (e : Episode) (since : Instant) (reason : ExitReason) (s : VirtualState)
    (t : StrategyTick) (record : CensoredEpisode) : Prop where
  left : (processVirtualStrategy calendar s t).2.active = none
  recorded : (processVirtualStrategy calendar s t).2.lastCensored = some record
  journaled : .censored record ∈ (processVirtualStrategy calendar s t).1
  episodeId : record.episode.episodeId = e.episodeId
  pendingSince : record.episode.closePendingSince = some since
  censorReason : record.censorReason = reason
  censoredAt : record.censoredAt = t.now

/-- What an enabled tick does to the locked episode `e`, by the bid of its mark and the deadline. -/
structure LockedTick (e : Episode) (since : Instant) (reason : ExitReason) (s : VirtualState)
    (t : StrategyTick) : Prop where
  closes : ∀ bid, (t.of (capRthTradeEpisode calendar e)).bid = some bid →
    ∃ record, ClosesAt calendar e since reason s t bid record
  censors : (t.of (capRthTradeEpisode calendar e)).bid = none →
    censorDeadline calendar e reason t.policy ≤ t.now →
    ∃ record, CensorsAt calendar e since reason s t record
  waits : (t.of (capRthTradeEpisode calendar e)).bid = none →
    t.now < censorDeadline calendar e reason t.policy →
    StillLocked calendar e since reason (processVirtualStrategy calendar s t).2

theorem Locked.cap (h : Locked e since reason action) :
    Locked (capRthTradeEpisode calendar e) since reason action :=
  ⟨h.status, h.since, h.reason, h.action⟩

/-- **A locked episode waits for a bid until its deadline, and ends by its first trigger.** -/
theorem lockedTick (hon : t.policy.virtualStrategyEnabled = true) (hactive : s.active = some e)
    (hsound : EpisodeSound e) (hlock : Locked e since reason (terminalExitAction reason)) :
    LockedTick calendar e since reason s t := by
  have hcapped := hlock.cap calendar
  have hloaded : (loadWorking calendar s).active = some (capRthTradeEpisode calendar e) := by
    show s.active.map _ = _
    rw [hactive, Option.map_some]
  have hprocess := process_active calendar hon hactive hsound
  refine ⟨fun bid hbid => ?_, fun hbid hlate => ?_, fun hbid hearly => ?_⟩
  · have hstep := step_locked_bid calendar hcapped (t := t.of (capRthTradeEpisode calendar e))
      (by rw [hbid]; rfl)
    unfold finishTick at hprocess
    rw [hloaded] at hprocess
    dsimp only at hprocess
    rw [hstep] at hprocess
    refine ⟨_, by rw [hprocess], by rw [hprocess], ?_, rfl, hlock.since, rfl, rfl, rfl, hbid⟩
    rw [hprocess]
    exact List.mem_append_right _ (List.mem_append_right _ (List.mem_singleton.mpr rfl))
  · have hstep := step_locked_late calendar hcapped (t := t.of (capRthTradeEpisode calendar e))
      hbid (by rw [censorDeadline_cap]; exact hlate)
    unfold finishTick at hprocess
    rw [hloaded] at hprocess
    dsimp only at hprocess
    rw [hstep] at hprocess
    refine ⟨_, by rw [hprocess], by rw [hprocess], ?_, rfl, hlock.since, rfl, rfl⟩
    rw [hprocess]
    exact List.mem_append_right _ (List.mem_singleton.mpr rfl)
  · obtain ⟨hstep, hkept⟩ := step_locked_waits calendar hcapped
      (t := t.of (capRthTradeEpisode calendar e)) hbid
      (by rw [censorDeadline_cap]; exact hearly)
    refine ⟨_, ?_, (samePosition_cap calendar e).trans calendar
      (step_held_position calendar hstep), hkept⟩
    rw [hprocess, finishTick_active calendar hloaded, hstep]

/-- The tick `t` found the locked episode in `s` and ended it. -/
def EndsLocked (e : Episode) (since : Instant) (reason : ExitReason) (s : VirtualState)
    (t : StrategyTick) : Prop :=
  (∃ bid record, ClosesAt calendar e since reason s t bid record) ∨
    ∃ record, CensorsAt calendar e since reason s t record

theorem LockedTick.ends_or_waits (h : LockedTick calendar e since reason s t) :
    EndsLocked calendar e since reason s t ∨
      StillLocked calendar e since reason (processVirtualStrategy calendar s t).2 := by
  cases hbid : (t.of (capRthTradeEpisode calendar e)).bid with
  | some bid => exact .inl (.inl ⟨bid, h.closes bid hbid⟩)
  | none =>
    rcases le_or_gt (censorDeadline calendar e reason t.policy) t.now with hlate | hearly
    · exact .inl (.inr (h.censors hbid hlate))
    · exact .inr (h.waits hbid hearly)

theorem EndsLocked.of_position (h : EndsLocked calendar e' since reason s t)
    (hposition : SamePosition calendar e e') : EndsLocked calendar e since reason s t := by
  rcases h with ⟨bid, record, h⟩ | ⟨record, h⟩
  · exact .inl ⟨bid, record, { h with episodeId := h.episodeId.trans hposition.episodeId }⟩
  · exact .inr ⟨record, { h with episodeId := h.episodeId.trans hposition.episodeId }⟩

/-- **A lock lasts as it was set until a tick ends its episode.** -/
theorem run_keeps_lock {log : List (StrategyTick × List StrategyEvent)} {s' : VirtualState}
    (hsound : ∀ e, s.active = some e → EpisodeSound e) (hactive : s.active = some e)
    (hlock : Locked e since reason (terminalExitAction reason))
    (h : Run (processVirtualStrategy calendar) anyStep s log s') :
    StillLocked calendar e since reason s' ∨
      ∃ past t events rest s₁, log = past ++ (t, events) :: rest ∧
        Run (processVirtualStrategy calendar) anyStep s past s₁ ∧
        StillLocked calendar e since reason s₁ ∧ EndsLocked calendar e since reason s₁ t := by
  have hrefl : StillLocked calendar e since reason s :=
    ⟨e, hactive, .refl calendar e, hlock⟩
  induction h with
  | nil => exact .inl hrefl
  | @snoc log s₁ t h _ ih =>
    rcases ih with hstill | ⟨past, t', events, rest, s₂, rfl, hpast, hstill, hends⟩
    · cases hon : t.policy.virtualStrategyEnabled with
      | false => exact .inl (by rw [process_disabled calendar hon]; exact hstill)
      | true =>
        obtain ⟨e₁, hactive₁, hposition, hlock₁⟩ := id hstill
        have htick := lockedTick calendar hon hactive₁
          (run_episodeSound calendar hsound h e₁ hactive₁) hlock₁
        rcases htick.ends_or_waits calendar with hends | ⟨e₂, hactive₂, hposition₂, hlock₂⟩
        · exact .inr ⟨log, t, _, [], s₁, rfl, h, hstill, hends.of_position calendar hposition⟩
        · exact .inl ⟨e₂, hactive₂, hposition.trans calendar hposition₂, hlock₂⟩
    · have hlog : past ++ (t', events) :: rest ++ [(t, (processVirtualStrategy calendar s₁ t).1)] =
          past ++ (t', events) :: (rest ++ [(t, (processVirtualStrategy calendar s₁ t).1)]) := by
        rw [List.append_assoc, List.cons_append]
      exact .inr ⟨past, t', events, _, s₂, hlog, hpast, hstill, hends⟩

/-- The exit lock in the state `s`. -/
structure ExitLock (s : VirtualState) : Prop where
  /-- A disabled call does nothing at all. -/
  disabled : ∀ t : StrategyTick, t.policy.virtualStrategyEnabled = false →
    processVirtualStrategy calendar s t = ([], s)
  /-- No enabled tick leaves an episode open past its stop, but under a lock before its deadline. -/
  in_time : ∀ (t : StrategyTick) (e : Episode), t.policy.virtualStrategyEnabled = true →
    (processVirtualStrategy calendar s t).2.active = some e → effectiveStop calendar e ≤ t.now →
    ∃ since reason, Locked e since reason (terminalExitAction reason) ∧
      t.now < censorDeadline calendar e reason t.policy
  /-- A lock is all there, decides every enabled tick, and lasts until a tick ends the episode. -/
  lasts : ∀ e, s.active = some e → e.status = .closePending →
    ∃ since reason, Locked e since reason (terminalExitAction reason) ∧
      (∀ t : StrategyTick, t.policy.virtualStrategyEnabled = true →
        LockedTick calendar e since reason s t) ∧
      ∀ log s', Run (processVirtualStrategy calendar) anyStep s log s' →
        StillLocked calendar e since reason s' ∨
          ∃ past t events rest s₁, log = past ++ (t, events) :: rest ∧
            Run (processVirtualStrategy calendar) anyStep s past s₁ ∧
            StillLocked calendar e since reason s₁ ∧ EndsLocked calendar e since reason s₁ t

/-- **The virtual exit lock.** -/
theorem virtual_exit_lock {log : List (StrategyTick × List StrategyEvent)}
    (h : Run (processVirtualStrategy calendar) anyStep {} log s) : ExitLock calendar s := by
  have hsound : ∀ e, s.active = some e → EpisodeSound e :=
    run_episodeSound calendar (by intro e he; cases he) h
  refine ⟨fun t hoff => process_disabled calendar hoff, fun t e' hon hheld hstop => ?_,
    fun e hactive hpending => ?_⟩
  · obtain ⟨e, he, hstep⟩ := process_held calendar hon hsound hheld
    have hnow : (t.of e).now = t.now := rfl
    obtain ⟨since, reason, hlock, hearly⟩ := he.held_in_time calendar hstep (hnow.symm ▸ hstop)
    exact ⟨since, reason, hlock, hearly⟩
  · rcases (hsound e hactive).lock with hopen | ⟨since, reason, hlock⟩
    · rw [hopen.status] at hpending
      cases hpending
    · exact ⟨since, reason, hlock,
        fun t hon => lockedTick calendar hon hactive (hsound e hactive) hlock,
        fun log s' hrun => run_keeps_lock calendar hsound hactive hlock hrun⟩

/-! ## A run -/

/-- A calendar of one endless session. -/
def flatCalendar : ExpiryCalendar where
  sessionDay _ := none
  dayEt _ := 0
  hardExitClock _ := 1000000000000
  closeAt _ := none
  researchExpiry _ := "2026-01-05"
  gthExitClock now := now

/-- A call at 10 points, with this bid. -/
def callAt (bid : Option ℚ) : MarketView where
  actionSnapshot _ _ := .ok { mid := some 10, bid := some 9, ask := some 11 }
  spreadSnapshot _ _ := .error []
  underlier _ := .ok 6900
  chainReference _ := none
  mark _ := some { mid := some 10, bid := bid }
  spx _ := some 6900
  es := none
  callWall := none
  postEvent := false
  decisionGrade := false

def readyIntent (id : String) : TradeIntent where
  intentId := id
  status := "trade_ready"
  contractId := "SPXW:6900:C"
  envelope :=
    { schemaVersion := some 3
      policyVersion := "rth_trade_intent.v3+sha256:0"
      validUntil := .at' 60000000
      coordinate := some ⟨"official_spx", some "index:SPX"⟩
      blockReasons := some [] }
  executionEligible := some true
  quoteObservationEligible := some false
  shadowMode := some false
  automaticOrdering := some false
  strategyLane := "rth_confirmed_level"
  direction := "up"
  notificationEventId := "card"
  sessionId := none
  targetSpx := some 6950
  invalidationSpx := some 6850
  timeStopAt := none

def noGthSignal : GthSignal where
  eventId := ""
  kind := ""
  sessionDate := ""
  envelope := ⟨none, "", .absent, none, none⟩
  confirmedAt := none
  spread := none
  trough := none
  digest := ""

/-- A tick at `seconds`, with a ready intent and this bid. -/
def tickAt (seconds : ℤ) (bid : Option ℚ) (enabled : Bool) : StrategyTick where
  now := seconds * 1000000
  policy := { virtualStrategyEnabled := enabled }
  market := callAt bid
  tradeIntent := readyIntent "intent"
  gthSignal := noGthSignal
  newEntriesAllowed := true
  expectedTradeIntentPolicyVersion := none
  rustTraderNotificationOwner := false
  receipt _ := ⟨none, false⟩

def activeLock (s : VirtualState) : Option (EpisodeStatus × Option Instant × Option ExitReason) :=
  s.active.map fun e => (e.status, e.closePendingSince, e.closePendingReason)

/-- The episode opens at once, and finds no bid at its stop, 15 minutes later. -/
def lockingTicks : List StrategyTick := [tickAt 0 (some 9) true, tickAt 900 none true]

/-- Without a bid at its stop, the episode waits under the lock of its time stop. -/
theorem virtual_exit_lock_timeStop :
    ExitLock flatCalendar (play (processVirtualStrategy flatCalendar) {} lockingTicks).2 ∧
      activeLock (play (processVirtualStrategy flatCalendar) {} lockingTicks).2 =
        some (.closePending, some 900000000, some .timeStop) := by
  have hrun := run_play (processVirtualStrategy flatCalendar) lockingTicks {}
  exact ⟨virtual_exit_lock flatCalendar hrun, by decide +kernel⟩

/-- **A disabled call leaves an episode open past its stop, with no lock on it.** -/
theorem disabled_tick_past_stop :
    ∃ log t events s, Run (processVirtualStrategy flatCalendar) anyStep {}
        (log ++ [(t, events)]) s ∧ t.policy.virtualStrategyEnabled = false ∧
      s.active.any (fun e => effectiveStop flatCalendar e ≤ t.now ∧ e.status = .active) = true := by
  have hopened := run_play (processVirtualStrategy flatCalendar) [tickAt 0 (some 9) true] {}
  refine ⟨_, tickAt 900 none false, _, _, hopened.snoc _ trivial, rfl, ?_⟩
  decide +kernel

end SpxSpark.MarketFeatures
