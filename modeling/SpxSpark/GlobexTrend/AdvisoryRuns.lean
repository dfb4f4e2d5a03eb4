import SpxSpark.GlobexTrend.TrendRuns

/-!
# AdvisoryRuns — an advisory that was acknowledged is tracked to its end

A cycle of the service reconciles, takes a sample, lets a pending event expire and saves; it hands
the pending event to the notifier, and when that acknowledged it, notes so in the state.
-/

namespace SpxSpark.GlobexTrend

open Lib List

/-! ## The service -/

/-- The state file, the event ids in the notifier's file, the event that the cycle hands to the
notifier, and the one whose acknowledgement it still has to note. -/
structure ServiceState where
  trend : TrendState
  acked : List Text
  hand : Option TrendEvent := none
  answered : Option TrendEvent := none

inductive ServiceInput
  /-- The locked section of a new cycle: it ends with one save. -/
  | cycle (sessionId : Text) (now : Sample) (allowed : Bool)
  | notify (acknowledged : Bool)
  | acknowledge (acceptedAt : Instant)
  /-- The process stops, or the cycle is over. -/
  | stop

/-- The event that a sample led to, and the event that the notifier acknowledged. -/
structure ServiceAnswer where
  emitted : Option TrendEvent := none
  acknowledged : Option TrendEvent := none

/-- Reconcile, advance, expire. -/
def ServiceState.cycle (policy : GlobexTrendSettings) (s : ServiceState) (sessionId : Text)
    (now : Sample) (allowed : Bool) : ServiceAnswer × ServiceState :=
  let reconciled := s.trend.reconcileAcknowledgedAdvisory s.acked now.at_
  let advanced := advanceTrendState policy reconciled sessionId now allowed
  let trend := advanced.1.expirePending policy now.at_
  ({ emitted := advanced.2 }, { s with trend, hand := trend.pendingEvent, answered := none })

def serviceStep (policy : GlobexTrendSettings) (s : ServiceState) :
    ServiceInput → ServiceAnswer × ServiceState
  | .cycle sessionId now allowed => s.cycle policy sessionId now allowed
  | .notify acknowledged =>
    match s.hand with
    | none => ({}, s)
    | some event =>
      if acknowledged then
        ({ acknowledged := some event },
          { s with acked := event.eventId :: s.acked, hand := none, answered := some event })
      else ({}, { s with hand := none })
  | .acknowledge acceptedAt =>
    match s.answered with
    | none => ({}, s)
    | some event =>
      ({}, { s with
        trend := s.trend.acknowledgePending event.eventId acceptedAt
        answered := none })
  | .stop => ({}, { s with hand := none, answered := none })

abbrev ServiceLog := List (ServiceInput × ServiceAnswer)

/-- A first start: no state file yet, whatever the notifier's file holds. -/
def ServiceState.start (sessionId : Text) (acked : List Text) : ServiceState where
  trend := initialState sessionId
  acked := acked

def emitted (evs : ServiceLog) : List TrendEvent := evs.filterMap (·.2.emitted)

/-! ## What is asked of a run -/

/-- The event advises an entry. -/
structure Enters (event : TrendEvent) (milestone : MilestoneEvent) : Prop where
  hevent : event = .advance milestone ∨ event = .continuation milestone
  hstage : milestone.signalStage = .entryAdvisory

def Direction.opposite : Direction → Direction
  | .up => .down
  | .down => .up

/-- A cycle of the session, or no cycle. -/
def ServiceInput.within (sessionId : Text) : ServiceInput → Prop
  | .cycle other _ _ => other = sessionId
  | _ => True

/-- A transition among the events names the advisory. -/
def Carried (advisoryId : Text) (evs : ServiceLog) : Prop :=
  ∃ event, .transition event ∈ emitted evs ∧ event.invalidatedAdvisoryId = some advisoryId

/-- The advisory that is active was acknowledged, and an advisory that was acknowledged is named by
a transition before the regime opposite to it is reached in its session. -/
structure Tracked (evs : ServiceLog) (s : ServiceState) : Prop where
  active : ∀ id, s.trend.activeDirectionalAdvisoryId = some id →
    ∃ event milestone, event ∈ emitted evs ∧ Enters event milestone ∧
      milestone.advisoryId = id ∧ event.eventId ∈ s.acked
  ended : ∀ past middle rest input answer event milestone transition,
    evs = past ++ (.notify true, { acknowledged := some event }) ::
      (middle ++ (input, answer) :: rest) → Enters event milestone →
    (∀ ev ∈ middle ++ [(input, answer)], ev.1.within milestone.sessionId) →
    answer.emitted = some (.transition transition) →
    transition.toRegime = milestone.direction.opposite.regime →
    Carried milestone.advisoryId (middle ++ [(input, answer)])

/-- The notifier acknowledges no advance. -/
def NoAdvance (s : ServiceState) : ServiceInput → Prop
  | .notify true => s.hand.any TrendEvent.isAdvance = false
  | _ => True

instance (s : ServiceState) (input : ServiceInput) : Decidable (NoAdvance s input) :=
  match input with
  | .notify true => inferInstanceAs (Decidable (s.hand.any TrendEvent.isAdvance = false))
  | .notify false => .isTrue trivial
  | .cycle _ _ _ => .isTrue trivial
  | .acknowledge _ => .isTrue trivial
  | .stop => .isTrue trivial

/-! ## What holds of the state -/

section State

variable {policy : GlobexTrendSettings} {s : TrendState} {now : Sample} {allowed : Bool}
  {milestone : MilestoneEvent} {event : TrendEvent} {at_ : Instant}

/-- A first continuation that is pending, with the regime it belongs to. -/
structure PendingEntry (s : TrendState) (milestone : MilestoneEvent) : Prop where
  hpending : s.pendingEvent = some (.continuation milestone)
  hstage : milestone.signalStage = .entryAdvisory

/-- The advisory of a first continuation is pending exactly while the continuation is. -/
structure Paired (s : TrendState) : Prop where
  pending : ∀ id, s.pendingDirectionalAdvisoryId = some id →
    ∃ milestone, PendingEntry s milestone ∧ milestone.advisoryId = id
  entry : ∀ milestone, PendingEntry s milestone →
    s.pendingDirectionalAdvisoryId = some milestone.advisoryId ∧ milestone.advisoryId ≠ [] ∧
      milestone.sessionId = s.sessionId ∧ s.regime = milestone.direction.regime
  begun : s.pendingDirectionalAdvisoryId.isSome = true ∨
    s.activeDirectionalAdvisoryId.isSome = true → 1 ≤ s.continuationMilestoneIndex
  alone : s.activeDirectionalAdvisoryId.isSome = true → s.pendingDirectionalAdvisoryId = none
  named : ∀ id, s.activeDirectionalAdvisoryId = some id → id ≠ []

theorem Paired.initial (sessionId : Text) : Paired (initialState sessionId) where
  pending := nofun
  entry := by
    rintro milestone ⟨hpending, -⟩
    cases hpending
  begun := nofun
  alone _ := rfl
  named := nofun

/-- Nothing is pending any more. -/
def TrendState.emptied (s : TrendState) (reason : Option SuppressedReason) : TrendState :=
  { s with
    pendingEvent := none
    pendingDirectionalAdvisoryId := none
    continuationSuppressedReason := reason }

/-- The pending advisory becomes active. -/
def TrendState.activate (s : TrendState) (advisoryId : Text) (at_ : Instant) : TrendState :=
  { s with
    pendingEvent := none
    pendingDirectionalAdvisoryId := none
    activeDirectionalAdvisoryId := some advisoryId
    activeDirectionalAdvisoryAcceptedAt := some at_ }

section

variable (h : Paired s)

include h

theorem Paired.emptied (reason : Option SuppressedReason) :
    Paired (s.emptied reason) where
  pending := nofun
  entry := by
    rintro milestone ⟨hpending, -⟩
    cases hpending
  begun hsome := h.begun (hsome.imp_left nofun)
  alone _ := rfl
  named := h.named

theorem Paired.activate (hentry : PendingEntry s milestone) (at_ : Instant) :
    Paired (s.activate milestone.advisoryId at_) where
  pending := nofun
  entry := by
    rintro other ⟨hpending, -⟩
    cases hpending
  begun _ := h.begun (.inl (by rw [(h.entry milestone hentry).1]; rfl))
  alone _ := rfl
  named id hid := Option.some.inj hid ▸ (h.entry milestone hentry).2.1

theorem Paired.idle (hnone : ∀ milestone, ¬ PendingEntry s milestone) :
    s.pendingDirectionalAdvisoryId = none := by
  rw [Option.eq_none_iff_forall_ne_some]
  intro id hid
  obtain ⟨milestone, hentry, -⟩ := h.pending id hid
  exact hnone milestone hentry

theorem acknowledge_idle (hpending : s.pendingEvent = some event)
    (hnone : ∀ milestone, ¬ PendingEntry s milestone) :
    s.acknowledgeAdvisoryDelivery event at_ = s := by
  have hid := h.idle hnone
  unfold TrendState.acknowledgeAdvisoryDelivery
  have hrefuse : ∀ milestone : MilestoneEvent,
      ¬ (milestone.advisoryId ≠ [] ∧
        s.pendingDirectionalAdvisoryId = some milestone.advisoryId) := by
    rintro milestone ⟨-, hsome⟩
    rw [hid] at hsome
    cases hsome
  split
  · rfl
  · split
    · rfl
    · rw [if_neg (hrefuse _)]
  · split
    · rfl
    · rw [if_neg (hrefuse _)]

theorem acknowledge_entry (hentry : PendingEntry s milestone) :
    { s.acknowledgeAdvisoryDelivery (.continuation milestone) at_ with pendingEvent := none } =
      s.activate milestone.advisoryId at_ := by
  obtain ⟨hid, hnonempty, -, -⟩ := h.entry milestone hentry
  unfold TrendState.acknowledgeAdvisoryDelivery
  dsimp only
  rw [if_neg (not_not.mpr hentry.hstage), if_pos ⟨hnonempty, hid⟩]
  rfl

omit h in
/-- What the acknowledgement of the pending event leaves. -/
inductive Acknowledged (s : TrendState) (at_ : Instant) : TrendState → Prop
  | entry {milestone : MilestoneEvent} (hentry : PendingEntry s milestone) :
      Acknowledged s at_ (s.activate milestone.advisoryId at_)
  | other (hnone : ∀ milestone, ¬ PendingEntry s milestone) :
      Acknowledged s at_ (s.emptied s.continuationSuppressedReason)

omit h in
theorem emptied_of_idle (hid : s.pendingDirectionalAdvisoryId = none) :
    ({ s with pendingEvent := none } : TrendState) = s.emptied s.continuationSuppressedReason := by
  unfold TrendState.emptied
  rw [← hid]

theorem acknowledgePending_spec (hpending : s.pendingEvent = some event) :
    Acknowledged s at_ (s.acknowledgePending event.eventId at_) := by
  unfold TrendState.acknowledgePending
  rw [hpending]
  dsimp only
  rw [if_pos rfl]
  by_cases hentry : ∃ milestone, PendingEntry s milestone
  · obtain ⟨milestone, hentry⟩ := hentry
    obtain rfl := Option.some.inj (hpending.symm.trans hentry.hpending)
    rw [acknowledge_entry h hentry]
    exact .entry hentry
  · have hnone : ∀ milestone, ¬ PendingEntry s milestone := not_exists.mp hentry
    rw [acknowledge_idle h hpending hnone, emptied_of_idle (h.idle hnone)]
    exact .other hnone

/-- A first continuation that the notifier acknowledged is reconciled; else at most an event without
an advisory is dropped. -/
theorem reconcile_spec (acked : List Text) :
    (∃ milestone, PendingEntry s milestone ∧ milestone.eventId ∈ acked ∧
      s.reconcileAcknowledgedAdvisory acked at_ = s.activate milestone.advisoryId at_) ∨
    (∀ milestone, PendingEntry s milestone → milestone.eventId ∉ acked) ∧
      (s.reconcileAcknowledgedAdvisory acked at_ = s ∨
        s.reconcileAcknowledgedAdvisory acked at_ = s.emptied s.continuationSuppressedReason) := by
  unfold TrendState.reconcileAcknowledgedAdvisory
  by_cases hentry : ∃ milestone, PendingEntry s milestone
  · obtain ⟨milestone, hentry⟩ := hentry
    have hadvisory : (TrendEvent.continuation milestone).entryAdvisory =
        some milestone.advisoryId := if_pos hentry.hstage
    rw [hentry.hpending]
    dsimp only
    by_cases hacked : milestone.eventId ∈ acked
    · refine .inl ⟨milestone, hentry, hacked, ?_⟩
      have hactive := congrArg TrendState.activeDirectionalAdvisoryId
        (@acknowledge_entry s milestone at_ h hentry)
      rw [hadvisory, if_pos, if_pos]
      · exact acknowledge_entry h hentry
      · exact hactive
      · rw [Option.isSome_some, Bool.true_and]
        exact contains_iff_mem.mpr hacked
    · refine .inr ⟨fun other hother => ?_, .inl ?_⟩
      · obtain rfl := TrendEvent.continuation.inj
          (Option.some.inj (hother.hpending.symm.trans hentry.hpending))
        exact hacked
      · rw [if_neg]
        rw [Bool.and_eq_true_iff]
        exact fun hboth => hacked (contains_iff_mem.mp hboth.2)
  · have hnone : ∀ milestone, ¬ PendingEntry s milestone := not_exists.mp hentry
    refine .inr ⟨fun milestone hentry => absurd hentry (hnone milestone), ?_⟩
    cases hpending : s.pendingEvent with
    | none => exact .inl rfl
    | some event =>
      dsimp only
      rw [acknowledge_idle h hpending hnone, emptied_of_idle (h.idle hnone)]
      split
      · split
        · exact .inr rfl
        · exact .inl rfl
      · exact .inl rfl

theorem expirePending_spec :
    s.expirePending policy at_ = s ∨ ∃ reason, s.expirePending policy at_ = s.emptied reason := by
  unfold TrendState.expirePending
  split
  · exact .inl rfl
  · rename_i event hpending
    split
    · refine .inr ?_
      unfold TrendState.expirePendingAdvisory
      split
      · exact ⟨_, rfl⟩
      · rename_i hrefuse
        refine ⟨s.continuationSuppressedReason, emptied_of_idle (h.idle ?_)⟩
        intro milestone hentry
        obtain ⟨hid, hnonempty, -, -⟩ := h.entry milestone hentry
        obtain rfl := Option.some.inj (hpending.symm.trans hentry.hpending)
        have hadvisory : (TrendEvent.continuation milestone).entryAdvisory =
            some milestone.advisoryId := if_pos hentry.hstage
        rw [hadvisory, hid] at hrefuse
        exact hrefuse (by simp [hnonempty])
    · exact .inl rfl

/-! ## What a sample does to the advisories -/

end

/-- The regime, the advisories and what is pending are the same. -/
structure SameAdvisory (s t : TrendState) : Prop where
  pendingEvent : t.pendingEvent = s.pendingEvent
  pending : t.pendingDirectionalAdvisoryId = s.pendingDirectionalAdvisoryId
  active : t.activeDirectionalAdvisoryId = s.activeDirectionalAdvisoryId
  sessionId : t.sessionId = s.sessionId
  regime : t.regime = s.regime
  index : s.continuationMilestoneIndex ≤ t.continuationMilestoneIndex

/-- What a sample leaves of the advisories, and the event that it led to. -/
inductive Sampled (s : TrendState) : TrendState × Option TrendEvent → Prop
  | quiet {t : TrendState} (hsame : SameAdvisory s t) : Sampled s (t, none)
  | advance {t : TrendState} {milestone : MilestoneEvent} (hneutral : s.regime = .neutral)
      (hevent : t.pendingEvent = some (.advance milestone))
      (hsame : SameAdvisory s { t with pendingEvent := s.pendingEvent }) :
      Sampled s (t, some (.advance milestone))
  | first {t : TrendState} {milestone : MilestoneEvent}
      (hfirst : s.continuationMilestoneIndex = 0)
      (hevent : t.pendingEvent = some (.continuation milestone))
      (hstage : milestone.signalStage = .entryAdvisory)
      (hpending : t.pendingDirectionalAdvisoryId = some milestone.advisoryId)
      (hid : milestone.advisoryId ≠ []) (hsession : milestone.sessionId = s.sessionId)
      (hregime : s.regime = milestone.direction.regime)
      (hsame : SameAdvisory s { t with
        pendingEvent := s.pendingEvent
        pendingDirectionalAdvisoryId := s.pendingDirectionalAdvisoryId })
      (hindex : 1 ≤ t.continuationMilestoneIndex) :
      Sampled s (t, some (.continuation milestone))
  | later {t : TrendState} {milestone : MilestoneEvent}
      (hevent : t.pendingEvent = some (.continuation milestone))
      (hstage : milestone.signalStage ≠ .entryAdvisory)
      (hactive : s.activeDirectionalAdvisoryId.isSome = true)
      (hsame : SameAdvisory s { t with pendingEvent := s.pendingEvent }) :
      Sampled s (t, some (.continuation milestone))
  | transition {t : TrendState} {event : TransitionEvent}
      (hevent : t.pendingEvent = some (.transition event))
      (hpending : t.pendingDirectionalAdvisoryId = none)
      (hactive : t.activeDirectionalAdvisoryId = none) (hsession : t.sessionId = s.sessionId)
      (hregime : t.regime = event.toRegime)
      (hnamed : event.invalidatedAdvisoryId =
        s.activeDirectionalAdvisoryId.filter fun id => !id.isEmpty) :
      Sampled s (t, some (.transition event))

theorem regimeDirection_some {regime : GlobexTrendRegime} {direction : Direction}
    (h : regimeDirection regime = some direction) : regime = direction.regime := by
  cases regime with
  | neutral => cases h
  | bearish => rw [← Option.some.inj h]; rfl
  | bullish => rw [← Option.some.inj h]; rfl

variable {result : TrendState × Option TrendEvent}

theorem Decision.sampled (h : Decision policy s now allowed result) : Sampled s result := by
  cases h with
  | targets => exact .quiet ⟨rfl, rfl, rfl, rfl, rfl, le_rfl⟩
  | switches => exact .transition rfl rfl rfl rfl rfl rfl
  | dropsAdvance => exact .quiet ⟨rfl, rfl, rfl, rfl, rfl, le_rfl⟩
  | countsAdvance => exact .quiet ⟨rfl, rfl, rfl, rfl, rfl, le_rfl⟩
  | emitsAdvance htarget hregime => exact .advance hregime rfl ⟨rfl, rfl, rfl, rfl, rfl, le_rfl⟩
  | dropsContinuation htarget hregime hmilestone =>
    exact .quiet ⟨rfl, rfl, rfl, rfl, rfl, hmilestone⟩
  | countsContinuation => exact .quiet ⟨rfl, rfl, rfl, rfl, rfl, le_rfl⟩
  | @emitsContinuation transition direction parent htarget hmeets hcount hparent =>
    have hregime := regimeDirection_some hmeets.hdirection
    by_cases hfirst : s.continuationMilestoneIndex = 0
    · have hone : s.continuationMilestoneIndex + 1 = 1 := by omega
      exact .first hfirst rfl (if_pos hone) (if_pos hone) (by exact cons_ne_nil _ _) rfl
        hregime ⟨rfl, rfl, rfl, rfl, rfl, Nat.le_succ _⟩ (Nat.succ_le_succ (Nat.zero_le _))
    · rcases hparent with hzero | ⟨id, hactive, -⟩
      · exact absurd hzero hfirst
      · have hne : s.continuationMilestoneIndex + 1 ≠ 1 := by omega
        refine .later rfl ?_ (by rw [hactive]; rfl) ⟨rfl, ?_, rfl, rfl, rfl, Nat.le_succ _⟩
        · show (if s.continuationMilestoneIndex + 1 = 1 then SignalStage.entryAdvisory
            else .opportunityManagement) ≠ _
          rw [if_neg hne]
          decide
        · exact if_neg hne

/-- The state that a sample of a session is taken in. -/
def TrendState.inSession (s : TrendState) (sessionId : Text) : TrendState :=
  if s.sessionId = sessionId then s else initialState sessionId

theorem inSession_same {sessionId : Text} (h : s.sessionId = sessionId) :
    s.inSession sessionId = s := if_pos h

theorem advanceTrendState_sampled (policy : GlobexTrendSettings) (s : TrendState)
    (sessionId : Text) (now : Sample) (allowed : Bool) :
    Sampled (s.inSession sessionId) (advanceTrendState policy s sessionId now allowed) := by
  show Sampled (s.inSession sessionId)
    (if (s.inSession sessionId).accepts policy now then
      (s.inSession sessionId).decideSample policy now allowed
    else ({ s.inSession sessionId with updatedAt := some now.at_ }, none))
  split
  · exact decideSample_decision.sampled
  · exact .quiet ⟨rfl, rfl, rfl, rfl, rfl, le_rfl⟩

theorem Paired.inSession (h : Paired s) (sessionId : Text) : Paired (s.inSession sessionId) := by
  unfold TrendState.inSession
  split
  · exact h
  · exact Paired.initial sessionId

theorem SameAdvisory.paired {t : TrendState} (hsame : SameAdvisory s t) (h : Paired s) :
    Paired t := by
  have hpending : ∀ milestone, PendingEntry t milestone ↔ PendingEntry s milestone := by
    intro milestone
    exact ⟨fun hentry => ⟨hsame.pendingEvent ▸ hentry.hpending, hentry.hstage⟩,
      fun hentry => ⟨hsame.pendingEvent.trans hentry.hpending, hentry.hstage⟩⟩
  refine ⟨fun id hid => ?_, fun milestone hentry => ?_, fun hsome => ?_, fun hsome => ?_, ?_⟩
  · obtain ⟨milestone, hentry, hadvisory⟩ := h.pending id (hsame.pending ▸ hid)
    exact ⟨milestone, (hpending milestone).mpr hentry, hadvisory⟩
  · rw [hsame.pending, hsame.sessionId, hsame.regime]
    exact h.entry milestone ((hpending milestone).mp hentry)
  · rw [hsame.pending, hsame.active] at hsome
    exact (h.begun hsome).trans hsame.index
  · rw [hsame.pending]
    exact h.alone (hsame.active ▸ hsome)
  · rw [hsame.active]
    exact h.named

theorem Paired.replaced {t : TrendState} (h : Paired s)
    (hidle : s.pendingDirectionalAdvisoryId = none)
    (hsame : SameAdvisory s { t with pendingEvent := s.pendingEvent })
    (hnone : ∀ milestone, ¬ PendingEntry t milestone) : Paired t := by
  have hkept := hsame.paired h
  have hpending : t.pendingDirectionalAdvisoryId = none := hsame.pending.trans hidle
  refine ⟨fun id hid => ?_, fun milestone hentry => absurd hentry (hnone milestone), hkept.begun,
    fun _ => hpending, hkept.named⟩
  rw [hpending] at hid
  cases hid

theorem Sampled.paired (hsampled : Sampled s result) (h : Paired s) : Paired result.1 := by
  cases hsampled with
  | quiet hsame => exact hsame.paired h
  | advance hneutral hevent hsame =>
    refine h.replaced (h.idle fun milestone hentry => ?_) hsame ?_
    · -- an entry belongs to a regime
      have hregime := (h.entry milestone hentry).2.2.2
      rw [hneutral] at hregime
      cases hdirection : milestone.direction with
      | up => rw [hdirection] at hregime; cases hregime
      | down => rw [hdirection] at hregime; cases hregime
    · rintro milestone ⟨hpending, -⟩
      rw [hevent] at hpending
      cases hpending
  | first hfirst hevent hstage hpending hid hsession hregime hsame hindex =>
    have hactive : s.activeDirectionalAdvisoryId = none := by
      by_contra hsome
      have := h.begun (.inr (Option.isSome_iff_ne_none.mpr hsome))
      omega
    refine ⟨fun id hsome => ?_, fun other hentry => ?_, fun _ => hindex, fun hsome => ?_, ?_⟩
    · exact ⟨_, ⟨hevent, hstage⟩, Option.some.inj (hpending.symm.trans hsome)⟩
    · obtain rfl := TrendEvent.continuation.inj
        (Option.some.inj (hevent.symm.trans hentry.hpending))
      exact ⟨hpending, hid, hsession.trans hsame.sessionId.symm, hsame.regime.trans hregime⟩
    · have hkept := hsame.active.trans hactive
      dsimp only at hkept hsome
      rw [hkept] at hsome
      cases hsome
    · have hkept := hsame.active.trans hactive
      dsimp only at hkept
      rw [hkept]
      exact nofun
  | later hevent hstage hactive hsame =>
    refine h.replaced (h.alone hactive) hsame ?_
    rintro milestone ⟨hpending, hentry⟩
    rw [hevent] at hpending
    obtain rfl := TrendEvent.continuation.inj (Option.some.inj hpending)
    exact hstage hentry
  | transition hevent hpending hactive hsession hregime hnamed =>
    refine ⟨fun id hid => ?_, fun other hentry => ?_, fun hsome => ?_, fun _ => hpending,
      fun id hid => ?_⟩
    · rw [hpending] at hid
      cases hid
    · have hother := hentry.hpending
      rw [hevent] at hother
      cases hother
    · rw [hpending, hactive] at hsome
      simp at hsome
    · rw [hactive] at hid
      cases hid

end State

/-! ## What holds along a run -/

section Runs

variable {policy : GlobexTrendSettings} {s t : TrendState} {now : Sample} {allowed : Bool}
  {milestone : MilestoneEvent} {event : TrendEvent} {at_ : Instant} {evs evs' : ServiceLog}
  {acked acked' : List Text} {input : ServiceInput} {answer : ServiceAnswer}

theorem emitted_append (evs evs' : ServiceLog) :
    emitted (evs ++ evs') = emitted evs ++ emitted evs' :=
  filterMap_append

theorem emitted_single (h : answer.emitted = some event) : emitted [(input, answer)] = [event] := by
  unfold emitted
  rw [filterMap_cons_some (by exact h), filterMap_nil]

theorem mem_emitted_snoc (h : answer.emitted = some event) :
    event ∈ emitted (evs ++ [(input, answer)]) := by
  rw [emitted_append, emitted_single h]
  simp

theorem Carried.snoc {id : Text} (h : Carried id evs) (ev : ServiceInput × ServiceAnswer) :
    Carried id (evs ++ [ev]) := by
  obtain ⟨transition, hmem, hnamed⟩ := h
  refine ⟨transition, ?_, hnamed⟩
  rw [emitted_append]
  exact mem_append_left _ hmem

/-- The pending event was emitted, and the active advisory is of one that was acknowledged. -/
structure Backed (evs : ServiceLog) (acked : List Text) (s : TrendState) : Prop where
  pending : ∀ event, s.pendingEvent = some event → event ∈ emitted evs
  active : ∀ id, s.activeDirectionalAdvisoryId = some id → ∃ milestone,
    .continuation milestone ∈ emitted evs ∧ milestone.signalStage = .entryAdvisory ∧
      milestone.advisoryId = id ∧ milestone.eventId ∈ acked

section

variable (h : Backed evs acked s)

include h

theorem Backed.mono (hevs : emitted evs ⊆ emitted evs')
    (hacked : acked ⊆ acked') : Backed evs' acked' s where
  pending event hevent := hevs (h.pending event hevent)
  active id hid := by
    obtain ⟨milestone, hmem, hstage, hadvisory, hknown⟩ := h.active id hid
    exact ⟨milestone, hevs hmem, hstage, hadvisory, hacked hknown⟩

theorem Backed.emptied (reason : Option SuppressedReason) :
    Backed evs acked (s.emptied reason) where
  pending event hevent := absurd hevent.symm (Option.some_ne_none event)
  active := h.active

theorem Backed.activate (hentry : PendingEntry s milestone)
    (hknown : milestone.eventId ∈ acked) (at_ : Instant) :
    Backed evs acked (s.activate milestone.advisoryId at_) where
  pending event hevent := absurd hevent.symm (Option.some_ne_none event)
  active _ hid := ⟨milestone, h.pending _ hentry.hpending, hentry.hstage, Option.some.inj hid,
    hknown⟩

theorem Backed.inSession (sessionId : Text) :
    Backed evs acked (s.inSession sessionId) := by
  unfold TrendState.inSession
  split
  · exact h
  · exact ⟨fun event hevent => absurd hevent.symm (Option.some_ne_none event),
      fun id hid => absurd hid.symm (Option.some_ne_none id)⟩

end

theorem Backed.sampled (hsampled : Sampled s result) (h : Backed evs acked s)
    (hemitted : answer.emitted = result.2) : Backed (evs ++ [(input, answer)]) acked result.1 := by
  have hkeep : Backed (evs ++ [(input, answer)]) acked s :=
    h.mono (by rw [emitted_append]; exact subset_append_left _ _) (List.Subset.refl _)
  have hnew : ∀ {t event}, t.pendingEvent = some event → answer.emitted = some event →
      t.activeDirectionalAdvisoryId = s.activeDirectionalAdvisoryId →
        Backed (evs ++ [(input, answer)]) acked t := by
    intro t event hevent hemitted hactive
    refine ⟨fun other hother => ?_, fun id hid => hkeep.active id (hactive ▸ hid)⟩
    obtain rfl := Option.some.inj (hevent.symm.trans hother)
    exact mem_emitted_snoc hemitted
  cases hsampled with
  | quiet hsame =>
    exact ⟨fun event hevent => hkeep.pending event (hsame.pendingEvent ▸ hevent),
      fun id hid => hkeep.active id (hsame.active ▸ hid)⟩
  | advance hneutral hevent hsame => exact hnew hevent hemitted hsame.active
  | first hfirst hevent hstage hpending hid hsession hregime hsame hindex =>
    exact hnew hevent hemitted hsame.active
  | later hevent hstage hactive hsame => exact hnew hevent hemitted hsame.active
  | transition hevent hpending hactive hsession hregime hnamed =>
    refine ⟨fun other hother => ?_, fun id hid => ?_⟩
    · obtain rfl := Option.some.inj (hevent.symm.trans hother)
      exact mem_emitted_snoc hemitted
    · rw [hactive] at hid
      cases hid

/-- What holds of the service after a run. -/
structure ServiceInv (evs : ServiceLog) (s : ServiceState) : Prop where
  advised : Paired s.trend
  backed : Backed evs s.acked s.trend
  hand : ∀ event, s.hand = some event → s.trend.pendingEvent = some event ∧ s.answered = none
  answered : ∀ event, s.answered = some event →
    s.trend.pendingEvent = some event ∧ event.eventId ∈ s.acked

/-- An acknowledged entry advisory that no transition named yet: pending, or active. -/
structure Held (milestone : MilestoneEvent) (acked : List Text) (s : TrendState) : Prop where
  session : milestone.sessionId = s.sessionId
  regime : s.regime = milestone.direction.regime
  advisory : PendingEntry s milestone ∧ milestone.eventId ∈ acked ∨
    s.activeDirectionalAdvisoryId = some milestone.advisoryId

theorem Held.mono (h : Held milestone acked s) (hacked : acked ⊆ acked') :
    Held milestone acked' s :=
  ⟨h.session, h.regime, h.advisory.imp_left (And.imp_right fun hknown => hacked hknown)⟩

theorem PendingEntry.unique {other : MilestoneEvent} (h : PendingEntry s milestone)
    (hother : PendingEntry s other) : milestone = other :=
  TrendEvent.continuation.inj (Option.some.inj (h.hpending.symm.trans hother.hpending))

theorem Held.activate {other : MilestoneEvent} (h : Held milestone acked s) (hadvised : Paired s)
    (hentry : PendingEntry s other) (at_ : Instant) :
    Held milestone acked (s.activate other.advisoryId at_) := by
  refine ⟨h.session, h.regime, .inr ?_⟩
  rcases h.advisory with ⟨hpending, -⟩ | hactive
  · rw [hpending.unique hentry]
    rfl
  · have hnone := hadvised.alone (by rw [hactive]; rfl)
    rw [(hadvised.entry other hentry).1] at hnone
    cases hnone

theorem Held.emptied (h : Held milestone acked s) (hnone : ¬ PendingEntry s milestone)
    (reason : Option SuppressedReason) : Held milestone acked (s.emptied reason) := by
  refine ⟨h.session, h.regime, .inr ?_⟩
  rcases h.advisory with ⟨hpending, -⟩ | hactive
  · exact absurd hpending hnone
  · exact hactive

theorem Paired.no_entry (h : Paired s) (hactive : s.activeDirectionalAdvisoryId.isSome = true) :
    ¬ PendingEntry s milestone := by
  intro hentry
  have hnone := h.alone hactive
  rw [(h.entry milestone hentry).1] at hnone
  cases hnone

/-! ### The locked section of a cycle -/

theorem reconcile_held (h : Paired s) (hheld : Held milestone acked s) :
    Held milestone acked (s.reconcileAcknowledgedAdvisory acked at_) ∧
      (s.reconcileAcknowledgedAdvisory acked at_).activeDirectionalAdvisoryId =
        some milestone.advisoryId := by
  rcases reconcile_spec h acked with ⟨other, hentry, -, hsame⟩ | ⟨hnone, hsame⟩
  · rw [hsame]
    have hkept := hheld.activate h hentry at_
    refine ⟨hkept, ?_⟩
    rcases hkept.advisory with ⟨⟨hpending, -⟩, -⟩ | hactive
    · cases hpending
    · exact hactive
  · rcases hheld.advisory with ⟨hpending, hknown⟩ | hactive
    · exact absurd hknown (hnone milestone hpending)
    · rcases hsame with hsame | hsame
      · rw [hsame]
        exact ⟨hheld, hactive⟩
      · rw [hsame]
        exact ⟨hheld.emptied (h.no_entry (by rw [hactive]; rfl)) _, hactive⟩

theorem reconcile_kept (h : Paired s) (hbacked : Backed evs acked s) :
    Paired (s.reconcileAcknowledgedAdvisory acked at_) ∧
      Backed evs acked (s.reconcileAcknowledgedAdvisory acked at_) := by
  rcases reconcile_spec h acked with ⟨other, hentry, hknown, hsame⟩ | ⟨-, hsame | hsame⟩
  · rw [hsame]
    exact ⟨h.activate hentry at_, hbacked.activate hentry hknown at_⟩
  · rw [hsame]
    exact ⟨h, hbacked⟩
  · rw [hsame]
    exact ⟨h.emptied _, hbacked.emptied _⟩

theorem Sampled.held (hsampled : Sampled s result) (h : Paired s) (hheld : Held milestone acked s)
    (hactive : s.activeDirectionalAdvisoryId = some milestone.advisoryId) :
    (∃ transition, result.2 = some (.transition transition) ∧
      transition.invalidatedAdvisoryId = some milestone.advisoryId) ∨
    Held milestone acked result.1 ∧
      result.1.activeDirectionalAdvisoryId = some milestone.advisoryId := by
  have hkeep : ∀ {t : TrendState}, t.activeDirectionalAdvisoryId = s.activeDirectionalAdvisoryId →
      t.sessionId = s.sessionId → t.regime = s.regime →
        Held milestone acked t ∧ t.activeDirectionalAdvisoryId = some milestone.advisoryId :=
    fun hsame hsession hregime => ⟨⟨hheld.session.trans hsession.symm, hregime.trans hheld.regime,
      .inr (hsame.trans hactive)⟩, hsame.trans hactive⟩
  cases hsampled with
  | quiet hsame => exact .inr (hkeep hsame.active hsame.sessionId hsame.regime)
  | advance hneutral hevent hsame =>
    exact .inr (hkeep hsame.active hsame.sessionId hsame.regime)
  | first hfirst hevent hstage hpending hid hsession hregime hsame hindex =>
    exact .inr (hkeep hsame.active hsame.sessionId hsame.regime)
  | later hevent hstage hisSome hsame =>
    exact .inr (hkeep hsame.active hsame.sessionId hsame.regime)
  | transition hevent hpending hnone hsession hregime hnamed =>
    refine .inl ⟨_, rfl, hnamed.trans ?_⟩
    rw [hactive, Option.filter_some, if_pos]
    simp [h.named _ hactive]

theorem expire_kept (h : Paired s) (hbacked : Backed evs acked s) :
    Paired (s.expirePending policy at_) ∧ Backed evs acked (s.expirePending policy at_) := by
  rcases expirePending_spec h with hsame | ⟨reason, hsame⟩
  · rw [hsame]
    exact ⟨h, hbacked⟩
  · rw [hsame]
    exact ⟨h.emptied reason, hbacked.emptied reason⟩

theorem expire_held (h : Paired s) (hheld : Held milestone acked s)
    (hactive : s.activeDirectionalAdvisoryId = some milestone.advisoryId) :
    Held milestone acked (s.expirePending policy at_) := by
  rcases expirePending_spec h with hsame | ⟨reason, hsame⟩
  · rw [hsame]
    exact hheld
  · rw [hsame]
    exact hheld.emptied (h.no_entry (by rw [hactive]; rfl)) reason

/-! ### The acknowledgement -/

theorem acknowledge_kept (h : Paired s) (hbacked : Backed evs acked s)
    (hpending : s.pendingEvent = some event) (hknown : event.eventId ∈ acked) :
    Paired (s.acknowledgePending event.eventId at_) ∧
      Backed evs acked (s.acknowledgePending event.eventId at_) := by
  have hspec : Acknowledged s at_ (s.acknowledgePending event.eventId at_) :=
    acknowledgePending_spec h hpending
  generalize s.acknowledgePending event.eventId at_ = t at hspec
  cases hspec with
  | entry hentry =>
    obtain rfl := Option.some.inj (hpending.symm.trans hentry.hpending)
    exact ⟨h.activate hentry at_, hbacked.activate hentry hknown at_⟩
  | other hnone => exact ⟨h.emptied _, hbacked.emptied _⟩

theorem acknowledge_held (h : Paired s) (hpending : s.pendingEvent = some event)
    (hheld : Held milestone acked s) :
    Held milestone acked (s.acknowledgePending event.eventId at_) := by
  have hspec : Acknowledged s at_ (s.acknowledgePending event.eventId at_) :=
    acknowledgePending_spec h hpending
  generalize s.acknowledgePending event.eventId at_ = t at hspec
  cases hspec with
  | entry hentry => exact hheld.activate h hentry at_
  | other hnone => exact hheld.emptied (hnone milestone) _

/-! ### Runs -/

variable {service : ServiceState} {sessionId : Text} {acceptedAt : Instant}

theorem ServiceInv.start (sessionId : Text) (acked : List Text) :
    ServiceInv [] (ServiceState.start sessionId acked) where
  advised := Paired.initial sessionId
  backed :=
    { pending := fun event hevent => absurd hevent.symm (Option.some_ne_none event)
      active := nofun }
  hand event hevent := absurd hevent.symm (Option.some_ne_none event)
  answered event hevent := absurd hevent.symm (Option.some_ne_none event)

section

variable (h : ServiceInv evs service)

include h

theorem cycle_kept : ServiceInv (evs ++ [(input, (service.cycle policy sessionId now allowed).1)])
      (service.cycle policy sessionId now allowed).2 := by
  obtain ⟨hadvised, hbacked⟩ := reconcile_kept h.advised h.backed
  have hsampled := advanceTrendState_sampled policy
    (service.trend.reconcileAcknowledgedAdvisory service.acked now.at_) sessionId now allowed
  have hnamed : Backed (evs ++ [(input, (service.cycle policy sessionId now allowed).1)])
      service.acked _ := (hbacked.inSession sessionId).sampled hsampled rfl
  obtain ⟨hadvised, hbacked⟩ := expire_kept (hsampled.paired (hadvised.inSession sessionId)) hnamed
  exact
    { advised := hadvised
      backed := hbacked
      hand := fun _ hevent => ⟨hevent, rfl⟩
      answered := fun event hevent => absurd hevent.symm (Option.some_ne_none event) }

theorem ServiceInv.step (input : ServiceInput) :
    ServiceInv (evs ++ [(input, (serviceStep policy service input).1)])
      (serviceStep policy service input).2 := by
  have hgrow : ∀ ev : ServiceInput × ServiceAnswer, emitted evs ⊆ emitted (evs ++ [ev]) := by
    intro ev
    rw [emitted_append]
    simp
  have hbacked : ∀ {ev acked}, service.acked ⊆ acked → Backed (evs ++ [ev]) acked service.trend :=
    fun hacked => h.backed.mono (hgrow _) hacked
  cases input with
  | cycle sessionId now allowed => exact cycle_kept h
  | notify acknowledged =>
    unfold serviceStep
    dsimp only
    split
    · exact ⟨h.advised, hbacked (List.Subset.refl _), h.hand, h.answered⟩
    · rename_i event hevent
      split
      · have hsub := subset_cons_self event.eventId service.acked
        refine ⟨h.advised, hbacked hsub, fun other hother => ?_, fun other hother => ?_⟩
        · exact absurd hother.symm (Option.some_ne_none other)
        · obtain rfl := Option.some.inj hother
          exact ⟨(h.hand _ hevent).1, mem_cons_self⟩
      · refine ⟨h.advised, hbacked (List.Subset.refl _), fun other hother => ?_, h.answered⟩
        exact absurd hother.symm (Option.some_ne_none other)
  | acknowledge acceptedAt =>
    unfold serviceStep
    dsimp only
    split
    · exact ⟨h.advised, hbacked (List.Subset.refl _), h.hand, h.answered⟩
    · rename_i event hevent
      obtain ⟨hpending, hknown⟩ := h.answered event hevent
      obtain ⟨hadvised, hkept⟩ := acknowledge_kept h.advised
        (hbacked (List.Subset.refl _)) hpending hknown
      refine ⟨hadvised, hkept, fun other hother => ?_, fun other hother => ?_⟩
      · have hnone := (h.hand other hother).2
        rw [hevent] at hnone
        cases hnone
      · exact absurd hother.symm (Option.some_ne_none other)
  | stop =>
    refine ⟨h.advised, hbacked (List.Subset.refl _), fun event hevent => ?_,
      fun event hevent => ?_⟩
    · exact absurd hevent.symm (Option.some_ne_none event)
    · exact absurd hevent.symm (Option.some_ne_none event)

omit h in
/-- An acknowledged entry advisory after some more steps: named by a transition, or held. -/
def Followed (milestone : MilestoneEvent) (middle : ServiceLog) (service : ServiceState) : Prop :=
  Carried milestone.advisoryId middle ∨ Held milestone service.acked service.trend

theorem Followed.cycle {middle : ServiceLog}
    (hheld : Held milestone service.acked service.trend)
    (hsession : sessionId = milestone.sessionId) :
    Followed milestone (middle ++ [(input, (service.cycle policy sessionId now allowed).1)])
      (service.cycle policy sessionId now allowed).2 := by
  obtain ⟨hheld, hactive⟩ := reconcile_held h.advised hheld
  have hadvised : Paired (service.trend.reconcileAcknowledgedAdvisory service.acked now.at_) :=
    (reconcile_kept h.advised h.backed).1
  have hsampled := advanceTrendState_sampled policy
    (service.trend.reconcileAcknowledgedAdvisory service.acked now.at_) sessionId now allowed
  rw [inSession_same (hheld.session.symm.trans hsession.symm)] at hsampled
  rcases hsampled.held hadvised hheld hactive with ⟨transition, hevent, hnamed⟩ | ⟨hkept, hactive⟩
  · exact .inl ⟨transition, mem_emitted_snoc hevent, hnamed⟩
  · exact .inr (expire_held (hsampled.paired hadvised) hkept hactive)

theorem Followed.step {middle : ServiceLog}
    (hfollowed : Followed milestone middle service) (input : ServiceInput)
    (hwithin : input.within milestone.sessionId) :
    Followed milestone (middle ++ [(input, (serviceStep policy service input).1)])
      (serviceStep policy service input).2 := by
  rcases hfollowed with hcarried | hheld
  · exact .inl (hcarried.snoc _)
  · cases input with
    | cycle sessionId now allowed => exact Followed.cycle h hheld hwithin
    | notify acknowledged =>
      refine .inr ?_
      unfold serviceStep
      dsimp only
      split
      · exact hheld
      · split
        · exact hheld.mono (subset_cons_self _ _)
        · exact hheld
    | acknowledge acceptedAt =>
      refine .inr ?_
      unfold serviceStep
      dsimp only
      split
      · exact hheld
      · rename_i event hevent
        exact acknowledge_held h.advised (h.answered event hevent).1 hheld
    | stop => exact .inr hheld

theorem Followed.begin (hno : NoAdvance service input)
    (hinput : input = .notify true)
    (hanswer : (serviceStep policy service input).1.acknowledged = some event)
    (henters : Enters event milestone) :
    Followed milestone [] (serviceStep policy service input).2 := by
  subst hinput
  unfold serviceStep at hanswer ⊢
  dsimp only at hanswer ⊢
  cases hhand : service.hand with
  | none =>
    rw [hhand] at hanswer
    cases hanswer
  | some found =>
    rw [hhand] at hanswer
    obtain rfl := Option.some.inj hanswer
    have hpending := (h.hand _ hhand).1
    rcases henters.hevent with rfl | rfl
    · unfold NoAdvance at hno
      rw [hhand] at hno
      cases hno
    · have hentry : PendingEntry service.trend milestone := ⟨hpending, henters.hstage⟩
      obtain ⟨-, -, hsession, hregime⟩ := h.advised.entry milestone hentry
      exact .inr ⟨hsession, hregime, .inl ⟨hentry, mem_cons_self⟩⟩

end

/-- What a run keeps of every advisory that was acknowledged in it. -/
structure ServiceRun (evs : ServiceLog) (service : ServiceState) : Prop where
  inv : ServiceInv evs service
  followed : ∀ past middle answer event milestone,
    evs = past ++ (.notify true, answer) :: middle → answer.acknowledged = some event →
    Enters event milestone → (∀ ev ∈ middle, ev.1.within milestone.sessionId) →
    Followed milestone middle service

theorem serviceRun
    (hrun : Run (serviceStep policy) NoAdvance (ServiceState.start sessionId acked) evs service) :
    ServiceRun evs service := by
  refine hrun.invariant_log ?_ ?_
  · exact ⟨ServiceInv.start sessionId acked, fun past middle answer event milestone hevs => by
      simp at hevs⟩
  · intro evs service input h hno
    refine ⟨h.inv.step input,
      fun past middle answer event milestone hevs hanswer henters hwithin => ?_⟩
    rcases Run.snoc_split hevs with ⟨-, hlast, rfl⟩ | ⟨front, rfl, rfl⟩
    · -- the acknowledgement is the step just taken
      obtain ⟨hinput, rfl⟩ := Prod.mk.inj hlast.symm
      exact Followed.begin h.inv hno hinput hanswer henters
    · exact (h.followed past front answer event milestone rfl hanswer henters fun ev hev =>
        hwithin ev (mem_append_left _ hev)).step h.inv input
          (hwithin _ (mem_append_right _ (mem_singleton.mpr rfl)))

theorem expirePending_regime (s : TrendState) : (s.expirePending policy at_).regime = s.regime := by
  unfold TrendState.expirePending
  split
  · rfl
  · split
    · unfold TrendState.expirePendingAdvisory
      split
      · rfl
      · rfl
    · rfl

theorem Sampled.transition_regime {transition : TransitionEvent} (hsampled : Sampled s result)
    (hevent : result.2 = some (.transition transition)) :
    result.1.regime = transition.toRegime := by
  cases hsampled with
  | quiet => cases hevent
  | advance => cases hevent
  | first => cases hevent
  | later => cases hevent
  | transition _ _ _ _ hregime =>
    obtain rfl := TrendEvent.transition.inj (Option.some.inj hevent)
    exact hregime

theorem transition_regime {transition : TransitionEvent}
    (hevent : (serviceStep policy service input).1.emitted = some (.transition transition)) :
    (serviceStep policy service input).2.trend.regime = transition.toRegime := by
  cases input with
  | cycle sessionId now allowed =>
    have hsampled := advanceTrendState_sampled policy
      (service.trend.reconcileAcknowledgedAdvisory service.acked now.at_) sessionId now allowed
    exact (expirePending_regime _).trans (hsampled.transition_regime hevent)
  | notify acknowledged =>
    unfold serviceStep at hevent
    dsimp only at hevent
    split at hevent
    · cases hevent
    · split at hevent
      · cases hevent
      · cases hevent
  | acknowledge acceptedAt =>
    unfold serviceStep at hevent
    dsimp only at hevent
    split at hevent
    · cases hevent
    · cases hevent
  | stop => cases hevent

theorem opposite_regime (direction : Direction) : direction.opposite.regime ≠ direction.regime := by
  cases direction <;> decide

/-- **Advisories are tracked to their end**, in every run in which the notifier acknowledges no
advance. -/
theorem advisories_tracked (policy : GlobexTrendSettings) {sessionId : Text} {acked : List Text}
    {evs : ServiceLog} {service : ServiceState}
    (hrun : Run (serviceStep policy) NoAdvance (ServiceState.start sessionId acked) evs service) :
    Tracked evs service := by
  refine ⟨fun id hid => ?_, ?_⟩
  · obtain ⟨milestone, hmem, hstage, hadvisory, hknown⟩ :=
      (serviceRun hrun).inv.backed.active id hid
    exact ⟨.continuation milestone, milestone, hmem, ⟨.inr rfl, hstage⟩, hadvisory, hknown⟩
  · intro past middle rest input answer event milestone transition hevs henters hwithin hemitted
      hopposite
    rw [← cons_append, ← append_assoc] at hevs
    rw [hevs] at hrun
    obtain ⟨before, hbefore, -, rfl⟩ := hrun.split
    have hkept := serviceRun hbefore
    have hfollowed := hkept.followed past middle _ event milestone rfl rfl henters fun ev hev =>
      hwithin ev (mem_append_left _ hev)
    have hafter : Followed milestone (middle ++ [(input, (serviceStep policy before input).1)]) _ :=
      hfollowed.step hkept.inv input
        (hwithin _ (mem_append_right _ (mem_singleton.mpr rfl)))
    rcases hafter with hcarried | hheld
    · exact hcarried
    · have hregime := (transition_regime hemitted).symm.trans hheld.regime
      rw [hopposite] at hregime
      exact absurd hregime (opposite_regime milestone.direction)

end Runs

/-! ## Two sessions -/

def cycleAt (minute : Int) (price : ℚ) : ServiceInput :=
  .cycle "2026-03-02:gth".toList
    ⟨minute * 60000000, natText minute.toNat, price, "ibkr".toList⟩ true

def firstStart : ServiceState := .start "2026-03-02:gth".toList []

/-- The advisories that transitions name. -/
def TrendEvent.names : TrendEvent → Option (GlobexTrendRegime × Option Text)
  | .transition event => some (event.toRegime, event.invalidatedAdvisoryId)
  | _ => none

/-- A continuation that is acknowledged, and a reversal. -/
def continuedInputs : List ServiceInput :=
  [cycleAt 0 100, cycleAt 15 104, cycleAt 16 (209 / 2), cycleAt 17 115, cycleAt 18 115,
    .notify true, .acknowledge (18 * 60000000), cycleAt 33 104, cycleAt 34 (207 / 2)]

theorem continued_named : Allowed (serviceStep {}) NoAdvance firstStart continuedInputs ∧
    (emitted (play (serviceStep {}) firstStart continuedInputs).1).filterMap TrendEvent.names =
      [(.bullish, none), (.bearish, some "gth-advisory:2026-03-02:gth:1:up".toList)] := by
  decide +kernel

theorem advisories_tracked_continued :
    (emitted (play (serviceStep {}) firstStart continuedInputs).1).filterMap TrendEvent.names =
      [(.bullish, none), (.bearish, some "gth-advisory:2026-03-02:gth:1:up".toList)] ∧
    Tracked (play (serviceStep {}) firstStart continuedInputs).1
      (play (serviceStep {}) firstStart continuedInputs).2 :=
  ⟨continued_named.2, advisories_tracked {} (Run.play continued_named.1)⟩

/-- An advance at the high of the session, handed to the notifier. -/
def advancedInputs : List ServiceInput :=
  [cycleAt 0 100, cycleAt 30 92, cycleAt 45 101, cycleAt 60 (205 / 2), cycleAt 61 103]

def advancedState : ServiceState := (play (serviceStep {}) firstStart advancedInputs).2

def acknowledgedState : ServiceState := (serviceStep {} advancedState (.notify true)).2

def fallingInputs : List ServiceInput := [.acknowledge (61 * 60000000), cycleAt 62 90]

/-- The direction and the session of an advance that enters. -/
def TrendEvent.entersAs : TrendEvent → Option (Direction × Text)
  | .advance event =>
    if event.signalStage = .entryAdvisory then some (event.direction, event.sessionId) else none
  | _ => none

theorem exists_of_entersAs {event : Option TrendEvent} {direction : Direction} {sessionId : Text}
    (h : event.bind TrendEvent.entersAs = some (direction, sessionId)) :
    ∃ milestone, event = some (.advance milestone) ∧ milestone.signalStage = .entryAdvisory ∧
      milestone.direction = direction ∧ milestone.sessionId = sessionId := by
  obtain ⟨event, rfl, henters⟩ := Option.bind_eq_some_iff.mp h
  cases event with
  | advance milestone =>
    unfold TrendEvent.entersAs at henters
    dsimp only at henters
    split at henters
    · rename_i hstage
      obtain ⟨hdirection, hsession⟩ := Prod.mk.inj (Option.some.inj henters)
      exact ⟨milestone, rfl, hstage, hdirection, hsession⟩
    · cases henters
  | transition event => cases henters
  | continuation event => cases henters

theorem advanced_hand : advancedState.hand.bind TrendEvent.entersAs =
    some (.up, "2026-03-02:gth".toList) := by
  decide +kernel

theorem fallen_names : (serviceStep {} (play (serviceStep {}) acknowledgedState fallingInputs).2
      (cycleAt 63 90)).1.emitted.bind TrendEvent.names = some (.bearish, none) ∧
    (emitted (play (serviceStep {}) acknowledgedState
      (fallingInputs ++ [cycleAt 63 90])).1).filterMap TrendEvent.names = [(.bearish, none)] := by
  decide +kernel

theorem exists_of_names {event : Option TrendEvent} {regime : GlobexTrendRegime}
    {named : Option Text} (h : event.bind TrendEvent.names = some (regime, named)) :
    ∃ transition, event = some (.transition transition) ∧ transition.toRegime = regime := by
  obtain ⟨event, rfl, hnames⟩ := Option.bind_eq_some_iff.mp h
  cases event with
  | transition transition =>
    exact ⟨transition, rfl, (Prod.mk.inj (Option.some.inj hnames)).1⟩
  | advance milestone => cases hnames
  | continuation milestone => cases hnames

/-- Not every advisory is tracked: an advance upward is acknowledged, the regime becomes bearish,
and the transition names nothing. -/
theorem advance_not_tracked : ¬ ∀ (policy : GlobexTrendSettings) (sessionId : Text)
    (acked : List Text) (evs : ServiceLog) (service : ServiceState),
    Run (serviceStep policy) anyStep (ServiceState.start sessionId acked) evs service →
      Tracked evs service := by
  intro h
  obtain ⟨milestone, hhand, hstage, hdirection, hsession⟩ := exists_of_entersAs advanced_hand
  obtain ⟨transition, hemitted, hregime⟩ := exists_of_names fallen_names.1
  have hrun := run_play (serviceStep {})
    (advancedInputs ++ .notify true :: (fallingInputs ++ [cycleAt 63 90])) firstStart
  have htracked := h {} _ _ _ _ hrun
  have hanswer : (serviceStep {} advancedState (.notify true)).1 =
      { acknowledged := some (.advance milestone) } := by
    unfold serviceStep
    dsimp only
    rw [hhand]
    rfl
  have hlog : (play (serviceStep {}) firstStart
      (advancedInputs ++ .notify true :: (fallingInputs ++ [cycleAt 63 90]))).1 =
      (play (serviceStep {}) firstStart advancedInputs).1 ++
        (.notify true, { acknowledged := some (.advance milestone) }) ::
          ((play (serviceStep {}) acknowledgedState fallingInputs).1 ++
            [(cycleAt 63 90, (serviceStep {} (play (serviceStep {}) acknowledgedState
              fallingInputs).2 (cycleAt 63 90)).1)]) := by
    rw [play_append, ← play_snoc, ← hanswer]
    rfl
  have hcarried := htracked.ended _ _ [] _ _ _ milestone transition hlog ⟨.inl rfl, hstage⟩ (by
    rw [← play_snoc, hsession]
    intro ev hev
    rcases mem_cons.mp hev with rfl | hev
    · trivial
    rcases mem_cons.mp hev with rfl | hev
    · rfl
    rcases mem_cons.mp hev with rfl | hev
    · rfl
    · cases hev) hemitted (by rw [hregime, hdirection]; rfl)
  rw [← play_snoc] at hcarried
  obtain ⟨named, hmem, hnamed⟩ := hcarried
  have hnames : TrendEvent.names (.transition named) =
      some (named.toRegime, some milestone.advisoryId) := by
    rw [← hnamed]
    rfl
  have hin := mem_filterMap.mpr ⟨_, hmem, hnames⟩
  rw [fallen_names.2, mem_singleton] at hin
  cases (Prod.mk.inj hin).2

end SpxSpark.GlobexTrend
