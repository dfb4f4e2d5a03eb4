import SpxSpark.GlobexTrend.Decisions
import SpxSpark.GlobexTrend.EventIds
import SpxSpark.Lib.Hysteresis
import SpxSpark.Lib.Run

/-!
# TrendRuns — the events of a session, and the samples they rest on

A run is the samples of a session and what the service does in between: it acknowledges an advisory,
or lets one expire. Each sample that is taken leaves a reading.
-/

namespace SpxSpark.GlobexTrend

open Lib List

variable {policy : GlobexTrendSettings} {session : Text} {s : TrendState}

/-! ## Readings -/

/-- What a sample that is taken says, in the state it is taken in. -/
structure Reading where
  target : Option GlobexTrendRegime
  metrics : Metrics
  allowed : Bool
  regime : GlobexTrendRegime
  anchor : Option ℚ

def TrendState.reading (state : TrendState) (policy : GlobexTrendSettings) (now : Sample)
    (allowed : Bool) : Reading where
  target := (state.target policy now).map (·.1)
  metrics := state.measure policy now
  allowed := allowed
  regime := state.regime
  anchor := state.lastTransition.map (·.price)

def Reading.targets (regime : GlobexTrendRegime) (reading : Reading) : Bool :=
  reading.target = some regime

/-- The price holds at the extreme of the session that lies in a direction. -/
def holds (policy : GlobexTrendSettings) (metrics : Metrics) : Direction → Bool
  | .up => upOk policy metrics
  | .down => downOk policy metrics

/-- With the gate open, the price holds in the direction and is far enough for the milestone. -/
def Reading.meetsAdvance (policy : GlobexTrendSettings) (direction : Direction) (milestone : Nat)
    (reading : Reading) : Bool :=
  reading.allowed && holds policy reading.metrics direction &&
    policy.continuationStepPoints * milestone ≤ advanceExtension reading.metrics direction

/-- With the gate open, the regime has the direction, and the price has moved on from its anchor far
enough for the milestone. -/
def Reading.meetsContinuation (policy : GlobexTrendSettings) (direction : Direction)
    (milestone : Nat) (reading : Reading) : Bool :=
  reading.allowed && regimeDirection reading.regime = some direction &&
    reading.anchor.any fun anchor =>
      policy.continuationStepPoints * milestone ≤
        signedExtension anchor reading.metrics.price direction

/-! ## Runs -/

inductive TrendInput
  | observe (now : Sample) (allowed : Bool)
  | reconcile (acknowledged : List Text) (at_ : Instant)
  | expire (at_ : Instant)
  | acknowledge (eventId : Text) (at_ : Instant)

/-- The reading of a sample that is taken, and the event it led to. -/
structure Answer where
  reading : Option Reading := none
  event : Option TrendEvent := none

def trendStep (policy : GlobexTrendSettings) (s : TrendState) : TrendInput → Answer × TrendState
  | .observe now allowed =>
    let result := advanceTrendState policy s s.sessionId now allowed
    ({ reading := if s.accepts policy now then some (s.reading policy now allowed) else none
       event := result.2 }, result.1)
  | .reconcile acknowledged at_ => ({}, s.reconcileAcknowledgedAdvisory acknowledged at_)
  | .expire at_ => ({}, s.expirePending policy at_)
  | .acknowledge eventId at_ => ({}, s.acknowledgePending eventId at_)

abbrev Log := List (TrendInput × Answer)

def readings (evs : Log) : List Reading := evs.filterMap (·.2.reading)

def events (evs : Log) : List TrendEvent := evs.filterMap (·.2.event)

variable {evs : Log}

/-- What a call other than an observation may change. -/
inductive Served (s : TrendState) : TrendState → Prop
  | mk {pending : Option TrendEvent} {pendingId activeId : Option Text}
      {acceptedAt : Option Instant} {reason : Option SuppressedReason}
      (hpending : pendingId = s.pendingDirectionalAdvisoryId ∨ pendingId = none)
      (hactive : activeId = s.activeDirectionalAdvisoryId ∨
        activeId = s.pendingDirectionalAdvisoryId) :
      Served s { s with
        pendingEvent := pending
        pendingDirectionalAdvisoryId := pendingId
        activeDirectionalAdvisoryId := activeId
        activeDirectionalAdvisoryAcceptedAt := acceptedAt
        continuationSuppressedReason := reason }

theorem served_refl : Served s s := .mk (.inl rfl) (.inl rfl)

theorem served_acknowledge (event : TrendEvent) (at_ : Instant) :
    Served s (s.acknowledgeAdvisoryDelivery event at_) := by
  have hmilestone : ∀ event : MilestoneEvent, Served s
      (if event.signalStage ≠ .entryAdvisory then s
        else if event.advisoryId ≠ [] ∧
            s.pendingDirectionalAdvisoryId = some event.advisoryId then
          { s with
            pendingDirectionalAdvisoryId := none
            activeDirectionalAdvisoryId := some event.advisoryId
            activeDirectionalAdvisoryAcceptedAt := some at_ }
        else s) := by
    intro event
    split
    · exact served_refl
    split
    · rename_i hid
      exact .mk (.inr rfl) (.inr hid.2.symm)
    · exact served_refl
  cases event with
  | transition event => exact served_refl
  | advance event => exact hmilestone event
  | continuation event => exact hmilestone event

variable {t : TrendState}

theorem Served.clearPending (h : Served s t) : Served s { t with pendingEvent := none } := by
  cases h with
  | mk hpending hactive => exact .mk hpending hactive

/-- What one input does. -/
inductive Step (policy : GlobexTrendSettings) (s : TrendState) :
    TrendInput → Answer × TrendState → Prop
  | decides {now : Sample} {allowed : Bool} {result : TrendState × Option TrendEvent}
      (haccepts : s.accepts policy now = true)
      (hdecision : Decision policy s now allowed result) :
      Step policy s (.observe now allowed)
        (⟨some (s.reading policy now allowed), result.2⟩, result.1)
  | ignores {now : Sample} {allowed : Bool} :
      Step policy s (.observe now allowed) ({}, { s with updatedAt := some now.at_ })
  | serves {i : TrendInput} {t : TrendState} (hserved : Served s t) : Step policy s i ({}, t)

theorem trendStep_spec (policy : GlobexTrendSettings) (s : TrendState) (i : TrendInput) :
    Step policy s i (trendStep policy s i) := by
  cases i with
  | observe now allowed =>
    unfold trendStep advanceTrendState
    dsimp only
    rw [if_pos rfl]
    by_cases haccepts : s.accepts policy now = true
    · rw [if_pos haccepts, if_pos haccepts]
      exact .decides haccepts decideSample_decision
    · rw [if_neg haccepts, if_neg haccepts]
      exact .ignores
  | reconcile acknowledged at_ =>
    refine .serves ?_
    unfold TrendState.reconcileAcknowledgedAdvisory
    split
    · exact served_refl
    split
    · dsimp only
      split
      · exact (served_acknowledge _ _).clearPending
      · exact served_acknowledge _ _
    · exact served_refl
  | expire at_ =>
    refine .serves ?_
    unfold TrendState.expirePending
    split
    · exact served_refl
    split
    · refine Served.clearPending ?_
      unfold TrendState.expirePendingAdvisory
      split
      · exact .mk (.inr rfl) (.inl rfl)
      · exact served_refl
    · exact served_refl
  | acknowledge eventId at_ =>
    refine .serves ?_
    unfold TrendState.acknowledgePending
    split
    · exact served_refl
    split
    · exact (served_acknowledge _ _).clearPending
    · exact served_refl

/-! ## Counters count readings -/

theorem readings_snoc_some (evs : Log) (i : TrendInput) (reading : Reading)
    (event : Option TrendEvent) :
    readings (evs ++ [(i, ⟨some reading, event⟩)]) = readings evs ++ [reading] := by
  unfold readings
  rw [filterMap_append]
  rfl

theorem readings_snoc_none (evs : Log) (i : TrendInput) (event : Option TrendEvent) :
    readings (evs ++ [(i, ⟨none, event⟩)]) = readings evs := by
  unfold readings
  rw [filterMap_append]
  exact append_nil _

theorem count_le_trailingRun {p : Reading → Bool} {rs : List Reading} {reading : Reading}
    {candidate : Option Nat} {observations milestone : Nat} (hreading : p reading = true)
    (h : candidate = some milestone → observations ≤ trailingRun p rs) :
    countObservation candidate observations milestone ≤ trailingRun p (rs ++ [reading]) := by
  rw [trailingRun_snoc, if_pos hreading]
  unfold countObservation
  split
  · rename_i hsame
    exact Nat.succ_le_succ (h hsame)
  · omega

/-- The regime that is a candidate was targeted by as many readings. -/
def TargetCounted (evs : Log) (s : TrendState) : Prop :=
  ∀ target, s.candidateRegime = some target →
    s.candidateObservations ≤ trailingRun (Reading.targets target) (readings evs)

/-- The continuation that is a candidate was met by as many readings. -/
def ContinuationCounted (policy : GlobexTrendSettings) (evs : Log) (s : TrendState) : Prop :=
  ∀ milestone, s.continuationCandidateIndex = some milestone →
    ∃ direction, regimeDirection s.regime = some direction ∧
      s.continuationCandidateObservations ≤
        trailingRun (Reading.meetsContinuation policy direction milestone) (readings evs)

/-- The advance that is a candidate was met, in the direction of the last metrics, by as many
readings. There is none in a regime. -/
def AdvanceCounted (policy : GlobexTrendSettings) (evs : Log) (s : TrendState) : Prop :=
  ∀ milestone, s.advanceCandidateIndex = some milestone → s.regime = .neutral ∧
    ∃ direction, s.metrics.bind (advanceDirection policy) = some direction ∧
      s.advanceCandidateObservations ≤
        trailingRun (Reading.meetsAdvance policy direction milestone) (readings evs)

section Counters

variable {now : Sample} {allowed : Bool} {reason : TransitionReason} {target : GlobexTrendRegime}
  {direction : Direction} {milestone : Nat} {transition : TransitionEvent}

theorem countTarget_le (h : TargetCounted evs s)
    (htarget : s.target policy now = some (target, reason)) :
    ((s.take policy now).countTarget target).candidateObservations ≤
      trailingRun (Reading.targets target) (readings evs ++ [s.reading policy now allowed]) := by
  have hreading : (s.reading policy now allowed).targets target = true := by
    unfold Reading.targets TrendState.reading
    dsimp only
    rw [htarget]
    exact decide_eq_true rfl
  rw [trailingRun_snoc, if_pos hreading]
  show (if s.candidateRegime = some target then s.candidateObservations + 1 else 1) ≤ _
  split
  · rename_i hsame
    exact Nat.succ_le_succ (h target hsame)
  · omega

theorem MeetsContinuation.regime
    (h : MeetsContinuation policy s now allowed transition direction milestone) :
    s.regime ≠ .neutral := by
  intro hregime
  have hdirection := h.hdirection
  rw [hregime] at hdirection
  cases hdirection

theorem MeetsContinuation.reading
    (h : MeetsContinuation policy s now allowed transition direction milestone) :
    (s.reading policy now allowed).meetsContinuation policy direction milestone = true := by
  unfold Reading.meetsContinuation TrendState.reading
  dsimp only
  rw [h.htransition, h.hgate, h.hdirection, decide_eq_true (rfl : some direction = some direction)]
  exact decide_eq_true h.hextension

theorem countContinuation_le (h : ContinuationCounted policy evs s)
    (hmeets : MeetsContinuation policy s now allowed transition direction milestone) :
    ((s.settled policy now).countContinuation now milestone).continuationCandidateObservations ≤
      trailingRun (Reading.meetsContinuation policy direction milestone)
        (readings evs ++ [s.reading policy now allowed]) := by
  refine count_le_trailingRun hmeets.reading fun hcandidate => ?_
  obtain ⟨found, hfound, hcount⟩ := h milestone hcandidate
  rw [hmeets.hdirection] at hfound
  rw [Option.some.inj hfound]
  exact hcount

theorem holds_of_advanceDirection {metrics : Metrics}
    (h : advanceDirection policy metrics = some direction) :
    holds policy metrics direction = true := by
  unfold advanceDirection at h
  split at h
  · rename_i hup
    cases h
    exact hup
  split at h
  · rename_i hdown
    cases h
    exact hdown
  · cases h

theorem MeetsAdvance.reading
    (h : MeetsAdvance policy (s.measure policy now) allowed direction milestone) :
    (s.reading policy now allowed).meetsAdvance policy direction milestone = true := by
  unfold Reading.meetsAdvance TrendState.reading
  dsimp only
  rw [h.hgate, holds_of_advanceDirection h.hdirection]
  exact decide_eq_true h.hextension

end Counters

/-- While an advance is being counted, a sample that is taken targets no regime, and if it holds at
an extreme, it is the one that the last sample held at. -/
def Steady (policy : GlobexTrendSettings) (s : TrendState) : TrendInput → Prop
  | .observe now _ => s.advanceCandidateIndex.isSome = true → s.accepts policy now = true →
      s.target policy now = none ∧
        (advanceDirection policy (s.measure policy now) = none ∨
          advanceDirection policy (s.measure policy now) = s.metrics.bind (advanceDirection policy))
  | _ => True

instance (i : TrendInput) : Decidable (Steady policy s i) :=
  match i with
  | .observe now _ => inferInstanceAs (Decidable (s.advanceCandidateIndex.isSome = true →
      s.accepts policy now = true → s.target policy now = none ∧
        (advanceDirection policy (s.measure policy now) = none ∨
          advanceDirection policy (s.measure policy now) =
            s.metrics.bind (advanceDirection policy))))
  | .reconcile _ _ => .isTrue trivial
  | .expire _ => .isTrue trivial
  | .acknowledge _ _ => .isTrue trivial

theorem Steady.target_none {now : Sample} {allowed : Bool} {milestone : Nat}
    (h : Steady policy s (.observe now allowed))
    (hcandidate : s.advanceCandidateIndex = some milestone)
    (haccepts : s.accepts policy now = true) : s.target policy now = none :=
  (h (by rw [hcandidate]; rfl) haccepts).1

theorem countAdvance_le {now : Sample} {allowed : Bool} {direction : Direction} {milestone : Nat}
    (h : AdvanceCounted policy evs s) (hsteady : Steady policy s (.observe now allowed))
    (haccepts : s.accepts policy now = true)
    (hmeets : MeetsAdvance policy (s.measure policy now) allowed direction milestone) :
    ((s.settled policy now).countAdvance milestone).advanceCandidateObservations ≤
      trailingRun (Reading.meetsAdvance policy direction milestone)
        (readings evs ++ [s.reading policy now allowed]) := by
  refine count_le_trailingRun hmeets.reading fun hcandidate => ?_
  have hcandidate : s.advanceCandidateIndex = some milestone := hcandidate
  obtain ⟨_, found, hfound, hcount⟩ := h milestone hcandidate
  have hsteady := (hsteady (by rw [hcandidate]; rfl) haccepts).2
  rw [hmeets.hdirection, hfound] at hsteady
  rcases hsteady with hnone | hsame
  · cases hnone
  · rw [Option.some.inj hsame]
    exact hcount

/-! ## What one input keeps -/

theorem TargetCounted.keeps (h : TargetCounted evs s) (i : TrendInput) :
    TargetCounted (evs ++ [(i, (trendStep policy s i).1)]) (trendStep policy s i).2 := by
  have hstep := trendStep_spec policy s i
  generalize trendStep policy s i = result at hstep
  cases hstep with
  | decides haccepts hdecision =>
    intro target htarget
    rw [readings_snoc_some]
    cases hdecision with
    | targets hfound =>
      obtain rfl := Option.some.inj htarget
      exact countTarget_le h hfound
    | switches hfound hcount => cases htarget
    | dropsAdvance => cases htarget
    | countsAdvance => cases htarget
    | emitsAdvance => cases htarget
    | dropsContinuation => cases htarget
    | countsContinuation => cases htarget
    | emitsContinuation => cases htarget
  | ignores =>
    intro target htarget
    rw [readings_snoc_none]
    exact h target htarget
  | serves hserved =>
    cases hserved with
    | mk =>
      intro target htarget
      rw [readings_snoc_none]
      exact h target htarget

theorem ContinuationCounted.regime (h : ContinuationCounted policy evs s) {milestone : Nat}
    (hcandidate : s.continuationCandidateIndex = some milestone) : s.regime ≠ .neutral := by
  intro hregime
  obtain ⟨direction, hdirection, _⟩ := h milestone hcandidate
  rw [hregime] at hdirection
  cases hdirection

theorem ContinuationCounted.keeps (h : ContinuationCounted policy evs s) (i : TrendInput) :
    ContinuationCounted policy (evs ++ [(i, (trendStep policy s i).1)])
      (trendStep policy s i).2 := by
  have hstep := trendStep_spec policy s i
  generalize trendStep policy s i = result at hstep
  cases hstep with
  | decides haccepts hdecision =>
    intro milestone hmilestone
    rw [readings_snoc_some]
    cases hdecision with
    | targets => cases hmilestone
    | switches => cases hmilestone
    | dropsAdvance _ hregime => exact absurd hregime (h.regime hmilestone)
    | countsAdvance _ hregime => exact absurd hregime (h.regime hmilestone)
    | emitsAdvance _ hregime => exact absurd hregime (h.regime hmilestone)
    | dropsContinuation => cases hmilestone
    | countsContinuation htarget hmeets =>
      obtain rfl := Option.some.inj hmilestone
      exact ⟨_, hmeets.hdirection, countContinuation_le h hmeets⟩
    | emitsContinuation => cases hmilestone
  | ignores =>
    intro milestone hmilestone
    rw [readings_snoc_none]
    exact h milestone hmilestone
  | serves hserved =>
    cases hserved with
    | mk =>
      intro milestone hmilestone
      rw [readings_snoc_none]
      exact h milestone hmilestone

variable {i : TrendInput}

theorem AdvanceCounted.keeps (h : AdvanceCounted policy evs s) (hsteady : Steady policy s i) :
    AdvanceCounted policy (evs ++ [(i, (trendStep policy s i).1)]) (trendStep policy s i).2 := by
  have hstep := trendStep_spec policy s i
  generalize trendStep policy s i = result at hstep
  cases hstep with
  | decides haccepts hdecision =>
    intro milestone hmilestone
    rw [readings_snoc_some]
    cases hdecision with
    | targets hfound =>
      rw [hsteady.target_none hmilestone haccepts] at hfound
      cases hfound
    | switches hfound =>
      rw [hsteady.target_none hmilestone haccepts] at hfound
      cases hfound
    | dropsAdvance => cases hmilestone
    | countsAdvance _ hregime hmeets =>
      obtain rfl := Option.some.inj hmilestone
      exact ⟨hregime, _, hmeets.hdirection, countAdvance_le h hsteady haccepts hmeets⟩
    | emitsAdvance => cases hmilestone
    | dropsContinuation _ hregime => exact absurd (h milestone hmilestone).1 hregime
    | countsContinuation _ hmeets => exact absurd (h milestone hmilestone).1 hmeets.regime
    | emitsContinuation _ hmeets => exact absurd (h milestone hmilestone).1 hmeets.regime
  | ignores =>
    intro milestone hmilestone
    rw [readings_snoc_none]
    exact h milestone hmilestone
  | serves hserved =>
    cases hserved with
    | mk =>
      intro milestone hmilestone
      rw [readings_snoc_none]
      exact h milestone hmilestone

/-! ## Budgets -/

theorem events_snoc_some (evs : Log) (i : TrendInput) (reading : Option Reading)
    (event : TrendEvent) :
    events (evs ++ [(i, ⟨reading, some event⟩)]) = events evs ++ [event] := by
  unfold events
  rw [filterMap_append]
  rfl

theorem events_snoc_none (evs : Log) (i : TrendInput) (reading : Option Reading) :
    events (evs ++ [(i, ⟨reading, none⟩)]) = events evs := by
  unfold events
  rw [filterMap_append]
  exact append_nil _

def TrendEvent.isAdvance : TrendEvent → Bool
  | .advance _ => true
  | _ => false

def TrendEvent.isContinuation : TrendEvent → Bool
  | .continuation _ => true
  | _ => false

/-- The state counts the events of the session, and no more than its budget. -/
structure Budgeted (policy : GlobexTrendSettings) (evs : Log) (s : TrendState) : Prop where
  migrated : s.continuationMigrationBudgetConsumed = false
  continuations : (events evs).countP TrendEvent.isContinuation = s.continuationEventsInContext
  continuationBudget : s.continuationEventsInContext ≤ policy.continuationSessionBudget
  advances : (events evs).countP TrendEvent.isAdvance = s.advanceEventsInSession
  advanceBudget : s.advanceEventsInSession ≤ policy.continuationSessionBudget

theorem Budgeted.keeps (h : Budgeted policy evs s) (i : TrendInput) :
    Budgeted policy (evs ++ [(i, (trendStep policy s i).1)]) (trendStep policy s i).2 := by
  have hstep := trendStep_spec policy s i
  generalize trendStep policy s i = result at hstep
  -- what is counted does not change where no advance and no continuation is emitted
  have hsame : ∀ {reading : Option Reading} {t : TrendState},
      t.continuationMigrationBudgetConsumed = s.continuationMigrationBudgetConsumed →
      t.continuationEventsInContext = s.continuationEventsInContext →
      t.advanceEventsInSession = s.advanceEventsInSession →
      Budgeted policy (evs ++ [(i, ⟨reading, none⟩)]) t := by
    intro reading t hmigrated hcontinuations hadvances
    constructor
    · rw [hmigrated]
      exact h.migrated
    · rw [events_snoc_none, hcontinuations]
      exact h.continuations
    · rw [hcontinuations]
      exact h.continuationBudget
    · rw [events_snoc_none, hadvances]
      exact h.advances
    · rw [hadvances]
      exact h.advanceBudget
  cases hstep with
  | decides haccepts hdecision =>
    cases hdecision with
    | targets => exact hsame rfl rfl rfl
    | switches =>
      unfold TrendState.switchRegime
      dsimp only
      have hcontext : (if s.continuationMigrationBudgetConsumed then 0
          else s.continuationEventsInContext) = s.continuationEventsInContext := by
        rw [h.migrated]
        rfl
      constructor
      · rfl
      · rw [events_snoc_some, countP_append]
        exact h.continuations.trans hcontext.symm
      · exact hcontext.trans_le h.continuationBudget
      · rw [events_snoc_some, countP_append]
        exact h.advances
      · exact h.advanceBudget
    | dropsAdvance => exact hsame rfl rfl rfl
    | countsAdvance => exact hsame rfl rfl rfl
    | emitsAdvance _ _ _ hbudget =>
      unfold TrendState.emitAdvance
      dsimp only
      constructor
      · exact h.migrated
      · rw [events_snoc_some, countP_append]
        exact h.continuations
      · exact h.continuationBudget
      · rw [events_snoc_some, countP_append, h.advances]
        rfl
      · exact hbudget
    | dropsContinuation => exact hsame rfl rfl rfl
    | countsContinuation => exact hsame rfl rfl rfl
    | emitsContinuation _ hmeets =>
      unfold TrendState.emitContinuation
      dsimp only
      constructor
      · exact h.migrated
      · rw [events_snoc_some, countP_append, h.continuations]
        rfl
      · exact hmeets.hbudget
      · rw [events_snoc_some, countP_append]
        exact h.advances
      · exact h.advanceBudget
  | ignores => exact hsame rfl rfl rfl
  | serves hserved =>
    cases hserved with
    | mk => exact hsame rfl rfl rfl

/-! ## Ids -/

/-- An event has the id of its kind, and its number is not ahead of the state's. -/
def Recorded (s : TrendState) : TrendEvent → Prop
  | .transition event =>
    event.eventId = transitionEventId s.sessionId event.sequence event.toRegime ∧
      event.sequence ≤ s.transitionSequence
  | .advance event =>
    event.eventId = advanceEventId s.sessionId event.direction event.milestoneIndex ∧
      event.milestoneIndex ≤ s.advanceMilestoneIndex
  | .continuation event =>
    event.eventId = continuationEventId s.sessionId event.sequence event.direction
        event.milestoneIndex ∧
      (event.sequence < s.transitionSequence ∨ event.sequence = s.transitionSequence ∧
        event.milestoneIndex ≤ s.continuationMilestoneIndex)

/-- The ids so far are distinct, and the numbers of the state are ahead of theirs. -/
structure Distinct (evs : Log) (s : TrendState) : Prop where
  sequence : ∀ transition, s.lastTransition = some transition →
    transition.sequence = s.transitionSequence
  recorded : ∀ event ∈ events evs, Recorded s event
  nodup : ((events evs).map TrendEvent.eventId).Nodup

/-- The numbers of a state only grow; those of the continuations start again behind a transition. -/
structure Ahead (s t : TrendState) : Prop where
  session : t.sessionId = s.sessionId
  transitions : s.transitionSequence ≤ t.transitionSequence
  advances : s.advanceMilestoneIndex ≤ t.advanceMilestoneIndex
  continuations : t.transitionSequence = s.transitionSequence →
    s.continuationMilestoneIndex ≤ t.continuationMilestoneIndex

variable {event : TrendEvent}

theorem Recorded.ahead (h : Recorded s event) (hahead : Ahead s t) : Recorded t event := by
  cases event with
  | transition event =>
    obtain ⟨hid, hsequence⟩ := h
    exact ⟨hahead.session ▸ hid, hsequence.trans hahead.transitions⟩
  | advance event =>
    obtain ⟨hid, hmilestone⟩ := h
    exact ⟨hahead.session ▸ hid, hmilestone.trans hahead.advances⟩
  | continuation event =>
    obtain ⟨hid, hnumber⟩ := h
    refine ⟨hahead.session ▸ hid, ?_⟩
    rcases hnumber with hlt | ⟨heq, hle⟩
    · exact .inl (hlt.trans_le hahead.transitions)
    · rcases hahead.transitions.eq_or_lt with hsame | hlt
      · exact .inr ⟨heq.trans hsame, hle.trans (hahead.continuations hsame.symm)⟩
      · exact .inl (heq.trans_lt hlt)

/-- The number of an event is beyond those of the state. -/
def Fresh (s : TrendState) : TrendEvent → Prop
  | .transition event =>
    event.eventId = transitionEventId s.sessionId event.sequence event.toRegime ∧
      event.sequence = s.transitionSequence + 1
  | .advance event =>
    event.eventId = advanceEventId s.sessionId event.direction event.milestoneIndex ∧
      event.milestoneIndex = s.advanceMilestoneIndex + 1
  | .continuation event =>
    event.eventId = continuationEventId s.sessionId event.sequence event.direction
        event.milestoneIndex ∧
      event.sequence = s.transitionSequence ∧
      event.milestoneIndex = s.continuationMilestoneIndex + 1

/-- The letter of an event's kind. -/
def TrendEvent.letter : TrendEvent → Char
  | .transition _ => 't'
  | .advance _ => 'a'
  | .continuation _ => 'c'

theorem Recorded.kind (h : Recorded s event) : kindLetter event.eventId = some event.letter := by
  cases event with
  | transition event => exact (congrArg kindLetter h.1).trans kindLetter_transition
  | advance event => exact (congrArg kindLetter h.1).trans kindLetter_advance
  | continuation event => exact (congrArg kindLetter h.1).trans kindLetter_continuation

theorem Fresh.kind (h : Fresh s event) : kindLetter event.eventId = some event.letter := by
  cases event with
  | transition event => exact (congrArg kindLetter h.1).trans kindLetter_transition
  | advance event => exact (congrArg kindLetter h.1).trans kindLetter_advance
  | continuation event => exact (congrArg kindLetter h.1).trans kindLetter_continuation

theorem Fresh.id_ne {other : TrendEvent} (h : Fresh s event) (hother : Recorded s other) :
    other.eventId ≠ event.eventId := by
  intro hsame
  have hletter : other.letter = event.letter := by
    rw [← Option.some.injEq, ← hother.kind, ← h.kind, hsame]
  cases event with
  | transition event =>
    obtain ⟨hid, hsequence⟩ := h
    cases other with
    | transition other =>
      obtain ⟨hotherId, hle⟩ := hother
      have hnumber := transitionEventId_inj (hotherId.symm.trans (hsame.trans hid))
      omega
    | advance other => exact absurd hletter (by simp [TrendEvent.letter])
    | continuation other => exact absurd hletter (by simp [TrendEvent.letter])
  | advance event =>
    obtain ⟨hid, hmilestone⟩ := h
    cases other with
    | transition other => exact absurd hletter (by simp [TrendEvent.letter])
    | advance other =>
      obtain ⟨hotherId, hle⟩ := hother
      have hnumber := advanceEventId_inj (hotherId.symm.trans (hsame.trans hid))
      omega
    | continuation other => exact absurd hletter (by simp [TrendEvent.letter])
  | continuation event =>
    obtain ⟨hid, hsequence, hmilestone⟩ := h
    cases other with
    | transition other => exact absurd hletter (by simp [TrendEvent.letter])
    | advance other => exact absurd hletter (by simp [TrendEvent.letter])
    | continuation other =>
      obtain ⟨hotherId, hle⟩ := hother
      obtain ⟨hnumber, hindex⟩ := continuationEventId_inj (hotherId.symm.trans (hsame.trans hid))
      omega

theorem Distinct.emit (h : Distinct evs s) {reading : Option Reading} (hahead : Ahead s t)
    (hfresh : Fresh s event) (hrecorded : Recorded t event)
    (hsequence : ∀ transition, t.lastTransition = some transition → transition.sequence =
      t.transitionSequence) :
    Distinct (evs ++ [(i, ⟨reading, some event⟩)]) t := by
  constructor
  · exact hsequence
  · rw [events_snoc_some]
    intro other hother
    rcases mem_append.mp hother with hother | hother
    · exact (h.recorded other hother).ahead hahead
    · rw [mem_singleton.mp hother]
      exact hrecorded
  · rw [events_snoc_some, map_append, map_singleton, nodup_append]
    refine ⟨h.nodup, nodup_cons.mpr ⟨not_mem_nil, nodup_nil⟩, ?_⟩
    intro id hid other hother
    obtain ⟨found, hfound, rfl⟩ := mem_map.mp hid
    rw [mem_singleton.mp hother]
    exact hfresh.id_ne (h.recorded found hfound)

theorem Distinct.quiet (h : Distinct evs s) {reading : Option Reading} (hahead : Ahead s t)
    (hsequence : ∀ transition, t.lastTransition = some transition →
      transition.sequence = t.transitionSequence) : Distinct (evs ++ [(i, ⟨reading, none⟩)]) t := by
  constructor
  · exact hsequence
  · rw [events_snoc_none]
    intro event hevent
    exact (h.recorded event hevent).ahead hahead
  · rw [events_snoc_none]
    exact h.nodup

theorem Distinct.keeps (h : Distinct evs s) (i : TrendInput) :
    Distinct (evs ++ [(i, (trendStep policy s i).1)]) (trendStep policy s i).2 := by
  have hstep := trendStep_spec policy s i
  generalize trendStep policy s i = result at hstep
  cases hstep with
  | decides haccepts hdecision =>
    cases hdecision with
    | targets => exact h.quiet ⟨rfl, le_rfl, le_rfl, fun _ => le_rfl⟩ h.sequence
    | switches =>
      refine h.emit ⟨rfl, Nat.le_succ _, le_rfl, fun hsame => ?_⟩ ⟨rfl, rfl⟩ ⟨rfl, le_rfl⟩ ?_
      · exact absurd hsame (Nat.succ_ne_self _)
      · intro transition htransition
        rw [← Option.some.inj htransition]
        rfl
    | dropsAdvance _ _ hmilestone =>
      exact h.quiet ⟨rfl, le_rfl, hmilestone, fun _ => le_rfl⟩ h.sequence
    | countsAdvance => exact h.quiet ⟨rfl, le_rfl, le_rfl, fun _ => le_rfl⟩ h.sequence
    | emitsAdvance =>
      exact h.emit ⟨rfl, le_rfl, Nat.le_succ _, fun _ => le_rfl⟩ ⟨rfl, rfl⟩ ⟨rfl, le_rfl⟩
        h.sequence
    | dropsContinuation _ _ hmilestone =>
      exact h.quiet ⟨rfl, le_rfl, le_rfl, fun _ => hmilestone⟩ h.sequence
    | countsContinuation => exact h.quiet ⟨rfl, le_rfl, le_rfl, fun _ => le_rfl⟩ h.sequence
    | emitsContinuation _ hmeets =>
      have hsequence := h.sequence _ hmeets.htransition
      exact h.emit ⟨rfl, le_rfl, le_rfl, fun _ => Nat.le_succ _⟩ ⟨rfl, hsequence, rfl⟩
        ⟨rfl, .inr ⟨hsequence, le_rfl⟩⟩ h.sequence
  | ignores => exact h.quiet ⟨rfl, le_rfl, le_rfl, fun _ => le_rfl⟩ h.sequence
  | serves hserved =>
    cases hserved with
    | mk => exact h.quiet ⟨rfl, le_rfl, le_rfl, fun _ => le_rfl⟩ h.sequence

/-! ## Advisories -/

/-- The entry of the state's regime was emitted, and its advisory has the id. -/
def Entered (evs : Log) (s : TrendState) (id : Text) : Prop :=
  ∃ entry, .continuation entry ∈ events evs ∧ entry.milestoneIndex = 1 ∧
    entry.sequence = s.transitionSequence ∧ regimeDirection s.regime = some entry.direction ∧
    entry.advisoryId = id ∧ id = advisoryIdOf s.sessionId entry.sequence entry.direction

/-- An advisory that is pending or active is that of the entry of the state's regime. -/
structure Advised (evs : Log) (s : TrendState) : Prop where
  pending : ∀ id, s.pendingDirectionalAdvisoryId = some id → Entered evs s id
  active : ∀ id, s.activeDirectionalAdvisoryId = some id → Entered evs s id

theorem Entered.later {id : Text} (h : Entered evs s id) (more : Log)
    (hsession : t.sessionId = s.sessionId)
    (hsequence : t.transitionSequence = s.transitionSequence) (hregime : t.regime = s.regime) :
    Entered (evs ++ more) t id := by
  obtain ⟨entry, hentry, hfirst, hnumber, hdirection, hid, hform⟩ := h
  refine ⟨entry, ?_, hfirst, ?_, ?_, hid, ?_⟩
  · unfold events at hentry ⊢
    rw [filterMap_append]
    exact mem_append_left _ hentry
  · rw [hsequence]
    exact hnumber
  · rw [hregime]
    exact hdirection
  · rw [hsession]
    exact hform

theorem Advised.keeps (h : Advised evs s) (hdistinct : Distinct evs s) (i : TrendInput) :
    Advised (evs ++ [(i, (trendStep policy s i).1)]) (trendStep policy s i).2 := by
  have hstep := trendStep_spec policy s i
  generalize trendStep policy s i = result at hstep
  have hsame : ∀ {more : Log} {t : TrendState}, t.sessionId = s.sessionId →
      t.transitionSequence = s.transitionSequence → t.regime = s.regime →
      t.pendingDirectionalAdvisoryId = s.pendingDirectionalAdvisoryId →
      t.activeDirectionalAdvisoryId = s.activeDirectionalAdvisoryId → Advised (evs ++ more) t := by
    intro more t hsession hsequence hregime hpending hactive
    constructor
    · intro id hid
      exact (h.pending id (hpending ▸ hid)).later _ hsession hsequence hregime
    · intro id hid
      exact (h.active id (hactive ▸ hid)).later _ hsession hsequence hregime
  cases hstep with
  | @decides now allowed _ haccepts hdecision =>
    cases hdecision with
    | targets => exact hsame rfl rfl rfl rfl rfl
    | switches =>
      constructor
      · intro id hid
        cases hid
      · intro id hid
        cases hid
    | dropsAdvance => exact hsame rfl rfl rfl rfl rfl
    | countsAdvance => exact hsame rfl rfl rfl rfl rfl
    | emitsAdvance => exact hsame rfl rfl rfl rfl rfl
    | dropsContinuation => exact hsame rfl rfl rfl rfl rfl
    | countsContinuation => exact hsame rfl rfl rfl rfl rfl
    | @emitsContinuation transition direction parent _ hmeets _ _ =>
      constructor
      · intro id hid
        change (if s.continuationMilestoneIndex + 1 = 1 then
          some (advisoryIdOf s.sessionId transition.sequence direction)
          else s.pendingDirectionalAdvisoryId) = some id at hid
        split at hid
        · rename_i hfirst
          obtain rfl := Option.some.inj hid
          refine ⟨continuationEvent policy s.sessionId now (s.measure policy now) transition
            direction (s.continuationMilestoneIndex + 1) parent, ?_, hfirst,
            hdistinct.sequence _ hmeets.htransition, hmeets.hdirection, rfl, rfl⟩
          exact (events_snoc_some evs _ _ _).symm ▸
            mem_append_right _ (mem_singleton.mpr rfl)
        · exact (h.pending id hid).later _ rfl rfl rfl
      · intro id hid
        exact (h.active id hid).later _ rfl rfl rfl
  | ignores => exact hsame rfl rfl rfl rfl rfl
  | serves hserved =>
    cases hserved with
    | mk hpending hactive =>
      constructor
      · intro id hid
        rcases hpending with rfl | rfl
        · exact (h.pending id hid).later _ rfl rfl rfl
        · cases hid
      · intro id hid
        rcases hactive with rfl | rfl
        · exact (h.active id hid).later _ rfl rfl rfl
        · exact (h.pending id hid).later _ rfl rfl rfl

/-! ## Runs -/

/-- Enough readings in a row ask for the event. -/
def RestsOn (policy : GlobexTrendSettings) (rs : List Reading) : TrendEvent → Prop
  | .transition event =>
    policy.confirmationObservations ≤ trailingRun (Reading.targets event.toRegime) rs
  | .advance event => policy.continuationConfirmationObservations ≤
      trailingRun (Reading.meetsAdvance policy event.direction event.milestoneIndex) rs
  | .continuation event => policy.continuationConfirmationObservations ≤
      trailingRun (Reading.meetsContinuation policy event.direction event.milestoneIndex) rs

/-- What holds of every run, whatever its samples. -/
structure Kept (policy : GlobexTrendSettings) (evs : Log) (s : TrendState) : Prop where
  targets : TargetCounted evs s
  continuations : ContinuationCounted policy evs s
  budgeted : Budgeted policy evs s
  distinct : Distinct evs s
  advised : Advised evs s

theorem kept_initial : Kept policy [] (initialState session) where
  targets := by
    intro target h
    cases h
  continuations := by
    intro milestone h
    cases h
  budgeted := ⟨rfl, rfl, Nat.zero_le _, rfl, Nat.zero_le _⟩
  distinct := {
    sequence := by
      intro transition h
      cases h
    recorded := by
      intro event h
      cases h
    nodup := nodup_nil }
  advised := {
    pending := by
      intro id h
      cases h
    active := by
      intro id h
      cases h }

theorem Kept.keeps (h : Kept policy evs s) (i : TrendInput) :
    Kept policy (evs ++ [(i, (trendStep policy s i).1)]) (trendStep policy s i).2 where
  targets := h.targets.keeps i
  continuations := h.continuations.keeps i
  budgeted := h.budgeted.keeps i
  distinct := h.distinct.keeps i
  advised := h.advised.keeps h.distinct i

theorem kept_run {ok : TrendState → TrendInput → Prop}
    (h : Run (trendStep policy) ok (initialState session) evs s) : Kept policy evs s :=
  h.invariant_log kept_initial fun _ _ i hkept _ => hkept.keeps i

theorem advanceCounted_run
    (h : Run (trendStep policy) (Steady policy) (initialState session) evs s) :
    AdvanceCounted policy evs s := by
  refine h.invariant_log ?_ fun _ _ _ hcounted hsteady => hcounted.keeps hsteady
  intro milestone h
  cases h

theorem restsOn_step (h : Kept policy evs s) (hadvance : AdvanceCounted policy evs s)
    (hsteady : Steady policy s i) (hevent : (trendStep policy s i).1.event = some event) :
    RestsOn policy (readings (evs ++ [(i, (trendStep policy s i).1)])) event := by
  have hstep := trendStep_spec policy s i
  generalize trendStep policy s i = result at hstep hevent
  cases hstep with
  | decides haccepts hdecision =>
    rw [readings_snoc_some]
    cases hdecision with
    | targets => cases hevent
    | switches htarget hcount =>
      obtain rfl := Option.some.inj hevent
      exact hcount.trans (countTarget_le h.targets htarget)
    | dropsAdvance => cases hevent
    | countsAdvance => cases hevent
    | emitsAdvance _ _ hmeets _ hcount =>
      obtain rfl := Option.some.inj hevent
      exact hcount.trans (countAdvance_le hadvance hsteady haccepts hmeets)
    | dropsContinuation => cases hevent
    | countsContinuation => cases hevent
    | emitsContinuation _ hmeets hcount =>
      obtain rfl := Option.some.inj hevent
      exact hcount.trans (countContinuation_le h.continuations hmeets)
  | ignores => cases hevent
  | serves => cases hevent

theorem active_of_continuation (h : Kept policy evs s) {event : MilestoneEvent}
    (hevent : (trendStep policy s i).1.event = some (.continuation event))
    (hlater : 2 ≤ event.milestoneIndex) : s.activeDirectionalAdvisoryId = some event.advisoryId ∧
      event.sequence = s.transitionSequence ∧ Entered evs s event.advisoryId := by
  have hstep := trendStep_spec policy s i
  generalize trendStep policy s i = result at hstep hevent
  cases hstep with
  | decides haccepts hdecision =>
    cases hdecision with
    | targets => cases hevent
    | switches => cases hevent
    | dropsAdvance => cases hevent
    | countsAdvance => cases hevent
    | emitsAdvance => cases hevent
    | dropsContinuation => cases hevent
    | countsContinuation => cases hevent
    | @emitsContinuation transition direction _ _ hmeets _ hparent =>
      obtain rfl := TrendEvent.continuation.inj (Option.some.inj hevent)
      have hsequence := h.distinct.sequence _ hmeets.htransition
      rcases hparent with hfirst | ⟨id, hactive, _⟩
      · have hindex : 2 ≤ s.continuationMilestoneIndex + 1 := hlater
        omega
      · have hentered := h.advised.active id hactive
        have hid : id = advisoryIdOf s.sessionId transition.sequence direction := by
          obtain ⟨entry, _, _, hnumber, hdirection, _, hform⟩ := hentered
          rw [hmeets.hdirection] at hdirection
          rw [hform, hnumber, ← Option.some.inj hdirection, ← hsequence]
        rw [hid] at hactive hentered
        exact ⟨hactive, hsequence, hentered⟩
  | ignores => cases hevent
  | serves => cases hevent

/-- **The events of a session rest on consecutive evidence**, in every run in which no advance that
is being counted is followed by a sample that targets a regime or holds at the other extreme: ids
are distinct, an event stands at the end of as many readings as it needs, the budgets are kept, and
a later milestone comes while the advisory of its own entry is active. -/
theorem trend_events_consecutive (policy : GlobexTrendSettings) (session : Text) {evs : Log}
    {s : TrendState} (h : Run (trendStep policy) (Steady policy) (initialState session) evs s) :
    ((events evs).map TrendEvent.eventId).Nodup ∧
      (∀ past i o rest, evs = past ++ (i, o) :: rest → ∀ event, o.event = some event →
        RestsOn policy (readings (past ++ [(i, o)])) event) ∧
      (events evs).countP TrendEvent.isContinuation ≤ policy.continuationSessionBudget ∧
      (events evs).countP TrendEvent.isAdvance ≤ policy.continuationSessionBudget ∧
      ∀ past i o rest, evs = past ++ (i, o) :: rest → ∀ event,
        o.event = some (.continuation event) →
        2 ≤ event.milestoneIndex →
          ∃ s', Run (trendStep policy) (Steady policy) (initialState session) past s' ∧
            s'.activeDirectionalAdvisoryId = some event.advisoryId ∧
            event.sequence = s'.transitionSequence ∧ Entered past s' event.advisoryId := by
  have hkept := kept_run h
  refine ⟨hkept.distinct.nodup, ?_, ?_, ?_, ?_⟩
  · intro past i o rest hevs event hevent
    rw [hevs] at h
    obtain ⟨s', hpast, hsteady, rfl⟩ := h.split
    exact restsOn_step (kept_run hpast) (advanceCounted_run hpast) hsteady hevent
  · rw [hkept.budgeted.continuations]
    exact hkept.budgeted.continuationBudget
  · rw [hkept.budgeted.advances]
    exact hkept.budgeted.advanceBudget
  · intro past i o rest hevs event hevent hlater
    rw [hevs] at h
    obtain ⟨s', hpast, _, rfl⟩ := h.split
    exact ⟨s', hpast, active_of_continuation (kept_run hpast) hevent hlater⟩

/-! ## A direction that changes -/

def sampleAt (minute : Int) (price : ℚ) : TrendInput :=
  .observe ⟨minute * 60000000, natText minute.toNat, price, "ibkr".toList⟩ true

/-- A session with a low at half an hour, and a high at the hour. -/
def risingInputs : List TrendInput :=
  [sampleAt 0 100, sampleAt 30 92, sampleAt 45 101, sampleAt 60 (205 / 2)]

def steadyInputs : List TrendInput := risingInputs ++ [sampleAt 61 103]

def TrendEvent.advanceOf : TrendEvent → Option (Direction × Nat)
  | .advance event => some (event.direction, event.milestoneIndex)
  | _ => none

theorem exists_of_advanceOf {o : Answer} {direction : Direction} {milestone : Nat}
    (h : o.event.bind TrendEvent.advanceOf = some (direction, milestone)) :
    ∃ event, o.event = some (.advance event) ∧ event.direction = direction ∧
      event.milestoneIndex = milestone := by
  obtain ⟨event, hevent, hof⟩ := Option.bind_eq_some_iff.mp h
  cases event with
  | advance event =>
    obtain ⟨hdirection, hmilestone⟩ := Prod.mk.inj (Option.some.inj hof)
    exact ⟨event, hevent, hdirection, hmilestone⟩
  | transition event => cases hof
  | continuation event => cases hof

theorem steady_advances :
    Allowed (trendStep {}) (Steady {}) (initialState "2026-03-02:gth".toList) steadyInputs ∧
    (events (play (trendStep {}) (initialState "2026-03-02:gth".toList)
    steadyInputs).1).filterMap TrendEvent.advanceOf = [(.up, 1)] := by
  decide +kernel

/-- A steady session with an advance. -/
theorem steady_session : (events (play (trendStep {}) (initialState "2026-03-02:gth".toList)
      steadyInputs).1).filterMap TrendEvent.advanceOf = [(.up, 1)] ∧
    ((events (play (trendStep {}) (initialState "2026-03-02:gth".toList) steadyInputs).1).map
      TrendEvent.eventId).Nodup :=
  ⟨steady_advances.2,
    (trend_events_consecutive {} "2026-03-02:gth".toList (Run.play steady_advances.1)).1⟩

theorem falling_advances : (trendStep {} (play (trendStep {}) (initialState "2026-03-02:gth".toList)
    risingInputs).2 (sampleAt 61 (185 / 2))).1.event.bind TrendEvent.advanceOf =
      some (.down, 1) ∧
    trailingRun (Reading.meetsAdvance {} .down 1)
    (readings (play (trendStep {}) (initialState "2026-03-02:gth".toList)
      (risingInputs ++ [sampleAt 61 (185 / 2)])).1) = 1 := by
  decide +kernel

/-- Not every advance rests on consecutive evidence: one sample at the high and one at the low make
an advance downward. -/
theorem advance_not_consecutive : ¬ ∀ (policy : GlobexTrendSettings) (session : Text) (evs : Log)
    (s : TrendState), Run (trendStep policy) anyStep (initialState session) evs s →
      ∀ past i o rest, evs = past ++ (i, o) :: rest → ∀ event, o.event = some event →
        RestsOn policy (readings (past ++ [(i, o)])) event := by
  intro h
  obtain ⟨event, hevent, hdirection, hmilestone⟩ := exists_of_advanceOf falling_advances.1
  have hrun := run_play (trendStep {}) (risingInputs ++ [sampleAt 61 (185 / 2)])
    (initialState "2026-03-02:gth".toList)
  have hrests := h {} _ _ _ hrun _ _ _ [] (play_snoc _ _ _) _ hevent
  rw [← play_snoc] at hrests
  have hrests : 2 ≤ trailingRun (Reading.meetsAdvance {} event.direction event.milestoneIndex) _ :=
    hrests
  rw [hdirection, hmilestone, falling_advances.2] at hrests
  omega

end SpxSpark.GlobexTrend
