import SpxSpark.Lib.Hysteresis

/-!
# Failover — the Schwab-primary / IBKR-fallback machine

The deterministic controller of `provider_failover.py`: four modes, two health signals, four streak
counters and numbered transitions.
-/

namespace SpxSpark.Providers

open Lib

/-! ## States and observations -/

inductive FailoverMode
  | schwabPrimary
  | recoveryPending
  | ibkrFallback
  | bothUnavailable
  deriving DecidableEq

/-- The text a mode is stored under. -/
def FailoverMode.value : FailoverMode → String
  | .schwabPrimary => "schwab_primary"
  | .recoveryPending => "recovery_pending"
  | .ibkrFallback => "ibkr_fallback"
  | .bothUnavailable => "both_unavailable"

/-- One reading of both providers; instants are microseconds. -/
structure FailoverObservation where
  observedAt : Int
  schwabHealthy : Bool
  ibkrHealthy : Bool
  schwabReason : Option String
  ibkrReason : Option String

/-- What the text of a transition id is made of. -/
structure TransitionId where
  occurredAt : Int
  sequence : Nat
  mode : FailoverMode
  deriving DecidableEq

structure FailoverTransition where
  transitionId : TransitionId
  sequence : Nat
  previousMode : FailoverMode
  mode : FailoverMode
  occurredAt : Int
  reason : String

structure FailoverState where
  mode : FailoverMode
  updatedAt : Int
  sequence : Nat := 0
  schwabUnhealthyStreak : Nat := 0
  schwabRecoveryStreak : Nat := 0
  ibkrUnhealthyStreak : Nat := 0
  ibkrRecoveryStreak : Nat := 0
  lastSchwabReason : Option String := none
  lastIbkrReason : Option String := none
  transition : Option FailoverTransition := none

def FailoverState.initial (now : Int) : FailoverState :=
  { mode := .schwabPrimary, updatedAt := now }

/-- Whether the mode asks for IBKR market data. -/
def FailoverState.ibkrMarketDataRequired (state : FailoverState) : Bool :=
  match state.mode with
  | .schwabPrimary => false
  | .recoveryPending | .ibkrFallback | .bothUnavailable => true

/-- The thresholds, which `__post_init__` requires to be positive. -/
structure FailoverThresholds where
  schwabUnhealthyObservations : Nat
  schwabRecoveryObservations : Nat
  ibkrUnhealthyObservations : Nat
  ibkrRecoveryObservations : Nat := 2
  schwabUnhealthy_pos : 0 < schwabUnhealthyObservations
  schwabRecovery_pos : 0 < schwabRecoveryObservations
  ibkrUnhealthy_pos : 0 < ibkrUnhealthyObservations
  ibkrRecovery_pos : 0 < ibkrRecoveryObservations

/-! ## One observation -/

/-- The streaks with the new reading counted in. -/
structure Streaks where
  schwabUnhealthy : Nat
  schwabRecovery : Nat
  ibkrUnhealthy : Nat
  ibkrRecovery : Nat

def countStreaks (state : FailoverState) (observation : FailoverObservation) : Streaks where
  schwabUnhealthy :=
    if observation.schwabHealthy then 0 else state.schwabUnhealthyStreak + 1
  schwabRecovery :=
    if observation.schwabHealthy then state.schwabRecoveryStreak + 1 else 0
  ibkrUnhealthy :=
    -- the cold standby of a healthy primary is not held against IBKR
    if state.mode = .schwabPrimary ∨ observation.ibkrHealthy = true then 0
    else state.ibkrUnhealthyStreak + 1
  ibkrRecovery :=
    if observation.ibkrHealthy then state.ibkrRecoveryStreak + 1 else 0

/-- The next mode and the reason for a change, branch by branch. -/
def chooseMode (mode : FailoverMode) (streaks : Streaks) (observation : FailoverObservation)
    (thresholds : FailoverThresholds) : FailoverMode × String :=
  match mode with
  | .schwabPrimary =>
    if thresholds.schwabUnhealthyObservations ≤ streaks.schwabUnhealthy then
      if observation.ibkrHealthy then
        (.ibkrFallback, "Schwab unhealthy; IBKR fallback is ready")
      else (.recoveryPending, "Schwab unhealthy; requesting IBKR fallback")
    else (.schwabPrimary, "health observation")
  | .recoveryPending =>
    if observation.ibkrHealthy ∧ !observation.schwabHealthy ∧
        thresholds.ibkrRecoveryObservations ≤ streaks.ibkrRecovery then
      (.ibkrFallback, "IBKR fallback became ready")
    else if observation.schwabHealthy ∧
        thresholds.schwabRecoveryObservations ≤ streaks.schwabRecovery then
      (.schwabPrimary, "Schwab recovered before fallback activation")
    else if !observation.schwabHealthy ∧
        thresholds.ibkrUnhealthyObservations ≤ streaks.ibkrUnhealthy then
      (.bothUnavailable, "Schwab and IBKR are unavailable")
    else (.recoveryPending, "health observation")
  | .ibkrFallback =>
    if observation.schwabHealthy ∧
        thresholds.schwabRecoveryObservations ≤ streaks.schwabRecovery then
      (.schwabPrimary, "Schwab recovery confirmed")
    else if !observation.schwabHealthy ∧
        thresholds.ibkrUnhealthyObservations ≤ streaks.ibkrUnhealthy then
      (.bothUnavailable, "IBKR fallback failed while Schwab remained unavailable")
    else (.ibkrFallback, "health observation")
  | .bothUnavailable =>
    if observation.schwabHealthy ∧
        thresholds.schwabRecoveryObservations ≤ streaks.schwabRecovery then
      (.schwabPrimary, "Schwab recovery confirmed")
    else if observation.ibkrHealthy ∧ !observation.schwabHealthy ∧
        thresholds.ibkrRecoveryObservations ≤ streaks.ibkrRecovery then
      (.ibkrFallback, "IBKR fallback recovered")
    else (.bothUnavailable, "health observation")

/-- A request for the fallback and a return to Schwab start the IBKR counters again. -/
def restartsIbkr (mode nextMode : FailoverMode) : Bool :=
  (mode = .schwabPrimary && nextMode = .recoveryPending) ||
    (mode ≠ nextMode && nextMode = .schwabPrimary)

def advanceFailover (state : FailoverState) (observation : FailoverObservation)
    (thresholds : FailoverThresholds) : FailoverState :=
  let counted := countStreaks state observation
  let chosen := chooseMode state.mode counted observation thresholds
  let changed := chosen.1 ≠ state.mode
  let sequence := if changed then state.sequence + 1 else state.sequence
  { mode := chosen.1
    updatedAt := observation.observedAt
    sequence := sequence
    schwabUnhealthyStreak := counted.schwabUnhealthy
    schwabRecoveryStreak := counted.schwabRecovery
    ibkrUnhealthyStreak := if restartsIbkr state.mode chosen.1 then 0 else counted.ibkrUnhealthy
    ibkrRecoveryStreak := if restartsIbkr state.mode chosen.1 then 0 else counted.ibkrRecovery
    lastSchwabReason := observation.schwabReason
    lastIbkrReason := observation.ibkrReason
    transition :=
      if changed then
        some
          { transitionId := ⟨observation.observedAt, sequence, chosen.1⟩
            sequence := sequence
            previousMode := state.mode
            mode := chosen.1
            occurredAt := observation.observedAt
            reason := chosen.2 }
      else state.transition }

section Advance

variable (state : FailoverState) (observation : FailoverObservation)
  (thresholds : FailoverThresholds)

@[simp] theorem advanceFailover_schwabUnhealthy :
    (advanceFailover state observation thresholds).schwabUnhealthyStreak =
      if observation.schwabHealthy then 0 else state.schwabUnhealthyStreak + 1 := rfl

@[simp] theorem advanceFailover_schwabRecovery :
    (advanceFailover state observation thresholds).schwabRecoveryStreak =
      if observation.schwabHealthy then state.schwabRecoveryStreak + 1 else 0 := rfl

/-- Schwab alone decides whether the primary leads: it keeps leading below the unhealthy
threshold, and leads again at the recovery threshold. -/
theorem advanceFailover_primary_iff :
    (advanceFailover state observation thresholds).mode = .schwabPrimary ↔
      if state.mode = .schwabPrimary then
        (advanceFailover state observation thresholds).schwabUnhealthyStreak <
          thresholds.schwabUnhealthyObservations
      else observation.schwabHealthy = true ∧ thresholds.schwabRecoveryObservations ≤
        (advanceFailover state observation thresholds).schwabRecoveryStreak := by
  show (chooseMode state.mode (countStreaks state observation) observation thresholds).1 = _ ↔
    if _ then (countStreaks state observation).schwabUnhealthy < _
    else _ ∧ _ ≤ (countStreaks state observation).schwabRecovery
  generalize countStreaks state observation = k
  cases hm : state.mode <;> simp only [chooseMode]
  · split
    · split <;> simp <;> omega
    · simp
      omega
  · split
    · grind
    · split
      · rename_i h
        simp [h.1, h.2]
      · split <;> grind
  · split
    · rename_i h
      simp [h.1, h.2]
    · split <;> grind
  · split
    · rename_i h
      simp [h.1, h.2]
    · split <;> grind

theorem advanceFailover_ibkrUnhealthy :
    (advanceFailover state observation thresholds).ibkrUnhealthyStreak =
      if state.mode = .schwabPrimary ∨ observation.ibkrHealthy = true ∨
          (advanceFailover state observation thresholds).mode = .schwabPrimary then 0
      else state.ibkrUnhealthyStreak + 1 := by
  show (if restartsIbkr state.mode (advanceFailover state observation thresholds).mode then 0
    else if _ then 0 else _) = _
  generalize (advanceFailover state observation thresholds).mode = next
  cases state.mode <;> cases next <;> simp [restartsIbkr]

theorem advanceFailover_ibkrRecovery :
    (advanceFailover state observation thresholds).ibkrRecoveryStreak =
      if observation.ibkrHealthy = true ∧
          ¬(state.mode ≠ .schwabPrimary ∧
            (advanceFailover state observation thresholds).mode = .schwabPrimary) then
        state.ibkrRecoveryStreak + 1 else 0 := by
  -- on the request of the fallback IBKR is unhealthy, so that restart changes nothing here
  have hpending : state.mode = .schwabPrimary →
      (advanceFailover state observation thresholds).mode = .recoveryPending →
      observation.ibkrHealthy = false := by
    intro hm hnext
    simp only [advanceFailover, hm, chooseMode] at hnext
    split at hnext
    · split at hnext
      · cases hnext
      · rename_i h
        simpa using h
    · cases hnext
  show (if restartsIbkr state.mode (advanceFailover state observation thresholds).mode then 0
    else if _ then _ else 0) = _
  generalize (advanceFailover state observation thresholds).mode = next at hpending
  cases hm : state.mode <;> cases next <;> simp [restartsIbkr]
  exact hpending hm rfl

/-- A step that keeps the mode keeps the transition; any other makes the next one. -/
def Transits (before after : FailoverState) (observedAt : Int) : Prop :=
  after.mode = before.mode ∧ after.sequence = before.sequence ∧
      after.transition = before.transition ∨
    after.mode ≠ before.mode ∧ after.sequence = before.sequence + 1 ∧
      ∃ transition, after.transition = some transition ∧
        transition.sequence = before.sequence + 1 ∧ transition.previousMode = before.mode ∧
          transition.mode = after.mode ∧ transition.occurredAt = observedAt

theorem advanceFailover_transition :
    Transits state (advanceFailover state observation thresholds) observation.observedAt := by
  by_cases h : (advanceFailover state observation thresholds).mode = state.mode
  · refine Or.inl ⟨h, ?_, ?_⟩
    · exact if_neg (not_not.mpr h)
    · exact if_neg (not_not.mpr h)
  · refine Or.inr ⟨h, if_pos h, _, if_pos h, if_pos h, rfl, rfl, rfl⟩

end Advance

/-! ## Runs of observations -/

/-- The state after a list of observations. -/
def afterObservations (thresholds : FailoverThresholds) (state : FailoverState)
    (observations : List FailoverObservation) : FailoverState :=
  observations.foldl (fun state observation => advanceFailover state observation thresholds) state

theorem afterObservations_snoc (thresholds : FailoverThresholds) (state : FailoverState)
    (observations : List FailoverObservation) (observation : FailoverObservation) :
    afterObservations thresholds state (observations ++ [observation]) =
      advanceFailover (afterObservations thresholds state observations) observation thresholds := by
  unfold afterObservations
  rw [List.foldl_append]
  rfl

/-- An observation with the mode it was made in and the mode it led to. -/
structure Turn where
  before : FailoverMode
  observation : FailoverObservation
  after : FailoverMode

/-- The observation was made while the fallback was in play, and IBKR failed it. -/
def Turn.countsAgainstIbkr (turn : Turn) : Bool :=
  turn.before ≠ .schwabPrimary && !turn.observation.ibkrHealthy

/-- The observation showed IBKR healthy and did not hand the lead back to Schwab. -/
def Turn.countsForIbkr (turn : Turn) : Bool :=
  turn.observation.ibkrHealthy &&
    !(turn.before ≠ .schwabPrimary && turn.after = .schwabPrimary)

def turns (thresholds : FailoverThresholds) (state : FailoverState) :
    List FailoverObservation → List Turn
  | [] => []
  | observation :: rest =>
    ⟨state.mode, observation, (advanceFailover state observation thresholds).mode⟩ ::
      turns thresholds (advanceFailover state observation thresholds) rest

theorem turns_snoc (thresholds : FailoverThresholds) (state : FailoverState)
    (observations : List FailoverObservation) (observation : FailoverObservation) :
    turns thresholds state (observations ++ [observation]) =
      turns thresholds state observations ++
        [⟨(afterObservations thresholds state observations).mode, observation,
          (afterObservations thresholds state (observations ++ [observation])).mode⟩] := by
  rw [afterObservations_snoc]
  induction observations generalizing state with
  | nil => rfl
  | cons first rest ih =>
    show _ :: turns thresholds _ (rest ++ [observation]) = _
    rw [ih]
    rfl

section Runs

variable (thresholds : FailoverThresholds) (now : Int) (observations : List FailoverObservation)

theorem schwabStreaks_eq :
    (afterObservations thresholds (.initial now) observations).schwabUnhealthyStreak =
        trailingRun (fun o => !o.schwabHealthy) observations ∧
      (afterObservations thresholds (.initial now) observations).schwabRecoveryStreak =
        trailingRun (fun o => o.schwabHealthy) observations := by
  induction observations using List.reverseRecOn with
  | nil => exact ⟨rfl, rfl⟩
  | append_singleton past observation ih =>
    rw [afterObservations_snoc, trailingRun_snoc, trailingRun_snoc, ← ih.1, ← ih.2]
    simp only [advanceFailover_schwabUnhealthy, advanceFailover_schwabRecovery]
    cases observation.schwabHealthy <;> simp

theorem primary_iff_switchOn :
    (afterObservations thresholds (.initial now) observations).mode = .schwabPrimary ↔
      SwitchOn (fun o => o.schwabHealthy) thresholds.schwabUnhealthyObservations
        thresholds.schwabRecoveryObservations observations := by
  have hU := thresholds.schwabUnhealthy_pos
  have hR := thresholds.schwabRecovery_pos
  induction observations using List.reverseRecOn with
  | nil => exact iff_of_true rfl (switchOn_nil hU hR)
  | append_singleton past observation ih =>
    obtain ⟨hunhealthy, hrecovery⟩ :=
      schwabStreaks_eq thresholds now (past ++ [observation])
    refine Iff.trans ?_ (switchOn_snoc hU hR past observation).symm
    refine Iff.trans ?_ (or_congr Iff.rfl (and_congr ih Iff.rfl))
    rw [← hunhealthy, ← hrecovery, afterObservations_snoc, advanceFailover_primary_iff]
    generalize afterObservations thresholds (.initial now) past = state
    by_cases hm : state.mode = .schwabPrimary
    · -- a recovered run leaves no unhealthy streak to reach the threshold
      simp only [hm, if_true, advanceFailover_schwabUnhealthy, advanceFailover_schwabRecovery]
      cases observation.schwabHealthy <;> simp <;> omega
    · simp only [hm, if_false, advanceFailover_schwabRecovery, false_and, or_false]
      cases observation.schwabHealthy <;> simp
      omega

theorem ibkrStreaks_eq :
    (afterObservations thresholds (.initial now) observations).ibkrUnhealthyStreak =
        (if (afterObservations thresholds (.initial now) observations).mode = .schwabPrimary then 0
        else trailingRun Turn.countsAgainstIbkr (turns thresholds (.initial now) observations)) ∧
      (afterObservations thresholds (.initial now) observations).ibkrRecoveryStreak =
        trailingRun Turn.countsForIbkr (turns thresholds (.initial now) observations) := by
  induction observations using List.reverseRecOn with
  | nil => exact ⟨rfl, rfl⟩
  | append_singleton past observation ih =>
    obtain ⟨ihU, ihR⟩ := ih
    rw [turns_snoc, trailingRun_snoc, trailingRun_snoc, ← ihR]
    simp only [Turn.countsAgainstIbkr, Turn.countsForIbkr, afterObservations_snoc]
    generalize afterObservations thresholds (.initial now) past = state at ihU
    rw [advanceFailover_ibkrUnhealthy, advanceFailover_ibkrRecovery]
    constructor
    · by_cases hm : state.mode = .schwabPrimary
      · simp [hm]
      · rw [if_neg hm] at ihU
        rw [← ihU]
        by_cases hi : observation.ibkrHealthy = true <;> simp [hm, hi]
    · by_cases hm : state.mode = .schwabPrimary <;> simp [hm]

theorem sequence_eq_changes : (afterObservations thresholds (.initial now) observations).sequence =
      (turns thresholds (.initial now) observations).countP
        (fun turn => turn.before ≠ turn.after) := by
  induction observations using List.reverseRecOn with
  | nil => rfl
  | append_singleton past observation ih =>
    rw [turns_snoc, List.countP_append, ← ih, afterObservations_snoc]
    rcases advanceFailover_transition (afterObservations thresholds (.initial now) past)
      observation thresholds with ⟨hmode, hsequence, -⟩ | ⟨hmode, hsequence, -⟩
    · rw [hsequence]
      simp [hmode]
    · rw [hsequence]
      simp [Ne.symm hmode]

end Runs

/-! ## The machine as a switch on Schwab health -/

/-- After any observations: the primary leads exactly when the last Schwab run to reach its
threshold was a healthy one or none has; the Schwab counters are the current runs, the IBKR
counters the runs of what counts for or against the fallback; transitions are numbered one by
one from the mode they leave; and runs with the same Schwab health agree on when the primary
leads, whatever IBKR does. -/
theorem schwab_switch (thresholds : FailoverThresholds) (now : Int)
    (observations : List FailoverObservation) :
    ((afterObservations thresholds (.initial now) observations).mode = .schwabPrimary ↔
      SwitchOn (fun o => o.schwabHealthy) thresholds.schwabUnhealthyObservations
        thresholds.schwabRecoveryObservations observations) ∧
    ((afterObservations thresholds (.initial now) observations).schwabUnhealthyStreak =
        trailingRun (fun o => !o.schwabHealthy) observations ∧
      (afterObservations thresholds (.initial now) observations).schwabRecoveryStreak =
        trailingRun (fun o => o.schwabHealthy) observations) ∧
    ((afterObservations thresholds (.initial now) observations).ibkrUnhealthyStreak =
        (if (afterObservations thresholds (.initial now) observations).mode = .schwabPrimary then 0
        else trailingRun Turn.countsAgainstIbkr (turns thresholds (.initial now) observations)) ∧
      (afterObservations thresholds (.initial now) observations).ibkrRecoveryStreak =
        trailingRun Turn.countsForIbkr (turns thresholds (.initial now) observations)) ∧
    ((afterObservations thresholds (.initial now) observations).sequence =
        (turns thresholds (.initial now) observations).countP
          (fun turn => turn.before ≠ turn.after) ∧
      ∀ observation,
        (advanceFailover (afterObservations thresholds (.initial now) observations) observation
            thresholds).mode =
            (afterObservations thresholds (.initial now) observations).mode ∧
          (advanceFailover (afterObservations thresholds (.initial now) observations) observation
            thresholds).sequence =
            (afterObservations thresholds (.initial now) observations).sequence ∧
          (advanceFailover (afterObservations thresholds (.initial now) observations) observation
            thresholds).transition =
            (afterObservations thresholds (.initial now) observations).transition ∨
        (advanceFailover (afterObservations thresholds (.initial now) observations) observation
            thresholds).mode ≠
            (afterObservations thresholds (.initial now) observations).mode ∧
          (advanceFailover (afterObservations thresholds (.initial now) observations) observation
            thresholds).sequence =
            (afterObservations thresholds (.initial now) observations).sequence + 1 ∧
          ∃ transition,
            (advanceFailover (afterObservations thresholds (.initial now) observations)
              observation thresholds).transition = some transition ∧
            transition.sequence =
              (afterObservations thresholds (.initial now) observations).sequence + 1 ∧
            transition.previousMode =
              (afterObservations thresholds (.initial now) observations).mode ∧
            transition.mode =
              (advanceFailover (afterObservations thresholds (.initial now) observations)
                observation thresholds).mode ∧
            transition.occurredAt = observation.observedAt) ∧
    ∀ (thresholds' : FailoverThresholds) (now' : Int) (observations' : List FailoverObservation),
      thresholds'.schwabUnhealthyObservations = thresholds.schwabUnhealthyObservations →
      thresholds'.schwabRecoveryObservations = thresholds.schwabRecoveryObservations →
      observations'.map (fun o => o.schwabHealthy) = observations.map (fun o => o.schwabHealthy) →
      ((afterObservations thresholds' (.initial now') observations').mode = .schwabPrimary ↔
        (afterObservations thresholds (.initial now) observations).mode = .schwabPrimary) := by
  refine ⟨primary_iff_switchOn thresholds now observations,
    schwabStreaks_eq thresholds now observations, ibkrStreaks_eq thresholds now observations,
    ⟨sequence_eq_changes thresholds now observations,
      fun observation => advanceFailover_transition _ observation thresholds⟩, ?_⟩
  intro thresholds' now' observations' hunhealthy hrecovery hschwab
  have hU := thresholds.schwabUnhealthy_pos
  have hR := thresholds.schwabRecovery_pos
  rw [primary_iff_switchOn, primary_iff_switchOn, hunhealthy, hrecovery]
  -- both sides are the switch run on the list of Schwab readings alone
  have hreadings : ∀ obs : List FailoverObservation,
      SwitchOn (fun b : Bool => b) thresholds.schwabUnhealthyObservations
          thresholds.schwabRecoveryObservations (obs.map fun o => o.schwabHealthy) ↔
        SwitchOn (fun o => o.schwabHealthy) thresholds.schwabUnhealthyObservations
          thresholds.schwabRecoveryObservations obs := by
    intro obs
    exact switchOn_map hU hR (fun o : FailoverObservation => o.schwabHealthy) obs
  rw [← hreadings observations', ← hreadings observations, hschwab]

/-! ## No flapping -/

/-- The observation takes the lead from Schwab. -/
def Turn.loses (turn : Turn) : Bool := turn.before = .schwabPrimary ∧ turn.after ≠ .schwabPrimary

/-- The observation hands the lead back. -/
def Turn.returns (turn : Turn) : Bool := turn.before ≠ .schwabPrimary ∧ turn.after = .schwabPrimary

/-- Each change of the lead has used up its threshold, and the streak towards the next change is
made of observations since then. -/
theorem lead_paid (thresholds : FailoverThresholds) (now : Int)
    (observations : List FailoverObservation) :
    let state := afterObservations thresholds (.initial now) observations
    let ts := turns thresholds (.initial now) observations
    thresholds.schwabUnhealthyObservations * ts.countP Turn.loses +
        thresholds.schwabRecoveryObservations * ts.countP Turn.returns +
        (if state.mode = .schwabPrimary then state.schwabUnhealthyStreak
          else state.schwabRecoveryStreak) ≤ observations.length ∧
      ts.countP Turn.loses =
        ts.countP Turn.returns + if state.mode = .schwabPrimary then 0 else 1 := by
  have hU := thresholds.schwabUnhealthy_pos
  dsimp only
  induction observations using List.reverseRecOn with
  | nil => exact ⟨Nat.le_refl 0, rfl⟩
  | append_singleton past observation ih =>
    rw [turns_snoc, List.countP_append, List.countP_append, List.length_append,
      afterObservations_snoc]
    generalize turns thresholds (.initial now) past = ts at ih
    generalize afterObservations thresholds (.initial now) past = state at ih
    have hprimary := advanceFailover_primary_iff state observation thresholds
    rw [advanceFailover_schwabUnhealthy, advanceFailover_schwabRecovery] at hprimary ⊢
    obtain ⟨hpaid, hturn⟩ := ih
    by_cases hbefore : state.mode = .schwabPrimary <;>
      by_cases hafter : (advanceFailover state observation thresholds).mode = .schwabPrimary <;>
      cases hhealthy : observation.schwabHealthy <;>
      simp [hbefore, hafter, hhealthy, Turn.loses, Turn.returns, Nat.mul_add] at * <;>
      omega

/-- **No flapping.** Whatever is observed, Schwab loses the lead at most once for each
`schwabUnhealthyObservations` and gets it back at most once for each `schwabRecoveryObservations`
of the observations made, and the two take turns. -/
theorem lead_never_flaps (thresholds : FailoverThresholds) (now : Int)
    (observations : List FailoverObservation) :
    let ts := turns thresholds (.initial now) observations
    thresholds.schwabUnhealthyObservations * ts.countP Turn.loses +
        thresholds.schwabRecoveryObservations * ts.countP Turn.returns ≤ observations.length ∧
      ts.countP Turn.returns ≤ ts.countP Turn.loses ∧
      ts.countP Turn.loses ≤ ts.countP Turn.returns + 1 := by
  obtain ⟨hpaid, hturn⟩ := lead_paid thresholds now observations
  dsimp only at hpaid hturn ⊢
  refine ⟨by omega, ?_, ?_⟩
  · rw [hturn]
    exact Nat.le_add_right _ _
  · rw [hturn]
    split <;> omega

/-- Two Schwab failures with IBKR down and with IBKR up: the lead is lost alike. -/
def smallThresholds : FailoverThresholds :=
  { schwabUnhealthyObservations := 2, schwabRecoveryObservations := 2,
    ibkrUnhealthyObservations := 2, schwabUnhealthy_pos := by decide,
    schwabRecovery_pos := by decide, ibkrUnhealthy_pos := by decide,
    ibkrRecovery_pos := by decide }

def reading (schwab ibkr : Bool) : FailoverObservation :=
  ⟨0, schwab, ibkr, none, none⟩

theorem schwab_switch_ibkr_down : ((afterObservations smallThresholds (.initial 0)
        [reading false true, reading false true]).mode = .schwabPrimary ↔
      (afterObservations smallThresholds (.initial 0)
        [reading false false, reading false false]).mode = .schwabPrimary) :=
  (schwab_switch smallThresholds 0 [reading false false, reading false false]).2.2.2.2
    smallThresholds 0 [reading false true, reading false true] rfl rfl rfl

/-- While Schwab leads, a failed IBKR reading is not counted: the counter is not the run. -/
theorem ibkrUnhealthyStreak_ne_run :
    ¬∀ (thresholds : FailoverThresholds) (now : Int) (observations : List FailoverObservation),
      (afterObservations thresholds (.initial now) observations).ibkrUnhealthyStreak =
        trailingRun (fun o => !o.ibkrHealthy) observations := by
  intro h
  exact absurd (h smallThresholds 0 [reading true false]) (by decide)

end SpxSpark.Providers
