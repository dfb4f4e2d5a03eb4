import SpxSpark.Lib.Clock
import SpxSpark.Lib.Run

/-!
# Continuity — the continuity state of the data plane and its ledger of gaps

Each health projection is read as a healthy, suspect or unhealthy sample, and advances a state of
four phases; a step may append one event to the ledger.
-/

namespace SpxSpark.Ibkr

open Lib

/-! ## Samples -/

structure ContinuityPolicy where
  suspectAfterSeconds : ℚ := 20
  rearmSamples : ℕ := 3
  invalidateAfterGapSeconds : ℚ := 60
  rearm_pos : 1 ≤ rearmSamples := by decide

/-- The members of a health projection that are read: its observation time as parsed, its numbers
as `_number` gives them, and the truth of the flags. -/
structure StreamHealth where
  observedAt : Option Instant
  maxAgeSeconds : Option ℚ
  policyBlocked : Bool
  circuitState : Option String
  conflictCount : Option ℚ
  connected : Bool
  dataPlaneHealthy : Bool

/-- `_number(health.get("max_age_seconds")) or 90.0`. -/
def StreamHealth.maxAge (health : StreamHealth) : ℚ :=
  match health.maxAgeSeconds with
  | none => 90
  | some seconds => if seconds = 0 then 90 else seconds

inductive HealthStatus
  | unhealthy (reason : String) (observed : Option Instant)
  | suspect (reason : String) (observed : Instant)
  | healthy (reason : String) (observed : Instant)

variable (policy : ContinuityPolicy)

def healthStatus (health : StreamHealth) (now : Instant) : HealthStatus :=
  match health.observedAt with
  | none => .unhealthy "health_missing" none
  | some observed =>
    let age := secondsBetween now observed
    if age < 0 ∨ health.maxAge < age then .unhealthy "health_stale" (some observed)
    else if health.policyBlocked then .unhealthy "policy_blocked" (some observed)
    else if health.circuitState.getD "unknown" ≠ "closed" then
      .unhealthy "circuit_open" (some observed)
    else if health.conflictCount ≠ none ∧ health.conflictCount ≠ some 0 then
      .unhealthy "competing_session" (some observed)
    else if ¬ health.connected then .unhealthy "disconnected" (some observed)
    else if ¬ health.dataPlaneHealthy then .unhealthy "data_plane_unhealthy" (some observed)
    else if policy.suspectAfterSeconds < age then .suspect "health_aging" observed
    else .healthy "ok" observed

/-! ## The state and its ledger -/

inductive ContinuityPhase
  | healthy
  | suspect
  | gap
  | recovering
  deriving DecidableEq

structure ContinuityState where
  state : ContinuityPhase
  gapStart : Option Instant
  lastGoodAt : Option Instant
  healthySamples : ℕ
  updatedAt : Instant

inductive LedgerEventKind
  | gapStart
  | recovering
  | gapEnd
  deriving DecidableEq

structure LedgerEvent where
  event : LedgerEventKind
  state : ContinuityPhase
  observedAt : Instant
  reason : String
  gapStart : Option Instant
  gapEnd : Option Instant
  gapSeconds : Option ℚ
  recoverySamples : Option ℕ

/-- `_event`. -/
def ledgerEvent (event : LedgerEventKind) (state : ContinuityState) (now : Instant)
    (reason : String) (gapStart gapEnd : Option Instant) (recoverySamples : Option ℕ) :
    LedgerEvent where
  event := event
  state := state.state
  observedAt := now
  reason := reason
  gapStart := gapStart
  gapEnd := gapEnd
  gapSeconds :=
    match gapStart, gapEnd with
    | some start, some finish => some (roundTo 3 (secondsBetween finish start))
    | _, _ => none
  recoverySamples := recoverySamples

/-- `observed <= prior.last_good_at`, where there is one. -/
def ContinuityState.repeats (prior : ContinuityState) (observed : Instant) : Prop :=
  ∃ good, prior.lastGoodAt = some good ∧ observed ≤ good

instance (prior : ContinuityState) (observed : Instant) : Decidable (prior.repeats observed) :=
  decidable_of_iff (prior.lastGoodAt.any fun good => observed ≤ good) (by
    unfold ContinuityState.repeats
    cases prior.lastGoodAt <;> simp)

/-- The last good observation, where this one comes too long after it and no gap is open. -/
def ContinuityState.silentSince (prior : ContinuityState) (health : StreamHealth)
    (observed : Instant) : Option Instant :=
  match prior.lastGoodAt with
  | none => none
  | some good =>
    if prior.state ≠ .gap ∧ health.maxAge < secondsBetween observed good then some good else none

structure Sample where
  health : StreamHealth
  now : Instant

def afterHealthy (prior : ContinuityState) (health : StreamHealth) (reason : String)
    (observed now : Instant) : Option LedgerEvent × ContinuityState :=
  if prior.repeats observed then (none, prior)
  else
    match prior.silentSince health observed with
    | some good =>
      let state : ContinuityState :=
        { state := .recovering
          gapStart := prior.gapStart.or (some good)
          lastGoodAt := some observed
          healthySamples := 1
          updatedAt := now }
      (some (ledgerEvent .gapStart state now "health_observation_gap" state.gapStart none
        (some 1)), state)
    | none =>
      if prior.state = .gap ∨ prior.state = .recovering then
        let samples := prior.healthySamples + 1
        let gapStart := prior.gapStart.getD now
        let state : ContinuityState :=
          { state := if policy.rearmSamples ≤ samples then .healthy else .recovering
            gapStart := if samples < policy.rearmSamples then some gapStart else none
            lastGoodAt := some observed
            healthySamples := samples
            updatedAt := now }
        (some (ledgerEvent (if state.state = .healthy then .gapEnd else .recovering) state now
          reason (some gapStart) (if state.state = .healthy then some now else none)
          (some samples)), state)
      else (none, ⟨.healthy, none, some observed, 0, now⟩)

def afterSuspect (prior : ContinuityState) (now : Instant) :
    Option LedgerEvent × ContinuityState :=
  if prior.state = .gap ∨ prior.state = .recovering then
    (none, ⟨.gap, prior.gapStart, prior.lastGoodAt, 0, now⟩)
  else (none, ⟨.suspect, prior.gapStart, prior.lastGoodAt, 0, now⟩)

def afterUnhealthy (prior : ContinuityState) (reason : String) (now : Instant) :
    Option LedgerEvent × ContinuityState :=
  let gapStart := prior.gapStart.getD now
  let state : ContinuityState := ⟨.gap, some gapStart, prior.lastGoodAt, 0, now⟩
  if prior.state = .gap then (none, state)
  else (some (ledgerEvent .gapStart state now reason (some gapStart) none none), state)

/-- The state a step starts from: without a state, a healthy one. -/
def priorState (previous : Option ContinuityState) (now : Instant) : ContinuityState :=
  previous.getD ⟨.healthy, none, none, 0, now⟩

def advanceContinuity (previous : Option ContinuityState) (sample : Sample) :
    Option LedgerEvent × ContinuityState :=
  let prior := priorState previous sample.now
  match healthStatus policy sample.health sample.now with
  | .healthy reason observed =>
    afterHealthy policy prior sample.health reason observed sample.now
  | .suspect _ _ => afterSuspect prior sample.now
  | .unhealthy reason _ => afterUnhealthy prior reason sample.now

/-- The sample shows a healthy lane, observed at this time. -/
def Sample.healthyAt (sample : Sample) (observed : Instant) : Prop :=
  ∃ reason, healthStatus policy sample.health sample.now = .healthy reason observed

/-! ## What a step can do -/

/-- Every way a step goes, by the sample and the state before it. -/
inductive PhaseMove (policy : ContinuityPolicy) (prior : ContinuityState) (sample : Sample) :
    Option LedgerEvent → ContinuityState → Prop
  | repeated {observed : Instant} : sample.healthyAt policy observed → prior.repeats observed →
      PhaseMove policy prior sample none prior
  | silent {observed good : Instant} {event : LedgerEvent} {state : ContinuityState} :
      sample.healthyAt policy observed → prior.lastGoodAt = some good → good < observed →
      prior.state ≠ .gap → event.event = .gapStart →
        event.gapStart = prior.gapStart.or (some good) →
      state.state = .recovering → state.gapStart = prior.gapStart.or (some good) →
      state.lastGoodAt = some observed → state.healthySamples = 1 →
      PhaseMove policy prior sample (some event) state
  | counted {observed : Instant} {event : LedgerEvent} {state : ContinuityState} :
      sample.healthyAt policy observed →
      (∀ good, prior.lastGoodAt = some good → good < observed ∧
        (prior.state = .recovering → secondsBetween observed good ≤ sample.health.maxAge)) →
      prior.state = .gap ∨ prior.state = .recovering →
      prior.healthySamples + 1 < policy.rearmSamples →
      event.event = .recovering → event.gapStart = some (prior.gapStart.getD sample.now) →
      state.state = .recovering → state.gapStart = some (prior.gapStart.getD sample.now) →
      state.lastGoodAt = some observed → state.healthySamples = prior.healthySamples + 1 →
      PhaseMove policy prior sample (some event) state
  | recovered {observed : Instant} {event : LedgerEvent} {state : ContinuityState} :
      sample.healthyAt policy observed →
      (∀ good, prior.lastGoodAt = some good → good < observed ∧
        (prior.state = .recovering → secondsBetween observed good ≤ sample.health.maxAge)) →
      prior.state = .gap ∨ prior.state = .recovering →
      policy.rearmSamples ≤ prior.healthySamples + 1 →
      event.event = .gapEnd → event.gapStart = some (prior.gapStart.getD sample.now) →
      state.state = .healthy → state.gapStart = none →
      PhaseMove policy prior sample (some event) state
  | steady {state : ContinuityState} : prior.state ≠ .gap → prior.state ≠ .recovering →
      state.state = .healthy → state.gapStart = none → PhaseMove policy prior sample none state
  | suspected {state : ContinuityState} : prior.state ≠ .gap → prior.state ≠ .recovering →
      state.state = .suspect → state.gapStart = prior.gapStart →
      PhaseMove policy prior sample none state
  | fellBack {state : ContinuityState} : prior.state = .gap ∨ prior.state = .recovering →
      state.state = .gap → state.gapStart = prior.gapStart → state.healthySamples = 0 →
      PhaseMove policy prior sample none state
  | stillOpen {state : ContinuityState} : prior.state = .gap → state.state = .gap →
      state.gapStart = some (prior.gapStart.getD sample.now) → state.healthySamples = 0 →
      PhaseMove policy prior sample none state
  | opened {event : LedgerEvent} {state : ContinuityState} : prior.state ≠ .gap →
      event.event = .gapStart → event.gapStart = some (prior.gapStart.getD sample.now) →
      state.state = .gap → state.gapStart = some (prior.gapStart.getD sample.now) →
      state.healthySamples = 0 → PhaseMove policy prior sample (some event) state

theorem afterHealthy_move {policy : ContinuityPolicy} (prior : ContinuityState) (sample : Sample)
    {reason : String} {observed : Instant}
    (h : healthStatus policy sample.health sample.now = .healthy reason observed) :
    PhaseMove policy prior sample
      (afterHealthy policy prior sample.health reason observed sample.now).1
      (afterHealthy policy prior sample.health reason observed sample.now).2 := by
  have hat : sample.healthyAt policy observed := ⟨reason, h⟩
  unfold afterHealthy
  by_cases hrep : prior.repeats observed
  · rw [if_pos hrep]
    exact .repeated hat hrep
  · rw [if_neg hrep]
    have hfresh : ∀ good, prior.lastGoodAt = some good → good < observed := by
      intro good hgood
      by_contra hle
      exact hrep ⟨good, hgood, not_lt.mp hle⟩
    cases hsilent : prior.silentSince sample.health observed with
    | some good =>
      unfold ContinuityState.silentSince at hsilent
      cases hgood : prior.lastGoodAt with
      | none =>
        rw [hgood] at hsilent
        cases hsilent
      | some last =>
        rw [hgood] at hsilent
        dsimp only at hsilent
        split at hsilent
        · next hgap =>
            obtain rfl := Option.some.inj hsilent
            exact .silent hat hgood (hfresh last hgood) hgap.1 rfl rfl rfl rfl rfl rfl
        · cases hsilent
    | none =>
      by_cases hopen : prior.state = .gap ∨ prior.state = .recovering
      · have hclose : ∀ good, prior.lastGoodAt = some good → good < observed ∧
            (prior.state = .recovering →
              secondsBetween observed good ≤ sample.health.maxAge) := by
          intro good hgood
          refine ⟨hfresh good hgood, fun hrecovering => ?_⟩
          unfold ContinuityState.silentSince at hsilent
          rw [hgood] at hsilent
          dsimp only at hsilent
          by_contra hlong
          rw [if_pos ⟨by rw [hrecovering]; decide, not_le.mp hlong⟩] at hsilent
          cases hsilent
        dsimp only
        rw [if_pos hopen]
        by_cases hrearm : policy.rearmSamples ≤ prior.healthySamples + 1
        · rw [if_pos hrearm, if_neg (not_lt.mpr hrearm)]
          exact .recovered hat hclose hopen hrearm rfl rfl rfl rfl
        · rw [if_neg hrearm, if_pos (not_le.mp hrearm)]
          exact .counted hat hclose hopen (not_le.mp hrearm) rfl rfl rfl rfl rfl rfl
      · dsimp only
        rw [if_neg hopen]
        obtain ⟨hgap, hrecovering⟩ := not_or.mp hopen
        exact .steady hgap hrecovering rfl rfl

/-- **The step lemma.** -/
theorem advanceContinuity_move (previous : Option ContinuityState) (sample : Sample) :
    PhaseMove policy (priorState previous sample.now) sample
      (advanceContinuity policy previous sample).1
        (advanceContinuity policy previous sample).2 := by
  unfold advanceContinuity
  dsimp only
  generalize priorState previous sample.now = prior
  cases hstatus : healthStatus policy sample.health sample.now with
  | healthy reason observed => exact afterHealthy_move prior sample hstatus
  | suspect reason observed =>
    dsimp only [afterSuspect]
    by_cases hopen : prior.state = .gap ∨ prior.state = .recovering
    · rw [if_pos hopen]
      exact .fellBack hopen rfl rfl rfl
    · rw [if_neg hopen]
      obtain ⟨hgap, hrecovering⟩ := not_or.mp hopen
      exact .suspected hgap hrecovering rfl rfl
  | unhealthy reason observed =>
    dsimp only [afterUnhealthy]
    by_cases hgap : prior.state = .gap
    · rw [if_pos hgap]
      exact .stillOpen hgap rfl rfl rfl
    · rw [if_neg hgap]
      exact .opened hgap rfl rfl rfl rfl rfl

end SpxSpark.Ibkr
