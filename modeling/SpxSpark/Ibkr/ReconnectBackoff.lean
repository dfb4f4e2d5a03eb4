import Mathlib.Tactic.Positivity
import SpxSpark.Ibkr.CompetingSession
import SpxSpark.Lib.FloatRange

/-!
# ReconnectBackoff — the two backoffs of the stream runtime over a long outage

Floating point numbers are rationals here, except at the end of their range. The reconnect policy
doubles without a bound on the exponent; the circuit bounds it by the ratio of its limits.
-/

namespace SpxSpark.Ibkr

open Lib

/-! ## Reconnecting -/

structure ReconnectPolicy where
  minSeconds : ℚ
  maxSeconds : ℚ
  min_pos : 0 < minSeconds
  max_pos : 0 < maxSeconds
  attempt : ℕ := 0

def reconnectJitter (seconds : ℚ) (jitter : Jitter) : ℚ := seconds * jitter.factor

namespace ReconnectPolicy

/-- The delay, and the policy after it. A multiplication that raises leaves the policy as it is. -/
def nextDelay (policy : ReconnectPolicy) (jitter : Jitter) :
    Except OverflowError ℚ × ReconnectPolicy :=
  match timesInt policy.minSeconds (2 ^ policy.attempt) with
  | .error e => (.error e, policy)
  | .ok grown =>
    let base := min grown policy.maxSeconds
    (.ok (min (reconnectJitter base jitter) policy.maxSeconds),
      { policy with attempt := policy.attempt + 1 })

def reset (policy : ReconnectPolicy) : ReconnectPolicy := { policy with attempt := 0 }

theorem nextDelay_small {policy : ReconnectPolicy} (h : policy.attempt ≤ maxExponent)
    (jitter : Jitter) :
    ∃ delay, policy.nextDelay jitter = (.ok delay, { policy with attempt := policy.attempt + 1 }) ∧
      0 < delay ∧ delay ≤ policy.maxSeconds := by
  have hmin := policy.min_pos
  have hmax := policy.max_pos
  have hfactor : 0 < jitter.factor := lt_of_lt_of_le (by norm_num) jitter.half_le
  unfold nextDelay
  rw [timesInt_pow, if_pos h]
  refine ⟨_, rfl, lt_min ?_ hmax, min_le_right _ _⟩
  have hgrown : 0 < policy.minSeconds * 2 ^ policy.attempt := by positivity
  exact mul_pos (lt_min hgrown hmax) hfactor

theorem nextDelay_large {policy : ReconnectPolicy} (h : ¬ policy.attempt ≤ maxExponent)
    (jitter : Jitter) : policy.nextDelay jitter = (.error .intTooLarge, policy) := by
  unfold nextDelay
  rw [timesInt_pow, if_neg h]

end ReconnectPolicy

/-! ## Waiting for a competing session -/

namespace CompetingSessionCircuit

/-- `open` with its float arithmetic: the quotient of the limits may be infinite, and the power of
two too large. -/
def openChecked (circuit : CompetingSessionCircuit) (now : ℚ) :
    Except OverflowError ℚ × CompetingSessionCircuit :=
  let quotient := circuit.overlay.probeMaxSeconds / circuit.overlay.probeSeconds
  if (floatLimit : ℚ) ≤ quotient then (.error .infinityToInteger, circuit)
  else
    let maxDoublings := Nat.clog 2 ⌈quotient⌉₊
    let exponent := min circuit.failures maxDoublings
    match timesInt circuit.overlay.probeSeconds (2 ^ exponent) with
    | .error e => (.error e, circuit)
    | .ok grown =>
      let delay := min grown circuit.overlay.probeMaxSeconds
      (.ok delay, { circuit with
        failures := circuit.failures + 1
        retryNotBefore := now + delay
        recoveryStartedAt := none })

/-- The limits are within a float of each other, and the doublings within a float too. -/
def WithinFloats (circuit : CompetingSessionCircuit) : Prop :=
  circuit.overlay.probeMaxSeconds / circuit.overlay.probeSeconds < floatLimit ∧
    (circuit.failures ≤ maxExponent ∨
      circuit.overlay.probeMaxSeconds ≤ circuit.overlay.probeSeconds * 2 ^ maxExponent)

theorem exponent_le_iff (circuit : CompetingSessionCircuit) : min circuit.failures
        (Nat.clog 2 ⌈circuit.overlay.probeMaxSeconds / circuit.overlay.probeSeconds⌉₊) ≤
          maxExponent ↔
      circuit.failures ≤ maxExponent ∨
        circuit.overlay.probeMaxSeconds ≤ circuit.overlay.probeSeconds * 2 ^ maxExponent := by
  have hpos := circuit.overlay.probe_pos
  rw [min_le_iff, Nat.clog_le_iff_le_pow (by decide), Nat.ceil_le, div_le_iff₀ hpos,
    Nat.cast_pow, Nat.cast_ofNat, mul_comm]

theorem openChecked_within {circuit : CompetingSessionCircuit} (h : circuit.WithinFloats)
    (now : ℚ) : circuit.openChecked now =
      (.ok (circuit.openCircuit now).1, (circuit.openCircuit now).2) := by
  unfold openChecked
  dsimp only
  rw [if_neg (not_le.mpr h.1), timesInt_pow, if_pos ((exponent_le_iff circuit).mpr h.2)]
  rfl

theorem openChecked_beyond {circuit : CompetingSessionCircuit} (h : ¬ circuit.WithinFloats)
    (now : ℚ) : ∃ e, circuit.openChecked now = (.error e, circuit) := by
  unfold openChecked
  dsimp only
  split
  · exact ⟨_, rfl⟩
  · next hquotient =>
      have hexp : ¬ _ := fun hle =>
        h ⟨not_le.mp hquotient, (exponent_le_iff circuit).mp hle⟩
      rw [timesInt_pow, if_neg hexp]
      exact ⟨_, rfl⟩

theorem openCircuit_delay (circuit : CompetingSessionCircuit) (now : ℚ) :
    0 < (circuit.openCircuit now).1 ∧
      (circuit.openCircuit now).1 ≤ circuit.overlay.probeMaxSeconds := by
  have hpos := circuit.overlay.probe_pos
  have hmax : 0 < circuit.overlay.probeMaxSeconds := hpos.trans_le circuit.overlay.probe_le_max
  refine ⟨lt_min ?_ hmax, min_le_right _ _⟩
  positivity

end CompetingSessionCircuit

/-! ## Outages -/

/-- The backoff state of the runtime. -/
structure Backoffs where
  reconnect : ReconnectPolicy
  circuit : CompetingSessionCircuit

inductive OutageEvent
  /-- A connect or a session failed, and the runtime backs off. -/
  | failed (jitter : Jitter)
  /-- A session that had a healthy flush came to its end. -/
  | healthySession
  /-- A competing session took the market data. -/
  | conflict (now : ℚ)
  | observeHealthy (now : ℚ)
  | interruptRecovery
  /-- The overlay file changed, and reads as valid. -/
  | overlay (limits : ConflictOverlay)

namespace Backoffs

variable (backoffs : Backoffs)

/-- The delay an event asks for, if any, and the state after it. -/
def step : OutageEvent → Option (Except OverflowError ℚ) × Backoffs
  | .failed jitter =>
    let answer := backoffs.reconnect.nextDelay jitter
    (some answer.1, { backoffs with reconnect := answer.2 })
  | .healthySession => (none, { backoffs with reconnect := backoffs.reconnect.reset })
  | .conflict now =>
    let answer := backoffs.circuit.openChecked now
    (some answer.1, { backoffs with circuit := answer.2 })
  | .observeHealthy now =>
    (none, { backoffs with circuit := (backoffs.circuit.observeHealthy now).2 })
  | .interruptRecovery =>
    (none, { backoffs with circuit := backoffs.circuit.interruptRecovery })
  | .overlay limits =>
    (none, { backoffs with circuit := { backoffs.circuit with overlay := limits } })

theorem step_failed (jitter : Jitter) : backoffs.step (.failed jitter) =
      (some (backoffs.reconnect.nextDelay jitter).1,
        { backoffs with reconnect := (backoffs.reconnect.nextDelay jitter).2 }) := rfl

theorem step_conflict (now : ℚ) : backoffs.step (.conflict now) =
      (some (backoffs.circuit.openChecked now).1,
        { backoffs with circuit := (backoffs.circuit.openChecked now).2 }) := rfl

/-- The limit an event's delay is held to. -/
def limit : OutageEvent → ℚ
  | .conflict _ => backoffs.circuit.overlay.probeMaxSeconds
  | _ => backoffs.reconnect.maxSeconds

/-- The event is answered, and a delay it gives is positive and within the configured maximum. -/
def Answered (event : OutageEvent) : Prop :=
  ∀ delay, (backoffs.step event).1 = some delay →
    ∃ seconds, delay = .ok seconds ∧ 0 < seconds ∧ seconds ≤ backoffs.limit event

theorem answered_failed (jitter : Jitter) :
    backoffs.Answered (.failed jitter) ↔ backoffs.reconnect.attempt ≤ maxExponent := by
  unfold Answered
  rw [step_failed]
  constructor
  · intro h
    by_contra hlarge
    obtain ⟨seconds, hok, -⟩ := h _ rfl
    rw [ReconnectPolicy.nextDelay_large hlarge] at hok
    cases hok
  · intro hsmall delay hdelay
    obtain ⟨seconds, hnext, hpos, hle⟩ := ReconnectPolicy.nextDelay_small hsmall jitter
    rw [hnext] at hdelay
    exact ⟨seconds, (Option.some.inj hdelay).symm, hpos, hle⟩

theorem answered_conflict (now : ℚ) :
    backoffs.Answered (.conflict now) ↔ backoffs.circuit.WithinFloats := by
  unfold Answered
  rw [step_conflict]
  constructor
  · intro h
    by_contra hbeyond
    obtain ⟨seconds, hok, -⟩ := h _ rfl
    obtain ⟨e, he⟩ := CompetingSessionCircuit.openChecked_beyond hbeyond now
    rw [he] at hok
    cases hok
  · intro hwithin delay hdelay
    obtain ⟨hpos, hle⟩ := backoffs.circuit.openCircuit_delay now
    rw [CompetingSessionCircuit.openChecked_within hwithin now] at hdelay
    exact ⟨_, (Option.some.inj hdelay).symm, hpos, hle⟩

/-- How many failed attempts a log ends in without a healthy session between them; a failure whose
delay could not be computed leaves the count. -/
def failedInARow (evs : List (OutageEvent × Option (Except OverflowError ℚ))) : ℕ :=
  evs.foldl (fun count ev =>
    match ev with
    | (.failed _, some (.ok _)) => count + 1
    | (.healthySession, _) => 0
    | _ => count) 0

theorem failedInARow_snoc (evs : List (OutageEvent × Option (Except OverflowError ℚ)))
    (ev : OutageEvent × Option (Except OverflowError ℚ)) :
    failedInARow (evs ++ [ev]) =
      match ev with
      | (.failed _, some (.ok _)) => failedInARow evs + 1
      | (.healthySession, _) => 0
      | _ => failedInARow evs := by
  unfold failedInARow
  rw [List.foldl_append]
  rfl

theorem run_attempt {start backoffs : Backoffs}
    {evs : List (OutageEvent × Option (Except OverflowError ℚ))}
    (hstart : start.reconnect.attempt = 0) (h : Run step anyStep start evs backoffs) :
    backoffs.reconnect.attempt = failedInARow evs := by
  refine h.invariant_log (I := fun evs (s : Backoffs) =>
    s.reconnect.attempt = failedInARow evs) hstart ?_
  intro evs s event hs _
  rw [failedInARow_snoc]
  cases event with
  | failed jitter =>
    by_cases hsmall : s.reconnect.attempt ≤ maxExponent
    · obtain ⟨seconds, hnext, -⟩ := ReconnectPolicy.nextDelay_small hsmall jitter
      rw [step_failed, hnext]
      exact congrArg (· + 1) hs
    · rw [step_failed, ReconnectPolicy.nextDelay_large hsmall jitter]
      exact hs
  | healthySession => rfl
  | conflict now => exact hs
  | observeHealthy now => exact hs
  | interruptRecovery => exact hs
  | overlay limits => exact hs

/-- In every run of failures, conflicts, healthy sessions and new overlays, an event is answered
with a positive delay within its limit exactly when no exponent of it is beyond a 64-bit float: a
failure, when fewer than 1024 failed attempts came before it since the last healthy session; a
conflict, when the circuit's limits are that close together or it opened fewer than 1024 times. -/
theorem outage_answered_iff {start : Backoffs} (hstart : start.reconnect.attempt = 0)
    {evs : List (OutageEvent × Option (Except OverflowError ℚ))} {backoffs : Backoffs}
    (h : Run step anyStep start evs backoffs) :
    (∀ jitter, backoffs.Answered (.failed jitter) ↔ failedInARow evs ≤ maxExponent) ∧
    (∀ now, backoffs.Answered (.conflict now) ↔ backoffs.circuit.WithinFloats) ∧
    (∀ event, (∀ jitter, event ≠ .failed jitter) → (∀ now, event ≠ .conflict now) →
      (backoffs.step event).1 = none) := by
  refine ⟨?_, ?_, ?_⟩
  · intro jitter
    rw [answered_failed, ← run_attempt hstart h]
  · exact answered_conflict backoffs
  · intro event hfailed hconflict
    cases event with
    | failed jitter => exact absurd rfl (hfailed jitter)
    | conflict now => exact absurd rfl (hconflict now)
    | healthySession => rfl
    | observeHealthy now => rfl
    | interruptRecovery => rfl
    | overlay limits => rfl

/-- A gateway that stays away: limits of five and sixty seconds, and as many failures as needed. -/
def overnight : Backoffs where
  reconnect := { minSeconds := 5, maxSeconds := 60, min_pos := by norm_num, max_pos := by norm_num }
  circuit :=
    { overlay :=
        { recoverySeconds := 8
          probeSeconds := 30
          probeMaxSeconds := 300
          recovery_pos := by norm_num
          probe_pos := by norm_num
          probe_le_max := by norm_num } }

def evenJitter : Jitter := ⟨1, by norm_num, by norm_num⟩

theorem failures_reach (start : Backoffs) (hstart : start.reconnect.attempt = 0) :
    ∀ n ≤ maxExponent + 1, ∃ evs backoffs, Run step anyStep start evs backoffs ∧
      backoffs.reconnect.attempt = n ∧ failedInARow evs = n := by
  intro n
  induction n with
  | zero => exact fun _ => ⟨[], start, .nil, hstart, rfl⟩
  | succ n ih =>
    intro hn
    obtain ⟨evs, s, hrun, hattempt, -⟩ := ih (by omega)
    have hsmall : s.reconnect.attempt ≤ maxExponent := by omega
    obtain ⟨seconds, hnext, -⟩ := ReconnectPolicy.nextDelay_small hsmall evenJitter
    have hrun' := hrun.snoc (.failed evenJitter) trivial
    have hattempt' : (s.step (.failed evenJitter)).2.reconnect.attempt = n + 1 := by
      rw [step_failed, hnext, ← hattempt]
    exact ⟨_, _, hrun', hattempt', (run_attempt hstart hrun').symm.trans hattempt'⟩

/-- The attempt after 1024 failures in a row has no delay. -/
theorem overnight_unanswered : ∃ evs backoffs, Run step anyStep overnight evs backoffs ∧
      failedInARow evs = maxExponent + 1 ∧
      (backoffs.step (.failed evenJitter)).1 = some (.error .intTooLarge) ∧
      ¬ backoffs.Answered (.failed evenJitter) := by
  obtain ⟨evs, s, hrun, hattempt, hcount⟩ :=
    failures_reach overnight rfl (maxExponent + 1) le_rfl
  have hlarge : ¬ s.reconnect.attempt ≤ maxExponent := by omega
  refine ⟨evs, s, hrun, hcount, ?_, ?_⟩
  · rw [step_failed, ReconnectPolicy.nextDelay_large hlarge]
  · rw [answered_failed]
    exact hlarge

/-- Two failures and a session that was healthy, then two more failures with a competing session
between them, an overlay that shortens the probes, and the session again. -/
def brokenNight : List OutageEvent :=
  [.failed evenJitter, .failed evenJitter, .healthySession, .failed evenJitter, .conflict 100,
    .failed evenJitter, .overlay { overnight.circuit.overlay with
      probeSeconds := 12, probe_pos := by norm_num, probe_le_max := by decide +kernel },
    .conflict 140]

theorem outage_answered_overlaid :
    let night := play step overnight brokenNight
    failedInARow night.1 = 2 ∧ night.2.circuit.failures = 2 ∧
      night.2.circuit.overlay.probeSeconds = 12 ∧
      (night.2.step (.failed evenJitter)).1 = some (.ok 20) ∧
      night.2.Answered (.failed evenJitter) ∧ night.2.Answered (.conflict 400) ∧
      (night.2.step .healthySession).1 = none := by
  intro night
  have hrow : failedInARow night.1 = 2 := by decide +kernel
  have hfailures : night.2.circuit.failures = 2 := by decide +kernel
  have hratio : night.2.circuit.overlay.probeMaxSeconds / night.2.circuit.overlay.probeSeconds
      < floatLimit := by
    decide +kernel
  have hrun : Run step anyStep overnight night.1 night.2 := run_play step brokenNight overnight
  obtain ⟨hfailed, hconflict, hquiet⟩ := outage_answered_iff rfl hrun
  refine ⟨hrow, hfailures, by decide +kernel, by decide +kernel, (hfailed evenJitter).mpr ?_,
    (hconflict 400).mpr ⟨hratio, .inl ?_⟩, hquiet _ nofun nofun⟩
  · show failedInARow night.1 ≤ maxExponent
    rw [hrow]
    decide
  · rw [hfailures]
    decide

end Backoffs

end SpxSpark.Ibkr
