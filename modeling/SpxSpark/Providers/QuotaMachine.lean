import Mathlib.Tactic.Linarith
import SpxSpark.Lib.Hysteresis
import SpxSpark.Lib.Run

/-!
# QuotaMachine — the Schwab request quota

The gateway keeps the requests of the last minute, the collector steps a quota machine from the
counts of that window at the start and at the end of every cycle, and the machine adds the window
counts up while it cools down.
-/

namespace SpxSpark.Providers

open Lib List

/-! ## Requests and their window -/

/-- One attempt at a request; times are seconds of the wall clock. -/
structure SchwabRequestObservation where
  attemptedAtEpoch : ℚ
  retryIndex : Nat := 0
  statusCode : Option Int
  responseBytes : Nat := 0

/-- No answer, or one outside the 2xx range. -/
def SchwabRequestObservation.failed (observation : SchwabRequestObservation) : Bool :=
  match observation.statusCode with
  | none => true
  | some status => status < 200 || 300 ≤ status

/-- `HTTP_TOO_MANY_REQUESTS`. -/
def SchwabRequestObservation.throttled (observation : SchwabRequestObservation) : Bool :=
  observation.statusCode = some 429

structure RequestWindow where
  attempts : Nat := 0
  retries : Nat := 0
  throttled : Nat := 0
  failures : Nat := 0
  responseBytes : Nat := 0

/-- The request was attempted in the last 60 seconds. -/
def inWindow (now : ℚ) (observation : SchwabRequestObservation) : Bool :=
  now - 60 ≤ observation.attemptedAtEpoch

/-- `_request_window`. -/
def requestWindow (recorded : List SchwabRequestObservation) (now : ℚ) : RequestWindow :=
  let observations := recorded.filter (inWindow now)
  { attempts := observations.length
    retries := observations.countP fun item => 0 < item.retryIndex
    throttled := observations.countP (·.throttled)
    failures := observations.countP (·.failed)
    responseBytes := (observations.map (·.responseBytes)).sum }

/-! ## The machine -/

inductive QuotaMode
  | normal
  | pressure
  | throttled
  | cooldown
  | recovering
  deriving DecidableEq

/-- The limits, with what `__post_init__` requires of them. -/
structure QuotaPolicy where
  nominalRequestsPerMinute : Nat := 120
  plannedRequestsPerMinute : Nat := 96
  pressureFraction : ℚ := 70 / 100
  recoveryFraction : ℚ := 50 / 100
  recoverySuccesses : Nat := 10
  nominal_pos : 0 < nominalRequestsPerMinute
  planned_pos : 0 < plannedRequestsPerMinute
  planned_lt : plannedRequestsPerMinute < nominalRequestsPerMinute
  recoveryFraction_pos : 0 < recoveryFraction
  recovery_lt_pressure : recoveryFraction < pressureFraction
  pressureFraction_lt : pressureFraction < 1

structure QuotaState where
  mode : QuotaMode := .normal
  consecutiveSuccesses : Nat := 0
  stableWindows : Nat := 0

/-- The successes a cooldown has counted with one more window. -/
def cooldownSuccesses (state : QuotaState) (window : RequestWindow) : Nat :=
  if 0 < window.failures then 0
  else state.consecutiveSuccesses + (window.attempts - window.failures)

def advanceQuotaState (state : QuotaState) (window : RequestWindow) (policy : QuotaPolicy)
    (retryAfterElapsed : Bool) : QuotaState :=
  if 0 < window.throttled then { mode := .throttled }
  else
    match state.mode with
    | .throttled => if retryAfterElapsed then { mode := .cooldown } else state
    | .cooldown =>
      if policy.recoverySuccesses ≤ cooldownSuccesses state window then { mode := .recovering }
      else { mode := .cooldown, consecutiveSuccesses := cooldownSuccesses state window }
    | .recovering =>
      if 0 < window.failures then { mode := .pressure }
      else if 5 ≤ state.stableWindows + 1 then { mode := .normal }
      else { mode := .recovering, stableWindows := state.stableWindows + 1 }
    | .normal | .pressure =>
      if policy.nominalRequestsPerMinute * policy.pressureFraction ≤ window.attempts then
        { mode := .pressure }
      else if state.mode = .pressure ∧
          (window.attempts : ℚ) < policy.nominalRequestsPerMinute * policy.recoveryFraction ∧
          window.failures = 0 then
        { mode := .normal }
      else state

/-- One step of the collector: the window of the moment, and the throttle taken as over once it
holds neither a 429 nor a failure. -/
def evaluateQuota (policy : QuotaPolicy) (recorded : List SchwabRequestObservation) (now : ℚ)
    (state : QuotaState) : QuotaState :=
  let window := requestWindow recorded now
  advanceQuotaState state window policy
    (state.mode = .throttled && window.throttled = 0 && window.failures = 0)

/-! ## Runs of the collector -/

/-- A request is recorded, or the window read, as a cycle does when it starts and when it ends. -/
inductive CollectorEvent
  | request (observation : SchwabRequestObservation)
  | evaluate (now : ℚ)

/-- Everything recorded, the quota state, and two marks in the record: how far it had grown at the
last reading, and when the machine last entered the cooldown. -/
structure CollectorRun where
  recorded : List SchwabRequestObservation := []
  quota : QuotaState := {}
  evaluated : Nat := 0
  entered : Nat := 0

structure QuotaReading where
  before : QuotaState
  window : RequestWindow
  after : QuotaState

section Collector

variable (policy : QuotaPolicy)

def collectorStep (s : CollectorRun) : CollectorEvent → Option QuotaReading × CollectorRun
  | .request observation => (none, { s with recorded := s.recorded ++ [observation] })
  | .evaluate now =>
    let after := evaluateQuota policy s.recorded now s.quota
    (some ⟨s.quota, requestWindow s.recorded now, after⟩,
      { s with
        quota := after
        evaluated := s.recorded.length
        entered :=
          if s.quota.mode ≠ .cooldown ∧ after.mode = .cooldown then s.recorded.length
          else s.entered })

/-- A reading in the cooldown counts each request once: no success in its window was there at the
last reading already, and no failure since then has left it. -/
def CountsOnce (s : CollectorRun) : CollectorEvent → Prop
  | .request _ => True
  | .evaluate now =>
    s.quota.mode = .cooldown →
      (∀ item ∈ s.recorded.take s.evaluated, item.failed = false → inWindow now item = false) ∧
        ∀ item ∈ s.recorded.drop s.evaluated, item.failed = true → inWindow now item = true

instance (s : CollectorRun) : (event : CollectorEvent) → Decidable (CountsOnce s event)
  | .request _ => .isTrue trivial
  | .evaluate _ => inferInstanceAs (Decidable (_ → _))

variable (events : List (CollectorEvent × Option QuotaReading))

/-- The readings of a run, in order. -/
def readings : List QuotaReading :=
  events.filterMap (·.2)

/-- A failure-free reading while recovering. -/
def QuotaReading.stable (reading : QuotaReading) : Bool :=
  reading.before.mode = .recovering && reading.window.failures = 0 &&
    reading.window.throttled = 0

/-! ## One reading -/

variable {recorded : List SchwabRequestObservation} {now : ℚ}

theorem evaluateQuota_throttled (state : QuotaState)
    (h : 0 < (requestWindow recorded now).throttled) :
    (evaluateQuota policy recorded now state).mode = .throttled := by
  unfold evaluateQuota advanceQuotaState
  simp only
  rw [if_pos h]

theorem throttled_pos_iff :
    0 < (requestWindow recorded now).throttled ↔
      ∃ item ∈ recorded, item.throttled = true ∧ now - 60 ≤ item.attemptedAtEpoch := by
  show 0 < (recorded.filter (inWindow now)).countP _ ↔ _
  rw [countP_pos_iff]
  constructor
  · rintro ⟨item, hitem, hthrottled⟩
    obtain ⟨hmem, hwindow⟩ := mem_filter.mp hitem
    exact ⟨item, hmem, hthrottled, of_decide_eq_true hwindow⟩
  · rintro ⟨item, hmem, hthrottled, hwindow⟩
    exact ⟨item, mem_filter.mpr ⟨hmem, decide_eq_true hwindow⟩, hthrottled⟩

variable {state : QuotaState}

theorem evaluateQuota_cooldown (hmode : state.mode = .cooldown)
    (hthrottled : (requestWindow recorded now).throttled = 0) :
    evaluateQuota policy recorded now state =
      if policy.recoverySuccesses ≤ cooldownSuccesses state (requestWindow recorded now) then
        { mode := .recovering }
      else
        { mode := .cooldown
          consecutiveSuccesses := cooldownSuccesses state (requestWindow recorded now) } := by
  unfold evaluateQuota advanceQuotaState
  simp [hmode, hthrottled]

theorem evaluateQuota_recovering (hmode : state.mode = .recovering)
    (hthrottled : (requestWindow recorded now).throttled = 0) :
    evaluateQuota policy recorded now state =
      if 0 < (requestWindow recorded now).failures then { mode := .pressure }
      else if 5 ≤ state.stableWindows + 1 then { mode := .normal }
      else { mode := .recovering, stableWindows := state.stableWindows + 1 } := by
  unfold evaluateQuota advanceQuotaState
  simp [hmode, hthrottled]

theorem evaluateQuota_enters_cooldown (hmode : state.mode ≠ .cooldown)
    (hafter : (evaluateQuota policy recorded now state).mode = .cooldown) :
    (evaluateQuota policy recorded now state).consecutiveSuccesses = 0 := by
  unfold evaluateQuota advanceQuotaState at hafter ⊢
  simp only at hafter ⊢
  split at hafter
  · cases hafter
  · rename_i hthrottled
    rw [if_neg hthrottled]
    cases hm : state.mode <;> simp only [hm] at hafter hmode ⊢ <;> grind

/-- Recovery is entered from the cooldown or kept, and each failure-free reading in it counts one
stable window. -/
theorem evaluateQuota_to_recovering
    (hafter : (evaluateQuota policy recorded now state).mode = .recovering) :
    state.mode = .cooldown ∧ (evaluateQuota policy recorded now state).stableWindows = 0 ∨
      state.mode = .recovering ∧ (requestWindow recorded now).failures = 0 ∧
        (requestWindow recorded now).throttled = 0 ∧
        (evaluateQuota policy recorded now state).stableWindows = state.stableWindows + 1 := by
  unfold evaluateQuota advanceQuotaState at hafter ⊢
  simp only at hafter ⊢
  split at hafter
  · cases hafter
  · rename_i hthrottled
    rw [if_neg hthrottled]
    cases hm : state.mode <;> simp only [hm] at hafter ⊢ <;> grind

/-! ## What a reading counts -/

variable {s : CollectorRun}

theorem successes_le
    (hold : ∀ item ∈ s.recorded.take s.evaluated, item.failed = false → inWindow now item = false)
    (hnone : (requestWindow s.recorded now).failures = 0) :
    (requestWindow s.recorded now).attempts ≤ (s.recorded.drop s.evaluated).length := by
  have hsplit : s.recorded = s.recorded.take s.evaluated ++ s.recorded.drop s.evaluated :=
    (take_append_drop _ _).symm
  have hclean : ∀ item ∈ s.recorded.filter (inWindow now), item.failed = false := by
    have := countP_eq_zero.mp hnone
    intro item hitem
    simpa using this item hitem
  -- nothing recorded by the last reading is left in the window
  have hempty : (s.recorded.take s.evaluated).filter (inWindow now) = [] := by
    refine filter_eq_nil_iff.mpr fun item hitem hwindow => ?_
    have hmem : item ∈ s.recorded.filter (inWindow now) :=
      mem_filter.mpr ⟨mem_of_mem_take hitem, hwindow⟩
    rw [hold item hitem (hclean item hmem)] at hwindow
    cases hwindow
  show (s.recorded.filter (inWindow now)).length ≤ _
  rw [hsplit, filter_append, hempty, nil_append]
  simp only [← hsplit]
  exact length_filter_le _ _

theorem since_succeeded
    (hnew : ∀ item ∈ s.recorded.drop s.evaluated, item.failed = true → inWindow now item = true)
    (hnone : (requestWindow s.recorded now).failures = 0) :
    ∀ item ∈ s.recorded.drop s.evaluated, item.failed = false := by
  intro item hitem
  by_contra hfailed
  rw [Bool.not_eq_false] at hfailed
  have hmem : item ∈ s.recorded.filter (inWindow now) :=
    mem_filter.mpr ⟨mem_of_mem_drop hitem, hnew item hitem hfailed⟩
  exact countP_eq_zero.mp hnone item hmem hfailed

/-! ## The invariant -/

/-- In the cooldown the counter is at most the number of requests recorded since some moment of
this cooldown, all of which succeeded. -/
structure CooldownCounted (s : CollectorRun) : Prop where
  evaluated_le : s.evaluated ≤ s.recorded.length
  counted : s.quota.mode = .cooldown → ∃ start, s.entered ≤ start ∧ start ≤ s.evaluated ∧
    s.quota.consecutiveSuccesses ≤ s.evaluated - start ∧
    ∀ item ∈ (s.recorded.take s.evaluated).drop start, item.failed = false

theorem CooldownCounted.reading (h : CooldownCounted s) (hmode : s.quota.mode = .cooldown)
    (honce : CountsOnce s (.evaluate now)) :
    ∃ start, s.entered ≤ start ∧ start ≤ s.recorded.length ∧
      cooldownSuccesses s.quota (requestWindow s.recorded now) ≤ s.recorded.length - start ∧
      ∀ item ∈ s.recorded.drop start, item.failed = false := by
  obtain ⟨start, hentered, hstart, hcount, hsucceeded⟩ := h.counted hmode
  have hevaluated := h.evaluated_le
  unfold cooldownSuccesses
  by_cases hfail : 0 < (requestWindow s.recorded now).failures
  · -- a failure starts the count again at this reading
    rw [if_pos hfail]
    refine ⟨s.recorded.length, by omega, le_rfl, Nat.zero_le _, ?_⟩
    rw [drop_length]
    exact fun item hitem => absurd hitem not_mem_nil
  · rw [if_neg hfail]
    have hnone : (requestWindow s.recorded now).failures = 0 := by omega
    obtain ⟨hold, hnew⟩ := honce hmode
    have hle := successes_le hold hnone
    rw [length_drop] at hle
    refine ⟨start, hentered, by omega, by omega, ?_⟩
    intro item hitem
    have hsplit : s.recorded.drop start =
        (s.recorded.take s.evaluated).drop start ++ s.recorded.drop s.evaluated := by
      conv_lhs => rw [← take_append_drop s.evaluated s.recorded]
      rw [drop_append_of_le_length]
      rw [length_take]
      omega
    rw [hsplit] at hitem
    rcases mem_append.mp hitem with hitem | hitem
    · exact hsucceeded item hitem
    · exact since_succeeded hnew hnone item hitem

theorem cooldownCounted_start : CooldownCounted {} :=
  ⟨le_rfl, fun h => by cases h⟩

theorem collectorStep_counted (event : CollectorEvent) (h : CooldownCounted s)
    (honce : CountsOnce s event) : CooldownCounted (collectorStep policy s event).2 := by
  cases event with
  | request observation =>
    refine ⟨?_, ?_⟩
    · show s.evaluated ≤ (s.recorded ++ [observation]).length
      have := h.evaluated_le
      rw [length_append]
      omega
    · intro hmode
      obtain ⟨start, hentered, hstart, hcount, hsucceeded⟩ := h.counted hmode
      refine ⟨start, hentered, hstart, hcount, ?_⟩
      show ∀ item ∈ ((s.recorded ++ [observation]).take s.evaluated).drop start, _
      rw [take_append_of_le_length h.evaluated_le]
      exact hsucceeded
  | evaluate now =>
    refine ⟨le_rfl, ?_⟩
    intro hafter
    show ∃ start, (if s.quota.mode ≠ .cooldown ∧ _ then _ else _) ≤ start ∧
      start ≤ s.recorded.length ∧
      (evaluateQuota policy s.recorded now s.quota).consecutiveSuccesses ≤
        s.recorded.length - start ∧
      ∀ item ∈ (s.recorded.take s.recorded.length).drop start, _
    rw [take_length]
    by_cases hmode : s.quota.mode = .cooldown
    · rw [if_neg fun hne => hne.1 hmode]
      obtain ⟨start, hentered, hstart, hcount, hsucceeded⟩ := h.reading hmode honce
      refine ⟨start, hentered, hstart, ?_, hsucceeded⟩
      have hthrottled : (requestWindow s.recorded now).throttled = 0 := by
        by_contra hpos
        have := evaluateQuota_throttled policy s.quota (Nat.pos_of_ne_zero hpos)
        rw [show (evaluateQuota policy s.recorded now s.quota).mode = .cooldown from hafter] at this
        cases this
      have heq := evaluateQuota_cooldown policy hmode hthrottled
      rw [heq]
      split
      · exact Nat.zero_le _
      · exact hcount
    · rw [if_pos ⟨hmode, hafter⟩]
      refine ⟨s.recorded.length, le_rfl, le_rfl, ?_, ?_⟩
      · rw [evaluateQuota_enters_cooldown policy hmode hafter]
        exact Nat.zero_le _
      · rw [drop_length]
        exact fun item hitem => absurd hitem not_mem_nil

/-- The stable windows of a recovery are failure-free readings in a row. -/
def RecoveryCounted (s : CollectorRun) : Prop :=
  s.quota.mode = .recovering →
    s.quota.stableWindows ≤ trailingRun QuotaReading.stable (readings events)

theorem readings_snoc_evaluate (s : CollectorRun) (now : ℚ) :
    readings (events ++ [(.evaluate now, (collectorStep policy s (.evaluate now)).1)]) =
      readings events ++ [⟨s.quota, requestWindow s.recorded now,
        evaluateQuota policy s.recorded now s.quota⟩] := by
  unfold readings
  rw [filterMap_append]
  rfl

theorem collectorStep_recovery {events : List (CollectorEvent × Option QuotaReading)}
    (event : CollectorEvent) (h : RecoveryCounted events s) :
    RecoveryCounted (events ++ [(event, (collectorStep policy s event).1)])
      (collectorStep policy s event).2 := by
  cases event with
  | request observation =>
    intro hmode
    have hsame : readings (events ++ [(.request observation,
        (collectorStep policy s (.request observation)).1)]) = readings events := by
      unfold readings
      rw [filterMap_append]
      exact append_nil _
    rw [hsame]
    exact h hmode
  | evaluate now =>
    intro hmode
    rw [readings_snoc_evaluate, trailingRun_snoc]
    rcases evaluateQuota_to_recovering policy hmode with ⟨-, hzero⟩ | ⟨hbefore, hf, ht, hnext⟩
    · exact le_trans (le_of_eq hzero) (Nat.zero_le _)
    · have hstable : QuotaReading.stable ⟨s.quota, requestWindow s.recorded now,
          evaluateQuota policy s.recorded now s.quota⟩ = true := by
        simp [QuotaReading.stable, hbefore, hf, ht]
      rw [if_pos hstable]
      show (evaluateQuota policy s.recorded now s.quota).stableWindows ≤ _
      rw [hnext]
      have := h hbefore
      omega

end Collector

/-! ## Recovery counts real requests -/

/-- In every run of the collector, a reading with a 429 in its window throttles, and recovery ends
in `normal` only at the fifth failure-free reading in a row. Where every reading in the cooldown
counts each request once, the cooldown ends in recovery only after `recoverySuccesses` distinct
requests recorded in it have succeeded with no failure among those recorded since the first of
them; so, if no request recorded in the cooldown failed, after that many in the cooldown. -/
theorem quota_recovery (policy : QuotaPolicy)
    {events : List (CollectorEvent × Option QuotaReading)} {s : CollectorRun}
    (h : Run (collectorStep policy) CountsOnce {} events s) (now : ℚ) :
    (CountsOnce s (.evaluate now) → s.quota.mode = .cooldown →
      (evaluateQuota policy s.recorded now s.quota).mode = .recovering →
      (∃ start, s.entered ≤ start ∧ (∀ item ∈ s.recorded.drop start, item.failed = false) ∧
        policy.recoverySuccesses ≤ (s.recorded.drop start).length) ∧
      ((∀ item ∈ s.recorded.drop s.entered, item.failed = false) →
        policy.recoverySuccesses ≤ (s.recorded.drop s.entered).length)) ∧
    (s.quota.mode = .recovering →
      (evaluateQuota policy s.recorded now s.quota).mode = .normal →
      5 ≤ trailingRun QuotaReading.stable
        (readings (events ++ [(.evaluate now, (collectorStep policy s (.evaluate now)).1)]))) ∧
    ((∃ item ∈ s.recorded, item.throttled = true ∧ now - 60 ≤ item.attemptedAtEpoch) →
      (evaluateQuota policy s.recorded now s.quota).mode = .throttled) := by
  have hcounted : CooldownCounted s :=
    h.invariant cooldownCounted_start fun _ event hs honce =>
      collectorStep_counted policy event hs honce
  have hrecovery : RecoveryCounted events s :=
    h.invariant_log (fun hmode => by cases hmode) fun _ _ event hs _ =>
      collectorStep_recovery policy event hs
  refine ⟨?_, ?_, ?_⟩
  · intro honce hmode hafter
    have hthrottled : (requestWindow s.recorded now).throttled = 0 := by
      by_contra hpos
      rw [evaluateQuota_throttled policy _ (Nat.pos_of_ne_zero hpos)] at hafter
      cases hafter
    obtain ⟨start, hentered, hstart, hcount, hsucceeded⟩ := hcounted.reading hmode honce
    rw [evaluateQuota_cooldown policy hmode hthrottled] at hafter
    split at hafter
    · rename_i hreached
      have hlength : policy.recoverySuccesses ≤ (s.recorded.drop start).length := by
        rw [length_drop]
        omega
      refine ⟨⟨start, hentered, hsucceeded, hlength⟩, fun _ => ?_⟩
      rw [length_drop] at hlength ⊢
      omega
    · cases hafter
  · intro hmode hafter
    have hthrottled : (requestWindow s.recorded now).throttled = 0 := by
      by_contra hpos
      rw [evaluateQuota_throttled policy _ (Nat.pos_of_ne_zero hpos)] at hafter
      cases hafter
    rw [evaluateQuota_recovering policy hmode hthrottled] at hafter
    split at hafter
    · cases hafter
    · rename_i hfailures
      split at hafter
      · rename_i hfive
        have hstable : QuotaReading.stable ⟨s.quota, requestWindow s.recorded now,
            evaluateQuota policy s.recorded now s.quota⟩ = true := by
          simp only [QuotaReading.stable, hmode, hthrottled]
          simp
          omega
        rw [readings_snoc_evaluate, trailingRun_snoc, if_pos hstable]
        have := hrecovery hmode
        omega
      · cases hafter
  · intro hitem
    exact evaluateQuota_throttled policy _ (throttled_pos_iff.mpr hitem)

def collectorPolicy : QuotaPolicy :=
  { nominal_pos := by decide, planned_pos := by decide, planned_lt := by decide
    recoveryFraction_pos := by decide +kernel, recovery_lt_pressure := by decide +kernel
    pressureFraction_lt := by decide +kernel }

def answered (status : Int) (attemptedAt : ℚ) : SchwabRequestObservation :=
  ⟨attemptedAt, 0, some status, 0⟩

/-- A 429, a quiet minute, then ten answers in one cycle. -/
def tenAnswers : List CollectorEvent :=
  [.evaluate 0, .request (answered 429 0), .evaluate 1, .evaluate 61] ++
    (List.replicate 10 (answered 200 62)).map .request

theorem tenAnswers_countsOnce :
    Allowed (collectorStep collectorPolicy) CountsOnce {} tenAnswers := by
  decide +kernel

/-- Ten distinct requests succeed before the machine recovers. -/
theorem quota_recovery_tenAnswers : collectorPolicy.recoverySuccesses ≤
      (((play (collectorStep collectorPolicy) {} tenAnswers).2.recorded).drop
        (play (collectorStep collectorPolicy) {} tenAnswers).2.entered).length :=
  ((quota_recovery collectorPolicy (Run.play tenAnswers_countsOnce) 63).1 (by decide +kernel)
    (by decide +kernel) (by decide +kernel)).2 (by decide +kernel)

/-- One answer, read at the ends of five cycles: the ten readings count it ten times. -/
def oneAnswer : List CollectorEvent :=
  [.evaluate 0, .request (answered 429 0), .evaluate 1, .evaluate 61, .request (answered 200 62)] ++
    [63, 70, 71, 80, 81, 90, 91, 100, 101].map .evaluate

/-- The cooldown ends after a single request has succeeded. -/
theorem recovers_after_one_answer :
    ¬∀ (events : List (CollectorEvent × Option QuotaReading)) (s : CollectorRun) (now : ℚ),
      Run (collectorStep collectorPolicy) anyStep {} events s → s.quota.mode = .cooldown →
      (evaluateQuota collectorPolicy s.recorded now s.quota).mode = .recovering →
      collectorPolicy.recoverySuccesses ≤ s.recorded.countP fun item => !item.failed := by
  intro h
  have hrun := run_play (collectorStep collectorPolicy) oneAnswer {}
  exact absurd (h _ _ 110 hrun (by decide +kernel) (by decide +kernel)) (by decide +kernel)

end SpxSpark.Providers
