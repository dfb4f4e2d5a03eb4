import SpxSpark.Ibkr.CompetingSession

/-!
# ConflictLatch — the latch wins, and when it can be released

While the latch is set every projection written is unhealthy and its circuit is not closed, in any
state.
-/

namespace SpxSpark.Ibkr

open Lib List
open CompetingSessionCircuit (observeHealthy)

variable {dataRoot : Bool}

/-! ## The latch wins -/

/-- Neither healthy nor with a closed circuit. -/
def HealthProjection.Blocks (projection : HealthProjection) : Prop :=
  projection.dataPlaneHealthy = false ∧ projection.circuitState ≠ .closed

variable {s : StreamState}

section

variable (h : s.competingHealthLatchedSequence.isSome = true)

include h

theorem persistHealthLocked_blocks (healthy blocked : Bool) (reason : String) (retry : Option ℚ) :
    (persistHealthLocked s healthy blocked reason retry).Blocks := by
  unfold persistHealthLocked
  simp only
  rw [if_pos h]
  refine ⟨rfl, ?_⟩
  show (if s.circuit.state s.now = .closed then CircuitState.opened
    else s.circuit.state s.now) ≠ .closed
  split_ifs with hclosed
  · decide
  · exact hclosed

omit h in
/-- What is written from a latched state. -/
def AllBlock (written : List HealthProjection) : Prop :=
  ∀ projection ∈ written, projection.Blocks

omit h in
theorem allBlock_nil : AllBlock [] := fun _ h => by cases h

theorem publishHealth_blocks (healthy blocked : Bool) (reason : String) (retry : Option ℚ) :
    AllBlock (publishHealth dataRoot s healthy blocked reason retry) := by
  intro projection hprojection
  unfold publishHealth at hprojection
  split_ifs at hprojection
  · rw [mem_singleton.mp hprojection]
    exact persistHealthLocked_blocks h healthy blocked reason retry
  · cases hprojection

theorem publishDown_blocks (blocked : Bool)
    (reason : String) : AllBlock (publishDown dataRoot s blocked reason) :=
  publishHealth_blocks h false blocked reason none

theorem deferCompetingSession_blocks : AllBlock (deferCompetingSession dataRoot s).1 := by
  unfold deferCompetingSession
  refine publishHealth_blocks ?_ _ _ _ _
  exact h

theorem mainStep_blocks (move : Move) :
    AllBlock (mainStep dataRoot s move).1 := by
  unfold mainStep
  split
  · exact publishHealth_blocks h _ _ _ _
  · exact publishHealth_blocks h _ _ _ _
  · exact publishHealth_blocks h _ _ _ _
  · refine publishDown_blocks ?_ _ _
    exact h
  · exact publishDown_blocks h _ _
  · simp only
    split_ifs
    · exact allBlock_nil
    · exact publishDown_blocks h _ _
  · exact allBlock_nil
  · exact allBlock_nil
  · exact allBlock_nil
  · exact allBlock_nil
  · exact allBlock_nil
  · exact allBlock_nil
  · exact allBlock_nil
  · exact allBlock_nil
  · exact publishDown_blocks h _ _
  · exact publishDown_blocks h _ _
  · simp only
    split_ifs
    · exact publishDown_blocks h _ _
    · exact allBlock_nil
  · exact allBlock_nil
  · split_ifs
    · exact publishDown_blocks h _ _
    · exact allBlock_nil
  · split
    · exact deferCompetingSession_blocks h
    · exact publishDown_blocks h _ _
    · exact publishDown_blocks h _ _
    · exact publishDown_blocks h _ _
    · exact allBlock_nil
  · simp only
    split_ifs
    · intro projection hprojection
      rcases mem_append.mp hprojection with hfirst | hsecond
      · exact publishHealth_blocks h _ _ _ _ projection hfirst
      · exact publishDown_blocks h _ _ projection hsecond
    · exact publishHealth_blocks h _ _ _ _
  · simp only
    split_ifs
    · refine deferCompetingSession_blocks ?_
      exact h
    · refine publishDown_blocks ?_ _ _
      exact h
  · exact allBlock_nil
  · exact allBlock_nil

end

theorem continueFlush_latch {event : FlushEvent}
    (h : (continueFlush s event).competingHealthLatchedSequence.isSome = true) :
    s.competingHealthLatchedSequence.isSome = true := by
  unfold continueFlush clearCompetingSessionHealthLatch at h
  simp only at h
  split_ifs at h
  · cases h
  · exact h
  · exact h
  · exact h

theorem mainStep_latch {move : Move}
    (h : (mainStep dataRoot s move).2.competingHealthLatchedSequence.isSome = true) :
    s.competingHealthLatchedSequence.isSome = true := by
  unfold mainStep at h
  split at h
  all_goals try exact h
  · split_ifs at h <;> exact h
  · split at h
    · exact h
    · exact h
    · exact h
    · exact h
    · exact continueFlush_latch h
  · simp only at h
    split_ifs at h <;> exact h
  · simp only at h
    split_ifs at h <;> exact h
  · simp only at h
    split_ifs at h <;> exact h

theorem onError_blocks (s : StreamState) (error : BrokerError) :
    AllBlock (onError dataRoot s error).1 := by
  unfold onError
  simp only
  split_ifs
  · unfold invalidateCompetingSessionHealth
    exact publishDown_blocks rfl _ _
  · exact allBlock_nil

theorem runtimeStep_blocks {event : RuntimeEvent}
    (h : s.competingHealthLatchedSequence.isSome = true ∨
      (runtimeStep dataRoot s event).2.competingHealthLatchedSequence.isSome = true) :
    AllBlock (runtimeStep dataRoot s event).1 := by
  cases event with
  | callback error => exact onError_blocks s error
  | elapse seconds => exact allBlock_nil
  | overlay overlay => exact allBlock_nil
  | disconnect => exact allBlock_nil
  | lifecycleFailed lost => exact allBlock_nil
  | main move => exact mainStep_blocks (h.elim id mainStep_latch) move

/-! ## What a latched state still needs -/

/-- The latch is set and the circuit has no failure to recover from. -/
def StreamState.NeedsError (s : StreamState) : Prop :=
  s.competingHealthLatchedSequence.isSome = true ∧ s.circuit.failures = 0

/-- The flush that drained the error has it and will open the circuit. -/
def StreamState.InHand (s : StreamState) : Prop :=
  s.phase = .drained true ∨ s.phase = .deciding true

/-- An error that a latched state needs is tracked or in hand. -/
def Releasable (s : StreamState) : Prop :=
  s.NeedsError → hasCompetingSessionError s.errors = true ∨ s.InHand

/-- A flush of a session that goes on closes the circuit. -/
def ClosesCircuit (s : StreamState) (allowed gatewayWanted : Bool) (event : FlushEvent) : Prop :=
  s.phase = .deciding false ∧
    decideAfterFlush s.connected allowed false (shouldRestartGateway s gatewayWanted) =
      .continue_ ∧
    0 < event.freshSpxwQuotes ∧ (s.circuit.observeHealthy s.now).1 = true

/-- No step loses the error a latched state needs: none pushes it out of the tracked ones, no
exception comes while the flush has it in hand, no session is torn down before the circuit is open,
and the circuit does not close while a failure other than a conflict keeps the latch. -/
def keepsConflict (s : StreamState) : RuntimeEvent → Prop
  | .callback error => s.NeedsError → hasCompetingSessionError s.errors = true →
      hasCompetingSessionError (trackError s.errors error.tracked) = true
  | .main .raise => s.NeedsError → ¬s.InHand
  | .main (.teardown _) => s.phase = .ending → ¬s.NeedsError
  | .main (.decide allowed gatewayWanted event) => ClosesCircuit s allowed gatewayWanted event →
      s.competingHealthLatchedSequence.isSome = true → s.subscriptionHealthFailed = true →
        hasCompetingSessionError s.errors = true
  | _ => True

theorem Releasable.same {t : StreamState} (h : Releasable s) (hhand : ¬s.InHand)
    (hlatch : t.competingHealthLatchedSequence = s.competingHealthLatchedSequence)
    (hfailures : t.circuit.failures = s.circuit.failures) (herrors : t.errors = s.errors) :
    Releasable t := by
  rintro ⟨hset, hzero⟩
  rw [hlatch] at hset
  rw [hfailures] at hzero
  rw [herrors]
  exact Or.inl ((h ⟨hset, hzero⟩).resolve_right hhand)

theorem releasable_deferCompetingSession (s : StreamState) :
    Releasable (deferCompetingSession dataRoot s).2 := by
  rintro ⟨-, hzero⟩
  have hopened : (deferCompetingSession dataRoot s).2.circuit.failures =
      s.circuit.failures + 1 := rfl
  rw [hopened] at hzero
  exact absurd hzero (Nat.succ_ne_zero _)

variable {circuit : CompetingSessionCircuit}

theorem observeHealthy_failures {now : ℚ} (h : (circuit.observeHealthy now).1 = false) :
    (circuit.observeHealthy now).2.failures = circuit.failures := by
  unfold observeHealthy at h ⊢
  split_ifs at h ⊢
  · rfl
  · split at h
    · rfl
    · split_ifs at h ⊢
      rfl

theorem releasable_continueFlush {event : FlushEvent} (h : Releasable s) (hhand : ¬s.InHand)
    (hcloses : 0 < event.freshSpxwQuotes → (s.circuit.observeHealthy s.now).1 = true →
      s.competingHealthLatchedSequence.isSome = true → s.subscriptionHealthFailed = true →
        hasCompetingSessionError s.errors = true) : Releasable (continueFlush s event) := by
  unfold continueFlush
  simp only
  split_ifs with hfresh hclosed
  · unfold clearCompetingSessionHealthLatch
    split_ifs with hclear
    · rintro ⟨hset, -⟩
      cases hset
    · rintro ⟨hset, hzero⟩
      left
      refine hcloses hfresh hclosed hset ?_
      by_contra hfailed
      exact hclear ⟨hzero, by simpa using hfailed⟩
  · exact h.same hhand rfl (observeHealthy_failures (by simpa using hclosed)) rfl
  · exact h.same hhand rfl rfl rfl

theorem decideAfterFlush_competing (connected allowed gatewayRestart : Bool) :
    decideAfterFlush connected allowed true gatewayRestart = .conflictWait := rfl

theorem not_inHand {phase : Phase} (hphase : s.phase = phase) (hdrained : phase ≠ .drained true)
    (hdeciding : phase ≠ .deciding true) : ¬s.InHand := by
  rintro (hhand | hhand)
  · exact hdrained (hphase.symm.trans hhand)
  · exact hdeciding (hphase.symm.trans hhand)

section

variable (h : Releasable s)

include h

theorem Releasable.raise {t : StreamState}
    (hmeets : keepsConflict s (.main .raise))
    (hlatch : t.competingHealthLatchedSequence = s.competingHealthLatchedSequence)
    (hcircuit : t.circuit = s.circuit) (herrors : t.errors = s.errors) : Releasable t := by
  intro hneeds
  have hsame : s.NeedsError := by
    obtain ⟨hset, hzero⟩ := hneeds
    rw [hlatch] at hset
    rw [hcircuit] at hzero
    exact ⟨hset, hzero⟩
  rw [herrors]
  exact Or.inl ((h hsame).resolve_right (hmeets hsame))

theorem releasable_drain (hphase : s.phase = .session) :
    Releasable { s with
      errors := [], phase := .drained (hasCompetingSessionError s.errors) } := by
  intro hneeds
  have hfound : hasCompetingSessionError s.errors = true :=
    (h hneeds).resolve_right (not_inHand hphase (by decide) (by decide))
  right
  left
  show Phase.drained (hasCompetingSessionError s.errors) = .drained true
  rw [hfound]

theorem releasable_checkHealth {competing : Bool}
    (hphase : s.phase = .drained competing) :
    Releasable (if s.subscriptionHealthFailed && !competing then { s with phase := .ending }
      else { s with phase := .deciding competing }) := by
  cases competing with
  | true =>
    rw [Bool.not_true, Bool.and_false, if_neg (by decide)]
    intro _
    exact Or.inr (Or.inr rfl)
  | false =>
    have hhand : ¬s.InHand := not_inHand hphase (by decide) (by decide)
    split_ifs
    · exact h.same hhand rfl rfl rfl
    · exact h.same hhand rfl rfl rfl

theorem releasable_handle (hphase : s.phase = .failing)
    (hnone : hasCompetingSessionError s.errors = false) :
    Releasable { s with errors := [], phase := .ending } := by
  intro hneeds
  have hfound := (h hneeds).resolve_right (not_inHand hphase (by decide) (by decide))
  rw [hnone] at hfound
  cases hfound

theorem releasable_mainStep {move : Move}
    (hmeets : keepsConflict s (.main move)) : Releasable (mainStep dataRoot s move).2 := by
  -- a move that stays clear of the drained errors changes neither latch, failures nor list
  have haway : ∀ {phase : Phase} {t : StreamState}, s.phase = phase → phase ≠ .drained true →
      phase ≠ .deciding true →
      t.competingHealthLatchedSequence = s.competingHealthLatchedSequence →
      t.circuit.failures = s.circuit.failures → t.errors = s.errors → Releasable t :=
    fun hphase hdrained hdeciding => h.same (not_inHand hphase hdrained hdeciding)
  unfold mainStep
  split
  · exact h
  · exact h
  · exact h
  · rename_i hphase
    exact haway hphase (by decide) (by decide) rfl rfl rfl
  · rename_i hphase
    exact haway hphase (by decide) (by decide) rfl rfl rfl
  · rename_i hphase
    exact haway hphase (by decide) (by decide) rfl rfl rfl
  · exact h.raise hmeets rfl rfl rfl
  · exact h.raise hmeets rfl rfl rfl
  · exact h.raise hmeets rfl rfl rfl
  · exact h.raise hmeets rfl rfl rfl
  · exact h.raise hmeets rfl rfl rfl
  · exact h.raise hmeets rfl rfl rfl
  · rename_i hphase
    exact haway hphase (by decide) (by decide) rfl rfl rfl
  · rename_i hphase
    exact haway hphase (by decide) (by decide) rfl rfl rfl
  · exact h
  · rename_i hphase
    exact haway hphase (by decide) (by decide) rfl rfl rfl
  · exact h
  · rename_i hphase
    exact releasable_drain h hphase
  · rename_i hphase
    have hchecked := releasable_checkHealth h hphase
    split_ifs with hfailed
    · rw [if_pos hfailed] at hchecked
      exact hchecked
    · rw [if_neg hfailed] at hchecked
      exact hchecked
  · rename_i competing allowed gatewayWanted event hphase
    cases competing with
    | true =>
      rw [decideAfterFlush_competing]
      exact releasable_deferCompetingSession s
    | false =>
      split
      · exact releasable_deferCompetingSession s
      · exact haway hphase (by decide) (by decide) rfl rfl rfl
      · exact haway hphase (by decide) (by decide) rfl rfl rfl
      · exact haway hphase (by decide) (by decide) rfl rfl rfl
      · rename_i haction
        exact releasable_continueFlush h (not_inHand hphase (by decide) (by decide))
          fun hfresh hclosed => hmeets ⟨hphase, haction, hfresh, hclosed⟩
  · rename_i hphase
    have hsame : ∀ {t : StreamState},
        t.competingHealthLatchedSequence = s.competingHealthLatchedSequence →
        t.circuit.failures = s.circuit.failures → t.errors = s.errors → Releasable t :=
      haway hphase (fun hcontra => by cases hcontra) (fun hcontra => by cases hcontra)
    simp only
    split_ifs
    · exact hsame rfl rfl rfl
    · exact hsame rfl rfl rfl
  · rename_i hphase
    simp only
    split_ifs with hfound
    · exact releasable_deferCompetingSession _
    · exact releasable_handle h hphase (by simpa using hfound)
  · rename_i again hphase
    have hfree : ¬s.NeedsError := hmeets hphase
    intro hneeds
    refine absurd ?_ hfree
    cases again with
    | true => exact hneeds
    | false => exact hneeds
  · exact h

/-! ## The error callback -/

omit h in
theorem mem_trackError (errors : List IbkrError) (error : IbkrError) :
    error ∈ trackError errors error := by
  unfold trackError
  simp only
  rw [drop_append]
  refine mem_append_right _ ?_
  rw [length_append, length_singleton, show errors.length + 1 - maxTrackedErrors -
    errors.length = 0 by unfold maxTrackedErrors; omega]
  simp

omit h in
theorem observeConnectivity_same (s : StreamState) (errorCode : Nat) :
    (observeConnectivity s errorCode).competingHealthLatchedSequence =
        s.competingHealthLatchedSequence ∧
      (observeConnectivity s errorCode).circuit = s.circuit ∧
      (observeConnectivity s errorCode).errors = s.errors ∧
      (observeConnectivity s errorCode).phase = s.phase := by
  unfold observeConnectivity
  split_ifs
  · exact ⟨rfl, rfl, rfl, rfl⟩
  · exact ⟨rfl, rfl, rfl, rfl⟩
  · exact ⟨rfl, rfl, rfl, rfl⟩
  · exact ⟨rfl, rfl, rfl, rfl⟩

variable (dataRoot) in
omit h in
theorem onError_same (s : StreamState) (error : BrokerError) :
    (onError dataRoot s error).2.errors = trackError s.errors error.tracked ∧
      (onError dataRoot s error).2.circuit = s.circuit ∧
      (onError dataRoot s error).2.phase = s.phase ∧
      (error.tracked.isCompeting = false →
        (onError dataRoot s error).2.competingHealthLatchedSequence =
          s.competingHealthLatchedSequence) := by
  have hsame := observeConnectivity_same
    { s with errors := trackError s.errors error.tracked } error.errorCode
  simp only at hsame
  unfold onError
  simp only
  generalize observeConnectivity { s with errors := trackError s.errors error.tracked }
    error.errorCode = observed at hsame ⊢
  obtain ⟨hlatch, hcircuit, herrors, hphase⟩ := hsame
  split_ifs with hcompeting
  · refine ⟨herrors, hcircuit, hphase, ?_⟩
    intro hnot
    rw [hnot] at hcompeting
    cases hcompeting
  · exact ⟨herrors, hcircuit, hphase, fun _ => hlatch⟩

theorem releasable_callback {error : BrokerError}
    (hmeets : keepsConflict s (.callback error)) : Releasable (onError dataRoot s error).2 := by
  obtain ⟨herrors, hcircuit, hphase, hlatch⟩ := onError_same dataRoot s error
  rintro ⟨hset, hzero⟩
  rw [herrors]
  rw [hcircuit] at hzero
  cases hcompeting : error.tracked.isCompeting with
  | true => exact Or.inl (any_eq_true.mpr ⟨_, mem_trackError _ _, hcompeting⟩)
  | false =>
    rw [hlatch hcompeting] at hset
    rcases h ⟨hset, hzero⟩ with hfound | hhand
    · exact Or.inl (hmeets ⟨hset, hzero⟩ hfound)
    · right
      unfold StreamState.InHand
      rw [hphase]
      exact hhand

theorem releasable_runtimeStep {event : RuntimeEvent}
    (hmeets : keepsConflict s event) : Releasable (runtimeStep dataRoot s event).2 := by
  cases event with
  | callback error => exact releasable_callback h hmeets
  | elapse seconds => exact h
  | overlay overlay => exact h
  | disconnect => exact h
  | lifecycleFailed lost => exact h
  | main move => exact releasable_mainStep h hmeets

/-! ## Release -/

end

/-- The recovery window did not start in the future. -/
def RecoveryPast (s : StreamState) : Prop :=
  ∀ started, s.circuit.recoveryStartedAt = some started → started ≤ s.now

/-- A flush with fresh quotes, where the session may go on, some seconds without a callback. -/
def quietFlush (flush : ℚ≥0 × FlushEvent) : List RuntimeEvent :=
  [.elapse flush.1, .main .drain, .main .checkHealth, .main (.decide true false flush.2),
    .main (.publish false)]

/-- Between two flushes of a connected session without a flagged failure or a conflict. -/
structure Quiet (s : StreamState) : Prop where
  phase : s.phase = .session
  connected : s.connected = true
  healthy : s.subscriptionHealthFailed = false
  clean : hasCompetingSessionError s.errors = false

def afterQuietFlush (s : StreamState) (elapsed : ℚ≥0) : StreamState :=
  let observed := s.circuit.observeHealthy (s.now + elapsed)
  { s with
    now := s.now + elapsed
    errors := []
    circuit := observed.2
    competingHealthLatchedSequence :=
      if observed.1 then none else s.competingHealthLatchedSequence }

theorem observeHealthy_closed {now : ℚ} (h : (circuit.observeHealthy now).1 = true) :
    (circuit.observeHealthy now).2.failures = 0 := by
  unfold observeHealthy at h ⊢
  split_ifs at h ⊢
  split at h
  · cases h
  · split_ifs at h ⊢
    rfl

theorem play_quietFlush (h : Quiet s) {flush : ℚ≥0 × FlushEvent}
    (hfresh : 0 < flush.2.freshSpxwQuotes) :
    (play (runtimeStep dataRoot) s (quietFlush flush)).2 = afterQuietFlush s flush.1 := by
  obtain ⟨phase, now, circuit, latch, errors, failed, lost, subscriptionsLost, connected⟩ := s
  obtain ⟨hphase, hconnected, hhealthy, hclean⟩ := h
  simp only at hphase hconnected hhealthy hclean
  subst hphase hconnected hhealthy
  simp only [play, quietFlush, runtimeStep, mainStep, hclean, Bool.false_and, Bool.false_eq_true,
    if_false, decideAfterFlush, shouldRestartGateway, Bool.and_false, Bool.not_true, continueFlush,
    hfresh, if_true, afterQuietFlush]
  cases hobserved : (circuit.observeHealthy (now + flush.1)).1 with
  | true =>
    have hzero := observeHealthy_closed hobserved
    simp [clearCompetingSessionHealthLatch, hzero]
  | false => simp

theorem quiet_afterQuietFlush (h : Quiet s) (elapsed : ℚ≥0) :
    Quiet (afterQuietFlush s elapsed) where
  phase := h.phase
  connected := h.connected
  healthy := h.healthy
  clean := rfl

/-- Released, or recovering since no later than `start` and not for long enough yet. -/
def Recovering (start : ℚ) (s : StreamState) : Prop :=
  s.competingHealthLatchedSequence = none ∨
    s.circuit.failures ≠ 0 ∧ (∃ started ≤ start, s.circuit.recoveryStartedAt = some started) ∧
      s.now - start < s.circuit.overlay.recoverySeconds

theorem afterQuietFlush_overlay (s : StreamState) (elapsed : ℚ≥0) :
    (afterQuietFlush s elapsed).circuit.overlay = s.circuit.overlay := by
  show ((s.circuit.observeHealthy (s.now + elapsed)).2).overlay = s.circuit.overlay
  unfold observeHealthy
  split_ifs
  · rfl
  · split
    · rfl
    · split_ifs
      · rfl
      · rfl

theorem afterQuietFlush_released (h : s.competingHealthLatchedSequence = none) (elapsed : ℚ≥0) :
    (afterQuietFlush s elapsed).competingHealthLatchedSequence = none := by
  show (if (s.circuit.observeHealthy (s.now + elapsed)).1 then none
    else s.competingHealthLatchedSequence) = none
  rw [h, ite_self]

theorem observeHealthy_starts (hfailures : circuit.failures ≠ 0)
    (hstarted : circuit.recoveryStartedAt = none) (now : ℚ) :
    circuit.observeHealthy now = (false, { circuit with recoveryStartedAt := some now }) := by
  unfold observeHealthy
  rw [if_neg hfailures, hstarted]

theorem observeHealthy_waits (hfailures : circuit.failures ≠ 0) {started now : ℚ}
    (hstarted : circuit.recoveryStartedAt = some started)
    (hshort : now - started < circuit.overlay.recoverySeconds) :
    circuit.observeHealthy now = (false, circuit) := by
  unfold observeHealthy
  rw [if_neg hfailures, hstarted]
  exact if_pos hshort

theorem observeHealthy_closes (hfailures : circuit.failures ≠ 0) {started now : ℚ}
    (hstarted : circuit.recoveryStartedAt = some started)
    (hlong : ¬now - started < circuit.overlay.recoverySeconds) :
    circuit.observeHealthy now = (true, circuit.close) := by
  unfold observeHealthy
  rw [if_neg hfailures, hstarted]
  exact if_neg hlong

theorem recovering_window (hfailures : s.circuit.failures ≠ 0) {started start : ℚ}
    (hstarted : s.circuit.recoveryStartedAt = some started) (hle : started ≤ start)
    (elapsed : ℚ≥0) : Recovering start (afterQuietFlush s elapsed) := by
  unfold Recovering
  rw [afterQuietFlush_overlay]
  unfold afterQuietFlush
  by_cases hshort : s.now + elapsed - started < s.circuit.overlay.recoverySeconds
  · simp only [observeHealthy_waits hfailures hstarted hshort]
    right
    exact ⟨hfailures, ⟨started, hle, hstarted⟩, by linarith⟩
  · simp only [observeHealthy_closes hfailures hstarted hshort]
    exact Or.inl rfl

theorem recovering_first (hpast : RecoveryPast s) (hfailures : s.circuit.failures ≠ 0)
    (elapsed : ℚ≥0) : Recovering (s.now + elapsed) (afterQuietFlush s elapsed) := by
  have helapsed : (0 : ℚ) ≤ elapsed := elapsed.2
  cases hstarted : s.circuit.recoveryStartedAt with
  | none =>
    have hwindow := s.circuit.overlay.recovery_pos
    unfold Recovering
    rw [afterQuietFlush_overlay]
    unfold afterQuietFlush
    simp only [observeHealthy_starts hfailures hstarted]
    right
    exact ⟨hfailures, ⟨_, le_refl _, rfl⟩, by rw [sub_self]; exact hwindow⟩
  | some started =>
    have hstart := hpast started hstarted
    exact recovering_window hfailures hstarted (by linarith) elapsed

theorem recovering_next {start : ℚ} (h : Recovering start s) (elapsed : ℚ≥0) :
    Recovering start (afterQuietFlush s elapsed) := by
  rcases h with hreleased | ⟨hfailures, ⟨started, hle, hstarted⟩, -⟩
  · exact Or.inl (afterQuietFlush_released hreleased elapsed)
  · exact recovering_window hfailures hstarted hle elapsed

variable (dataRoot) in
theorem recovering_rest (rest : List (ℚ≥0 × FlushEvent)) :
    ∀ {s : StreamState} {start : ℚ}, Quiet s → Recovering start s →
      (∀ flush ∈ rest, 0 < flush.2.freshSpxwQuotes) →
      Recovering start (play (runtimeStep dataRoot) s (rest.flatMap quietFlush)).2 ∧
        (play (runtimeStep dataRoot) s (rest.flatMap quietFlush)).2.now =
          s.now + (rest.map fun flush => (flush.1 : ℚ)).sum ∧
        (play (runtimeStep dataRoot) s (rest.flatMap quietFlush)).2.circuit.overlay =
          s.circuit.overlay := by
  induction rest with
  | nil =>
    intro s start _ hrecovering _
    exact ⟨hrecovering, by simp [play], rfl⟩
  | cons flush rest ih =>
    intro s start hquiet hrecovering hfresh
    rw [flatMap_cons, play_append_state,
      play_quietFlush hquiet (hfresh flush mem_cons_self)]
    obtain ⟨hlast, hnow, hoverlay⟩ := ih (quiet_afterQuietFlush hquiet flush.1)
      (recovering_next hrecovering flush.1)
      (fun other hother => hfresh other (mem_cons_of_mem flush hother))
    refine ⟨hlast, ?_, hoverlay.trans (afterQuietFlush_overlay s flush.1)⟩
    rw [hnow, map_cons, sum_cons]
    show s.now + flush.1 + _ = _
    rw [add_assoc]

theorem released_after_window (hquiet : Quiet s) (hpast : RecoveryPast s)
    (hfailures : s.circuit.failures ≠ 0) {first : ℚ≥0 × FlushEvent}
    {rest : List (ℚ≥0 × FlushEvent)}
    (hfresh : ∀ flush ∈ first :: rest, 0 < flush.2.freshSpxwQuotes)
    (hwindow : s.circuit.overlay.recoverySeconds ≤ (rest.map fun flush => (flush.1 : ℚ)).sum) :
    (play (runtimeStep dataRoot) s
      ((first :: rest).flatMap quietFlush)).2.competingHealthLatchedSequence = none := by
  rw [flatMap_cons, play_append_state,
    play_quietFlush hquiet (hfresh first mem_cons_self)]
  obtain ⟨hlast, hnow, hoverlay⟩ := recovering_rest dataRoot rest
    (quiet_afterQuietFlush hquiet first.1) (recovering_first hpast hfailures first.1)
    (fun other hother => hfresh other (mem_cons_of_mem first hother))
  rcases hlast with hreleased | ⟨-, -, hshort⟩
  · exact hreleased
  · rw [hnow, hoverlay, afterQuietFlush_overlay] at hshort
    have hstart : (afterQuietFlush s first.1).now = s.now + first.1 := rfl
    rw [hstart] at hshort
    linarith

/-! ## The recovery window along a run -/

theorem recoveryPast_observeHealthy (h : RecoveryPast s) (started : ℚ)
    (hstarted : (s.circuit.observeHealthy s.now).2.recoveryStartedAt = some started) :
    started ≤ s.now := by
  unfold observeHealthy at hstarted
  split_ifs at hstarted
  · exact h started hstarted
  · split at hstarted
    · rw [← Option.some.inj hstarted]
    · split_ifs at hstarted
      · exact h started hstarted
      · cases hstarted

theorem recoveryPast_continueFlush (h : RecoveryPast s) (event : FlushEvent) :
    RecoveryPast (continueFlush s event) := by
  unfold continueFlush clearCompetingSessionHealthLatch
  simp only
  split_ifs
  · exact recoveryPast_observeHealthy h
  · exact recoveryPast_observeHealthy h
  · exact recoveryPast_observeHealthy h
  · intro started hstarted
    cases hstarted

theorem recoveryPast_deferCompetingSession (s : StreamState) :
    RecoveryPast (deferCompetingSession dataRoot s).2 := by
  intro started hstarted
  cases hstarted

theorem recoveryPast_mainStep (h : RecoveryPast s) (move : Move) :
    RecoveryPast (mainStep dataRoot s move).2 := by
  unfold mainStep
  split
  all_goals try exact h
  · split_ifs
    · exact h
    · exact h
  · split
    · exact recoveryPast_deferCompetingSession s
    · exact h
    · exact h
    · exact h
    · exact recoveryPast_continueFlush h _
  · simp only
    split_ifs
    · exact h
    · exact h
  · simp only
    split_ifs
    · exact recoveryPast_deferCompetingSession _
    · exact h
  · rename_i again _
    intro started hstarted
    cases again with
    | true => cases hstarted
    | false => cases hstarted

theorem onError_now (s : StreamState) (error : BrokerError) :
    (onError dataRoot s error).2.now = s.now := by
  unfold onError invalidateCompetingSessionHealth observeConnectivity
  simp only
  split_ifs <;> rfl

theorem recoveryPast_runtimeStep (h : RecoveryPast s) (event : RuntimeEvent) :
    RecoveryPast (runtimeStep dataRoot s event).2 := by
  cases event with
  | callback error =>
    intro started hstarted
    obtain ⟨-, hcircuit, -, -⟩ := onError_same dataRoot s error
    show started ≤ (onError dataRoot s error).2.now
    rw [onError_now]
    refine h started ?_
    rw [← hcircuit]
    exact hstarted
  | elapse seconds =>
    intro started hstarted
    have hseconds : (0 : ℚ) ≤ seconds := seconds.2
    have hpast := h started hstarted
    show started ≤ s.now + seconds
    linarith
  | overlay overlay => exact h
  | disconnect => exact h
  | lifecycleFailed lost => exact h
  | main move => exact recoveryPast_mainStep h move

/-! ## Runs -/

/-- The runtime before its first connection. -/
def StreamState.start (overlay : ConflictOverlay) : StreamState where
  circuit := { overlay }

/-- While the latch is set nothing written is healthy or has a closed circuit. In a run that loses
no conflict a latched state has a failure in its circuit, an error in the undrained list that takes
the conflict path, or one in the hand of the flush that drained it; and fresh flushes over the
recovery window release the latch. -/
theorem conflict_latch {overlay : ConflictOverlay}
    {log : List (RuntimeEvent × List HealthProjection)} {s : StreamState}
    (h : Run (runtimeStep dataRoot) keepsConflict (.start overlay) log s) :
    (∀ event, s.competingHealthLatchedSequence.isSome = true ∨
        (runtimeStep dataRoot s event).2.competingHealthLatchedSequence.isSome = true →
      AllBlock (runtimeStep dataRoot s event).1) ∧
    (s.competingHealthLatchedSequence.isSome = true →
      1 ≤ s.circuit.failures ∨ hasCompetingSessionError s.errors = true ∨ s.InHand) ∧
    ∀ first rest, Quiet s → 1 ≤ s.circuit.failures →
      (∀ flush ∈ first :: rest, 0 < flush.2.freshSpxwQuotes) →
      s.circuit.overlay.recoverySeconds ≤ (rest.map fun flush => (flush.1 : ℚ)).sum →
      (play (runtimeStep dataRoot) s
        ((first :: rest).flatMap quietFlush)).2.competingHealthLatchedSequence = none := by
  have hinv : Releasable s ∧ RecoveryPast s := by
    refine Run.invariant (I := fun s => Releasable s ∧ RecoveryPast s) ?_ ?_ h
    · constructor
      · rintro ⟨hset, -⟩
        cases hset
      · intro started hstarted
        cases hstarted
    · intro s event hinv hmeets
      exact ⟨releasable_runtimeStep hinv.1 hmeets, recoveryPast_runtimeStep hinv.2 event⟩
  refine ⟨fun event => runtimeStep_blocks, ?_, ?_⟩
  · intro hset
    by_cases hzero : s.circuit.failures = 0
    · exact Or.inr (hinv.1 ⟨hset, hzero⟩)
    · exact Or.inl (Nat.one_le_iff_ne_zero.mpr hzero)
  · intro first rest hquiet hfailures hfresh hwindow
    exact released_after_window hquiet hinv.2 (Nat.one_le_iff_ne_zero.mp hfailures) hfresh hwindow

/-! ## A conflict in a session, and one in the standby loop -/

def defaultOverlay : ConflictOverlay where
  recoverySeconds := 8
  probeSeconds := 5
  probeMaxSeconds := 15
  recovery_pos := by decide +kernel
  probe_pos := by decide +kernel
  probe_le_max := by decide +kernel

/-- A conflict that names no request. -/
def sessionConflict : BrokerError where
  reqId := -1
  errorCode := 10197
  lookup := { lane := none, history := none, requestLane := none, hasRow := false }

def freshFlush : FlushEvent where
  dataPlaneHealthy := true
  freshSpxwQuotes := 10
  reason := ""

/-- A flush finds the conflict, and a new session follows. -/
def sessionRun : List RuntimeEvent :=
  [.main .connect, .main (.sessionReady true), .callback sessionConflict, .main .drain,
    .main .checkHealth, .main (.decide true false freshFlush), .main (.teardown false),
    .main .connect, .main (.sessionReady true)]

def sessionState : StreamState := (play (runtimeStep true) (.start defaultOverlay) sessionRun).2

theorem sessionState_failures : sessionState.circuit.failures = 1 := by decide +kernel

theorem sessionState_quiet : Quiet sessionState where
  phase := by decide +kernel
  connected := by decide +kernel
  healthy := by decide +kernel
  clean := by decide +kernel

theorem sessionState_recovery : sessionState.circuit.overlay.recoverySeconds = 8 := by
  decide +kernel

theorem sessionRun_allowed :
    Allowed (runtimeStep true) keepsConflict (.start defaultOverlay) sessionRun := by
  refine ⟨trivial, trivial, ?_, trivial, trivial, ?_, ?_, trivial, trivial, trivial⟩
  · rintro ⟨hset, -⟩
    cases hset
  · rintro ⟨hphase, -⟩
    exact absurd hphase (by decide +kernel)
  · rintro - ⟨-, hzero⟩
    exact absurd hzero (by decide +kernel)

theorem conflict_latch_released : (play (runtimeStep true) sessionState
    ([((1 : ℚ≥0), freshFlush), (8, freshFlush)].flatMap
      quietFlush)).2.competingHealthLatchedSequence = none := by
  refine (conflict_latch (Run.play sessionRun_allowed)).2.2 (1, freshFlush) [(8, freshFlush)]
    sessionState_quiet (le_of_eq sessionState_failures.symm) ?_ ?_
  · intro flush hflush
    rcases mem_cons.mp hflush with rfl | hflush
    · decide
    · rw [mem_singleton.mp hflush]
      decide
  · exact le_of_eq (sessionState_recovery.trans (by norm_num))

/-- The standby loop never looks at the errors, and the session that follows starts without. -/
def standbyRun : List RuntimeEvent :=
  [.main .connect, .main .standbyConnected, .callback sessionConflict,
    .main (.standbyEnd false "market-data activation requested"), .main (.teardown false)]

theorem standbyRun_lost :
    let s := (play (runtimeStep true) (.start defaultOverlay) standbyRun).2
    s.competingHealthLatchedSequence = some 1 ∧ s.circuit.failures = 0 ∧ s.errors = [] ∧
      s.phase = .outer := by
  decide +kernel

/-- A latched state without a failure in the circuit and without an error to put one there. -/
theorem standby_loses_conflict : ¬∀ (dataRoot : Bool) (overlay : ConflictOverlay)
    (log : List (RuntimeEvent × List HealthProjection)) (s : StreamState),
    Run (runtimeStep dataRoot) anyStep (.start overlay) log s →
      s.competingHealthLatchedSequence.isSome = true →
        1 ≤ s.circuit.failures ∨ hasCompetingSessionError s.errors = true ∨ s.InHand := by
  intro hall
  obtain ⟨hset, hzero, hnone, hphase⟩ := standbyRun_lost
  have hallowed : Allowed (runtimeStep true) anyStep (.start defaultOverlay) standbyRun :=
    allowed_anyStep standbyRun _
  rcases hall true defaultOverlay _ _ (Run.play hallowed) (by rw [hset]; rfl) with
    hfailures | hfound | hdrained | hdeciding
  · rw [hzero] at hfailures
    exact absurd hfailures (by decide)
  · rw [hnone] at hfound
    cases hfound
  · rw [hphase] at hdrained
    cases hdrained
  · rw [hphase] at hdeciding
    cases hdeciding

end SpxSpark.Ibkr
