import SpxSpark.Providers.FailoverControl

/-!
# EntryGate — no entries on a failed provider

Runs of `evaluate_and_persist` with the state file lost, damaged or replaced between the calls.
-/

namespace SpxSpark.Providers

open Lib

/-! ## Runs -/

inductive GateAction
  | call (latest : LatestState)
  | lose
  | damage
  | garble (context : String) (incident : DualSourceIncident)
  | replace (state : FailoverState) (context : String) (incident : DualSourceIncident)

/-- Something other than the controller wrote a state the controller accepts. -/
def GateAction.replaces : GateAction → Bool
  | .replace _ _ _ => true
  | .call _ | .lose | .damage | .garble _ _ => false

section Gate

variable (calendar : SessionCalendar) (ageText : ℚ → String) (settings : ProviderFailoverSettings)

def gateStep (file : StateFile) : GateAction → Option Evaluation × StateFile
  | .call latest =>
    (some (evaluateAndPersist calendar ageText settings file latest).1,
      .stored (evaluateAndPersist calendar ageText settings file latest).2)
  | .lose => (none, .missing)
  | .damage => (none, .unreadable)
  | .garble context incident => (none, .garbled context incident)
  | .replace state context incident => (none, .foreign state context incident)

/-- The combination without a branch of its own: in the fallback, outside a change of session,
Schwab reads healthy short of its recovery threshold and IBKR reaches its unhealthy one. -/
def UncoveredFallback (file : StateFile) : GateAction → Prop
  | .call latest =>
    activeAt calendar settings latest = true ∧
      (previousContext file = "" ∨
        previousContext file = (contextAt calendar settings latest).value) ∧
      (loadFailoverState file latest.asOf).mode = .ibkrFallback ∧
      (observationAt calendar ageText settings latest).schwabHealthy = true ∧
      (loadFailoverState file latest.asOf).schwabRecoveryStreak + 1 <
        settings.thresholds.schwabRecoveryObservations ∧
      (observationAt calendar ageText settings latest).ibkrHealthy = false ∧
      settings.thresholds.ibkrUnhealthyObservations ≤
        (loadFailoverState file latest.asOf).ibkrUnhealthyStreak + 1
  | .lose | .damage | .garble _ _ | .replace _ _ _ => False

instance (file : StateFile) : (action : GateAction) →
    Decidable (UncoveredFallback calendar ageText settings file action)
  | .call _ => inferInstanceAs (Decidable (_ ∧ _))
  | .lose | .damage | .garble _ _ | .replace _ _ _ => inferInstanceAs (Decidable False)

/-- The calls the machine has a branch for. -/
def coveredStep (file : StateFile) (action : GateAction) : Prop :=
  ¬UncoveredFallback calendar ageText settings file action

instance (file : StateFile) (action : GateAction) :
    Decidable (coveredStep calendar ageText settings file action) :=
  inferInstanceAs (Decidable (¬_))

/-! ## What was observed -/

/-- An event as an observer of the providers sees it. -/
inductive Seen
  | restarted
  | observed (mode : FailoverMode) (observation : FailoverObservation)

def Seen.isObserved : Seen → Bool
  | .restarted => false
  | .observed _ _ => true

def Seen.schwabUnhealthy : Seen → Bool
  | .restarted => false
  | .observed _ observation => !observation.schwabHealthy

/-- IBKR failed an observation made in the fallback. -/
def Seen.fallbackUnhealthy : Seen → Bool
  | .restarted => false
  | .observed mode observation => mode = .ibkrFallback && !observation.ibkrHealthy

def seen (event : GateAction × Option Evaluation) : Seen :=
  match event.2 with
  | some (.observed mode observation) => .observed mode observation
  | some .inactive | none => .restarted

abbrev GateLog := List (GateAction × Option Evaluation)

/-- The Schwab failures in a row since the observation last started over. -/
def schwabRun (log : GateLog) : Nat := trailingRun Seen.schwabUnhealthy (log.map seen)

/-- The IBKR failures in a row in the fallback. -/
def fallbackRun (log : GateLog) : Nat := trailingRun Seen.fallbackUnhealthy (log.map seen)

/-- The same run over all observations, whatever came between them. -/
def schwabRunThrough (log : GateLog) : Nat :=
  trailingRun Seen.schwabUnhealthy ((log.map seen).filter Seen.isObserved)

theorem schwabRun_snoc (log : GateLog) (event : GateAction × Option Evaluation) :
    schwabRun (log ++ [event]) = if (seen event).schwabUnhealthy then schwabRun log + 1 else 0 := by
  unfold schwabRun
  rw [List.map_append, List.map_singleton, trailingRun_snoc]

theorem fallbackRun_snoc (log : GateLog) (event : GateAction × Option Evaluation) :
    fallbackRun (log ++ [event]) =
      if (seen event).fallbackUnhealthy then fallbackRun log + 1 else 0 := by
  unfold fallbackRun
  rw [List.map_append, List.map_singleton, trailingRun_snoc]

variable {log : GateLog}

theorem schwabRunThrough_eq
    (h : ∀ past event rest, log = past ++ event :: rest → (seen event).isObserved = false →
      schwabRunThrough past = 0) : schwabRunThrough log = schwabRun log := by
  refine trailingRun_filter ?_ _ ?_
  · intro s hs
    cases s with
    | restarted => cases hs
    | observed _ _ => rfl
  · intro past x rest hpast hx
    obtain ⟨past, tail, rfl, rfl, htail⟩ := List.map_eq_append_iff.mp hpast
    obtain ⟨event, rest, rfl, rfl, rfl⟩ := List.map_eq_cons_iff.mp htail
    exact h past event rest rfl hx

/-! ## The machine inside the call -/

/-- The fallback goes on, or starts, on a healthy IBKR; on a failed one it goes on below the
threshold, and while Schwab reads healthy but is not recovered. -/
theorem advanceFailover_fallback {state : FailoverState} {observation : FailoverObservation}
    {thresholds : FailoverThresholds} (hibkr : observation.ibkrHealthy = false) :
    (advanceFailover state observation thresholds).mode = .ibkrFallback ↔
      state.mode = .ibkrFallback ∧
        if observation.schwabHealthy then
          state.schwabRecoveryStreak + 1 < thresholds.schwabRecoveryObservations
        else state.ibkrUnhealthyStreak + 1 < thresholds.ibkrUnhealthyObservations := by
  show (chooseMode state.mode (countStreaks state observation) observation thresholds).1 = _ ↔ _
  cases hm : state.mode <;> cases hs : observation.schwabHealthy <;>
    simp [chooseMode, countStreaks, hm, hs, hibkr] <;> (split <;> simp) <;> omega

variable (current : FailoverState) (previous : String) (context : MonitoringContext)
  (ibkrHealthy : Bool)

theorem enterContext_schwabUnhealthy (now : Int) :
    (enterContext current previous context ibkrHealthy now).schwabUnhealthyStreak =
      current.schwabUnhealthyStreak := by
  unfold enterContext
  split <;> rfl

theorem enterContext_ibkrUnhealthy (now : Int) :
    (enterContext current previous context ibkrHealthy now).ibkrUnhealthyStreak =
      current.ibkrUnhealthyStreak := by
  unfold enterContext
  split <;> rfl

theorem enterContext_schwabRecovery (now : Int) :
    (enterContext current previous context ibkrHealthy now).schwabRecoveryStreak =
      current.schwabRecoveryStreak := by
  unfold enterContext
  split <;> rfl

theorem enterContext_fallback {current : FailoverState} {previous : String}
    {context : MonitoringContext} {now : Int} :
    (enterContext current previous context false now).mode = .ibkrFallback ↔
      (previous = "" ∨ previous = context.value) ∧ current.mode = .ibkrFallback := by
  unfold enterContext
  split
  · rename_i h
    have hmode : ¬((previous = "" ∨ previous = context.value) ∧ current.mode = .ibkrFallback) := by
      rintro ⟨hprevious, hfallback⟩
      rcases h with ⟨hne, hchanged⟩ | ⟨-, hprimary⟩
      · exact hprevious.elim hne hchanged
      · rw [hprimary] at hfallback
        cases hfallback
    refine iff_of_false ?_ hmode
    by_cases hg : context = .gth <;> simp [hg]
  · rename_i h
    rw [not_or, not_and_or, not_not, not_not] at h
    simp [h.1]

variable {latest : LatestState}

theorem evaluateAndPersist_active (file : StateFile)
    (hactive : activeAt calendar settings latest = true) :
    (evaluateAndPersist calendar ageText settings file latest).1 =
        .observed (currentAt calendar ageText settings file latest).mode
          (observationAt calendar ageText settings latest) ∧
      (evaluateAndPersist calendar ageText settings file latest).2.state =
        advanceFailover (currentAt calendar ageText settings file latest)
          (observationAt calendar ageText settings latest) settings.thresholds ∧
      (evaluateAndPersist calendar ageText settings file latest).2.newEntriesAllowed =
        (advanceFailover (currentAt calendar ageText settings file latest)
          (observationAt calendar ageText settings latest) settings.thresholds).mode.tradeable := by
  unfold evaluateAndPersist
  rw [if_pos hactive]
  exact ⟨rfl, rfl, rfl⟩

theorem evaluateAndPersist_inactive (file : StateFile)
    (hactive : ¬activeAt calendar settings latest = true) :
    (evaluateAndPersist calendar ageText settings file latest).1 = .inactive ∧
      (evaluateAndPersist calendar ageText settings file latest).2.newEntriesAllowed = false := by
  unfold evaluateAndPersist
  rw [if_neg hactive]
  exact ⟨rfl, rfl⟩

/-! ## The invariant -/

/-- The counters of the stored state are at least the runs they stand for, and are these runs
where the controller alone wrote the file. -/
structure Counted (log : GateLog) (file : StateFile) : Prop where
  schwab : ∀ now, schwabRun log ≤ (loadFailoverState file now).schwabUnhealthyStreak
  fallback : ∀ now, (loadFailoverState file now).mode = .ibkrFallback →
    fallbackRun log ≤ (loadFailoverState file now).ibkrUnhealthyStreak
  fallback_eq : (∀ event ∈ log, event.1.replaces = false) →
    ∀ now, (loadFailoverState file now).mode = .ibkrFallback →
      fallbackRun log = (loadFailoverState file now).ibkrUnhealthyStreak

/-- The document on file allows entries on a provider only below its threshold. -/
def EntriesSafe (log : GateLog) (file : StateFile) : Prop :=
  ∀ document, file = .stored document → document.newEntriesAllowed = true →
    (document.state.mode = .schwabPrimary →
      schwabRun log < settings.thresholds.schwabUnhealthyObservations) ∧
    (document.state.mode = .ibkrFallback →
      fallbackRun log < settings.thresholds.ibkrUnhealthyObservations)

variable {file : StateFile}

theorem counted_restarted {event : GateAction × Option Evaluation} (hseen : seen event = .restarted)
    (hfile : event.1.replaces = true ∨ ∀ now, (loadFailoverState file now).mode ≠ .ibkrFallback) :
    Counted (log ++ [event]) file := by
  have hs : schwabRun (log ++ [event]) = 0 := by
    rw [schwabRun_snoc, hseen]
    rfl
  have hf : fallbackRun (log ++ [event]) = 0 := by
    rw [fallbackRun_snoc, hseen]
    rfl
  refine ⟨fun _ => hs ▸ Nat.zero_le _, fun _ _ => hf ▸ Nat.zero_le _, ?_⟩
  intro hnone now hmode
  rcases hfile with hreplaces | hfile
  · rw [hnone event (by simp)] at hreplaces
    cases hreplaces
  · exact absurd hmode (hfile now)

theorem seen_active (file : StateFile) (h : activeAt calendar settings latest = true) :
    seen (.call latest, (gateStep calendar ageText settings file (.call latest)).1) =
      .observed (currentAt calendar ageText settings file latest).mode
        (observationAt calendar ageText settings latest) := by
  show seen (_, some _) = _
  rw [(evaluateAndPersist_active calendar ageText settings file h).1]
  rfl

theorem counted_observed (h : Counted log file) (hactive : activeAt calendar settings latest = true)
    :
    Counted (log ++ [(.call latest, (gateStep calendar ageText settings file (.call latest)).1)])
      (gateStep calendar ageText settings file (.call latest)).2 := by
  obtain ⟨-, hstate, -⟩ :=
    evaluateAndPersist_active calendar ageText settings file hactive
  have hseen := seen_active calendar ageText settings file hactive
  have hload : ∀ now, loadFailoverState
      (gateStep calendar ageText settings file (.call latest)).2 now =
        advanceFailover (currentAt calendar ageText settings file latest)
          (observationAt calendar ageText settings latest) settings.thresholds := fun _ => hstate
  have hschwab := h.schwab latest.asOf
  have hcurrentS : (currentAt calendar ageText settings file latest).schwabUnhealthyStreak =
      (loadFailoverState file latest.asOf).schwabUnhealthyStreak :=
    enterContext_schwabUnhealthy _ _ _ _ _
  have hcurrentI : (currentAt calendar ageText settings file latest).ibkrUnhealthyStreak =
      (loadFailoverState file latest.asOf).ibkrUnhealthyStreak :=
    enterContext_ibkrUnhealthy _ _ _ _ _
  -- a failure in the fallback found the machine there before the call
  have hbefore : (observationAt calendar ageText settings latest).ibkrHealthy = false →
      (currentAt calendar ageText settings file latest).mode = .ibkrFallback →
      (loadFailoverState file latest.asOf).mode = .ibkrFallback := by
    intro hibkr hmode
    unfold currentAt at hmode
    rw [hibkr] at hmode
    exact (enterContext_fallback.mp hmode).2
  -- and the counter moves with the run
  have hmoves : ∀ {now},
      (loadFailoverState (gateStep calendar ageText settings file (.call latest)).2 now).mode =
        .ibkrFallback →
      (observationAt calendar ageText settings latest).ibkrHealthy = true ∧
          (loadFailoverState (gateStep calendar ageText settings file
            (.call latest)).2 now).ibkrUnhealthyStreak = 0 ∨
        (observationAt calendar ageText settings latest).ibkrHealthy = false ∧
          (currentAt calendar ageText settings file latest).mode = .ibkrFallback ∧
          (loadFailoverState (gateStep calendar ageText settings file
            (.call latest)).2 now).ibkrUnhealthyStreak =
            (loadFailoverState file latest.asOf).ibkrUnhealthyStreak + 1 := by
    intro now hmode
    rw [hload] at hmode ⊢
    cases hibkr : (observationAt calendar ageText settings latest).ibkrHealthy with
    | true =>
      refine Or.inl ⟨rfl, ?_⟩
      rw [advanceFailover_ibkrUnhealthy, if_pos (Or.inr (Or.inl hibkr))]
    | false =>
      have hfallback := ((advanceFailover_fallback hibkr).mp hmode).1
      refine Or.inr ⟨rfl, hfallback, ?_⟩
      rw [advanceFailover_ibkrUnhealthy, hcurrentI, if_neg]
      simp [hfallback, hibkr, hmode]
  refine ⟨?_, ?_, ?_⟩
  · intro now
    rw [hload, schwabRun_snoc, hseen, advanceFailover_schwabUnhealthy, hcurrentS]
    simp only [Seen.schwabUnhealthy]
    by_cases hs : (observationAt calendar ageText settings latest).schwabHealthy = true
    · simp [hs]
    · simp [hs]
      omega
  · intro now hmode
    rw [fallbackRun_snoc, hseen]
    rcases hmoves hmode with ⟨hibkr, hzero⟩ | ⟨hibkr, hfallback, hnext⟩
    · simp [Seen.fallbackUnhealthy, hibkr]
    · have := h.fallback latest.asOf (hbefore hibkr hfallback)
      simp [Seen.fallbackUnhealthy, hibkr, hfallback, hnext, this]
  · intro hnone now hmode
    rw [fallbackRun_snoc, hseen]
    rcases hmoves hmode with ⟨hibkr, hzero⟩ | ⟨hibkr, hfallback, hnext⟩
    · simp [Seen.fallbackUnhealthy, hibkr, hzero]
    · have := h.fallback_eq (fun event hevent => hnone event (by simp [hevent])) latest.asOf
        (hbefore hibkr hfallback)
      simp [Seen.fallbackUnhealthy, hibkr, hfallback, hnext, this]

theorem gateStep_counted (action : GateAction) (h : Counted log file) :
    Counted (log ++ [(action, (gateStep calendar ageText settings file action).1)])
      (gateStep calendar ageText settings file action).2 := by
  cases action with
  | call latest =>
    by_cases hactive : activeAt calendar settings latest = true
    · exact counted_observed calendar ageText settings h hactive
    · obtain ⟨hevaluation, -⟩ :=
        evaluateAndPersist_inactive calendar ageText settings file hactive
      refine counted_restarted ?_ (Or.inr fun now => ?_)
      · show seen (_, some _) = _
        rw [hevaluation]
        rfl
      · show (evaluateAndPersist calendar ageText settings file latest).2.state.mode ≠ _
        unfold evaluateAndPersist
        rw [if_neg hactive]
        exact nofun
  | lose => exact counted_restarted rfl (Or.inr fun _ => nofun)
  | damage => exact counted_restarted rfl (Or.inr fun _ => nofun)
  | garble context incident => exact counted_restarted rfl (Or.inr fun _ => nofun)
  | replace state context incident => exact counted_restarted rfl (Or.inl rfl)

theorem gateStep_safe {action : GateAction} (h : Counted log file)
    (hcovered : coveredStep calendar ageText settings file action) :
    EntriesSafe settings (log ++ [(action, (gateStep calendar ageText settings file action).1)])
      (gateStep calendar ageText settings file action).2 := by
  intro document hdocument hallowed
  have hcounted := gateStep_counted calendar ageText settings action h
  cases action with
  | lose => cases hdocument
  | damage => cases hdocument
  | garble context incident => cases hdocument
  | replace state context incident => cases hdocument
  | call latest =>
    obtain rfl := StateFile.stored.inj hdocument
    have hactive : activeAt calendar settings latest = true := by
      by_contra hinactive
      rw [(evaluateAndPersist_inactive calendar ageText settings _ hinactive).2] at hallowed
      cases hallowed
    obtain ⟨-, hstate, -⟩ :=
      evaluateAndPersist_active calendar ageText settings file hactive
    have hseen := seen_active calendar ageText settings file hactive
    constructor
    · intro hmode
      rw [hstate, advanceFailover_primary_iff] at hmode
      have hrun := hcounted.schwab latest.asOf
      split at hmode
      · refine lt_of_le_of_lt hrun ?_
        show (evaluateAndPersist calendar ageText settings file
          latest).2.state.schwabUnhealthyStreak < _
        rw [hstate]
        exact hmode
      · rw [schwabRun_snoc, hseen]
        simp only [Seen.schwabUnhealthy, hmode.1]
        exact settings.thresholds.schwabUnhealthy_pos
    · intro hmode
      cases hibkr : (observationAt calendar ageText settings latest).ibkrHealthy with
      | true =>
        rw [fallbackRun_snoc, hseen]
        simp only [Seen.fallbackUnhealthy, hibkr]
        simpa using settings.thresholds.ibkrUnhealthy_pos
      | false =>
        rw [hstate, advanceFailover_fallback hibkr] at hmode
        obtain ⟨hfallback, hbelow⟩ := hmode
        have hcurrent : (previousContext file = "" ∨
            previousContext file = (contextAt calendar settings latest).value) ∧
            (loadFailoverState file latest.asOf).mode = .ibkrFallback := by
          have hc := hfallback
          unfold currentAt at hc
          rw [hibkr] at hc
          exact enterContext_fallback.mp hc
        have hrecovery :
            (currentAt calendar ageText settings file latest).schwabRecoveryStreak =
              (loadFailoverState file latest.asOf).schwabRecoveryStreak :=
          enterContext_schwabRecovery _ _ _ _ _
        have hunhealthy :
            (currentAt calendar ageText settings file latest).ibkrUnhealthyStreak =
              (loadFailoverState file latest.asOf).ibkrUnhealthyStreak :=
          enterContext_ibkrUnhealthy _ _ _ _ _
        have hrun := h.fallback latest.asOf hcurrent.2
        rw [fallbackRun_snoc, hseen]
        simp only [Seen.fallbackUnhealthy, hibkr, hfallback]
        rw [hrecovery, hunhealthy] at hbelow
        split at hbelow
        · -- Schwab healthy but not recovered: only the covered calls are below the threshold
          rename_i hschwab
          by_contra hreached
          refine hcovered ⟨hactive, hcurrent.1, hcurrent.2, hschwab, hbelow, hibkr, ?_⟩
          simp at hreached
          omega
        · simp
          omega

theorem counted_missing : Counted [] .missing :=
  ⟨fun _ => Nat.zero_le _, fun _ _ => Nat.zero_le _, fun _ _ _ => rfl⟩

end Gate

/-! ## The entry gate over a run -/

section Result

variable {calendar : SessionCalendar} {ageText : ℚ → String} {settings : ProviderFailoverSettings}

/-- In every run of covered calls, with the file lost, damaged or replaced in between, the document
on file allows entries on Schwab only below its unhealthy threshold and on the fallback only below
IBKR's; the gate accepts it only while it is fresh and allows them; the count of Schwab failures is
the count through all observations where nothing started over inside a run of failures; and the
first uncovered call writes a document that allows entries on a failed IBKR. -/
theorem entry_gate {log : GateLog} {file : StateFile}
    (h : Run (gateStep calendar ageText settings) (coveredStep calendar ageText settings)
      .missing log file) :
    (∀ document, file = .stored document → document.newEntriesAllowed = true →
      (document.state.mode = .schwabPrimary →
        schwabRun log < settings.thresholds.schwabUnhealthyObservations) ∧
      (document.state.mode = .ibkrFallback →
        fallbackRun log < settings.thresholds.ibkrUnhealthyObservations)) ∧
    (∀ document now maxAgeSeconds, file = .stored document →
      controlAllowsNewEntries document.raw now maxAgeSeconds = true →
      document.newEntriesAllowed = true ∧
        (document.state.mode = .schwabPrimary ∨ document.state.mode = .ibkrFallback) ∧
        -futureTimestampToleranceSeconds ≤ secondsBetween now document.state.updatedAt ∧
        secondsBetween now document.state.updatedAt ≤ maxAgeSeconds) ∧
    (∀ raw now maxAgeSeconds, controlAllowsNewEntries raw now maxAgeSeconds = true ↔
      raw.monitoringActive = true ∧ raw.newEntriesAllowed = true ∧
        (raw.mode = FailoverMode.schwabPrimary.value ∨
          raw.mode = FailoverMode.ibkrFallback.value) ∧
        ∃ updatedAt, raw.updatedAt = some updatedAt ∧
          -futureTimestampToleranceSeconds ≤ secondsBetween now updatedAt ∧
          secondsBetween now updatedAt ≤ maxAgeSeconds) ∧
    ((∀ past event rest, log = past ++ event :: rest → (seen event).isObserved = false →
      schwabRunThrough past = 0) → schwabRunThrough log = schwabRun log) ∧
    ∀ latest, (∀ event ∈ log, event.1.replaces = false) →
      UncoveredFallback calendar ageText settings file (.call latest) →
      (evaluateAndPersist calendar ageText settings file latest).2.newEntriesAllowed = true ∧
        (evaluateAndPersist calendar ageText settings file latest).2.state.mode =
          .ibkrFallback ∧
        settings.thresholds.ibkrUnhealthyObservations ≤
          fallbackRun (log ++ [(.call latest,
            (gateStep calendar ageText settings file (.call latest)).1)]) := by
  have hcounted : Counted log file :=
    h.invariant_log counted_missing
      fun _ _ action hbefore _ => gateStep_counted calendar ageText settings action hbefore
  have hsafe : EntriesSafe settings log file := by
    refine (h.invariant_log (I := fun log file => Counted log file ∧
      EntriesSafe settings log file) ⟨counted_missing, fun _ hd => by cases hd⟩ ?_).2
    intro log file action hbefore hcovered
    exact ⟨gateStep_counted calendar ageText settings action hbefore.1,
      gateStep_safe calendar ageText settings hbefore.1 hcovered⟩
  refine ⟨hsafe, ?_, controlAllowsNewEntries_iff, schwabRunThrough_eq, ?_⟩
  · intro document now maxAgeSeconds _ haccepted
    obtain ⟨-, hallowed, hmode, _, hupdated, hfresh⟩ :=
      (controlAllowsNewEntries_iff _ _ _).mp haccepted
    obtain rfl := Option.some.inj hupdated
    refine ⟨hallowed, ?_, hfresh⟩
    show document.state.mode = _ ∨ _
    revert hmode
    show (document.state.mode.value = _ ∨ document.state.mode.value = _) → _
    cases document.state.mode <;> decide
  · intro latest hnone ⟨hactive, hcontext, hmode, hschwab, hrecovery, hibkr, hreached⟩
    obtain ⟨-, hstate, hallowed⟩ :=
      evaluateAndPersist_active calendar ageText settings file hactive
    have hcurrent : (currentAt calendar ageText settings file latest).mode = .ibkrFallback := by
      unfold currentAt
      rw [hibkr]
      exact enterContext_fallback.mpr ⟨hcontext, hmode⟩
    have hstays : (advanceFailover (currentAt calendar ageText settings file latest)
        (observationAt calendar ageText settings latest) settings.thresholds).mode =
        .ibkrFallback := by
      refine (advanceFailover_fallback hibkr).mpr ⟨hcurrent, ?_⟩
      rw [if_pos hschwab]
      unfold currentAt
      rw [enterContext_schwabRecovery]
      exact hrecovery
    refine ⟨?_, ?_, ?_⟩
    · rw [hallowed, hstays]
      rfl
    · rw [hstate, hstays]
    · rw [fallbackRun_snoc, seen_active calendar ageText settings file hactive,
        hcounted.fallback_eq hnone latest.asOf hmode]
      simpa [Seen.fallbackUnhealthy, hcurrent, hibkr] using hreached

end Result

/-! ## A fallback that has failed -/

/-- A calendar inside regular hours. -/
def rthCalendar : SessionCalendar :=
  ⟨fun _ => true, fun _ => false, fun _ => true, fun _ => "20260713"⟩

def rthSettings : ProviderFailoverSettings :=
  { enabled := true, requiredInstruments := ["index:SPX"], globexRequiredInstruments := [],
    providerStateMaxAgeSeconds := 45, quoteMaxAgeSeconds := 30, monitorRthOnly := true,
    thresholds := smallThresholds }

def spxQuote (provider : Provider) : Quote :=
  { instrument := ⟨"index:SPX", "index:SPX", .index, none, none, none, none⟩
    provider := provider, receivedAt := 0, quality := .live, mark := some 7500 }

def quotedBy (providers : List Provider) : GateAction :=
  .call { asOf := 0, quotes := providers.map spxQuote }

/-- Schwab fails twice and IBKR takes over, then IBKR fails twice while Schwab comes back once. -/
def failedFallback : List GateAction :=
  [quotedBy [.ibkr], quotedBy [.ibkr], quotedBy [], quotedBy [.schwab]]

/-- The calls played from an empty disk. -/
def playedCalls (actions : List GateAction) : GateLog × StateFile :=
  play (gateStep rthCalendar (fun _ => "") rthSettings) .missing actions

theorem playedCalls_run {ok : StateFile → GateAction → Prop} {actions : List GateAction}
    (h : Allowed (gateStep rthCalendar (fun _ => "") rthSettings) ok .missing actions) :
    Run (gateStep rthCalendar (fun _ => "") rthSettings) ok .missing (playedCalls actions).1
      (playedCalls actions).2 :=
  Run.play h

/-- What is on file: entries allowed, the mode, and the failures in a row. -/
def gateSummary (played : GateLog × StateFile) : Option (Bool × FailoverMode × Nat) :=
  match played.2 with
  | .stored document =>
    some (document.newEntriesAllowed, document.state.mode, fallbackRun played.1)
  | .missing | .unreadable | .garbled _ _ | .foreign _ _ _ => none

theorem gateSummary_eq_some {played : GateLog × StateFile} {allowed : Bool} {mode : FailoverMode}
    {failures : Nat} (h : gateSummary played = some (allowed, mode, failures)) :
    ∃ document, played.2 = .stored document ∧ document.newEntriesAllowed = allowed ∧
      document.state.mode = mode ∧ fallbackRun played.1 = failures := by
  unfold gateSummary at h
  split at h
  · rename_i document hfile
    refine ⟨document, hfile, ?_⟩
    simpa using h
  all_goals cases h

/-- Three of these calls, all covered. -/
def coveredFallback : List GateAction := [quotedBy [.ibkr], quotedBy [.ibkr], quotedBy []]

theorem coveredFallback_allowed : Allowed (gateStep rthCalendar (fun _ => "") rthSettings)
      (coveredStep rthCalendar (fun _ => "") rthSettings) .missing coveredFallback := by
  decide +kernel

theorem coveredFallback_summary :
    gateSummary (playedCalls coveredFallback) = some (true, .ibkrFallback, 1) := by
  decide +kernel

theorem failedFallback_summary :
    gateSummary (playedCalls failedFallback) = some (true, .ibkrFallback, 2) := by
  decide +kernel

/-- One failure in the fallback is below the threshold. -/
theorem entry_gate_covered : ∃ document, (playedCalls coveredFallback).2 = .stored document ∧
      document.newEntriesAllowed = true ∧ document.state.mode = .ibkrFallback ∧
      fallbackRun (playedCalls coveredFallback).1 <
        rthSettings.thresholds.ibkrUnhealthyObservations := by
  obtain ⟨document, hfile, hallowed, hmode, -⟩ := gateSummary_eq_some coveredFallback_summary
  have hsafe := (entry_gate (playedCalls_run coveredFallback_allowed)).1 document hfile hallowed
  exact ⟨document, hfile, hallowed, hmode, hsafe.2 hmode⟩

/-- Entries are allowed on an IBKR that failed as often as its threshold asks. -/
theorem entries_on_failed_ibkr : ¬∀ (log : GateLog) (file : StateFile),
      Run (gateStep rthCalendar (fun _ => "") rthSettings) anyStep .missing log file →
      ∀ document, file = .stored document → document.newEntriesAllowed = true →
        document.state.mode = .ibkrFallback →
        fallbackRun log < rthSettings.thresholds.ibkrUnhealthyObservations := by
  intro h
  obtain ⟨document, hfile, hallowed, hmode, hfailures⟩ :=
    gateSummary_eq_some failedFallback_summary
  have hrun := playedCalls_run (allowed_anyStep failedFallback StateFile.missing)
  have hbelow := h _ _ hrun document hfile hallowed hmode
  rw [hfailures] at hbelow
  exact absurd hbelow (by decide)

end SpxSpark.Providers
