import SpxSpark.Lib.Run
import SpxSpark.Providers.Failover
import SpxSpark.Providers.MarketHealth

/-!
# FailoverControl — the persisted failover state and the entry gate

`evaluate_and_persist` reads the state file, derives both providers' health from the latest market
state, steps the machine and writes the control document that every entry boundary asks.
-/

namespace SpxSpark.Providers

open Lib

/-! ## The control document -/

/-- The market session a document was written for. -/
inductive MonitoringContext
  | rth
  | gth
  | globex
  | closed
  deriving DecidableEq

def MonitoringContext.value : MonitoringContext → String
  | .rth => "rth"
  | .gth => "gth"
  | .globex => "globex"
  | .closed => "closed"

inductive IncidentStatus
  | inactive
  | pending
  | active
  | recovered
  deriving DecidableEq

/-- The running record of an outage of both providers' anchors; `duration` in microseconds. -/
structure DualSourceIncident where
  status : IncidentStatus := .inactive
  startedAt : Option Int := none
  duration : Int := 0
  schwabReason : String := ""
  ibkrReason : String := ""
  ibkrCompetingSession : Bool := false
  recoveredAt : Option Int := none

structure HealthDimensions where
  schwabTransport : ProviderHealth
  schwabAnchors : ProviderHealth
  schwabGthOptions : ProviderHealth
  ibkrTransport : ProviderHealth
  ibkrAnchors : ProviderHealth
  ibkrGthOptions : ProviderHealth
  gthOptionsRequired : Bool

/-- What `save_failover_state` writes. -/
structure ControlDocument where
  state : FailoverState
  monitoringActive : Bool
  monitoringContext : MonitoringContext
  ibkrMarketDataRequired : Bool
  newEntriesAllowed : Bool
  preferredOptionProvider : String
  selectionPolicy : String
  healthDimensions : Option HealthDimensions
  dualSourceIncident : Option DualSourceIncident

/-- The modes entries may be allowed in. -/
def FailoverMode.tradeable (mode : FailoverMode) : Bool :=
  mode = .schwabPrimary || mode = .ibkrFallback

def saveFailoverState (state : FailoverState) (monitoringActive : Bool)
    (monitoringContext : MonitoringContext) (healthDimensions : Option HealthDimensions)
    (dualSourceIncident : Option DualSourceIncident) : ControlDocument where
  state := state
  monitoringActive := monitoringActive
  monitoringContext := monitoringContext
  ibkrMarketDataRequired := monitoringActive && state.ibkrMarketDataRequired
  newEntriesAllowed := monitoringActive && state.mode.tradeable
  preferredOptionProvider := if monitoringContext = .gth then "ibkr" else "schwab"
  selectionPolicy :=
    if monitoringContext = .gth then "ibkr_gth_primary" else "schwab_primary_with_ibkr_fallback"
  healthDimensions := healthDimensions
  dualSourceIncident := dualSourceIncident

/-- The state file: absent, beyond reading (no file access, no JSON, no object), an object that
`from_dict` refuses, an object it accepts though the controller did not write it, or the
controller's own document. -/
inductive StateFile
  | missing
  | unreadable
  | garbled (context : String) (incident : DualSourceIncident)
  | foreign (state : FailoverState) (context : String) (incident : DualSourceIncident)
  | stored (document : ControlDocument)

def loadFailoverState (file : StateFile) (now : Int) : FailoverState :=
  match file with
  | .missing => .initial now
  | .unreadable | .garbled _ _ => { mode := .recoveryPending, updatedAt := now }
  | .foreign state _ _ => state
  | .stored document => document.state

/-- `load_failover_control(...).get("monitoring_context")`. -/
def previousContext (file : StateFile) : String :=
  match file with
  | .missing | .unreadable => ""
  | .garbled context _ | .foreign _ context _ => context
  | .stored document => document.monitoringContext.value

def previousIncident (file : StateFile) : DualSourceIncident :=
  match file with
  | .missing | .unreadable => {}
  | .garbled _ incident | .foreign _ _ incident => incident
  | .stored document => document.dualSourceIncident.getD {}

/-! ## One call -/

structure SessionCalendar where
  isRthOpen : Int → Bool
  isSpxGthOpen : Int → Bool
  isGlobexOpen : Int → Bool
  researchExpiry : Int → String

structure ProviderFailoverSettings where
  enabled : Bool
  requiredInstruments : List String
  globexRequiredInstruments : List String
  providerStateMaxAgeSeconds : ℚ
  quoteMaxAgeSeconds : ℚ
  monitorRthOnly : Bool
  thresholds : FailoverThresholds
  gthMinLiveOptionContracts : Nat := 20
  gthOptionQuoteMaxAgeSeconds : ℚ := 90

section Call

variable (calendar : SessionCalendar) (ageText : ℚ → String)

def monitoringActiveAt (now : Int) (rthOnly : Bool) : Bool :=
  calendar.isRthOpen now || !rthOnly && calendar.isGlobexOpen now

def monitoringContextAt (now : Int) (rthOnly : Bool) : MonitoringContext :=
  if calendar.isRthOpen now then .rth
  else if !rthOnly && calendar.isSpxGthOpen now then .gth
  else if !rthOnly && calendar.isGlobexOpen now then .globex
  else .closed

def dualSourceIncident (prior : DualSourceIncident) (now : Int) (schwab ibkr : ProviderHealth) :
    DualSourceIncident :=
  if !schwab.healthy && !ibkr.healthy then
    let startedAt := prior.startedAt.getD now
    let duration := max (now - startedAt) 0
    { status := if 15000000 ≤ duration then .active else .pending
      startedAt := some startedAt
      duration := duration
      schwabReason := schwab.reason
      ibkrReason := ibkr.reason
      ibkrCompetingSession := containsText "10197".toList ibkr.reason.toList ||
        containsText "competing session".toList ibkr.reason.toLower.toList }
  else
    match prior.startedAt with
    | some startedAt =>
      if prior.status = .pending ∨ prior.status = .active then
        { prior with
          status := .recovered, recoveredAt := some now, duration := max (now - startedAt) 0 }
      else {}
    | none => {}

def readHealth (settings : ProviderFailoverSettings) (latest : LatestState)
    (context : MonitoringContext) : HealthDimensions :=
  let required :=
    if context = .rth then settings.requiredInstruments else settings.globexRequiredInstruments
  let anchors := fun provider =>
    providerHealth ageText latest provider required settings.providerStateMaxAgeSeconds
      settings.quoteMaxAgeSeconds
  let transport := fun provider =>
    transportHealth ageText latest provider settings.providerStateMaxAgeSeconds
  let options := fun provider =>
    if context = .gth then
      gthOptionHealth latest provider (calendar.researchExpiry latest.asOf)
        settings.gthMinLiveOptionContracts settings.gthOptionQuoteMaxAgeSeconds
    else ⟨true, "not required outside GTH"⟩
  { schwabTransport := transport .schwab
    schwabAnchors := anchors .schwab
    schwabGthOptions := options .schwab
    ibkrTransport := transport .ibkr
    ibkrAnchors := anchors .ibkr
    ibkrGthOptions := options .ibkr
    gthOptionsRequired := context = .gth }

/-- The observation handed to the machine: overnight Schwab never counts as healthy, and IBKR
answers for its options once its anchors are up. -/
def observe (health : HealthDimensions) (context : MonitoringContext) (now : Int) :
    FailoverObservation :=
  let schwab : ProviderHealth :=
    if context = .gth then ⟨false, "IBKR is the configured GTH SPXW primary"⟩
    else health.schwabAnchors
  let ibkr :=
    if context = .gth ∧ health.ibkrAnchors.healthy then health.ibkrGthOptions
    else health.ibkrAnchors
  { observedAt := now
    schwabHealthy := schwab.healthy
    ibkrHealthy := ibkr.healthy
    schwabReason := some schwab.reason
    ibkrReason := some ibkr.reason }

/-- A new session derives the mode again and carries the streaks over. -/
def enterContext (current : FailoverState) (previous : String) (context : MonitoringContext)
    (ibkrHealthy : Bool) (now : Int) : FailoverState :=
  if (previous ≠ "" ∧ previous ≠ context.value) ∨
      (context = .gth ∧ current.mode = .schwabPrimary) then
    { mode :=
        if context = .gth ∧ ibkrHealthy = true then .ibkrFallback
        else if context = .gth then .recoveryPending
        else .schwabPrimary
      updatedAt := now
      sequence := current.sequence
      schwabUnhealthyStreak := current.schwabUnhealthyStreak
      schwabRecoveryStreak := current.schwabRecoveryStreak
      ibkrUnhealthyStreak := current.ibkrUnhealthyStreak
      ibkrRecoveryStreak := current.ibkrRecoveryStreak }
  else current

variable (settings : ProviderFailoverSettings)

def activeAt (latest : LatestState) : Bool :=
  settings.enabled && monitoringActiveAt calendar latest.asOf settings.monitorRthOnly

def contextAt (latest : LatestState) : MonitoringContext :=
  monitoringContextAt calendar latest.asOf settings.monitorRthOnly

def observationAt (latest : LatestState) : FailoverObservation :=
  observe (readHealth calendar ageText settings latest (contextAt calendar settings latest))
    (contextAt calendar settings latest) latest.asOf

/-- The state the machine is stepped from. -/
def currentAt (file : StateFile) (latest : LatestState) : FailoverState :=
  enterContext (loadFailoverState file latest.asOf) (previousContext file)
    (contextAt calendar settings latest)
    (observationAt calendar ageText settings latest).ibkrHealthy latest.asOf

/-- What a call came to: monitoring was off, or the mode it observed in and the observation. -/
inductive Evaluation
  | inactive
  | observed (mode : FailoverMode) (observation : FailoverObservation)

def evaluateAndPersist (file : StateFile) (latest : LatestState) :
    Evaluation × ControlDocument :=
  if activeAt calendar settings latest then
    let context := contextAt calendar settings latest
    let health := readHealth calendar ageText settings latest context
    let current := currentAt calendar ageText settings file latest
    let observation := observationAt calendar ageText settings latest
    (.observed current.mode observation,
      saveFailoverState (advanceFailover current observation settings.thresholds) true context
        (some health)
        (some (dualSourceIncident (previousIncident file) latest.asOf health.schwabAnchors
          health.ibkrAnchors)))
  else
    (.inactive, saveFailoverState (.initial latest.asOf) false .closed none none)

end Call

/-! ## The entry gate -/

/-- A control document as an entry boundary reads it. -/
structure RawControl where
  monitoringActive : Bool := false
  newEntriesAllowed : Bool := false
  mode : String := ""
  updatedAt : Option Int := none

structure EntryDecision where
  allowed : Bool
  reason : String
  mode : Option String
  updatedAt : Option Int
  ageSeconds : Option ℚ
  maxAgeSeconds : ℚ

def futureTimestampToleranceSeconds : ℚ := 5

def newEntryControlDecision (raw : RawControl) (now : Int) (maxAgeSeconds : ℚ) : EntryDecision :=
  let ageSeconds := raw.updatedAt.map fun updatedAt => secondsBetween now updatedAt
  let reason :=
    if raw.monitoringActive ≠ true then "monitoring_inactive"
    else if raw.newEntriesAllowed ≠ true then "entries_not_explicitly_allowed"
    else if raw.mode ≠ FailoverMode.schwabPrimary.value ∧
        raw.mode ≠ FailoverMode.ibkrFallback.value then "unsafe_failover_mode"
    else
      match ageSeconds with
      | none => "control_timestamp_missing"
      | some age =>
        if age < -futureTimestampToleranceSeconds then "control_timestamp_in_future"
        else if maxAgeSeconds < age then "control_state_stale"
        else "allowed"
  { allowed := reason = "allowed"
    reason := reason
    mode := if raw.mode = "" then none else some raw.mode
    updatedAt := raw.updatedAt
    ageSeconds := ageSeconds
    maxAgeSeconds := maxAgeSeconds }

def controlAllowsNewEntries (raw : RawControl) (now : Int) (maxAgeSeconds : ℚ) : Bool :=
  (newEntryControlDecision raw now maxAgeSeconds).allowed

/-- The controller's document as an entry boundary reads it. -/
def ControlDocument.raw (document : ControlDocument) : RawControl where
  monitoringActive := document.monitoringActive
  newEntriesAllowed := document.newEntriesAllowed
  mode := document.state.mode.value
  updatedAt := some document.state.updatedAt

theorem controlAllowsNewEntries_iff (raw : RawControl) (now : Int) (maxAgeSeconds : ℚ) :
    controlAllowsNewEntries raw now maxAgeSeconds = true ↔
      raw.monitoringActive = true ∧ raw.newEntriesAllowed = true ∧
        (raw.mode = FailoverMode.schwabPrimary.value ∨
          raw.mode = FailoverMode.ibkrFallback.value) ∧
        ∃ updatedAt, raw.updatedAt = some updatedAt ∧
          -futureTimestampToleranceSeconds ≤ secondsBetween now updatedAt ∧
          secondsBetween now updatedAt ≤ maxAgeSeconds := by
  have hmodes : (raw.mode = FailoverMode.schwabPrimary.value ∨
        raw.mode = FailoverMode.ibkrFallback.value) ↔
      ¬(raw.mode ≠ FailoverMode.schwabPrimary.value ∧
        raw.mode ≠ FailoverMode.ibkrFallback.value) := by
    rw [not_and_or, not_not, not_not]
  rw [hmodes]
  unfold controlAllowsNewEntries newEntryControlDecision
  simp only [decide_eq_true_eq]
  by_cases hactive : raw.monitoringActive ≠ true
  · simp [hactive]
  by_cases hallowed : raw.newEntriesAllowed ≠ true
  · simp [hactive, hallowed]
  by_cases hmode : raw.mode ≠ FailoverMode.schwabPrimary.value ∧
      raw.mode ≠ FailoverMode.ibkrFallback.value
  · rw [if_neg hactive, if_neg hallowed, if_pos hmode]
    exact iff_of_false (by decide) fun h => h.2.2.1 hmode
  rw [if_neg hactive, if_neg hallowed, if_neg hmode]
  rw [ne_eq, not_not] at hactive hallowed
  cases hupdated : raw.updatedAt with
  | none => simp
  | some updatedAt =>
    simp only [Option.map_some, hactive, hallowed, hmode, true_and, not_false_eq_true,
      Option.some.injEq, exists_eq_left']
    by_cases hfuture : secondsBetween now updatedAt < -futureTimestampToleranceSeconds
    · rw [if_pos hfuture]
      exact iff_of_false (by decide) fun h => absurd hfuture (not_lt.mpr h.1)
    · rw [if_neg hfuture]
      by_cases hstale : maxAgeSeconds < secondsBetween now updatedAt
      · rw [if_pos hstale]
        exact iff_of_false (by decide) fun h => absurd hstale (not_lt.mpr h.2)
      · rw [if_neg hstale]
        exact iff_of_true rfl ⟨not_lt.mp hfuture, not_lt.mp hstale⟩

end SpxSpark.Providers
