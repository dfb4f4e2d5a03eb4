import SpxSpark.Ibkr.QuoteDemandWire

/-!
# QuoteDemandSelect — which two legs are to be pinned

An open virtual position comes first; then the cards that may be resting as orders: a delivered card
that is monitored, the active plan, a card whose terminal receipt is being checked; then, unless all
demand is to be cleared, the candidate, the last signal and the pending event.
-/

namespace SpxSpark.Ibkr.QuoteDemand

open Lib Strategy
open JsonValue (get isNull object? text? truthy)

variable (py : PyTools)

/-! ## Values of a state -/

/-- `optional_time`. -/
def optionalTime (value : Option JsonValue) : Except PyError (Option Instant) :=
  match parseTime py value with
  | .ok time => .ok (some time)
  | .error .overflowError => .error .overflowError
  | .error _ => .ok none

/-- `value == text`, of a text that may be `None`. -/
def equalsOptional (value : Option JsonValue) : Option Text → Bool
  | some text => equalsText value text
  | none => value.all isNull

/-- `dict(value) if isinstance(value, Mapping) else {}`. -/
def mappingOrEmpty (value : Option JsonValue) : Members := (value.bind object?).getD []

/-- `value in names`, which raises for a value that cannot be hashed. -/
def isAmong (names : List Text) : Option JsonValue → Except PyError Bool
  | some (.string text) => .ok (names.contains text)
  | some (.array _) | some (.object _) => .error .typeError
  | _ => .ok false

/-- `_valid_strike(float(text))`. -/
def strikeOfText (text : Text) : Except PyError Int :=
  match py.float text with
  | some value => validStrike (some (.float value))
  | none => .error .valueError

variable (contractId : Option JsonValue) (sessionDate : Text)

/-- The body of `spxw_leg_from_contract_id`, which may raise. -/
def readSpxwLeg : Except PyError (Option (Int × Text)) := do
  let expiry ← validSessionDate (some (.string sessionDate))
  match contractId.bind text? with
  | none => .ok none
  | some text =>
    match text.splitOn ':' with
    | [kind, symbol, tradingClass, date, strike, right] =>
      if kind ≠ "option".toList || symbol ≠ "SPX".toList || tradingClass ≠ "SPXW".toList ||
          date ≠ compactDate expiry || !(right = call || right = put) then .ok none
      else do
        let strike ← strikeOfText py strike
        let leg ← buildLeg "long".toList expiry (some (.int strike)) right
        .ok (if text = leg.contractId then some (strike, right) else none)
    | _ => .ok none

/-- `spxw_leg_from_contract_id`. -/
def spxwLegFromContractId : Option (Int × Text) :=
  match readSpxwLeg py contractId sessionDate with
  | .ok leg => leg
  | .error _ => none

/-- `spxw_call_strike_from_contract_id`. -/
def spxwCallStrikeFromContractId : Option Int :=
  match spxwLegFromContractId py contractId sessionDate with
  | some (strike, right) => if right = call then some strike else none
  | none => none

/-! ## What is selected -/

/-- A demand or none, and why. -/
abbrev Selected := Option ExactLegQuoteDemand × Text

def notSelected (reason : String) : Selected := (none, reason.toList)

def refusedAs (status : Text) (reason : String) : Selected := (none, status ++ reason.toList)

/-- `except (TypeError, ValueError)`. -/
def exceptInvalid (demand : Except PyError ExactLegQuoteDemand) (selected refusal : Text) :
    Except PyError Selected :=
  match demand with
  | .ok demand => .ok (some demand, selected)
  | .error .overflowError => .error .overflowError
  | .error _ => .ok (none, refusal)

def active : Text := "active".toList
def confirmed : Text := "confirmed".toList
def pending : Text := "pending".toList

def quoteDemandLeaseSeconds : Int := 30

/-- The end of a lease from now, or the end of the source. -/
def leaseUntil (now sourceUntil : Instant) : Instant :=
  min (now + quoteDemandLeaseSeconds * 1000000) sourceUntil

/-! ## Demands of the virtual position, a signal and a pending event -/

variable (source : Members)

/-- The fields of the source that an active position is checked for. -/
def activeLifecycle (sessionDate : Text) : Bool :=
  equalsText (get "status".toList source) active &&
    equalsText (get "source_kind".toList source) "gth_dip_reclaim_call".toList &&
    equalsText (get "session_id".toList source) sessionDate &&
    "virtual_strategy_lifecycle.v3+sha256:".toList.isPrefixOf
      (strOr py (get "policy_version".toList source) []) &&
    "gth_dip_reclaim.v4+sha256:".toList.isPrefixOf
      (strOr py (get "source_policy_version".toList source) [])

/-- What a signal or a pending event is checked for. -/
def signalPolicy (coordinate : Members) (sessionDate : Text) : Bool :=
  equalsText (get "session_date".toList source) sessionDate &&
    "gth_dip_reclaim.v4+sha256:".toList.isPrefixOf
      (strOr py (get "policy_version".toList source) []) &&
    ((get "provider".toList source).getD .null).equals
      ((get "provider".toList coordinate).getD .null)

/-- What is wrong with a source whose envelope is in order. -/
def sourceFieldsIssue (status sessionDate : Text) : Option Text :=
  let coordinate := mappingOrEmpty (get "coordinate".toList source)
  if !equalsText (get "kind".toList coordinate) "raw_es".toList then
    some (status ++ "_source_coordinate_invalid".toList)
  else if !isFalse (get "automatic_ordering".toList source) then
    some (status ++ "_automatic_ordering_invalid".toList)
  else if status = active then
    if activeLifecycle py source sessionDate then none
    else some "active_lifecycle_contract_invalid".toList
  else if signalPolicy py source coordinate sessionDate then none
  else some (status ++ "_source_policy_invalid".toList)

/-- A pending event need not say how long it is valid. -/
def sourceContractIssues (status : Text) (now : Instant) : Except PyError (List ContractIssue) :=
  if status = pending then strategyContractIssues py (envelopeOf source) false true
  else actionableStrategyContractIssues py source now

/-- `_source_demand_issue`. -/
def sourceDemandIssue (status sessionDate : Text) (now : Instant) :
    Except PyError (Option Text) := do
  let issues ← sourceContractIssues py source status now
  if issues ≠ [] then .ok (some (status ++ "_source_contract_invalid".toList))
  else .ok (sourceFieldsIssue py source status sessionDate)

/-- What `_safe_build_demand` asks to be built. -/
def sourceRequest (eventId status sessionDate : Text) (longStrike shortStrike : Option JsonValue)
    (now validUntil : Instant) : Except PyError DemandRequest := do
  let coordinate ← requiredMapping (get "coordinate".toList source)
  let sourceSchema ← requiredInt (get "schema_version".toList source)
  let sourcePolicy ← requiredString (get "policy_version".toList source)
  .ok {
    eventId, status, sessionDate, longStrike, shortStrike
    createdAt := now
    updatedAt := now
    validUntil
    sourceSchemaVersion := sourceSchema
    sourcePolicyVersion := sourcePolicy
    sourceProvider := strOr py (orValue (get "provider".toList source)
      (get "provider".toList coordinate)) []
    coordinate
    blockReasons := get "block_reasons".toList source }

/-- `_safe_build_demand`. -/
def safeBuildDemand (eventId status sessionDate : Text) (longStrike shortStrike : Option JsonValue)
    (now validUntil : Instant) : Except PyError Selected :=
  exceptInvalid
    (sourceRequest py source eventId status sessionDate longStrike shortStrike now validUntil >>=
      buildExactLegQuoteDemand py)
    "selected".toList (status ++ "_quote_demand_invalid".toList)

/-- `_demand_from_spread`. -/
def demandFromSpread (status sessionDate : Text) (now validUntil : Instant) :
    Except PyError Selected := do
  match ← sourceDemandIssue py source status sessionDate now with
  | some issue => .ok (none, issue)
  | none =>
    match (get "spread".toList source).bind object? with
    | none => .ok (refusedAs status "_spread_unavailable")
    | some spread =>
      if !equalsText (get "right".toList spread) call ||
          !equalsText (get "expiry_date".toList spread) sessionDate then
        .ok (refusedAs status "_spread_unavailable")
      else
        safeBuildDemand py source (strOr py (get "event_id".toList source) []) status
          sessionDate (get "long_strike".toList spread)
          (get "short_strike".toList spread) now validUntil

/-- The strike of a call, as a value. -/
def callStrike (name : String) (sessionDate : Text) : Option JsonValue :=
  (spxwCallStrikeFromContractId py (get name.toList source) sessionDate).map .int

/-- `_demand_from_contracts`. -/
def demandFromContracts (eventId sessionDate : Text) (now validUntil : Instant) :
    Except PyError Selected := do
  match ← sourceDemandIssue py source active sessionDate now with
  | some issue => .ok (none, issue)
  | none =>
    safeBuildDemand py source eventId active sessionDate
      (callStrike py source "long_contract_id" sessionDate)
      (callStrike py source "short_contract_id" sessionDate) now validUntil

/-! ## Demands of cards -/

/-- The end of the monitoring, or the planned exit where none is given. -/
def monitorStop (monitor plan : Members) : Except PyError (Option Instant) := do
  match ← optionalTime py (get "monitor_until".toList monitor) with
  | some time => .ok (some time)
  | none => optionalTime py (get "exit_at".toList plan)

/-- The plan of a delivered card, until its monitoring ends. -/
def liveMonitor (now : Instant) (monitor : Members) : Except PyError (Option (Members × Instant)) :=
  match (get "active_plan".toList monitor).bind object? with
  | none => .ok none
  | some plan => do
      let stop ← monitorStop py monitor plan
      .ok ((stop.filter fun time => now < time).map fun time => (plan, time))

/-- The source of a card whose receipt is being checked, until its planned exit. -/
def liveCheck (now : Instant) (check : Members) : Except PyError (Option (Members × Instant)) :=
  match (get "active_plan".toList check).bind object? with
  | none => .ok none
  | some plan => do
      let exitAt ← optionalTime py (get "exit_at".toList plan)
      .ok ((exitAt.filter fun time => now < time).map fun time =>
        (override (mappingOrEmpty (get "candidate".toList check)) plan, time))

/-- A plan, completed by the last candidate where it is the plan's own. -/
def completedPlan (last plan : Members) : Members :=
  let candidateId := strOr py (get "candidate_id".toList plan) []
  if candidateId ≠ [] && candidateId = strOr py (get "candidate_id".toList last) [] then
    override last plan
  else plan

/-- What a card's demand is taken from. -/
structure CardSource where
  source : Members
  sourceUntil : Option Instant
  status : Text
  orderAtRisk : Bool

/-- The candidate that the state ends with, where it is one to observe. -/
def lastCandidate (last : Members) : Except PyError (Option CardSource) := do
  let status := get "status".toList last
  let observed ←
    isAmong ["manual_ready".toList, "selector_candidate".toList, "structure_watch".toList] status
  if observed then do
    let sourceUntil ← optionalTime py (get "valid_until".toList last)
    .ok (some ⟨last, sourceUntil,
      if equalsText status "structure_watch".toList then pending else confirmed, false⟩)
  else .ok none

/-- The card that may be resting as an order, after the ones that are monitored. -/
def planOrCheck (active last : Members) (checks : List Members) (now : Instant) :
    Except PyError (Option CardSource) :=
  if !active.isEmpty then do
    let source := completedPlan py last active
    let sourceUntil ← optionalTime py (get "exit_at".toList source)
    .ok (some ⟨source, sourceUntil, confirmed, true⟩)
  else do
    match ← findLive (liveCheck py now) checks.reverse with
    | some (source, stop) => .ok (some ⟨source, some stop, pending, true⟩)
    | none => lastCandidate py last

/-- The card whose legs are to be pinned. -/
def cardSource (state : Members) (now : Instant) : Except PyError (Option CardSource) := do
  let last := mappingOrEmpty (get "last_candidate".toList state)
  let active := mappingOrEmpty (get "active_manual_plan".toList state)
  let monitors ← mappings (get "manual_plan_monitors".toList state)
  let checks ← mappings (get "pending_terminal_receipt_checks".toList state)
  match ← findLive (liveMonitor py now) monitors.reverse with
  | some ([], _) | none => planOrCheck py active last checks now
  | some (plan, stop) => .ok (some ⟨completedPlan py last plan, some stop, confirmed, true⟩)

def sourceExpiry (sessionDate : Text) : Text :=
  let expiry := strOr py (orValue (get "expiry".toList source)
    (get "session_date".toList source)) []
  if expiry = compactDate sessionDate then sessionDate else expiry

/-- The id of the event that a card was announced by. -/
def cardEventId : Text :=
  let notification := strOr py (get "notification_event_id".toList source) []
  let ready := strOr py (get "ready_event_id".toList source) []
  if notification ≠ [] then notification
  else if ready ≠ [] then ready
  else py.str ((get "candidate_id".toList source).getD .null) ++ ":ready".toList

def cardPolicy : Text :=
  strOr py (get "policy_version".toList source) []

/-- What is asked to be built for a card. -/
def cardRequest (card : CardSource) (sessionDate : Text) (now stop : Instant)
    (longStrike shortStrike : Int) (right : Text) (coordinate : Members) : DemandRequest where
  eventId := cardEventId py card.source
  status := card.status
  sessionDate := sessionDate
  longStrike := some (.int longStrike)
  shortStrike := some (.int shortStrike)
  right := right
  createdAt := now
  updatedAt := now
  validUntil := leaseUntil now stop
  sourceSchemaVersion := strategyEventSchemaVersion
  sourcePolicyVersion := cardPolicy py card.source
  sourceProvider := strOr py (get "provider".toList coordinate) "unknown".toList
  coordinate := coordinate
  blockReasons := some (.array [])

/-- The two legs of a source, where they are legs of the session and of one right. -/
def cardLegs (sessionDate : Text) : Option (Int × Int × Text) :=
  match spxwLegFromContractId py (get "long_contract_id".toList source) sessionDate,
      spxwLegFromContractId py (get "short_contract_id".toList source) sessionDate with
  | some (long, right), some (short, other) =>
    if right = other then some (long, short, right) else none
  | _, _ => none

/-- The coordinate of a source, where it is one of the future itself. -/
def cardCoordinate : Option Members :=
  ((get "invalidation_coordinate".toList source).bind object?).filter
    fun coordinate => equalsText (get "kind".toList coordinate) "raw_es".toList

def cardDemand (card : CardSource) (sessionDate : Text) (now : Instant) : Except PyError Selected :=
  match card.sourceUntil with
  | none => .ok (notSelected "manual_candidate_quote_demand_expiry_invalid")
  | some stop =>
    if stop ≤ now then .ok (notSelected "manual_candidate_quote_demand_expired")
    else if sourceExpiry py card.source sessionDate ≠ sessionDate then
      .ok (notSelected "manual_candidate_session_mismatch")
    else
      match cardLegs py card.source sessionDate with
      | none => .ok (notSelected "manual_candidate_exact_legs_invalid")
      | some (long, short, right) =>
        match cardCoordinate card.source with
        | none => .ok (notSelected "manual_candidate_raw_es_coordinate_invalid")
        | some coordinate =>
          if !"gth_level_manual_candidate.v1+sha256:".toList.isPrefixOf
              (cardPolicy py card.source) then
            .ok (notSelected "manual_candidate_policy_invalid")
          else
            exceptInvalid
              (buildExactLegQuoteDemand py
                (cardRequest py card sessionDate now stop long short right coordinate))
              "selected_unified_manual_candidate".toList
              "manual_candidate_quote_demand_invalid".toList

/-- The demand of a card, and whether an order may be resting. -/
def cardSelection (card : Option CardSource) (sessionDate : Text) (now : Instant) :
    Except PyError (Selected × Bool) :=
  match card with
  | none => .ok (notSelected "no_unified_manual_quote_demand", false)
  | some card => do
      let selected ← cardDemand py card sessionDate now
      .ok (selected, card.orderAtRisk)

/-- `_manual_candidate_demand`. The last part is whether an order may be resting. -/
def manualCandidateDemand (state : Option JsonValue) (sessionDate : Text) (now : Instant) :
    Except PyError (Selected × Bool) :=
  match state.bind object? with
  | none => .ok (notSelected "no_unified_manual_quote_demand", false)
  | some state => do
      let card ← cardSource py state now
      cardSelection py card sessionDate now

/-! ## The selection -/

structure SelectionInput where
  at_ : Instant
  sessionDate : Text
  provider : Option Text
  gthState : Members
  virtualActive : Option Members
  manualCandidateState : Option JsonValue
  forcedClearReason : Option Text

/-- The position, where it is one whose legs can be pinned. -/
def virtualSpread (virtualActive : Option Members) : Option Members :=
  virtualActive.filter fun position =>
    !position.isEmpty &&
      equalsText (get "position_type".toList position) "call_debit_spread".toList

def virtualDemand (position : Members) (sessionDate : Text) (now : Instant) :
    Except PyError Selected := do
  match ← optionalTime py (get "time_stop_at".toList position) with
  | none => .ok (notSelected "active_quote_demand_expired")
  | some stop =>
    if stop ≤ now then .ok (notSelected "active_quote_demand_expired")
    else
      demandFromContracts py position
        (strOr py (orValue (get "source_signal_id".toList position)
          (get "episode_id".toList position)) [])
        sessionDate now (leaseUntil now stop)

/-- The planned exit of an event's spread. -/
def spreadExit (event : Members) : Except PyError (Option Instant) :=
  match (get "spread".toList event).bind object? with
  | some spread => optionalTime py (get "exit_at".toList spread)
  | none => .ok none

variable (input : SelectionInput)

/-- The demand of the pending event, once no signal has one. -/
def pendingDemand : Except PyError Selected :=
  match (get "pending".toList input.gthState).bind object? with
  | none => .ok (notSelected "no_exact_leg_quote_demand")
  | some event =>
    if equalsOptional (get "provider".toList event) input.provider &&
        (get "event_id".toList event).any truthy then do
      match ← spreadExit py event with
      | some exitAt =>
        demandFromSpread py event pending input.sessionDate input.at_
          (leaseUntil input.at_ exitAt)
      | none => .ok (notSelected "no_exact_leg_quote_demand")
    else .ok (notSelected "no_exact_leg_quote_demand")

/-- The signal is still valid, and of this provider and session. -/
def liveSignal (signal : Members) (signalUntil : Option Instant) : Option Instant :=
  signalUntil.filter fun time =>
    input.at_ < time &&
      equalsOptional (get "provider".toList signal) input.provider &&
      equalsText (get "session_date".toList signal) input.sessionDate

/-- The demand of a signal or of a pending event. -/
def gthDemand : Except PyError Selected :=
  if isTrue (get "provider_changed".toList input.gthState) then
    .ok (notSelected "gth_provider_switched")
  else if equalsText (get "status".toList input.gthState) "suppressed_pre_event".toList then
    .ok (notSelected "gth_entry_suppressed")
  else
    match (get "last_signal".toList input.gthState).bind object? with
    | none => pendingDemand py input
    | some signal => do
        let signalUntil ← optionalTime py (get "valid_until".toList signal)
        match liveSignal input signal signalUntil with
        | some time =>
          demandFromSpread py signal confirmed input.sessionDate input.at_
            (leaseUntil input.at_ time)
        | none => pendingDemand py input

/-- What follows once no order may be resting. -/
def ordinaryDemand (manual : Selected) : Except PyError Selected :=
  match input.forcedClearReason.filter (· ≠ []) with
  | some reason => .ok (none, reason)
  | none =>
    if manual.1.isSome then .ok manual
    else if manual.2 ≠ "no_unified_manual_quote_demand".toList then .ok (none, manual.2)
    else gthDemand py input

/-- A card that may be resting is not released. -/
def chosenDemand (manual : Selected × Bool) : Except PyError Selected :=
  if manual.2 then .ok manual.1 else ordinaryDemand py input manual.1

/-- `select_gth_quote_demand`. -/
def selectGthQuoteDemand : Except PyError Selected :=
  if !isSessionDate input.sessionDate then .ok (notSelected "demand_clock_or_session_invalid")
  else
    match virtualSpread input.virtualActive with
    | some position => virtualDemand py position input.sessionDate input.at_
    | none => do
        let manual ← manualCandidateDemand py input.manualCandidateState input.sessionDate input.at_
        chosenDemand py input manual

end SpxSpark.Ibkr.QuoteDemand
