import SpxSpark.Ibkr.SubscriptionOps

/-!
# ExactLegPin — the lane of pinned spread legs

A demand names two exact legs. Admission takes over the legs that hot or rotation already carry,
preempts whole strike pairs where the lines do not suffice, and asks for the rest; every failure
puts the preempted lines back.
-/

namespace SpxSpark.Ibkr

open Lib

/-! ## Counting lines -/

def pinCapacityReserveLines : Nat := 6

/-- How many different labels some lanes have together. -/
def lineCount (w : Collector) (lanes : List Lane) : Nat :=
  ((lanes.flatMap fun lane => (w.lanes lane).keys).dedup).length

def allLanes : List Lane := [.base, .hot, .rotation, .pinned, .spy, .slow]

def optionLanes : List Lane := [.hot, .rotation, .pinned]

/-- `_pin_release_needed`: the lines to give up before so many more can be asked for. -/
def pinReleaseNeeded (settings : StreamSettings) (w : Collector) (additions : Nat) : Nat :=
  if additions = 0 then 0
  else
    let usable := (w.link.effectiveCapacity - pinCapacityReserveLines).toNat
    -- the slow lane counts with its largest chunk also while it is idle
    let slowPeak := (w.slowChunks.map List.length).foldl max 0
    let dormantSlowLines := slowPeak - (w.lanes .slow).size
    let overallRelease := lineCount w allLanes + dormantSlowLines + additions - usable
    let optionRelease := lineCount w optionLanes + additions - settings.maxOptionLines
    max overallRelease optionRelease

/-! ## Victims -/

def pairOf : Label → Option (String × Int)
  | .spxw expiry strike _ => some (expiry, strike)
  | _ => none

/-- Pairs are added until there are enough lines; each has two. -/
def takePairs (needed : Nat) : Nat → List (String × Int) → List (String × Int)
  | _, [] => []
  | chosen, pair :: rest =>
    if needed ≤ chosen + 2 then [pair] else pair :: takePairs needed (chosen + 2) rest

/-- `_select_pair_victims`: whole pairs, the farthest from the money first. -/
def selectPairVictims (subs : Subscriptions) (needed : Nat) (excluded : List Label) (atm : Int) :
    Subscriptions :=
  let eligible := subs.keys.filter fun label => label ∉ excluded
  let whole := (eligible.filterMap pairOf).dedup.filter fun pair =>
    .spxw pair.1 pair.2 .call ∈ eligible ∧ .spxw pair.1 pair.2 .put ∈ eligible
  let ordered := sortedLabels (fartherFirst atm) (whole.map fun pair =>
    .spxw pair.1 pair.2 .call)
  let chosen := takePairs needed 0 (ordered.filterMap pairOf)
  subs.restrict fun label _ => label ∈ eligible ∧ ∃ pair ∈ chosen, pairOf label = some pair

/-- Each lane takes back what can be restored; anything missing flags the health. -/
def restorePinVictims : List (Lane × Subscriptions) → CollectorOp Unit
  | [] => pure ()
  | (lane, victims) :: rest => do
      let restored ← onLink (restoreSubscriptions victims lane)
      modify fun w => w.setLane lane (Dict.update (w.lanes lane) restored)
      onLink (modify (Link.failHealthIf (restored.size ≠ victims.size)))
      restorePinVictims rest

/-- The victims' lines are cancelled and leave their lane. -/
def preemptVictims (lane : Lane) (victims : Subscriptions) : CollectorOp Bool := do
  let cancelled ← onLink (cancelAny victims)
  if cancelled = false then pure false
  else
    modify fun w => w.setLane lane ((w.lanes lane).restrict fun label _ => label ∉ victims)
    pure true

/-! ## Demands -/

inductive DemandIssue
  | missingOrInvalid
  | tombstone
  | expired
  | invalid (issue : String)

/-- What the commit guard reads when it is called: clock, file revision, and the clock's session. -/
structure GuardReading where
  now : Instant
  revision : Option (Int × Int)
  session : String

/-- What `reconcile_exact_leg_demand` reads. The guard reads twice more. -/
structure DemandReading where
  now : Instant
  expectedSession : String
  revision : Option (Int × Int)
  demand : Except DemandIssue ExactLegQuoteDemand
  beforeRelease : GuardReading
  beforeCommit : GuardReading

inductive AckStatus
  | idle
  | rejected
  | blocked
  | superseded
  | expired
  | active
  | released
  deriving DecidableEq

structure Ack where
  status : AckStatus
  reason : String

/-- `_pin_commit_guard`. -/
def pinCommitGuard (demand : ExactLegQuoteDemand) (expected : Option (Int × Int))
    (reading : GuardReading) : Option String :=
  if demand.validUntil ≤ reading.now then some "lease_expired"
  else if reading.revision ≠ expected then some "demand_superseded"
  else if demand.sessionDate ≠ reading.session then some "session_expiry_mismatch"
  else none

def guardAck (issue : String) : Ack :=
  ⟨if issue = "lease_expired" then .expired else .superseded, issue⟩

def Collector.desiredHotLabels (w : Collector) : List Label :=
  w.optionPlan.elim [] desiredLabels

/-! ## Admission -/

/-- The legs that the collector carries already, and in which lane. -/
structure ReusedLegs where
  hot : Subscriptions
  rotation : Subscriptions

def ReusedLegs.existing (legs : ReusedLegs) : Subscriptions := Dict.update legs.rotation legs.hot

def reusedLegs (demand : ExactLegQuoteDemand) (w : Collector) : ReusedLegs where
  hot := (w.lanes .hot).restrict fun label _ => label ∈ demand.labels
  rotation := (w.lanes .rotation).restrict fun label _ =>
    label ∈ demand.labels ∧ label ∉ w.lanes .hot

/-- The lane of the first leg whose subscription is not healthy. -/
def unhealthyLeg (demand : ExactLegQuoteDemand) (w : Collector) : Option Lane :=
  demand.labels.findSome? fun label =>
    match (w.lanes .hot).lookup label with
    | some sub => if w.link.healthyRow sub then none else some .hot
    | none => ((w.lanes .rotation).lookup label).bind fun sub =>
      if w.link.healthyRow sub then none else some .rotation

def unhealthyLegReason : Lane → String
  | .hot => "existing_hot_subscription_unhealthy"
  | _ => "existing_rotation_subscription_unhealthy"

/-- The legs leave their lanes for the pinned one. -/
def commitPin (demand : ExactLegQuoteDemand) (legs : ReusedLegs)
    (additions hotVictims : Subscriptions) (w : Collector) : Collector :=
  let hot := (w.lanes .hot).restrict fun label _ => label ∉ legs.hot
  let rotation := (w.lanes .rotation).restrict fun label _ => label ∉ legs.rotation
  { ((w.setLane .hot hot).setLane .rotation rotation).setLane .pinned
      (Dict.update legs.existing additions) with
    exactLegHotVictims := hotVictims
    exactLegDemand := some demand
    link := deferRotation 0 (w.link.registerSubscriptionRows legs.existing .pinned) }

/-- The lines given up for a pin. -/
structure PinVictims where
  rotation : Subscriptions
  hot : Subscriptions

def PinVictims.released (victims : PinVictims) : List (Lane × Subscriptions) :=
  [(.rotation, victims.rotation), (.hot, victims.hot)]

/-- The last part of an admission, once the lines are free. -/
def subscribePin (demand : ExactLegQuoteDemand) (reading : DemandReading) (legs : ReusedLegs)
    (victims : PinVictims) (missing : List Label) : CollectorOp Ack := do
  let before ← get
  let additions ← onLink (qualifyAndSubscribe missing)
  let succeeded ← onLink (subscriptionBatchSucceeded additions missing.length
    before.link.subscriptionRejectionSequence before.link.twsConnectivityLossSequence false
    .pinned)
  if succeeded = false then
    let _ ← onLink (cancelBatch additions)
    restorePinVictims victims.released
    let after ← get
    pure ⟨if after.link.subscriptionLifecycleBlocked then .blocked else .rejected,
      "exact_leg_subscription_failed"⟩
  else
    let w ← get
    let issue := pinCommitGuard demand reading.revision reading.beforeCommit
    if issue.isSome ∨ w.link.subscriptionsHealthy legs.existing = false then
      let _ ← onLink (cancelBatch additions)
      restorePinVictims victims.released
      pure (issue.elim ⟨.blocked, "reused_subscription_became_unhealthy"⟩ guardAck)
    else
      modify (commitPin demand legs additions victims.hot)
      pure ⟨.active, "exact_legs_pinned"⟩

/-- The middle part: the victims are given up. -/
def preemptForPin (settings : StreamSettings) (demand : ExactLegQuoteDemand)
    (reading : DemandReading) (legs : ReusedLegs) (victims : PinVictims) (missing : List Label) :
    CollectorOp Ack := do
  let rotationFree ← preemptVictims .rotation victims.rotation
  if rotationFree = false then pure ⟨.blocked, "rotation_preemption_failed"⟩
  else
    let hotFree ← preemptVictims .hot victims.hot
    if hotFree = false then
      restorePinVictims [(.rotation, victims.rotation)]
      pure ⟨.blocked, "hot_preemption_failed"⟩
    else
      let w ← get
      if pinReleaseNeeded settings w missing.length ≠ 0 then
        restorePinVictims victims.released
        pure ⟨.rejected, "capacity_reserve_not_restored"⟩
      else subscribePin demand reading legs victims missing

/-- Rotation lines are given up first, then hot ones. -/
def choosePinVictims (settings : StreamSettings) (demand : ExactLegQuoteDemand)
    (missing : List Label) (w : Collector) : PinVictims × Nat :=
  let atm := w.optionPlan.elim 0 (·.atmStrike)
  let needed := pinReleaseNeeded settings w missing.length
  let rotation := if needed = 0 then ∅
    else selectPairVictims (w.lanes .rotation) needed demand.labels atm
  let neededHot := needed - rotation.size
  let hot := if neededHot = 0 then ∅
    else selectPairVictims (w.lanes .hot) neededHot demand.labels atm
  (⟨rotation, hot⟩, neededHot - hot.size)

/-- `_admit_exact_leg_pin`. -/
def admitExactLegPin (settings : StreamSettings) (demand : ExactLegQuoteDemand)
    (reading : DemandReading) : CollectorOp Ack := do
  let w ← get
  if w.link.subscriptionLifecycleBlocked then
    pure ⟨.blocked, "subscription_lifecycle_blocked"⟩
  else if (demand.specs.map optionSpecLabel).toFinset ≠ demand.labels.toFinset then
    pure ⟨.rejected, "contract_definition_mismatch"⟩
  else
    match unhealthyLeg demand w with
    | some lane => pure ⟨.blocked, unhealthyLegReason lane⟩
    | none =>
      let legs := reusedLegs demand w
      let missing := demand.labels.filter (· ∉ legs.existing)
      let resolved ← onLink (if missing = [] then pure [] else resolveOptionDefinitions missing)
      if resolved.length ≠ missing.length then
        pure ⟨.rejected, "exact_leg_qualification_incomplete"⟩
      else
        match pinCommitGuard demand reading.revision reading.beforeRelease with
        | some issue => pure (guardAck issue)
        | none =>
          let w ← get
          let (victims, unmet) := choosePinVictims settings demand missing w
          if unmet ≠ 0 then pure ⟨.rejected, "exact_leg_capacity_unavailable"⟩
          else preemptForPin settings demand reading legs victims missing

/-! ## Release -/

/-- `_release_exact_leg_pin`. -/
def releaseExactLegPin (reason : String) : CollectorOp Ack := do
  let w ← get
  let desiredHot := w.desiredHotLabels
  let transferToHot := (w.lanes .pinned).restrict fun label _ => label ∈ desiredHot
  let cancel := (w.lanes .pinned).restrict fun label _ => label ∉ desiredHot
  onLink (modify (Link.registerSubscriptionRows transferToHot .hot))
  let hot := Dict.update (w.lanes .hot) transferToHot
  modify (Collector.setLane .hot hot)
  let releaseOk ← onLink (cancelAny cancel)
  modify (Collector.setLane .pinned ∅)
  let victims := w.exactLegHotVictims.restrict fun label _ => label ∈ desiredHot ∧ label ∉ hot
  let restored ← onLink (restoreAny victims .hot)
  modify (Collector.setLane .hot (Dict.update hot restored))
  onLink (modify (Link.failHealthIf (restored.size ≠ victims.size)))
  modify fun w => { w with exactLegDemand := none, exactLegHotVictims := ∅ }
  onLink (modify (deferRotation 0))
  pure (if releaseOk then ⟨.released, reason⟩ else ⟨.blocked, "pin_release_failed"⟩)

/-! ## One observation of the demand file -/

def DemandIssue.text : DemandIssue → String
  | .missingOrInvalid => "missing_or_invalid"
  | .tombstone => "tombstone"
  | .expired => "expired"
  | .invalid issue => issue

/-- What is to be done about the demand. -/
inductive DemandAction
  | nothing
  | acknowledge (ack : Ack)
  | release (reason : String)
  | refresh (demand : ExactLegQuoteDemand)
  | supersede (demand : ExactLegQuoteDemand)
  | admitDemand (demand : ExactLegQuoteDemand)

def DemandAction.releases : DemandAction → Bool
  | .release _ | .supersede _ => true
  | _ => false

/-- The demand's revision is read only where pins are enabled. -/
def observesRevision (settings : StreamSettings) (reading : DemandReading) (w : Collector) :
    Bool :=
  settings.exactLegPinEnabled && !settings.skipOptions &&
    decide (reading.revision ≠ w.exactLegLastFileRevision)

/-- The decision of `reconcile_exact_leg_demand`, from the state it starts in. -/
def demandAction (settings : StreamSettings) (reading : DemandReading) (w : Collector) :
    DemandAction :=
  let pinned := w.lanes .pinned
  if settings.exactLegPinEnabled = false ∨ settings.skipOptions = true then
    if pinned.size = 0 then .nothing
    else .release (if settings.exactLegPinEnabled then "options_disabled" else "pin_disabled")
  else if reading.revision = w.exactLegLastFileRevision then
    match w.exactLegDemand with
    | none => .nothing
    | some active =>
      if active.validUntil ≤ reading.now then .release "lease_expired"
      else if active.sessionDate ≠ reading.expectedSession then .release "session_expiry_rolled"
      else .nothing
  else
    match reading.demand with
    | .error .missingOrInvalid => .nothing
    | .error (.invalid issue) => .acknowledge ⟨.rejected, issue⟩
    | .error issue =>
      if pinned.size = 0 then .acknowledge ⟨.idle, issue.text⟩ else .release issue.text
    | .ok demand =>
      if demand.sessionDate ≠ reading.expectedSession then
        .acknowledge ⟨.rejected, "session_expiry_mismatch"⟩
      else if demand.labels.toFinset = pinned.keySet ∧ pinned.size = 2 then .refresh demand
      else if pinned.size = 0 then .admitDemand demand
      else .supersede demand

def noteRevision (settings : StreamSettings) (reading : DemandReading) (w : Collector) :
    Collector :=
  if observesRevision settings reading w then
    { w with exactLegLastFileRevision := reading.revision }
  else w

/-- `reconcile_exact_leg_demand`. -/
def reconcileExactLegDemand (settings : StreamSettings) (reading : DemandReading) :
    CollectorOp (Option Ack) := do
  let w ← get
  modify (noteRevision settings reading)
  match demandAction settings reading w with
  | .nothing => pure none
  | .acknowledge ack => pure (some ack)
  | .release reason =>
    let ack ← releaseExactLegPin reason
    pure (some ack)
  | .refresh demand =>
    if w.link.subscriptionsHealthy (w.lanes .pinned) = false then
      onLink (modify Link.failHealth)
      pure (some ⟨.blocked, "pinned_subscription_unhealthy"⟩)
    else
      modify fun w => { w with exactLegDemand := some demand }
      pure (some ⟨.active, "lease_refreshed"⟩)
  | .supersede demand =>
    let _ ← releaseExactLegPin "superseded"
    let released ← get
    if released.link.subscriptionLifecycleBlocked then
      pure (some ⟨.blocked, "subscription_lifecycle_blocked"⟩)
    else
      let ack ← admitExactLegPin settings demand reading
      pure (some ack)
  | .admitDemand demand =>
    let ack ← admitExactLegPin settings demand reading
    pure (some ack)

end SpxSpark.Ibkr
