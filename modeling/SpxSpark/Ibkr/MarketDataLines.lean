import SpxSpark.Ibkr.StreamModels

/-!
# MarketDataLines — subscribing, cancelling and restoring batches of lines

The programs every lane uses. They change the link only, and none of them raises: what goes wrong
is a row without a ticker, a `false`, or a flag.
-/

namespace SpxSpark.Ibkr

open Lib

abbrev LinkOp (α : Type) := Effect Link Empty α

/-! ## Reading the link -/

namespace Link

variable (link : Link)

def healthyRow (sub : Subscription) : Bool :=
  (link.rows[sub.row]?).any fun row => row.subscribed && row.error.isNone

def subscribedRow (sub : Subscription) : Bool :=
  (link.rows[sub.row]?).any (·.subscribed)

def requestOf (row : Nat) : Option Nat :=
  (link.rows[row]?).bind (·.requestId)

def subscriptionsHealthy (subs : Subscriptions) : Bool :=
  subs.entries.all fun entry => link.healthyRow entry.2

def subscriptionLifecycleBlocked : Bool :=
  link.twsConnectivityLost || link.subscriptionsLost || link.subscriptionHealthFailed ||
    !link.connected

def connectivityChangedSince (sequence : Nat) : Bool :=
  link.twsConnectivityLossSequence != sequence || link.twsConnectivityLost ||
    link.subscriptionsLost || !link.connected

/-- The rejections after a given one that concern these subscriptions, with the row of each; one
without a request concerns all of them. -/
def rejectionsSince (subs : Subscriptions) (sequence : Nat) : List (Option Nat × Nat) :=
  let rows := (subs.entries.map (·.2.row)).reverse
  let rowOf := fun reqId : Int =>
    rows.find? fun row => (link.requestOf row).map (fun r => (r : Int)) = some reqId
  ((link.subscriptionRejectionLog.filter (sequence < ·.sequence)).filter fun logged =>
    (rowOf logged.reqId).isSome || decide (logged.reqId < 0)).map fun logged =>
      (rowOf logged.reqId, logged.code)

/-! ## Changing the link -/

def failHealth : Link := { link with subscriptionHealthFailed := true }

def failHealthIf (c : Prop) [Decidable c] (link : Link) : Link :=
  if c then link.failHealth else link

def loseSubscriptions : Link :=
  { link with subscriptionsLost := true, subscriptionHealthFailed := true }

def addRow (row : Row) (link : Link) : Link := { link with rows := link.rows ++ [row] }

/-- A request that stands opens the line of its contract. -/
def openLine (label : Label) (known : Bool) (link : Link) : Link :=
  { link.addRow ⟨label, true, none, if known then some link.nextRequest else none⟩ with
    lines := link.lines.filter (·.label ≠ label) ++ [⟨label, link.nextRequest⟩]
    nextRequest := link.nextRequest + 1 }

def closeLine (label : Label) (link : Link) : Link :=
  { link with lines := link.lines.filter (·.label ≠ label) }

def registerRow (lane : Lane) (link : Link) (row : Nat) : Link :=
  match link.requestOf row with
  | none => link
  | some request =>
    let history :=
      (link.subscriptionLaneHistoryByReqId.filter (·.1 ≠ request)) ++ [(request, lane)]
    { link with
      subscriptionRowsByReqId := link.subscriptionRowsByReqId.insert request row
      subscriptionLaneByReqId := link.subscriptionLaneByReqId.insert request lane
      subscriptionLaneHistoryByReqId := history.drop (history.length - 4096) }

def registerSubscriptionRows (subs : Subscriptions) (lane : Lane) (link : Link) : Link :=
  (subs.entries.map (·.2.row)).foldl (registerRow lane) link

def unregisterRow (row : Nat) : Link :=
  match link.requestOf row with
  | none => link
  | some request =>
    { link with
      subscriptionRowsByReqId := link.subscriptionRowsByReqId.erase request
      subscriptionLaneByReqId := link.subscriptionLaneByReqId.erase request }

def unregisterSubscriptionRows (subs : Subscriptions) (link : Link) : Link :=
  (subs.entries.map (·.2.row)).foldl unregisterRow link

end Link

/-! ## Exchanges with the broker -/

def exchange : LinkOp Course := do
  let link ← get
  modify Link.absorb
  pure (link.script.headD {})

/-- One request. A refusal leaves a row with its error and no ticker. -/
def subscribeContract (label : Label) : LinkOp Subscription := do
  let course ← exchange
  let link ← get
  if course.refused then
    modify (Link.addRow ⟨label, false, some .subscribeFailed, none⟩)
    pure ⟨false, link.rows.length⟩
  else
    modify (Link.openLine label course.requestKnown)
    pure ⟨true, link.rows.length⟩

/-- A label that comes twice keeps its later request. -/
def qualifyAndSubscribe : List Label → LinkOp Subscriptions
  | [] => pure ∅
  | label :: rest => do
      let sub ← subscribeContract label
      let later ← qualifyAndSubscribe rest
      pure (Dict.update (AList.singleton label sub) later)

/-- Which of the contracts the broker resolves. Each is asked for in a request of its own. -/
def resolveOptionDefinitions (labels : List Label) : LinkOp (List Label) := do
  modify fun link => { link with nextRequest := link.nextRequest + labels.length }
  let course ← exchange
  pure (labels.filter (· ∉ course.unresolved))

/-- As for options, but a failure of the exchange is raised to the caller, here as none. -/
def resolveSlowDefinitions (labels : List Label) : LinkOp (Option (List Label)) := do
  modify fun link => { link with nextRequest := link.nextRequest + labels.length }
  let course ← exchange
  pure (if course.refused then none else some (labels.filter (· ∉ course.unresolved)))

/-- What the broker has rejected already is only forgotten here; that may fail as well. -/
def cancelSubscription (label : Label) (sub : Subscription) : LinkOp Bool :=
  if sub.ticker = false then pure true
  else do
    let course ← exchange
    let link ← get
    if course.refused then pure false
    else if link.subscribedRow sub then do
      modify (Link.closeLine label)
      pure true
    else pure true

def cancelSubscriptions : List ((_ : Label) × Subscription) → LinkOp Bool
  | [] => pure true
  | entry :: rest => do
      let ok ← cancelSubscription entry.1 entry.2
      let others ← cancelSubscriptions rest
      pure (ok && others)

/-! ## Batches -/

/-- `_cancel_batch`. After a connectivity loss the rows are only forgotten. -/
def cancelBatch (subs : Subscriptions) : LinkOp Bool := do
  let before ← get
  if before.subscriptionLifecycleBlocked then
    modify fun link => (link.unregisterSubscriptionRows subs).loseSubscriptions
    pure false
  else
    let result ← cancelSubscriptions subs.entries
    let after ← get
    if after.connectivityChangedSince before.twsConnectivityLossSequence then
      modify fun link => (link.unregisterSubscriptionRows subs).loseSubscriptions
      pure false
    else if result = false then
      modify Link.failHealth
      pure false
    else
      modify (Link.unregisterSubscriptionRows subs)
      pure true

/-- Nothing to cancel counts as cancelled. -/
def cancelAny (subs : Subscriptions) : LinkOp Bool :=
  if subs.size = 0 then pure true else cancelBatch subs

/-- Rejections of these subscriptions that came in since mark their rows. -/
def applySubscriptionRejections (subs : Subscriptions) (rejectionSequence : Nat) :
    LinkOp Bool := do
  let link ← get
  let rejected := link.rejectionsSince subs rejectionSequence
  modify fun link => rejected.foldl
    (fun link hit => hit.1.elim link fun row => link.markRow row hit.2) link
  pure (!rejected.isEmpty)

/-- `_subscription_batch_succeeded`, from the two sequences as they were before the batch. -/
def subscriptionBatchSucceeded (subs : Subscriptions) (expectedCount : Nat)
    (rejectionSequence connectivitySequence : Nat) (confirm : Bool) (lane : Lane) :
    LinkOp Bool := do
  let link ← get
  if subs.size ≠ expectedCount ∨ link.subscriptionsHealthy subs = false then pure false
  else
    if subs.size ≠ 0 ∧ confirm = true then
      let _ ← exchange
    let link ← get
    if link.connectivityChangedSince connectivitySequence then
      modify Link.loseSubscriptions
      pure false
    else if link.subscriptionLifecycleBlocked then pure false
    else
      let rejected ← applySubscriptionRejections subs rejectionSequence
      if rejected then pure false
      else
        modify (Link.registerSubscriptionRows subs lane)
        pure true

/-- The request's lane is set for the callbacks while the requests are made. -/
def qualifyAndSubscribeForLane (labels : List Label) (lane : Lane) : LinkOp Subscriptions := do
  let previous ← get
  modify fun link => { link with subscriptionRequestLane := some lane }
  let subs ← qualifyAndSubscribe labels
  modify (Link.registerSubscriptionRows subs lane)
  modify fun link =>
    { link with subscriptionRequestLane := previous.subscriptionRequestLane }
  pure subs

/-- The labels that can be asked for again: those with a ticker. -/
def restorable (released : Subscriptions) : List Label :=
  (released.entries.filter (·.2.ticker)).map (·.1)

/-- `_restore_subscriptions`: a restoration that fails flags the health. -/
def restoreSubscriptions (released : Subscriptions) (lane : Lane) : LinkOp Subscriptions := do
  let before ← get
  if before.subscriptionLifecycleBlocked then pure ∅
  else if restorable released = [] then pure ∅
  else
    let restored ← qualifyAndSubscribe (restorable released)
    let ok ← subscriptionBatchSucceeded restored (restorable released).length
      before.subscriptionRejectionSequence before.twsConnectivityLossSequence true lane
    if ok = false then
      let _ ← cancelBatch restored
      modify Link.failHealth
      pure ∅
    else
      let link ← get
      pure (restored.restrict fun _ sub => link.healthyRow sub)

def restoreAny (released : Subscriptions) (lane : Lane) : LinkOp Subscriptions :=
  if released.size = 0 then pure ∅ else restoreSubscriptions released lane

end SpxSpark.Ibkr
