import Mathlib.Data.List.Sort
import SpxSpark.Ibkr.MarketDataLines

/-!
# SubscriptionOps — the lanes of the stream collector and the operations on them

Base, hot, rotation, SPY and slow lanes; the exact-leg pins are in a module of their own. A plan
refresh of the hot lane and one of the SPY lane are the same replacement of a lane's lines, with
other budgets and another order of release.
-/

namespace SpxSpark.Ibkr

open Lib

abbrev CollectorOp (α : Type) := Effect Collector Empty α

/-- A program of the link, run by the collector. -/
def onLink {α : Type} (m : LinkOp α) : CollectorOp α := fun w =>
  match m w.link with
  | .ok a link => .ok a { w with link := link }
  | .error e _ => e.elim

theorem wp_onLink {α : Type} {m : LinkOp α} {Q : α → Collector → Prop}
    {E : Empty → Collector → Prop} {w : Collector}
    (h : Effect.wp m (fun a link => Q a { w with link := link }) nofun w.link) :
    Effect.wp (onLink m) Q E w := by
  unfold Effect.wp onLink at *
  cases hm : m w.link with
  | ok a link =>
    rw [hm] at h
    exact h
  | error e link => exact e.elim

/-! ## The base lane -/

variable (scheduler : SlowPollScheduler)

def setSlowScheduler (w : Collector) : Collector :=
  { w with slowScheduler := some scheduler }

variable (settings : StreamSettings)

def StreamSettings.slowContracts : List Label :=
  (settings.baseContracts.filter (· ∈ settings.slowPollLabels)).map Label.context

def StreamSettings.persistentContracts : List Label :=
  (settings.baseContracts.filter (· ∉ settings.slowPollLabels)).map Label.context

/-- `subscribe_base`; false where it raises. -/
def subscribeBase (now : ℚ) : CollectorOp Bool := do
  let before ← get
  let subs ← onLink (qualifyAndSubscribe settings.persistentContracts)
  modify (Collector.setLane .base subs)
  let w ← get
  if w.link.connectivityChangedSince before.link.twsConnectivityLossSequence then
    onLink (modify Link.loseSubscriptions)
    pure false
  else if w.link.subscriptionHealthFailed then pure false
  else
    onLink (modify (Link.registerSubscriptionRows
      (subs.restrict fun _ sub => w.link.healthyRow sub) .base))
    let rejected ← onLink
      (applySubscriptionRejections subs before.link.subscriptionRejectionSequence)
    onLink (modify (Link.failHealthIf (rejected = true)))
    let after ← get
    if subs.entries.all fun entry => !after.link.subscribedRow entry.2 then pure false
    else
      let chunks := chunked settings.slowContracts settings.slowPollChunkSize
      let scheduler : SlowPollScheduler := {
        chunkCount := chunks.length
        cycleSeconds := settings.slowPollIntervalSeconds
        holdSeconds := settings.slowPollHoldSeconds }
      modify fun w => setSlowScheduler (scheduler.reset now) { w with slowChunks := chunks }
      pure true

/-! ## Replacing the lines of a lane -/

/-- How a replacement ends: the first release, the additions or the last release may fail. -/
inductive ReplaceOutcome
  | releaseFailed
  | additionsFailed
  | dropFailed
  | replaced
  deriving DecidableEq

/-- What the lane holds now, what it should hold, and what it lacks; `release` is given up before
the additions are asked for, the rest of what is obsolete after. On a failure the released lines
are asked for again. -/
def replaceLines (lane : Lane) (current : Subscriptions) (desired added release : List Label) :
    LinkOp (ReplaceOutcome × Subscriptions) := do
  let releasedSubs := current.restrict fun label _ => label ∈ release
  let released ← cancelAny releasedSubs
  if released = false then pure (.releaseFailed, current)
  else
    let remaining := current.restrict fun label _ => label ∉ release
    let before ← get
    let definitions ← resolveOptionDefinitions added
    let additions ← qualifyAndSubscribe definitions
    let ok ← subscriptionBatchSucceeded additions added.length
      before.subscriptionRejectionSequence before.twsConnectivityLossSequence true lane
    if ok = false then
      let _ ← cancelBatch additions
      let restored ← restoreSubscriptions releasedSubs lane
      pure (.additionsFailed, Dict.update remaining restored)
    else
      let dropped ← cancelBatch (remaining.restrict fun label _ => label ∉ desired)
      if dropped = false then
        let _ ← cancelBatch additions
        let restored ← restoreSubscriptions releasedSubs lane
        pure (.dropFailed, Dict.update remaining restored)
      else
        pure (.replaced,
          Dict.update (remaining.restrict fun label _ => label ∈ desired) additions)

def byText (a b : Label) : Bool := decide (a.text ≤ b.text)

/-- `(-option_label_distance(label, atm_strike), label)`. -/
def fartherFirst (atmStrike : Int) (a b : Label) : Bool :=
  match optionLabelDistance a atmStrike, optionLabelDistance b atmStrike with
  | none, none => byText a b
  | none, some _ => true
  | some _, none => false
  | some d, some e => decide (e < d) || (d == e && byText a b)

/-- `sorted(labels, key=…)`, by whether one label comes before another. -/
def sortedLabels (before : Label → Label → Bool) (labels : List Label) : List Label :=
  labels.insertionSort fun a b => before a b = true

theorem sortedLabels_perm {before : Label → Label → Bool} {labels : List Label} :
    (sortedLabels before labels).Perm labels :=
  List.perm_insertionSort _ _

/-! ## The hot lane -/

def desiredLabels (plan : OptionSubscriptionPlan) : List Label :=
  (plan.hot.map optionSpecLabel).dedup

/-- `reconcile_option_plan`. -/
def reconcileOptionPlan (plan : OptionSubscriptionPlan) : CollectorOp Bool := do
  let w ← get
  let hot := w.lanes .hot
  let pinned := w.lanes .pinned
  let desired := desiredLabels plan
  let added := sortedLabels byText (desired.filter fun label => label ∉ hot ∧ label ∉ pinned)
  let obsolete := hot.keys.filter (· ∉ desired)
  let cancelled ← onLink (cancelBatch (w.lanes .rotation))
  if cancelled = false then pure false
  else
    modify (Collector.setLane .rotation ∅)
    let hotLineBudget := settings.maxOptionLines - pinned.size
    let freeLines := hotLineBudget - hot.size
    let release := (sortedLabels (fartherFirst plan.atmStrike) obsolete).take
      (added.length - freeLines)
    let (outcome, subs) ← onLink (replaceLines .hot hot desired added release)
    modify (Collector.setLane .hot subs)
    if outcome = .replaced then
      modify fun w => { w with optionPlan := some plan, rotationIndex := 0 }
      pure true
    else pure false

/-! ## The rotation lane -/

/-- The slice's contracts that are not pinned, up to the lines that hot and pinned leave. -/
def eligibleSpecs (w : Collector) (slice : List OptionContractSpec) : List OptionContractSpec :=
  (slice.filter fun spec => optionSpecLabel spec ∉ w.lanes .pinned).take
    (settings.maxOptionLines - (w.lanes .hot).size - (w.lanes .pinned).size)

def deferRotation (retryAt : ℚ) (link : Link) : Link :=
  { link with rotationRetryAt := retryAt }

/-- `rotate_options`. -/
def rotateOptions (now : ℚ) : CollectorOp Unit := do
  let w ← get
  match w.optionPlan with
  | none => pure ()
  | some plan =>
    if plan.rotationCount = 0 ∨ now < w.link.rotationRetryAt then pure ()
    else if w.link.subscriptionsHealthy (w.lanes .rotation) = false then
      let _ ← onLink (cancelBatch (w.lanes .rotation))
      modify fun w => { w.setLane .rotation ∅ with rotationIndex := w.rotationIndex - 1 }
      onLink (modify (deferRotation (now + Link.optionRotationRetrySeconds)))
    else
      let cancelled ← onLink (cancelBatch (w.lanes .rotation))
      if cancelled = false then pure ()
      else
        modify (Collector.setLane .rotation ∅)
        let slice := plan.rotations.getD (w.rotationIndex % plan.rotationCount) []
        let eligible := eligibleSpecs settings w slice
        let before ← get
        let definitions ← onLink (resolveOptionDefinitions (eligible.map optionSpecLabel))
        let replacement ← onLink (qualifyAndSubscribeForLane definitions .rotation)
        let ok ← onLink (subscriptionBatchSucceeded replacement eligible.length
          before.link.subscriptionRejectionSequence before.link.twsConnectivityLossSequence
          true .rotation)
        if ok = false then
          let _ ← onLink (cancelBatch replacement)
          onLink (modify fun link => deferRotation
            (max link.rotationRetryAt (now + Link.optionRotationRetrySeconds)) link)
        else
          modify fun w =>
            { w.setLane .rotation replacement with rotationIndex := w.rotationIndex + 1 }
          onLink (modify (deferRotation 0))

/-! ## The SPY lane -/

/-- What `ensure_spy_option_plan` reads: the reference price, the expiry, and the clock before and
after its work. -/
structure SpyReading where
  spyPrice : Option ℚ
  expiry : String
  now : ℚ
  finishedAt : ℚ

def roundedAtm (price : ℚ) (step : Int) : Int := roundHalfEven (price / step) * step

def buildSpyOptionStrikes (price : ℚ) (lines : Nat) (step : Int) : List Int :=
  let strikes := max 1 (lines / 2)
  (List.range strikes).map fun i =>
    roundedAtm price step + step * ((i : Int) - ((strikes / 2 : Nat) : Int))

def spyOptionContracts (expiry : String) (strikes : List Int) : List Label :=
  strikes.flatMap fun strike => [.spy expiry strike .call, .spy expiry strike .put]

/-- `ensure_spy_option_plan`. -/
def ensureSpyOptionPlan (reading : SpyReading) : CollectorOp Unit := do
  let w ← get
  let spy := w.lanes .spy
  if settings.skipOptions ∨ settings.spyOptionLines < 2 then pure ()
  else if w.link.subscriptionsHealthy spy = false then
    let unhealthy := spy.restrict fun _ sub => !w.link.healthyRow sub
    let _ ← onLink (cancelBatch unhealthy)
    modify fun w => { w.setLane .spy (spy.restrict fun label _ => label ∉ unhealthy) with
      spyPlanKey := none
      spyRetryAt := reading.finishedAt + Link.optionRotationRetrySeconds }
  else if reading.now < w.spyRetryAt then pure ()
  else
    match reading.spyPrice with
    | none => pure ()
    | some price =>
      let step := max settings.spyStrikeStep 1
      let planKey := (reading.expiry, roundedAtm price step)
      if some planKey = w.spyPlanKey then pure ()
      else
        let desired := (spyOptionContracts reading.expiry
          (buildSpyOptionStrikes price settings.spyOptionLines step)).dedup
        let added := sortedLabels byText (desired.filter fun label => label ∉ spy)
        let obsolete := spy.keys.filter (· ∉ desired)
        let freeLines := max settings.spyOptionLines desired.length - spy.size
        let release := (sortedLabels byText obsolete).take (added.length - freeLines)
        let (outcome, subs) ← onLink (replaceLines .spy spy desired added release)
        modify (Collector.setLane .spy subs)
        match outcome with
        | .releaseFailed | .dropFailed => pure ()
        | .additionsFailed => modify fun w =>
          { w with spyRetryAt := reading.finishedAt + Link.optionRotationRetrySeconds }
        | .replaced => modify fun w => { w with spyPlanKey := some planKey, spyRetryAt := 0 }

/-! ## The slow lane -/

/-- What `advance_slow_poll` is called with, and the clock when a chunk was subscribed. -/
structure SlowReading where
  now : ℚ
  allowStart : Bool
  subscribedAt : ℚ

/-- The chunk is tried again after the spacing. -/
def retryChunk (chunk : Nat) (now : ℚ) : SlowPollScheduler :=
  { scheduler with nextChunkIndex := chunk }.abortActive now scheduler.spacingSeconds true

/-- A chunk is subscribed; one of which nothing can be resolved is passed over. -/
def startSlowChunk (chunk : Nat) (reading : SlowReading) : CollectorOp Unit := do
  let w ← get
  let labels := w.slowChunks.getD chunk []
  let resolved ← onLink (resolveSlowDefinitions labels)
  match resolved with
  | none =>
    let _ ← onLink (cancelBatch (w.lanes .slow))
    modify fun w => setSlowScheduler (retryChunk scheduler chunk reading.now) (w.setLane .slow ∅)
  | some contracts =>
    if contracts = [] then
      modify (setSlowScheduler
        (scheduler.abortActive reading.now scheduler.spacingSeconds false))
    else
      let before ← get
      let subs ← onLink (qualifyAndSubscribe contracts)
      modify (Collector.setLane .slow subs)
      let ok ← onLink (subscriptionBatchSucceeded subs contracts.length
        before.link.subscriptionRejectionSequence w.link.twsConnectivityLossSequence false .slow)
      if ok = false then
        let _ ← onLink (cancelBatch subs)
        modify fun w => setSlowScheduler (retryChunk scheduler chunk reading.now)
          (w.setLane .slow ∅)
      else
        modify (setSlowScheduler { scheduler with
          holdDeadline := some (reading.subscribedAt + max scheduler.holdSeconds 0) })

/-- A chunk whose time is over is cancelled; a row that was rejected asks for the chunk again. -/
def finishSlowChunk (chunk : Nat) (reading : SlowReading) : CollectorOp Unit := do
  let w ← get
  let healthy := w.link.subscriptionsHealthy (w.lanes .slow)
  let cancelled ← onLink (cancelBatch (w.lanes .slow))
  if healthy = false then
    modify fun w => setSlowScheduler (retryChunk scheduler chunk reading.now) (w.setLane .slow ∅)
  else if cancelled = false then
    modify (setSlowScheduler (retryChunk scheduler chunk reading.now))
  else modify (Collector.setLane .slow ∅)

/-- `advance_slow_poll`. -/
def advanceSlowPoll (reading : SlowReading) : CollectorOp Unit := do
  let w ← get
  match w.slowScheduler with
  | none => pure ()
  | some scheduler =>
    if w.slowChunks.length = 0 ∨
        (scheduler.activeChunkIndex = none ∧ reading.allowStart = false) then pure ()
    else
      let (action, scheduler) := scheduler.advance reading.now
      modify (setSlowScheduler scheduler)
      match action with
      | .none => pure ()
      | .start chunk => startSlowChunk scheduler chunk reading
      | .finish chunk => finishSlowChunk scheduler chunk reading

end SpxSpark.Ibkr
