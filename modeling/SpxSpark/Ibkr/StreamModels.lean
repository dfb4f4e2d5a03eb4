import SpxSpark.Ibkr.CompetingSession
import SpxSpark.Lib.Clock
import SpxSpark.Lib.Dealing
import SpxSpark.Lib.DictParts
import SpxSpark.Lib.Effect

/-!
# StreamModels — what the stream collector holds, and the broker's side of it

Every market-data line the collector pays for is recorded in one of six lanes, as a ticker and a row
that says whether the request stands.
-/

namespace SpxSpark.Ibkr

open Lib

/-! ## Contracts and plans -/

inductive OptionRight
  | call
  | put
  deriving DecidableEq

def OptionRight.text : OptionRight → String
  | .call => "C"
  | .put => "P"

/-- The label of a contract: an index, stock, future or CFD of the base settings, or an option. -/
inductive Label
  | context (name : String)
  | spxw (expiry : String) (strike : Int) (right : OptionRight)
  | spy (expiry : String) (strike : Int) (right : OptionRight)
  deriving DecidableEq

def Label.text : Label → String
  | .context name => name
  | .spxw expiry strike right =>
    "option:SPXW:" ++ expiry ++ ":" ++ toString strike ++ ":" ++ right.text
  | .spy expiry strike right =>
    "option:SPY:" ++ expiry ++ ":" ++ toString strike ++ ":" ++ right.text

structure OptionContractSpec where
  expiry : String
  strike : Int
  right : OptionRight
  deriving DecidableEq

def optionSpecLabel (spec : OptionContractSpec) : Label := .spxw spec.expiry spec.strike spec.right

theorem optionSpecLabel_injective : Function.Injective optionSpecLabel := by
  rintro ⟨expiry, strike, right⟩ ⟨expiry', strike', right'⟩ h
  obtain ⟨rfl, rfl, rfl⟩ := Label.spxw.inj h
  rfl

/-- The strike's distance, or none for a label without a strike, which counts as infinite. -/
def optionLabelDistance (label : Label) (atmStrike : Int) : Option Nat :=
  match label with
  | .context _ => none
  | .spxw _ strike _ | .spy _ strike _ => some (strike - atmStrike).natAbs

def chunked {α : Type} (items : List α) (size : Int) : List (List α) :=
  slices (if 0 < size then size.toNat else 1) items.length items

/-- Line-budgeted view of a sampling plan. `hot` stays subscribed for the lifetime of the plan;
`rotations` are swapped in one slice at a time, and leave out what is hot. -/
structure OptionSubscriptionPlan where
  atmStrike : Int
  expiry : String
  hot : List OptionContractSpec
  rotations : List (List OptionContractSpec)
  slice_nodup : ∀ slice ∈ rotations, slice.Nodup
  slice_cold : ∀ slice ∈ rotations, ∀ spec ∈ slice, spec ∉ hot

namespace OptionSubscriptionPlan

def rotationCount (plan : OptionSubscriptionPlan) : Nat := plan.rotations.length

/-- The plan of a sampling plan: the hot lane up to its budget, and of every rolling group what is
not hot, in slices of the rotation budget. -/
def build (atmStrike : Int) (expiry : String) (orderedHot : List OptionContractSpec)
    (groups : List (List OptionContractSpec)) (hgroups : ∀ group ∈ groups, group.Nodup)
    (hotBudget rotationBudget : Nat) : OptionSubscriptionPlan where
  atmStrike := atmStrike
  expiry := expiry
  hot := orderedHot.take hotBudget
  rotations := if rotationBudget < 2 then [] else groups.flatMap fun group =>
    let remaining := group.filter (· ∉ orderedHot.take hotBudget)
    slices rotationBudget remaining.length remaining
  slice_nodup slice hslice := by
    split at hslice
    · cases hslice
    · obtain ⟨group, hgroup, hslice⟩ := List.mem_flatMap.mp hslice
      exact ((slices_sublist hslice).trans List.filter_sublist).nodup (hgroups group hgroup)
  slice_cold slice hslice spec hspec := by
    split at hslice
    · cases hslice
    · obtain ⟨group, hgroup, hslice⟩ := List.mem_flatMap.mp hslice
      have hmem := (slices_sublist hslice).subset hspec
      exact of_decide_eq_true (List.mem_filter.mp hmem).2

end OptionSubscriptionPlan

/-! ## Demands -/

structure ExactLegQuoteDemandLeg where
  label : Label
  expiry : String
  strike : Int
  right : OptionRight

def ExactLegQuoteDemandLeg.spec (leg : ExactLegQuoteDemandLeg) : OptionContractSpec :=
  ⟨leg.expiry, leg.strike, leg.right⟩

/-- A short-lived request to pin two exact option legs. The reader refuses legs of one strike. -/
structure ExactLegQuoteDemand where
  demandId : String
  sessionDate : String
  validUntil : Instant
  longLeg : ExactLegQuoteDemandLeg
  shortLeg : ExactLegQuoteDemandLeg
  legs_distinct : longLeg.strike ≠ shortLeg.strike

namespace ExactLegQuoteDemand

def legs (demand : ExactLegQuoteDemand) : List ExactLegQuoteDemandLeg :=
  [demand.longLeg, demand.shortLeg]

def labels (demand : ExactLegQuoteDemand) : List Label := demand.legs.map (·.label)

def specs (demand : ExactLegQuoteDemand) : List OptionContractSpec := demand.legs.map (·.spec)

end ExactLegQuoteDemand

/-! ## Slow polling -/

inductive SlowPollAction
  | none
  | start (chunk : Nat)
  | finish (chunk : Nat)

structure SlowPollScheduler where
  chunkCount : Nat
  cycleSeconds : ℚ
  holdSeconds : ℚ
  nextChunkIndex : Nat := 0
  activeChunkIndex : Option Nat := none
  holdDeadline : Option ℚ := none
  nextStartAt : Option ℚ := none

namespace SlowPollScheduler

variable (scheduler : SlowPollScheduler)

def spacingSeconds : ℚ :=
  if scheduler.chunkCount = 0 then scheduler.cycleSeconds
  else scheduler.cycleSeconds / scheduler.chunkCount

def reset (now : ℚ) : SlowPollScheduler :=
  { scheduler with
    nextChunkIndex := 0, activeChunkIndex := none, holdDeadline := none, nextStartAt := some now }

def advance (now : ℚ) : SlowPollAction × SlowPollScheduler :=
  if scheduler.chunkCount = 0 then (.none, scheduler)
  else
    match scheduler.activeChunkIndex with
    | some completed =>
      if scheduler.holdDeadline.all (now < ·) then (.none, scheduler)
      else (.finish completed,
        { scheduler with activeChunkIndex := none, holdDeadline := none })
    | none =>
      let startAt := scheduler.nextStartAt.getD now
      if now < startAt then (.none, { scheduler with nextStartAt := some startAt })
      else (.start scheduler.nextChunkIndex,
        { scheduler with
          nextChunkIndex := (scheduler.nextChunkIndex + 1) % scheduler.chunkCount
          activeChunkIndex := some scheduler.nextChunkIndex
          holdDeadline := some (now + max scheduler.holdSeconds 0)
          nextStartAt := some (now + max scheduler.spacingSeconds 0) })

def abortActive (now retryAfterSeconds : ℚ) (retrySameChunk : Bool) : SlowPollScheduler :=
  { scheduler with
    nextChunkIndex :=
      if retrySameChunk then scheduler.activeChunkIndex.getD scheduler.nextChunkIndex
      else scheduler.nextChunkIndex
    activeChunkIndex := none
    holdDeadline := none
    nextStartAt := some (now + max retryAfterSeconds 0) }

end SlowPollScheduler

/-! ## Subscriptions -/

inductive RowError
  | subscribeFailed
  | ibkr (code : Nat)

/-- What the collector knows of one request. -/
structure Row where
  label : Label
  subscribed : Bool
  error : Option RowError
  requestId : Option Nat

/-- A ticker and its row. Rows are shared and change in place, so a subscription names its row. -/
structure Subscription where
  ticker : Bool
  row : Nat

abbrev Subscriptions := Dict Label Subscription

/-! ## The broker's side -/

/-- A line at the broker: one for each contract. -/
structure Line where
  label : Label
  request : Nat

/-- What comes in while the collector waits. -/
inductive BrokerEvent
  | error (reqId : Int) (code : Nat) (monotonic : ℚ)
  | disconnected
  | capacity (lines : Int)

/-- One exchange with the broker: what comes in meanwhile, whether the request or the cancellation
is refused, whether the request's id can be read, and which contracts cannot be resolved. -/
structure Course where
  events : List BrokerEvent := []
  refused : Bool := false
  requestKnown : Bool := true
  unresolved : List Label := []

structure LoggedRejection where
  sequence : Nat
  reqId : Int
  code : Nat

/-- What the broker's callbacks and the requests change: rows, flags and the open lines. Lines the
broker rejected are kept in `rejectedLines`. -/
structure Link where
  rows : List Row := []
  subscriptionRowsByReqId : Dict Nat Nat := ∅
  subscriptionLaneByReqId : Dict Nat Lane := ∅
  subscriptionLaneHistoryByReqId : List (Nat × Lane) := []
  subscriptionRequestLane : Option Lane := none
  subscriptionRejectionSequence : Nat := 0
  subscriptionRejectionLog : List LoggedRejection := []
  subscriptionHealthFailed : Bool := false
  twsConnectivityLost : Bool := false
  subscriptionsLost : Bool := false
  twsConnectivityLossSequence : Nat := 0
  connected : Bool := true
  effectiveCapacity : Int := 100
  rotationRetryAt : ℚ := 0
  lines : List Line := []
  rejectedLines : List Line := []
  nextRequest : Nat := 0
  script : List Course := []

namespace Link

def optionRotationRetrySeconds : ℚ := 30

def markRow (row code : Nat) (link : Link) : Link :=
  { link with
    rows := link.rows.modify row fun r =>
      { r with error := some (.ibkr code), subscribed := false } }

/-- The lane a request is taken to be of. -/
def subscriptionLane (link : Link) (reqId : Int) : Option Lane :=
  ((link.subscriptionLaneByReqId.lookup reqId.toNat).or
    (link.subscriptionLaneHistoryByReqId.lookup reqId.toNat)).or link.subscriptionRequestLane

/-- The connectivity codes; with 1101 the broker drops every subscription. -/
def observeConnectivity (code : Nat) (link : Link) : Link :=
  if code ∈ twsConnectivityLostCodes then
    { link with
      twsConnectivityLost := true
      twsConnectivityLossSequence := link.twsConnectivityLossSequence + 1 }
  else if code ∈ twsConnectivityRestoredCodes then
    if code = 1101 then
      { link with
        twsConnectivityLost := false
        subscriptionsLost := true
        subscriptionHealthFailed := true
        lines := [] }
    else { link with twsConnectivityLost := false }
  else link

variable (reqId : Int) (code : Nat)

/-- The session-wide conflict; in the rotation lane it only defers the lane. -/
def observeConflict (monotonic : ℚ) (link : Link) : Link :=
  if code = 10197 then
    if 0 ≤ reqId ∧ link.subscriptionLane reqId = some .rotation then
      { link with
        rotationRetryAt := max link.rotationRetryAt (monotonic + optionRotationRetrySeconds) }
    else { link with subscriptionHealthFailed := true }
  else link

/-- A rejection closes the request's line and is logged. -/
def logRejection (link : Link) : Link :=
  let sequence := link.subscriptionRejectionSequence + 1
  let log := link.subscriptionRejectionLog ++ [⟨sequence, reqId, code⟩]
  { link with
    subscriptionRejectionSequence := sequence
    subscriptionRejectionLog := log.drop (log.length - maxTrackedErrors)
    lines := link.lines.filter fun line => (line.request : Int) ≠ reqId
    rejectedLines :=
      link.rejectedLines ++ link.lines.filter fun line => (line.request : Int) = reqId }

/-- The rejected request's row, if it has one, is marked, and the flag set where its lane is one of
the three that matter. -/
def observeRejection (link : Link) : Link :=
  if reqId < 0 then { link with subscriptionHealthFailed := true }
  else
    match link.subscriptionRowsByReqId.lookup reqId.toNat with
    | none => link
    | some row =>
      { link.markRow row code with
        subscriptionHealthFailed := link.subscriptionHealthFailed ||
          [some Lane.base, some .hot, some .pinned].contains
            (link.subscriptionLaneByReqId.lookup reqId.toNat) }

/-- The error callback. The broker only speaks of requests that were made. -/
def onError (monotonic : ℚ) (link : Link) : Link :=
  if reqId ≥ link.nextRequest then link
  else
    let link := link.observeConnectivity code
    if code ∈ subscriptionRejectionCodes then
      ((link.observeConflict reqId code monotonic).logRejection reqId code).observeRejection
        reqId code
    else link

def receive (link : Link) : BrokerEvent → Link
  | .error reqId code monotonic => link.onError reqId code monotonic
  | .disconnected => { link with connected := false }
  | .capacity lines => { link with effectiveCapacity := lines }

/-- The next exchange's part of the script is taken off, and what came in is taken in. -/
def absorb (link : Link) : Link :=
  (link.script.headD {}).events.foldl receive { link with script := link.script.tail }

end Link

/-! ## The collector -/

/-- The base contracts, all in one list, and the settings of the lanes. -/
structure StreamSettings where
  baseContracts : List String
  baseContracts_nodup : baseContracts.Nodup
  slowPollLabels : List String
  slowPollChunkSize : Int
  slowPollIntervalSeconds : ℚ
  slowPollHoldSeconds : ℚ
  maxOptionLines : Nat
  spyOptionLines : Nat
  spyStrikeStep : Int
  exactLegPinEnabled : Bool := true
  skipOptions : Bool := false

structure Collector where
  lanes : Lane → Subscriptions := fun _ => ∅
  optionPlan : Option OptionSubscriptionPlan := none
  rotationIndex : Nat := 0
  spyPlanKey : Option (String × Int) := none
  spyRetryAt : ℚ := 0
  slowChunks : List (List Label) := []
  slowScheduler : Option SlowPollScheduler := none
  exactLegDemand : Option ExactLegQuoteDemand := none
  exactLegHotVictims : Subscriptions := ∅
  exactLegLastFileRevision : Option (Int × Int) := none
  link : Link := {}

def Collector.setLane (lane : Lane) (subs : Subscriptions) (w : Collector) : Collector :=
  { w with lanes := fun other => if other = lane then subs else w.lanes other }

end SpxSpark.Ibkr
