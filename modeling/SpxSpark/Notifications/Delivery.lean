import SpxSpark.Lib.Run
import SpxSpark.Notifications.StoreSteps

/-!
# Delivery — the workers of the outbox and its task queue

A worker begins an attempt of a row and, unless the row is for the alert pipeline or falls in a
quiet window, marks its transport as started before it calls the sink.
-/

namespace SpxSpark.Notifications

open Lib

def maxDeliveryAttempts : Nat := 3

structure SinkResult where
  sink : String
  attempted : Bool
  ok : Bool
  error : Option String
  permanent : Bool
  deriving DecidableEq

def explicitRetryable (sink : SinkResult) : Bool :=
  let error := sink.error.getD ""
  "bark response code=".toList.isPrefixOf error.toList
    || "feishu response code=".toList.isPrefixOf error.toList
    || decide (error = "rust_ingress_server_busy")

/-! ## What a worker settles an attempt with -/

def quietSuppressed : Settlement where
  status := .delivered
  outcome := "quiet_window_suppressed"
  ok := true

def transportRaised (detail : String) : Settlement where
  status := .uncertain
  outcome := "transport_outcome_uncertain"
  ok := false
  errorCode := some "transport_exception"
  errorDetail := some detail

def alertRaised (detail : String) : Settlement where
  status := .failed
  outcome := "alert_review_failed"
  ok := false
  errorCode := some "alert_review_failed"
  errorDetail := some detail

def alertSettled (outcome : String) : Settlement where
  status := .delivered
  outcome := "alert_" ++ outcome
  ok := true

def alertUnsettled : Settlement where
  status := .failed
  outcome := "alert_review_retryable"
  ok := false
  errorCode := some "alert_review_retryable"

/-- The verdict on what a sink answered. -/
def sinkOutcome (sink : SinkResult) : NotificationStatus × String :=
  if sink.ok then
    (.delivered, if sink.sink = "rust_ingress" then "forwarded_to_rust" else "delivered")
  else if sink.permanent ∨ sink.attempted = false then (.failed, "permanent_failure")
  else if explicitRetryable sink then (.failed, "retryable_failure")
  else (.uncertain, "transport_outcome_uncertain")

def sinkSettlement (sink : SinkResult) : Settlement where
  status := (sinkOutcome sink).1
  outcome := (sinkOutcome sink).2
  ok := sink.ok
  errorCode := if sink.ok then none else some (sinkOutcome sink).2
  errorDetail := sink.error

/-- Outcomes on which the worker raises `RetryableDeliveryError`, while attempts are left. -/
def raisesRetryable (outcome : String) : Bool :=
  decide (outcome = "retryable_failure" ∨ outcome = "alert_review_failed"
    ∨ outcome = "alert_review_retryable")

/-! ## Workers -/

inductive Stage
  | begun
  | transporting
  deriving DecidableEq

/-- A call of `deliver_notification_event` between two of its transactions. -/
structure Flight where
  attempt : Attempt
  now : Instant
  stage : Stage
  /-- run by the task queue, which retries what raises, and not by a consumer that swallows it -/
  isTask : Bool

/-- What a worker meets next. -/
inductive WorkerEvent
  | alertRaised (exception message : String)
  | alertDisposed (settled : Bool) (outcome : String)
  | quiet
  | started
  | sank (sink : SinkResult)
  | raised (exception message : String)
  | abandoned
  deriving DecidableEq

/-- The settlement an event leads to at a stage, if that is what the worker does there. -/
def settlementOf (f : Flight) : WorkerEvent → Option Settlement
  | .alertRaised exception message =>
    if f.attempt.channel = "alert_pipeline" ∧ f.stage = .begun then
      some (alertRaised (exception ++ ":" ++ message))
    else none
  | .alertDisposed settled outcome =>
    if f.attempt.channel = "alert_pipeline" ∧ f.stage = .begun then
      some (if settled then alertSettled outcome else alertUnsettled)
    else none
  | .quiet =>
    if f.attempt.channel ≠ "alert_pipeline" ∧ f.stage = .begun then some quietSuppressed else none
  | .sank sink => if f.stage = .transporting then some (sinkSettlement sink) else none
  | .raised exception message =>
    if f.stage = .transporting then some (transportRaised (exception ++ ":" ++ message)) else none
  | .started | .abandoned => none

/-- The store, the workers at work, the tasks in the queue, and the ids scheduled since the process
last stopped. -/
structure Outbox where
  store : Store
  flights : List Flight
  queue : List Nat
  scheduled : List Nat

namespace Outbox

def empty : Outbox := ⟨Store.empty, [], [], []⟩

variable (o : Outbox)

def schedule (eventIds : List Nat) : Outbox :=
  { o with queue := o.queue ++ eventIds, scheduled := o.scheduled ++ eventIds }

/-- The process is gone, and with it its workers; the store and the queue are on disk. -/
def stop : Outbox := { o with flights := [], scheduled := [] }

/-- Schedules the ids in turn; the process may stop after any number of them. -/
def scheduleAll (eventIds : List Nat) : Option Nat → Outbox
  | none => o.schedule eventIds
  | some n => (o.schedule (eventIds.take n)).stop

def landed (attemptId : Nat) : Outbox :=
  { o with flights := o.flights.filter fun f => decide (f.attempt.attemptId ≠ attemptId) }

/-- The worker's settlement; a retryable failure goes back to the queue while attempts are left. -/
def settleFlight (f : Flight) (settlement : Settlement) : Outbox :=
  match settle o.store f.attempt.attemptId settlement f.now with
  | .error _ => o.landed f.attempt.attemptId
  | .ok store =>
    let o' := { o.landed f.attempt.attemptId with store := store }
    if f.isTask ∧ raisesRetryable settlement.outcome ∧
      f.attempt.attemptNo < maxDeliveryAttempts then
      o'.schedule [f.attempt.eventId]
    else o'

/-- `mark_transport_started`, on a channel that has a transport. -/
def startTransport (f : Flight) : Outbox :=
  if f.attempt.channel ≠ "alert_pipeline" ∧ f.stage = .begun then
    { o with
      store := markTransportStarted o.store f.attempt.attemptId
      flights := o.flights.map fun g =>
        if g.attempt.attemptId = f.attempt.attemptId then { g with stage := .transporting } else g }
  else o

def work (f : Flight) : WorkerEvent → Outbox
  | .abandoned => o.landed f.attempt.attemptId
  | .started => o.startTransport f
  | e =>
    match settlementOf f e with
    | some settlement => o.settleFlight f settlement
    | none => o

/-- Takes the task off the queue. -/
def dequeue (eventId : Nat) (isTask : Bool) : Outbox :=
  { o with queue := if isTask then o.queue.erase eventId else o.queue }

/-- The first transaction of `deliver_notification_event`. -/
def beginFlight (eventId : Nat) (now : Instant) (isTask : Bool) : Outbox :=
  match beginAttempt o.store eventId maxDeliveryAttempts now with
  | .error _ => o
  | .ok (none, store) => { o with store := store }
  | .ok (some attempt, store) =>
    { o with store := store, flights := o.flights ++ [⟨attempt, now, .begun, isTask⟩] }

def deliver (eventId : Nat) (now : Instant) (isTask : Bool) : Outbox :=
  (o.dequeue eventId isTask).beginFlight eventId now isTask

/-- An enqueue, and the tasks for the rows it returns. -/
def enqueueDraft (sha256 : String → String) (o : Outbox) (draft : NotificationDraft) (now : Instant)
    (acceptSemanticDuplicate : Bool) (stopsAfter : Option Nat) : Outbox :=
  match enqueue sha256 o.store draft now acceptSemanticDuplicate with
  | .error _ => o
  | .ok (batch, store) => { o with store := store }.scheduleAll batch.eventIds stopsAfter

def cancelEvent (sha256 : String → String) (o : Outbox) (logicalEventId reason : String)
    (now : Instant) : Outbox :=
  match cancel sha256 o.store logicalEventId reason now with
  | .error _ => o
  | .ok (_, store) => { o with store := store }

def workOn (attemptId : Nat) (event : WorkerEvent) : Outbox :=
  match o.flights.find? (fun f => decide (f.attempt.attemptId = attemptId)) with
  | some f => o.work f event
  | none => o

def recovered (now : Instant) : Outbox :=
  { o with store := (recoverIncompleteAttempts o.store now).2 }

/-- Recovery at startup, and the tasks for the attempts it interrupted. -/
def recoverNotificationTasks (now : Instant) (stopsAfter : Option Nat) : Outbox :=
  (o.recovered now).scheduleAll (recoverIncompleteAttempts o.store now).1.retryEventIds stopsAfter

end Outbox

inductive Action
  | enqueue (draft : NotificationDraft) (now : Instant) (acceptSemanticDuplicate : Bool)
      (stopsAfter : Option Nat)
  | cancel (logicalEventId reason : String) (now : Instant)
  | deliver (eventId : Nat) (now : Instant) (isTask : Bool)
  | work (attemptId : Nat) (event : WorkerEvent)
  /-- at startup, with the tasks it schedules -/
  | recoverNotificationTasks (now : Instant) (stopsAfter : Option Nat)
  /-- by a consumer, which schedules nothing -/
  | recoverBeforeConsuming (now : Instant)
  | stop

def act (sha256 : String → String) (o : Outbox) : Action → Outbox
  | .enqueue draft now acceptSemanticDuplicate stopsAfter =>
    o.enqueueDraft sha256 draft now acceptSemanticDuplicate stopsAfter
  | .cancel logicalEventId reason now => o.cancelEvent sha256 logicalEventId reason now
  | .deliver eventId now isTask => o.deliver eventId now isTask
  | .work attemptId event => o.workOn attemptId event
  | .recoverNotificationTasks now stopsAfter => o.recoverNotificationTasks now stopsAfter
  | .recoverBeforeConsuming now => o.recovered now
  | .stop => o.stop

/-- The machine of the outbox: it answers nothing, since its callers look at the store. -/
def actStep (sha256 : String → String) (o : Outbox) (a : Action) : Unit × Outbox :=
  ((), act sha256 o a)

end SpxSpark.Notifications
