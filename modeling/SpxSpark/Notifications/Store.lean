import Mathlib.Data.List.Sort
import SpxSpark.Lib.Clock
import SpxSpark.Lib.Table
import SpxSpark.Lib.Text

/-!
# Store — the notification outbox, one event row per frozen target

Two tables: an event row for each channel a logical event is sent to, and one row for each attempt
to deliver it. The keys are in the schemas, so no table with two rows of one key can be built; a
step of the store is a transaction, which a failure leaves without effect.
-/

namespace SpxSpark.Notifications

open Lib

def cancellationChannel : String := "__cancellation__"

inductive NotificationStatus
  | pending
  | processing
  | delivered
  | failed
  | uncertain
  deriving DecidableEq

/-- The JSON of a payload: its sections apart, since they are left out of the fingerprint. -/
structure NotificationPayload where
  body : String
  feishuSections : Option String
  deriving DecidableEq

/-- A row of `events`: a logical event, for one channel. -/
structure EventRow where
  id : Nat
  idempotencyKey : String
  logicalEventId : String
  channel : String
  payload : NotificationPayload
  payloadSha256 : String
  status : NotificationStatus
  expiresAt : Option Instant
  cancelledAt : Option Instant
  cancelReason : Option String
  lastError : Option String
  createdAt : Instant
  updatedAt : Instant

/-- A row of `attempts`. -/
structure AttemptRow where
  id : Nat
  eventId : Nat
  attemptNo : Nat
  startedAt : Instant
  finishedAt : Option Instant
  outcome : String
  attempted : Bool
  ok : Bool
  errorCode : Option String
  errorDetail : Option String
  deriving DecidableEq

/-- A primary key and the unique idempotency key; the status CHECK is the type of the column. -/
abbrev eventSchema : Schema EventRow (Nat × String) where
  check := fun _ => true
  key := fun r => (r.id, r.idempotencyKey)
  clash := fun a b => a.1 == b.1 || a.2 == b.2

abbrev attemptSchema : Schema AttemptRow Nat where
  check := fun _ => true
  key := AttemptRow.id
  clash := fun a b => a == b

abbrev EventTable := Table eventSchema

abbrev AttemptTable := Table attemptSchema

structure Store where
  events : EventTable
  attempts : AttemptTable

namespace Store

def empty : Store := ⟨Table.empty, Table.empty⟩

end Store

inductive StoreError
  | valueError (message : String)
  | integrityError
  | noResultFound
  deriving DecidableEq

/-- What a caller of `enqueue` asks for. -/
structure NotificationDraft where
  logicalEventId : String
  payload : NotificationPayload
  channels : List String
  expiresAt : Option Instant

/-- What `enqueue` answers. -/
structure EnqueueBatch where
  eventIds : List Nat
  inserted : Nat
  duplicate : Nat
  cancelled : Bool
  deriving DecidableEq

/-- What a worker is given to deliver. -/
structure Attempt where
  attemptId : Nat
  eventId : Nat
  attemptNo : Nat
  channel : String
  payload : NotificationPayload
  deriving DecidableEq

structure Recovery where
  retryEventIds : List Nat
  uncertainEventIds : List Nat
  deriving DecidableEq

/-- What `settle` is told about an attempt. -/
structure Settlement where
  status : NotificationStatus
  outcome : String
  ok : Bool
  errorCode : Option String := none
  errorDetail : Option String := none

/-! ## Row ids -/

/-- The id the database gives the next row. -/
def nextId (ids : List Nat) : Nat := ids.foldr max 0 + 1

theorem lt_nextId {ids : List Nat} {i : Nat} (hi : i ∈ ids) : i < nextId ids := by
  induction ids with
  | nil => simp at hi
  | cons j ids ih =>
    show i < max j (ids.foldr max 0) + 1
    rcases List.mem_cons.mp hi with rfl | hi
    · omega
    · have hlt : i < ids.foldr max 0 + 1 := ih hi
      omega

def EventTable.nextRowId (t : EventTable) : Nat := nextId (t.rows.map EventRow.id)

def AttemptTable.nextRowId (t : AttemptTable) : Nat := nextId (t.rows.map AttemptRow.id)

theorem AttemptTable.fresh (t : AttemptTable) (r : AttemptRow)
    (hid : r.id = AttemptTable.nextRowId t) :
    ∀ a ∈ t.rows, attemptSchema.clash (attemptSchema.key a) (attemptSchema.key r) = false := by
  intro a ha
  have hlt : a.id < AttemptTable.nextRowId t := lt_nextId (List.mem_map_of_mem ha)
  show (a.id == r.id) = false
  rw [beq_eq_false_iff_ne]
  omega

/-- An `INSERT`, whose violation the caller sees. -/
def insertEvent (t : EventTable) (r : EventRow) : Except StoreError EventTable :=
  match t.insert r with
  | .ok t => .ok t
  | .error _ => .error .integrityError

def EventTable.set (t : EventTable) (p : EventRow → Bool) (f : EventRow → EventRow)
    (hk : ∀ r, eventSchema.key (f r) = eventSchema.key r) : EventTable :=
  t.modify p f (fun _ _ => rfl) hk

def AttemptTable.set (t : AttemptTable) (p : AttemptRow → Bool) (f : AttemptRow → AttemptRow)
    (hk : ∀ r, attemptSchema.key (f r) = attemptSchema.key r) : AttemptTable :=
  t.modify p f (fun _ _ => rfl) hk

/-! ## Enqueueing and cancelling -/

def blank (text : String) : Bool := text.toList.all isSpace

def EventRow.ofChannel (logicalEventId channel : String) (r : EventRow) : Bool :=
  decide (r.logicalEventId = logicalEventId) && decide (r.channel = channel)

/-- A cancellation of the event has been committed. -/
def fenced (t : EventTable) (logicalEventId : String) : Bool :=
  t.rows.any (EventRow.ofChannel logicalEventId cancellationChannel)

section Hashed

-- the digest of the idempotency keys and of the payload fingerprints
variable (sha256 : String → String)

def payloadFingerprint (p : NotificationPayload) : String := sha256 p.body

def idempotencyKey (logicalEventId channel : String) : String :=
  sha256 (logicalEventId ++ "\x00" ++ channel)

/-- What a call of `enqueue` has done so far. -/
structure Enqueued where
  events : EventTable
  eventIds : List Nat
  inserted : Nat
  duplicate : Nat

def pendingRow (t : EventTable) (draft : NotificationDraft) (now : Instant) (channel : String) :
    EventRow where
  id := EventTable.nextRowId t
  idempotencyKey := idempotencyKey sha256 draft.logicalEventId channel
  logicalEventId := draft.logicalEventId
  channel := channel
  payload := draft.payload
  payloadSha256 := payloadFingerprint sha256 draft.payload
  status := .pending
  expiresAt := draft.expiresAt
  cancelledAt := none
  cancelReason := none
  lastError := none
  createdAt := now
  updatedAt := now

/-- One turn of the loop over the channels. -/
def enqueueChannel (draft : NotificationDraft) (now : Instant) (acceptSemanticDuplicate : Bool)
    (acc : Enqueued) (channel : String) : Except StoreError Enqueued :=
  match acc.events.rows.find? (EventRow.ofChannel draft.logicalEventId channel) with
  | some existing =>
    if existing.payloadSha256 ≠ payloadFingerprint sha256 draft.payload
        ∧ acceptSemanticDuplicate = false then
      .error (.valueError "notification idempotency collision")
    else
      .ok { acc with
        eventIds := acc.eventIds ++ [existing.id]
        duplicate := acc.duplicate + 1 }
  | none =>
    let row := pendingRow sha256 acc.events draft now channel
    match insertEvent acc.events row with
    | .error e => .error e
    | .ok events =>
      .ok { acc with
        events := events
        eventIds := acc.eventIds ++ [row.id]
        inserted := acc.inserted + 1 }

/-- All channels of the draft, or none. -/
def enqueue (s : Store) (draft : NotificationDraft) (now : Instant)
    (acceptSemanticDuplicate : Bool) : Except StoreError (EnqueueBatch × Store) :=
  if blank draft.logicalEventId ∨ draft.channels = [] then
    .error (.valueError "logical event id and at least one channel are required")
  else if ¬ draft.channels.Nodup then
    .error (.valueError "notification channels must be unique")
  else if fenced s.events draft.logicalEventId then
    .ok (⟨[], 0, 0, true⟩, s)
  else
    match draft.channels.foldlM (enqueueChannel sha256 draft now acceptSemanticDuplicate)
        ⟨s.events, [], 0, 0⟩ with
    | .error e => .error e
    | .ok done => .ok (⟨done.eventIds, done.inserted, done.duplicate, false⟩,
        { s with events := done.events })

def fenceRow (t : EventTable) (logicalEventId reason : String) (now : Instant) : EventRow where
  id := EventTable.nextRowId t
  idempotencyKey := idempotencyKey sha256 logicalEventId cancellationChannel
  logicalEventId := logicalEventId
  channel := cancellationChannel
  payload := ⟨"{}", none⟩
  payloadSha256 := sha256 "{}"
  status := .failed
  expiresAt := none
  cancelledAt := some now
  cancelReason := some reason
  lastError := none
  createdAt := now
  updatedAt := now

/-- The rows a cancellation rewrites: those no attempt is in flight or done for. -/
def EventRow.cancellable (logicalEventId : String) (r : EventRow) : Bool :=
  decide (r.logicalEventId = logicalEventId) && decide (r.channel ≠ cancellationChannel)
    && (decide (r.status = .pending) || decide (r.status = .failed))

def EventRow.cancel (reason : String) (now : Instant) (r : EventRow) : EventRow :=
  { r with
    status := .failed
    cancelledAt := some now
    cancelReason := some reason
    lastError := some "cancelled_before_transport"
    updatedAt := now }

theorem EventRow.cancel_key (reason : String) (now : Instant) (r : EventRow) :
    eventSchema.key (r.cancel reason now) = eventSchema.key r := rfl

def raiseFence (t : EventTable) (logicalEventId reason : String) (now : Instant) :
    Except StoreError EventTable :=
  if fenced t logicalEventId then .ok t
  else insertEvent t (fenceRow sha256 t logicalEventId reason now)

/-- Raises the fence and cancels what is not under way. -/
def cancel (s : Store) (logicalEventId reason : String) (now : Instant) :
    Except StoreError (Nat × Store) :=
  match raiseFence sha256 s.events logicalEventId reason now with
  | .error e => .error e
  | .ok events =>
    .ok (events.rows.countP (EventRow.cancellable logicalEventId),
      { s with
        events := EventTable.set events (EventRow.cancellable logicalEventId)
          (EventRow.cancel reason now) (EventRow.cancel_key reason now) })

end Hashed

/-! ## Attempts -/

def EventRow.expired (now : Instant) (r : EventRow) : Bool :=
  match r.expiresAt with
  | some expiresAt => decide (expiresAt ≤ now)
  | none => false

def Store.event? (s : Store) (eventId : Nat) : Option EventRow :=
  s.events.rows.find? (fun r => decide (r.id = eventId))

def Store.attempt? (s : Store) (attemptId : Nat) : Option AttemptRow :=
  s.attempts.rows.find? (fun a => decide (a.id = attemptId))

def Store.attemptsOf (s : Store) (eventId : Nat) : List AttemptRow :=
  s.attempts.rows.filter (fun a => decide (a.eventId = eventId))

def Store.setEvent (s : Store) (eventId : Nat) (f : EventRow → EventRow)
    (hk : ∀ r, eventSchema.key (f r) = eventSchema.key r) : Store :=
  { s with events := EventTable.set s.events (fun r => decide (r.id = eventId)) f hk }

def Store.setAttempt (s : Store) (attemptId : Nat) (f : AttemptRow → AttemptRow)
    (hk : ∀ r, attemptSchema.key (f r) = attemptSchema.key r) : Store :=
  { s with attempts := AttemptTable.set s.attempts (fun a => decide (a.id = attemptId)) f hk }

/-- The highest attempt number of the row, or 0. -/
def Store.previousAttemptNo (s : Store) (eventId : Nat) : Nat :=
  ((s.attemptsOf eventId).map AttemptRow.attemptNo).foldr max 0

def Store.newAttempt (s : Store) (eventId : Nat) (now : Instant) : AttemptRow where
  id := AttemptTable.nextRowId s.attempts
  eventId := eventId
  attemptNo := s.previousAttemptNo eventId + 1
  startedAt := now
  finishedAt := none
  outcome := "processing"
  attempted := false
  ok := false
  errorCode := none
  errorDetail := none

def Store.addAttempt (s : Store) (eventId : Nat) (now : Instant) : Store :=
  { s with
    attempts := s.attempts.append (s.newAttempt eventId now) rfl
      (AttemptTable.fresh s.attempts _ rfl) }

def EventRow.expire (now : Instant) (r : EventRow) : EventRow :=
  { r with
    status := .failed
    lastError := some "expired_before_transport"
    updatedAt := now }

theorem EventRow.expire_key (now : Instant) (r : EventRow) :
    eventSchema.key (r.expire now) = eventSchema.key r := rfl

def EventRow.process (now : Instant) (r : EventRow) : EventRow :=
  { r with
    status := .processing
    updatedAt := now }

theorem EventRow.process_key (now : Instant) (r : EventRow) :
    eventSchema.key (r.process now) = eventSchema.key r := rfl

/-- Opens the next attempt of a row that may be tried. -/
def beginAttempt (s : Store) (eventId maxAttempts : Nat) (now : Instant) :
    Except StoreError (Option Attempt × Store) :=
  if maxAttempts < 1 then
    .error (.valueError "max_attempts must be positive")
  else
    match s.event? eventId with
    | none => .ok (none, s)
    | some row =>
      if row.cancelledAt.isSome then .ok (none, s)
      else if row.status = .delivered ∨ row.status = .processing ∨ row.status = .uncertain then
        .ok (none, s)
      else if row.expired now then
        .ok (none, s.setEvent eventId (EventRow.expire now) (EventRow.expire_key now))
      else if maxAttempts < s.previousAttemptNo eventId + 1 then .ok (none, s)
      else
        .ok (some
          { attemptId := (s.newAttempt eventId now).id
            eventId := eventId
            attemptNo := (s.newAttempt eventId now).attemptNo
            channel := row.channel
            payload := row.payload },
          (s.setEvent eventId (EventRow.process now) (EventRow.process_key now)).addAttempt
            eventId now)

def AttemptRow.start (a : AttemptRow) : AttemptRow := { a with attempted := true }

theorem AttemptRow.start_key (a : AttemptRow) :
    attemptSchema.key a.start = attemptSchema.key a := rfl

def markTransportStarted (s : Store) (attemptId : Nat) : Store :=
  s.setAttempt attemptId AttemptRow.start AttemptRow.start_key

def AttemptRow.settle (settlement : Settlement) (now : Instant) (a : AttemptRow) : AttemptRow :=
  { a with
    finishedAt := some now
    outcome := settlement.outcome
    ok := settlement.ok
    errorCode := settlement.errorCode
    errorDetail := settlement.errorDetail }

theorem AttemptRow.settle_key (settlement : Settlement) (now : Instant) (a : AttemptRow) :
    attemptSchema.key (a.settle settlement now) = attemptSchema.key a := rfl

def EventRow.settle (settlement : Settlement) (now : Instant) (r : EventRow) : EventRow :=
  { r with
    status := settlement.status
    lastError := settlement.errorDetail
    updatedAt := now }

theorem EventRow.settle_key (settlement : Settlement) (now : Instant) (r : EventRow) :
    eventSchema.key (r.settle settlement now) = eventSchema.key r := rfl

/-- Closes an attempt with its outcome. -/
def settle (s : Store) (attemptId : Nat) (settlement : Settlement) (now : Instant) :
    Except StoreError Store :=
  if settlement.ok ≠ decide (settlement.status = .delivered) then
    .error (.valueError "only delivered notification attempts may be ok")
  else
    match s.attempt? attemptId with
    | none => .error .noResultFound
    | some a =>
      .ok ((s.setAttempt attemptId (AttemptRow.settle settlement now)
        (AttemptRow.settle_key settlement now)).setEvent a.eventId
          (EventRow.settle settlement now) (EventRow.settle_key settlement now))

/-! ## Recovery and the due scan -/

/-- The attempts that recovery closes: unfinished ones of a row still in processing. -/
def Store.incompleteAttempts (s : Store) : List AttemptRow :=
  s.attempts.rows.filter fun a =>
    a.finishedAt.isNone &&
      s.events.rows.any fun r => decide (r.id = a.eventId) && decide (r.status = .processing)

/-- Pre-transport crashes fail; possibly-sent attempts are quarantined. -/
def recoveryStatus (transportStarted : Bool) : NotificationStatus :=
  if transportStarted then .uncertain else .failed

def recoveryOutcome (transportStarted : Bool) : String :=
  if transportStarted then "transport_outcome_uncertain" else "interrupted_before_transport"

def AttemptRow.recover (outcome : String) (now : Instant) (a : AttemptRow) : AttemptRow :=
  { a with
    finishedAt := some now
    outcome := outcome
    ok := false
    errorCode := some outcome }

theorem AttemptRow.recover_key (outcome : String) (now : Instant) (a : AttemptRow) :
    attemptSchema.key (a.recover outcome now) = attemptSchema.key a := rfl

def EventRow.recover (transportStarted : Bool) (now : Instant) (r : EventRow) : EventRow :=
  { r with
    status := recoveryStatus transportStarted
    lastError := some (recoveryOutcome transportStarted)
    updatedAt := now }

theorem EventRow.recover_key (transportStarted : Bool) (now : Instant) (r : EventRow) :
    eventSchema.key (r.recover transportStarted now) = eventSchema.key r := rfl

def recoverAttempt (now : Instant) (s : Store) (a : AttemptRow) : Store :=
  (s.setAttempt a.id (AttemptRow.recover (recoveryOutcome a.attempted) now)
    (AttemptRow.recover_key _ now)).setEvent a.eventId (EventRow.recover a.attempted now)
      (EventRow.recover_key _ now)

def recoverIncompleteAttempts (s : Store) (now : Instant) : Recovery × Store :=
  let rows := s.incompleteAttempts
  ({ retryEventIds := (rows.filter fun a => !a.attempted).map AttemptRow.eventId
     uncertainEventIds := (rows.filter AttemptRow.attempted).map AttemptRow.eventId },
    rows.foldl (recoverAttempt now) s)

def Store.latestAttempt (s : Store) (eventId : Nat) : Option AttemptRow :=
  (s.attemptsOf eventId).foldl
    (fun best a => match best with
      | some b => if b.id < a.id then some a else some b
      | none => some a) none

def Store.due (s : Store) (r : EventRow) : Bool :=
  r.cancelledAt.isNone &&
    (decide (r.status = .pending) ||
      (decide (r.status = .failed) &&
        (match s.latestAttempt r.id with
          | some a => decide (a.outcome = "retryable_failure"
              ∨ a.outcome = "interrupted_before_transport")
          | none => false) &&
        decide ((s.attemptsOf r.id).length < 3)))

def dueEventIds (s : Store) (limit : Nat) : List Nat :=
  (((s.events.rows.filter s.due).insertionSort fun a b =>
    a.createdAt < b.createdAt ∨ (a.createdAt = b.createdAt ∧ a.id ≤ b.id)).take limit).map
      EventRow.id

/-! ## The store as a machine -/

inductive Request
  | enqueue (draft : NotificationDraft) (now : Instant) (acceptSemanticDuplicate : Bool)
  | cancel (logicalEventId reason : String) (now : Instant)
  | beginAttempt (eventId maxAttempts : Nat) (now : Instant)
  | markTransportStarted (attemptId : Nat)
  | settle (attemptId : Nat) (settlement : Settlement) (now : Instant)
  | recoverIncompleteAttempts (now : Instant)
  | dueEventIds (limit : Nat)

inductive Reply
  | batch (b : EnqueueBatch)
  | cancelled (rows : Nat)
  | attempt (a : Option Attempt)
  | done
  | recovery (r : Recovery)
  | ids (eventIds : List Nat)
  | raised (e : StoreError)
  deriving DecidableEq

/-- One transaction: a call that raises leaves the tables as they were. -/
def answer {α : Type} (s : Store) (reply : α → Reply) : Except StoreError (α × Store) →
    Reply × Store
  | .ok (a, s') => (reply a, s')
  | .error e => (.raised e, s)

def step (sha256 : String → String) (s : Store) : Request → Reply × Store
  | .enqueue draft now acceptSemanticDuplicate =>
    answer s .batch (enqueue sha256 s draft now acceptSemanticDuplicate)
  | .cancel logicalEventId reason now =>
    answer s .cancelled (cancel sha256 s logicalEventId reason now)
  | .beginAttempt eventId maxAttempts now =>
    answer s .attempt (beginAttempt s eventId maxAttempts now)
  | .markTransportStarted attemptId => (.done, markTransportStarted s attemptId)
  | .settle attemptId settlement now =>
    answer s (fun _ => .done) ((settle s attemptId settlement now).map fun s' => ((), s'))
  | .recoverIncompleteAttempts now =>
    (.recovery (recoverIncompleteAttempts s now).1, (recoverIncompleteAttempts s now).2)
  | .dueEventIds limit => (.ids (dueEventIds s limit), s)

end SpxSpark.Notifications
