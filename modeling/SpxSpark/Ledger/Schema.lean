import SpxSpark.Ledger.Model
import SpxSpark.Lib.Transaction
import Mathlib.Data.List.TakeWhile

/-!
# Schema — the tables of the operational ledger, their CHECKs and triggers

One row type per table, with its CHECK as a boolean and its unique keys as a clash relation, after
the last migration.
-/

open SpxSpark.Domain SpxSpark.Lib

namespace SpxSpark.Ledger

/-! ## Text as SQLite sees it -/

/-- `trim(x)`: only spaces are removed. -/
def sqlTrim (text : String) : List Char :=
  ((text.toList.dropWhile (· == ' ')).reverse.dropWhile (· == ' ')).reverse

/-- `length(x)`: the characters before the first NUL. -/
def sqlLength (text : List Char) : Nat := (text.takeWhile (· != Char.ofNat 0)).length

/-- `length(trim(x)) > 0`. -/
def sqlNonBlank (text : String) : Bool := 0 < sqlLength (sqlTrim text)

theorem dropWhile_concat {p : Char → Bool} {c : Char} (hc : p c = false) :
    ∀ xs : List Char, (xs ++ [c]).dropWhile p = xs.dropWhile p ++ [c]
  | [] => by simp [hc]
  | x :: xs => by
      cases hx : p x with
      | true => simpa [hx] using dropWhile_concat hc xs
      | false => simp [hx]

theorem sqlNonBlank_iff {text : String} : sqlNonBlank text = true ↔
    ∃ c rest, text.toList.dropWhile (· == ' ') = c :: rest ∧ c ≠ Char.ofNat 0 := by
  unfold sqlNonBlank sqlTrim sqlLength
  cases hl : text.toList.dropWhile (· == ' ') with
  | nil => simp
  | cons c rest =>
    have hc : (c == ' ') = false := by
      have := List.head?_dropWhile_not (· == ' ') text.toList
      simpa [hl] using this
    have htrim : ((c :: rest).reverse.dropWhile (· == ' ')).reverse =
        c :: (rest.reverse.dropWhile (· == ' ')).reverse := by
      rw [List.reverse_cons, dropWhile_concat (p := (· == ' ')) hc, List.reverse_append]
      rfl
    rw [htrim]
    by_cases hz : c = Char.ofNat 0
    · simp [hz]
    · simp [hz]

theorem sqlNonBlank_append {a : String} (b : String) (h : sqlNonBlank a = true) :
    sqlNonBlank (a ++ b) = true := by
  obtain ⟨c, rest, hd, hc⟩ := sqlNonBlank_iff.mp h
  refine sqlNonBlank_iff.mpr ⟨c, rest ++ b.toList, ?_, hc⟩
  rw [String.toList_append, List.dropWhile_append, hd]
  rfl

theorem sqlNonBlank_of_text {text : String} (hb : isBlank text = false)
    (hz : containsNul text = false) : sqlNonBlank text = true := by
  cases hl : text.toList.dropWhile (· == ' ') with
  | nil =>
    rw [List.dropWhile_eq_nil_iff] at hl
    have : isBlank text = true := by
      refine List.all_eq_true.mpr fun c hc => ?_
      have hsp : c = ' ' := by simpa using hl c hc
      rw [hsp]
      decide
    rw [hb] at this
    cases this
  | cons c rest =>
    refine sqlNonBlank_iff.mpr ⟨c, rest, hl, ?_⟩
    rintro rfl
    have hmem : Char.ofNat 0 ∈ text.toList := by
      have hsuf := List.dropWhile_suffix (l := text.toList) (· == ' ')
      rw [hl] at hsuf
      exact hsuf.subset (List.mem_cons_self ..)
    have : containsNul text = true := List.any_eq_true.mpr ⟨_, hmem, by decide⟩
    rw [hz] at this
    cases this

theorem sqlNonBlank_token (t : Token) : sqlNonBlank t.value = true :=
  sqlNonBlank_of_text t.nonBlank t.nulFree

/-! ## Hashes -/

/-- What the ledger hashes: the canonical JSON of a contract, or of a sorted target list. -/
inductive Document
  | decision (decision : StrategyDecisionV1)
  | intent (intent : NotificationIntentV1)
  | report (intent : NotificationIntentV2)
  | notification (notification : OperatorNotificationV1)
  | targets (targets : List NotificationTargetV1)
  deriving DecidableEq

/-- `canonical_json_hash`, with digests in `D`. -/
class CanonicalHash (D : Type) where
  canonicalJsonHash : Document → D

export CanonicalHash (canonicalJsonHash)

/-- Documents as their own digests: a hash without collisions. -/
instance : CanonicalHash Document := ⟨id⟩

/-! ## Runtime owners -/

structure OwnerRow where
  ownerId : String
  generation : Int
  active : Bool
  acquiredAtUs : Int
  heartbeatAtUs : Int
  leaseUntilUs : Int

def OwnerRow.check (r : OwnerRow) : Bool :=
  (16 ≤ sqlLength (sqlTrim r.ownerId) && sqlLength (sqlTrim r.ownerId) ≤ 128) &&
    0 < r.generation && 0 < r.acquiredAtUs && 0 < r.heartbeatAtUs && 0 < r.leaseUntilUs &&
    r.acquiredAtUs ≤ r.heartbeatAtUs && r.heartbeatAtUs < r.leaseUntilUs

/-- A row that passed its CHECK; the role is its primary key. -/
abbrev StoredOwner := { r : OwnerRow // r.check = true }

/-! ## Ingress, decisions and cancellations -/

structure IngressRow (D : Type) where
  messageId : String
  payloadSha256 : D
  observedAtUs : Int
  writerGeneration : Int

def ingressSchema (D : Type) : Schema (IngressRow D) String where
  check r := sqlNonBlank r.messageId && 0 < r.observedAtUs && 0 < r.writerGeneration
  key r := r.messageId
  clash a b := a == b

structure DecisionRow (D : Type) where
  decisionId : String
  requestId : String
  action : StrategyAction
  policyVersion : String
  snapshotId : String
  evaluatedAtUs : Int
  validUntilUs : Int
  payload : StrategyDecisionV1
  payloadSha256 : D
  writerGeneration : Int
  createdAtUs : Int

def decisionSchema (D : Type) : Schema (DecisionRow D) (String × String) where
  check r := sqlNonBlank r.decisionId && sqlNonBlank r.requestId &&
    sqlNonBlank r.policyVersion && sqlNonBlank r.snapshotId && 0 < r.evaluatedAtUs &&
    r.evaluatedAtUs < r.validUntilUs && 0 < r.writerGeneration && 0 < r.createdAtUs
  key r := (r.decisionId, r.requestId)
  clash a b := a.1 == b.1 || a.2 == b.2

structure CancellationRow where
  eventId : String
  reasonCode : String
  cancelledAtUs : Int
  writerGeneration : Int

def cancellationSchema : Schema CancellationRow String where
  check r := sqlNonBlank r.eventId && sqlNonBlank r.reasonCode && 0 < r.cancelledAtUs &&
    0 < r.writerGeneration
  key r := r.eventId
  clash a b := a == b

/-! ## Events -/

inductive Lane
  | positionSafety
  | executionSafety
  | tradeReady
  | marketWarning
  | opsTransition
  | scheduledReport
  | traderEvent
  deriving DecidableEq

/-- `payload_json`: the contract it encodes. -/
inductive EventPayload
  | intent (intent : NotificationIntentV1)
  | report (intent : NotificationIntentV2)
  | notification (notification : OperatorNotificationV1)

structure EventRow (D : Type) where
  eventId : String
  semanticId : String
  decisionId : Option String
  sourceProjectionId : Option String
  reportSlot : Option String
  lane : Lane
  occurredAtUs : Int
  expiresAtUs : Int
  payload : EventPayload
  payloadSha256 : D
  targetSetSha256 : D
  writerGeneration : Int
  createdAtUs : Int

namespace EventRow

variable {D : Type}

/-- Which of the three provenance columns each lane fills. -/
def laneColumns (r : EventRow D) : Bool :=
  match r.lane with
  | .scheduledReport =>
    r.decisionId.isNone && r.sourceProjectionId.isSome && r.reportSlot.isSome
  | .traderEvent => r.decisionId.isNone && r.sourceProjectionId.isNone && r.reportSlot.isNone
  | _ => r.decisionId.isSome && r.sourceProjectionId.isNone && r.reportSlot.isNone

def deskTexts (m : DeskMessageV2) : List Token :=
  [m.title, m.deskView, m.location, m.structure', m.primaryPath, m.alternativePath, m.targets,
    m.execution, m.dataQuality]

/-- The payload of a scheduled report repeats its columns. -/
def scheduledPayload (r : EventRow D) : Bool :=
  match r.payload with
  | .report i =>
    i.schemaVersion == notificationIntentV2SchemaVersion && i.intentId.value == r.eventId &&
      i.semanticId.value == r.semanticId &&
      (match i.lineage with
        | .scheduledReport source slot =>
          r.sourceProjectionId == some source.value && r.reportSlot == some slot.value
        | .tradeReady _ => false) &&
      (deskTexts i.message).all fun text => sqlNonBlank text.value
  | _ => false

/-- The payload of a trader event repeats its columns and authorizes no ordering. -/
def traderPayload (r : EventRow D) : Bool :=
  match r.payload with
  | .notification n =>
    n.schemaVersion == operatorNotificationSchemaVersion && n.eventId.value == r.eventId &&
      n.semanticId.value == r.semanticId && sqlNonBlank n.opportunityId.value &&
      sqlNonBlank n.title.value && sqlNonBlank n.body && !n.targets.isEmpty &&
      !n.automaticOrdering
  | _ => false

def check (r : EventRow D) : Bool :=
  sqlNonBlank r.eventId && sqlNonBlank r.semanticId &&
    r.sourceProjectionId.all sqlNonBlank && r.reportSlot.all sqlNonBlank &&
    0 < r.occurredAtUs && r.occurredAtUs < r.expiresAtUs && 0 < r.writerGeneration &&
    0 < r.createdAtUs && r.laneColumns &&
    (r.lane != .scheduledReport || r.scheduledPayload) &&
    (r.lane != .traderEvent || r.traderPayload)

/-- `scheduled_report_slot_uidx` covers the slots of scheduled reports only. -/
def slotKey (r : EventRow D) : Option String :=
  if r.lane = .scheduledReport then r.reportSlot else none

/-- `json_extract` on the operator notification a trader event carries. -/
def notification? (r : EventRow D) : Option OperatorNotificationV1 :=
  match r.lane, r.payload with
  | .traderEvent, .notification n => some n
  | _, _ => none

end EventRow

def eventSchema (D : Type) : Schema (EventRow D) (String × String × Option String) where
  check := EventRow.check
  key r := (r.eventId, r.semanticId, r.slotKey)
  clash a b := a.1 == b.1 || a.2.1 == b.2.1 || (a.2.2.isSome && a.2.2 == b.2.2)

/-! ## Targets, attempts, receipts and operator actions -/

structure TargetRow where
  targetId : String
  eventId : String
  targetKey : String
  channel : DeliveryChannel
  status : TargetStatus
  attemptCount : Int
  maxAttempts : Int
  replayGeneration : Int
  leaseSequence : Int
  nextAttemptAtUs : Option Int
  claimOwnerId : Option String
  claimOwnerGeneration : Option Int
  claimToken : Option String
  claimedAtUs : Option Int
  leaseUntilUs : Option Int
  currentAttemptId : Option String
  deliveredAtUs : Option Int
  terminalAtUs : Option Int
  lastErrorCode : Option String
  operatorAckAtUs : Option Int
  updatedAtUs : Int

namespace TargetRow

/-- No claim column is set. -/
def unclaimed (t : TargetRow) : Bool :=
  t.claimOwnerId.isNone && t.claimOwnerGeneration.isNone && t.claimToken.isNone &&
    t.claimedAtUs.isNone && t.leaseUntilUs.isNone

/-- Every claim column is set, and the lease ends after the claim was made. -/
def claimColumns (t : TargetRow) : Bool :=
  t.claimOwnerId.isSome && t.claimOwnerGeneration.all (0 < ·) && t.claimToken.isSome &&
    t.claimedAtUs.isSome && t.leaseUntilUs.all fun u => t.claimedAtUs.all (· < u)

/-- The status of a row decides which of its other columns are set. -/
def statusColumns (t : TargetRow) : Bool :=
  match t.status with
  | .pending =>
    t.nextAttemptAtUs.isSome && t.unclaimed && t.currentAttemptId.isNone &&
      t.deliveredAtUs.isNone && t.terminalAtUs.isNone
  | .claimed =>
    t.nextAttemptAtUs.isNone && t.claimColumns && t.currentAttemptId.isNone &&
      t.deliveredAtUs.isNone && t.terminalAtUs.isNone
  | .inFlight =>
    0 < t.attemptCount && t.nextAttemptAtUs.isNone && t.claimColumns &&
      t.currentAttemptId.isSome && t.deliveredAtUs.isNone && t.terminalAtUs.isNone
  | .delivered =>
    t.nextAttemptAtUs.isNone && t.unclaimed && t.currentAttemptId.isNone &&
      t.deliveredAtUs.isSome && t.terminalAtUs.all fun u => t.deliveredAtUs.all (u == ·)
  | .deadLetter | .cancelled | .expired | .uncertain =>
    t.nextAttemptAtUs.isNone && t.unclaimed && t.currentAttemptId.isNone &&
      t.deliveredAtUs.isNone && t.terminalAtUs.isSome

def isFailure : TargetStatus → Bool
  | .deadLetter | .expired | .uncertain => true
  | _ => false

def check (t : TargetRow) : Bool :=
  sqlNonBlank t.targetId && sqlNonBlank t.targetKey && 0 ≤ t.attemptCount &&
    0 < t.maxAttempts && 0 ≤ t.replayGeneration && 0 ≤ t.leaseSequence && 0 < t.updatedAtUs &&
    t.attemptCount ≤ t.maxAttempts &&
    (t.status != .pending || t.attemptCount < t.maxAttempts) && t.statusColumns &&
    (t.operatorAckAtUs.isNone || isFailure t.status)

end TargetRow

def targetSchema : Schema TargetRow (String × String × String) where
  check := TargetRow.check
  key t := (t.targetId, t.eventId, t.targetKey)
  clash a b := a.1 == b.1 || a.2 == b.2

structure AttemptRow where
  attemptId : String
  targetId : String
  channel : DeliveryChannel
  claimToken : String
  ownerGeneration : Int
  replayGeneration : Int
  attemptNo : Int
  leaseSequence : Int
  idempotencyKey : String
  startedAtUs : Int

def attemptSchema : Schema AttemptRow (String × String × Int × Int × Int) where
  check a := sqlNonBlank a.attemptId && sqlNonBlank a.claimToken && 0 < a.ownerGeneration &&
    0 ≤ a.replayGeneration && 0 < a.attemptNo && 0 < a.leaseSequence &&
    sqlNonBlank a.idempotencyKey && 0 < a.startedAtUs
  key a := (a.attemptId, a.targetId, a.replayGeneration, a.attemptNo, a.leaseSequence)
  clash a b := a.1 == b.1 ||
    (a.2.1 == b.2.1 &&
      ((a.2.2.1 == b.2.2.1 && a.2.2.2.1 == b.2.2.2.1) || a.2.2.2.2 == b.2.2.2.2))

inductive StoredOutcome
  | delivered
  | retryableFailure
  | retryExhausted
  | permanentFailure
  | cancelledBeforeTransport
  | expiredBeforeTransport
  | transportUncertain
  | claimRecovered
  deriving DecidableEq

def StoredOutcome.wire : StoredOutcome → ReceiptOutcome
  | .delivered => .delivered
  | .retryableFailure | .claimRecovered => .retryScheduled
  | .retryExhausted | .permanentFailure => .deadLetter
  | .cancelledBeforeTransport => .cancelled
  | .expiredBeforeTransport => .expired
  | .transportUncertain => .uncertain

structure ReceiptRow where
  receiptId : String
  targetId : String
  intentId : String
  targetKey : String
  channel : DeliveryChannel
  attemptId : Option String
  outcome : StoredOutcome
  attempted : Bool
  ok : Bool
  queuedForRetry : Bool
  reasonCode : String
  providerMessageId : Option String
  occurredAtUs : Int
  payload : DeliveryReceiptV1

namespace ReceiptRow

/-- The wire receipt repeats the columns. -/
def payloadColumns (r : ReceiptRow) : Bool :=
  r.payload.schemaVersion == deliveryReceiptSchemaVersion &&
    r.payload.receiptId.value == r.receiptId && r.payload.targetId.value == r.targetId &&
    r.payload.intentId.value == r.intentId && r.payload.targetKey.value == r.targetKey &&
    r.payload.channel == r.channel &&
    r.payload.providerMessageId.map (·.value) == r.providerMessageId &&
    (if r.outcome = .delivered then r.payload.errorCode.isNone
      else r.payload.errorCode.map (·.value) == some r.reasonCode) &&
    r.payload.outcome == r.outcome.wire

/-- Outcomes of a target whose transport had started, or had not. -/
def attemptedColumns (r : ReceiptRow) : Bool :=
  match r.outcome with
  | .delivered | .retryableFailure | .retryExhausted | .transportUncertain => r.attempted
  | .permanentFailure => true
  | .cancelledBeforeTransport | .expiredBeforeTransport | .claimRecovered => !r.attempted

def check (r : ReceiptRow) : Bool :=
  sqlNonBlank r.receiptId && sqlNonBlank r.intentId && sqlNonBlank r.targetKey &&
    sqlNonBlank r.reasonCode && 0 < r.occurredAtUs && (r.attempted == r.attemptId.isSome) &&
    (r.ok == (r.outcome == .delivered)) &&
    (r.queuedForRetry == (r.outcome == .retryableFailure || r.outcome == .claimRecovered)) &&
    (r.providerMessageId.isNone || r.outcome == .delivered) && r.payloadColumns &&
    r.attemptedColumns

end ReceiptRow

def receiptSchema : Schema ReceiptRow (String × Option String) where
  check := ReceiptRow.check
  key r := (r.receiptId, r.attemptId)
  clash a b := a.1 == b.1 || (a.2.isSome && a.2 == b.2)

inductive OperatorAction
  | acknowledge
  | replay
  | cancel
  deriving DecidableEq

structure OperatorActionRow where
  actionId : String
  targetId : String
  action : OperatorAction
  reasonCode : String
  actor : String
  occurredAtUs : Int

def operatorActionSchema : Schema OperatorActionRow String where
  check r := sqlNonBlank r.actionId && sqlNonBlank r.reasonCode && sqlNonBlank r.actor &&
    0 < r.occurredAtUs
  key r := r.actionId
  clash a b := a == b

end SpxSpark.Ledger

/-! ## The ledger, and statements over its tables -/

open SpxSpark.Ledger in
structure SpxSpark.Ledger (D : Type) where
  runtimeOwners : OwnerRole → Option StoredOwner
  ingressMessages : Table (ingressSchema D)
  decisions : Table (decisionSchema D)
  cancellations : Table cancellationSchema
  events : Table (eventSchema D)
  targets : Table targetSchema
  attempts : Table attemptSchema
  receipts : Table receiptSchema
  operatorActions : Table operatorActionSchema

namespace SpxSpark.Ledger

def migrated {D : Type} : Ledger D where
  runtimeOwners := fun _ => none
  ingressMessages := .empty
  decisions := .empty
  cancellations := .empty
  events := .empty
  targets := .empty
  attempts := .empty
  receipts := .empty
  operatorActions := .empty

abbrev LedgerM (D : Type) := Txn (Ledger D) LedgerError

variable {D Row Key α : Type} {S : Schema Row Key}

def queryRow (found : Option α) : LedgerM D α :=
  Txn.ofOption (.sqlite .queryReturnedNoRows) found

/-- `INSERT INTO` the table that `get` and `set` address. -/
def insertInto (get : Ledger D → Table S) (set : Table S → Ledger D → Ledger D) (row : Row) :
    LedgerM D Unit := fun s =>
  match (get s).insert row with
  | .ok t => .ok ((), set t s)
  | .error violated => .error (.sqlite (.constraint violated))

/-- `INSERT OR IGNORE INTO`; says whether the row was added. -/
def insertOrIgnoreInto (get : Ledger D → Table S) (set : Table S → Ledger D → Ledger D)
    (row : Row) : LedgerM D Bool := fun s =>
  .ok (((get s).insertOrIgnore row).1, set ((get s).insertOrIgnore row).2 s)

/-- `UPDATE`; returns the number of rows it matched. -/
def updateIn (get : Ledger D → Table S) (set : Table S → Ledger D → Ledger D)
    (p : Row → Bool) (f : Row → Row) : LedgerM D Nat := fun s =>
  match (get s).update p f with
  | .ok (n, t) => .ok (n, set t s)
  | .error violated => .error (.sqlite (.constraint violated))

def updateTargets (p : TargetRow → Bool) (f : TargetRow → TargetRow) : LedgerM D Nat :=
  updateIn (·.targets) (fun t s => { s with targets := t }) p f

/-- `notification_events_cancellation_fence`, then the statement it guards. -/
def fencedByCancellation (eventId : String) (statement : LedgerM D α) : LedgerM D α := do
  let s ← get
  Txn.ensure (s.cancellations.rows.all (·.eventId != eventId))
    (.sqlite (.raised "cancellation_fenced"))
  statement

/-- The condition under which `attempt_matches_current_target` lets an attempt in. -/
def attemptMatches (t : TargetRow) (a : AttemptRow) : Bool :=
  t.targetId == a.targetId && t.status == .inFlight && t.currentAttemptId == some a.attemptId &&
    t.channel == a.channel && t.claimToken == some a.claimToken &&
    t.claimOwnerGeneration == some a.ownerGeneration &&
    t.replayGeneration == a.replayGeneration && t.attemptCount == a.attemptNo &&
    t.leaseSequence == a.leaseSequence &&
    a.idempotencyKey == t.eventId ++ ":" ++ t.targetId &&
    t.claimedAtUs.any (· ≤ a.startedAtUs) && t.leaseUntilUs.any (a.startedAtUs < ·)

/-- `attempt_matches_current_target`, then the insert. -/
def insertAttempt (row : AttemptRow) : LedgerM D Unit := do
  let s ← get
  Txn.ensure (s.targets.rows.any fun t => attemptMatches t row)
    (.sqlite (.raised "attempt_target_mismatch"))
  insertInto (·.attempts) (fun t s => { s with attempts := t }) row

/-- `receipt_matches_target_and_attempt`, then the insert. -/
def insertReceiptRow (row : ReceiptRow) : LedgerM D Unit := do
  let s ← get
  Txn.ensure
    ((s.targets.rows.any fun t => t.targetId == row.targetId && t.eventId == row.intentId &&
        t.targetKey == row.targetKey && t.channel == row.channel) &&
      row.attemptId.all fun id => s.attempts.rows.any fun a =>
        a.attemptId == id && a.targetId == row.targetId && a.channel == row.channel)
    (.sqlite (.raised "receipt_provenance_mismatch"))
  insertInto (·.receipts) (fun t s => { s with receipts := t }) row

end SpxSpark.Ledger
