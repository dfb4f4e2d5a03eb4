import SpxSpark.Ledger.Ownership
import SpxSpark.Ledger.Receipt

/-!
# IngressDecision — the writes of the core and report owners

Ingress identities, decisions with their intents, scheduled reports, operator notifications and
cancellation fences.
-/

open SpxSpark.Domain SpxSpark.Lib

namespace SpxSpark.Ledger

variable {D : Type} [DecidableEq D] [CanonicalHash D]

/-! ## Ingress identities -/

variable (lease : OwnerLease)

def recordIngressOnce (messageId : Token) (payloadSha256 : D) (observedAt : DateTime) :
    LedgerM D IngressWrite := do
  requireOwnerInTransaction lease .core observedAt
  let inserted ← insertOrIgnoreInto (·.ingressMessages) (fun t s => { s with ingressMessages := t })
    { messageId := messageId.value
      payloadSha256
      observedAtUs := micros observedAt
      writerGeneration := lease.generation }
  if inserted then pure .inserted
  else do
    let s ← get
    let existing ← queryRow (s.ingressMessages.rows.find? (·.messageId = messageId.value))
    Txn.ensure (existing.payloadSha256 = payloadSha256) (.identityCollision messageId.value)
    pure .duplicate

def checkIngress (messageId : Token) (payloadSha256 : D) (now : DateTime) :
    LedgerM D IngressCheck := do
  requireOwnerInTransaction lease .core now
  let s ← get
  match s.ingressMessages.rows.find? (·.messageId = messageId.value) with
  | none => pure .new
  | some existing => do
      Txn.ensure (existing.payloadSha256 = payloadSha256) (.identityCollision messageId.value)
      pure .duplicate

/-! ## Targets of an event -/

/-- `sorted_targets`. -/
def sortedTargets (targets : List NotificationTargetV1) : List NotificationTargetV1 :=
  orderBy (·.key.value) targets

/-- `format!("{intent_id}:{target_key}")`. -/
def targetIdOf (eventId targetKey : String) : String := eventId ++ ":" ++ targetKey

/-- The row a target starts with. -/
def freshTarget (eventId : String) (maxAttempts : Nat) (createdAt : DateTime)
    (target : NotificationTargetV1) : TargetRow where
  targetId := targetIdOf eventId target.key.value
  eventId := eventId
  targetKey := target.key.value
  channel := target.channel
  status := .pending
  attemptCount := 0
  maxAttempts := maxAttempts
  replayGeneration := 0
  leaseSequence := 0
  nextAttemptAtUs := some (micros createdAt)
  claimOwnerId := none
  claimOwnerGeneration := none
  claimToken := none
  claimedAtUs := none
  leaseUntilUs := none
  currentAttemptId := none
  deliveredAtUs := none
  terminalAtUs := none
  lastErrorCode := none
  operatorAckAtUs := none
  updatedAtUs := micros createdAt

def insertTargets (eventId : String) (targets : List NotificationTargetV1) (maxAttempts : Nat)
    (createdAt : DateTime) : LedgerM D Unit :=
  targets.forM fun target => do
    let _ ← insertOrIgnoreInto (·.targets) (fun t s => { s with targets := t })
      (freshTarget eventId maxAttempts createdAt target)

/-! ## Decisions and their intents -/

variable (decision : StrategyDecisionV1)

/-- What ties an intent to the decision it announces. -/
def checkIntentOf (intent : NotificationIntentV1) : LedgerM D Unit := do
  liftDomain intent.validate
  Txn.ensure (intent.decisionId = decision.decisionId) (.invalidValue "intent decision id")
  Txn.ensure (decision.action = .manualCandidate) (.invalidValue "NO_TRADE notification intent")
  Txn.ensure (intent.createdAt = decision.evaluatedAt ∧ intent.expiresAt ≤ decision.validUntil)
    (.invalidValue "intent lifetime must be contained by decision lifetime")

def decisionRow (now : DateTime) : DecisionRow D where
  decisionId := decision.decisionId.value
  requestId := decision.requestId.value
  action := decision.action
  policyVersion := decision.policyVersion.value
  snapshotId := decision.snapshotId.value
  evaluatedAtUs := micros decision.evaluatedAt
  validUntilUs := micros decision.validUntil
  payload := decision
  payloadSha256 := canonicalJsonHash (.decision decision)
  writerGeneration := lease.generation
  createdAtUs := micros now

def intentEventRow (intent : NotificationIntentV1) (now : DateTime) : EventRow D where
  eventId := intent.intentId.value
  semanticId := intent.semanticId.value
  decisionId := some intent.decisionId.value
  sourceProjectionId := none
  reportSlot := none
  lane := .tradeReady
  occurredAtUs := micros intent.createdAt
  expiresAtUs := micros intent.expiresAt
  payload := .intent intent
  payloadSha256 := canonicalJsonHash (.intent intent)
  targetSetSha256 := canonicalJsonHash (.targets (sortedTargets intent.targets))
  writerGeneration := lease.generation
  createdAtUs := micros now

/-- The stored event an ignored insert collided with must be the same one. -/
def verifyIntentHash (intent : NotificationIntentV1) : LedgerM D Unit := do
  let s ← get
  let existing ← queryRow (s.events.rows.find? (·.eventId = intent.intentId.value))
  Txn.ensure (existing.payloadSha256 = canonicalJsonHash (.intent intent))
    (.identityCollision intent.intentId.value)
  Txn.ensure (existing.targetSetSha256 =
    canonicalJsonHash (.targets (sortedTargets intent.targets)))
    (.identityCollision intent.intentId.value)

def insertIntent (intent : NotificationIntentV1) (now : DateTime) : LedgerM D Unit := do
  let inserted ← fencedByCancellation intent.intentId.value
    (insertOrIgnoreInto (·.events) (fun t s => { s with events := t })
      (intentEventRow lease intent now))
  (if inserted then pure () else verifyIntentHash intent)
  insertTargets intent.intentId.value (sortedTargets intent.targets) intent.maxAttempts
    intent.createdAt

/-- `verify_hash` on the `decisions` table. -/
def verifyDecisionHash : LedgerM D Unit := do
  let s ← get
  let existing ← queryRow (s.decisions.rows.find? (·.decisionId = decision.decisionId.value))
  Txn.ensure (existing.payloadSha256 = canonicalJsonHash (.decision decision))
    (.identityCollision decision.decisionId.value)

def persistDecision (intent : Option NotificationIntentV1) (now : DateTime) :
    LedgerM D PersistWrite := do
  liftDomain decision.validate
  intent.toList.forM (checkIntentOf decision)
  requireOwnerInTransaction lease .core now
  let inserted ← insertOrIgnoreInto (·.decisions) (fun t s => { s with decisions := t })
    (decisionRow lease decision now)
  (if inserted then pure () else verifyDecisionHash decision)
  intent.toList.forM fun intent => insertIntent lease intent now
  pure (if inserted then .inserted else .duplicate)

/-! ## Scheduled reports -/

def reportEventRow (intent : NotificationIntentV2) (sourceProjectionId slot : Token)
    (now : DateTime) : EventRow D where
  eventId := intent.intentId.value
  semanticId := intent.semanticId.value
  decisionId := none
  sourceProjectionId := some sourceProjectionId.value
  reportSlot := some slot.value
  lane := .scheduledReport
  occurredAtUs := micros intent.createdAt
  expiresAtUs := micros intent.expiresAt
  payload := .report intent
  payloadSha256 := canonicalJsonHash (.report intent)
  targetSetSha256 := canonicalJsonHash (.targets (sortedTargets intent.targets))
  writerGeneration := lease.generation
  createdAtUs := micros now

/-- The stored row is the one `row` would write again. -/
def matchesExact (stored row : EventRow D) : Bool :=
  stored.eventId == row.eventId && stored.semanticId == row.semanticId &&
    stored.decisionId.isNone && stored.sourceProjectionId == row.sourceProjectionId &&
    stored.reportSlot == row.reportSlot && stored.lane == row.lane &&
    stored.payloadSha256 == row.payloadSha256 && stored.targetSetSha256 == row.targetSetSha256

/-- `matching_scheduled_reports`. -/
def matchingScheduledReports (s : Ledger D) (intent : NotificationIntentV2) (slot : Token) :
    List (EventRow D) :=
  s.events.rows.filter fun e =>
    e.eventId = intent.intentId.value || e.semanticId = intent.semanticId.value ||
      (e.lane = .scheduledReport && e.reportSlot = some slot.value)

def scheduledReportCollision (intent : NotificationIntentV2) (slot : Token) : LedgerError :=
  .identityCollision ("scheduled_report:" ++ intent.semanticId.value ++ "/" ++ slot.value)

def persistScheduledReport (intent : NotificationIntentV2) (now : DateTime) :
    LedgerM D PersistWrite := do
  liftDomain intent.validate
  match intent.lineage with
  | .tradeReady _ => throw (.invalidValue "scheduled report requires scheduled lineage")
  | .scheduledReport sourceProjectionId slot => do
      requireOwnerInTransaction lease .report now
      let s ← get
      let row : EventRow D := reportEventRow lease intent sourceProjectionId slot now
      match matchingScheduledReports s intent slot with
      | [] => do
          fencedByCancellation intent.intentId.value
            (insertInto (·.events) (fun t s => { s with events := t }) row)
          insertTargets intent.intentId.value (sortedTargets intent.targets) intent.maxAttempts
            intent.createdAt
          pure .inserted
      | [stored] => do
          Txn.ensure (matchesExact stored row) (scheduledReportCollision intent slot)
          insertTargets intent.intentId.value (sortedTargets intent.targets) intent.maxAttempts
            intent.createdAt
          pure .duplicate
      | _ => throw (scheduledReportCollision intent slot)

/-! ## Operator notifications -/

def notificationEventRow (n : OperatorNotificationV1) (now : DateTime) : EventRow D where
  eventId := n.eventId.value
  semanticId := n.semanticId.value
  decisionId := none
  sourceProjectionId := none
  reportSlot := none
  lane := .traderEvent
  occurredAtUs := micros n.occurredAt
  expiresAtUs := micros n.expiresAt
  payload := .notification n
  payloadSha256 := canonicalJsonHash (.notification n)
  targetSetSha256 := canonicalJsonHash (.targets (sortedTargets n.targets))
  writerGeneration := lease.generation
  createdAtUs := micros now

/-- `matching_operator_notifications`. -/
def matchingOperatorNotifications (s : Ledger D) (n : OperatorNotificationV1) :
    List (EventRow D) :=
  s.events.rows.filter fun e => e.eventId = n.eventId.value || e.semanticId = n.semanticId.value

inductive OperatorLifecycleDecision
  | persist
  | suppress
  deriving DecidableEq

def opportunityEvents (s : Ledger D) (opportunityId : Token) : List OperatorNotificationV1 :=
  (s.events.rows.filterMap EventRow.notification?).filter (·.opportunityId = opportunityId)

def enforceOperatorLifecycle (s : Ledger D) (n : OperatorNotificationV1) :
    OperatorLifecycleDecision :=
  let existing := opportunityEvents s n.opportunityId
  let has (role : OperatorNotificationRole) : Bool :=
    existing.any fun e => e.generation = n.generation && e.role = role
  if existing.any fun e => n.generation < e.generation then .suppress
  else if has .exit then .suppress
  else if has .cancel && n.role != .exit then .suppress
  else match n.role with
    | .setup => if has .tradeReady then .suppress else .persist
    | .tradeReady => if has .tradeReady then .suppress else .persist
    | .cancel => if has .cancel then .suppress else .persist
    | .exit => .persist

/-- The roles an event supersedes, and the reason it gives; a setup supersedes nothing. -/
def supersession : OperatorNotificationRole → Option (List OperatorNotificationRole × String)
  | .setup => none
  | .tradeReady => some ([.setup], "superseded_by_trade_ready")
  | .cancel => some ([.setup, .tradeReady], "superseded_by_cancel")
  | .exit => some ([.setup, .tradeReady, .cancel], "superseded_by_exit")

/-- Pending or claimed. -/
def TargetStatus.unsent (status : TargetStatus) : Bool :=
  status == .pending || status == .claimed

/-- A stored trader event of the opportunity and generation of `n`, in one of `roles`. -/
def EventRow.supersededBy (n : OperatorNotificationV1) (roles : List OperatorNotificationRole)
    (e : EventRow D) : Bool :=
  e.notification?.any fun stored => stored.opportunityId = n.opportunityId &&
    stored.generation = n.generation && roles.contains stored.role

/-- Clears the claim columns. -/
def TargetRow.release (t : TargetRow) : TargetRow :=
  { t with
    claimOwnerId := none
    claimOwnerGeneration := none
    claimToken := none
    claimedAtUs := none
    leaseUntilUs := none
    currentAttemptId := none }

/-- The row an unsent target is rewritten to when it ends without a transport. -/
def TargetRow.terminal (status : TargetStatus) (reasonCode : String) (now : DateTime)
    (t : TargetRow) : TargetRow :=
  { t.release with
    status := status
    nextAttemptAtUs := none
    terminalAtUs := some (micros now)
    updatedAtUs := micros now
    lastErrorCode := some reasonCode }

/-- Cancels one unsent target that still has the status it was selected with. -/
def cancelUnsent (receiptId : Uuid) (reasonCode transition : String) (now : DateTime)
    (target : TargetRow) : LedgerM D Unit := do
  let changed ← updateTargets
    (fun t => t.targetId = target.targetId && t.status = target.status)
    (TargetRow.terminal .cancelled reasonCode now)
  Txn.ensure (changed = 1) (.invalidValue transition)
  insertReceipt receiptId target.targetId (.cancelledBeforeTransport reasonCode) now

/-- The unsent targets of the events that `n` supersedes. -/
def supersededTargets (s : Ledger D) (n : OperatorNotificationV1)
    (roles : List OperatorNotificationRole) : List TargetRow :=
  orderBy (·.targetId) (s.targets.rows.filter fun t => t.status.unsent &&
    s.events.rows.any fun e => e.eventId = t.eventId && e.supersededBy n roles)

def supersedePriorOperatorTargets (draws : Draws) (n : OperatorNotificationV1) (now : DateTime) :
    LedgerM D Unit :=
  match supersession n.role with
  | none => pure ()
  | some (roles, reasonCode) => do
      let s ← get
      (supersededTargets s n roles).forM fun t =>
        cancelUnsent (draws.receiptId t.targetId) reasonCode
          "operator supersession target transition" now t

def traderEventCollision (n : OperatorNotificationV1) : LedgerError :=
  .identityCollision ("trader_event:" ++ n.eventId.value ++ "/" ++ n.semanticId.value)

def persistOperatorNotification (draws : Draws) (lease : OwnerLease) (n : OperatorNotificationV1)
    (maxAttempts : Nat) (now : DateTime) : LedgerM D OperatorNotificationWrite := do
  liftDomain n.validate
  Txn.ensure (1 ≤ maxAttempts ∧ maxAttempts ≤ 10) (.invalidValue "max_attempts")
  requireOwnerInTransaction lease .core now
  let s ← get
  match matchingOperatorNotifications s n with
  | [] =>
    if enforceOperatorLifecycle s n = .suppress then pure .semanticSuppressed
    else do
      supersedePriorOperatorTargets draws n now
      fencedByCancellation n.eventId.value
        (insertInto (·.events) (fun t s => { s with events := t })
          (notificationEventRow lease n now))
      insertTargets n.eventId.value (sortedTargets n.targets) maxAttempts n.occurredAt
      pure .inserted
  | [stored] => do
      Txn.ensure (matchesExact stored (notificationEventRow lease n now)) (traderEventCollision n)
      insertTargets n.eventId.value (sortedTargets n.targets) maxAttempts n.occurredAt
      pure .duplicate
  | _ => throw (traderEventCollision n)

def replayOperatorNotification (n : OperatorNotificationV1) (now : DateTime) :
    LedgerM D OperatorNotificationWrite := do
  liftDomain n.validate
  requireOwnerInTransaction lease .core now
  let s ← get
  match matchingOperatorNotifications s n with
  | [] => pure .semanticSuppressed
  | [stored] => do
      Txn.ensure (matchesExact stored (notificationEventRow lease n now)) (traderEventCollision n)
      pure .duplicate
  | _ => throw (traderEventCollision n)

/-! ## Cancellation fences -/

def unsentTargets (s : Ledger D) (eventId : String) : List TargetRow :=
  s.targets.rows.filter fun t => t.eventId = eventId && t.status.unsent

/-- The stored fence an ignored insert collided with must give the same reason. -/
def verifyFence (eventId reasonCode : String) : LedgerM D Unit := do
  let s ← get
  let existing ← queryRow (s.cancellations.rows.find? (·.eventId = eventId))
  Txn.ensure (existing.reasonCode = reasonCode) (.identityCollision eventId)

def cancelEventAt (draws : Draws) (lease : OwnerLease) (eventId reasonCode : String)
    (cancelledAt processingAt : DateTime) : LedgerM D PersistWrite := do
  Txn.ensure (isBlank eventId = false ∧ isBlank reasonCode = false) (.invalidValue "cancellation")
  Txn.ensure (cancelledAt ≤ processingAt) (.invalidValue "cancellation timestamp")
  requireOwnerInTransaction lease .core processingAt
  let inserted ← insertOrIgnoreInto (·.cancellations) (fun t s => { s with cancellations := t })
    { eventId, reasonCode
      cancelledAtUs := micros cancelledAt
      writerGeneration := lease.generation }
  (if inserted then pure () else verifyFence eventId reasonCode)
  let s ← get
  (unsentTargets s eventId).forM fun t =>
    cancelUnsent (draws.receiptId t.targetId) reasonCode "cancellation target transition"
      processingAt t
  pure (if inserted then .inserted else .duplicate)

end SpxSpark.Ledger
