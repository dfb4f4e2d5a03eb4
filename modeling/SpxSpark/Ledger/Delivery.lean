import SpxSpark.Ledger.IngressDecision

/-!
# Delivery — claiming a target and crossing into transport

`recoverStaleClaims` puts expired claims back and gives up on expired transports, `claimNext`
expires what is overdue and claims the most urgent due target, and `beginTransport` rechecks the
fence and the expiry before the irreversible step.
-/

open SpxSpark.Domain SpxSpark.Lib

namespace SpxSpark.Ledger

variable {D : Type}

/-! ## Recovery -/

/-- The row an expired claim is put back to. -/
def TargetRow.requeued (now : DateTime) (t : TargetRow) : TargetRow :=
  { t.release with
    status := .pending
    nextAttemptAtUs := some (micros now)
    updatedAtUs := micros now
    lastErrorCode := some "claim_recovered_before_transport" }

/-- One stale target: a started transport becomes uncertain, a claim is requeued. -/
def recoverTarget (draws : Draws) (now : DateTime) (summary : RecoverySummary) (t : TargetRow) :
    LedgerM D RecoverySummary :=
  match t.status with
  | .inFlight => do
      let attemptId ← Txn.ofOption (.invalidValue "in_flight target without attempt")
        t.currentAttemptId
      let _ ← updateTargets (fun r => r.targetId = t.targetId && r.status = .inFlight)
        (TargetRow.terminal .uncertain "worker_lost_after_transport_start" now)
      insertReceipt (draws.receiptId t.targetId) t.targetId
        (.transportUncertain attemptId "worker_lost_after_transport_start") now
      pure { summary with uncertain := summary.uncertain + 1 }
  | .claimed => do
      Txn.ensure (t.currentAttemptId = none) (.invalidValue "claimed target has attempt")
      let _ ← updateTargets (fun r => r.targetId = t.targetId && r.status = .claimed)
        (TargetRow.requeued now)
      insertReceipt (draws.receiptId t.targetId) t.targetId .claimRecovered now
      pure { summary with requeued := summary.requeued + 1 }
  | _ => throw (.invalidValue "recoverable target status")

def staleTargets (s : Ledger D) (now : DateTime) : List TargetRow :=
  s.targets.rows.filter fun t => (t.status = .claimed || t.status = .inFlight) &&
    t.leaseUntilUs.any (· ≤ micros now)

variable (draws : Draws) (lease : OwnerLease)

def recoverStaleClaims (now : DateTime) : LedgerM D RecoverySummary := do
  requireOwnerInTransaction lease .delivery now
  let s ← get
  (staleTargets s now).foldlM (recoverTarget draws now) ⟨0, 0⟩

/-! ## Expiry and claims -/

/-- The row of a pending target whose event expired before it was claimed. -/
def TargetRow.overdue (now : DateTime) (t : TargetRow) : TargetRow :=
  { t with
    status := .expired
    nextAttemptAtUs := none
    terminalAtUs := some (micros now)
    updatedAtUs := micros now
    lastErrorCode := some "ttl_expired" }

def expireTarget (draws : Draws) (now : DateTime) (t : TargetRow) : LedgerM D Unit := do
  let changed ← updateTargets (fun r => r.targetId = t.targetId && r.status = .pending)
    (TargetRow.overdue now)
  Txn.ensure (changed = 1) (.invalidValue "expiry target transition")
  insertReceipt (draws.receiptId t.targetId) t.targetId .expiredBeforeTransport now

def overdueTargets (s : Ledger D) (now : DateTime) : List TargetRow :=
  s.targets.rows.filter fun t => t.status = .pending &&
    s.events.rows.any fun e => e.eventId = t.eventId && e.expiresAtUs ≤ micros now

def expireDue (draws : Draws) (now : DateTime) : LedgerM D Unit := do
  let s ← get
  (overdueTargets s now).forM (expireTarget draws now)

def EventRow.claimRank (e : EventRow D) : Nat :=
  match e.notification? with
  | some n =>
    match n.role with
    | .exit => 0
    | .cancel => 1
    | .tradeReady => 2
    | .setup => 3
  | none =>
    match e.lane with
    | .tradeReady => 2
    | .scheduledReport => 4
    | _ => 5

/-- `ORDER BY` of the claim query. -/
def claimsBefore (a b : TargetRow × EventRow D) : Prop :=
  a.2.claimRank < b.2.claimRank ∨ a.2.claimRank = b.2.claimRank ∧
    (a.2.expiresAtUs < b.2.expiresAtUs ∨ a.2.expiresAtUs = b.2.expiresAtUs ∧
      (a.2.occurredAtUs < b.2.occurredAtUs ∨ a.2.occurredAtUs = b.2.occurredAtUs ∧
        a.1.targetId ≤ b.1.targetId))

instance : DecidableRel (@claimsBefore D) := fun a b => by
  unfold claimsBefore
  infer_instance

def eventById (s : Ledger D) (eventId : String) : Option (EventRow D) :=
  s.events.rows.find? (·.eventId = eventId)

def dueTargets (s : Ledger D) (now : DateTime) : List (TargetRow × EventRow D) :=
  (s.targets.rows.filterMap fun t => (eventById s t.eventId).map (t, ·)).filter fun p =>
    p.1.status = .pending && p.1.nextAttemptAtUs.any (· ≤ micros now) &&
      p.1.attemptCount < p.1.maxAttempts && micros now < p.2.expiresAtUs

def selectDue (s : Ledger D) (now : DateTime) : Option (TargetRow × EventRow D) :=
  ((dueTargets s now).insertionSort claimsBefore).head?

/-- `parse_claimed_intent`: the payload in the shape its lane calls for. -/
def parseClaimedIntent (e : EventRow D) : Except LedgerError ClaimedNotificationIntent :=
  match e.lane, e.payload with
  | .tradeReady, .intent intent =>
    match intent.validate with
    | .ok _ => .ok (.tradeReady intent)
    | .error err => .error (.domain err)
  | .scheduledReport, .report intent =>
    match intent.validate, intent.lineage with
    | .ok _, .scheduledReport _ _ => .ok (.scheduledReport intent)
    | .ok _, .tradeReady _ => .error (.invalidValue "scheduled report payload lineage")
    | .error err, _ => .error (.domain err)
  | .traderEvent, .notification n =>
    match n.validate with
    | .ok _ => .ok (.traderEvent n)
    | .error err => .error (.domain err)
  | .tradeReady, _ | .scheduledReport, _ | .traderEvent, _ => .error .json
  | _, _ => .error (.invalidValue "unsupported notification lane")

def TargetRow.claimedBy (lease : OwnerLease) (claimToken : Uuid) (leaseSequence : Int)
    (now claimUntil : DateTime) (t : TargetRow) : TargetRow :=
  { t with
    status := .claimed
    leaseSequence := leaseSequence
    nextAttemptAtUs := none
    claimOwnerId := some lease.ownerId
    claimOwnerGeneration := some lease.generation
    claimToken := some claimToken.value
    claimedAtUs := some (micros now)
    leaseUntilUs := some (micros claimUntil)
    updatedAtUs := micros now }

def maxU32 : Int := 4294967295

/-- The claim a worker takes away, built from the selected rows. -/
def claimedDelivery (t : TargetRow) (e : EventRow D) (leaseSequence : Int) :
    LedgerM D ClaimedDelivery := do
  let intent ← Txn.ofExcept (parseClaimedIntent e)
  let targetKey ← liftDomain (Token.new t.targetKey "target_key")
  Txn.ensure (0 ≤ t.attemptCount + 1 ∧ t.attemptCount + 1 ≤ maxU32)
    (.invalidValue "attempt_count")
  pure
    { handle :=
        { targetId := t.targetId
          claimToken := draws.claimToken.value
          leaseSequence
          ownerGeneration := lease.generation }
      intent, targetKey
      channel := t.channel
      attemptNo := t.attemptCount + 1
      idempotencyKey := t.eventId ++ ":" ++ t.targetId }

def claimNext (now : DateTime) (claimDuration : TimeDelta) :
    LedgerM D (Option ClaimedDelivery) := do
  let claimUntil ← Txn.ofOption .invalidTimestamp (checkedAddSigned now claimDuration)
  Txn.ensure (now < claimUntil) (.invalidValue "claim duration")
  requireOwnerInTransaction lease .delivery now
  expireDue draws now
  let s ← get
  match selectDue s now with
  | none => pure none
  | some (t, e) => do
      let leaseSequence := t.leaseSequence + 1
      let changed ← updateTargets (fun r => r.targetId = t.targetId && r.status = .pending)
        (TargetRow.claimedBy lease draws.claimToken leaseSequence now claimUntil)
      Txn.ensure (changed = 1) (.claimLost t.targetId)
      let claimed ← claimedDelivery draws lease t e leaseSequence
      pure (some claimed)

/-! ## Transport -/

/-- The claim in hand still is the one on the row. -/
def holdsClaim (s : Ledger D) (status : TargetStatus) (lease : OwnerLease) (handle : ClaimHandle)
    (now : DateTime) : Bool :=
  s.targets.rows.any fun t => t.targetId = handle.targetId && t.status = status &&
    t.claimOwnerId == some lease.ownerId && t.claimOwnerGeneration == some lease.generation &&
    t.claimToken == some handle.claimToken && t.leaseSequence == handle.leaseSequence &&
    t.leaseUntilUs.any (micros now < ·)

/-- `require_claim_in_transaction` and `require_in_flight_in_transaction`, which differ in the
status they ask for. -/
def requireHeld (status : TargetStatus) (lease : OwnerLease) (handle : ClaimHandle)
    (now : DateTime) : LedgerM D Unit := do
  Txn.ensure (handle.ownerGeneration = lease.generation) (.claimLost handle.targetId)
  let s ← get
  Txn.ensure (holdsClaim s status lease handle now) (.claimLost handle.targetId)

def requireClaimInTransaction (lease : OwnerLease) (handle : ClaimHandle) (now : DateTime) :
    LedgerM D Unit :=
  requireHeld .claimed lease handle now

def requireInFlightInTransaction (lease : OwnerLease) (handle : ClaimHandle) (now : DateTime) :
    LedgerM D Unit :=
  requireHeld .inFlight lease handle now

def terminalWithoutTransport (draws : Draws) (handle : ClaimHandle) (now : DateTime)
    (status : TargetStatus) (reasonCode : String) (receipt : Receipt) : LedgerM D Unit := do
  let changed ← updateTargets
    (fun t => t.targetId = handle.targetId && t.status = .claimed &&
      t.claimToken == some handle.claimToken && t.leaseSequence == handle.leaseSequence)
    (TargetRow.terminal status reasonCode now)
  Txn.ensure (changed = 1) (.claimLost handle.targetId)
  insertReceipt (draws.receiptId handle.targetId) handle.targetId receipt now

/-- The row of a target whose transport starts. -/
def TargetRow.started (attemptId : Uuid) (now leaseUntil : DateTime) (t : TargetRow) : TargetRow :=
  { t with
    status := .inFlight
    attemptCount := t.attemptCount + 1
    currentAttemptId := some attemptId.value
    leaseUntilUs := some (micros leaseUntil)
    updatedAtUs := micros now }

/-- The attempt row of a started transport, from the updated target. -/
def attemptRow (attemptId : Uuid) (lease : OwnerLease) (claimed : ClaimedDelivery)
    (now : DateTime) (t : TargetRow) : AttemptRow where
  attemptId := attemptId.value
  targetId := t.targetId
  channel := t.channel
  claimToken := claimed.handle.claimToken
  ownerGeneration := lease.generation
  replayGeneration := t.replayGeneration
  attemptNo := claimed.attemptNo
  leaseSequence := claimed.handle.leaseSequence
  idempotencyKey := claimed.idempotencyKey
  startedAtUs := micros now

def startTransportAttempt (claimed : ClaimedDelivery) (now leaseUntil : DateTime) :
    LedgerM D String := do
  let changed ← updateTargets
    (fun t => t.targetId = claimed.handle.targetId && t.status = .claimed &&
      t.claimToken == some claimed.handle.claimToken &&
      t.leaseSequence == claimed.handle.leaseSequence &&
      t.attemptCount + 1 == claimed.attemptNo && t.attemptCount < t.maxAttempts)
    (TargetRow.started draws.attemptId now leaseUntil)
  Txn.ensure (changed = 1) (.claimLost claimed.handle.targetId)
  let s ← get
  let t ← Txn.ofOption (.claimLost claimed.handle.targetId)
    (s.targets.rows.find? fun t => t.targetId = claimed.handle.targetId && t.status = .inFlight)
  insertAttempt (attemptRow draws.attemptId lease claimed now t)
  pure draws.attemptId.value

/-- The status of a target, the expiry of its event, and whether the event is cancelled. -/
def transportState (s : Ledger D) (targetId : String) : Option (TargetStatus × Int × Bool) := do
  let t ← targetById s targetId
  let e ← eventById s t.eventId
  pure (t.status, e.expiresAtUs, s.cancellations.rows.any (·.eventId = e.eventId))

def beginTransport (claimed : ClaimedDelivery) (now : DateTime) (transportLeaseDuration : TimeDelta)
    :
    LedgerM D BeginTransport := do
  let leaseUntil ← Txn.ofOption .invalidTimestamp (checkedAddSigned now transportLeaseDuration)
  Txn.ensure (now < leaseUntil) (.invalidValue "transport lease duration")
  requireOwnerInTransaction lease .delivery now
  Txn.ensure (claimed.handle.ownerGeneration = lease.generation)
    (.claimLost claimed.handle.targetId)
  let s ← get
  let (status, expiresAtUs, cancelled) ←
    Txn.ofOption (.claimLost claimed.handle.targetId) (transportState s claimed.handle.targetId)
  if status = .cancelled then pure .cancelled
  else if status = .expired then pure .expired
  else if status ≠ .claimed then throw (.claimLost claimed.handle.targetId)
  else if cancelled then do
    terminalWithoutTransport draws claimed.handle now .cancelled "source_cancelled"
      (.cancelledBeforeTransport "source_cancelled")
    pure .cancelled
  else if expiresAtUs ≤ micros now then do
    terminalWithoutTransport draws claimed.handle now .expired "ttl_expired"
      .expiredBeforeTransport
    pure .expired
  else do
    requireClaimInTransaction lease claimed.handle now
    let attemptId ← startTransportAttempt draws lease claimed now leaseUntil
    pure (.started attemptId)

def rejectBeforeTransport (handle : ClaimHandle) (errorCode : String) (now : DateTime) :
    LedgerM D Unit := do
  Txn.ensure (isBlank errorCode = false) (.invalidValue "pre-transport error_code")
  requireOwnerInTransaction lease .delivery now
  requireClaimInTransaction lease handle now
  terminalWithoutTransport draws handle now .deadLetter errorCode
    (.permanentFailureBeforeTransport errorCode)

end SpxSpark.Ledger
