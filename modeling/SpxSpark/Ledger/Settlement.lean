import SpxSpark.Ledger.Delivery

/-!
# Settlement — closing an attempt

`settle` closes the one attempt a claim has in flight. The plan says where the target goes: a
retryable failure goes back to pending while attempts are left.
-/

open SpxSpark.Domain SpxSpark.Lib

namespace SpxSpark.Ledger

variable {D : Type}

structure SettlementPlan where
  status : TargetStatus
  nextAttempt : Option Int
  terminal : Option Int
  delivered : Option Int
  errorCode : String

def validateSettlement (attemptId : String) (settlement : Settlement) (now : DateTime) :
    Except LedgerError Unit := do
  require (isBlank attemptId = false) (.invalidValue "attempt_id")
  match settlement with
  | .delivered providerMessageId =>
    require (providerMessageId.all fun id => !isBlank id) (.invalidValue "provider_message_id")
  | .retryable errorCode retryAt =>
    require (isBlank errorCode = false ∧ now < retryAt) (.invalidValue "retry settlement")
  | .permanentFailure errorCode | .transportUncertain errorCode =>
    require (isBlank errorCode = false) (.invalidValue "settlement error_code")

/-- `attempt_matches_current_target`, the function: the stored attempt of this claim. -/
def attemptMatchesCurrentTarget (s : Ledger D) (handle : ClaimHandle) (attemptId : String) : Bool :=
  s.attempts.rows.any fun a =>
    a.attemptId = attemptId && a.targetId = handle.targetId &&
      a.claimToken = handle.claimToken && a.ownerGeneration = handle.ownerGeneration &&
      a.leaseSequence = handle.leaseSequence &&
      s.targets.rows.any fun t => t.targetId = a.targetId && t.status = .inFlight &&
        t.currentAttemptId == some a.attemptId && t.channel = a.channel &&
        t.claimOwnerGeneration == some a.ownerGeneration &&
        t.replayGeneration = a.replayGeneration && t.attemptCount = a.attemptNo &&
        a.idempotencyKey = t.eventId ++ ":" ++ t.targetId &&
        t.claimedAtUs.any (· ≤ a.startedAtUs) && t.leaseUntilUs.any (a.startedAtUs < ·)

/-- A settlement after which the target does not come back. -/
def terminalPlan (status : TargetStatus) (errorCode : String) (now : DateTime) : SettlementPlan :=
  { status, errorCode
    nextAttempt := none
    terminal := some (micros now)
    delivered := none }

/-- A settlement after which the target is due again at `retryAt`. -/
def retryPlan (errorCode : String) (retryAt : DateTime) : SettlementPlan :=
  { status := .pending
    nextAttempt := some (micros retryAt)
    terminal := none
    delivered := none
    errorCode }

def settlementPlan (targetId : String) (settlement : Settlement) (now : DateTime) :
    LedgerM D SettlementPlan :=
  match settlement with
  | .delivered _ =>
    pure { terminalPlan .delivered "delivered" now with delivered := some (micros now) }
  | .retryable errorCode retryAt => do
      let s ← get
      let t ← queryRow (targetById s targetId)
      if t.maxAttempts ≤ t.attemptCount then pure (terminalPlan .deadLetter errorCode now)
      else pure (retryPlan errorCode retryAt)
  | .permanentFailure errorCode => pure (terminalPlan .deadLetter errorCode now)
  | .transportUncertain errorCode => pure (terminalPlan .uncertain errorCode now)

/-- The answer for the status a plan moves the target to. -/
def dispositionOf : TargetStatus → Except LedgerError SettlementWrite
  | .delivered => .ok .delivered
  | .pending => .ok .retryScheduled
  | .deadLetter => .ok .deadLetter
  | .uncertain => .ok .uncertain
  | _ => .error (.invalidValue "settlement target status")

def settlementReceipt (attemptId : String) :
    Settlement → SettlementWrite → Except LedgerError Receipt
  | .delivered providerMessageId, .delivered => .ok (.delivered attemptId providerMessageId)
  | .retryable errorCode _, .retryScheduled => .ok (.retryScheduled attemptId errorCode)
  | .retryable errorCode _, .deadLetter => .ok (.retryExhausted attemptId errorCode)
  | .permanentFailure errorCode, .deadLetter =>
    .ok (.permanentFailureAfterTransport attemptId errorCode)
  | .transportUncertain errorCode, .uncertain => .ok (.transportUncertain attemptId errorCode)
  | _, _ => .error (.invalidValue "settlement disposition mismatch")

def TargetRow.settled (plan : SettlementPlan) (now : DateTime) (t : TargetRow) : TargetRow :=
  { t.release with
    status := plan.status
    nextAttemptAtUs := plan.nextAttempt
    deliveredAtUs := plan.delivered
    terminalAtUs := plan.terminal
    lastErrorCode := some plan.errorCode
    updatedAtUs := micros now }

def settle (draws : Draws) (lease : OwnerLease) (handle : ClaimHandle) (attemptId : String)
    (settlement : Settlement) (now : DateTime) : LedgerM D SettlementWrite := do
  Txn.ofExcept (validateSettlement attemptId settlement now)
  requireOwnerInTransaction lease .delivery now
  requireInFlightInTransaction lease handle now
  let s ← get
  Txn.ensure (attemptMatchesCurrentTarget s handle attemptId) (.claimLost handle.targetId)
  let plan ← settlementPlan handle.targetId settlement now
  let disposition ← Txn.ofExcept (dispositionOf plan.status)
  let changed ← updateTargets
    (fun t => t.targetId = handle.targetId && t.status = .inFlight &&
      t.claimToken == some handle.claimToken && t.leaseSequence == handle.leaseSequence &&
      t.currentAttemptId == some attemptId)
    (TargetRow.settled plan now)
  Txn.ensure (changed = 1) (.claimLost handle.targetId)
  let receipt ← Txn.ofExcept (settlementReceipt attemptId settlement disposition)
  insertReceipt (draws.receiptId handle.targetId) handle.targetId receipt now
  pure disposition

end SpxSpark.Ledger
