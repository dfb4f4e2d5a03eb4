import SpxSpark.Ledger.Delivery

/-!
# Operator — what an operator may do to a failed target

An acknowledgement records that a failure was seen; a replay puts an unexpired failure back to
pending under a new replay generation with its attempts counted from zero.
-/

open SpxSpark.Domain SpxSpark.Lib

namespace SpxSpark.Ledger

variable {D : Type}

def validateOperatorInput (targetId actor reasonCode : String) (now : DateTime) : Bool :=
  !isBlank targetId && !containsNul targetId && !isBlank actor && actor.utf8ByteSize ≤ 128 &&
    !containsNul actor && !isBlank reasonCode && reasonCode.utf8ByteSize ≤ 128 &&
    !containsNul reasonCode && 0 < micros now

def insertOperatorAction (draws : Draws) (targetId : String) (action : OperatorAction)
    (reasonCode actor : String) (now : DateTime) : LedgerM D Unit :=
  insertInto (·.operatorActions) (fun t s => { s with operatorActions := t })
    { actionId := draws.actionId.value
      targetId, action, reasonCode, actor
      occurredAtUs := micros now }

def TargetRow.acknowledged (now : DateTime) (t : TargetRow) : TargetRow :=
  { t with operatorAckAtUs := some (micros now), updatedAtUs := micros now }

def acknowledgeFailure (draws : Draws) (targetId actor reasonCode : String) (now : DateTime) :
    LedgerM D OperatorWrite := do
  Txn.ensure (validateOperatorInput targetId actor reasonCode now) (.invalidValue "operator action")
  let s ← get
  let state ← Txn.ofOption (.invalidValue "unknown target_id") (targetById s targetId)
  Txn.ensure (TargetRow.isFailure state.status)
    (.invalidValue "only terminal failures can be acknowledged")
  if state.operatorAckAtUs.isSome then pure .alreadyAcknowledged
  else do
    let changed ← updateTargets
      (fun t => t.targetId = targetId && t.operatorAckAtUs.isNone) (TargetRow.acknowledged now)
    Txn.ensure (changed = 1) (.invalidValue "operator acknowledgement")
    insertOperatorAction draws targetId .acknowledge reasonCode actor now
    pure .applied

/-- The row a replayed failure is put back to. -/
def TargetRow.replayed (now : DateTime) (t : TargetRow) : TargetRow :=
  { t with
    status := .pending
    attemptCount := 0
    replayGeneration := t.replayGeneration + 1
    nextAttemptAtUs := some (micros now)
    deliveredAtUs := none
    terminalAtUs := none
    operatorAckAtUs := none
    lastErrorCode := some "operator_replay"
    updatedAtUs := micros now }

/-- `dead_letter` or `uncertain`. -/
def TargetStatus.replayable (status : TargetStatus) : Bool :=
  status == .deadLetter || status == .uncertain

def replayFailure (draws : Draws) (targetId actor reasonCode : String) (now : DateTime) :
    LedgerM D Unit := do
  Txn.ensure (validateOperatorInput targetId actor reasonCode now) (.invalidValue "operator action")
  let s ← get
  let (status, expiresAtUs, _) ←
    Txn.ofOption (.invalidValue "unknown target_id") (transportState s targetId)
  Txn.ensure status.replayable
    (.invalidValue "only dead_letter or uncertain targets can be replayed")
  Txn.ensure (micros now < expiresAtUs) (.invalidValue "expired target cannot be replayed")
  let changed ← updateTargets (fun t => t.targetId = targetId && t.status.replayable)
    (TargetRow.replayed now)
  Txn.ensure (changed = 1) (.invalidValue "operator replay transition")
  insertOperatorAction draws targetId .replay reasonCode actor now

end SpxSpark.Ledger
