import SpxSpark.Ledger.Schema

/-!
# Receipt — what is written down when a target moves

`Receipt.fields` is the table of receipt columns for each way a target can move. `insertReceipt`
builds the wire receipt from it, checks that, and appends the row.
-/

open SpxSpark.Domain SpxSpark.Lib

namespace SpxSpark.Ledger

inductive Receipt
  | delivered (attemptId : String) (providerMessageId : Option String)
  | retryScheduled (attemptId reasonCode : String)
  | retryExhausted (attemptId reasonCode : String)
  | permanentFailureAfterTransport (attemptId reasonCode : String)
  | permanentFailureBeforeTransport (reasonCode : String)
  | cancelledBeforeTransport (reasonCode : String)
  | expiredBeforeTransport
  | transportUncertain (attemptId reasonCode : String)
  | claimRecovered

structure ReceiptFields where
  attemptId : Option String
  outcome : StoredOutcome
  attempted : Bool
  ok : Bool
  queuedForRetry : Bool
  reasonCode : String
  providerMessageId : Option String

namespace Receipt

def fields : Receipt → ReceiptFields
  | .delivered attemptId providerMessageId =>
    ⟨some attemptId, .delivered, true, true, false, "delivered", providerMessageId⟩
  | .retryScheduled attemptId reasonCode =>
    ⟨some attemptId, .retryableFailure, true, false, true, reasonCode, none⟩
  | .retryExhausted attemptId reasonCode =>
    ⟨some attemptId, .retryExhausted, true, false, false, reasonCode, none⟩
  | .permanentFailureAfterTransport attemptId reasonCode =>
    ⟨some attemptId, .permanentFailure, true, false, false, reasonCode, none⟩
  | .permanentFailureBeforeTransport reasonCode =>
    ⟨none, .permanentFailure, false, false, false, reasonCode, none⟩
  | .cancelledBeforeTransport reasonCode =>
    ⟨none, .cancelledBeforeTransport, false, false, false, reasonCode, none⟩
  | .expiredBeforeTransport =>
    ⟨none, .expiredBeforeTransport, false, false, false, "ttl_expired", none⟩
  | .transportUncertain attemptId reasonCode =>
    ⟨some attemptId, .transportUncertain, true, false, false, reasonCode, none⟩
  | .claimRecovered =>
    ⟨none, .claimRecovered, false, false, true, "claim_recovered_before_transport", none⟩

def outcome : Receipt → ReceiptOutcome
  | .delivered .. => .delivered
  | .retryScheduled .. | .claimRecovered => .retryScheduled
  | .retryExhausted .. | .permanentFailureAfterTransport .. | .permanentFailureBeforeTransport .. =>
    .deadLetter
  | .cancelledBeforeTransport _ => .cancelled
  | .expiredBeforeTransport => .expired
  | .transportUncertain .. => .uncertain

def attemptId (r : Receipt) : Option String := r.fields.attemptId

theorem wire_outcome (r : Receipt) : r.fields.outcome.wire = r.outcome := by
  cases r <;> rfl

end Receipt

/-- A contract error inside a transaction. -/
def liftDomain {D α : Type} : Except DomainError α → LedgerM D α
  | .ok a => pure a
  | .error e => throw (.domain e)

/-- `Option<&str>` to `Option<Token>`. -/
def tokenOption (field : String) : Option String → Except DomainError (Option Token)
  | none => .ok none
  | some value => do
      let token ← Token.new value field
      .ok (some token)

/-- The receipt that leaves the ledger, built from the target's own row. -/
def wireReceipt (receiptId : Uuid) (target : TargetRow) (receipt : Receipt) (now : DateTime) :
    Except DomainError DeliveryReceiptV1 := do
  let targetId ← Token.new target.targetId "target_id"
  let intentId ← Token.new target.eventId "intent_id"
  let targetKey ← Token.new target.targetKey "target_key"
  let providerMessageId ← tokenOption "provider_message_id" receipt.fields.providerMessageId
  let errorCode ← tokenOption "error_code"
    (if receipt.outcome = .delivered then none else some receipt.fields.reasonCode)
  let wire : DeliveryReceiptV1 :=
    { schemaVersion := deliveryReceiptSchemaVersion
      receiptId, targetId, intentId, targetKey
      channel := target.channel
      outcome := receipt.outcome
      attemptedAt := now
      providerMessageId, errorCode }
  wire.validate
  .ok wire

def receiptRow (receiptId : Uuid) (target : TargetRow) (receipt : Receipt) (now : DateTime)
    (wire : DeliveryReceiptV1) : ReceiptRow where
  receiptId := receiptId.value
  targetId := target.targetId
  intentId := target.eventId
  targetKey := target.targetKey
  channel := target.channel
  attemptId := receipt.fields.attemptId
  outcome := receipt.fields.outcome
  attempted := receipt.fields.attempted
  ok := receipt.fields.ok
  queuedForRetry := receipt.fields.queuedForRetry
  reasonCode := receipt.fields.reasonCode
  providerMessageId := receipt.fields.providerMessageId
  occurredAtUs := micros now
  payload := wire

def targetById {D : Type} (s : Ledger D) (targetId : String) : Option TargetRow :=
  s.targets.rows.find? (·.targetId = targetId)

def insertReceipt {D : Type} (receiptId : Uuid) (targetId : String) (receipt : Receipt)
    (now : DateTime) : LedgerM D Unit := do
  let s ← get
  let target ← queryRow (targetById s targetId)
  let wire ← liftDomain (wireReceipt receiptId target receipt now)
  insertReceiptRow (receiptRow receiptId target receipt now wire)

end SpxSpark.Ledger
