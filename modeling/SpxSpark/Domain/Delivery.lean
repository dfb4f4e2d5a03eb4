import SpxSpark.Domain.Validation

/-!
# Delivery — notification intents, their targets, and delivery receipts

Two intent contracts share one lifetime and target check. A receipt's optional fields depend on its
outcome; `DeliveryReceiptV1.validate` is that table.
-/

namespace SpxSpark.Domain

def notificationIntentSchemaVersion : String := "notification_intent.v1"
def notificationIntentV2SchemaVersion : String := "notification_intent.v2"
def deliveryReceiptSchemaVersion : String := "delivery_receipt.v1"

inductive DeliveryChannel
  | bark
  | feishu
  | webhook
  deriving DecidableEq

structure NotificationTargetV1 where
  key : Token
  channel : DeliveryChannel
  deriving DecidableEq

structure DeskMessageV1 where
  title : Token
  deskView : Token
  execution : Token
  risk : Token
  targets : Token
  dataQuality : Token
  deriving DecidableEq

structure DeskMessageV2 where
  title : Token
  deskView : Token
  location : Token
  structure' : Token
  primaryPath : Token
  alternativePath : Token
  targets : Token
  execution : Token
  dataQuality : Token
  deriving DecidableEq

/-- Where a V2 intent comes from: a strategy decision, or a report projection and its slot. -/
inductive NotificationLineageV2
  | tradeReady (decisionId : Token)
  | scheduledReport (sourceProjectionId slot : Token)
  deriving DecidableEq

structure NotificationIntentV1 where
  schemaVersion : String
  intentId : Token
  semanticId : Token
  decisionId : Token
  createdAt : DateTime
  expiresAt : DateTime
  message : DeskMessageV1
  targets : List NotificationTargetV1
  maxAttempts : Nat
  deriving DecidableEq

structure NotificationIntentV2 where
  schemaVersion : String
  intentId : Token
  semanticId : Token
  lineage : NotificationLineageV2
  createdAt : DateTime
  expiresAt : DateTime
  message : DeskMessageV2
  targets : List NotificationTargetV1
  maxAttempts : Nat
  deriving DecidableEq

/-- Lifetime, targets and retry bound, checked alike for both intent contracts. -/
def validateIntentCommon (createdAt expiresAt : DateTime) (targets : List NotificationTargetV1)
    (maxAttempts : Nat) : Except DomainError Unit := do
  require (createdAt < expiresAt)
    (.timeOrder "notification expires_at must be after created_at")
  require (targets ≠ []) (.invalid "targets" "at least one delivery target is required")
  uniqueTokens (targets.map (·.key)) "target key"
  require (1 ≤ maxAttempts ∧ maxAttempts ≤ 10) (.invalid "max_attempts" "must be within 1..=10")

theorem validateIntentCommon_ok {c x : DateTime} {ts : List NotificationTargetV1} {m : Nat}
    {u : Unit} : validateIntentCommon c x ts m = .ok u ↔
      c < x ∧ ts ≠ [] ∧ (ts.map (·.key)).Nodup ∧ 1 ≤ m ∧ m ≤ 10 := by
  simp [validateIntentCommon, bind_ok, uniqueTokens_ok]

def NotificationIntentV1.validate (intent : NotificationIntentV1) : Except DomainError Unit := do
  requireSchema intent.schemaVersion notificationIntentSchemaVersion "notification intent"
  validateIntentCommon intent.createdAt intent.expiresAt intent.targets intent.maxAttempts

def NotificationIntentV2.validate (intent : NotificationIntentV2) : Except DomainError Unit := do
  requireSchema intent.schemaVersion notificationIntentV2SchemaVersion "notification intent"
  validateIntentCommon intent.createdAt intent.expiresAt intent.targets intent.maxAttempts

theorem NotificationIntentV1.maxAttempts_pos (intent : NotificationIntentV1)
    (hv : intent.validate = .ok ()) : 0 < intent.maxAttempts := by
  simp only [validate, requireSchema, require_bind_ok] at hv
  exact (validateIntentCommon_ok.mp hv.2).2.2.2.1

theorem NotificationIntentV2.maxAttempts_pos (intent : NotificationIntentV2)
    (hv : intent.validate = .ok ()) : 0 < intent.maxAttempts := by
  simp only [validate, requireSchema, require_bind_ok] at hv
  exact (validateIntentCommon_ok.mp hv.2).2.2.2.1

/-! ## Receipts -/

inductive ReceiptOutcome
  | delivered
  | retryScheduled
  | deadLetter
  | cancelled
  | expired
  | uncertain
  deriving DecidableEq

structure DeliveryReceiptV1 where
  schemaVersion : String
  receiptId : Token
  targetId : Token
  intentId : Token
  targetKey : Token
  channel : DeliveryChannel
  outcome : ReceiptOutcome
  attemptedAt : DateTime
  providerMessageId : Option Token
  errorCode : Option Token

def DeliveryReceiptV1.validate (receipt : DeliveryReceiptV1) : Except DomainError Unit := do
  requireSchema receipt.schemaVersion deliveryReceiptSchemaVersion "delivery receipt"
  match receipt.outcome with
  | .delivered =>
    require (receipt.errorCode = none)
      (.invalid "error_code" "delivered receipt cannot contain an error")
  | _ => do
      require (receipt.errorCode ≠ none)
        (.invalid "error_code" "failed receipt requires a typed error code")
      require (receipt.providerMessageId = none)
        (.invalid "provider_message_id"
          "only a delivered receipt can contain a provider message id")

end SpxSpark.Domain
