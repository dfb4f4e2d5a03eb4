import SpxSpark.Domain.OperatorNotification
import SpxSpark.Domain.Strategy
import SpxSpark.Lib.Table
import Mathlib.Data.List.Sort

/-!
# Model — leases, claims, outcomes and errors of the operational ledger

The values callers hold (`OwnerLease`, `ClaimHandle`, `ClaimedDelivery`), the answers they get, and
the errors they see. Everything stored is in `Ledger.Schema`.
-/

namespace SpxSpark.Ledger

open Domain Lib

/-- `DateTime::timestamp_micros`: the whole microseconds before an instant. -/
def micros (t : DateTime) : Int := t / 1000

theorem micros_mono {a b : DateTime} (h : a ≤ b) : micros a ≤ micros b :=
  Int.ediv_le_ediv (by decide) h

inductive OwnerRole
  | core
  | report
  | delivery
  deriving DecidableEq

structure OwnerLease where
  role : OwnerRole
  ownerId : String
  generation : Int
  leaseUntil : DateTime
  deriving DecidableEq

inductive TargetStatus
  | pending
  | claimed
  | inFlight
  | delivered
  | deadLetter
  | cancelled
  | expired
  | uncertain
  deriving DecidableEq

structure ClaimHandle where
  targetId : String
  claimToken : String
  leaseSequence : Int
  ownerGeneration : Int
  deriving DecidableEq

inductive ClaimedNotificationIntent
  | tradeReady (intent : NotificationIntentV1)
  | scheduledReport (intent : NotificationIntentV2)
  | traderEvent (notification : OperatorNotificationV1)
  deriving DecidableEq

structure ClaimedDelivery where
  handle : ClaimHandle
  intent : ClaimedNotificationIntent
  targetKey : Token
  channel : DeliveryChannel
  attemptNo : Int
  idempotencyKey : String
  deriving DecidableEq

inductive IngressWrite
  | inserted
  | duplicate
  deriving DecidableEq

inductive IngressCheck
  | new
  | duplicate
  deriving DecidableEq

inductive PersistWrite
  | inserted
  | duplicate
  deriving DecidableEq

inductive OperatorNotificationWrite
  | inserted
  | duplicate
  | semanticSuppressed
  deriving DecidableEq

inductive OperatorWrite
  | applied
  | alreadyAcknowledged
  deriving DecidableEq

inductive BeginTransport
  | started (attemptId : String)
  | cancelled
  | expired
  deriving DecidableEq

inductive Settlement
  | delivered (providerMessageId : Option String)
  | retryable (errorCode : String) (retryAt : DateTime)
  | permanentFailure (errorCode : String)
  | transportUncertain (errorCode : String)

inductive SettlementWrite
  | delivered
  | retryScheduled
  | deadLetter
  | uncertain
  deriving DecidableEq

structure RecoverySummary where
  requeued : Nat
  uncertain : Nat
  deriving DecidableEq

/-- What the database answers instead of rows. -/
inductive SqliteError
  | constraint (violated : ConstraintError)
  | raised (message : String)
  | queryReturnedNoRows
  deriving DecidableEq

inductive LedgerError
  | sqlite (error : SqliteError)
  | domain (error : DomainError)
  | json
  | ownerLeaseLost (role : OwnerRole)
  | ownerRoleMismatch (expected actual : OwnerRole)
  | claimLost (targetId : String)
  | identityCollision (identity : String)
  | invalidTimestamp
  | invalidValue (what : String)
  deriving DecidableEq

/-- The text of a random identifier: always an acceptable token. -/
abbrev Uuid := Token

/-- The identifiers one operation draws: its claim token, attempt or action id, and one receipt id
for each target it moves. -/
structure Draws where
  claimToken : Uuid
  attemptId : Uuid
  actionId : Uuid
  receiptId : String → Uuid

/-- Rows in ascending order of a text column. -/
def orderBy {α : Type} (column : α → String) (rows : List α) : List α :=
  rows.insertionSort fun a b => column a ≤ column b

@[simp]
theorem mem_orderBy {α : Type} {column : α → String} {rows : List α} {a : α} :
    a ∈ orderBy column rows ↔ a ∈ rows :=
  List.mem_insertionSort _

end SpxSpark.Ledger
