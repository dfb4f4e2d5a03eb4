import SpxSpark.Domain.Delivery

/-!
# OperatorNotification — operator-facing lifecycle messages

An operator notification names its opportunity, generation and role, and carries a body of five
fixed sections. The section check is one pass over the lines of the body.
-/

namespace SpxSpark.Domain

def operatorNotificationSchemaVersion : String := "operator_notification.v1"
def operatorNotificationCancellationSchemaVersion : String :=
  "operator_notification_cancellation.v1"

def maxOperatorBodyBytes : Nat := 65536

def operatorBodySections : List String :=
  ["## Desk View", "## Execution", "## Risk", "## Targets", "## Data Quality"]

inductive OperatorNotificationRole
  | setup
  | tradeReady
  | cancel
  | exit
  deriving DecidableEq

structure OperatorNotificationV1 where
  schemaVersion : String
  eventId : Token
  semanticId : Token
  opportunityId : Token
  generation : Nat
  role : OperatorNotificationRole
  occurredAt : DateTime
  expiresAt : DateTime
  title : Token
  body : String
  targets : List NotificationTargetV1
  automaticOrdering : Bool
  deriving DecidableEq

/-- The line read so far, reversed, without the `\r` that a `\r\n` ending leaves. -/
def stripCr : List Char → List Char
  | '\r' :: line => line
  | line => line

/-- `str::lines`; `line` holds the characters of the current line, reversed. -/
def linesFrom : List Char → List Char → List (List Char)
  | [], [] => []
  | [], line => [line.reverse]
  | c :: rest, line =>
    if c = '\n' then (stripCr line).reverse :: linesFrom rest [] else linesFrom rest (c :: line)

def lines (text : String) : List (List Char) := linesFrom text.toList []

def invalidOperatorBodySections : DomainError :=
  .invalid "body" "must contain the five ordered, unique, non-empty operator sections"

/-- One line of the body; the state is the section index and whether that section has content. -/
def scanSectionLine (state : Nat × Bool) (line : List Char) : Except DomainError (Nat × Bool) :=
  if ['#', '#', ' '].isPrefixOf line then do
    require (0 < state.1 → state.2 = true) invalidOperatorBodySections
    require (operatorBodySections[state.1]? = some (String.ofList line))
      invalidOperatorBodySections
    .ok (state.1 + 1, false)
  else if line.all isWhitespace then .ok state
  else do
    require (state.1 ≠ 0) invalidOperatorBodySections
    .ok (state.1, true)

def validateOperatorBodySections (body : String) : Except DomainError Unit := do
  let state ← (lines body).foldlM scanSectionLine (0, false)
  require (state.1 = operatorBodySections.length ∧ state.2 = true) invalidOperatorBodySections

def OperatorNotificationV1.validate (n : OperatorNotificationV1) : Except DomainError Unit := do
  requireSchema n.schemaVersion operatorNotificationSchemaVersion "operator notification"
  require (n.occurredAt < n.expiresAt)
    (.timeOrder "operator notification expires_at must be after occurred_at")
  require (isBlank n.body = false) (.empty "body")
  require (containsNul n.body = false) (.invalid "body" "NUL is forbidden")
  require (n.body.utf8ByteSize ≤ maxOperatorBodyBytes)
    (.invalid "body" "must not exceed 65536 UTF-8 bytes")
  validateOperatorBodySections n.body
  require (n.targets ≠ []) (.invalid "targets" "at least one delivery target is required")
  uniqueTokens (n.targets.map (·.key)) "target key"
  require (n.automaticOrdering = false)
    (.invalid "automatic_ordering" "operator notifications cannot authorize automatic ordering")

/-- Durable cancellation fence for one exact event. -/
structure OperatorNotificationCancellationV1 where
  schemaVersion : String
  eventId : Token
  cancelledAt : DateTime
  reasonCode : Token
  deriving DecidableEq

def OperatorNotificationCancellationV1.validate (c : OperatorNotificationCancellationV1) :
    Except DomainError Unit :=
  requireSchema c.schemaVersion operatorNotificationCancellationSchemaVersion
    "operator notification cancellation"

end SpxSpark.Domain
