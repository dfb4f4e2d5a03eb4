import Mathlib.Data.Char
import Mathlib.Data.List.Lex
import SpxSpark.Lib.Table
import SpxSpark.Strategy.Contract

/-!
# OperationalTables — events, decisions, their legs and outcomes

The four tables of the operational history with their keys and CHECKs, and the column of the
notification tables that refers to them.
-/

namespace SpxSpark.Infrastructure

open Lib Strategy

/-! ## Numbers -/

/-- What a REAL column holds. -/
inductive SqlReal
  | finite (value : ℚ)
  | infinite (negative : Bool)
  deriving DecidableEq

/-! ## Rows -/

structure EventRow where
  eventKey : Text
  eventType : Text
  sessionDate : Text
  sourceAt : Text
  availableAt : Text
  receivedAt : Option Text
  phase : Option Text
  direction : Option Text
  dataQuality : Text
  schemaVersion : Int
  attributesJson : Text
  createdAt : Text
  deriving DecidableEq

structure DecisionRowOf (Real : Type) where
  decisionId : Text
  eventKey : Option Text
  featureSnapshotId : Option Text
  sessionDate : Option Text
  strategyName : Text
  strategyVersion : Text
  decisionAt : Text
  availableAt : Text
  status : Text
  action : Text
  side : Text
  reason : Option Text
  gammaRegime : Option Text
  attributesJson : Text
  cardOpportunity : Option Text
  cardDirection : Option Text
  cardSetup : Option Text
  cardMode : Option Text
  cardTrigger : Option Real
  createdAt : Text
  deriving DecidableEq

structure LegRowOf (Real : Type) where
  decisionId : Text
  legIndex : Nat
  instrumentId : Text
  rightCode : Option Text
  expiry : Option Text
  strike : Option Real
  quantity : Option Real
  bid : Option Real
  ask : Option Real
  delta : Option Real
  gamma : Option Real
  theta : Option Real
  vega : Option Real
  quoteSourceAt : Text
  quoteAvailableAt : Text
  attributesJson : Text
  createdAt : Text
  deriving DecidableEq

structure OutcomeRowOf (Real : Type) where
  outcomeId : Text
  eventKey : Text
  decisionId : Option Text
  horizonMinutes : Int
  status : Text
  targetAt : Text
  sampledAt : Option Text
  hypothesisDirection : Option Text
  spxReturnBps : Option Real
  spxMfeBps : Option Real
  spxMaeBps : Option Real
  optionReturnBps : Option Real
  optionPnl : Option Real
  attributesJson : Text
  createdAt : Text
  deriving DecidableEq

abbrev DecisionRow := DecisionRowOf SqlReal
abbrev LegRow := LegRowOf SqlReal
abbrev OutcomeRow := OutcomeRowOf SqlReal

/-! ## Tables -/

def eventsSchema : Schema EventRow Text where
  check row := 0 < row.schemaVersion && row.sourceAt ≤ row.availableAt
  key row := row.eventKey
  clash a b := a == b

def decisionsSchema : Schema DecisionRow Text where
  check row := row.availableAt ≤ row.decisionAt
  key row := row.decisionId
  clash a b := a == b

def decisionLegsSchema : Schema LegRow (Text × Nat) where
  check row := row.quoteSourceAt ≤ row.quoteAvailableAt
  key row := (row.decisionId, row.legIndex)
  clash a b := a == b

/-- The primary key, and `ux_outcomes_event_decision_horizon`, where NULL equals nothing. -/
def outcomesSchema : Schema OutcomeRow (Text × Text × Option Text × Int) where
  check row := 0 < row.horizonMinutes
  key row := (row.outcomeId, row.eventKey, row.decisionId, row.horizonMinutes)
  clash a b := a.1 == b.1 || (a.2 == b.2 && a.2.2.1.isSome)

/-- The operational history, and the `correlation_id`s of the notification events. -/
structure Database where
  events : Table eventsSchema
  decisions : Table decisionsSchema
  decisionLegs : Table decisionLegsSchema
  outcomes : Table outcomesSchema
  correlationIds : List (Option Text)

def Database.empty : Database where
  events := .empty
  decisions := .empty
  decisionLegs := .empty
  outcomes := .empty
  correlationIds := []

section
variable {database : Database}

theorem event_of_key {a b : EventRow} (ha : a ∈ database.events.rows)
    (hb : b ∈ database.events.rows) (h : a.eventKey = b.eventKey) : a = b :=
  Table.eq_of_clash ha hb (fun _ _ => Bool.beq_comm) (beq_iff_eq.mpr h)

theorem decision_of_key {a b : DecisionRow} (ha : a ∈ database.decisions.rows)
    (hb : b ∈ database.decisions.rows) (h : a.decisionId = b.decisionId) : a = b :=
  Table.eq_of_clash ha hb (fun _ _ => Bool.beq_comm) (beq_iff_eq.mpr h)

theorem outcomes_clash_symm (x y : Text × Text × Option Text × Int) :
    outcomesSchema.clash x y = outcomesSchema.clash y x := by
  show (x.1 == y.1 || (x.2 == y.2 && x.2.2.1.isSome))
    = (y.1 == x.1 || (y.2 == x.2 && y.2.2.1.isSome))
  rw [Bool.beq_comm (a := x.1), Bool.beq_comm (a := x.2)]
  by_cases hkey : y.2 = x.2
  · rw [hkey]
  · rw [beq_eq_false_iff_ne.mpr hkey, Bool.false_and, Bool.false_and]

theorem outcome_of_key {a b : OutcomeRow} (ha : a ∈ database.outcomes.rows)
    (hb : b ∈ database.outcomes.rows) (h : a.outcomeId = b.outcomeId) : a = b :=
  Table.eq_of_clash ha hb outcomes_clash_symm (by
    show (a.outcomeId == b.outcomeId || _) = true
    rw [h, beq_self_eq_true, Bool.true_or])

end

/-! ## `DELETE … WHERE` -/

/-- Drops the rows that match. -/
def deleteWhere {Row Key : Type} {S : Schema Row Key} (table : Table S) (p : Row → Bool) :
    Table S where
  rows := table.rows.filter fun row => !p row
  checked row hrow := table.checked row (List.mem_filter.mp hrow).1
  distinct := table.distinct.filter _

theorem mem_deleteWhere {Row Key : Type} {S : Schema Row Key} {table : Table S} {p : Row → Bool}
    {row : Row} : row ∈ (deleteWhere table p).rows ↔ row ∈ table.rows ∧ p row = false := by
  rw [deleteWhere, List.mem_filter, Bool.not_eq_true']

end SpxSpark.Infrastructure
