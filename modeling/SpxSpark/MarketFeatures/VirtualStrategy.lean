import Mathlib.Data.List.Sort
import SpxSpark.Lib.Run
import SpxSpark.Lib.Text
import SpxSpark.MarketFeatures.VirtualEntry

/-!
# VirtualStrategy — one tick of the virtual strategy

The state file holds the active episode, the trade intent that waits for its entry, the signals that
were used up and the last entry decision of each.
-/

namespace SpxSpark.MarketFeatures

open Lib

/-! ## The state -/

structure Consumption where
  id : String
  consumedAt : Instant

/-- `_MAX_CONSUMED_SIGNALS`. -/
def maxConsumedSignals : ℕ := 200

/-- `entry_decisions` holds this of the last decision on a signal. Its signature is a digest of the
status, the flag and the reasons. -/
structure EntryRow where
  status : DecisionStatus
  terminal : Bool
  lastBlockReasons : List String
  lastEvaluatedAt : Instant
  decisionId : String

structure VirtualState where
  active : Option Episode := none
  pendingTradeIntent : Option TradeIntent := none
  consumedSignals : List Consumption := []
  entryDecisions : List (String × EntryRow) := []
  lastClosed : Option ClosedEpisode := none
  lastCensored : Option CensoredEpisode := none

/-- The arguments of one call, with the ledger it may ask for receipts. -/
structure StrategyTick where
  now : Instant
  policy : StrategyPolicy
  market : MarketView
  tradeIntent : TradeIntent
  gthSignal : GthSignal
  newEntriesAllowed : Bool
  expectedTradeIntentPolicyVersion : Option String
  rustTraderNotificationOwner : Bool
  receipt : String → ReceiptLookup

/-- A line of the audit journal. -/
inductive StrategyEvent
  | entryDecision (decision : EntryDecision)
  | superseded (old : Episode)
  | opened (e : Episode)
  | degraded (e : Episode)
  | recovered (e : Episode)
  | censored (record : CensoredEpisode)
  | closed (record : ClosedEpisode)

/-! ## Consumed signals -/

/-- `load_consumed_signals`. -/
def loadConsumedSignals (stored : List Consumption) : List Consumption :=
  (stored.foldl (fun seen item =>
    if strip item.id = "" ∨ strip item.id ∈ seen.map (·.id) then seen
    else seen ++ [⟨strip item.id, item.consumedAt⟩]) []).rtake maxConsumedSignals

/-- `mark_signal_consumed`. -/
def markSignalConsumed (consumed : List Consumption) (signalId : String) (now : Instant) :
    List Consumption :=
  if strip signalId = "" ∨ strip signalId ∈ consumed.map (·.id) then consumed
  else
    let grown := consumed ++ [⟨strip signalId, now⟩]
    if maxConsumedSignals < grown.length then grown.tail else grown

/-! ## Entry decisions -/

/-- `entry_decisions[key] = row`. -/
def setRow (rows : List (String × EntryRow)) (key : String) (row : EntryRow) :
    List (String × EntryRow) :=
  if key ∈ rows.map (·.1) then rows.map fun r => if r.1 = key then (key, row) else r
  else rows ++ [(key, row)]

/-- `_record_entry_decision`: the journal line, if any, and the rows. -/
def recordEntryDecision (rows : List (String × EntryRow)) (decision : EntryDecision) :
    List StrategyEvent × List (String × EntryRow) :=
  let key := decision.sourceSignalId.getD decision.decisionId
  let prior := rows.lookup key
  if key = "" ∨ prior.any (·.terminal) then ([], rows)
  else
    let reasons := normalizeBlockReasons decision.blockReasons
    let reasons :=
      if decision.terminal ∧ "signal_expired" ∈ reasons then
        normalizeBlockReasons ((prior.map (·.lastBlockReasons)).getD [] ++ reasons)
      else reasons
    let repeated := prior.any fun row =>
      row.status = decision.status ∧ row.terminal = decision.terminal ∧
        row.lastBlockReasons = reasons
    (if repeated then [] else [.entryDecision { decision with blockReasons := reasons }],
      setRow rows key
        ⟨decision.status, decision.terminal, reasons, decision.evaluatedAt, decision.decisionId⟩)

/-- `_trim_entry_decisions`. -/
def trimEntryDecisions (rows : List (String × EntryRow)) : List (String × EntryRow) :=
  (rows.insertionSort fun a b => a.2.lastEvaluatedAt ≤ b.2.lastEvaluatedAt).rtake 200

/-- `_pending_trade_intent_provider_censored_decision`. -/
def providerCensoredDecision (pending : TradeIntent) (now : Instant) : EntryDecision where
  decisionId := "virtual-entry:" ++ (nonEmpty pending.intentId).getD "unavailable"
  sourceSignalId := nonEmpty pending.intentId
  sourceKind := .tradeIntent
  status := .blocked
  terminal := true
  blockReasons := ["provider_entry_control_blocked_until_expiry"]
  validUntil := pending.envelope.validUntil.parse
  evaluatedAt := now
  shadowExecutionLabel := some .censored

/-- `_pending_trade_intent_superseded_decision`. -/
def supersededDecision (pending replacement : TradeIntent) (now : Instant) : EntryDecision where
  decisionId := "virtual-entry:" ++ (nonEmpty pending.intentId).getD "unavailable"
  sourceSignalId := nonEmpty pending.intentId
  sourceKind := .tradeIntent
  status := .blocked
  terminal := true
  blockReasons := ["superseded_by_new_trade_intent"]
  validUntil := pending.envelope.validUntil.parse
  evaluatedAt := now
  shadowExecutionLabel := some .noFill
  supersededBy := nonEmpty replacement.intentId

/-! ## The tick -/

/-- The local variables of one call, and the journal lines written so far. -/
structure Working where
  active : Option Episode
  pending : Option TradeIntent
  consumed : List Consumption
  decisions : List (String × EntryRow)
  journal : List StrategyEvent

namespace Working

def record (w : Working) (decision : EntryDecision) : Working :=
  let recorded := recordEntryDecision w.decisions decision
  { w with decisions := recorded.2, journal := w.journal ++ recorded.1 }

def consume (w : Working) (signalId : String) (now : Instant) : Working :=
  { w with consumed := markSignalConsumed w.consumed signalId now }

def write (w : Working) (event : StrategyEvent) : Working :=
  { w with journal := w.journal ++ [event] }

end Working

variable (calendar : ExpiryCalendar)

/-- The local variables as they are read from the state file. -/
def loadWorking (s : VirtualState) : Working where
  active := s.active.map (capRthTradeEpisode calendar)
  pending := s.pendingTradeIntent
  consumed := loadConsumedSignals s.consumedSignals
  decisions := s.entryDecisions
  journal := []

/-- An intent that waited until its expiry while entries were blocked. -/
def censorWaiter (w : Working) (t : StrategyTick) : Working :=
  match w.active, w.pending with
  | none, some pending =>
    if t.newEntriesAllowed = false ∧ elapsed pending.envelope.validUntil.parse t.now then
      { (w.record (providerCensoredDecision pending t.now)).consume pending.intentId t.now with
        pending := none }
    else w
  | _, _ => w

/-- `_should_replace_with_gth_spread`. -/
def shouldReplaceWithGthSpread (active : Option Episode) (signal : GthSignal) : Bool :=
  active.any fun e => e.sourceKind = .gthDipReclaimCall ∧ e.debitSpread = false ∧
    signal.kind = "gth_dip_reclaim_call" ∧ signal.spread.isSome

/-- The exact spread that takes the place of a single-leg GTH episode. -/
def replaceWithGthSpread (w : Working) (t : StrategyTick) : Working :=
  match w.active with
  | none => w
  | some active =>
    if t.newEntriesAllowed ∧ shouldReplaceWithGthSpread (some active) t.gthSignal then
      let answer := evaluateGthSpreadEntry calendar t.gthSignal t.market t.now t.policy
      let w := w.record answer.2
      match answer.1 with
      | some e =>
        ({ w with active := some e }.write (.superseded active)).consume e.sourceSignalId t.now
          |>.write (.opened e)
      | none =>
        if answer.2.terminal then w.consume (answer.2.sourceSignalId.getD "") t.now else w
    else w

/-- A waiting intent gives way to another one that is ready. -/
def supersedeWaiter (w : Working) (current : Option TradeIntent) (now : Instant) : Working :=
  match w.pending, current with
  | some pending, some current =>
    if pending.intentId ≠ "" ∧ pending.intentId ≠ current.intentId then
      { (w.record (supersededDecision pending current now)).consume pending.intentId now with
        pending := none }
    else w
  | _, _ => w

/-- `_new_episode`, where nothing is evaluated for a signal that was used up. -/
def newEpisodeEntry (candidate : TradeIntent) (t : StrategyTick) (consumed : List Consumption) :
    Option (Option Episode × EntryDecision) :=
  if candidate.status = "trade_ready" ∧ candidate.intentId ≠ "" ∧
      candidate.intentId ∉ consumed.map (·.id) ∧ candidate.contractId ≠ "" then
    some (evaluateTradeIntentEntry candidate t.market t.now t.policy
      t.expectedTradeIntentPolicyVersion
      (if t.rustTraderNotificationOwner then some (t.receipt candidate.notificationEventId)
        else none))
  else if t.gthSignal.kind = "gth_dip_reclaim_call" ∧
      t.gthSignal.sessionDate = calendar.researchExpiry t.now ∧ t.gthSignal.eventId ≠ "" ∧
      t.gthSignal.eventId ∉ consumed.map (·.id) then
    some (evaluateGthSpreadEntry calendar t.gthSignal t.market t.now t.policy)
  else none

/-- What is done with the answer of an evaluation. -/
def settleEntry (w : Working) (candidate : TradeIntent) (now : Instant)
    (answer : Option Episode × EntryDecision) : Working :=
  let w := w.record answer.2
  match answer.1 with
  | some e =>
    ({ w with active := some e, pending := none }.consume e.sourceSignalId now).write (.opened e)
  | none =>
    let w := if answer.2.terminal then w.consume (answer.2.sourceSignalId.getD "") now else w
    if answer.2.sourceKind = .tradeIntent then
      { w with pending := if answer.2.terminal then none else some candidate }
    else w

/-- The entry of a tick without an active episode. -/
def openEntry (w : Working) (t : StrategyTick) : Working :=
  if w.active.isSome ∨ t.newEntriesAllowed = false then w
  else
    let current := if t.tradeIntent.ready then some t.tradeIntent else none
    let w := supersedeWaiter w current t.now
    let candidate := (w.pending.or current).getD t.tradeIntent
    match newEpisodeEntry calendar candidate t w.consumed with
    | none => w
    | some answer => settleEntry w candidate t.now answer

def StrategyTick.of (t : StrategyTick) (e : Episode) : EpisodeTick where
  now := t.now
  policy := t.policy
  mark := t.market.mark e
  spx := t.market.spx e
  es := t.market.es
  callWall := t.market.callWall
  postEvent := t.market.postEvent
  decisionGrade := t.market.decisionGrade

/-- The journal lines of an episode's tick. -/
def outcomeJournal (e : Episode) : EpisodeOutcome → List StrategyEvent
  | .held e' =>
    if e.healthStatus = .healthy ∧ e'.healthStatus = .degraded then [.degraded e']
    else if e.healthStatus = .degraded ∧ e'.healthStatus = .healthy then [.recovered e']
    else []
  | .censored record => [.censored record]
  | .closed record =>
    (if e.healthStatus = .degraded then [.recovered record.episode] else []) ++ [.closed record]

/-- The state file that a tick leaves. -/
def saveWorking (w : Working) (s : VirtualState) : VirtualState :=
  { s with
    active := w.active
    pendingTradeIntent := w.pending
    consumedSignals := w.consumed.rtake maxConsumedSignals
    entryDecisions := trimEntryDecisions w.decisions }

/-- The end of a tick: the active episode, if there is one, takes its step. -/
def finishTick (w : Working) (s : VirtualState) (t : StrategyTick) :
    List StrategyEvent × VirtualState :=
  match w.active with
  | none => (w.journal, saveWorking w s)
  | some e =>
    let outcome := stepEpisode calendar e (t.of e)
    let journal := w.journal ++ outcomeJournal e outcome
    let saved := saveWorking { w with pending := none } s
    match outcome with
    | .held e' => (journal, { saved with active := some e' })
    | .censored record => (journal, { saved with active := none, lastCensored := some record })
    | .closed record => (journal, { saved with active := none, lastClosed := some record })

/-- `process_virtual_strategy`, on the state file. -/
def processVirtualStrategy (s : VirtualState) (t : StrategyTick) :
    List StrategyEvent × VirtualState :=
  if t.policy.virtualStrategyEnabled = false then ([], s)
  else
    finishTick calendar
      (openEntry calendar
        (replaceWithGthSpread calendar (censorWaiter (loadWorking calendar s) t) t) t) s t

end SpxSpark.MarketFeatures
