import Mathlib.Data.Char
import Mathlib.Data.List.Lex
import Mathlib.Data.List.Sort
import Mathlib.Data.Prod.Lex
import SpxSpark.Lib.Calendar
import SpxSpark.Lib.Clock
import SpxSpark.Lib.Json
import SpxSpark.Lib.Lines
import SpxSpark.Domain.Validation

/-!
# ProducerLedger — the producer's own evidence, one line per record

Every evaluation of a trade intent inside the regular session leaves a heartbeat for its five-minute
slot, and a ready intent leaves the delivery it expects.
-/

namespace SpxSpark.MarketFeatures.ProducerLedger

open Lib Domain

/-- `str(value or "")`. -/
def orEmpty (value : Option Text) : Text := value.getD []

/-- `value or None`. -/
def orNone (value : Text) : Option Text := if value = [] then none else some value

/-! ## What is observed -/

/-- The members of a trade intent that the ledger reads. -/
structure TradeIntent where
  status : Option Text := none
  semanticKey : Option Text := none
  intentId : Option Text := none
  eventId : Option Text := none
  contractId : Option Text := none
  play : Option Text := none
  expiresAt : Option Text := none
  validUntil : Option Text := none

structure Session where
  openAt : Instant
  closeAt : Instant

/-- The clock, the calendar and the number texts the ledger is given. -/
structure Environment where
  isoformat : Instant → Text
  /-- An aware timestamp. -/
  fromIsoformat : Text → Option Instant
  etDate : Instant → Int
  session : Int → Option Session
  sha256 : Text → Text
  integer : Int → JsonNumber
  float : ℚ → JsonNumber

/-- One evaluation: the intent, when it was evaluated and when it was checked again. -/
structure Observation where
  intent : TradeIntent
  now : Instant
  actionNow : Option Instant := none

def tradeReady : Text := "trade_ready".toList

def TradeIntent.isReady (intent : TradeIntent) : Bool := intent.status = some tradeReady

def schemaVersion : Text := "trade_intent_producer_ledger.v1".toList

def rthSlotSeconds : Int := 300

def maxStateRecords : Nat := 2048

variable (env : Environment)

def parseTimestamp (value : Option Text) : Option Instant :=
  match value with
  | none => none
  | some text => if text = [] then none else env.fromIsoformat text

/-- The first of the two times at which the intent ends. -/
def intentDeadline (intent : TradeIntent) : Option Instant :=
  match parseTimestamp env intent.expiresAt, parseTimestamp env intent.validUntil with
  | some expires, some valid => some (min expires valid)
  | some expires, none => some expires
  | none, valid => valid

def optional {α : Type} (encode : α → Json) : Option α → Json
  | none => .null
  | some value => encode value

/-- Whether the action's check came before the intent ended; the members in the order of
`sort_keys`. -/
def tradeIntentDeadlineDiagnostics (intent : TradeIntent)
    (evaluatedAt revalidatedAt : Instant) : Json :=
  let deadline := intentDeadline env intent
  let latency := secondsBetween revalidatedAt evaluatedAt
  let rounded := fun seconds : ℚ => Json.number (env.float (roundTo 3 seconds))
  .object [
    ("action_clock_regressed".toList, .bool (decide (latency < 0))),
    ("action_revalidation_at".toList, .string (env.isoformat revalidatedAt)),
    ("action_revalidation_exceeded_ttl".toList,
      optional (fun deadline => .bool (decide (deadline ≤ revalidatedAt))) deadline),
    ("evaluation_at".toList, .string (env.isoformat evaluatedAt)),
    ("evaluation_to_action_revalidation_ms".toList, rounded (latency * 1000)),
    ("intent_deadline".toList,
      optional (fun deadline => .string (env.isoformat deadline)) deadline),
    ("intent_ttl_seconds_at_evaluation".toList,
      optional (fun deadline => rounded (secondsBetween deadline evaluatedAt)) deadline),
    ("ttl_remaining_at_action_seconds".toList,
      optional (fun deadline => rounded (secondsBetween deadline revalidatedAt)) deadline)]

structure Slot where
  tradingDateEt : Int
  slotId : Text
  slotIndex : Nat
  slotStart : Text
  slotEnd : Text

/-- `{index:03d}`. -/
def slotNumber (index : Nat) : Text :=
  if index < 1000 then Calendar.fixedDigits 3 index else Nat.toDigits 10 index

def rthSlot (now : Instant) : Option Slot :=
  let day := env.etDate now
  match env.session day with
  | none => none
  | some session =>
    if session.openAt ≤ now ∧ now < session.closeAt then
      let index := ((now - session.openAt) / (rthSlotSeconds * 1000000)).toNat
      let start := session.openAt + index * (rthSlotSeconds * 1000000)
      some {
        tradingDateEt := day
        slotId := Calendar.formatDate day ++ ":rth:".toList ++ slotNumber index
        slotIndex := index
        slotStart := env.isoformat start
        slotEnd := env.isoformat (start + rthSlotSeconds * 1000000) }
    else none

/-- The identity of one confirmed lifecycle's delivery, empty when the intent does not name it. -/
def tradeReadyDeliveryEventId (intent : TradeIntent) : Text :=
  let intentId := orEmpty intent.intentId
  let eventId := orEmpty intent.eventId
  if intentId = [] ∨ eventId = [] then []
  else
    let material := "trade_ready_notification.v2|".toList ++ intentId ++ '|' :: eventId
    intentId ++ ":notify:".toList ++ (env.sha256 material).take 20

/-! ## Records -/

structure Heartbeat where
  slot : Slot
  observedAt : Text
  tradeIntentStatus : Text
  intentEventId : Option Text
  deadline : Json

structure Expectation where
  tradingDateEt : Int
  slotId : Option Text
  observedAt : Text
  semanticKey : Text
  deliveryEventId : Text
  intentId : Option Text
  intentEventId : Option Text
  contractId : Option Text
  play : Option Text
  expiresAt : Option Text
  deadline : Json

inductive Record
  | heartbeat (record : Heartbeat)
  | expectation (record : Expectation)

def Record.recordId : Record → Text
  | .heartbeat record => "heartbeat:".toList ++ record.slot.slotId
  | .expectation record => "expectation:".toList ++ record.deliveryEventId

def Record.tradingDate : Record → Int
  | .heartbeat record => record.slot.tradingDateEt
  | .expectation record => record.tradingDateEt

def recordIdKey : Text := "record_id".toList

/-- The record's members in the order of `sort_keys`. -/
def Record.json (record : Record) : Json :=
  match record with
  | .heartbeat fields => .object [
      ("deadline".toList, fields.deadline),
      ("intent_event_id".toList, optional .string fields.intentEventId),
      ("observed_at".toList, .string fields.observedAt),
      (recordIdKey, .string record.recordId),
      ("record_type".toList, .string "rth_5m_heartbeat".toList),
      ("schema_version".toList, .string schemaVersion),
      ("slot_end".toList, .string fields.slot.slotEnd),
      ("slot_id".toList, .string fields.slot.slotId),
      ("slot_index".toList, .number (env.integer fields.slot.slotIndex)),
      ("slot_start".toList, .string fields.slot.slotStart),
      ("trade_intent_status".toList, .string fields.tradeIntentStatus),
      ("trading_date_et".toList, .string (Calendar.formatDate fields.slot.tradingDateEt))]
  | .expectation fields => .object [
      ("contract_id".toList, optional .string fields.contractId),
      ("deadline".toList, fields.deadline),
      ("delivery_event_id".toList, .string fields.deliveryEventId),
      ("expires_at".toList, optional .string fields.expiresAt),
      ("intent_event_id".toList, optional .string fields.intentEventId),
      ("intent_id".toList, optional .string fields.intentId),
      ("observed_at".toList, .string fields.observedAt),
      ("play".toList, optional .string fields.play),
      (recordIdKey, .string record.recordId),
      ("record_type".toList, .string "trade_ready_delivery_expectation".toList),
      ("schema_version".toList, .string schemaVersion),
      ("semantic_key".toList, .string fields.semanticKey),
      ("slot_id".toList, optional .string fields.slotId),
      ("trading_date_et".toList, .string (Calendar.formatDate fields.tradingDateEt))]

/-- The record's text, as `json.dumps` writes it without blanks. -/
def Record.text (record : Record) : Text := (record.json env).render

inductive ObservationStatus
  | notRth
  | notTradeReady
  | identityUnavailable
  | pending
  | recorded
  | duplicate
  deriving DecidableEq

/-- What a call returns. -/
structure Result where
  observedAt : Text
  rthSlot : Option Text
  heartbeat : ObservationStatus
  deliveryExpectation : ObservationStatus
  semanticKey : Option Text
  deliveryEventId : Option Text
  deadline : Json
  identityIssues : List Text

/-- The result before a file is looked at. -/
def pendingResult (observation : Observation) : Result :=
  let intent := observation.intent
  let slot := rthSlot env observation.now
  let semanticKey := orEmpty intent.semanticKey
  let deliveryEventId := if intent.isReady then tradeReadyDeliveryEventId env intent else []
  let identified : Bool := semanticKey ≠ [] && deliveryEventId ≠ []
  let issues := (if semanticKey = [] then ["semantic_key".toList] else []) ++
    if deliveryEventId = [] then ["delivery_event_id".toList] else []
  { observedAt := env.isoformat observation.now
    rthSlot := slot.map (·.slotId)
    heartbeat := if slot.isSome then .pending else .notRth
    deliveryExpectation :=
      if !intent.isReady then .notTradeReady
      else if identified then .pending
      else .identityUnavailable
    semanticKey := orNone semanticKey
    deliveryEventId := orNone deliveryEventId
    deadline := tradeIntentDeadlineDiagnostics env intent observation.now
      (observation.actionNow.getD observation.now)
    identityIssues := if intent.isReady && !identified then issues else [] }

/-- The result after a record was looked up. -/
def Result.observe (result : Result) (record : Record) (status : ObservationStatus) : Result :=
  match record with
  | .heartbeat _ => { result with heartbeat := status }
  | .expectation _ => { result with deliveryExpectation := status }

/-- The records of one evaluation: none outside the session unless a ready intent names its
delivery. -/
def observationRecords (observation : Observation) : List Record :=
  let intent := observation.intent
  let observedAt := env.isoformat observation.now
  let deadline := tradeIntentDeadlineDiagnostics env intent observation.now
    (observation.actionNow.getD observation.now)
  let slot := rthSlot env observation.now
  let semanticKey := orEmpty intent.semanticKey
  let deliveryEventId := if intent.isReady then tradeReadyDeliveryEventId env intent else []
  let heartbeat := match slot with
    | none => []
    | some slot => [Record.heartbeat {
        slot, observedAt, deadline
        tradeIntentStatus := (orNone (orEmpty intent.status)).getD "unknown".toList
        intentEventId := orNone (orEmpty intent.eventId) }]
  let expectation :=
    if intent.isReady ∧ semanticKey ≠ [] ∧ deliveryEventId ≠ [] then [Record.expectation {
        observedAt, semanticKey, deliveryEventId, deadline
        tradingDateEt := (slot.map (·.tradingDateEt)).getD (env.etDate observation.now)
        slotId := slot.map (·.slotId)
        intentId := orNone (orEmpty intent.intentId)
        intentEventId := orNone (orEmpty intent.eventId)
        contractId := orNone (orEmpty intent.contractId)
        play := orNone (orEmpty intent.play)
        expiresAt := intent.expiresAt }]
    else []
  heartbeat ++ expectation

/-! ## The two files -/

structure StateRecord where
  recordId : Text
  recordType : Text
  recordedAt : Text
  tradingDateEt : Int
  slotId : Option Text
  semanticKey : Option Text
  deliveryEventId : Option Text

structure LedgerState where
  updatedAt : Text
  records : List StateRecord

/-- What a day's file holds; `cut` says that it ends inside the bytes of a character. A file that is
not there holds nothing. -/
structure EventsFile where
  text : Text := []
  cut : Bool := false

structure Store where
  events : Int → EventsFile := fun _ => {}
  state : Option LedgerState := none

def Record.stateRecord : Record → StateRecord
  | .heartbeat record => {
      recordId := (Record.heartbeat record).recordId
      recordType := "rth_5m_heartbeat".toList
      recordedAt := record.observedAt
      tradingDateEt := record.slot.tradingDateEt
      slotId := some record.slot.slotId
      semanticKey := none
      deliveryEventId := none }
  | .expectation record => {
      recordId := (Record.expectation record).recordId
      recordType := "trade_ready_delivery_expectation".toList
      recordedAt := record.observedAt
      tradingDateEt := record.tradingDateEt
      slotId := record.slotId
      semanticKey := some record.semanticKey
      deliveryEventId := some record.deliveryEventId }

/-- A value under its identity: in the place of an older one, or at the end. -/
def setRecord (records : List StateRecord) (record : StateRecord) : List StateRecord :=
  if records.any (·.recordId = record.recordId) then
    records.map fun old => if old.recordId = record.recordId then record else old
  else records ++ [record]

/-- The dictionary of the state's records by identity; one without identity is left out. -/
def stateRecords (state : Option LedgerState) : List StateRecord :=
  match state with
  | none => []
  | some state => (state.records.filter (·.recordId ≠ [])).foldl setRecord []

def StateRecord.sortKey (record : StateRecord) : Text ×ₗ Text :=
  toLex (record.recordedAt, record.recordId)

/-- The last records by time and identity. -/
def retainedRecords (records : List StateRecord) : List StateRecord :=
  let sorted := records.insertionSort fun a b => a.sortKey ≤ b.sortKey
  sorted.drop (sorted.length - maxStateRecords)

inductive LedgerError
  | unicodeDecodeError
  | jsonlBlankLine (lineNumber : Nat)
  | jsonlInvalid (lineNumber : Nat)
  | jsonlContractInvalid (lineNumber : Nat)

/-- The identity a line's value carries. -/
def payloadRecordId (payload : Json) : Option Text :=
  match payload.field recordIdKey with
  | some (.string recordId) => some recordId
  | some .null | some (.bool _) | some (.number _) | some (.object _) | none => none

def lineRecordId (lineNumber : Nat) (line : Text) : Except LedgerError Text :=
  if line = [] then .error (.jsonlBlankLine lineNumber)
  else
    match Json.parse line with
    | none => .error (.jsonlInvalid lineNumber)
    | some payload =>
      match payloadRecordId payload with
      | none => .error (.jsonlContractInvalid lineNumber)
      | some recordId => .ok recordId

def lineRecordIds (lineNumber : Nat) : List Text → Except LedgerError (List Text)
  | [] => .ok []
  | line :: rest =>
    (lineRecordId lineNumber line).bind fun recordId =>
      (lineRecordIds (lineNumber + 1) rest).map (recordId :: ·)

/-- The identities of a day's file, or its first malformed line. -/
def strictJsonlRecordIds (file : EventsFile) : Except LedgerError (List Text) :=
  if file.cut then .error .unicodeDecodeError else lineRecordIds 1 (splitlines file.text)

/-! ## One call -/

/-- Where a call ends early: before a record is looked up, inside or after the write of its line, or
at the replacement of the state file. -/
inductive Stop
  | before (record : Nat)
  | append (record written : Nat) (cut : Bool)
  | state (replaced : Bool)
  deriving DecidableEq

structure Call where
  observation : Observation
  stop : Option Stop := none

/-- How much of a line an unfinished append left behind. -/
inductive AppendEnd
  | untouched
  | torn
  | newlineMissing
  | whole
  deriving DecidableEq

inductive Answer
  | ok (result : Result)
  | raised (error : LedgerError)
  | appendStopped (tradingDate : Int) (left : AppendEnd)
  | stopped

def Answer.isOk : Answer → Bool
  | .ok _ => true
  | .raised _ | .appendStopped _ _ | .stopped => false

def Record.line (record : Record) : Text := record.text env ++ ['\n']

def appendEnd (record : Record) (written : Nat) (cut : Bool) : AppendEnd :=
  if written = 0 ∧ cut = false then .untouched
  else if (record.line env).length ≤ written then .whole
  else if written = (record.text env).length then .newlineMissing
  else .torn

/-- The file after `written` characters of the line, and perhaps a part of the next one; the newline
has no parts. -/
def EventsFile.append (file : EventsFile) (record : Record) (written : Nat) (cut : Bool) :
    EventsFile where
  text := file.text ++ (record.line env).take written
  cut := file.cut || (cut && decide (written < (record.text env).length))

def Store.appendEvents (store : Store) (record : Record) (written : Nat) (cut : Bool) : Store :=
  let file := (store.events record.tradingDate).append env record written cut
  { store with events := Function.update store.events record.tradingDate file }

/-- The store, the state's dictionary, whether it has to be written, and the result so far. -/
structure Progress where
  store : Store
  stateRecords : List StateRecord
  stateChanged : Bool
  result : Result

def Progress.note (progress : Progress) (record : Record) (status : ObservationStatus) : Progress :=
  let known := progress.stateRecords.any (·.recordId = record.recordId)
  { progress with
    stateRecords :=
      if known then progress.stateRecords
      else progress.stateRecords ++ [record.stateRecord]
    stateChanged := progress.stateChanged || !known
    result := progress.result.observe record status }

/-- The characters after which the append of a record stops. -/
def Stop.inAppend (index : Nat) : Option Stop → Option (Nat × Bool)
  | some (.append record written cut) => if record = index then some (written, cut) else none
  | some (.before _) | some (.state _) | none => none

def recordOne (stop : Option Stop) (index : Nat) (record : Record) (progress : Progress) :
    Except (Answer × Store) Progress :=
  if stop = some (.before index) then .error (.stopped, progress.store)
  else
    match strictJsonlRecordIds (progress.store.events record.tradingDate) with
    | .error error => .error (.raised error, progress.store)
    | .ok recordIds =>
      if record.recordId ∈ recordIds then .ok (progress.note record .duplicate)
      else
        match Stop.inAppend index stop with
        | some (written, cut) =>
          .error (.appendStopped record.tradingDate (appendEnd env record written cut),
            progress.store.appendEvents env record written cut)
        | none =>
          let store := progress.store.appendEvents env record (record.line env).length false
          .ok ({ progress with store }.note record .recorded)

def recordAll (stop : Option Stop) : Nat → List Record → Progress → Except (Answer × Store) Progress
  | _, [], progress => .ok progress
  | index, record :: rest, progress =>
    (recordOne env stop index record progress).bind (recordAll stop (index + 1) rest)

/-- The state file is replaced as a whole, or not at all. -/
def writeState (stop : Option Stop) (observedAt : Text) (progress : Progress) : Answer × Store :=
  let state := { updatedAt := observedAt, records := retainedRecords progress.stateRecords }
  let replaced := { progress.store with state := some state }
  match stop with
  | some (.state true) => (.stopped, replaced)
  | some (.state false) => (.stopped, progress.store)
  | some (.before _) | some (.append _ _ _) | none => (.ok progress.result, replaced)

def recordTradeIntentProducerObservation (store : Store) (call : Call) : Answer × Store :=
  let records := observationRecords env call.observation
  let result := pendingResult env call.observation
  if records = [] then (.ok result, store)
  else
    let progress : Progress := {
      store
      stateRecords := stateRecords store.state
      stateChanged := store.state.isNone
      result }
    match recordAll env call.stop 0 records progress with
    | .error outcome => outcome
    | .ok progress =>
      if progress.stateChanged then
        writeState call.stop (env.isoformat call.observation.now) progress
      else (.ok progress.result, progress.store)

end SpxSpark.MarketFeatures.ProducerLedger
