import Mathlib.Data.Char
import Mathlib.Data.List.Lex
import Mathlib.Data.List.Sort
import SpxSpark.TradeCandidate.Observe

/-!
# Advance — one call, and the files it writes

A call reads the state file, lets a new intent take the place of the active candidate, arms it, and
looks at the market once.
-/

namespace SpxSpark.TradeCandidate

open Lib Strategy TradeIntent

/-! ## State -/

/-- A candidate that ended. -/
structure Terminal where
  candidate : Candidate
  phase : CandidatePhase
  reason : Option TerminalReason
  terminalAt : Instant
  entryObservation : Option Observation

structure StateFile where
  active : Option Candidate := none
  completedCandidateIds : List Text := []
  completedCandidates : List (Text × Terminal) := []
  lastTerminal : Option Terminal := none
  updatedAt : Option Instant := none

inductive AuditRecord
  | armed (candidate : Candidate)
  | terminal (record : Terminal)

structure Call where
  intent : Members
  market : MarketView
  now : Instant

/-- What a call returns. -/
inductive Answer
  | terminal (record : Terminal)
  | candidateActive (candidate : Candidate)
  | observing

/-! ## The local variables of a call -/

structure Working where
  active : Option Candidate
  /-- `completed`. -/
  completed : List Text
  completedCandidates : List (Text × Terminal)
  lastTerminal : Option Terminal
  /-- The records handed to the audit log so far. -/
  records : List AuditRecord := []

def StateFile.load (s : StateFile) : Working where
  active := s.active
  completed := s.completedCandidates.map (·.1) ++ s.completedCandidateIds
  completedCandidates := s.completedCandidates
  lastTerminal := s.lastTerminal

/-- `rows[key] = value`, of a `dict` in its order. -/
def assign {β : Type} (rows : List (Text × β)) (key : Text) (value : β) : List (Text × β) :=
  if key ∈ rows.map (·.1) then rows.map fun row => if row.1 = key then (key, value) else row
  else rows ++ [(key, value)]

/-- `_terminal`. -/
def terminalOf (active : Candidate) (phase : CandidatePhase) (reason : Option TerminalReason)
    (now : Instant) : Terminal where
  candidate := active
  phase := phase
  reason := reason
  terminalAt := now
  entryObservation := if phase = .quoteReachedEntry then active.lastObservation else none

/-- The active candidate ends: the record, and what is remembered of it. -/
def Working.finish (w : Working) (record : Terminal) : Working where
  active := none
  completed := w.completed ++ [record.candidate.candidateId]
  completedCandidates := assign w.completedCandidates record.candidate.candidateId record
  lastTerminal := some record
  records := w.records ++ [.terminal record]

/-- A candidate is armed: the record, and the active candidate. -/
def Working.start (w : Working) (candidate : Candidate) : Working :=
  { w with active := some candidate, records := w.records ++ [.armed candidate] }

variable (py : PyTools)

/-! ## The intent -/

/-- `_candidate_id`. -/
def candidateId (intent : Members) : Text :=
  let intentId := strOr py (member "intent_id" intent) []
  let eventId := strOr py (member "event_id" intent) []
  if intentId ≠ [] ∧ eventId ≠ [] then intentId ++ '|' :: eventId else []

/-- `incoming_id`: the candidate of an intent that may be armed now, or an empty text. -/
def incomingId (intent : Members) (now : Instant) : Except PyError Text :=
  if equalsText (member "status" intent) tradeReady ∧ liveTradeIntentAuthorityIssues py intent = []
  then do
    let issues ← actionableStrategyContractIssues py intent now
    .ok (if issues = [] then candidateId py intent else [])
  else .ok []

/-- `_armed_candidate`. The time has been read before, without an error. -/
def armedCandidate (intent : Members) (now : Instant) : Candidate where
  candidateId := candidateId py intent
  validUntil := (parseAwareTime py (.json (member "valid_until" intent))).toOption.join
  sourceIntent := intent
  armedAt := now

/-! ## The steps of a call -/

variable (w : Working) (incoming : Text)

/-- Another candidate comes in: the active one is superseded. -/
def Working.supersede (now : Instant) : Working :=
  match w.active with
  | some active =>
    if incoming ≠ [] ∧ incoming ≠ active.candidateId then
      w.finish (terminalOf active .superseded (some .newTradeCandidateSupersededPriorCandidate)
        now)
    else w
  | none => w

/-- The candidate is armed, unless one is active or it has been completed. -/
def Working.arm (intent : Members) (now : Instant) : Working :=
  if w.active.isNone ∧ incoming ≠ [] ∧ incoming ∉ w.completed then
    w.start (armedCandidate py intent now)
  else w

/-- The completed candidate that an intent names. -/
def Working.recall : Answer :=
  match w.completedCandidates.find? (·.1 = incoming) with
  | some row => if incoming = [] then .observing else .terminal row.2
  | none => .observing

def Candidate.observed (active : Candidate) (observation : Observation) (now : Instant) :
    Candidate :=
  { active with lastObservedAt := some now, lastObservation := some observation }

/-- The active candidate meets the market. -/
def Working.look (market : MarketView) (now : Instant) : Except PyError (Working × Answer) :=
  match w.active with
  | none => .ok (w, w.recall incoming)
  | some active => do
      let (phase, reason, observation) ← advanceActive py active market now
      let active := active.observed observation now
      if phase.terminal then
        let record := terminalOf active phase reason now
        .ok (w.finish record, .terminal record)
      else .ok ({ w with active := some active }, .candidateActive active)

/-- `_trim_completed`. -/
def trimCompleted (rows : List (Text × Terminal)) : List (Text × Terminal) :=
  ((rows.filter (·.1 ≠ [])).insertionSort fun a b =>
    py.isoformat a.2.terminalAt ≤ py.isoformat b.2.terminalAt).rtake 500

/-- The state that is written. The file has the names of an object in order. -/
def Working.save (w : Working) (now : Instant) : StateFile where
  active := w.active
  completedCandidateIds :=
    ((w.completed.filter (· ≠ [])).eraseDups.insertionSort (· ≤ ·)).rtake 500
  completedCandidates :=
    (trimCompleted py w.completedCandidates).insertionSort fun a b => a.1 ≤ b.1
  lastTerminal := w.lastTerminal
  updatedAt := some now

/-- What a call works out until it looks at the market. -/
def StateFile.prepare (s : StateFile) (incoming : Text) (call : Call) : Working :=
  (s.load.supersede incoming call.now).arm py incoming call.intent call.now

/-- `advance_trade_candidate`: the records it hands to the audit log, and the state it writes and
what it returns, where it does not raise. -/
def advanceTradeCandidate (s : StateFile) (call : Call) :
    List AuditRecord × Except PyError (StateFile × Answer) :=
  match incomingId py call.intent call.now with
  | .error failure => ([], .error failure)
  | .ok incoming =>
    let w := s.prepare py incoming call
    match w.look py incoming call.market call.now with
    | .error failure => (w.records, .error failure)
    | .ok (final, answer) => (final.records, .ok (final.save py call.now, answer))

/-! ## The audit log -/

inductive AuditEvent
  | candidateArmed | candidateTerminal
  deriving DecidableEq

def AuditRecord.event : AuditRecord → AuditEvent
  | .armed _ => .candidateArmed
  | .terminal _ => .candidateTerminal

def AuditRecord.candidate : AuditRecord → Candidate
  | .armed candidate => candidate
  | .terminal record => record.candidate

/-- `_candidate_audit_identity`. -/
def AuditRecord.identity (record : AuditRecord) : Option (AuditEvent × Text) :=
  if stripChars record.candidate.candidateId ≠ [] then
    some (record.event, record.candidate.candidateId)
  else none

/-- A row of the log, in the file of its day. -/
structure AuditRow where
  day : Int
  record : AuditRecord

/-- `now.date()`, as the number of days. -/
def dateOf (now : Instant) : Int := now / IsoTime.dayMicros

/-- The characters at which `splitlines` breaks a text, and that are written as they are. -/
def breaksLine (c : Char) : Bool := c = '\x85' || c = '\u2028' || c = '\u2029'

/-- The row is read back as one line. -/
def AuditRow.legible (row : AuditRow) : Bool :=
  !JsonValue.anyCharMembers breaksLine row.record.candidate.sourceIntent

/-- `_audit_identity_exists`, in the file of a day. -/
def auditIdentityExists (audit : List AuditRow) (day : Int) (identity : AuditEvent × Text) : Bool :=
  audit.any fun row => row.day = day && row.legible && row.record.identity = some identity

/-- `_append_audit`. -/
def appendAudit (audit : List AuditRow) (day : Int) (record : AuditRecord) : List AuditRow :=
  if record.identity.any fun identity => auditIdentityExists audit day identity then audit
  else audit ++ [⟨day, record⟩]

/-! ## Files and stops -/

/-- The state file and the audit log. -/
structure Disk where
  state : StateFile := {}
  audit : List AuditRow := []
  /-- How many rows the log had when the state file was last replaced. -/
  settled : ℕ := 0

/-- A write of a call, in the order of the code. -/
inductive Write
  | audit (day : Int) (record : AuditRecord)
  | state (contents : StateFile)

def Disk.perform (disk : Disk) : Write → Disk
  | .audit day record => { disk with audit := appendAudit disk.audit day record }
  | .state contents => { disk with state := contents, settled := disk.audit.length }

def writes (s : StateFile) (call : Call) : List Write :=
  let result := advanceTradeCandidate py s call
  result.1.map (.audit (dateOf call.now)) ++
    match result.2 with
    | .ok (contents, _) => [.state contents]
    | .error _ => []

/-- A call, and the number of writes after which the process stops, if it does. -/
structure Visit where
  call : Call
  stop : Option ℕ := none

/-- What a call did: the records it had decided on, whether the state file was replaced, and its
answer. -/
structure Outcome where
  records : List AuditRecord
  written : Bool
  answer : Option Answer

/-- The number of writes that are made. -/
def Visit.made (visit : Visit) (s : StateFile) : ℕ :=
  match visit.stop with
  | some count => min count (writes py s visit.call).length
  | none => (writes py s visit.call).length

/-- One call under the lock. -/
def visitStep (disk : Disk) (visit : Visit) : Outcome × Disk :=
  let result := advanceTradeCandidate py disk.state visit.call
  let made := visit.made py disk.state
  ({ records := result.1
     written := result.2.toOption.isSome && result.1.length < made
     answer := if made = (writes py disk.state visit.call).length then
        result.2.toOption.map (·.2) else none },
    ((writes py disk.state visit.call).take made).foldl Disk.perform disk)

end SpxSpark.TradeCandidate
