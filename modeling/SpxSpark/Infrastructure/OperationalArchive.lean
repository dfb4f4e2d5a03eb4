import Mathlib.Data.List.Sort
import SpxSpark.Infrastructure.OperationalTables
import SpxSpark.Lib.Crew

/-!
# OperationalArchive — old rows move to verified archives

`archive_operational_history` takes old rows of three tables in batches: it reads a batch, writes it
to a file named after its digest, reads the file back, and then deletes the batch in one transaction
that checks again that the rows are the same and that nothing refers to them.
-/

namespace SpxSpark.Infrastructure

open Lib Strategy
open Program (perform)

/-! ## Rows and what refers to them -/

/-- A row of the operational history, with everything in it. -/
inductive HistoryRow
  | event (row : EventRow)
  | decision (row : DecisionRow)
  | leg (row : LegRow)
  | outcome (row : OutcomeRow)
  deriving DecidableEq

/-- Every row of the four tables. -/
def Database.contents (database : Database) : List HistoryRow :=
  database.events.rows.map .event ++ database.decisions.rows.map .decision ++
    database.decisionLegs.rows.map .leg ++ database.outcomes.rows.map .outcome

section
variable {database : Database}

@[simp]
theorem mem_contents_event {row : EventRow} :
    .event row ∈ database.contents ↔ row ∈ database.events.rows := by
  simp [Database.contents]

@[simp]
theorem mem_contents_decision {row : DecisionRow} :
    .decision row ∈ database.contents ↔ row ∈ database.decisions.rows := by
  simp [Database.contents]

@[simp]
theorem mem_contents_leg {row : LegRow} :
    .leg row ∈ database.contents ↔ row ∈ database.decisionLegs.rows := by
  simp [Database.contents]

@[simp]
theorem mem_contents_outcome {row : OutcomeRow} :
    .outcome row ∈ database.contents ↔ row ∈ database.outcomes.rows := by
  simp [Database.contents]

end

/-- The tables that rows are taken from; legs go with their decision. -/
inductive ArchivedTable
  | outcomes
  | decisions
  | events
  deriving DecidableEq

def policies : List ArchivedTable := [.outcomes, .decisions, .events]

/-- The key column of the row's table. -/
def HistoryRow.key : HistoryRow → Text
  | .event row => row.eventKey
  | .decision row => row.decisionId
  | .leg row => row.decisionId
  | .outcome row => row.outcomeId

/-- What an archive file holds, as JSON. -/
structure Payload where
  table : ArchivedTable
  rows : List HistoryRow
  decisionLegs : List LegRow
  deriving DecidableEq

def Payload.contents (payload : Payload) : List HistoryRow :=
  payload.rows ++ payload.decisionLegs.map .leg

def Payload.ids (payload : Payload) : List Text := payload.rows.map HistoryRow.key

/-- SQLite's `json_extract`, `json.dumps` and `json.loads`, gzip and SHA-256. -/
structure ArchiveTools (Json Gzip Digest : Type) where
  parentEventKey : Text → Option Text
  rowSize : HistoryRow → Nat
  encode : Payload → Json
  decode : Json → Option Payload
  length : Json → Nat
  sha256 : Json → Digest
  compress : Json → Gzip
  decompress : Gzip → Option Json
  fileSize : Gzip → Nat

/-- JSON and gzip give back what they were given, and no two texts have one digest. -/
structure ArchiveTools.Faithful {Json Gzip Digest : Type} (tools : ArchiveTools Json Gzip Digest) :
    Prop where
  decode_encode : ∀ payload, tools.decode (tools.encode payload) = some payload
  decompress_compress : ∀ json, tools.decompress (tools.compress json) = some json
  sha256_injective : Function.Injective tools.sha256

variable {Json Gzip Digest : Type} [DecidableEq Json] [DecidableEq Digest]
  (tools : ArchiveTools Json Gzip Digest)

/-! ## The gates -/

def terminal (cutoff : Text) (row : OutcomeRow) : Bool :=
  (row.status == "observed".toList || row.status == "unavailable".toList ||
      row.status == "censored".toList) && row.targetAt < cutoff

/-- Nobody refers to the decision. -/
def decisionFree (database : Database) (decisionId : Text) : Bool :=
  !(database.outcomes.rows.any fun outcome => outcome.decisionId == some decisionId) &&
    !(database.correlationIds.any fun correlation => correlation == some decisionId)

def decisionGate (cutoff : Text) (database : Database) (row : DecisionRow) : Bool :=
  (row.sessionDate.any fun date => date < cutoff && date != []) &&
    decisionFree database row.decisionId

/-- Neither a decision nor an outcome nor a feature snapshot refers to the event. -/
def eventFree (database : Database) (eventKey : Text) : Bool :=
  !(database.decisions.rows.any fun decision => decision.eventKey == some eventKey) &&
    !(database.decisions.rows.any fun decision => decision.featureSnapshotId == some eventKey) &&
    !(database.outcomes.rows.any fun outcome => outcome.eventKey == eventKey) &&
    !(database.events.rows.any fun event => event.eventType == "feature_snapshot".toList &&
      tools.parentEventKey event.attributesJson == some eventKey)

def eventGate (cutoff : Text) (database : Database) (row : EventRow) : Bool :=
  row.sessionDate < cutoff && row.sessionDate != [] && row.eventType != "strategy_version".toList &&
    eventFree tools database row.eventKey

variable (table : ArchivedTable)

/-- `SELECT * FROM {table} WHERE {predicate}`. -/
def eligible (cutoff : Text) (database : Database) : List HistoryRow :=
  match table with
  | .outcomes => (database.outcomes.rows.filter (terminal cutoff)).map .outcome
  | .decisions => (database.decisions.rows.filter (decisionGate cutoff database)).map .decision
  | .events => (database.events.rows.filter (eventGate tools cutoff database)).map .event

/-- Rows up to the one that takes the batch to 16 MiB. -/
def takeBatch : Nat → List HistoryRow → List HistoryRow
  | _, [] => []
  | size, row :: rows =>
    row :: if 16 * 1024 ^ 2 ≤ size + tools.rowSize row then []
      else takeBatch (size + tools.rowSize row) rows

/-- At most 500 rows, in whatever order the scan meets them. -/
def selectRows (cutoff : Text) (rank : HistoryRow → Nat) (database : Database) : List HistoryRow :=
  takeBatch tools 0
    (((eligible tools table cutoff database).insertionSort fun a b => rank a ≤ rank b).take 500)

/-- `ORDER BY decision_id, leg_index`. -/
def legBefore (a b : LegRow) : Bool :=
  a.decisionId < b.decisionId || (a.decisionId == b.decisionId && a.legIndex ≤ b.legIndex)

def legsOf (ids : List Text) (database : Database) : List LegRow :=
  (database.decisionLegs.rows.filter fun leg => ids.contains leg.decisionId).insertionSort
    fun a b => legBefore a b = true

/-! ## The delete -/

/-- How a run of the archive ends early. -/
inductive Fault
  | value (message : String)
  | overflow
  | operational (message : String)
  | runtime (message : String)
  | other (message : String)
  /-- Only of the model: more rounds than the run was given. -/
  | rounds
  deriving DecidableEq

/-- `{str(r[key]): r for r in rows}`: the last row under a key wins. -/
def byKey (rows : List HistoryRow) (key : Text) : Option HistoryRow :=
  rows.reverse.find? fun row => row.key == key

/-- Equality of the two dictionaries. -/
def sameRows (live rows : List HistoryRow) : Bool :=
  (live ++ rows).all fun row => byKey live row.key == byKey rows row.key

def Database.remove (ids : List Text) (database : Database) : Database :=
  match table with
  | .outcomes =>
    { database with
      outcomes := deleteWhere database.outcomes fun row => ids.contains row.outcomeId }
  | .decisions =>
    { database with
      decisionLegs := deleteWhere database.decisionLegs fun row => ids.contains row.decisionId
      decisions := deleteWhere database.decisions fun row => ids.contains row.decisionId }
  | .events =>
    { database with
      events := deleteWhere database.events fun row => ids.contains row.eventKey }

/-- The transaction from `BEGIN IMMEDIATE` to its commit; an exception rolls it back. -/
def deleteArchived (payload : Payload) (cutoff : Text) (database : Database) :
    Except Fault Database :=
  let ids := payload.ids
  let live := (eligible tools payload.table cutoff database).filter fun row =>
    ids.contains row.key
  if sameRows live payload.rows = false then
    .error (.runtime "operational archive source or references changed")
  else if payload.table = .decisions ∧ legsOf ids database ≠ payload.decisionLegs then
    .error (.runtime "operational archive legs changed")
  else .ok (database.remove payload.table ids)

/-! ## Calls -/

inductive ArchiveCall (Gzip Digest : Type)
  | databaseExists
  | connect
  | monotonic
  | select (table : ArchivedTable) (cutoff : Text)
  | selectLegs (ids : List Text)
  | makeRoot
  | archiveExists (digest : Digest)
  /-- A temporary file written, synced and moved to its place. -/
  | replaceArchive (digest : Digest) (content : Gzip)
  | readArchive (digest : Digest)
  | syncDirectories
  | archiveSize (digest : Digest)
  | deleteBatch (payload : Payload) (cutoff : Text)

abbrev Answer : ArchiveCall Gzip Digest → Type
  | .databaseExists => Bool
  | .connect => Unit
  | .monotonic => ℚ
  | .select _ _ => List HistoryRow
  | .selectLegs _ => List LegRow
  | .makeRoot => Unit
  | .archiveExists _ => Bool
  | .replaceArchive _ _ => Unit
  | .readArchive _ => Gzip
  | .syncDirectories => Unit
  | .archiveSize _ => Nat
  | .deleteBatch _ _ => Unit

/-- The database, the archive files by digest, and what is remembered of the run: the files read
back, every row that was ever committed, and the rows that others deleted. -/
structure World (Gzip Digest : Type) where
  database : Database
  files : Digest → Option Gzip
  reads : List (Digest × Gzip)
  committed : List HistoryRow
  removedByOthers : List HistoryRow

def World.start (database : Database) (files : Digest → Option Gzip) : World Gzip Digest where
  database
  files
  reads := []
  committed := database.contents
  removedByOthers := []

/-- How a call goes: the exception it raises, whether what it does is done before it raises or is
stopped, what the clock says, whether the database is there and in which order rows are met. -/
structure Course where
  fault : Option Fault := none
  done : Bool := true
  reading : ℚ := 0
  present : Bool := true
  rank : HistoryRow → Nat := fun _ => 0

variable {tools}

/-- What a call answers and leaves when nothing stops it. -/
def respond (tools : ArchiveTools Json Gzip Digest) (course : Course) (world : World Gzip Digest) :
    (call : ArchiveCall Gzip Digest) → Except Fault (Answer call) × World Gzip Digest
  | .databaseExists => (.ok course.present, world)
  | .connect => (.ok (), world)
  | .monotonic => (.ok course.reading, world)
  | .select table cutoff =>
    (.ok (selectRows tools table cutoff course.rank world.database), world)
  | .selectLegs ids => (.ok (legsOf ids world.database), world)
  | .makeRoot => (.ok (), world)
  | .archiveExists digest => (.ok (world.files digest).isSome, world)
  | .replaceArchive digest content =>
    (.ok (), { world with files := Function.update world.files digest (some content) })
  | .readArchive digest =>
    match world.files digest with
    | none => (.error (.other "no such file"), world)
    | some content => (.ok content, { world with reads := (digest, content) :: world.reads })
  | .syncDirectories => (.ok (), world)
  | .archiveSize digest =>
    match world.files digest with
    | none => (.error (.other "no such file"), world)
    | some content => (.ok (tools.fileSize content), world)
  | .deleteBatch payload cutoff =>
    match deleteArchived tools payload cutoff world.database with
    | .error fault => (.error fault, world)
    | .ok database => (.ok (), { world with database })

/-- What a call leaves that did not answer. -/
def cutShort (tools : ArchiveTools Json Gzip Digest) (call : ArchiveCall Gzip Digest)
    (course : Course) (world : World Gzip Digest) : World Gzip Digest :=
  if course.done then (respond tools course world call).2 else world

def performArchive (tools : ArchiveTools Json Gzip Digest) (call : ArchiveCall Gzip Digest)
    (course : Course) (world : World Gzip Digest) :
    Except Fault (Answer call) × World Gzip Digest :=
  match course.fault with
  | none => respond tools course world call
  | some fault => (.error fault, cutShort tools call course world)

def archiveHost (tools : ArchiveTools Json Gzip Digest) :
    Host (ArchiveCall Gzip Digest) Answer Fault (World Gzip Digest) Course where
  perform := performArchive tools
  cut := cutShort tools

/-! ## The job -/

abbrev Archive (Gzip Digest : Type) (α : Type) : Type :=
  Program (ArchiveCall Gzip Digest) Answer Fault α

/-- Writes the archive unless a file of its name is there. -/
def storeArchive (digest : Digest) (content : Gzip) : Archive Gzip Digest Unit := do
  let present : Bool ← perform (ArchiveCall.archiveExists digest)
  if present then pure () else perform (ArchiveCall.replaceArchive digest content)

/-- The file has to decompress to the payload. -/
def verifyArchive (tools : ArchiveTools Json Gzip Digest) (payload : Json) (content : Gzip) :
    Archive Gzip Digest Unit :=
  match tools.decompress content with
  | none => .raise (.other "not a gzip file")
  | some json =>
    if json ≠ payload then .raise (.runtime "operational archive verification failed")
    else pure ()

def verifiedOperationalArchive (tools : ArchiveTools Json Gzip Digest) (payload : Json) :
    Archive Gzip Digest Nat := do
  let digest := tools.sha256 payload
  perform ArchiveCall.makeRoot
  storeArchive digest (tools.compress payload)
  let content : Gzip ← perform (ArchiveCall.readArchive digest)
  verifyArchive tools payload content
  perform ArchiveCall.syncDirectories
  perform (ArchiveCall.archiveSize digest)

inductive ArchiveStatus
  | complete
  | databaseAbsent
  | budgetExhausted
  | busy
  deriving DecidableEq

structure ArchiveResult where
  status : ArchiveStatus := .complete
  rows : Nat := 0
  sourceBytes : Nat := 0
  archiveBytes : Nat := 0

/-- What one batch adds to the counts. -/
structure Batch where
  rows : Nat
  sourceBytes : Nat
  archiveBytes : Nat

def ArchiveResult.add (result : ArchiveResult) (batch : Batch) : ArchiveResult :=
  { result with
    rows := result.rows + batch.rows
    sourceBytes := result.sourceBytes + batch.sourceBytes
    archiveBytes := result.archiveBytes + batch.archiveBytes }

/-- Archives what was read and deletes it. -/
def archiveBatch (tools : ArchiveTools Json Gzip Digest) (cutoff : Text) (payload : Payload) :
    Archive Gzip Digest (Option Batch) := do
  let archiveBytes ← verifiedOperationalArchive tools (tools.encode payload)
  perform (ArchiveCall.deleteBatch payload cutoff)
  pure (some
    { rows := payload.rows.length + payload.decisionLegs.length
      sourceBytes := tools.length (tools.encode payload)
      archiveBytes })

/-- The legs are read after the decisions, not with them. -/
def readLegs (rows : List HistoryRow) : Archive Gzip Digest (List LegRow) :=
  if table = .decisions then perform (ArchiveCall.selectLegs (rows.map HistoryRow.key)) else pure []

/-- One table's turn in a round. -/
def archiveTable (tools : ArchiveTools Json Gzip Digest) (cutoff : Text) (table : ArchivedTable) :
    Archive Gzip Digest (Option Batch) := do
  let rows : List HistoryRow ← perform (ArchiveCall.select table cutoff)
  if rows.isEmpty then pure none
  else do
    let legs ← readLegs table rows
    archiveBatch tools cutoff { table, rows, decisionLegs := legs }

/-- The `OperationalError`s that end the job without an exception. -/
def isPause : Fault → Bool
  | .operational message => message == "interrupted" || message == "database is locked"
  | _ => false

def pauseStatus (fault : Fault) : ArchiveStatus :=
  if fault = .operational "interrupted" then .budgetExhausted else .busy

/-- How a round ends: paused, or with or without progress. -/
inductive Round
  | paused (result : ArchiveResult)
  | over (progress : Bool) (result : ArchiveResult)

/-- `for table, key, predicate in policies`. -/
def archiveRound (tools : ArchiveTools Json Gzip Digest) (cutoff : Text) (deadline : ℚ) :
    List ArchivedTable → Bool → ArchiveResult → Archive Gzip Digest Round
  | [], progress, result => pure (.over progress result)
  | table :: rest, progress, result => do
      let now : ℚ ← perform ArchiveCall.monotonic
      if deadline ≤ now then pure (.over progress { result with status := .budgetExhausted })
      else do
        let batch ← (archiveTable tools cutoff table).attempt isPause
        match batch with
        | .error fault => pure (.paused { result with status := pauseStatus fault })
        | .ok none => archiveRound tools cutoff deadline rest progress result
        | .ok (some batch) => archiveRound tools cutoff deadline rest true (result.add batch)

/-- After the loop. -/
def archiveEnd (deadline : ℚ) (result : ArchiveResult) : Archive Gzip Digest ArchiveResult := do
  let now : ℚ ← perform ArchiveCall.monotonic
  pure (if deadline ≤ now then { result with status := .budgetExhausted } else result)

/-- `while monotonic() < deadline`. -/
def archiveRounds (tools : ArchiveTools Json Gzip Digest) (cutoff : Text) (deadline : ℚ) :
    Nat → ArchiveResult → Archive Gzip Digest ArchiveResult
  | 0, _ => .raise .rounds
  | rounds + 1, result => do
      let now : ℚ ← perform ArchiveCall.monotonic
      if now < deadline then do
        let round ← archiveRound tools cutoff deadline policies false result
        match round with
        | .paused result => pure result
        | .over true result => archiveRounds tools cutoff deadline rounds result
        | .over false result => archiveEnd deadline result
      else archiveEnd deadline result

/-- A call of `archive_operational_history`, and a bound on its rounds. -/
structure ArchiveJob where
  now : Instant
  aware : Bool := true
  retentionDays : Int := 3
  timeBudgetSeconds : ℚ := 10
  rounds : Nat

/-- The date, `retention_days` before now. -/
def cutoffDate (job : ArchiveJob) : Option Text :=
  let day := (job.now - job.retentionDays * 86400000000) / 86400000000
  if 1 ≤ (Calendar.civilOfDay day).year then some (Calendar.formatDate day) else none

def archiveOperationalHistory (tools : ArchiveTools Json Gzip Digest) (job : ArchiveJob) :
    Archive Gzip Digest ArchiveResult :=
  if !job.aware || job.retentionDays < 1 || job.timeBudgetSeconds ≤ 0 then
    .raise (.value "aware time, positive retention and time budget required")
  else do
    let present : Bool ← perform ArchiveCall.databaseExists
    if !present then pure { status := .databaseAbsent }
    else
      match cutoffDate job with
      | none => .raise .overflow
      | some cutoff => do
          let started : ℚ ← perform ArchiveCall.monotonic
          perform ArchiveCall.connect
          archiveRounds tools cutoff (started + job.timeBudgetSeconds) job.rounds {}

/-- Another writer commits: whatever the database holds after it. -/
def World.commit (world : World Gzip Digest) (database : Database) : World Gzip Digest :=
  { world with
    database
    committed := world.committed ++ database.contents
    removedByOthers := (world.removedByOthers ++ world.database.contents).filter fun row =>
      row ∉ database.contents }

def archiveSystem (tools : ArchiveTools Json Gzip Digest) :
    System (ArchiveCall Gzip Digest) Answer Fault (World Gzip Digest) Course ArchiveJob Database
      ArchiveResult where
  host := archiveHost tools
  job := archiveOperationalHistory tools
  others database world := world.commit database

end SpxSpark.Infrastructure
