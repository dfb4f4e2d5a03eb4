import SpxSpark.Lib.Clock
import SpxSpark.Lib.Json
import SpxSpark.Lib.Lines
import SpxSpark.Lib.Program

/-!
# QuoteLake — the files of one quote partition

One hour of raw quotes of one provider: the collector's JSONL file, the Parquet file made from it,
the manifest that describes both, and the audit of raw deletions.
-/

namespace SpxSpark.DataPlatform

open Lib

abbrev Bytes := List UInt8

/-! ## Layout -/

def quoteSchemaVersion : String := "v1"

def quoteWriterVersion : String := "spx-spark-quote-compactor-v1"

def twoDigits (n : Nat) : String :=
  if n < 10 then "0" ++ toString n else toString n

/-- A single collector JSONL file and the hour encoded by its path. The paths are relative to the
data root. -/
structure RawQuotePartition where
  sourceParts : List String
  provider : String
  sessionDate : String
  hour : Nat
  startAt : Instant

namespace RawQuotePartition

variable (partition : RawQuotePartition)

def endAt : Instant := partition.startAt + 3600 * 1000000

def sourceRelativePath : String := "/".intercalate partition.sourceParts

def fileName : String := partition.sourceParts.getLastD ""

def parquetPath : String :=
  "/".intercalate ["lake", "quotes", "schema=" ++ quoteSchemaVersion,
    "date=" ++ partition.sessionDate, "provider=" ++ partition.provider,
    "hour=" ++ twoDigits partition.hour, "quotes.parquet"]

end RawQuotePartition

def removePrefix? (start text : String) : Option String :=
  (stripPrefix start.toList text.toList).map String.ofList

/-- `strptime` is the UTC midnight of a `%Y-%m-%d` text. -/
def parseRawQuotePartition (strptime : String → Option Instant) (parts : List String) :
    Option RawQuotePartition :=
  match parts with
  | ["raw", providerPart, datePart, hourPart, _] => do
      let provider := strip (← removePrefix? "provider=" providerPart)
      let sessionDate := strip (← removePrefix? "date=" datePart)
      let hourRaw := strip (← removePrefix? "hour=" hourPart)
      if provider = "" || containsText ['/'] provider.toList ||
          containsText ['\\'] provider.toList then none else
      let midnight ← strptime sessionDate
      let hour ← (List.range 24).find? fun hour => hourRaw = twoDigits hour
      pure { sourceParts := parts
             provider, sessionDate, hour
             startAt := midnight + hour * (3600 * 1000000) }
  | _ => none

/-! ## Manifests -/

def manifestVersion : Int := 1

inductive ManifestStatus
  | verified
  | empty
  | other (text : String)
  deriving DecidableEq

/-- The `completed_at` text, as `datetime.fromisoformat` reads it. -/
inductive CompletedAt
  | invalid
  | naive
  | aware (at_ : Instant)
  deriving DecidableEq

structure CompactionManifest where
  manifestVersion : Int
  dataset : String
  schemaVersion : String
  writerVersion : String
  status : ManifestStatus
  sourcePath : String
  sourceSize : Int
  sourceMtimeNs : Int
  sourceSha256 : String
  outputPath : Option String
  outputSize : Option Int
  outputSha256 : Option String
  rowCount : Int
  minReceivedAt : Option String
  maxReceivedAt : Option String
  minSourceAt : Option String
  maxSourceAt : Option String
  completedAt : CompletedAt
  deriving DecidableEq

/-! ## What is given -/

inductive FaultKind
  | fileNotFound
  | osError
  | runtimeError
  | valueError
  | assertionError
  | duckdb
  deriving DecidableEq

/-- An exception; `text` is `type: message`. -/
structure Fault where
  kind : FaultKind
  text : String

def Fault.isOsError (fault : Fault) : Bool :=
  fault.kind = .fileNotFound || fault.kind = .osError

/-- `except (OSError, RuntimeError)`. -/
def Fault.isOsOrRuntime (fault : Fault) : Bool :=
  fault.isOsError || fault.kind = .runtimeError

structure NormalizedQuoteStats where
  rowCount : Int
  minReceivedAt : String
  maxReceivedAt : String
  minSourceAt : String
  maxSourceAt : String
  deriving DecidableEq

/-- The digest, the clock's texts, and DuckDB: the rows it reads from JSONL text, the file it writes
for them and the rows it reads back. -/
structure LakeTools (Rows : Type) where
  sha256 : Bytes → String
  isoformat : Instant → String
  integer : Int → JsonNumber
  strptime : String → Option Instant
  normalize : RawQuotePartition → String → Bytes → Except Fault Rows
  stats : Rows → NormalizedQuoteStats
  parquet : Rows → Bytes
  readParquet : Bytes → Except Fault Rows

/-! ## Files -/

structure StoredFile where
  bytes : Bytes
  mtimeNs : Int
  deriving DecidableEq

inductive LakePath
  | source
  | parquet
  /-- The Parquet file while it is written; its name is stable. -/
  | temp
  | quarantine (hex : String)
  deriving DecidableEq

/-- The partition's files. `synced` is how much of the audit a completed `fsync` covers, and `moved`
records the bytes that the rename into quarantine took from the source path. -/
structure FileSystem where
  source : Option StoredFile
  sourceIsSymlink : Bool := false
  parentIsSymlink : Bool := false
  quarantined : List (String × StoredFile) := []
  parquet : Option StoredFile := none
  parquetIsSymlink : Bool := false
  temp : Option StoredFile := none
  manifest : Option CompactionManifest := none
  audit : List Char := []
  synced : Nat := 0
  moved : Option Bytes := none

def FileSystem.file (fs : FileSystem) : LakePath → Option StoredFile
  | .source => fs.source
  | .parquet => fs.parquet
  | .temp => fs.temp
  | .quarantine hex => fs.quarantined.lookup hex

structure FileStat where
  size : Nat
  mtimeNs : Int

/-! ## Calls -/

inductive LakeCall (Rows : Type)
  | stat (path : LakePath)
  | read (path : LakePath)
  | isFile (path : LakePath)
  | sourceIsSymlink
  | parentIsSymlink
  | parquetIsSymlink
  /-- `data_root.resolve(strict=True)`. -/
  | resolveRoot
  | loadManifest
  | writeManifest (manifest : CompactionManifest)
  | unlinkTemp
  | createNormalizedQuotes (sourceSha256 : String)
  | writeNormalizedParquet (rows : Rows)
  | readParquet (path : LakePath)
  /-- `os.replace(temp_path, parquet_path)`. -/
  | replaceParquet
  /-- `uuid4().hex`. -/
  | uuid4
  | renameToQuarantine (hex : String)
  | unlinkQuarantine (hex : String)
  | appendAudit (text : List Char)
  | fsyncAudit

def Answer {Rows : Type} : LakeCall Rows → Type
  | .stat _ => FileStat
  | .read _ => Bytes
  | .isFile _ | .sourceIsSymlink | .parentIsSymlink | .parquetIsSymlink => Bool
  | .loadManifest => Option CompactionManifest
  | .createNormalizedQuotes _ | .readParquet _ => Rows
  | .uuid4 => String
  | .resolveRoot | .writeManifest _ | .unlinkTemp | .writeNormalizedParquet _ | .replaceParquet
  | .renameToQuarantine _ | .unlinkQuarantine _ | .appendAudit _ | .fsyncAudit => Unit

/-- How a call goes: the exception it raises, whether it had taken effect by then, how much of a
write got out before the failure or the stop, and the clock and random name it meets. -/
structure Course where
  error : Option Fault := none
  late : Bool := false
  cut : Nat := 0
  mtimeNs : Int := 0
  hex : String := ""

section Host

variable {Rows : Type} (tools : LakeTools Rows) (partition : RawQuotePartition)

def notFound (fs : FileSystem) {α : Type} : Except Fault α × FileSystem :=
  (.error ⟨.fileNotFound, "FileNotFoundError: No such file or directory"⟩, fs)

/-- The answer of a call that is not disturbed. -/
def respond (course : Course) (fs : FileSystem) :
    (call : LakeCall Rows) → Except Fault (Answer call) × FileSystem
  | .stat path =>
    match fs.file path with
    | some file => (.ok ⟨file.bytes.length, file.mtimeNs⟩, fs)
    | none => notFound fs
  | .read path =>
    match fs.file path with
    | some file => (.ok file.bytes, fs)
    | none => notFound fs
  | .isFile path => (.ok (fs.file path).isSome, fs)
  | .sourceIsSymlink => (.ok fs.sourceIsSymlink, fs)
  | .parentIsSymlink => (.ok fs.parentIsSymlink, fs)
  | .parquetIsSymlink => (.ok fs.parquetIsSymlink, fs)
  | .resolveRoot => (.ok (), fs)
  | .loadManifest => (.ok fs.manifest, fs)
  | .writeManifest manifest => (.ok (), { fs with manifest := some manifest })
  | .unlinkTemp => (.ok (), { fs with temp := none })
  | .createNormalizedQuotes sourceSha256 =>
    match fs.source with
    | some file => (tools.normalize partition sourceSha256 file.bytes, fs)
    | none => notFound fs
  | .writeNormalizedParquet rows =>
    (.ok (), { fs with temp := some ⟨tools.parquet rows, course.mtimeNs⟩ })
  | .readParquet path =>
    match fs.file path with
    | some file => (tools.readParquet file.bytes, fs)
    | none => notFound fs
  | .replaceParquet =>
    match fs.temp with
    | some file =>
      (.ok (), { fs with parquet := some file, parquetIsSymlink := false, temp := none })
    | none => notFound fs
  | .uuid4 => (.ok course.hex, fs)
  | .renameToQuarantine hex =>
    match fs.source with
    | some file =>
      (.ok (), { fs with
        source := none
        quarantined := (hex, file) :: fs.quarantined.filter (·.1 ≠ hex)
        moved := some file.bytes })
    | none => notFound fs
  | .unlinkQuarantine hex =>
    match fs.quarantined.lookup hex with
    | some _ => (.ok (), { fs with quarantined := fs.quarantined.filter (·.1 ≠ hex) })
    | none => notFound fs
  | .appendAudit text => (.ok (), { fs with audit := fs.audit ++ text })
  | .fsyncAudit => (.ok (), { fs with synced := fs.audit.length })

/-- What is left of a call that was cut short: a part of what it wrote. -/
def cutShort (course : Course) (fs : FileSystem) : LakeCall Rows → FileSystem
  | .writeNormalizedParquet rows =>
    { fs with temp := some ⟨(tools.parquet rows).take course.cut, course.mtimeNs⟩ }
  | .appendAudit text => { fs with audit := fs.audit ++ text.take course.cut }
  | _ => fs

def performLake (call : LakeCall Rows) (course : Course) (fs : FileSystem) :
    Except Fault (Answer call) × FileSystem :=
  match course.error with
  | none => respond tools partition course fs call
  | some fault =>
    (.error fault,
      if course.late then (respond tools partition course fs call).2
      else cutShort tools course fs call)

def lakeHost : Host (LakeCall Rows) Answer Fault FileSystem Course where
  perform := performLake tools partition
  cut call course fs := cutShort tools course fs call

end Host

/-- A piece of the compactor's code. -/
abbrev Lake (Rows α : Type) := Program (LakeCall Rows) Answer Fault α

section Calls

variable {Rows : Type}

abbrev statFile (path : LakePath) : Lake Rows FileStat := Program.perform (LakeCall.stat path)

abbrev readFile (path : LakePath) : Lake Rows Bytes := Program.perform (LakeCall.read path)

abbrev isFile (path : LakePath) : Lake Rows Bool := Program.perform (LakeCall.isFile path)

abbrev sourceIsSymlink : Lake Rows Bool := Program.perform LakeCall.sourceIsSymlink

abbrev parentIsSymlink : Lake Rows Bool := Program.perform LakeCall.parentIsSymlink

abbrev parquetIsSymlink : Lake Rows Bool := Program.perform LakeCall.parquetIsSymlink

abbrev uuid4 : Lake Rows String := Program.perform LakeCall.uuid4

abbrev loadManifest : Lake Rows (Option CompactionManifest) := Program.perform LakeCall.loadManifest

abbrev readParquetRows (path : LakePath) : Lake Rows Rows :=
  Program.perform (LakeCall.readParquet path)

end Calls

/-! ## Integrity -/

structure SourceSnapshot where
  size : Nat
  mtimeNs : Int
  sha256 : String
  deriving DecidableEq

section Code

variable {Rows : Type} (tools : LakeTools Rows)

def snapshotSource (path : LakePath) : Lake Rows SourceSnapshot := do
  let before ← statFile path
  let content ← readFile path
  let after ← statFile path
  if before.size ≠ after.size ∨ before.mtimeNs ≠ after.mtimeNs then
    .raise ⟨.runtimeError, "RuntimeError: source changed while hashing"⟩
  else
    pure { size := after.size, mtimeNs := after.mtimeNs, sha256 := tools.sha256 content }

/-- What `bytes.strip` removes. -/
def isSpaceByte (byte : UInt8) : Bool :=
  byte = 32 || (9 ≤ byte && byte ≤ 13)

/-- The lines that are not blank. -/
def jsonlRows (content : Bytes) : Nat :=
  (pieces 10 content).countP fun line => line.any fun byte => !isSpaceByte byte

def countJsonlRows (path : LakePath) : Lake Rows Int := do
  let content ← readFile path
  pure (jsonlRows content)

def countParquetRows (path : LakePath) : Lake Rows Int := do
  let rows ← readParquetRows path
  pure (tools.stats rows).rowCount

def verifyParquet (path : LakePath) (expected : NormalizedQuoteStats) : Lake Rows Unit := do
  let rows ← readParquetRows path
  if tools.stats rows ≠ expected then
    .raise ⟨.valueError, "ValueError: Parquet verification failed"⟩
  else
    pure ()

end Code

end SpxSpark.DataPlatform
