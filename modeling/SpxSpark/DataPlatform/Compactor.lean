import SpxSpark.DataPlatform.RawDelete

/-!
# Compactor — one partition from JSONL to verified Parquet

`compactOne` publishes a closed hour: the Parquet file is written beside its place, read back, moved
into place, and only then described by a manifest.
-/

namespace SpxSpark.DataPlatform

open Lib

section Code

variable {Rows : Type} (tools : LakeTools Rows) (compactor : QuoteLakeCompactor)
  (partition : RawQuotePartition)

/-! ## What an existing manifest says -/

/-- The manifest was written for this path by this version of the compactor. -/
def CompactionManifest.IsOurs (manifest : CompactionManifest) : Prop :=
  manifest.sourcePath = partition.sourceRelativePath ∧
    manifest.schemaVersion = quoteSchemaVersion ∧ manifest.writerVersion = quoteWriterVersion

instance (manifest : CompactionManifest) : Decidable (manifest.IsOurs partition) := by
  unfold CompactionManifest.IsOurs
  infer_instance

variable (existing : Option CompactionManifest)

/-- Fast idempotence path; avoids re-hashing every retained raw hour. -/
def manifestMatchesMetadata (sourceStat : FileStat) : Lake Rows Bool :=
  match existing with
  | none => pure false
  | some manifest =>
    if manifest.status ≠ .verified ∧ manifest.status ≠ .empty then pure false
    else if ¬ manifest.IsOurs partition then pure false
    else if manifest.sourceSize ≠ sourceStat.size then pure false
    else if manifest.sourceMtimeNs ≠ sourceStat.mtimeNs then pure false
    else if manifest.status = .empty then
      pure (sourceStat.size = 0 ∧ manifest.outputPath = none)
    else if manifest.outputPath ≠ some partition.parquetPath then pure false
    else if manifest.outputSize = none ∨ manifest.outputSha256.getD "" = "" then pure false
    else do
      if !(← isFile .parquet) then pure false
      else do
        match ← (snapshotSource tools .parquet).attempt Fault.isOsOrRuntime with
        | .error _ => pure false
        | .ok output => pure (manifest.OutputIs output)

def verifiedManifestMatches (source : SourceSnapshot) : Lake Rows Bool :=
  match existing with
  | none => pure false
  | some manifest =>
    if manifest.status ≠ .verified then pure false
    else if ¬ manifest.SourceIs source then pure false
    else if ¬ manifest.IsOurs partition then pure false
    else do
      if !(← isFile .parquet) then pure false
      else if manifest.outputSha256.getD "" = "" then pure false
      else do
        match ← (snapshotSource tools .parquet).attempt Fault.isOsOrRuntime with
        | .error _ => pure false
        | .ok output => pure (manifest.outputSha256 = some output.sha256)

/-- `assert existing is not None`. -/
def assertionFailed {α : Type} : Lake Rows α := .raise ⟨.assertionError, "AssertionError: "⟩

/-! ## Publishing -/

def verifiedManifest (source output : SourceSnapshot) (stats : NormalizedQuoteStats)
    (now : Instant) : CompactionManifest where
  manifestVersion := manifestVersion
  dataset := "quotes"
  schemaVersion := quoteSchemaVersion
  writerVersion := quoteWriterVersion
  status := .verified
  sourcePath := partition.sourceRelativePath
  sourceSize := source.size
  sourceMtimeNs := source.mtimeNs
  sourceSha256 := source.sha256
  outputPath := some partition.parquetPath
  outputSize := some output.size
  outputSha256 := some output.sha256
  rowCount := stats.rowCount
  minReceivedAt := some stats.minReceivedAt
  maxReceivedAt := some stats.maxReceivedAt
  minSourceAt := some stats.minSourceAt
  maxSourceAt := some stats.maxSourceAt
  completedAt := .aware now

def emptyManifest (source : SourceSnapshot) (now : Instant) : CompactionManifest where
  manifestVersion := manifestVersion
  dataset := "quotes"
  schemaVersion := quoteSchemaVersion
  writerVersion := quoteWriterVersion
  status := .empty
  sourcePath := partition.sourceRelativePath
  sourceSize := source.size
  sourceMtimeNs := source.mtimeNs
  sourceSha256 := source.sha256
  outputPath := none
  outputSize := none
  outputSha256 := none
  rowCount := 0
  minReceivedAt := none
  maxReceivedAt := none
  minSourceAt := none
  maxSourceAt := none
  completedAt := .aware now

/-- The body of the `try`: the rows are read from the source, which has to be unchanged when the
written file has been checked. -/
def writeVerifiedParquet (snapshot : SourceSnapshot) (now : Instant) :
    Lake Rows (CompactionManifest × NormalizedQuoteStats) := do
  Program.perform LakeCall.unlinkTemp
  let rows : Rows ← Program.perform (LakeCall.createNormalizedQuotes snapshot.sha256)
  let stats := tools.stats rows
  Program.perform (LakeCall.writeNormalizedParquet rows)
  verifyParquet tools .temp stats
  let after ← snapshotSource tools .source
  if after ≠ snapshot then
    .raise ⟨.runtimeError, "RuntimeError: source changed while compaction was running"⟩
  else do
    let outputSnapshot ← snapshotSource tools .temp
    Program.perform LakeCall.replaceParquet
    let manifest := verifiedManifest partition snapshot outputSnapshot stats now
    Program.perform (LakeCall.writeManifest manifest)
    pure (manifest, stats)

/-- `except Exception` and `finally`. -/
def publishParquet (snapshot : SourceSnapshot) (now : Instant) :
    Lake Rows (Except Fault (CompactionManifest × NormalizedQuoteStats)) := do
  let published ← (writeVerifiedParquet tools partition snapshot now).attempt fun _ => true
  let _ ← (Program.perform LakeCall.unlinkTemp).attempt Fault.isOsError
  pure published

/-- A source without a byte. -/
def markEmpty (snapshot : SourceSnapshot) (now : Instant) (dryRun : Bool) :
    Lake Rows CompactionResult := do
  let sourceLabel := partition.sourceRelativePath
  let known := existing.any fun manifest =>
    manifest.status = .empty && manifest.sourcePath = sourceLabel &&
      manifest.sourceSha256 = snapshot.sha256
  if known then
    pure { sourcePath := sourceLabel, outputPath := none, status := .emptyUpToDate
           sourceSha256 := some snapshot.sha256 }
  else if existing.any (·.status = .verified) then
    pure { sourcePath := sourceLabel, outputPath := some partition.parquetPath, status := .failed
           rowCount := (existing.map (·.rowCount)).getD 0
           sourceSha256 := some snapshot.sha256
           detail := some
             "closed source became empty; preserved previous verified partition" }
  else if dryRun then
    pure { sourcePath := sourceLabel, outputPath := none, status := .wouldMarkEmpty
           sourceSha256 := some snapshot.sha256 }
  else do
    let manifest := emptyManifest partition snapshot now
    match ← (Program.perform (LakeCall.writeManifest manifest)).attempt Fault.isOsError with
    | .error fault =>
      pure { sourcePath := sourceLabel, outputPath := none, status := .failed
             sourceSha256 := some snapshot.sha256, detail := some fault.text }
    | .ok _ =>
      pure { sourcePath := sourceLabel, outputPath := none, status := .empty
             sourceSha256 := some snapshot.sha256 }

/-- A source whose bytes have been read. -/
def compactSnapshot (snapshot : SourceSnapshot) (now : Instant) (dryRun : Bool) :
    Lake Rows CompactionResult := do
  let sourceLabel := partition.sourceRelativePath
  let outputLabel := some partition.parquetPath
  if snapshot.size = 0 then markEmpty partition existing snapshot now dryRun
  else do
  if (← verifiedManifestMatches tools partition existing snapshot) then
    match existing with
    | none => assertionFailed
    | some manifest =>
      let result : CompactionResult :=
        { sourcePath := sourceLabel, outputPath := outputLabel, status := .upToDate
          rowCount := manifest.rowCount, sourceSha256 := some snapshot.sha256 }
      maybeDeleteRaw tools compactor partition result manifest now dryRun
  else if dryRun then
    pure { sourcePath := sourceLabel, outputPath := outputLabel, status := .wouldCompact
           sourceSha256 := some snapshot.sha256 }
  else do
    match ← publishParquet tools partition snapshot now with
    | .error fault =>
      pure { sourcePath := sourceLabel, outputPath := none, status := .failed
             sourceSha256 := some snapshot.sha256, detail := some fault.text }
    | .ok (manifest, stats) =>
      let result : CompactionResult :=
        { sourcePath := sourceLabel, outputPath := outputLabel, status := .compacted
          rowCount := stats.rowCount, sourceSha256 := some snapshot.sha256 }
      maybeDeleteRaw tools compactor partition result manifest now false

/-- `datetime.fromtimestamp` of a modification time. -/
def fromtimestamp (mtimeNs : Int) : Instant := roundHalfEven ((mtimeNs : ℚ) / 1000)

def compactOne (now : Instant) (dryRun : Bool) : Lake Rows CompactionResult := do
  let sourceLabel := partition.sourceRelativePath
  if partition.endAt > now then
    pure { sourcePath := sourceLabel, outputPath := none, status := .activeHour
           detail := some "hour is not closed" }
  else do
  match ← (statFile .source).attempt Fault.isOsError with
  | .error fault =>
    if fault.kind = .fileNotFound then
      pure { sourcePath := sourceLabel, outputPath := none, status := .vanished }
    else
      pure { sourcePath := sourceLabel, outputPath := none, status := .failed
             detail := some fault.text }
  | .ok stat =>
  let settleCutoff := now - timedelta compactor.settleSeconds
  if fromtimestamp stat.mtimeNs > settleCutoff then
    pure { sourcePath := sourceLabel, outputPath := none, status := .settling
           detail := some "source mtime is recent" }
  else do
  let existing ← loadManifest
  if (← manifestMatchesMetadata tools partition existing stat) then
    match existing with
    | none => assertionFailed
    | some manifest =>
      let result : CompactionResult :=
        { sourcePath := sourceLabel
          outputPath := manifest.outputPath
          status := if manifest.status = .empty then .emptyUpToDate else .upToDate
          rowCount := manifest.rowCount
          sourceSha256 := some manifest.sourceSha256 }
      maybeDeleteRaw tools compactor partition result manifest now dryRun
  else do
  match ← (snapshotSource tools .source).attempt Fault.isOsOrRuntime with
  | .error fault =>
    pure { sourcePath := sourceLabel, outputPath := none, status := .failed
           detail := some fault.text }
  | .ok snapshot => compactSnapshot tools compactor partition existing snapshot now dryRun

/-- Delete only the exact source lineage already authorized by a caller. -/
def deleteRawIfManifestMatches (expected : CompactionManifest) (now : Instant) (dryRun : Bool) :
    Lake Rows CompactionResult := do
  let current ← loadManifest
  if current ≠ some expected then
    pure { sourcePath := partition.sourceRelativePath
           outputPath := expected.outputPath
           status := .rawDeleteBlocked
           rowCount := expected.rowCount
           sourceSha256 := some expected.sourceSha256
           detail := some "compaction manifest changed after replay authorization" }
  else
    let result : CompactionResult :=
      { sourcePath := partition.sourceRelativePath
        outputPath := expected.outputPath
        status := if expected.status = .empty then .emptyUpToDate else .upToDate
        rowCount := expected.rowCount
        sourceSha256 := some expected.sourceSha256 }
    maybeDeleteRaw tools compactor partition result expected now dryRun

/-! ## Runs -/

/-- What is asked of the compactor, and the clock it is asked with. -/
inductive LakeJob
  | compactOne (now : Instant) (dryRun : Bool)
  | deleteRaw (expected : CompactionManifest) (now : Instant) (dryRun : Bool)

def LakeJob.now : LakeJob → Instant
  | .compactOne now _ => now
  | .deleteRaw _ now _ => now

/-- The collector leaves the source with these bytes. -/
structure SourceWrite where
  bytes : Bytes
  mtimeNs : Int

/-- The compactor on one partition. -/
def lakeSystem : System (LakeCall Rows) Answer Fault FileSystem Course LakeJob SourceWrite
    CompactionResult where
  host := lakeHost tools partition
  job
    | .compactOne now dryRun => compactOne tools compactor partition now dryRun
    | .deleteRaw expected now dryRun =>
      deleteRawIfManifestMatches tools compactor partition expected now dryRun
  others write fs := { fs with source := some ⟨write.bytes, write.mtimeNs⟩ }

/-- Writes to the source are over by the time the partition is quarantined. -/
def writesFinished (fs : FileSystem) (_ : SourceWrite) : Prop := fs.moved = none

end Code

end SpxSpark.DataPlatform
