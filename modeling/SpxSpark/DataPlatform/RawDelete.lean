import SpxSpark.DataPlatform.QuoteLake

/-!
# RawDelete — deleting a raw file that has a verified copy

The gate, the evidence, the authorization and the quarantine of one deletion. The raw file is never
unlinked under its own name: it is renamed first, read again there, and unlinked only when what was
read is what the manifest records.
-/

namespace SpxSpark.DataPlatform

open Lib

/-! ## Results -/

inductive CompactionStatus
  | activeHour
  | vanished
  | failed
  | settling
  | upToDate
  | emptyUpToDate
  | wouldMarkEmpty
  | empty
  | wouldCompact
  | compacted
  | rawDeleteBlocked
  | wouldDeleteRaw
  | rawDeleted
  | rawDeleteAuditFailed
  | rawDeleteFailed
  deriving DecidableEq

def CompactionStatus.value : CompactionStatus → String
  | .activeHour => "active_hour"
  | .vanished => "vanished"
  | .failed => "failed"
  | .settling => "settling"
  | .upToDate => "up_to_date"
  | .emptyUpToDate => "empty_up_to_date"
  | .wouldMarkEmpty => "would_mark_empty"
  | .empty => "empty"
  | .wouldCompact => "would_compact"
  | .compacted => "compacted"
  | .rawDeleteBlocked => "raw_delete_blocked"
  | .wouldDeleteRaw => "would_delete_raw"
  | .rawDeleted => "raw_deleted"
  | .rawDeleteAuditFailed => "raw_delete_audit_failed"
  | .rawDeleteFailed => "raw_delete_failed"

structure CompactionResult where
  sourcePath : String
  outputPath : Option String
  status : CompactionStatus
  rowCount : Int := 0
  sourceSha256 : Option String := none
  detail : Option String := none

/-- The compactor's settings; the constructor refuses a shorter grace. -/
structure QuoteLakeCompactor where
  rawFileName : String
  settleSeconds : ℚ
  rawDeleteEnabled : Bool
  rawDeleteGraceHours : Int
  graceFloor : 24 ≤ rawDeleteGraceHours

def hours (n : Int) : Int := n * (3600 * 1000000)

/-! ## The gate -/

inductive RawDeletePhase
  | retained
  | metadata
  | blocked
  deriving DecidableEq

structure RawDeleteGate where
  phase : RawDeletePhase
  reason : Option String := none

def rawDeleteGate (compactor : QuoteLakeCompactor) (resultStatus : CompactionStatus)
    (manifest : CompactionManifest) (partitionEnd now : Instant) : RawDeleteGate :=
  if !compactor.rawDeleteEnabled || !(resultStatus = .compacted || resultStatus = .upToDate) then
    ⟨.retained, none⟩
  else if manifest.status ≠ .verified ∨ partitionEnd > now then
    ⟨.retained, none⟩
  else
    match manifest.completedAt with
    | .invalid => ⟨.blocked, some "manifest completed_at is invalid"⟩
    | .naive => ⟨.blocked, some "manifest completed_at must be timezone-aware"⟩
    | .aware completedAt =>
      let graceDeadline := completedAt + hours compactor.rawDeleteGraceHours
      if now ≥ graceDeadline then ⟨.metadata, none⟩ else ⟨.retained, none⟩

section Code

variable {Rows : Type} (tools : LakeTools Rows) (compactor : QuoteLakeCompactor)
  (partition : RawQuotePartition)

variable (result : CompactionResult)

def rawDeleteBlocked (detail : String) (sourceSha256 : Option String := none) : CompactionResult :=
  { sourcePath := result.sourcePath
    outputPath := result.outputPath
    status := .rawDeleteBlocked
    rowCount := result.rowCount
    sourceSha256 := if sourceSha256.isSome then sourceSha256 else result.sourceSha256
    detail := some detail }

/-! ## The target -/

def malformedSegment (parts : List String) : Option String :=
  [(1, "provider="), (2, "date="), (3, "hour=")].findSome? fun (index, label) =>
    if (removePrefix? label (parts.getD index "")).isSome then none
    else some ("malformed " ++ String.ofList (label.toList.takeWhile (· ≠ '=')) ++ " path segment")

/-- What the labels of a path have against it. -/
def unsafeLabelReason (parts : List String) : Option String :=
  if parts.length ≠ 5 ∨ parts.head? ≠ some "raw" then
    some "source path is not a raw hourly landing file"
  else if (malformedSegment parts).isSome then malformedSegment parts
  else if parts.any fun part => part ∈ ["latest", "runtime", "manifests", "lake", "analytics"] then
    some "refusing to touch latest/runtime/manifest/lake paths"
  else
    let name := parts.getLastD ""
    if ['.'] <+: name.toList ∨ ".lock".toList <:+ name.toList then
      some "refusing to delete lock or hidden runtime files"
    else if name ≠ compactor.rawFileName then
      some "source file name does not match configured raw landing name"
    else none

def lstatFailed (fault : Fault) : Option String :=
  some ("source path lstat failed: " ++ fault.text)

def unsafeRawDeleteTargetReason : Lake Rows (Option String) := do
  match ← sourceIsSymlink.attempt Fault.isOsError with
  | .error fault => pure (lstatFailed fault)
  | .ok true => pure (some "refusing to delete via symlink")
  | .ok false =>
  match ← (Program.perform LakeCall.resolveRoot).attempt Fault.isOsError with
  | .error _ => pure (some "data root is not resolvable")
  | .ok _ =>
  match unsafeLabelReason compactor partition.sourceParts with
  | some reason => pure (some reason)
  | none =>
  match ← parentIsSymlink.attempt Fault.isOsError with
  | .error fault => pure (lstatFailed fault)
  | .ok true => pure (some "refusing to delete via symlink")
  | .ok false =>
  -- `resolve(strict=True)` wants the file to be there
  match ← (statFile .source).attempt Fault.isOsError with
  | .error _ => pure (some "source path is outside the data root")
  | .ok _ =>
  match ← (statFile .source).attempt Fault.isOsError with
  | .error fault => pure (lstatFailed fault)
  | .ok _ =>
    if (parseRawQuotePartition tools.strptime partition.sourceParts).isNone then
      pure (some "source path failed strict raw partition parse")
    else
      pure none

/-! ## Metadata and evidence -/

variable (manifest : CompactionManifest)

def rawDeleteMetadataReason : Lake Rows (Option String) := do
  match ← unsafeRawDeleteTargetReason tools compactor partition with
  | some reason => pure (some reason)
  | none =>
    if manifest.sourcePath ≠ partition.sourceRelativePath then
      pure (some "manifest source_path does not match partition source path")
    else if manifest.outputPath.getD "" = "" ∨ manifest.outputSha256.getD "" = "" ∨
        manifest.outputSize = none then
      pure (some "verified manifest is missing parquet output metadata")
    else if manifest.outputPath ≠ some partition.parquetPath then
      pure (some "manifest output_path does not match partition parquet path")
    else do
      if (← parquetIsSymlink) then pure (some "parquet output is missing")
      else if !(← isFile .parquet) then pure (some "parquet output is missing")
      else pure none

structure RawDeleteEvidence where
  source : SourceSnapshot
  output : SourceSnapshot
  sourceRows : Int
  parquetRows : Int

/-- The file is the one the manifest names as its output. -/
def CompactionManifest.OutputIs (output : SourceSnapshot) : Prop :=
  manifest.outputSha256 = some output.sha256 ∧ manifest.outputSize = some (output.size : Int)

/-- The bytes are the ones the manifest was made from. -/
def CompactionManifest.SourceIs (source : SourceSnapshot) : Prop :=
  manifest.sourceSha256 = source.sha256 ∧ manifest.sourceSize = source.size

instance (manifest : CompactionManifest) (output : SourceSnapshot) :
    Decidable (manifest.OutputIs output) := by
  unfold CompactionManifest.OutputIs
  infer_instance

instance (manifest : CompactionManifest) (source : SourceSnapshot) :
    Decidable (manifest.SourceIs source) := by
  unfold CompactionManifest.SourceIs
  infer_instance

def parquetMismatch : String := "parquet checksum or size does not match manifest"

def sourceMismatch : String := "source checksum or size no longer matches manifest"

variable (evidence : RawDeleteEvidence)

def evidenceMismatchReason (manifest : CompactionManifest) : Option String :=
  if ¬ manifest.OutputIs evidence.output then some parquetMismatch
  else if ¬ manifest.SourceIs evidence.source then some sourceMismatch
  else if evidence.sourceRows ≠ manifest.rowCount ∨ evidence.parquetRows ≠ manifest.rowCount ∨
      evidence.sourceRows ≠ evidence.parquetRows then
    some ("row count mismatch (source=" ++ toString evidence.sourceRows ++ " parquet=" ++
      toString evidence.parquetRows ++ " manifest=" ++ toString manifest.rowCount ++ ")")
  else none

/-- What is known of both files, or the result that says why nothing is deleted. -/
def rawDeleteEvidence (result : CompactionResult) :
    Lake Rows (Except CompactionResult RawDeleteEvidence) := do
  match ← (snapshotSource tools .parquet).attempt Fault.isOsOrRuntime with
  | .error fault =>
    pure (.error (rawDeleteBlocked result ("parquet verification failed: " ++ fault.text)))
  | .ok output =>
  if ¬ manifest.OutputIs output then
    pure (.error (rawDeleteBlocked result parquetMismatch))
  else do
  match ← (snapshotSource tools .source).attempt Fault.isOsOrRuntime with
  | .error fault =>
    pure (.error (rawDeleteBlocked result ("source verification failed: " ++ fault.text)))
  | .ok source =>
  if ¬ manifest.SourceIs source then
    pure (.error (rawDeleteBlocked result sourceMismatch source.sha256))
  else do
  let counted := (do
    let sourceRows ← countJsonlRows .source
    let parquetRows ← countParquetRows tools .parquet
    pure { source, output, sourceRows, parquetRows } : Lake Rows RawDeleteEvidence)
  match ← counted.attempt Fault.isOsOrRuntime with
  | .error fault =>
    pure (.error (rawDeleteBlocked result ("row count verification failed: " ++ fault.text)
      source.sha256))
  | .ok evidence =>
    match evidenceMismatchReason evidence manifest with
    | some reason => pure (.error (rawDeleteBlocked result reason source.sha256))
    | none => pure (.ok evidence)

/-! ## The audit -/

/-- What both audit lines of one deletion have in common. -/
structure AuditBase where
  sourcePath : String
  outputPath : Option String
  sourceSha256 : String
  outputSha256 : String
  sourceSize : Int
  outputSize : Int
  rowCount : Int

def rawDeleteAuditBase : AuditBase where
  sourcePath := partition.sourceRelativePath
  outputPath := manifest.outputPath
  sourceSha256 := evidence.source.sha256
  outputSha256 := evidence.output.sha256
  sourceSize := evidence.source.size
  outputSize := evidence.output.size
  rowCount := manifest.rowCount

def text (value : String) : Json := .string value.toList

def optionalText : Option String → Json
  | some value => text value
  | none => .null

/-- The members of an audit line, in the order of `sort_keys`. -/
def auditMembers (now : Instant) (base : AuditBase) (event status : String)
    (detail : Option String) (quarantine : List (List Char × Json)) : List (List Char × Json) :=
  [("at".toList, text (tools.isoformat now)),
    ("detail".toList, optionalText detail),
    ("event".toList, text event),
    ("output_path".toList, optionalText base.outputPath),
    ("output_sha256".toList, text base.outputSha256),
    ("output_size".toList, .number (tools.integer base.outputSize))] ++ quarantine ++
  [("row_count".toList, .number (tools.integer base.rowCount)),
    ("source_path".toList, text base.sourcePath),
    ("source_sha256".toList, text base.sourceSha256),
    ("source_size".toList, .number (tools.integer base.sourceSize)),
    ("status".toList, text status)]

def auditLine (members : List (List Char × Json)) : List Char :=
  (Json.object members).render ++ ['\n']

def authorizeLine (now : Instant) (base : AuditBase) : List Char :=
  auditLine (auditMembers tools now base "authorize" "authorized"
    (some "pre-delete verification passed; quarantine unlink authorized") [])

def finalLine (now : Instant) (base : AuditBase) (result : CompactionResult)
    (quarantinePath : Option String) : List Char :=
  auditLine (auditMembers tools now base "final" result.status.value result.detail
    [("quarantine_path".toList, optionalText quarantinePath)])

/-- The write loop and the `fsync` behind it. -/
def appendRawDeletionAudit (line : List Char) : Lake Rows Unit := do
  Program.perform (LakeCall.appendAudit line)
  Program.perform LakeCall.fsyncAudit

/-- The result of an attempt, with what went wrong. -/
def deleteOutcome (status : CompactionStatus) (sourceSha256 : String) (detail : String) :
    CompactionResult :=
  { sourcePath := result.sourcePath
    outputPath := result.outputPath
    status
    rowCount := result.rowCount
    sourceSha256 := some sourceSha256
    detail := some detail }

def authorizeRawDelete (base : AuditBase) (evidence : RawDeleteEvidence) (now : Instant) :
    Lake Rows (Option CompactionResult) := do
  match ← (appendRawDeletionAudit (authorizeLine tools now base)).attempt Fault.isOsError with
  | .ok _ => pure none
  | .error fault =>
    pure (some (deleteOutcome result .rawDeleteAuditFailed evidence.source.sha256
      ("pre-delete audit fsync failed: " ++ fault.text)))

def finalizeRawDeletionAudit (base : AuditBase) (now : Instant) (quarantinePath : Option String) :
    Lake Rows CompactionResult := do
  let line := finalLine tools now base result quarantinePath
  match ← (appendRawDeletionAudit line).attempt Fault.isOsError with
  | .ok _ => pure result
  | .error fault =>
    pure { result with
      status := .rawDeleteAuditFailed
      detail := some ("final audit fsync failed after status=" ++ result.status.value ++ ": " ++
        fault.text ++ ((result.detail.map ("; prior_detail=" ++ ·)).getD "")) }

/-! ## Quarantine -/

def quarantineLabel (hex : String) : String :=
  "/".intercalate (partition.sourceParts.dropLast ++
    ["." ++ partition.fileName ++ ".raw-delete-quarantine." ++ hex])

def quarantineFailure (sourceSha256 detail hex : String) : CompactionResult :=
  deleteOutcome result .rawDeleteFailed sourceSha256
    (detail ++ "; quarantine_path=" ++ quarantineLabel partition hex)

/-- The rename; without it the result of the attempt is final. -/
def quarantineRaw (base : AuditBase) (now : Instant) :
    Lake Rows (Except CompactionResult String) := do
  let hex ← uuid4
  match ← (Program.perform (LakeCall.renameToQuarantine hex)).attempt Fault.isOsError with
  | .ok _ => pure (.ok hex)
  | .error fault =>
    let failure := deleteOutcome result .rawDeleteFailed evidence.source.sha256
      ("quarantine rename failed: " ++ fault.text)
    let finalized ← finalizeRawDeletionAudit tools failure base now none
    pure (.error finalized)

def quarantinedEvidenceMatches (snapshot : SourceSnapshot) (rowCount : Int)
    (manifest : CompactionManifest) : Bool :=
  manifest.SourceIs snapshot && rowCount = manifest.rowCount

/-- The quarantined file read again; it stays where it is unless it is what the manifest records. -/
def verifyQuarantine (hex : String) (result : CompactionResult) (manifest : CompactionManifest)
    (evidence : RawDeleteEvidence) (base : AuditBase) (now : Instant) :
    Lake Rows (Except CompactionResult SourceSnapshot) := do
  let label := some (quarantineLabel partition hex)
  let read := (do
    let quarantined ← snapshotSource tools (.quarantine hex)
    let quarantinedRows ← countJsonlRows (.quarantine hex)
    pure (quarantined, quarantinedRows) : Lake Rows (SourceSnapshot × Int))
  match ← read.attempt Fault.isOsOrRuntime with
  | .error fault =>
    let failure := quarantineFailure partition result evidence.source.sha256
      ("quarantined raw preserved after re-verification error: " ++ fault.text) hex
    let finalized ← finalizeRawDeletionAudit tools failure base now label
    pure (.error finalized)
  | .ok (quarantined, quarantinedRows) =>
    if quarantinedEvidenceMatches quarantined quarantinedRows manifest then
      pure (.ok quarantined)
    else do
      let failure := quarantineFailure partition result quarantined.sha256
        "quarantined raw preserved after post-rename mismatch (sha256/size/rows)" hex
      let changedAudit := { base with
        sourceSha256 := quarantined.sha256
        sourceSize := quarantined.size
        rowCount := quarantinedRows }
      let finalized ← finalizeRawDeletionAudit tools failure changedAudit now label
      pure (.error finalized)

def verifyAndUnlinkQuarantine (hex : String) (result : CompactionResult)
    (manifest : CompactionManifest) (evidence : RawDeleteEvidence) (base : AuditBase)
    (now : Instant) : Lake Rows CompactionResult := do
  match ← verifyQuarantine tools partition hex result manifest evidence base now with
  | .error failure => pure failure
  | .ok verification =>
  match ← (Program.perform (LakeCall.unlinkQuarantine hex)).attempt Fault.isOsError with
  | .error fault =>
    let failure := quarantineFailure partition result evidence.source.sha256
      ("quarantined raw preserved after unlink failure: " ++ fault.text) hex
    finalizeRawDeletionAudit tools failure base now (some (quarantineLabel partition hex))
  | .ok _ =>
    let success := deleteOutcome result .rawDeleted verification.sha256
      "deleted verified closed-hour raw JSONL after grace period"
    finalizeRawDeletionAudit tools success base now none

def authorizeAndDeleteRaw (now : Instant) : Lake Rows CompactionResult := do
  let base := rawDeleteAuditBase partition manifest evidence
  match ← authorizeRawDelete tools result base evidence now with
  | some failure => pure failure
  | none =>
  match ← quarantineRaw tools result evidence base now with
  | .error failure => pure failure
  | .ok hex => verifyAndUnlinkQuarantine tools partition hex result manifest evidence base now

def rawDeleteDryRun : CompactionResult :=
  deleteOutcome result .wouldDeleteRaw evidence.source.sha256
    "raw JSONL eligible for verified deletion"

/-- Delete a verified closed-hour JSONL only when every safety gate passes. -/
def maybeDeleteRaw (now : Instant) (dryRun : Bool) : Lake Rows CompactionResult := do
  let gate := rawDeleteGate compactor result.status manifest partition.endAt now
  match gate.phase with
  | .retained => pure result
  | .blocked => pure (rawDeleteBlocked result (gate.reason.getD "eligibility blocked"))
  | .metadata =>
  match ← rawDeleteMetadataReason tools compactor partition manifest with
  | some reason => pure (rawDeleteBlocked result reason)
  | none =>
  match ← rawDeleteEvidence tools manifest result with
  | .error failure => pure failure
  | .ok evidence =>
    if dryRun then pure (rawDeleteDryRun result evidence)
    else authorizeAndDeleteRaw tools partition result manifest evidence now

end Code

end SpxSpark.DataPlatform
