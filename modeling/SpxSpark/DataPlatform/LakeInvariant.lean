import SpxSpark.DataPlatform.Compactor

/-!
# LakeInvariant — where the raw bytes are

Under the source path until a rename takes them, then in quarantine, and once they are unlinked in
the Parquet file that the manifest vouches for: `LakeInv`.
-/

namespace SpxSpark.DataPlatform

open Lib

section Runs

variable {Rows : Type} (tools : LakeTools Rows) (compactor : QuoteLakeCompactor)
  (partition : RawQuotePartition)

/-! ## What is kept -/

/-- The Parquet file is the one the manifest records, row for row. -/
structure OutputVerified (manifest : CompactionManifest) (output : StoredFile) (fs : FileSystem) :
    Prop where
  stored : fs.parquet = some output
  size : manifest.outputSize = some (output.bytes.length : Int)
  hash : manifest.outputSha256 = some (tools.sha256 output.bytes)
  rows : ∃ rows, tools.readParquet output.bytes = .ok rows ∧
    (tools.stats rows).rowCount = manifest.rowCount

/-- The manifest records the size, hash and rows of the raw bytes. -/
structure SourceRecorded (manifest : CompactionManifest) (raw : Bytes) : Prop where
  size : manifest.sourceSize = raw.length
  hash : manifest.sourceSha256 = tools.sha256 raw
  rows : manifest.rowCount = jsonlRows raw

/-- A verified manifest and its Parquet file stand for the raw bytes. -/
structure VerifiedCopy (raw : Bytes) (manifest : CompactionManifest) (output : StoredFile)
    (fs : FileSystem) : Prop where
  written : fs.manifest = some manifest
  verified : manifest.status = .verified
  output : OutputVerified tools manifest output fs
  source : SourceRecorded tools manifest raw

/-- The authorize line for these bytes is on disk. -/
def Authorized (raw : Bytes) (manifest : CompactionManifest) (output : StoredFile)
    (fs : FileSystem) : Prop :=
  ∃ at_, authorizeLine tools at_
    { sourcePath := partition.sourceRelativePath
      outputPath := manifest.outputPath
      sourceSha256 := tools.sha256 raw
      outputSha256 := tools.sha256 output.bytes
      sourceSize := raw.length
      outputSize := output.bytes.length
      rowCount := manifest.rowCount } <:+: fs.audit.take fs.synced

/-- The grace period after completion is over. -/
def GraceOver (manifest : CompactionManifest) (now : Instant) : Prop :=
  ∃ completedAt, manifest.completedAt = .aware completedAt ∧
    completedAt + hours compactor.rawDeleteGraceHours ≤ now

/-- Everything that an unlink of these bytes waits for. -/
structure Deletable (now : Instant) (raw : Bytes) (manifest : CompactionManifest)
    (output : StoredFile) (fs : FileSystem) : Prop where
  copy : VerifiedCopy tools raw manifest output fs
  authorized : Authorized tools partition raw manifest output fs
  grace : GraceOver compactor manifest now

/-- Where the raw bytes are. -/
inductive LakeInv (fs : FileSystem) : Prop
  | landed (hmoved : fs.moved = none) (hsource : fs.source.isSome = true)
      (hnone : fs.quarantined = [])
  | quarantined (raw : Bytes) (hex : String) (mtimeNs : Int) (hmoved : fs.moved = some raw)
      (hsource : fs.source = none) (hfile : fs.quarantined = [(hex, ⟨raw, mtimeNs⟩)])
  | deleted (raw : Bytes) (manifest : CompactionManifest) (output : StoredFile)
      (hmoved : fs.moved = some raw) (hsource : fs.source = none) (hnone : fs.quarantined = [])
      (hcopy : VerifiedCopy tools raw manifest output fs)

/-- Others touch the source only. -/
def SourceOnly (s t : FileSystem) : Prop := ∃ source, t = { s with source := source }

/-- A file is replaced only before a deletion, and unlinked only behind a verified copy. -/
def LakeSafe (job : LakeJob) (call : LakeCall Rows) (fs : FileSystem) : Prop :=
  match call with
  | .replaceParquet | .writeManifest _ => fs.moved = none
  | .unlinkQuarantine hex => ∀ file, (hex, file) ∈ fs.quarantined →
      ∃ manifest output, Deletable tools compactor partition job.now file.bytes manifest output fs
  | _ => True

def lakeRule (job : LakeJob) : Discipline (LakeCall Rows) FileSystem where
  inv := LakeInv tools
  rely := SourceOnly
  safe := LakeSafe tools compactor partition job

/-! ## Calls -/

/-- The call changes no file. -/
def IsRead : LakeCall Rows → Prop
  | .stat _ | .read _ | .isFile _ | .sourceIsSymlink | .parentIsSymlink | .parquetIsSymlink
  | .resolveRoot | .loadManifest | .createNormalizedQuotes _ | .readParquet _ | .uuid4 => True
  | .writeManifest _ | .unlinkTemp | .writeNormalizedParquet _ | .replaceParquet
  | .renameToQuarantine _ | .unlinkQuarantine _ | .appendAudit _ | .fsyncAudit => False

/-- The call leaves the raw bytes, the Parquet file and the manifest alone. -/
def IsHarmless : LakeCall Rows → Prop
  | .writeManifest _ | .replaceParquet | .renameToQuarantine _ | .unlinkQuarantine _ => False
  | _ => True

/-- The two states agree on all that `LakeInv` looks at. -/
def SameLake (s t : FileSystem) : Prop :=
  t.moved = s.moved ∧ t.source = s.source ∧ t.quarantined = s.quarantined ∧
    t.parquet = s.parquet ∧ t.manifest = s.manifest

variable {tools compactor partition} {job : LakeJob} {course : Course} {call : LakeCall Rows}
  {fs s t : FileSystem} {raw : Bytes} {manifest : CompactionManifest} {output : StoredFile}

theorem OutputVerified.congr (h : OutputVerified tools manifest output s)
    (hparquet : t.parquet = s.parquet) : OutputVerified tools manifest output t :=
  ⟨hparquet.trans h.stored, h.size, h.hash, h.rows⟩

theorem VerifiedCopy.congr (h : VerifiedCopy tools raw manifest output s)
    (hparquet : t.parquet = s.parquet) (hmanifest : t.manifest = s.manifest) :
    VerifiedCopy tools raw manifest output t :=
  ⟨hmanifest.trans h.written, h.verified, h.output.congr hparquet, h.source⟩

theorem LakeInv.congr (h : LakeInv tools s) (hsame : SameLake s t) : LakeInv tools t := by
  obtain ⟨hm, hs, hq, hp, hman⟩ := hsame
  cases h with
  | landed hmoved hsource hnone =>
    exact .landed (hm.trans hmoved) (hs ▸ hsource) (hq.trans hnone)
  | quarantined raw hex mtimeNs hmoved hsource hfile =>
    exact .quarantined raw hex mtimeNs (hm.trans hmoved) (hs.trans hsource) (hq.trans hfile)
  | deleted raw manifest output hmoved hsource hnone hcopy =>
    exact .deleted raw manifest output (hm.trans hmoved) (hs.trans hsource) (hq.trans hnone)
      (hcopy.congr hp hman)

theorem LakeInv.not_moved (h : LakeInv tools fs) (hsource : fs.source.isSome = true) :
    fs.moved = none := by
  cases h with
  | landed hmoved _ _ => exact hmoved
  | quarantined _ _ _ _ hnone _ => rw [hnone] at hsource; cases hsource
  | deleted _ _ _ _ hnone _ _ => rw [hnone] at hsource; cases hsource

theorem LakeInv.landed_of (h : LakeInv tools fs) (hmoved : fs.moved = none) :
    fs.source.isSome = true ∧ fs.quarantined = [] := by
  cases h with
  | landed _ hsource hnone => exact ⟨hsource, hnone⟩
  | quarantined _ _ _ hm _ _ => rw [hmoved] at hm; cases hm
  | deleted _ _ _ hm _ _ _ => rw [hmoved] at hm; cases hm

theorem respond_read (h : IsRead call) : (respond tools partition course fs call).2 = fs := by
  unfold respond
  cases call <;> first | exact h.elim | rfl | (dsimp only; split <;> rfl)

theorem cutShort_same : SameLake fs (cutShort tools course fs call) := by
  unfold cutShort
  split <;> exact ⟨rfl, rfl, rfl, rfl, rfl⟩

theorem respond_harmless (h : IsHarmless call) :
    SameLake fs (respond tools partition course fs call).2 := by
  unfold respond
  cases call <;> first | exact h.elim | exact ⟨rfl, rfl, rfl, rfl, rfl⟩ |
    (dsimp only; split <;> exact ⟨rfl, rfl, rfl, rfl, rfl⟩)

variable (tools partition call course fs) in
theorem perform_state : (performLake tools partition call course fs).2 =
      (respond tools partition course fs call).2 ∨
    (performLake tools partition call course fs).2 = cutShort tools course fs call := by
  unfold performLake
  split
  · exact .inl rfl
  · cases course.late with
    | true => exact .inl rfl
    | false => exact .inr rfl

theorem perform_ok {answer : Answer call}
    (h : (performLake tools partition call course fs).1 = .ok answer) :
    (respond tools partition course fs call).1 = .ok answer ∧
      (performLake tools partition call course fs).2 =
        (respond tools partition course fs call).2 := by
  unfold performLake at h ⊢
  split at h
  · exact ⟨h, rfl⟩
  · cases h

theorem perform_read (h : IsRead call) : (performLake tools partition call course fs).2 = fs := by
  rcases perform_state tools partition course call fs with hstate | hstate
  · rw [hstate, respond_read h]
  · rw [hstate]
    unfold cutShort
    cases call <;> first | exact h.elim | rfl

theorem LakeInv.respond (h : LakeInv tools fs)
    (hsafe : LakeSafe tools compactor partition job call fs) :
    LakeInv tools (respond tools partition course fs call).2 := by
  cases call with
  | writeManifest manifest =>
    obtain ⟨hsource, hnone⟩ := h.landed_of hsafe
    exact .landed hsafe hsource hnone
  | replaceParquet =>
    obtain ⟨hsource, hnone⟩ := h.landed_of hsafe
    unfold DataPlatform.respond
    dsimp only
    split
    · exact .landed hsafe hsource hnone
    · exact h
  | renameToQuarantine hex =>
    unfold DataPlatform.respond
    dsimp only
    split
    · rename_i file hfile
      have hmoved := h.not_moved (by rw [hfile]; rfl)
      have hnone := (h.landed_of hmoved).2
      refine .quarantined file.bytes hex file.mtimeNs rfl rfl ?_
      show (hex, file) :: fs.quarantined.filter (·.1 ≠ hex) = _
      rw [hnone]
      rfl
    · exact h
  | unlinkQuarantine hex =>
    unfold DataPlatform.respond
    dsimp only
    split
    · rename_i file hfile
      -- only a moved file is in quarantine, and this call is safe for it
      cases h with
      | landed _ _ hnone =>
        rw [hnone] at hfile
        cases hfile
      | quarantined raw hex' mtimeNs hmoved hsource hall =>
        rw [hall, List.lookup_cons] at hfile
        split at hfile
        · rename_i heq
          obtain rfl := eq_of_beq heq
          obtain ⟨manifest, output, hdelete⟩ := hsafe ⟨raw, mtimeNs⟩ (by rw [hall]; simp)
          refine .deleted raw manifest output hmoved hsource ?_
            (hdelete.copy.congr rfl rfl)
          show fs.quarantined.filter (·.1 ≠ hex) = []
          rw [hall]
          simp
        · cases hfile
      | deleted _ _ _ _ _ hnone _ =>
        rw [hnone] at hfile
        cases hfile
    · exact h
  | _ => exact h.congr (respond_harmless trivial)

theorem LakeInv.perform (h : LakeInv tools fs)
    (hsafe : LakeSafe tools compactor partition job call fs) :
    LakeInv tools (performLake tools partition call course fs).2 := by
  rcases perform_state tools partition course call fs with hstate | hstate
  · rw [hstate]
    exact h.respond hsafe
  · rw [hstate]
    exact h.congr cutShort_same

theorem SourceOnly.refl (s : FileSystem) : SourceOnly s s := ⟨s.source, rfl⟩

theorem SourceOnly.trans {a b c : FileSystem} (h : SourceOnly a b) (h' : SourceOnly b c) :
    SourceOnly a c := by
  obtain ⟨_, rfl⟩ := h
  obtain ⟨source, rfl⟩ := h'
  exact ⟨source, rfl⟩

theorem LakeInv.write (h : LakeInv tools fs) (hmoved : fs.moved = none) (file : StoredFile) :
    LakeInv tools { fs with source := some file } :=
  .landed hmoved rfl (h.landed_of hmoved).2

end Runs

end SpxSpark.DataPlatform
