import SpxSpark.Core.FrameRecords

/-!
# FrameArchive — one compressed stream and a manifest for every completed day

The archive of a date is the concatenation of its segments, compressed, beside a manifest with one
row for each segment.
-/

namespace SpxSpark.Core

open Domain Lib Lib.Calendar List

def frameArchiveSchemaVersion : String := "spx_raw_frame_archive.v1"
def archiveFileName : String := "frames.ndjson.zst"
def zstdLevel : Int := 1

inductive FrameArchiveStatus
  | verified
  deriving DecidableEq

structure FrameArchiveSource (D : Type) where
  name : String
  sizeBytes : Nat
  sha256 : D
  recordCount : Nat

structure FrameArchiveManifest (D : Type) where
  schemaVersion : String
  status : FrameArchiveStatus
  utcDate : NaiveDate
  sourceSegments : List (FrameArchiveSource D)
  totalSourceBytes : Nat
  totalRecordCount : Nat
  archiveFile : String
  archiveSizeBytes : Nat
  archiveSha256 : D
  compression : String
  compressionLevel : Int
  createdAt : DateTime

/-- What stands under the path of a date: its two files, as far as they can be read, or no
directory. -/
inductive ArchiveEntry (D : Type)
  | directory (manifest : Option (FrameArchiveManifest D)) (frames : Option Bytes)
  | other

/-- The archive root, by date. -/
abbrev ArchiveRoot (D : Type) := NaiveDate → Option (ArchiveEntry D)

inductive FrameArchiveReportStatus
  | created
  | existingVerified
  deriving DecidableEq

structure FrameArchiveReport (D : Type) where
  status : FrameArchiveReportStatus
  manifest : FrameArchiveManifest D

/-! ## The segments of a day -/

structure SourceSegment where
  name : String
  index : Nat
  deriving DecidableEq

def collectSegment (utcDate : NaiveDate) (found : List SourceSegment) (entry : FileName × Entry) :
    Except FrameArchiveError (List SourceSegment) :=
  match entry.1 with
  | .raw _ => .ok found
  | .text name =>
    match parseSegmentName name with
    | none => .ok found
    | some (date, index) =>
      if date = utcDate then
        match entry.2 with
        | .other => .error (.unsafeSegment name)
        | .file _ => .ok (found ++ [⟨name, index⟩])
      else .ok found

/-- The order `sort_by_key` puts the segments in. -/
def SourceSegment.byIndex (left right : SourceSegment) : Bool := decide (left.index ≤ right.index)

def discoverDaySegments (directory : Directory) (utcDate : NaiveDate) :
    Except FrameArchiveError (List SourceSegment) := do
  let segments ← (directory.entries.map fun e => (e.1, e.2)).foldlM (collectSegment utcDate) []
  pure (segments.mergeSort SourceSegment.byIndex)

/-- `open_read_segment`. -/
def openReadSegment (directory : Directory) (name : String) : Except FrameArchiveError Bytes :=
  match directory.lookup (.text name) with
  | none => .error .io
  | some .other => .error (.unsafeSegment name)
  | some (.file content) => .ok content

/-! ## The manifest -/

def checkedSum (values : List Nat) : Except FrameArchiveError Nat := values.foldlM checkedAdd 0

section
variable {D R M F : Type} [DecidableEq D] [FrameCodec D R M F]

/-- One row of the loop of `validate_manifest_contract`. -/
def checkSource (expectedDate : NaiveDate) (seen : List String × Option Nat)
    (source : FrameArchiveSource D) : Except FrameArchiveError (List String × Option Nat) :=
  match parseSegmentName source.name with
  | none => .error (.existingArchiveMismatch "manifest contains an invalid segment name")
  | some (date, index) => do
      require (date = expectedDate ∧ seen.2.all (· < index) = true ∧ source.name ∉ seen.1 ∧
          FrameCodec.isSha256 source.sha256 = true)
        (.existingArchiveMismatch "manifest source ordering or identity is invalid")
      pure (source.name :: seen.1, some index)

def validateManifestContract (manifest : FrameArchiveManifest D) (expectedDate : NaiveDate) :
    Except FrameArchiveError Unit := do
  require (manifest.schemaVersion = frameArchiveSchemaVersion ∧ manifest.status = .verified ∧
      manifest.utcDate = expectedDate ∧ manifest.archiveFile = archiveFileName ∧
      manifest.compression = "zstd" ∧ manifest.compressionLevel = zstdLevel ∧
      FrameCodec.isSha256 manifest.archiveSha256 = true)
    (.existingArchiveMismatch "manifest header is invalid")
  let _ ← manifest.sourceSegments.foldlM (checkSource expectedDate) ([], none)
  let sourceBytes ← checkedSum (manifest.sourceSegments.map (·.sizeBytes))
  require (sourceBytes = manifest.totalSourceBytes)
    (.existingArchiveMismatch "manifest totals do not match sources")
  let recordCount ← checkedSum (manifest.sourceSegments.map (·.recordCount))
  require (recordCount = manifest.totalRecordCount)
    (.existingArchiveMismatch "manifest totals do not match sources")

/-- The row of a segment. -/
def FrameArchiveManifest.sourceOf (manifest : FrameArchiveManifest D) (name : String) :
    Except FrameArchiveError (FrameArchiveSource D) :=
  match manifest.sourceSegments.find? (·.name = name) with
  | none => .error (.existingArchiveMismatch
      ("segment " ++ name ++ " is absent from verified manifest"))
  | some source => .ok source

/-- What was read is what the row says. -/
def FrameArchiveSource.matches (source : FrameArchiveSource D) (actual : ValidatedRecords D) :
    Prop :=
  actual.sha256 = source.sha256 ∧ actual.sizeBytes = source.sizeBytes ∧
    actual.recordCount = source.recordCount

instance (source : FrameArchiveSource D) (actual : ValidatedRecords D) :
    Decidable (source.matches actual) :=
  inferInstanceAs (Decidable (_ ∧ _ ∧ _))

/-- A segment on disk against its row, by one of the two readers. -/
def verifySourceWith (read : Bytes → Except FrameArchiveError (ValidatedRecords D))
    (directory : Directory) (name : String) (manifest : FrameArchiveManifest D) :
    Except FrameArchiveError Unit := do
  let expected ← manifest.sourceOf name
  match directory.lookup (.text name) with
  | none => .error .io
  | some .other =>
    .error (.existingArchiveMismatch ("segment " ++ name ++ " size or file type changed"))
  | some (.file content) => do
      require (content.length = expected.sizeBytes)
        (.existingArchiveMismatch ("segment " ++ name ++ " size or file type changed"))
      let actual ← read content
      require (expected.matches actual)
        (.existingArchiveMismatch ("segment " ++ name ++ " content changed"))

def verifySourceFingerprintAgainstManifest (schedule : ReadSchedule) (directory : Directory)
    (segment : SourceSegment) (manifest : FrameArchiveManifest D) :
    Except FrameArchiveError Unit :=
  verifySourceWith (fingerprintRecords schedule) directory segment.name manifest

def verifySourcePath (schedule : ReadSchedule) (directory : Directory) (name : String)
    (expectedSize : Nat) (manifest : FrameArchiveManifest D) : Except FrameArchiveError Unit :=
  match (parseSegmentName name).filter (fun parsed => parsed.1 = manifest.utcDate) with
  | none => .error (.unsafeSegment name)
  | some (_, index) => do
      let source ← manifest.sourceOf name
      require (source.sizeBytes = expectedSize)
        (.existingArchiveMismatch ("segment " ++ name ++ " size changed before prune"))
      verifySourceFingerprintAgainstManifest schedule directory ⟨name, index⟩ manifest

/-- The date's manifest, when it is well formed and its archive file is the one it names. -/
def loadArchiveBarrierManifest (root : ArchiveRoot D) (utcDate : NaiveDate) :
    Except FrameArchiveError (FrameArchiveManifest D) :=
  match root utcDate with
  | none => .error (.archiveUnavailableFor utcDate .io)
  | some .other => .error (.archiveUnavailable utcDate "archive date path is not a directory")
  | some (.directory none _) => .error (.archiveUnavailableFor utcDate .json)
  | some (.directory (some manifest) frames) => do
      (validateManifestContract manifest utcDate).mapError (.archiveUnavailableFor utcDate)
      match frames with
      | none => .error (.archiveUnavailableFor utcDate .io)
      | some frames => do
          require (frames.length = manifest.archiveSizeBytes ∧
              FrameCodec.digest frames = manifest.archiveSha256)
            (.archiveUnavailable utcDate "archive size or SHA-256 does not match manifest")
          pure manifest

variable [ResearchPayload R] [DeskMapPayload M] [ForecastPayload F]

/-- One source of the loop of `verify_archive_payload`, with the rest of the stream. -/
def verifyArchivedSource (utcDate : NaiveDate) (stream : Bytes) (source : FrameArchiveSource D) :
    Except FrameArchiveError Bytes := do
  let actual ← validateRecords (stream.take source.sizeBytes) utcDate source.name
  require (source.matches actual) (.existingArchiveMismatch
    ("archived source " ++ source.name ++ " does not match manifest"))
  pure (stream.drop source.sizeBytes)

def verifyArchivePayload (frames : Bytes) (manifest : FrameArchiveManifest D) :
    Except FrameArchiveError Unit :=
  match FrameCodec.decompress D frames with
  | none => .error .io
  | some stream => do
      let trailing ← manifest.sourceSegments.foldlM (verifyArchivedSource manifest.utcDate) stream
      require (trailing = [])
        (.existingArchiveMismatch "archive contains trailing unmanifested bytes")

def loadVerifiedManifest (root : ArchiveRoot D) (utcDate : NaiveDate) :
    Except FrameArchiveError (FrameArchiveManifest D) := do
  let manifest ← loadArchiveBarrierManifest root utcDate
  match root utcDate with
  | some (.directory _ (some frames)) =>
    (verifyArchivePayload frames manifest).mapError (.archiveUnavailableFor utcDate)
    pure manifest
  | _ => .error (.archiveUnavailableFor utcDate .io)

def verifySourceAgainstManifest (directory : Directory) (segment : SourceSegment)
    (manifest : FrameArchiveManifest D) : Except FrameArchiveError Unit :=
  verifySourceWith (fun content => validateRecords content manifest.utcDate segment.name) directory
    segment.name manifest

def verifyExistingArchive (root : ArchiveRoot D) (directory : Directory) (utcDate : NaiveDate)
    (segments : List SourceSegment) : Except FrameArchiveError (FrameArchiveReport D) := do
  let manifest ← loadVerifiedManifest root utcDate
  segments.forM fun segment => verifySourceAgainstManifest directory segment manifest
  pure { status := .existingVerified, manifest }

/-! ## Building -/

/-- One segment of the loop of `build_staged_archive`: what the encoder is given, and the row. -/
def stageSegment (directory : Directory) (utcDate : NaiveDate)
    (staged : List Bytes × List (FrameArchiveSource D)) (segment : SourceSegment) :
    Except FrameArchiveError (List Bytes × List (FrameArchiveSource D)) := do
  let content ← openReadSegment directory segment.name
  let validated : ValidatedRecords D ← validateRecords content utcDate segment.name
  require (validated.sizeBytes = content.length) (.sourceChanged segment.name)
  pure (staged.1 ++ pieces newline content,
    staged.2 ++ [⟨segment.name, validated.sizeBytes, validated.sha256, validated.recordCount⟩])

/-- The archive file and the manifest in the staging directory. -/
def stageArchive (directory : Directory) (utcDate : NaiveDate) (now : DateTime)
    (segments : List SourceSegment) :
    Except FrameArchiveError (Bytes × FrameArchiveManifest D) := do
  let (written, sourceSegments) ← segments.foldlM (stageSegment directory utcDate) ([], [])
  let frames := FrameCodec.compress D written
  let totalSourceBytes ← checkedSum (sourceSegments.map (·.sizeBytes))
  let totalRecordCount ← checkedSum (sourceSegments.map (·.recordCount))
  let manifest : FrameArchiveManifest D :=
    { schemaVersion := frameArchiveSchemaVersion
      status := .verified
      utcDate
      sourceSegments
      totalSourceBytes
      totalRecordCount
      archiveFile := archiveFileName
      archiveSizeBytes := frames.length
      archiveSha256 := FrameCodec.digest frames
      compression := "zstd"
      compressionLevel := zstdLevel
      createdAt := now }
  validateManifestContract manifest utcDate
  verifyArchivePayload frames manifest
  pure (frames, manifest)

/-- `build_staged_archive`, with whether the rename to the date's directory succeeds. -/
def buildStagedArchive (renames : Bool) (root : ArchiveRoot D) (directory : Directory)
    (utcDate : NaiveDate) (now : DateTime) (segments : List SourceSegment) :
    Except FrameArchiveError (FrameArchiveReport D × ArchiveRoot D) := do
  let (frames, manifest) ← stageArchive directory utcDate now segments
  if renames then
    pure ({ status := .created, manifest },
      Function.update root utcDate (some (.directory (some manifest) (some frames))))
  else
    match root utcDate with
    | none => .error .io
    | some _ => do
        let report ← (verifyExistingArchive root directory utcDate segments).mapError fun _ =>
          .existingArchiveMismatch "concurrent publish failed"
        pure (report, root)

def archiveCompletedUtcDay (renames : Bool) (root : ArchiveRoot D) (directory : Directory)
    (utcDate : NaiveDate) (now : DateTime) :
    Except FrameArchiveError (FrameArchiveReport D × ArchiveRoot D) := do
  require (utcDate < dateNaive now) (.dateNotCompleted utcDate (dateNaive now))
  let segments ← discoverDaySegments directory utcDate
  match root utcDate with
  | some _ => do
      let report ← verifyExistingArchive root directory utcDate segments
      pure (report, root)
  | none => buildStagedArchive renames root directory utcDate now segments

end

/-! ## What the steps return -/

theorem openReadSegment_ok {directory : Directory} {name : String} {content : Bytes} :
    openReadSegment directory name = .ok content ↔ directory.read name = some content := by
  unfold openReadSegment Directory.read
  split
  · rename_i h
    simp [h]
  · rename_i h
    simp [h]
  · rename_i h
    simp [h]

theorem checkedSum_ok {values : List Nat} {total : Nat} :
    checkedSum values = .ok total ↔ values.sum < 2 ^ 64 ∧ total = values.sum := by
  have hfold : ∀ (values : List Nat) (start : Nat), start < 2 ^ 64 →
      (values.foldlM checkedAdd start = .ok total ↔
        start + values.sum < 2 ^ 64 ∧ total = start + values.sum) := by
    intro values
    induction values with
    | nil =>
      intro start hstart
      simp only [foldlM_nil, pure, Except.pure, Except.ok.injEq, sum_nil, Nat.add_zero]
      exact ⟨fun h => ⟨hstart, h.symm⟩, fun h => h.2.symm⟩
    | cons value rest ih =>
      intro start hstart
      rw [foldlM_cons, bind_ok, sum_cons, ← Nat.add_assoc]
      constructor
      · rintro ⟨next, hnext, hrest⟩
        obtain ⟨hlt, rfl⟩ := checkedAdd_ok.mp hnext
        exact (ih _ hlt).mp hrest
      · intro h
        have hlt : start + value < 2 ^ 64 := by omega
        exact ⟨_, checkedAdd_ok.mpr ⟨hlt, rfl⟩, (ih _ hlt).mpr h⟩
  have hsum := hfold values 0 (Nat.two_pow_pos 64)
  rw [Nat.zero_add] at hsum
  exact hsum

/-- The segment that an entry is, for a date. -/
def segmentOf (utcDate : NaiveDate) (entry : FileName × Entry) : Option SourceSegment :=
  match entry.1 with
  | .raw _ => none
  | .text name =>
    match parseSegmentName name with
    | none => none
    | some (date, index) => if date = utcDate then some ⟨name, index⟩ else none

theorem segmentOf_eq_some {utcDate : NaiveDate} {entry : FileName × Entry}
    {segment : SourceSegment} : segmentOf utcDate entry = some segment ↔
      entry.1 = .text segment.name ∧
        parseSegmentName segment.name = some (utcDate, segment.index) := by
  obtain ⟨file, kind⟩ := entry
  unfold segmentOf
  cases file with
  | raw bytes => simp
  | text name =>
    dsimp only
    cases hparse : parseSegmentName name with
    | none =>
      simp only [reduceCtorEq, FileName.text.injEq, false_iff, not_and]
      rintro rfl
      simp [hparse]
    | some parsed =>
      obtain ⟨date, index⟩ := parsed
      obtain ⟨segmentName, segmentIndex⟩ := segment
      dsimp only
      split
      · rename_i hdate
        rw [Option.some.injEq, SourceSegment.mk.injEq, FileName.text.injEq]
        constructor
        · rintro ⟨rfl, rfl⟩
          exact ⟨rfl, by rw [hparse, hdate]⟩
        · rintro ⟨rfl, h⟩
          rw [hparse, Option.some.injEq, Prod.mk.injEq] at h
          exact ⟨rfl, h.2⟩
      · rename_i hdate
        simp only [reduceCtorEq, FileName.text.injEq, false_iff, not_and]
        rintro rfl h
        rw [hparse, Option.some.injEq, Prod.mk.injEq] at h
        exact hdate h.1

theorem collectSegment_ok {utcDate : NaiveDate} {found found' : List SourceSegment}
    {entry : FileName × Entry} (h : collectSegment utcDate found entry = .ok found') :
    found' = found ++ (segmentOf utcDate entry).toList ∧
      ((segmentOf utcDate entry).isSome → ∃ content, entry.2 = .file content) := by
  obtain ⟨file, kind⟩ := entry
  unfold collectSegment at h
  unfold segmentOf
  cases file with
  | raw bytes =>
    cases h
    simp
  | text name =>
    dsimp only at h ⊢
    cases hparse : parseSegmentName name with
    | none =>
      rw [hparse] at h
      cases h
      simp
    | some parsed =>
      obtain ⟨date, index⟩ := parsed
      rw [hparse] at h
      dsimp only at h ⊢
      by_cases hdate : date = utcDate
      · rw [if_pos hdate] at h ⊢
        cases kind with
        | other => cases h
        | file content =>
          cases h
          exact ⟨rfl, fun _ => ⟨content, rfl⟩⟩
      · rw [if_neg hdate] at h ⊢
        cases h
        simp

theorem foldlM_collectSegment {utcDate : NaiveDate} {entries : List (FileName × Entry)}
    {found found' : List SourceSegment}
    (h : entries.foldlM (collectSegment utcDate) found = .ok found') :
    found' = found ++ entries.filterMap (segmentOf utcDate) ∧
      ∀ entry ∈ entries, (segmentOf utcDate entry).isSome → ∃ content, entry.2 = .file content := by
  induction entries generalizing found with
  | nil =>
    cases h
    simp
  | cons entry rest ih =>
    rw [foldlM_cons, bind_ok] at h
    obtain ⟨mid, hentry, hrest⟩ := h
    obtain ⟨rfl, hfile⟩ := collectSegment_ok hentry
    obtain ⟨rfl, hfiles⟩ := ih hrest
    refine ⟨?_, ?_⟩
    · rw [append_assoc, filterMap_cons]
      cases segmentOf utcDate entry with
      | none => rfl
      | some segment => rfl
    · rw [forall_mem_cons]
      exact ⟨hfile, hfiles⟩

/-- **The segments of a day are its regular files with a segment name, in the order of their
indices.** -/
theorem discoverDaySegments_ok {directory : Directory} {utcDate : NaiveDate}
    {segments : List SourceSegment} (h : discoverDaySegments directory utcDate = .ok segments) :
    (∀ segment : SourceSegment, segment ∈ segments ↔
      parseSegmentName segment.name = some (utcDate, segment.index) ∧
        ∃ content, directory.read segment.name = some content) ∧
      segments.Pairwise fun left right => left.index < right.index := by
  unfold discoverDaySegments at h
  rw [bind_ok] at h
  obtain ⟨collected, hfold, h⟩ := h
  cases h
  obtain ⟨hcollected, hfiles⟩ := foldlM_collectSegment hfold
  rw [nil_append] at hcollected
  constructor
  · intro segment
    rw [mem_mergeSort, hcollected, mem_filterMap]
    constructor
    · rintro ⟨⟨file, kind⟩, hentry, hsegment⟩
      obtain ⟨hname, hparse⟩ := segmentOf_eq_some.mp hsegment
      obtain ⟨content, hkind⟩ := hfiles _ hentry (Option.isSome_of_mem hsegment)
      dsimp only at hname hkind
      rw [hname, hkind] at hentry
      exact ⟨hparse, content, Directory.read_eq_some.mpr hentry⟩
    · rintro ⟨hparse, content, hread⟩
      exact ⟨_, Directory.read_eq_some.mp hread, segmentOf_eq_some.mpr ⟨rfl, hparse⟩⟩
  · -- Names differ, and the date and the index of a segment make up its name.
    have hdistinct : collected.Pairwise fun left right => left.index ≠ right.index := by
      rw [hcollected, pairwise_filterMap, pairwise_map]
      refine (nodupKeys_iff_pairwise.mp directory.nodupKeys).imp ?_
      intro entry entry' hne left hleft right hright hindex
      obtain ⟨hname, hparse⟩ := segmentOf_eq_some.mp hleft
      obtain ⟨hname', hparse'⟩ := segmentOf_eq_some.mp hright
      obtain ⟨-, -, hpath⟩ := parseSegmentName_eq_some.mp hparse
      obtain ⟨-, -, hpath'⟩ := parseSegmentName_eq_some.mp hparse'
      dsimp only at hname hname'
      rw [hname, hname', hpath, hpath', hindex] at hne
      exact hne rfl
    have hsorted : (collected.mergeSort SourceSegment.byIndex).Pairwise
        fun left right => SourceSegment.byIndex left right = true := by
      refine pairwise_mergeSort (fun a b c hab hbc => ?_) (fun a b => ?_) collected
      · exact decide_eq_true ((of_decide_eq_true hab).trans (of_decide_eq_true hbc))
      · unfold SourceSegment.byIndex
        simpa using Nat.le_total a.index b.index
    have hapart := ((mergeSort_perm collected SourceSegment.byIndex).pairwise_iff
      fun h => h.symm).mpr hdistinct
    exact (hsorted.and hapart).imp fun h => lt_of_le_of_ne (of_decide_eq_true h.1) h.2

end SpxSpark.Core
