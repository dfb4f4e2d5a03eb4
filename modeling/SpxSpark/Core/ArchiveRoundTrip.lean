import SpxSpark.Core.FrameArchive
import Mathlib.Algebra.Order.BigOperators.Group.List
import Mathlib.Algebra.Order.Group.Nat

/-!
# ArchiveRoundTrip — what is built is what every verifier accepts

The archive built from the segments of a day decompresses to their concatenation, in the order of
their indices, and its manifest has one row for each.
-/

namespace SpxSpark.Core

open Domain Lib Lib.Calendar List
open FrameCodec (compress decompress digest isSha256)

section
variable {D R M F : Type} [DecidableEq D] [FrameCodec D R M F] {directory : Directory}
  {utcDate : NaiveDate} {manifest : FrameArchiveManifest D}

omit [DecidableEq D] in
theorem sourceOf_ok {name : String} {source : FrameArchiveSource D} :
    manifest.sourceOf name = .ok source ↔
      manifest.sourceSegments.find? (·.name = name) = some source := by
  unfold FrameArchiveManifest.sourceOf
  split
  · rename_i h
    simp [h]
  · rename_i found h
    simp [h]

/-- **A segment on disk is verified** when it is read as its row says. -/
theorem verifySourceWith_ok {read : Bytes → Except FrameArchiveError (ValidatedRecords D)}
    {name : String} {u : Unit} : verifySourceWith read directory name manifest = .ok u ↔
      ∃ expected content actual, manifest.sourceOf name = .ok expected ∧
        directory.read name = some content ∧ content.length = expected.sizeBytes ∧
        read content = .ok actual ∧ expected.matches actual := by
  unfold verifySourceWith
  rw [bind_ok]
  constructor
  · rintro ⟨expected, hexpected, h⟩
    split at h
    · cases h
    · cases h
    · rename_i content hlookup
      rw [require_bind_ok, bind_ok] at h
      obtain ⟨hlength, actual, hread, hmatches⟩ := h
      refine ⟨expected, content, actual, hexpected, ?_, hlength, hread, require_ok.mp hmatches⟩
      unfold Directory.read
      rw [hlookup]
  · rintro ⟨expected, content, actual, hexpected, hfile, hlength, hread, hmatches⟩
    refine ⟨expected, hexpected, ?_⟩
    unfold Directory.read at hfile
    split at hfile
    · rename_i found hlookup
      cases hfile
      rw [hlookup]
      dsimp only
      rw [require_bind_ok, bind_ok]
      exact ⟨hlength, actual, hread, require_ok.mpr hmatches⟩
    · cases hfile

def contentOf (directory : Directory) (segment : SourceSegment) : Bytes :=
  (directory.read segment.name).getD []

def rowOf (D : Type) {R M F : Type} [FrameCodec D R M F] (directory : Directory)
    (segment : SourceSegment) : FrameArchiveSource D where
  name := segment.name
  sizeBytes := (contentOf directory segment).length
  sha256 := digest (contentOf directory segment)
  recordCount := (pieces newline (contentOf directory segment)).length

/-- What the validator reports of an accepted segment. -/
def reportOf (D : Type) {R M F : Type} [FrameCodec D R M F] (directory : Directory)
    (segment : SourceSegment) : ValidatedRecords D where
  sizeBytes := (contentOf directory segment).length
  sha256 := digest (contentOf directory segment)
  recordCount := (pieces newline (contentOf directory segment)).length

omit [DecidableEq D] in
theorem rowOf_matches (segment : SourceSegment) :
    (rowOf D directory segment).matches (reportOf D directory segment) :=
  ⟨rfl, rfl, rfl⟩

/-- The manifest of rows and their compressed stream. -/
def stagedManifest (utcDate : NaiveDate) (now : DateTime) (rows : List (FrameArchiveSource D))
    (frames : Bytes) : FrameArchiveManifest D where
  schemaVersion := frameArchiveSchemaVersion
  status := .verified
  utcDate
  sourceSegments := rows
  totalSourceBytes := (rows.map (·.sizeBytes)).sum
  totalRecordCount := (rows.map (·.recordCount)).sum
  archiveFile := archiveFileName
  archiveSizeBytes := frames.length
  archiveSha256 := digest frames
  compression := "zstd"
  compressionLevel := zstdLevel
  createdAt := now

/-- What an archive of the segments holds. -/
def framesOf (D : Type) {R M F : Type} [FrameCodec D R M F] (directory : Directory)
    (segments : List SourceSegment) : Bytes :=
  compress D (segments.flatMap fun segment => pieces newline (contentOf directory segment))

/-! ## The manifest of the day's segments -/

variable {segments : List SourceSegment}

omit [DecidableEq D] in
theorem foldlM_checkSource
    (hhex : ∀ bytes, isSha256 (digest bytes : D) = true)
    {names : List String} {previous : Option Nat}
    (hnames : ∀ name ∈ names, ∃ index, parseSegmentName name = some (utcDate, index) ∧
      ∃ last, previous = some last ∧ index ≤ last)
    (hparse : ∀ segment ∈ segments, parseSegmentName segment.name = some (utcDate, segment.index))
    (hafter : ∀ segment ∈ segments, ∀ last, previous = some last → last < segment.index)
    (hsorted : segments.Pairwise fun left right => left.index < right.index) :
    ∃ seen, (segments.map (rowOf D directory)).foldlM (checkSource utcDate) (names, previous) =
      .ok seen := by
  induction segments generalizing names previous with
  | nil => exact ⟨_, rfl⟩
  | cons segment rest ih =>
    rw [pairwise_cons] at hsorted
    have hown := hparse segment mem_cons_self
    have hbefore := hafter segment mem_cons_self
    have hfresh : segment.name ∉ names := by
      intro hmem
      obtain ⟨index, hindex, last, hlast, hle⟩ := hnames _ hmem
      rw [hown, Option.some.injEq, Prod.mk.injEq] at hindex
      have hlt := hbefore last hlast
      omega
    have hcheck : checkSource utcDate (names, previous) (rowOf D directory segment) =
        .ok (segment.name :: names, some segment.index) := by
      unfold checkSource rowOf
      dsimp only
      rw [hown]
      dsimp only
      rw [require_bind_ok]
      refine ⟨⟨rfl, ?_, hfresh, hhex _⟩, rfl⟩
      cases previous with
      | none => rfl
      | some last => exact decide_eq_true (hbefore last rfl)
    rw [map_cons, foldlM_cons, hcheck]
    refine ih (fun name hname => ?_) (fun s hs => hparse s (mem_cons_of_mem _ hs))
      (fun s hs last hlast => ?_) hsorted.2
    · rcases mem_cons.mp hname with rfl | hname
      · exact ⟨segment.index, hown, segment.index, rfl, Nat.le_refl _⟩
      · obtain ⟨index, hindex, last, hlast, hle⟩ := hnames name hname
        exact ⟨index, hindex, segment.index, rfl, hle.trans (hbefore last hlast).le⟩
    · cases hlast
      exact hsorted.1 s hs

variable {segment : SourceSegment}

omit [DecidableEq D] in
theorem find_rowOf (hparse : ∀ s ∈ segments, parseSegmentName s.name = some (utcDate, s.index))
    (hmem : segment ∈ segments) : (segments.map (rowOf D directory)).find? (·.name = segment.name) =
      some (rowOf D directory segment) := by
  induction segments with
  | nil => cases hmem
  | cons first rest ih =>
    rw [map_cons, find?_cons]
    by_cases hname : first.name = segment.name
    · -- The same name is the same segment.
      have hown := hparse segment hmem
      rw [← hname, hparse first mem_cons_self, Option.some.injEq, Prod.mk.injEq] at hown
      obtain ⟨firstName, firstIndex⟩ := first
      obtain ⟨name, index⟩ := segment
      dsimp only at hname hown
      rw [hname, hown.2]
      simp [rowOf]
    · have hother : segment ∈ rest := by
        rcases mem_cons.mp hmem with rfl | hmem
        · exact absurd rfl hname
        · exact hmem
      rw [ih (fun s hs => hparse s (mem_cons_of_mem _ hs)) hother]
      simp [rowOf, hname]

variable [ResearchPayload R] [DeskMapPayload M] [ForecastPayload F]

/-- A segment of the date whose records the validator accepts. -/
def Accepted (D : Type) {R M F : Type} [DecidableEq D] [FrameCodec D R M F] [ResearchPayload R]
    [DeskMapPayload M] [ForecastPayload F] (directory : Directory) (utcDate : NaiveDate)
    (segment : SourceSegment) : Prop :=
  ∃ content, directory.read segment.name = some content ∧
    ∃ validated : ValidatedRecords D, validateRecords content utcDate segment.name = .ok validated

theorem Accepted.read (h : Accepted D directory utcDate segment) :
    directory.read segment.name = some (contentOf directory segment) ∧
      validateRecords (contentOf directory segment) utcDate segment.name =
        .ok (reportOf D directory segment) := by
  obtain ⟨content, hread, validated, hvalid⟩ := h
  have hcontent : contentOf directory segment = content := by
    unfold contentOf
    rw [hread, Option.getD_some]
  unfold reportOf
  rw [hcontent]
  obtain ⟨hlines, hsize, -⟩ := validateRecords_ok.mp hvalid
  exact ⟨hread, validateRecords_ok.mpr ⟨hlines, hsize, rfl⟩⟩

/-! ## Staging -/

theorem stageSegment_ok {staged staged' : List Bytes × List (FrameArchiveSource D)} :
    stageSegment directory utcDate staged segment = .ok staged' ↔
      Accepted D directory utcDate segment ∧
        staged' = (staged.1 ++ pieces newline (contentOf directory segment),
          staged.2 ++ [rowOf D directory segment]) := by
  unfold stageSegment
  rw [bind_ok]
  constructor
  · rintro ⟨content, hopen, h⟩
    rw [bind_ok] at h
    obtain ⟨validated, hvalid, h⟩ := h
    rw [require_bind_ok] at h
    obtain ⟨-, h⟩ := h
    cases h
    have haccepted : Accepted D directory utcDate segment :=
      ⟨content, openReadSegment_ok.mp hopen, validated, hvalid⟩
    obtain ⟨hread, hreport⟩ := haccepted.read
    rw [openReadSegment_ok.mp hopen, Option.some.injEq] at hread
    rw [← hread, hvalid, Except.ok.injEq] at hreport
    rw [hreport, hread]
    exact ⟨haccepted, rfl⟩
  · rintro ⟨haccepted, rfl⟩
    obtain ⟨hread, hreport⟩ := haccepted.read
    refine ⟨_, openReadSegment_ok.mpr hread, ?_⟩
    rw [hreport]
    exact require_bind_ok.mpr ⟨rfl, rfl⟩

theorem foldlM_stageSegment {staged staged' : List Bytes × List (FrameArchiveSource D)} :
    segments.foldlM (stageSegment directory utcDate) staged = .ok staged' ↔
      (∀ segment ∈ segments, Accepted D directory utcDate segment) ∧
        staged' = (staged.1 ++ segments.flatMap fun s => pieces newline (contentOf directory s),
          staged.2 ++ segments.map (rowOf D directory)) := by
  induction segments generalizing staged with
  | nil =>
    simp only [foldlM_nil, pure, Except.pure, Except.ok.injEq, not_mem_nil,
      false_implies, implies_true, flatMap_nil, append_nil, map_nil, true_and]
    exact eq_comm
  | cons segment rest ih =>
    rw [foldlM_cons, bind_ok]
    simp only [stageSegment_ok, ih, forall_mem_cons, flatMap_cons, map_cons]
    constructor
    · rintro ⟨mid, ⟨haccepted, rfl⟩, hrest, rfl⟩
      refine ⟨⟨haccepted, hrest⟩, ?_⟩
      rw [Prod.mk.injEq]
      simp
    · rintro ⟨⟨haccepted, hrest⟩, rfl⟩
      refine ⟨_, ⟨haccepted, rfl⟩, hrest, ?_⟩
      rw [Prod.mk.injEq]
      simp

variable {now : DateTime} {frames : Bytes}

/-- **What staging writes.** -/
theorem stageArchive_ok :
    stageArchive directory utcDate now segments = .ok (frames, manifest) ↔
      (∀ segment ∈ segments, Accepted D directory utcDate segment) ∧
        frames = framesOf D directory segments ∧
        manifest = stagedManifest utcDate now (segments.map (rowOf D directory)) frames ∧
        manifest.totalSourceBytes < 2 ^ 64 ∧ manifest.totalRecordCount < 2 ^ 64 ∧
        validateManifestContract manifest utcDate = .ok () ∧
        verifyArchivePayload frames manifest = .ok () := by
  unfold stageArchive
  simp only [bind_ok, foldlM_stageSegment, nil_append, checkedSum_ok, pure, Except.pure,
    Except.ok.injEq, Prod.mk.injEq]
  constructor
  · rintro ⟨_, ⟨haccepted, rfl⟩, bytes, ⟨hbytes, rfl⟩, records, ⟨hrecords, rfl⟩, ⟨⟩, hcontract, ⟨⟩,
      hpayload, rfl, rfl⟩
    exact ⟨haccepted, rfl, rfl, hbytes, hrecords, hcontract, hpayload⟩
  · rintro ⟨haccepted, rfl, rfl, hbytes, hrecords, hcontract, hpayload⟩
    exact ⟨_, ⟨haccepted, rfl⟩, _, ⟨hbytes, rfl⟩, _, ⟨hrecords, rfl⟩, ⟨⟩, hcontract, ⟨⟩, hpayload,
      rfl, rfl⟩

theorem foldlM_verifyArchivedSource
    (haccepted : ∀ segment ∈ segments, Accepted D directory utcDate segment) (rest : Bytes) :
    (segments.map (rowOf D directory)).foldlM (verifyArchivedSource utcDate)
      ((segments.map (contentOf directory)).flatten ++ rest) = .ok rest := by
  induction segments with
  | nil => rfl
  | cons segment more ih =>
    rw [map_cons, map_cons, flatten_cons, foldlM_cons, bind_ok]
    refine ⟨_, ?_, ih fun s hs => haccepted s (mem_cons_of_mem _ hs)⟩
    unfold verifyArchivedSource
    rw [append_assoc, show (rowOf D directory segment).sizeBytes =
      (contentOf directory segment).length from rfl, take_left, drop_left, bind_ok]
    exact ⟨_, (haccepted segment mem_cons_self).read.2,
      require_bind_ok.mpr ⟨rowOf_matches segment, rfl⟩⟩

/-! ## What is built -/

/-- What is assumed of the two libraries: `zstd` returns what it was given, and SHA-256 is written
as such and tells texts apart. -/
structure FaithfulCodec (D : Type) {R M F : Type} [FrameCodec D R M F] : Prop where
  round_trips : ∀ chunks, decompress D (compress D chunks) = some chunks.flatten
  digest_isSha256 : ∀ bytes, isSha256 (digest bytes : D) = true
  digest_injective : Function.Injective (digest : Bytes → D)

omit [DecidableEq D] [ResearchPayload R] [DeskMapPayload M] [ForecastPayload F] in
theorem decompress_framesOf (hcodec : FaithfulCodec D) (segments : List SourceSegment) :
    decompress D (framesOf D directory segments) =
      some (segments.map (contentOf directory)).flatten := by
  unfold framesOf
  have hpieces : List.flatten ∘ (fun s => pieces newline (contentOf directory s)) =
      contentOf directory :=
    funext fun _ => pieces_flatten _
  rw [hcodec.round_trips, flatMap_def, flatten_flatten, map_map, hpieces]

theorem verifyArchivePayload_staged (hcodec : FaithfulCodec D)
    (haccepted : ∀ segment ∈ segments, Accepted D directory utcDate segment) :
    verifyArchivePayload (framesOf D directory segments)
      (stagedManifest utcDate now (segments.map (rowOf D directory))
        (framesOf D directory segments)) = .ok () := by
  have hrows := foldlM_verifyArchivedSource haccepted []
  rw [append_nil] at hrows
  unfold verifyArchivePayload
  rw [decompress_framesOf hcodec]
  dsimp only [stagedManifest]
  rw [hrows, bind_ok]
  exact ⟨_, rfl, rfl⟩

omit [DecidableEq D] [ResearchPayload R] [DeskMapPayload M] [ForecastPayload F] in
theorem validateManifestContract_staged (hcodec : FaithfulCodec D)
    (hparse : ∀ segment ∈ segments, parseSegmentName segment.name = some (utcDate, segment.index))
    (hsorted : segments.Pairwise fun left right => left.index < right.index)
    (hbytes : ((segments.map (rowOf D directory)).map (·.sizeBytes)).sum < 2 ^ 64)
    (hrecords : ((segments.map (rowOf D directory)).map (·.recordCount)).sum < 2 ^ 64) :
    validateManifestContract (stagedManifest utcDate now (segments.map (rowOf D directory)) frames)
      utcDate = .ok () := by
  obtain ⟨seen, hseen⟩ : ∃ seen, (segments.map (rowOf D directory)).foldlM (checkSource utcDate)
      ([], none) = .ok seen :=
    foldlM_checkSource hcodec.digest_isSha256 (fun _ h => nomatch h) hparse
      (fun _ _ _ h => nomatch h) hsorted
  unfold validateManifestContract
  rw [require_bind_ok]
  refine ⟨⟨rfl, rfl, rfl, rfl, rfl, rfl, hcodec.digest_isSha256 _⟩, ?_⟩
  have hbytesSum := checkedSum_ok.mpr ⟨hbytes, rfl⟩
  have hrecordsSum := checkedSum_ok.mpr ⟨hrecords, rfl⟩
  exact bind_ok.mpr ⟨seen, hseen, bind_ok.mpr ⟨_, hbytesSum, require_bind_ok.mpr ⟨rfl,
    bind_ok.mpr ⟨_, hrecordsSum, require_ok.mpr rfl⟩⟩⟩⟩

omit [DecidableEq D] [ResearchPayload R] [DeskMapPayload M] [ForecastPayload F] in
theorem sum_recordCount_le (segments : List SourceSegment) :
    ((segments.map (rowOf D directory)).map (·.recordCount)).sum ≤
      ((segments.map (rowOf D directory)).map (·.sizeBytes)).sum := by
  rw [map_map, map_map]
  exact sum_le_sum fun segment _ => length_pieces_le (contentOf directory segment)

/-- **Staging succeeds** on accepted segments of representable total size. -/
theorem stageArchive_accepted (hcodec : FaithfulCodec D)
    (hdiscover : discoverDaySegments directory utcDate = .ok segments)
    (haccepted : ∀ segment ∈ segments, Accepted D directory utcDate segment)
    (hsize : (segments.map fun s => (contentOf directory s).length).sum < 2 ^ 64) :
    stageArchive directory utcDate now segments =
      .ok (framesOf D directory segments, stagedManifest utcDate now
        (segments.map (rowOf D directory)) (framesOf D directory segments)) := by
  obtain ⟨hsegments, hsorted⟩ := discoverDaySegments_ok hdiscover
  have hbytes : ((segments.map (rowOf D directory)).map (·.sizeBytes)).sum < 2 ^ 64 := by
    rw [map_map]
    exact hsize
  have hrecords := (sum_recordCount_le (D := D) segments).trans_lt hbytes
  exact stageArchive_ok.mpr ⟨haccepted, rfl, rfl, hbytes, hrecords,
    validateManifestContract_staged hcodec (fun segment hmem => ((hsegments segment).mp hmem).1)
      hsorted hbytes hrecords,
    verifyArchivePayload_staged hcodec haccepted⟩

omit [ResearchPayload R] [DeskMapPayload M] [ForecastPayload F] in
/-- **What the barrier loads**: a well-formed manifest of the date beside the file it names. -/
theorem loadArchiveBarrierManifest_ok {root : ArchiveRoot D} :
    loadArchiveBarrierManifest root utcDate = .ok manifest ↔
      ∃ frames, root utcDate = some (.directory (some manifest) (some frames)) ∧
        validateManifestContract manifest utcDate = .ok () ∧
        frames.length = manifest.archiveSizeBytes ∧
        digest frames = manifest.archiveSha256 := by
  unfold loadArchiveBarrierManifest
  split
  · rename_i hroot
    simp [hroot]
  · rename_i hroot
    simp [hroot]
  · rename_i hroot
    simp [hroot]
  · rename_i found frames hroot
    rw [bind_ok]
    simp only [mapError_ok]
    cases frames with
    | none => simp [hroot]
    | some frames =>
      simp only [require_bind_ok, pure, Except.pure, Except.ok.injEq, hroot, Option.some.injEq,
        ArchiveEntry.directory.injEq]
      constructor
      · rintro ⟨⟨⟩, hcontract, hfile, rfl⟩
        exact ⟨frames, ⟨rfl, rfl⟩, hcontract, hfile.1, hfile.2⟩
      · rintro ⟨_, ⟨rfl, rfl⟩, hcontract, hlength, hdigest⟩
        exact ⟨⟨⟩, hcontract, ⟨hlength, hdigest⟩, rfl⟩

theorem loadVerifiedManifest_staged {root : ArchiveRoot D}
    (hroot : root utcDate = some (.directory (some manifest) (some frames)))
    (hcontract : validateManifestContract manifest utcDate = .ok ())
    (hsize : frames.length = manifest.archiveSizeBytes)
    (hdigest : digest frames = manifest.archiveSha256)
    (hpayload : verifyArchivePayload frames manifest = .ok ()) :
    loadVerifiedManifest root utcDate = .ok manifest := by
  have hbarrier := loadArchiveBarrierManifest_ok.mpr ⟨frames, hroot, hcontract, hsize, hdigest⟩
  unfold loadVerifiedManifest
  rw [hbarrier, hroot]
  exact bind_ok.mpr ⟨manifest, rfl, bind_ok.mpr ⟨(), mapError_ok.mpr hpayload, rfl⟩⟩

omit [ResearchPayload R] [DeskMapPayload M] [ForecastPayload F] in
/-- **A verified segment has the content its row was made from**, whichever reader is used. -/
theorem verifySourceWith_content (hcodec : FaithfulCodec D) {directory' : Directory}
    {read : Bytes → Except FrameArchiveError (ValidatedRecords D)} {u : Unit}
    (hread : ∀ content actual, read content = .ok actual →
      actual.sha256 = digest content)
    (hrow : manifest.sourceOf segment.name = .ok (rowOf D directory segment))
    (h : verifySourceWith read directory' segment.name manifest = .ok u) :
    directory'.read segment.name = some (contentOf directory segment) := by
  obtain ⟨expected, content, actual, hexpected, hfile, -, hactual, hmatches⟩ :=
    verifySourceWith_ok.mp h
  rw [hrow, Except.ok.injEq] at hexpected
  have hsha := hmatches.1
  rw [hread content actual hactual, ← hexpected] at hsha
  rw [hfile, hcodec.digest_injective hsha]

theorem validateRecords_sha256 {content : Bytes} {name : String} {actual : ValidatedRecords D}
    (h : validateRecords content utcDate name = .ok actual) :
    actual.sha256 = digest content := by
  obtain ⟨-, -, rfl⟩ := validateRecords_ok.mp h
  rfl

omit [DecidableEq D] [ResearchPayload R] [DeskMapPayload M] [ForecastPayload F] in
theorem fingerprintRecords_sha256 {schedule : ReadSchedule} {content : Bytes}
    {actual : ValidatedRecords D} (h : fingerprintRecords schedule content = .ok actual) :
    actual.sha256 = digest content := by
  obtain ⟨-, -, rfl⟩ := fingerprintRecords_ok.mp h
  rfl

omit [ResearchPayload R] [DeskMapPayload M] [ForecastPayload F] in
theorem verifySourcePath_ok {schedule : ReadSchedule} {expectedSize : Nat} {u : Unit}
    (hparse : parseSegmentName segment.name = some (manifest.utcDate, segment.index)) :
    verifySourcePath schedule directory segment.name expectedSize manifest = .ok u ↔
      ∃ source, manifest.sourceOf segment.name = .ok source ∧ source.sizeBytes = expectedSize ∧
        verifySourceFingerprintAgainstManifest schedule directory segment manifest = .ok u := by
  unfold verifySourcePath
  rw [hparse, Option.filter_some, if_pos (decide_eq_true rfl)]
  dsimp only
  rw [bind_ok]
  simp

/-- **Archive round trip.** The archive built from a day's valid segments is accepted by the payload
verifier, the existing-archive verifier and each verifier of a segment; its stream is the
concatenation of the segments in the order of their indices; the two readers agree on every segment;
and no verifier accepts a segment whose content was altered. -/
theorem archive_round_trip (hcodec : FaithfulCodec D) (schedule : ReadSchedule)
    {root : ArchiveRoot D} {now : DateTime} {segments : List SourceSegment}
    (hdiscover : discoverDaySegments directory utcDate = .ok segments)
    (haccepted : ∀ segment ∈ segments, Accepted D directory utcDate segment) :
    ((segments.map fun s => (contentOf directory s).length).sum < 2 ^ 64 →
      ∃ built, buildStagedArchive true root directory utcDate now segments = .ok built) ∧
    ∀ report root',
      buildStagedArchive true root directory utcDate now segments = .ok (report, root') →
      ∃ frames, root' utcDate = some (.directory (some report.manifest) (some frames)) ∧
        verifyArchivePayload frames report.manifest = .ok () ∧
        decompress D frames = some (segments.map (contentOf directory)).flatten ∧
        segments.Pairwise (fun left right => left.index < right.index) ∧
        (∃ verified, verifyExistingArchive root' directory utcDate segments = .ok verified) ∧
        (∀ segment ∈ segments,
          verifySourceAgainstManifest directory segment report.manifest = .ok () ∧
          verifySourcePath schedule directory segment.name (contentOf directory segment).length
            report.manifest = .ok () ∧
          ∃ validated : ValidatedRecords D,
            validateRecords (contentOf directory segment) utcDate segment.name = .ok validated ∧
            fingerprintRecords schedule (contentOf directory segment) = .ok validated) ∧
        ∀ directory' segment, segment ∈ segments →
          directory'.read segment.name ≠ directory.read segment.name →
          (∀ u, verifySourceAgainstManifest directory' segment report.manifest ≠ .ok u) ∧
            ∀ expectedSize u, verifySourcePath schedule directory' segment.name expectedSize
              report.manifest ≠ .ok u := by
  obtain ⟨hsegments, hsorted⟩ := discoverDaySegments_ok hdiscover
  constructor
  · intro hsize
    exact ⟨_, bind_ok.mpr ⟨_, stageArchive_accepted hcodec hdiscover haccepted hsize, rfl⟩⟩
  intro report root' hbuild
  obtain ⟨⟨frames, manifest⟩, hstage, hbuilt⟩ := bind_ok.mp hbuild
  cases hbuilt
  obtain ⟨-, hframes, hmanifest, -, -, hcontract, hpayload⟩ := stageArchive_ok.mp hstage
  dsimp only
  have hdate : manifest.utcDate = utcDate := by rw [hmanifest]; rfl
  have hparse : ∀ segment ∈ segments,
      parseSegmentName segment.name = some (utcDate, segment.index) :=
    fun segment hmem => ((hsegments segment).mp hmem).1
  have hrow : ∀ segment ∈ segments,
      manifest.sourceOf segment.name = .ok (rowOf D directory segment) := by
    intro segment hmem
    rw [sourceOf_ok, hmanifest]
    exact find_rowOf hparse hmem
  have hroot : Function.update root utcDate (some (.directory (some manifest) (some frames)))
      utcDate = some (.directory (some manifest) (some frames)) :=
    Function.update_self _ _ _
  -- Both verifiers of a segment accept the one the row was made from.
  have hsource : ∀ segment ∈ segments,
      verifySourceAgainstManifest directory segment manifest = .ok () := by
    intro segment hmem
    obtain ⟨hread, hvalid⟩ := (haccepted segment hmem).read
    unfold verifySourceAgainstManifest
    rw [hdate]
    exact verifySourceWith_ok.mpr ⟨_, _, _, hrow segment hmem, hread, rfl, hvalid,
      rowOf_matches segment⟩
  have hfingerprint : ∀ segment ∈ segments,
      fingerprintRecords schedule (contentOf directory segment) =
        .ok (reportOf D directory segment) :=
    fun segment hmem => fingerprint_of_validated schedule (haccepted segment hmem).read.2
  have hpath : ∀ segment ∈ segments,
      verifySourcePath schedule directory segment.name (contentOf directory segment).length
        manifest = .ok () := by
    intro segment hmem
    rw [verifySourcePath_ok (hdate.symm ▸ hparse segment hmem)]
    refine ⟨_, hrow segment hmem, rfl, verifySourceWith_ok.mpr ?_⟩
    exact ⟨_, _, _, hrow segment hmem, (haccepted segment hmem).read.1, rfl,
      hfingerprint segment hmem, rowOf_matches segment⟩
  refine ⟨frames, hroot, hpayload, ?_, hsorted, ?_, fun segment hmem => ⟨hsource segment hmem,
    hpath segment hmem, _, (haccepted segment hmem).read.2, hfingerprint segment hmem⟩, ?_⟩
  · rw [hframes]
    exact decompress_framesOf hcodec segments
  · have hload := loadVerifiedManifest_staged hroot hcontract (by rw [hmanifest]; rfl)
      (by rw [hmanifest]; rfl) hpayload
    exact ⟨_, bind_ok.mpr ⟨manifest, hload, bind_ok.mpr ⟨⟨⟩, forM_ok.mpr hsource, rfl⟩⟩⟩
  · intro directory' segment hmem haltered
    have hread := (haccepted segment hmem).read.1
    rw [hread] at haltered
    refine ⟨fun u hok => haltered ?_, fun expectedSize u hok => haltered ?_⟩
    · exact verifySourceWith_content hcodec (fun _ _ h => validateRecords_sha256 h)
        (hrow segment hmem) hok
    · obtain ⟨-, -, -, hverified⟩ :=
        (verifySourcePath_ok (hdate.symm ▸ hparse segment hmem)).mp hok
      exact verifySourceWith_content hcodec (fun _ _ h => fingerprintRecords_sha256 h)
        (hrow segment hmem) hverified

end

/-! ## A day of two segments -/

theorem faithful_sampleCodec : FaithfulCodec SampleDigest where
  round_trips chunks := by
    have hmagic : sampleFrames.head? = some 0x28 := by decide +kernel
    have hother : 0 :: chunks.flatten ≠ sampleFrames := by
      intro heq
      rw [← heq] at hmagic
      exact absurd hmagic (by simp)
    unfold decompress compress sampleCodec
    dsimp only
    by_cases hsample : chunks.flatten = sampleContent ++ sampleContent
    · rw [if_pos hsample, if_pos rfl, hsample]
    · rw [if_neg hsample, if_neg hother, if_pos head?_cons, tail_cons]
  digest_isSha256 bytes := by
    unfold isSha256 digest sampleCodec
    dsimp only
    split_ifs
    · decide
    · decide
    · decide
    · rfl
  digest_injective bytes bytes' h := by
    unfold digest sampleCodec at h
    dsimp only at h
    split_ifs at h <;> simp_all [samplePayloadHash]

/-- Two segments of a day, and a file that is none. -/
def sampleDirectory : Directory :=
  (AList.insert (.text "2026-01-05.0001.ndjson") (.file sampleContent) ∅).insert
    (.text "2026-01-05.0000.ndjson") (.file sampleContent) |>.insert (.text "notes.txt") (.file [])

def sampleSegments : List SourceSegment :=
  [⟨"2026-01-05.0000.ndjson", 0⟩, ⟨"2026-01-05.0001.ndjson", 1⟩]

theorem archive_round_trip_two_segments : ∃ report root' frames,
      buildStagedArchive true (fun _ => none) sampleDirectory (dateNaive sampleInstant)
        (sampleInstant + 86400000000000) sampleSegments =
        .ok ((report, root') : FrameArchiveReport SampleDigest × ArchiveRoot SampleDigest) ∧
      root' (dateNaive sampleInstant) = some (.directory (some report.manifest) (some frames)) ∧
      verifyArchivePayload frames report.manifest = .ok () := by
  have hdiscover : discoverDaySegments sampleDirectory (dateNaive sampleInstant) =
      .ok sampleSegments := by
    have hfold : (sampleDirectory.entries.map fun e => (e.1, e.2)).foldlM
        (collectSegment (dateNaive sampleInstant)) [] = .ok sampleSegments := by
      decide +kernel
    unfold discoverDaySegments
    rw [hfold]
    exact congrArg Except.ok (mergeSort_of_pairwise (by decide))
  have haccepted : ∀ segment ∈ sampleSegments,
      Accepted SampleDigest sampleDirectory (dateNaive sampleInstant) segment := by
    have hpieces : pieces newline sampleContent = [sampleContent] := by
      decide +kernel
    have hrecord : IsRecord SampleDigest (dateNaive sampleInstant) sampleContent := by
      unfold IsRecord
      decide +kernel
    have hsize : sampleContent.length < 2 ^ 64 := by
      decide +kernel
    intro segment hmem
    have hread : sampleDirectory.read segment.name = some sampleContent := by
      rcases mem_cons.mp hmem with rfl | hmem
      · rfl
      · rw [mem_singleton.mp hmem]
        rfl
    refine ⟨sampleContent, hread, _, validateRecords_ok.mpr ⟨?_, hsize, rfl⟩⟩
    rw [hpieces]
    exact forall_mem_singleton.mpr hrecord
  obtain ⟨⟨report, root'⟩, hbuild⟩ : ∃ built, buildStagedArchive true (fun _ => none)
      sampleDirectory (dateNaive sampleInstant) (sampleInstant + 86400000000000) sampleSegments =
      .ok (built : FrameArchiveReport SampleDigest × ArchiveRoot SampleDigest) :=
    (archive_round_trip faithful_sampleCodec ReadSchedule.whole hdiscover haccepted).1
      (by decide +kernel)
  obtain ⟨frames, hroot, hpayload, -⟩ :=
    (archive_round_trip faithful_sampleCodec ReadSchedule.whole hdiscover haccepted).2 report root'
      hbuild
  exact ⟨report, root', frames, hbuild, hroot, hpayload⟩

end SpxSpark.Core
