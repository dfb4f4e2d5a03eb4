import SpxSpark.Core.ArchiveRoundTrip
import SpxSpark.Core.PruneSelection

/-!
# Prune — removing the segments of completed days

Pruning plans, asks the archive and removes, in three passes. The plan touches only dates before the
current one; one candidate that the archive does not answer for withholds the whole removal; and a
removal that fails half way leaves the rest of the files in place.
-/

namespace SpxSpark.Core

open Domain Lib Lib.Calendar Lib.Effect List

/-! ## The archive's word -/

structure RawLogArchiveDenial where
  segment : String
  utcDate : NaiveDate
  reason : FrameArchiveError

inductive RawLogArchiveBarrierStatus
  | notRequired
  | satisfied
  | withheld
  deriving DecidableEq

section
variable {D R M F : Type} [DecidableEq D] [FrameCodec D R M F]

/-- What the archive says about one candidate. -/
def authorizeSegment (schedule : ReadSchedule) (directory : Directory)
    (manifest : Except FrameArchiveError (FrameArchiveManifest D)) (segment : SegmentFile) :
    Except FrameArchiveError Unit :=
  manifest >>= verifySourcePath schedule directory segment.name segment.bytes

/-- The candidates of one date, one after another, with those authorized so far. -/
def authorizeDate (schedule : ReadSchedule) (directory : Directory) (root : ArchiveRoot D)
    (answers : Nat × List RawLogArchiveDenial) (date : NaiveDate) (candidates : List SegmentFile) :
    Nat × List RawLogArchiveDenial :=
  let manifest := loadArchiveBarrierManifest root date
  candidates.foldl
    (fun answers segment =>
      match authorizeSegment schedule directory manifest segment with
      | .ok () => (answers.1 + 1, answers.2)
      | .error reason => (answers.1, answers.2 ++ [⟨segment.name, date, reason⟩]))
    answers

/-- The dates of the candidates, in order, as the keys of a `BTreeMap`. -/
def candidateDates (candidates : List SegmentFile) : List NaiveDate :=
  (candidates.map (·.date)).dedup.insertionSort (· ≤ ·)

def archiveAnswers (schedule : ReadSchedule) (directory : Directory) (root : ArchiveRoot D)
    (candidates : List SegmentFile) : Nat × List RawLogArchiveDenial :=
  (candidateDates candidates).foldl
    (fun answers date => authorizeDate schedule directory root answers date
      (candidates.filter (·.date = date)))
    (0, [])

def authorizeArchiveSelection (schedule : ReadSchedule) (directory : Directory)
    (root : ArchiveRoot D) (segments : List SegmentFile) (policySelection : PruneSelection)
    (totalBytesBefore : Nat) : PruneSelection × Nat × List RawLogArchiveDenial :=
  let answers := archiveAnswers schedule directory root (marked segments policySelection.selected)
  if answers.2 = [] then (policySelection, answers)
  else
    ({ selected := List.replicate segments.length false
       projectedBytesAfter := totalBytesBefore
       plannedFiles := 0
       plannedBytes := 0 }, answers)

end

/-! ## The removal -/

/-- The answers of the disk to the calls that change it. -/
structure PruneDisk where
  removes : String → Bool
  syncs : Bool

abbrev PruneM := Effect Directory RawLogError

def liftPrune {α : Type} (x : Except RawLogError α) : PruneM α :=
  match x with
  | .ok a => pure a
  | .error e => throw e

def verifyRetentionCandidate (directory : Directory) (candidate : SegmentFile) :
    Except RawLogError Unit := do
  require (parseSegmentName candidate.name = some (candidate.date, candidate.index))
    (.retentionCandidateChanged candidate.name)
  match directory.lookup (.text candidate.name) with
  | none => .error .io
  | some .other => .error (.retentionCandidateChanged candidate.name)
  | some (.file content) =>
    require (content.length = candidate.bytes) (.retentionCandidateChanged candidate.name)

/-- The loop of `apply_verified_selection`. -/
def applyVerifiedSelection (disk : PruneDisk) :
    List SegmentFile → Nat → Nat → PruneM (Nat × Nat)
  | [], removedFiles, removedBytes =>
    if 0 < removedFiles ∧ disk.syncs = false then
      throw (.pruneMutation removedFiles removedBytes false)
    else pure (removedFiles, removedBytes)
  | segment :: rest, removedFiles, removedBytes => do
      liftPrune (require (removedBytes + segment.bytes < 2 ^ 64) .freeSpaceArithmeticOverflow)
      if disk.removes segment.name = true then do
        modify fun directory : Directory => directory.erase (.text segment.name)
        applyVerifiedSelection disk rest (removedFiles + 1) (removedBytes + segment.bytes)
      else
        throw (.pruneMutation removedFiles removedBytes (decide (removedFiles = 0) || disk.syncs))

def applySelection (disk : PruneDisk) (segments : List SegmentFile) (selected : List Bool)
    (dryRun : Bool) : PruneM (Nat × Nat) :=
  if dryRun = true then pure (0, 0)
  else do
    let directory ← get
    liftPrune ((marked segments selected).forM (verifyRetentionCandidate directory))
    applyVerifiedSelection disk (marked segments selected) 0 0

/-! ## Pruning -/

structure RawLogPruneReport where
  currentUtcDate : NaiveDate
  keepCompletedDays : Nat
  maxTotalBytes : Nat
  dryRun : Bool
  matchedFiles : Nat
  ignoredEntries : Nat
  protectedCurrentOrFutureFiles : Nat
  totalBytesBefore : Nat
  policyCandidateFiles : Nat
  policyCandidateBytes : Nat
  archiveAuthorizedFiles : Nat
  archiveUnauthorizedFiles : Nat
  archiveDenials : List RawLogArchiveDenial
  archiveBarrierStatus : RawLogArchiveBarrierStatus
  plannedFiles : Nat
  plannedBytes : Nat
  removedFiles : Nat
  removedBytes : Nat
  projectedBytesAfter : Nat
  limitSatisfiedAfterPlan : Bool

section
variable {D R M F : Type} [DecidableEq D] [FrameCodec D R M F]

/-- `prune_raw_log_inner`, with or without an archive to ask. -/
def pruneRawLogInner (disk : PruneDisk) (schedule : ReadSchedule) (currentUtcDate : NaiveDate)
    (keepCompletedDays maxTotalBytes : Nat) (dryRun : Bool) (archiveRoot : Option (ArchiveRoot D)) :
    PruneM RawLogPruneReport := do
  let directory ← get
  let (segments, totalBytesBefore, policySelection) ←
    liftPrune (prunePlan directory currentUtcDate keepCompletedDays maxTotalBytes)
  let (selection, archiveAuthorizedFiles, archiveDenials) :=
    match archiveRoot with
    | some root => authorizeArchiveSelection schedule directory root segments policySelection
        totalBytesBefore
    | none => (policySelection, policySelection.plannedFiles, [])
  let (removedFiles, removedBytes) ← applySelection disk segments selection.selected dryRun
  pure
    { currentUtcDate
      keepCompletedDays
      maxTotalBytes
      dryRun
      matchedFiles := segments.length
      ignoredEntries := (scanSegmentFiles directory).2
      protectedCurrentOrFutureFiles := (segments.filter (currentUtcDate ≤ ·.date)).length
      totalBytesBefore
      policyCandidateFiles := policySelection.plannedFiles
      policyCandidateBytes := policySelection.plannedBytes
      archiveAuthorizedFiles
      archiveUnauthorizedFiles := archiveDenials.length
      archiveDenials
      archiveBarrierStatus :=
        match archiveRoot, archiveDenials with
        | none, _ => .notRequired
        | some _, [] => .satisfied
        | some _, _ :: _ => .withheld
      plannedFiles := selection.plannedFiles
      plannedBytes := selection.plannedBytes
      removedFiles
      removedBytes
      projectedBytesAfter := selection.projectedBytesAfter
      limitSatisfiedAfterPlan := decide (selection.projectedBytesAfter ≤ maxTotalBytes) }

def pruneRawLogWithArchive (disk : PruneDisk) (schedule : ReadSchedule)
    (currentUtcDate : NaiveDate) (keepCompletedDays maxTotalBytes : Nat) (dryRun : Bool)
    (archiveRoot : ArchiveRoot D) : PruneM RawLogPruneReport :=
  pruneRawLogInner disk schedule currentUtcDate keepCompletedDays maxTotalBytes dryRun
    (some archiveRoot)

end

/-! ## What the passes do -/

variable {segments : List SegmentFile} {segment : SegmentFile}

section
variable {D R M F : Type} [DecidableEq D] [FrameCodec D R M F] {schedule : ReadSchedule}
  {directory : Directory} {root : ArchiveRoot D}

theorem authorizeDate_nil {answers : Nat × List RawLogArchiveDenial} {date : NaiveDate}
    {candidates : List SegmentFile} :
    (authorizeDate schedule directory root answers date candidates).2 = [] ↔
      answers.2 = [] ∧ ∀ segment ∈ candidates, authorizeSegment schedule directory
        (loadArchiveBarrierManifest root date) segment = .ok () := by
  unfold authorizeDate
  dsimp only
  induction candidates generalizing answers with
  | nil => simp
  | cons segment rest ih =>
    rw [foldl_cons, ih, forall_mem_cons]
    cases authorizeSegment schedule directory (loadArchiveBarrierManifest root date) segment with
    | ok u => simp
    | error reason => simp

/-- **No denial means that the archive answered for every candidate**, each from the manifest of its
own date. -/
theorem archiveAnswers_nil {candidates : List SegmentFile} :
    (archiveAnswers schedule directory root candidates).2 = [] ↔
      ∀ segment ∈ candidates, authorizeSegment schedule directory
        (loadArchiveBarrierManifest root segment.date) segment = .ok () := by
  have hfold : ∀ (dates : List NaiveDate) (answers : Nat × List RawLogArchiveDenial),
      (dates.foldl (fun answers date => authorizeDate schedule directory root answers date
        (candidates.filter (·.date = date))) answers).2 = [] ↔
      answers.2 = [] ∧ ∀ date ∈ dates, ∀ segment ∈ candidates, segment.date = date →
        authorizeSegment schedule directory (loadArchiveBarrierManifest root date) segment =
          .ok () := by
    intro dates
    induction dates with
    | nil => simp
    | cons date rest ih =>
      intro answers
      rw [foldl_cons, ih, authorizeDate_nil, forall_mem_cons, and_assoc]
      simp
  unfold archiveAnswers
  rw [hfold]
  constructor
  · rintro ⟨-, hdates⟩ segment hmem
    refine hdates segment.date ?_ segment hmem rfl
    unfold candidateDates
    rw [mem_insertionSort, mem_dedup]
    exact mem_map_of_mem hmem
  · intro hall
    refine ⟨rfl, fun date _ segment hmem hdate => ?_⟩
    rw [← hdate]
    exact hall segment hmem

theorem marked_replicate_false (segments : List SegmentFile) :
    marked segments (List.replicate segments.length false) = [] := by
  rw [eq_nil_iff_forall_not_mem]
  intro segment hmem
  rw [mem_marked] at hmem
  exact absurd (eq_of_mem_replicate (of_mem_zip hmem).2) (by decide)

/-- **What is removed was authorized**, all of it or none. -/
theorem marked_authorized (schedule : ReadSchedule) (directory : Directory) (root : ArchiveRoot D)
    (segments : List SegmentFile) (selection : PruneSelection) (totalBytesBefore : Nat) :
    let authorized := authorizeArchiveSelection schedule directory root segments selection
      totalBytesBefore
    (marked segments authorized.1.selected = marked segments selection.selected ∧
      ∀ segment ∈ marked segments selection.selected, authorizeSegment schedule directory
        (loadArchiveBarrierManifest root segment.date) segment = .ok ()) ∨
      marked segments authorized.1.selected = [] ∧
        ¬ ∀ segment ∈ marked segments selection.selected, authorizeSegment schedule directory
          (loadArchiveBarrierManifest root segment.date) segment = .ok () := by
  unfold authorizeArchiveSelection
  dsimp only
  split
  · rename_i hnone
    exact .inl ⟨rfl, archiveAnswers_nil.mp hnone⟩
  · rename_i hdenied
    exact .inr ⟨marked_replicate_false segments, fun hall => hdenied (archiveAnswers_nil.mpr hall)⟩

end

/-! ## What the removal leaves -/

/-- Every file is there unchanged, or is one of the segments and gone. -/
def Kept (segments : List SegmentFile) (directory directory' : Directory) : Prop :=
  ∀ file, directory'.lookup file = directory.lookup file ∨
    ∃ segment ∈ segments, file = .text segment.name ∧ directory'.lookup file = none

theorem wp_liftPrune {α : Type} {x : Except RawLogError α} {Q : α → Directory → Prop}
    {E : RawLogError → Directory → Prop} {directory : Directory} : wp (liftPrune x) Q E directory ↔
      (∀ a, x = .ok a → Q a directory) ∧ ∀ e, x = .error e → E e directory := by
  cases x with
  | ok a => simp [liftPrune]
  | error e => simp [liftPrune]

theorem Kept.erase {directory directory' : Directory} (h : Kept segments directory directory')
    (hmem : segment ∈ segments) :
    Kept segments directory (directory'.erase (.text segment.name)) := by
  intro file
  by_cases hfile : file = .text segment.name
  · refine .inr ⟨segment, hmem, hfile, ?_⟩
    rw [hfile, AList.lookup_erase]
  · rw [AList.lookup_erase_ne hfile]
    exact h file

theorem applyVerifiedSelection_wp (disk : PruneDisk) {removing : List SegmentFile}
    {directory : Directory} (hsub : ∀ segment ∈ removing, segment ∈ segments)
    (removedFiles removedBytes : Nat) {directory' : Directory}
    (h : Kept segments directory directory') :
    wp (applyVerifiedSelection disk removing removedFiles removedBytes)
      (fun _ => Kept segments directory) (fun _ => Kept segments directory) directory' := by
  induction removing generalizing removedFiles removedBytes directory' with
  | nil =>
    unfold applyVerifiedSelection
    rw [wp_ite]
    exact ⟨fun _ => h, fun _ => h⟩
  | cons segment rest ih =>
    unfold applyVerifiedSelection
    simp only [wp_bind, wp_liftPrune, wp_ite, wp_modify, wp_throw]
    refine ⟨fun _ _ => ⟨fun _ => ?_, fun _ => h⟩, fun _ _ => h⟩
    exact ih (fun s hs => hsub s (mem_cons_of_mem _ hs)) _ _
      (h.erase (hsub segment mem_cons_self))

theorem Kept.refl (segments : List SegmentFile) (directory : Directory) :
    Kept segments directory directory :=
  fun _ => .inl rfl

theorem applySelection_wp (disk : PruneDisk) (segments : List SegmentFile) (selected : List Bool)
    (dryRun : Bool) (directory : Directory) : wp (applySelection disk segments selected dryRun)
      (fun _ => Kept (marked segments selected) directory)
      (fun _ => Kept (marked segments selected) directory) directory := by
  unfold applySelection
  simp only [wp_ite, wp_pure, wp_bind, wp_get, wp_liftPrune]
  refine ⟨fun _ => .refl _ _, fun _ => ⟨fun _ _ => ?_, fun _ _ => .refl _ _⟩⟩
  exact applyVerifiedSelection_wp disk (fun _ h => h) 0 0 (.refl _ _)

/-! ## What the archive holds -/

section
variable {D R M F : Type} [DecidableEq D] [FrameCodec D R M F] [ResearchPayload R]
  [DeskMapPayload M] [ForecastPayload F] {schedule : ReadSchedule} {directory : Directory}
  {root : ArchiveRoot D} {manifest : FrameArchiveManifest D}

theorem foldlM_verifyArchivedSource_split {utcDate : NaiveDate} {stream rest : Bytes}
    {before after : List (FrameArchiveSource D)} {source : FrameArchiveSource D}
    (h : (before ++ source :: after).foldlM (verifyArchivedSource utcDate) stream = .ok rest) :
    ∃ actual, validateRecords
        ((stream.drop (before.map (·.sizeBytes)).sum).take source.sizeBytes) utcDate source.name =
        .ok actual ∧ source.matches actual := by
  induction before generalizing stream with
  | nil =>
    rw [nil_append, foldlM_cons, bind_ok] at h
    obtain ⟨_, hsource, -⟩ := h
    obtain ⟨actual, hactual, hmatches⟩ := bind_ok.mp hsource
    exact ⟨actual, hactual, (require_bind_ok.mp hmatches).1⟩
  | cons first more ih =>
    rw [cons_append, foldlM_cons, bind_ok] at h
    obtain ⟨_, hfirst, h⟩ := h
    obtain ⟨_, -, hmatches⟩ := bind_ok.mp hfirst
    cases (require_bind_ok.mp hmatches).2
    rw [map_cons, sum_cons, ← drop_drop]
    exact ih h

/-- What the barrier knows of a segment before it is removed: the row of its name in the manifest of
its date has its size, digest and number of lines, and the archive file is the one the manifest
names. -/
structure Covered (root : ArchiveRoot D) (date : NaiveDate) (name : String) (content : Bytes)
    (manifest : FrameArchiveManifest D) (frames : Bytes) (source : FrameArchiveSource D) :
    Prop where
  stored : root date = some (.directory (some manifest) (some frames))
  contract : validateManifestContract manifest date = .ok ()
  frames_size : frames.length = manifest.archiveSizeBytes
  frames_sha256 : FrameCodec.digest frames = manifest.archiveSha256
  row : source ∈ manifest.sourceSegments
  row_name : source.name = name
  row_size : content.length = source.sizeBytes
  row_sha256 : FrameCodec.digest content = source.sha256
  row_count : content.count newline = source.recordCount

omit [ResearchPayload R] [DeskMapPayload M] [ForecastPayload F] in
/-- **An authorized candidate is covered.** -/
theorem authorizeSegment_ok {content : Bytes} (hread : directory.read segment.name = some content)
    (h : authorizeSegment schedule directory (loadArchiveBarrierManifest root segment.date)
      segment = .ok ()) :
    ∃ manifest frames source,
      Covered root segment.date segment.name content manifest frames source := by
  obtain ⟨manifest, hload, hpath⟩ := bind_ok.mp h
  obtain ⟨frames, hroot, hcontract, hsize, hdigest⟩ := loadArchiveBarrierManifest_ok.mp hload
  unfold verifySourcePath at hpath
  split at hpath
  · cases hpath
  obtain ⟨source, hsource, hpath⟩ := bind_ok.mp hpath
  obtain ⟨-, hpath⟩ := require_bind_ok.mp hpath
  obtain ⟨expected, found, actual, hexpected, hfile, hlength, hactual, hmatches⟩ :=
    verifySourceWith_ok.mp hpath
  dsimp only at hexpected hfile
  rw [hread, Option.some.injEq] at hfile
  subst hfile
  obtain ⟨-, -, rfl⟩ := fingerprintRecords_ok.mp hactual
  rw [sourceOf_ok] at hexpected
  refine ⟨manifest, frames, expected, hroot, hcontract, hsize, hdigest,
    mem_of_find?_eq_some hexpected, ?_, hlength, hmatches.1, hmatches.2.2⟩
  have hname := find?_some hexpected
  exact of_decide_eq_true hname

/-- **A covered segment's bytes stand in the archive at its own place**, when the stream passes the
verification that every publication requires. -/
theorem Covered.in_stream {date : NaiveDate} {name : String} {content frames : Bytes}
    {source : FrameArchiveSource D} (h : Covered root date name content manifest frames source)
    (hinjective : Function.Injective (FrameCodec.digest : Bytes → D))
    (hpayload : verifyArchivePayload frames manifest = .ok ()) :
    ∃ stream before after, FrameCodec.decompress D frames = some stream ∧
      manifest.sourceSegments = before ++ source :: after ∧
      (stream.drop (before.map (·.sizeBytes)).sum).take source.sizeBytes = content := by
  obtain ⟨before, after, hsplit⟩ := append_of_mem h.row
  unfold verifyArchivePayload at hpayload
  split at hpayload
  · cases hpayload
  rename_i stream hstream
  obtain ⟨trailing, hfold, -⟩ := bind_ok.mp hpayload
  rw [hsplit] at hfold
  obtain ⟨actual, hactual, hmatches⟩ := foldlM_verifyArchivedSource_split hfold
  refine ⟨stream, before, after, hstream, hsplit, hinjective ?_⟩
  rw [← validateRecords_sha256 hactual, hmatches.1, h.row_sha256]

end

/-! ## Pruning under the barrier -/

section
variable {D R M F : Type} [DecidableEq D] [FrameCodec D R M F] {schedule : ReadSchedule}
  {root : ArchiveRoot D}

/-- Every file that is not there unchanged was selected and authorized. -/
theorem pruneRawLogWithArchive_wp (disk : PruneDisk) (schedule : ReadSchedule)
    (currentUtcDate : NaiveDate) (keepCompletedDays maxTotalBytes : Nat) (dryRun : Bool)
    (root : ArchiveRoot D) (directory : Directory) :
    let after : Directory → Prop := fun directory' => directory' = directory ∨
      ∃ segments totalBytesBefore selection,
        prunePlan directory currentUtcDate keepCompletedDays maxTotalBytes =
          .ok (segments, totalBytesBefore, selection) ∧
        Kept (marked segments (authorizeArchiveSelection schedule directory root segments selection
          totalBytesBefore).1.selected) directory directory'
    wp (pruneRawLogWithArchive disk schedule currentUtcDate keepCompletedDays maxTotalBytes dryRun
      root) (fun _ => after) (fun _ => after) directory := by
  intro after
  unfold pruneRawLogWithArchive pruneRawLogInner
  simp only [wp_bind, wp_get, wp_liftPrune]
  refine ⟨fun plan hplan => ?_, fun _ _ => .inl rfl⟩
  obtain ⟨segments, totalBytesBefore, selection⟩ := plan
  have hafter : ∀ directory',
      Kept (marked segments (authorizeArchiveSelection schedule directory root
      segments selection totalBytesBefore).1.selected) directory directory' → after directory' :=
    fun _ hkept => .inr ⟨segments, totalBytesBefore, selection, hplan, hkept⟩
  rcases hauthorized : authorizeArchiveSelection schedule directory root segments selection
    totalBytesBefore with ⟨authorized, files, denials⟩
  rw [hauthorized] at hafter
  dsimp only at hafter ⊢
  simp only [wp_pure]
  exact wp_mono (fun _ => hafter) (fun _ => hafter)
    (applySelection_wp disk segments authorized.selected dryRun directory)

variable [ResearchPayload R] [DeskMapPayload M] [ForecastPayload F]

/-- **What pruning removes.** Whatever the directory, the archive and the answers of the disk: a
file that is gone was a segment of an earlier date whose size, digest and number of lines are those
of its row in the manifest of that date, so that its bytes stand at its own place in the archive
whenever the stored stream passes the payload verification; and one candidate that the archive does
not answer for keeps every file in place. -/
theorem prune_covered (hinjective : Function.Injective (FrameCodec.digest : Bytes → D))
    (disk : PruneDisk) (schedule : ReadSchedule) (currentUtcDate : NaiveDate)
    (keepCompletedDays maxTotalBytes : Nat) (dryRun : Bool) (root : ArchiveRoot D)
    (directory : Directory) :
    let directory' := (pruneRawLogWithArchive disk schedule currentUtcDate keepCompletedDays
      maxTotalBytes dryRun root).final directory
    (∀ file, directory'.lookup file ≠ directory.lookup file →
      ∃ name date index content manifest frames source, file = .text name ∧
        directory.read name = some content ∧ directory'.lookup file = none ∧
        parseSegmentName name = some (date, index) ∧ date < currentUtcDate ∧
        Covered root date name content manifest frames source ∧
        (verifyArchivePayload frames manifest = .ok () →
          ∃ stream before after, FrameCodec.decompress D frames = some stream ∧
            manifest.sourceSegments = before ++ source :: after ∧
            (stream.drop (before.map (·.sizeBytes)).sum).take source.sizeBytes = content)) ∧
      ∀ segments totalBytesBefore selection,
        prunePlan directory currentUtcDate keepCompletedDays maxTotalBytes =
          .ok (segments, totalBytesBefore, selection) →
        (∃ segment ∈ marked segments selection.selected, authorizeSegment schedule directory
          (loadArchiveBarrierManifest root segment.date) segment ≠ .ok ()) →
        ∀ file, directory'.lookup file = directory.lookup file := by
  intro directory'
  have hfinal := wp_final (pruneRawLogWithArchive_wp disk schedule currentUtcDate
    keepCompletedDays maxTotalBytes dryRun root directory)
  rcases hfinal with hsame | ⟨segments, totalBytesBefore, selection, hplan, hkept⟩
  · have hfiles : ∀ file, directory'.lookup file = directory.lookup file :=
      fun file => congrArg (AList.lookup file) hsame
    exact ⟨fun file hchanged => absurd (hfiles file) hchanged, fun _ _ _ _ _ => hfiles⟩
  rcases marked_authorized schedule directory root segments selection totalBytesBefore with
    ⟨hmarked, hall⟩ | ⟨hnone, hdenied⟩
  · -- Every candidate was authorized.
    rw [hmarked] at hkept
    refine ⟨fun file hchanged => ?_, fun segments' _ selection' hplan' hdenied => ?_⟩
    · obtain ⟨segment, hmem, hfile, hgone⟩ := (hkept file).resolve_left hchanged
      obtain ⟨hdate, hparse, content, hread, -⟩ := prunePlan_ok hplan segment hmem
      obtain ⟨manifest, frames, source, hcovered⟩ := authorizeSegment_ok hread (hall segment hmem)
      exact ⟨segment.name, segment.date, segment.index, content, manifest, frames, source, hfile,
        hread, hgone, hparse, hdate, hcovered, hcovered.in_stream hinjective⟩
    · rw [hplan, Except.ok.injEq, Prod.mk.injEq, Prod.mk.injEq] at hplan'
      obtain ⟨rfl, -, rfl⟩ := hplan'
      obtain ⟨segment, hmem, hno⟩ := hdenied
      exact absurd (hall segment hmem) hno
  · -- One was denied, so nothing was marked for removal.
    rw [hnone] at hkept
    have hfiles : ∀ file, directory'.lookup file = directory.lookup file := by
      intro file
      rcases hkept file with hfile | ⟨segment, hmem, -⟩
      · exact hfile
      · cases hmem
    exact ⟨fun file hchanged => absurd (hfiles file) hchanged, fun _ _ _ _ _ => hfiles⟩

end

/-! ## Two archives -/

/-- A manifest with the rows of the two sample segments, beside that archive file. -/
def manifestBeside (frames : Bytes) : FrameArchiveManifest SampleDigest :=
  stagedManifest (dateNaive sampleInstant) sampleInstant
    (sampleSegments.map (rowOf SampleDigest sampleDirectory)) frames

def rootWith (frames : Bytes) : ArchiveRoot SampleDigest := fun date =>
  if date = dateNaive sampleInstant then
    some (.directory (some (manifestBeside frames)) (some frames))
  else none

/-- Pruning the sample directory on the day after, keeping nothing. -/
def prunedWith (frames : Bytes) : Directory :=
  (pruneRawLogWithArchive ⟨fun _ => true, true⟩ ReadSchedule.whole (dateNaive sampleInstant + 1) 0 1
    false (rootWith frames)).final sampleDirectory

theorem prune_covered_archived : (prunedWith sampleFrames).read "2026-01-05.0001.ndjson" = none ∧
      ∃ stream before after source, FrameCodec.decompress SampleDigest sampleFrames = some stream ∧
        (manifestBeside sampleFrames).sourceSegments = before ++ source :: after ∧
        (stream.drop (before.map (·.sizeBytes)).sum).take source.sizeBytes = sampleContent := by
  have hgone : (prunedWith sampleFrames).lookup (.text "2026-01-05.0001.ndjson") = none := by
    decide +kernel
  have hgone_read : (prunedWith sampleFrames).read "2026-01-05.0001.ndjson" = none := by
    unfold Directory.read
    rw [hgone]
  have hthere : sampleDirectory.lookup (.text "2026-01-05.0001.ndjson") =
      some (.file sampleContent) := rfl
  have hpayload : verifyArchivePayload sampleFrames (manifestBeside sampleFrames) = .ok () := by
    decide +kernel
  obtain ⟨hremoved, -⟩ := prune_covered faithful_sampleCodec.digest_injective ⟨fun _ => true, true⟩
    ReadSchedule.whole (dateNaive sampleInstant + 1) 0 1 false
      (rootWith sampleFrames) sampleDirectory
  obtain ⟨name, date, index, content, manifest, frames, source, hname, hread, -, hparse, -,
    hcovered,
    hstream⟩ := hremoved (.text "2026-01-05.0001.ndjson") (by
      rw [hthere]
      exact ne_of_eq_of_ne hgone nofun)
  cases hname
  have hown : parseSegmentName "2026-01-05.0001.ndjson" = some (dateNaive sampleInstant, 1) := by
    decide +kernel
  rw [hown, Option.some.injEq, Prod.mk.injEq] at hparse
  have hstored := hcovered.stored
  rw [← hparse.1, show rootWith sampleFrames (dateNaive sampleInstant) = _ from if_pos rfl,
    Option.some.injEq, ArchiveEntry.directory.injEq, Option.some.injEq,
      Option.some.injEq] at hstored
  obtain ⟨rfl, rfl⟩ := hstored
  have hcontent : sampleDirectory.read "2026-01-05.0001.ndjson" = some sampleContent := rfl
  rw [hcontent, Option.some.injEq] at hread
  subst hread
  obtain ⟨stream, before, after, hin⟩ := hstream hpayload
  exact ⟨hgone_read, stream, before, after, source, hin⟩

/-- The archive file is a JSON text and no compressed stream, and the manifest names it. -/
theorem prune_unarchived : sampleDirectory.read "2026-01-05.0000.ndjson" = some sampleContent ∧
      (prunedWith samplePayload).read "2026-01-05.0000.ndjson" = none ∧
      rootWith samplePayload (dateNaive sampleInstant) =
        some (.directory (some (manifestBeside samplePayload)) (some samplePayload)) ∧
      FrameCodec.decompress SampleDigest samplePayload = none := by
  refine ⟨rfl, ?_, if_pos rfl, by decide +kernel⟩
  decide +kernel

end SpxSpark.Core
