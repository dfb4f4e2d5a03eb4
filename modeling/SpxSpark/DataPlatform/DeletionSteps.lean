import SpxSpark.DataPlatform.LakeInvariant

/-!
# DeletionSteps — what the deletion code establishes before an unlink

One lemma for each function of the source, from the snapshot up to `maybeDeleteRaw`: what it leaves
true of the files when it returns, whatever the collector does to the source meanwhile.
-/

namespace SpxSpark.DataPlatform

open Lib
open Program (Only only_perform perform wp_attempt wp_bind wp_mono wp_perform)

section Code

variable {Rows : Type} {tools : LakeTools Rows} {compactor : QuoteLakeCompactor}
  {partition : RawQuotePartition} {job : LakeJob} {course : Course} {call : LakeCall Rows}
  {fs s t : FileSystem} {raw : Bytes} {manifest : CompactionManifest} {output : StoredFile}

/-! ## What the code ensures -/

variable (tools compactor partition job) in
/-- `Q` where the code returns, `E` where it raises, with every call safe on the way. -/
abbrev Ensures {α : Type} (p : Lake Rows α) (Q : α → FileSystem → Prop)
    (E : Fault → FileSystem → Prop) (s : FileSystem) : Prop :=
  p.wp (lakeHost tools partition) (lakeRule tools compactor partition job) Q E s

variable {α : Type} {J : FileSystem → Prop}

/-- An assertion that does not look at the source. -/
def Stable (J : FileSystem → Prop) : Prop := ∀ s t, J s → SourceOnly s t → J t

variable {p : Lake Rows α} {E : Fault → FileSystem → Prop}

theorem ensures_bind {β : Type} {f : α → Lake Rows β} {Q : β → FileSystem → Prop}
    (h : Ensures tools compactor partition job p
      (fun a t => Ensures tools compactor partition job (f a) Q E t) E s) :
    Ensures tools compactor partition job (p >>= f) Q E s :=
  (wp_bind p f).mpr h

theorem LakeSafe.harmless (h : IsHarmless call) :
    LakeSafe tools compactor partition job call fs := by
  cases call <;> first | exact h.elim | trivial

theorem IsRead.harmless (h : IsRead call) : IsHarmless call := by
  cases call <;> first | exact h.elim | trivial

theorem reads_keep (hstable : Stable J) (hp : p.Only IsRead) (h : J s) :
    Ensures tools compactor partition job p (fun _ => J) (fun _ => J) s :=
  Only.keeps (fun s t hJ hst => hstable s t hJ hst)
    (fun _ hc _ _ hJ => ⟨LakeSafe.harmless hc.harmless, fun _ => by
      show J (performLake tools partition _ _ _).2
      rw [perform_read hc]
      exact hJ⟩) hp h

theorem harmless_ends (hp : p.Only IsHarmless) :
    Ensures tools compactor partition job p (fun _ _ => True) (fun _ _ => True) s :=
  Only.keeps (J := fun _ => True) (fun _ _ _ _ => trivial)
    (fun _ hc _ _ _ => ⟨LakeSafe.harmless hc, fun _ => trivial⟩) hp trivial

theorem ensures_read (hread : IsRead call) {Q : Answer call → FileSystem → Prop}
    (hok : ∀ t course answer, SourceOnly s t → LakeInv tools t →
      (respond tools partition course t call).1 = .ok answer → Q answer t)
    (herror : ∀ t fault, SourceOnly s t → E fault t) :
    Ensures tools compactor partition job (perform call) Q E s := by
  refine wp_perform fun t hrely hinv =>
    ⟨LakeSafe.harmless hread.harmless, fun course => ⟨fun answer hanswer => ?_, fun fault _ => ?_⟩⟩
  · show Q answer (performLake tools partition call course t).2
    rw [perform_read hread]
    exact hok t course answer hrely hinv (perform_ok hanswer).1
  · show E fault (performLake tools partition call course t).2
    rw [perform_read hread]
    exact herror t fault hrely

variable {path : LakePath}

theorem stat_answer {stat : FileStat}
    (h : (respond tools partition course fs (.stat path)).1 = .ok stat) :
    ∃ file, fs.file path = some file ∧ stat = ⟨file.bytes.length, file.mtimeNs⟩ := by
  unfold respond at h
  dsimp only at h
  split at h
  · rename_i file hfile
    exact ⟨file, hfile, (Except.ok.inj h).symm⟩
  · cases h

theorem read_answer {content : Bytes}
    (h : (respond tools partition course fs (.read path)).1 = .ok content) :
    ∃ file, fs.file path = some file ∧ content = file.bytes := by
  unfold respond at h
  dsimp only at h
  split at h
  · rename_i file hfile
    exact ⟨file, hfile, (Except.ok.inj h).symm⟩
  · cases h

theorem readParquet_answer {rows : Rows}
    (h : (respond tools partition course fs (.readParquet path)).1 = .ok rows) :
    ∃ file, fs.file path = some file ∧ tools.readParquet file.bytes = .ok rows := by
  unfold respond at h
  dsimp only at h
  split at h
  · rename_i file hfile
    exact ⟨file, hfile, h⟩
  · cases h

theorem SourceOnly.file (h : SourceOnly s t) (hpath : path ≠ .source) :
    t.file path = s.file path := by
  obtain ⟨source, rfl⟩ := h
  cases path with
  | source => exact absurd rfl hpath
  | parquet => rfl
  | temp => rfl
  | quarantine hex => rfl

theorem snapshotSource_reads (path : LakePath) :
    (snapshotSource tools path : Lake Rows SourceSnapshot).Only IsRead := by
  unfold snapshotSource
  refine Only.bind (only_perform.mpr trivial) fun before => ?_
  refine Only.bind (only_perform.mpr trivial) fun content => ?_
  refine Only.bind (only_perform.mpr trivial) fun after => ?_
  split
  · trivial
  · trivial

theorem snapshotSource_ensures (hpath : path ≠ .source) (hstable : Stable J) (h : J s) :
    Ensures tools compactor partition job (snapshotSource tools path)
      (fun snapshot t => J t ∧ ∃ file, t.file path = some file ∧
        snapshot.size = file.bytes.length ∧ snapshot.sha256 = tools.sha256 file.bytes)
      (fun _ => J) s := by
  unfold snapshotSource
  refine ensures_bind ?_
  refine ensures_read (by trivial) (fun t _ before hst _ hbefore => ?_)
    (fun t _ hst => hstable s t h hst)
  obtain ⟨file, hfile, rfl⟩ := stat_answer hbefore
  refine ensures_bind ?_
  refine ensures_read (by trivial) (fun u _ content htu _ hcontent => ?_)
    (fun u _ htu => hstable s u h (hst.trans htu))
  obtain ⟨file', hfile', rfl⟩ := read_answer hcontent
  obtain rfl : file = file' := by
    rw [htu.file hpath, hfile] at hfile'
    exact Option.some.inj hfile'
  refine ensures_bind ?_
  refine ensures_read (by trivial) (fun v _ after huv _ hafter => ?_)
    (fun v _ huv => hstable s v h ((hst.trans htu).trans huv))
  obtain ⟨file', hfile'', rfl⟩ := stat_answer hafter
  obtain rfl : file = file' := by
    rw [huv.file hpath, hfile'] at hfile''
    exact Option.some.inj hfile''
  have hv : J v := hstable s v h ((hst.trans htu).trans huv)
  split
  · exact hv
  · exact ⟨hv, file, hfile'', rfl, rfl⟩

theorem ensures_attempt {caught : Fault → Bool} {Q : Except Fault α → FileSystem → Prop}
    (h : Ensures tools compactor partition job p (fun a => Q (.ok a))
      (fun e t => (caught e = true → Q (.error e) t) ∧ (caught e = false → E e t)) s) :
    Ensures tools compactor partition job (p.attempt caught) Q E s :=
  wp_attempt h

theorem ensures_value {caught : Fault → Bool} {Q : Except Fault α → FileSystem → Prop}
    {R : α → FileSystem → Prop} (h : Ensures tools compactor partition job p R (fun _ => J) s)
    (hok : ∀ a t, R a t → Q (.ok a) t) (herror : ∀ e t, J t → Q (.error e) t ∧ E e t) :
    Ensures tools compactor partition job (p.attempt caught) Q E s :=
  ensures_attempt (wp_mono hok
    (fun e t hJ => ⟨fun _ => (herror e t hJ).1, fun _ => (herror e t hJ).2⟩) h)

/-! ## Evidence -/

/-- What is known of a deletion once its evidence is complete. -/
structure Evident (tools : LakeTools Rows) (manifest : CompactionManifest) (output : StoredFile)
    (evidence : RawDeleteEvidence) (fs : FileSystem) : Prop where
  written : fs.manifest = some manifest
  matched : OutputVerified tools manifest output fs
  outputSize : evidence.output.size = output.bytes.length
  outputHash : evidence.output.sha256 = tools.sha256 output.bytes
  source : manifest.SourceIs evidence.source

variable {evidence : RawDeleteEvidence}

theorem Evident.stable : Stable (Evident tools manifest output evidence) := by
  rintro s t h ⟨source, rfl⟩
  exact ⟨h.written, h.matched.congr rfl, h.outputSize, h.outputHash, h.source⟩

theorem Written.stable : Stable fun fs => fs.manifest = some manifest := by
  rintro s t h ⟨source, rfl⟩
  exact h

theorem countJsonlRows_reads (path : LakePath) :
    (countJsonlRows path : Lake Rows Int).Only IsRead :=
  Only.bind (only_perform.mpr trivial) fun _ => trivial

theorem evidenceMismatchReason_none (h : evidenceMismatchReason evidence manifest = none) :
    manifest.OutputIs evidence.output ∧ manifest.SourceIs evidence.source ∧
      evidence.parquetRows = manifest.rowCount := by
  unfold evidenceMismatchReason at h
  split at h
  · cases h
  · rename_i houtput
    split at h
    · cases h
    · rename_i hsource
      split at h
      · cases h
      · rename_i hrows
        rw [not_or, not_or] at hrows
        exact ⟨not_not.mp houtput, not_not.mp hsource, not_not.mp hrows.2.1⟩

variable (result : CompactionResult)

theorem rawDeleteEvidence_ensures (h : s.manifest = some manifest) :
    Ensures tools compactor partition job (rawDeleteEvidence tools manifest result)
      (fun answer t => ∀ evidence, answer = .ok evidence →
        ∃ output, Evident tools manifest output evidence t) (fun _ _ => True) s := by
  unfold rawDeleteEvidence
  refine ensures_bind (ensures_value (J := fun fs => fs.manifest = some manifest)
    (snapshotSource_ensures (by decide) Written.stable h) ?_ fun _ _ _ => ⟨nofun, trivial⟩)
  rintro output t ⟨hwritten, file, hfile, hsize, hhash⟩
  dsimp only
  split
  · exact nofun
  · -- from here the Parquet file is fixed by what it was when it was read
    have hfixed : Stable fun fs => fs.manifest = some manifest ∧ fs.parquet = some file := by
      rintro s t h ⟨source, rfl⟩
      exact h
    refine ensures_bind (ensures_value
      (J := fun fs => fs.manifest = some manifest ∧ fs.parquet = some file)
      (reads_keep hfixed (snapshotSource_reads .source) ⟨hwritten, hfile⟩) ?_
      fun _ _ _ => ⟨nofun, trivial⟩)
    intro source u hu
    dsimp only
    split
    · exact nofun
    · refine ensures_bind (ensures_value
        (J := fun fs => fs.manifest = some manifest ∧ fs.parquet = some file)
        (R := fun evidence v => (v.manifest = some manifest ∧ v.parquet = some file) ∧
          evidence.output = output ∧ ∃ rows, tools.readParquet file.bytes = .ok rows ∧
            (tools.stats rows).rowCount = evidence.parquetRows)
        ?_ ?_ fun _ _ _ => ⟨nofun, trivial⟩)
      · refine ensures_bind (wp_mono ?_ (fun _ _ hJ => hJ)
          (reads_keep hfixed (countJsonlRows_reads .source) hu))
        intro sourceRows v hv
        unfold countParquetRows
        refine ensures_bind (ensures_bind ?_)
        refine ensures_read (by trivial) (fun w _ rows hvw _ hrows => ?_)
          (fun w _ hvw => hfixed v w hv hvw)
        obtain ⟨file', hfile', hread⟩ := readParquet_answer hrows
        have hw := hfixed v w hv hvw
        obtain rfl : file = file' := Option.some.inj (hw.2.symm.trans hfile')
        exact ⟨hw, rfl, rows, hread, rfl⟩
      · rintro evidence v ⟨⟨hman, hpar⟩, hout, rows, hread, hcount⟩
        dsimp only
        split
        · exact nofun
        · rename_i hreason
          obtain ⟨houtput, hsource, hrows⟩ := evidenceMismatchReason_none hreason
          intro evidence' heq
          obtain rfl := Except.ok.inj heq
          rw [hout] at houtput
          refine ⟨file, hman, ⟨hpar, ?_, ?_, rows, hread, hcount.trans hrows⟩, ?_, ?_, hsource⟩
          · rw [houtput.2, hsize]
          · rw [houtput.1, hhash]
          · rw [hout, hsize]
          · rw [hout, hhash]

/-! ## The audit -/

/-- The line is in the part of the audit that `fsync` covers. -/
def LineDurable (line : List Char) (fs : FileSystem) : Prop := line <:+: fs.audit.take fs.synced

variable {line : List Char}

theorem LineDurable.stable : Stable (LineDurable line) := by
  rintro s t h ⟨source, rfl⟩
  exact h

/-- What is known of a deletion that has been authorized. -/
def Cleared (tools : LakeTools Rows) (line : List Char) (manifest : CompactionManifest)
    (output : StoredFile) (evidence : RawDeleteEvidence) (fs : FileSystem) : Prop :=
  Evident tools manifest output evidence fs ∧ LineDurable line fs

theorem Cleared.stable : Stable (Cleared tools line manifest output evidence) :=
  fun s t h hst => ⟨Evident.stable s t h.1 hst, LineDurable.stable s t h.2 hst⟩

theorem appendRawDeletionAudit_harmless (line : List Char) :
    (appendRawDeletionAudit line : Lake Rows Unit).Only IsHarmless :=
  Only.bind (only_perform.mpr trivial) fun _ => only_perform.mpr trivial

theorem finalizeRawDeletionAudit_ends (base : AuditBase) (now : Instant)
    (quarantinePath : Option String) : Ensures tools compactor partition job
      (finalizeRawDeletionAudit tools result base now quarantinePath)
      (fun _ _ => True) (fun _ _ => True) s := by
  refine harmless_ends ?_
  unfold finalizeRawDeletionAudit
  refine Only.bind (appendRawDeletionAudit_harmless _).attempt fun answer => ?_
  cases answer with
  | ok _ => trivial
  | error _ => trivial

theorem appendRawDeletionAudit_ensures (line : List Char)
    (h : Evident tools manifest output evidence s) :
    Ensures tools compactor partition job (appendRawDeletionAudit line)
      (fun _ => Cleared tools line manifest output evidence) (fun _ _ => True) s := by
  refine ensures_bind (wp_perform fun t hst _ => ⟨trivial, fun course =>
    ⟨fun answer hanswer => ?_, fun _ _ => trivial⟩⟩)
  have ht := Evident.stable s t h hst
  show Ensures tools compactor partition job _ _ _ (performLake tools partition _ _ _).2
  rw [(perform_ok hanswer).2]
  refine wp_perform fun u hu _ => ⟨trivial, fun course' =>
    ⟨fun answer' hanswer' => ?_, fun _ _ => trivial⟩⟩
  obtain ⟨source, rfl⟩ := hu
  show Cleared _ _ _ _ _ (performLake tools partition _ _ _).2
  rw [(perform_ok hanswer').2]
  refine ⟨⟨ht.written, ht.matched.congr rfl, ht.outputSize, ht.outputHash, ht.source⟩, ?_⟩
  show line <:+: (t.audit ++ line).take (t.audit ++ line).length
  rw [List.take_length]
  exact (List.suffix_append _ _).isInfix

/-! ## Quarantine -/

theorem quarantineRaw_ensures (base : AuditBase) (now : Instant)
    (h : Cleared tools line manifest output evidence s) :
    Ensures tools compactor partition job (quarantineRaw tools result evidence base now)
      (fun answer t => ∀ hex, answer = .ok hex →
        Cleared tools line manifest output evidence t) (fun _ _ => True) s := by
  unfold quarantineRaw
  refine ensures_bind (ensures_read (by trivial) (fun t _ hex hst _ _ => ?_) fun _ _ _ => trivial)
  have ht := Cleared.stable s t h hst
  refine ensures_bind (ensures_value (J := fun _ => True)
    (R := fun _ => Cleared tools line manifest output evidence)
    (wp_perform fun u htu _ => ⟨trivial, fun course =>
      ⟨fun answer hanswer => ?_, fun _ _ => trivial⟩⟩) ?_ fun fault u _ => ⟨?_, trivial⟩)
  · -- the rename moves the source; the copy and the audit stay
    obtain ⟨hevident, hline⟩ := Cleared.stable t u ht htu
    show Cleared _ _ _ _ _ (performLake tools partition _ _ _).2
    rw [(perform_ok hanswer).2]
    unfold respond
    dsimp only
    split
    · exact ⟨⟨hevident.written, hevident.matched.congr rfl, hevident.outputSize,
        hevident.outputHash, hevident.source⟩, hline⟩
    · exact ⟨hevident, hline⟩
  · exact fun _ u hu _ _ => hu
  · refine ensures_bind (wp_mono (fun failure v _ => ?_) (fun _ _ _ => trivial)
      (finalizeRawDeletionAudit_ends _ base now none))
    exact nofun

theorem verifyQuarantine_ensures (hex : String) (result : CompactionResult) (base : AuditBase)
    (now : Instant) (h : Cleared tools line manifest output evidence s) :
    Ensures tools compactor partition job
      (verifyQuarantine tools partition hex result manifest evidence base now)
      (fun answer t => ∀ snapshot, answer = .ok snapshot →
        Cleared tools line manifest output evidence t ∧
          ∃ file, t.quarantined.lookup hex = some file ∧
            SourceRecorded tools manifest file.bytes) (fun _ _ => True) s := by
  have hpath : LakePath.quarantine hex ≠ .source := nofun
  unfold verifyQuarantine
  refine ensures_bind (ensures_value (J := fun _ => True)
    (R := fun read t => Cleared tools line manifest output evidence t ∧
      ∃ file, t.quarantined.lookup hex = some file ∧ read.1.size = file.bytes.length ∧
        read.1.sha256 = tools.sha256 file.bytes ∧ read.2 = (jsonlRows file.bytes : Int))
    ?_ ?_ fun fault t _ => ⟨?_, trivial⟩)
  · refine ensures_bind (wp_mono ?_ (fun _ _ _ => trivial)
      (snapshotSource_ensures hpath Cleared.stable h))
    rintro snapshot t ⟨ht, file, hfile, hsize, hhash⟩
    refine ensures_bind (ensures_bind ?_)
    refine ensures_read (by trivial) (fun u _ content htu _ hcontent => ?_) fun _ _ _ => trivial
    obtain ⟨file', hfile', rfl⟩ := read_answer hcontent
    obtain rfl : file = file' := by
      rw [htu.file hpath, hfile] at hfile'
      exact Option.some.inj hfile'
    exact ⟨Cleared.stable t u ht htu, file, hfile', hsize, hhash, rfl⟩
  · rintro ⟨snapshot, rows⟩ t ⟨ht, file, hfile, hsize, hhash, hrows⟩
    dsimp only at hsize hhash hrows ⊢
    split
    · rename_i hmatches
      intro snapshot' _
      rw [quarantinedEvidenceMatches, Bool.and_eq_true, decide_eq_true_eq, decide_eq_true_eq]
        at hmatches
      obtain ⟨⟨hsourceHash, hsourceSize⟩, hcount⟩ := hmatches
      refine ⟨ht, file, hfile, ?_, ?_, ?_⟩
      · rw [hsourceSize, hsize]
      · rw [hsourceHash, hhash]
      · rw [← hcount, hrows]
    · refine ensures_bind (wp_mono (fun failure u _ => ?_) (fun _ _ _ => trivial)
        (finalizeRawDeletionAudit_ends _ _ now _))
      exact nofun
  · refine ensures_bind (wp_mono (fun failure u _ => ?_) (fun _ _ _ => trivial)
      (finalizeRawDeletionAudit_ends _ base now _))
    exact nofun

theorem Cleared.authorized {at_ : Instant}
    (h : Cleared tools
      (authorizeLine tools at_ (rawDeleteAuditBase partition manifest evidence)) manifest output
      evidence fs) (hsource : SourceRecorded tools manifest raw) :
    Authorized tools partition raw manifest output fs := by
  obtain ⟨hevident, hline⟩ := h
  refine ⟨at_, ?_⟩
  have hbase : rawDeleteAuditBase partition manifest evidence =
      { sourcePath := partition.sourceRelativePath
        outputPath := manifest.outputPath
        sourceSha256 := tools.sha256 raw
        outputSha256 := tools.sha256 output.bytes
        sourceSize := raw.length
        outputSize := output.bytes.length
        rowCount := manifest.rowCount } := by
    unfold rawDeleteAuditBase
    rw [hevident.outputHash, hevident.outputSize, ← hevident.source.1, ← hevident.source.2,
      hsource.hash, hsource.size]
  rw [← hbase]
  exact hline

theorem LakeInv.only_quarantined (h : LakeInv tools fs) {hex : String} {file : StoredFile}
    (hfile : fs.quarantined.lookup hex = some file) : fs.quarantined = [(hex, file)] := by
  cases h with
  | landed _ _ hnone =>
    rw [hnone] at hfile
    cases hfile
  | quarantined raw hex' mtimeNs _ _ hall =>
    rw [hall, List.lookup_cons] at hfile
    split at hfile
    · rename_i heq
      rw [hall, eq_of_beq heq, Option.some.inj hfile]
    · cases hfile
  | deleted _ _ _ _ _ hnone _ =>
    rw [hnone] at hfile
    cases hfile

theorem authorizeAndDeleteRaw_ends (hverified : manifest.status = .verified)
    (hgrace : GraceOver compactor manifest job.now) (h : Evident tools manifest output evidence s) :
    Ensures tools compactor partition job
      (authorizeAndDeleteRaw tools partition result manifest evidence job.now)
      (fun _ _ => True) (fun _ _ => True) s := by
  unfold authorizeAndDeleteRaw authorizeRawDelete
  refine ensures_bind (ensures_bind (ensures_value (J := fun _ => True)
    (appendRawDeletionAudit_ensures _ h) (fun _ t ht => ?_) fun _ _ _ => ⟨trivial, trivial⟩))
  refine ensures_bind (wp_mono (fun answer u hu => ?_) (fun _ _ _ => trivial)
    (quarantineRaw_ensures result _ job.now ht))
  cases answer with
  | error failure => trivial
  | ok hex =>
    have hcleared := hu hex rfl
    dsimp only
    unfold verifyAndUnlinkQuarantine
    refine ensures_bind (wp_mono (fun checked v hv => ?_) (fun _ _ _ => trivial)
      (verifyQuarantine_ensures hex result _ job.now hcleared))
    cases checked with
    | error failure => trivial
    | ok verification =>
      obtain ⟨hknown, file, hfile, hsource⟩ := hv verification rfl
      refine ensures_bind (ensures_value (J := fun _ => True) (R := fun _ _ => True)
        (wp_perform fun w hvw hinv => ⟨?_, fun _ =>
          ⟨fun _ _ => trivial, fun _ _ => trivial⟩⟩)
        (fun _ _ _ => finalizeRawDeletionAudit_ends _ _ _ _)
        fun _ _ _ => ⟨finalizeRawDeletionAudit_ends _ _ _ _, trivial⟩)
      -- the file the unlink removes is the one that was just read
      intro other hother
      have hwknown := Cleared.stable v w hknown hvw
      obtain ⟨source, rfl⟩ := hvw
      rw [hinv.only_quarantined hfile, List.mem_singleton] at hother
      obtain rfl := (Prod.mk.inj hother).2
      exact ⟨manifest, output,
        ⟨hwknown.1.written, hverified, hwknown.1.matched, hsource⟩,
        hwknown.authorized hsource, hgrace⟩

/-! ## Deletion -/

theorem rawDeleteGate_metadata {status : CompactionStatus} {now partitionEnd : Instant}
    (h : (rawDeleteGate compactor status manifest partitionEnd now).phase = .metadata) :
    manifest.status = .verified ∧ GraceOver compactor manifest now := by
  unfold rawDeleteGate at h
  split at h
  · cases h
  · split at h
    · cases h
    · rename_i hverified
      rw [not_or, not_not] at hverified
      split at h
      · cases h
      · cases h
      · rename_i completedAt hcompleted
        dsimp only at h
        split at h
        · rename_i hgrace
          exact ⟨hverified.1, completedAt, hcompleted, hgrace⟩
        · cases h

theorem rawDeleteGate_fresh {status : CompactionStatus} {now partitionEnd : Instant}
    (h : manifest.completedAt = .aware now) :
    (rawDeleteGate compactor status manifest partitionEnd now).phase = .retained := by
  have hfloor : now < now + hours compactor.rawDeleteGraceHours := by
    have hpos : (0 : Int) < hours compactor.rawDeleteGraceHours := by
      have := compactor.graceFloor
      unfold hours
      omega
    exact Int.lt_add_of_pos_right now hpos
  unfold rawDeleteGate
  rw [h]
  dsimp only
  rw [if_neg (not_le.mpr hfloor)]
  split
  · rfl
  · split
    · rfl
    · rfl

theorem unsafeRawDeleteTargetReason_reads :
    (unsafeRawDeleteTargetReason tools compactor partition : Lake Rows (Option String)).Only
      IsRead := by
  unfold unsafeRawDeleteTargetReason
  have hperform : ∀ {call : LakeCall Rows}, IsRead call →
      (perform call : Lake Rows (Answer call)).Only IsRead :=
    fun h => only_perform.mpr h
  refine Only.bind (hperform (by trivial)).attempt fun link => ?_
  rcases link with _ | _ | _
  · trivial
  · refine Only.bind (hperform (by trivial)).attempt fun root => ?_
    cases root with
    | error _ => trivial
    | ok _ =>
      dsimp only
      split
      · trivial
      · refine Only.bind (hperform (by trivial)).attempt fun parent => ?_
        rcases parent with _ | _ | _
        · trivial
        · refine Only.bind (hperform (by trivial)).attempt fun resolved => ?_
          cases resolved with
          | error _ => trivial
          | ok _ =>
            refine Only.bind (hperform (by trivial)).attempt fun mode => ?_
            cases mode with
            | error _ => trivial
            | ok _ =>
              dsimp only
              split
              · trivial
              · trivial
        · trivial
  · trivial

theorem rawDeleteMetadataReason_reads :
    (rawDeleteMetadataReason tools compactor partition manifest : Lake Rows (Option String)).Only
      IsRead := by
  unfold rawDeleteMetadataReason
  refine Only.bind unsafeRawDeleteTargetReason_reads fun reason => ?_
  cases reason with
  | some reason => trivial
  | none =>
    dsimp only
    split
    · trivial
    · split
      · trivial
      · split
        · trivial
        · refine Only.bind (only_perform.mpr trivial) fun link => ?_
          split
          · trivial
          · refine Only.bind (only_perform.mpr trivial) fun file => ?_
            split
            · trivial
            · trivial

theorem maybeDeleteRaw_ends (dryRun : Bool) (h : s.manifest = some manifest) :
    Ensures tools compactor partition job
      (maybeDeleteRaw tools compactor partition result manifest job.now dryRun)
      (fun _ _ => True) (fun _ _ => True) s := by
  unfold maybeDeleteRaw
  dsimp only
  split
  · trivial
  · trivial
  · rename_i hgate
    obtain ⟨hverified, hgrace⟩ := rawDeleteGate_metadata hgate
    refine ensures_bind (wp_mono (fun reason t ht => ?_) (fun _ _ _ => trivial)
      (reads_keep Written.stable rawDeleteMetadataReason_reads h))
    cases reason with
    | some reason => trivial
    | none =>
      refine ensures_bind (wp_mono (fun answer u hu => ?_) (fun _ _ _ => trivial)
        (rawDeleteEvidence_ensures result ht))
      cases answer with
      | error failure => trivial
      | ok evidence =>
        obtain ⟨output, hevident⟩ := hu evidence rfl
        dsimp only
        split
        · trivial
        · exact authorizeAndDeleteRaw_ends result hverified hgrace hevident

end Code

end SpxSpark.DataPlatform
