import SpxSpark.DataPlatform.DeletionSteps

/-!
# CompactionRuns — raw bytes go only behind a verified copy

Publishing is safe while the source is under its own name, and a source that could be found is; a
manifest just written retains its source.
-/

namespace SpxSpark.DataPlatform

open Lib
open Program (Only Yields only_perform perform wp_mono)

section Runs

variable {Rows : Type} {tools : LakeTools Rows} {compactor : QuoteLakeCompactor}
  {partition : RawQuotePartition} {job : LakeJob} {course : Course} {call : LakeCall Rows}
  {fs s t : FileSystem} {raw : Bytes} {manifest : CompactionManifest} {output : StoredFile}

variable {α : Type}

/-! ## Compaction -/

variable (existing : Option CompactionManifest)

theorem manifestMatchesMetadata_reads (stat : FileStat) :
    (manifestMatchesMetadata tools partition existing stat : Lake Rows Bool).Only IsRead := by
  unfold manifestMatchesMetadata
  split
  · trivial
  · repeat' first | trivial | split
    refine Only.bind (only_perform.mpr trivial) fun file => ?_
    split
    · trivial
    · refine Only.bind (snapshotSource_reads _).attempt fun output => ?_
      cases output with
      | error _ => trivial
      | ok _ => trivial

theorem verifiedManifestMatches_reads (source : SourceSnapshot) :
    (verifiedManifestMatches tools partition existing source : Lake Rows Bool).Only IsRead := by
  unfold verifiedManifestMatches
  split
  · trivial
  · split
    · trivial
    · split
      · trivial
      · split
        · trivial
        · refine Only.bind (only_perform.mpr trivial) fun file => ?_
          split
          · trivial
          · split
            · trivial
            · refine Only.bind (snapshotSource_reads _).attempt fun output => ?_
              cases output with
              | error _ => trivial
              | ok _ => trivial

/-- The call does not touch raw bytes. -/
def IsPublish : LakeCall Rows → Prop
  | .renameToQuarantine _ | .unlinkQuarantine _ => False
  | _ => True

theorem NotMoved.stable : Stable fun fs => fs.moved = none := by
  rintro s t h ⟨source, rfl⟩
  exact h

theorem perform_publish (h : IsPublish call) (hmoved : fs.moved = none) :
    (performLake tools partition call course fs).2.moved = none := by
  rcases perform_state tools partition course call fs with hstate | hstate
  · rw [hstate]
    unfold respond
    cases call <;> first | exact h.elim | exact hmoved | (dsimp only; split <;> exact hmoved)
  · rw [hstate]
    exact cutShort_same.1.trans hmoved

theorem publish_keeps {p : Lake Rows α} (hp : p.Only IsPublish) (h : s.moved = none) :
    Ensures tools compactor partition job p (fun _ t => t.moved = none)
      (fun _ t => t.moved = none) s :=
  Only.keeps (fun s t hJ hst => NotMoved.stable s t hJ hst)
    (fun call hcall t _ ht => ⟨by
      cases call <;> first | exact hcall.elim | exact ht | trivial,
      fun _ => perform_publish hcall ht⟩) hp h

theorem IsRead.publish (h : IsRead call) : IsPublish call := by
  cases call <;> first | exact h.elim | trivial

variable (snapshot : SourceSnapshot) (now : Instant)

theorem writeVerifiedParquet_publishes :
    (writeVerifiedParquet tools partition snapshot now :
      Lake Rows (CompactionManifest × NormalizedQuoteStats)).Only IsPublish := by
  have hperform : ∀ {call : LakeCall Rows}, IsPublish call →
      (perform call : Lake Rows (Answer call)).Only IsPublish :=
    fun h => only_perform.mpr h
  have hsnapshot : ∀ path, (snapshotSource tools path : Lake Rows SourceSnapshot).Only IsPublish :=
    fun path => (snapshotSource_reads path).mono fun _ h => h.publish
  unfold writeVerifiedParquet verifyParquet
  refine Only.bind (hperform (by trivial)) fun _ => ?_
  refine Only.bind (hperform (by trivial)) fun rows => ?_
  refine Only.bind (hperform (by trivial)) fun _ => ?_
  refine Only.bind (Only.bind (hperform (by trivial)) fun stats => ?_) fun _ => ?_
  · split
    · trivial
    · trivial
  · refine Only.bind (hsnapshot _) fun after => ?_
    split
    · trivial
    · refine Only.bind (hsnapshot _) fun output => ?_
      refine Only.bind (hperform (by trivial)) fun _ => ?_
      exact Only.bind (hperform (by trivial)) fun _ => trivial

theorem publishParquet_publishes :
    (publishParquet tools partition snapshot now :
      Lake Rows (Except Fault (CompactionManifest × NormalizedQuoteStats))).Only IsPublish :=
  Only.bind (writeVerifiedParquet_publishes snapshot now).attempt fun _ =>
    Only.bind (only_perform.mpr (by trivial)).attempt fun _ => trivial

theorem markEmpty_publishes (dryRun : Bool) :
    (markEmpty partition existing snapshot now dryRun : Lake Rows CompactionResult).Only
      IsPublish := by
  unfold markEmpty
  dsimp only
  split
  · trivial
  · split
    · trivial
    · split
      · trivial
      · refine Only.bind (only_perform.mpr (by trivial)).attempt fun written => ?_
        cases written with
        | error _ => trivial
        | ok _ => trivial

theorem publishParquet_fresh :
    (publishParquet tools partition snapshot now :
      Lake Rows (Except Fault (CompactionManifest × NormalizedQuoteStats))).Yields
      fun answer => ∀ published, answer = .ok published → published.1.completedAt = .aware now := by
  have hbody : (writeVerifiedParquet tools partition snapshot now :
      Lake Rows (CompactionManifest × NormalizedQuoteStats)).Yields
      fun published => published.1.completedAt = .aware now := by
    have hany : ∀ {β : Type} {p : Lake Rows β}, p.Yields fun _ => True :=
      Yields.any fun _ => trivial
    unfold writeVerifiedParquet
    refine hany.bind fun _ _ => hany.bind fun rows _ => hany.bind fun _ _ =>
      hany.bind fun _ _ => hany.bind fun after _ => ?_
    split
    · trivial
    · exact hany.bind fun output _ => hany.bind fun _ _ => hany.bind fun _ _ => rfl
  exact hbody.attempt.bind fun published hpublished =>
    (Yields.any (P := fun _ => True) fun _ => trivial).bind fun _ _ => hpublished

theorem compactSnapshot_ends (dryRun : Bool) (hmoved : s.moved = none)
    (hexisting : s.manifest = existing) : Ensures tools compactor partition job
      (compactSnapshot tools compactor partition existing snapshot job.now dryRun)
      (fun _ _ => True) (fun _ _ => True) s := by
  have hstable : Stable fun fs => fs.moved = none ∧ fs.manifest = existing := by
    rintro s t h ⟨source, rfl⟩
    exact h
  unfold compactSnapshot
  dsimp only
  split
  · exact wp_mono (fun _ _ _ => trivial) (fun _ _ _ => trivial)
      (publish_keeps (markEmpty_publishes existing snapshot job.now dryRun) hmoved)
  · refine ensures_bind (wp_mono (fun known t ht => ?_) (fun _ _ _ => trivial)
      (reads_keep hstable (verifiedManifestMatches_reads existing snapshot)
        ⟨hmoved, hexisting⟩))
    split
    · -- a manifest that describes these bytes is already there
      cases existing with
      | none => trivial
      | some manifest => exact maybeDeleteRaw_ends _ dryRun ht.2
    · split
      · trivial
      · refine ensures_bind (wp_mono (fun answer u hu => ?_) (fun _ _ _ => trivial)
          ((publishParquet_fresh snapshot job.now).wp
            (publish_keeps (publishParquet_publishes snapshot job.now) ht.1)))
        rcases answer with fault | ⟨manifest, stats⟩
        · trivial
        · -- the source of a fresh manifest is retained
          have hfresh := hu.1 _ rfl
          unfold maybeDeleteRaw
          dsimp only
          rw [rawDeleteGate_fresh hfresh]
          trivial

theorem compactOne_ends (job : LakeJob) (dryRun : Bool) : Ensures tools compactor partition job
      (compactOne tools compactor partition job.now dryRun)
      (fun _ _ => True) (fun _ _ => True) s := by
  unfold compactOne
  dsimp only
  split
  · trivial
  · -- a source that can be found has not been moved
    refine ensures_bind (ensures_value (J := fun _ => True) (R := fun _ t => t.moved = none)
      (ensures_read (by trivial) (fun t _ stat _ hinv hstat => ?_) fun _ _ _ => trivial)
      ?_ fun fault t _ => ⟨?_, trivial⟩)
    · obtain ⟨file, hfile, -⟩ := stat_answer hstat
      refine hinv.not_moved ?_
      rw [show t.source = some file from hfile]
      rfl
    · intro stat t ht
      dsimp only
      split
      · trivial
      · refine ensures_bind (ensures_read (by trivial) (fun u _ existing htu _ hload => ?_)
          fun _ _ _ => trivial)
        obtain rfl : u.manifest = existing := Except.ok.inj hload
        have hstable : Stable fun fs => fs.moved = none ∧ fs.manifest = u.manifest := by
          rintro s t h ⟨source, rfl⟩
          exact h
        refine ensures_bind (wp_mono (fun known v hv => ?_) (fun _ _ _ => trivial)
          (reads_keep hstable (manifestMatchesMetadata_reads u.manifest stat)
            ⟨NotMoved.stable t u ht htu, rfl⟩))
        split
        · cases hexisting : u.manifest with
          | none => trivial
          | some manifest => exact maybeDeleteRaw_ends _ dryRun (hv.2.trans hexisting)
        · refine ensures_bind (ensures_value (J := fun _ => True)
            (wp_mono (fun _ _ hw => hw) (fun _ _ _ => trivial)
              (reads_keep hstable (snapshotSource_reads .source) hv)) ?_
            fun _ _ _ => ⟨trivial, trivial⟩)
          intro snapshot w hw
          exact compactSnapshot_ends u.manifest snapshot dryRun hw.1 hw.2
    · dsimp only
      split
      · trivial
      · trivial

theorem deleteRawIfManifestMatches_ends (job : LakeJob) (expected : CompactionManifest)
    (dryRun : Bool) :
    Ensures tools compactor partition job
      (deleteRawIfManifestMatches tools compactor partition expected job.now dryRun)
      (fun _ _ => True) (fun _ _ => True) s := by
  unfold deleteRawIfManifestMatches
  refine ensures_bind (ensures_read (by trivial) (fun t _ current _ _ hload => ?_)
    fun _ _ _ => trivial)
  obtain rfl : t.manifest = current := Except.ok.inj hload
  split
  · trivial
  · rename_i hsame
    exact maybeDeleteRaw_ends _ dryRun (not_not.mp hsame)

theorem lakeSystem_kept : (lakeSystem tools compactor partition).Kept writesFinished
    (LakeInv tools) SourceOnly (LakeSafe tools compactor partition) where
  refl := SourceOnly.refl
  trans := SourceOnly.trans
  others _ write hinv hallowed := ⟨⟨_, rfl⟩, hinv.write hallowed _⟩
  perform _ _ _ _ hinv hsafe := hinv.perform hsafe
  cut _ _ _ _ hinv _ := hinv.congr cutShort_same
  job job _ _ := by
    cases job with
    | compactOne now dryRun => exact compactOne_ends (.compactOne now dryRun) dryRun
    | deleteRaw expected now dryRun =>
      exact deleteRawIfManifestMatches_ends (.deleteRaw expected now dryRun) expected
        dryRun

/-! ## Raw deletion -/

/-- The file is on disk, under the source path or in quarantine. -/
def FileSystem.Holds (fs : FileSystem) (file : StoredFile) : Prop :=
  fs.source = some file ∨ ∃ hex, (hex, file) ∈ fs.quarantined

theorem FileSystem.Holds.congr {file : StoredFile} (h : s.Holds file) (hsame : SameLake s t) :
    t.Holds file := by
  obtain ⟨-, hsource, hquarantined, -, -⟩ := hsame
  unfold FileSystem.Holds
  rw [hsource, hquarantined]
  exact h

theorem perform_gone {file : StoredFile} (hinv : LakeInv tools fs)
    (hsafe : LakeSafe tools compactor partition job call fs) (hbefore : fs.Holds file)
    (hafter : ¬ (performLake tools partition call course fs).2.Holds file) : ∃ manifest output,
      Deletable tools compactor partition job.now file.bytes manifest output fs := by
  rcases perform_state tools partition course call fs with hstate | hstate
  · rw [hstate] at hafter
    cases call with
    | writeManifest manifest => exact absurd hbefore hafter
    | replaceParquet =>
      refine absurd ?_ hafter
      unfold respond
      dsimp only
      split
      · exact hbefore
      · exact hbefore
    | renameToQuarantine hex =>
      refine absurd ?_ hafter
      unfold respond
      dsimp only
      split
      · rename_i source hsource
        -- the renamed file was the only one
        have hnone := (hinv.landed_of (hinv.not_moved (by rw [hsource]; rfl))).2
        rcases hbefore with hfile | ⟨hex', hmem⟩
        · obtain rfl := Option.some.inj (hsource.symm.trans hfile)
          exact .inr ⟨hex, List.mem_cons_self⟩
        · rw [hnone] at hmem
          cases hmem
      · exact hbefore
    | unlinkQuarantine hex =>
      unfold respond at hafter
      dsimp only at hafter
      split at hafter
      · rcases hbefore with hfile | ⟨hex', hmem⟩
        · exact absurd (.inl hfile) hafter
        · by_cases hhex : hex' = hex
          · exact hsafe file (hhex ▸ hmem)
          · refine absurd (.inr ⟨hex', List.mem_filter.mpr ⟨hmem, ?_⟩⟩) hafter
            exact decide_eq_true hhex
      · exact absurd hbefore hafter
    | _ => exact absurd (hbefore.congr (respond_harmless (by trivial))) hafter
  · rw [hstate] at hafter
    exact absurd (hbefore.congr cutShort_same) hafter

/-- **Raw quotes are deleted only behind verified copies.** Wherever a run of the compactor stands
or is stopped, the raw bytes are under the source path, in quarantine, or in the Parquet file that
a verified manifest records. A file that a turn of the process removes is one whose bytes the
manifest records, beside a Parquet file it records too, with the authorize line on disk and the
grace over; no other bytes have that digest. -/
theorem raw_deleted_behind_copy (hinjective : Function.Injective tools.sha256) {fs₀ : FileSystem}
    (hsource : fs₀.source.isSome = true) (hquarantined : fs₀.quarantined = [])
    (hmoved : fs₀.moved = none) {turns} {process : Process (LakeCall Rows) Answer Fault FileSystem
      LakeJob CompactionResult}
    (hrun : Run (lakeSystem tools compactor partition).step (System.turnAllowed writesFinished)
      ⟨fs₀, none⟩ turns process) :
    (process.world.source.isSome = true ∨ ∃ raw, process.world.moved = some raw ∧
      ((∃ hex file, (hex, file) ∈ process.world.quarantined ∧ file.bytes = raw) ∨
        ∃ manifest output, VerifiedCopy tools raw manifest output process.world)) ∧
    ∀ turn, (∀ write, turn ≠ .others write) → ∀ file, process.world.Holds file →
      ¬ ((lakeSystem tools compactor partition).step process turn).2.world.Holds file →
      ∃ job program manifest output, process.running = some (job, program) ∧
        Deletable tools compactor partition job.now file.bytes manifest output process.world ∧
        ∀ other, tools.sha256 other = manifest.sourceSha256 → other = file.bytes := by
  have hsecured := System.sound lakeSystem_kept (.landed hmoved hsource hquarantined) hrun
  refine ⟨?_, fun turn hown file hbefore hafter => ?_⟩
  · cases hsecured.1 with
    | landed _ hsource _ => exact .inl hsource
    | quarantined raw hex mtimeNs hmoved _ hfile =>
      exact .inr ⟨raw, hmoved, .inl ⟨hex, ⟨raw, mtimeNs⟩, by rw [hfile]; simp, rfl⟩⟩
    | deleted raw manifest output hmoved _ _ hcopy =>
      exact .inr ⟨raw, hmoved, .inr ⟨manifest, output, hcopy⟩⟩
  · have hsame : ∀ {fs}, SameLake process.world fs → ((lakeSystem tools compactor
        partition).step process turn).2.world = fs → False := by
      rintro _ hsame rfl
      exact hafter (hbefore.congr hsame)
    have hrefl : SameLake process.world process.world := ⟨rfl, rfl, rfl, rfl, rfl⟩
    obtain ⟨world, running⟩ := process
    cases turn with
    | start job => cases running <;> exact (hsame hrefl rfl).elim
    | others write => exact absurd rfl (hown write)
    | stop course =>
      rcases running with _ | ⟨job, _ | _ | ⟨call, next⟩⟩
      · exact (hsame hrefl rfl).elim
      · exact (hsame hrefl rfl).elim
      · exact (hsame hrefl rfl).elim
      · exact (hsame cutShort_same rfl).elim
    | call course =>
      rcases running with _ | ⟨job, _ | _ | ⟨call, next⟩⟩
      · exact (hsame hrefl rfl).elim
      · exact (hsame hrefl rfl).elim
      · exact (hsame hrefl rfl).elim
      · obtain ⟨manifest, output, hdelete⟩ :=
          perform_gone hsecured.1 (hsecured.safe_next lakeSystem_kept rfl) hbefore hafter
        refine ⟨job, _, manifest, output, rfl, hdelete, fun other hother => ?_⟩
        exact hinjective (hother.trans hdelete.copy.source.hash)

end Runs

/-! ### One hour, compacted and deleted -/

/-- A digest that tells all bytes apart: the bytes as characters. -/
def byteText (bytes : Bytes) : String := String.ofList (bytes.map fun byte => Char.ofNat byte.toNat)

theorem byteText_injective : Function.Injective byteText := by
  have hbyte : Function.Injective fun byte : UInt8 => Char.ofNat byte.toNat := by
    intro a b h
    have hvalid : ∀ byte : UInt8, (Char.ofNat byte.toNat).toNat = byte.toNat := fun byte =>
      (by decide +kernel : ∀ n < 256, (Char.ofNat n).toNat = n) _ byte.toNat_lt
    have hnat := congrArg Char.toNat h
    dsimp only at hnat
    rw [hvalid, hvalid] at hnat
    exact UInt8.toNat_inj.mp hnat
  intro a b h
  exact (List.map_injective_iff.mpr hbyte) (String.ofList_injective h)

/-- DuckDB on files of one line each. -/
def sampleTools : LakeTools Nat where
  sha256 := byteText
  isoformat at_ := toString at_
  integer n := if h : isNumber (toString n).toList = true then ⟨_, h⟩ else ⟨['0'], rfl⟩
  strptime date := if date = "2026-07-01" then some 1782864000000000 else none
  normalize _ _ content := .ok (jsonlRows content)
  stats rows := ⟨rows, "first", "last", "first", "last"⟩
  parquet rows := [80, 65, UInt8.ofNat rows]
  readParquet
    | [80, 65, rows] => .ok rows.toNat
    | _ => .error ⟨.duckdb, "Error: not a parquet file"⟩

def samplePartition : RawQuotePartition where
  sourceParts := ["raw", "provider=ibkr", "date=2026-07-01", "hour=14", "quotes.jsonl"]
  provider := "ibkr"
  sessionDate := "2026-07-01"
  hour := 14
  startAt := 1782864000000000 + 14 * (3600 * 1000000)

def sampleCompactor : QuoteLakeCompactor := ⟨"quotes.jsonl", 120, true, 72, by decide⟩

def rawHour : StoredFile := ⟨[123, 125, 10], 1782918000000000000⟩

def landedHour : FileSystem := { source := some rawHour }

def completedHour : Instant := samplePartition.startAt + hours 2

/-- Compacted two hours after it began, and three days later everything up to the unlink. -/
def hourTurns : List (Turn LakeJob SourceWrite Course) :=
  .start (.compactOne completedHour false) :: List.replicate 20 (.call {}) ++
    .start (.compactOne (completedHour + hours 72) false) :: List.replicate 29
      (.call { hex := "q" })

def hourRun := play (lakeSystem sampleTools sampleCompactor samplePartition).step
  ⟨landedHour, none⟩ hourTurns

theorem hourRun_before : hourRun.2.world.source = none ∧
    hourRun.2.world.quarantined = [("q", rawHour)] := by
  decide +kernel

theorem hourRun_after :
    ((lakeSystem sampleTools sampleCompactor samplePartition).step hourRun.2
      (.call {})).2.world.source
      = none ∧
    ((lakeSystem sampleTools sampleCompactor samplePartition).step hourRun.2
      (.call {})).2.world.quarantined = [] := by
  decide +kernel

theorem raw_deleted_behind_copy_hour : ∃ turns process,
    Run (lakeSystem sampleTools sampleCompactor samplePartition).step
      (System.turnAllowed writesFinished) ⟨landedHour, none⟩ turns process ∧
    process.world.Holds rawHour ∧ ∃ job manifest output,
      Deletable sampleTools sampleCompactor samplePartition job rawHour.bytes manifest output
        process.world := by
  have hrun : Run (lakeSystem sampleTools sampleCompactor samplePartition).step
      (System.turnAllowed writesFinished) ⟨landedHour, none⟩ hourRun.1 hourRun.2 :=
    Run.play (System.allowed_own (by
      intro write hmem
      simp [hourTurns] at hmem) _)
  have hbefore : hourRun.2.world.Holds rawHour :=
    .inr ⟨"q", by rw [hourRun_before.2]; exact List.mem_cons_self⟩
  have hafter : ¬ ((lakeSystem sampleTools sampleCompactor samplePartition).step hourRun.2
      (.call {})).2.world.Holds rawHour := by
    rintro (hsource | ⟨hex, hmem⟩)
    · rw [hourRun_after.1] at hsource
      cases hsource
    · rw [hourRun_after.2] at hmem
      cases hmem
  obtain ⟨job, _, manifest, output, _, hdelete, _⟩ :=
    (raw_deleted_behind_copy byteText_injective rfl rfl rfl hrun).2 (.call {}) nofun rawHour hbefore
      hafter
  exact ⟨hourRun.1, hourRun.2, hrun, hbefore, job.now, manifest, output, hdelete⟩

end SpxSpark.DataPlatform
