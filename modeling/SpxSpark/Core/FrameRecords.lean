import SpxSpark.Core.RawLog

/-!
# FrameRecords — reading the records of a segment

Two readers: `validateRecords` checks every line, `fingerprintRecords` only hashes and counts, in
whatever chunks the bytes come. They agree on every stream the first one accepts.
-/

namespace SpxSpark.Core

open Domain Lib List

/-- Why a line is no record. -/
inductive RecordFault
  | notTerminated
  | json (error : String)
  | wrongDate (found : NaiveDate)
  | payloadHash
  | payloadJson (error : String)
  | payload (error : DomainError)
  deriving DecidableEq

inductive FrameArchiveError
  | io
  | json
  | unsafeSegment (name : String)
  | dateNotCompleted (requested current : NaiveDate)
  | sourceChanged (name : String)
  | invalidRecord (segment : String) (record : Nat) (fault : RecordFault)
  | arithmeticOverflow
  | existingArchiveMismatch (reason : String)
  | archiveUnavailable (date : NaiveDate) (reason : String)
  /-- Unavailable, with the text of another error as the reason. -/
  | archiveUnavailableFor (date : NaiveDate) (cause : FrameArchiveError)
  deriving DecidableEq

structure ValidatedRecords (D : Type) where
  sizeBytes : Nat
  sha256 : D
  recordCount : Nat
  deriving DecidableEq

/-- `u64::checked_add`. -/
def checkedAdd (a b : Nat) : Except FrameArchiveError Nat :=
  if a + b < 2 ^ 64 then .ok (a + b) else .error .arithmeticOverflow

theorem checkedAdd_ok {a b c : Nat} : checkedAdd a b = .ok c ↔ a + b < 2 ^ 64 ∧ c = a + b := by
  unfold checkedAdd
  split
  · rename_i h
    exact ⟨fun heq => ⟨h, (Except.ok.inj heq).symm⟩, fun heq => heq.2 ▸ rfl⟩
  · rename_i h
    exact ⟨fun heq => (nomatch heq), fun heq => absurd heq.1 h⟩

/-- What a reader has read so far: the bytes hashed, which are those a sink is given. -/
structure Progress where
  sizeBytes : Nat
  recordCount : Nat
  hashed : Bytes

def Progress.start : Progress := ⟨0, 0, []⟩

section
variable {D R M F : Type} [DecidableEq D] [FrameCodec D R M F]

def Progress.finish (D : Type) {R M F : Type} [FrameCodec D R M F] (p : Progress) :
    ValidatedRecords D where
  sizeBytes := p.sizeBytes
  sha256 := FrameCodec.digest p.hashed
  recordCount := p.recordCount

variable [ResearchPayload R] [DeskMapPayload M] [ForecastPayload F]

def checkLine (D : Type) {R M F : Type} [DecidableEq D] [FrameCodec D R M F] [ResearchPayload R]
    [DeskMapPayload M] [ForecastPayload F] (expectedDate : NaiveDate) (line : Bytes) :
    Except RecordFault Unit := do
  require (line.getLast? = some newline) .notTerminated
  let record : RawRecord D ← (FrameCodec.readRecord line).mapError .json
  require (dateNaive record.observedAt = expectedDate) (.wrongDate (dateNaive record.observedAt))
  require (FrameCodec.digest record.payload = record.payloadSha256) .payloadHash
  let payload ← (FrameCodec.readIngress D record.payload).mapError .payloadJson
  payload.validate.mapError .payload

/-- One turn of the loop of `validate_records`. -/
def validateLine (D : Type) {R M F : Type} [DecidableEq D] [FrameCodec D R M F] [ResearchPayload R]
    [DeskMapPayload M] [ForecastPayload F] (expectedDate : NaiveDate) (sourceName : String)
    (p : Progress) (line : Bytes) : Except FrameArchiveError Progress := do
  let recordCount ← checkedAdd p.recordCount 1
  let sizeBytes ← checkedAdd p.sizeBytes line.length
  (checkLine D expectedDate line).mapError (.invalidRecord sourceName recordCount)
  pure { sizeBytes, recordCount, hashed := p.hashed ++ line }

/-- `validate_records`, with what a sink is given. -/
def validateInto (D : Type) {R M F : Type} [DecidableEq D] [FrameCodec D R M F] [ResearchPayload R]
    [DeskMapPayload M] [ForecastPayload F] (content : Bytes) (expectedDate : NaiveDate)
    (sourceName : String) : Except FrameArchiveError Progress :=
  (pieces newline content).foldlM (validateLine D expectedDate sourceName) Progress.start

def validateRecords (content : Bytes) (expectedDate : NaiveDate) (sourceName : String) :
    Except FrameArchiveError (ValidatedRecords D) := do
  let p ← validateInto D content expectedDate sourceName
  pure (p.finish D)

/-- The line passes every check a record is put to. -/
def IsRecord (D : Type) {R M F : Type} [DecidableEq D] [FrameCodec D R M F] [ResearchPayload R]
    [DeskMapPayload M] [ForecastPayload F] (date : NaiveDate) (line : Bytes) : Prop :=
  checkLine D date line = .ok ()

variable {date : NaiveDate}

theorem IsRecord.terminated {line : Bytes} (h : IsRecord D date line) :
    line.getLast? = some newline := by
  unfold IsRecord checkLine at h
  exact (require_bind_ok.mp h).1

variable {name : String}

theorem validateLine_ok {p q : Progress} {line : Bytes} :
    validateLine D date name p line = .ok q ↔
      IsRecord D date line ∧ p.recordCount + 1 < 2 ^ 64 ∧ p.sizeBytes + line.length < 2 ^ 64 ∧
        q = ⟨p.sizeBytes + line.length, p.recordCount + 1, p.hashed ++ line⟩ := by
  unfold validateLine IsRecord
  simp only [bind_ok, checkedAdd_ok, mapError_ok, pure, Except.pure, Except.ok.injEq]
  constructor
  · rintro ⟨_, ⟨hcount, rfl⟩, _, ⟨hsize, rfl⟩, ⟨⟩, hline, rfl⟩
    exact ⟨hline, hcount, hsize, rfl⟩
  · rintro ⟨hline, hcount, hsize, rfl⟩
    exact ⟨_, ⟨hcount, rfl⟩, _, ⟨hsize, rfl⟩, ⟨⟩, hline, rfl⟩

theorem foldlM_validateLine {lines : List Bytes} {p q : Progress}
    (hp : p.sizeBytes < 2 ^ 64 ∧ p.recordCount < 2 ^ 64) :
    lines.foldlM (validateLine D date name) p = .ok q ↔
      (∀ line ∈ lines, IsRecord D date line) ∧ p.recordCount + lines.length < 2 ^ 64 ∧
        p.sizeBytes + lines.flatten.length < 2 ^ 64 ∧
          q = ⟨p.sizeBytes + lines.flatten.length, p.recordCount + lines.length,
            p.hashed ++ lines.flatten⟩ := by
  induction lines generalizing p with
  | nil =>
    simp only [foldlM_nil, pure, Except.pure, Except.ok.injEq, not_mem_nil,
      false_implies, implies_true, length_nil, Nat.add_zero, flatten_nil,
      append_nil, true_and]
    constructor
    · rintro rfl
      exact ⟨hp.2, hp.1, rfl⟩
    · rintro ⟨-, -, rfl⟩
      rfl
  | cons line rest ih =>
    rw [foldlM_cons, bind_ok]
    simp only [validateLine_ok, forall_mem_cons, length_cons, flatten_cons,
      length_append]
    constructor
    · rintro ⟨mid, ⟨hline, hcount, hsize, rfl⟩, hrest⟩
      obtain ⟨hlines, hcount', hsize', rfl⟩ := (ih ⟨hsize, hcount⟩).mp hrest
      refine ⟨⟨hline, hlines⟩, ?_, ?_, ?_⟩
      · dsimp only at hcount'
        omega
      · dsimp only at hsize'
        omega
      · rw [Progress.mk.injEq]
        dsimp only
        exact ⟨by omega, by omega, append_assoc _ _ _⟩
    · rintro ⟨⟨hline, hlines⟩, hcount, hsize, rfl⟩
      refine ⟨_, ⟨hline, by omega, by omega, rfl⟩, (ih ⟨?_, ?_⟩).mpr ⟨hlines, ?_, ?_, ?_⟩⟩
      · dsimp only
        omega
      · dsimp only
        omega
      · dsimp only
        omega
      · dsimp only
        omega
      · rw [Progress.mk.injEq]
        dsimp only
        exact ⟨by omega, by omega, (append_assoc _ _ _).symm⟩

variable {content : Bytes}

/-- **A stream is accepted exactly when every piece of it is a record of the date** and the counters
do not overflow. -/
theorem validateInto_ok {p : Progress} :
    validateInto D content date name = .ok p ↔
      (∀ line ∈ pieces newline content, IsRecord D date line) ∧ content.length < 2 ^ 64 ∧
        p = ⟨content.length, (pieces newline content).length, content⟩ := by
  unfold validateInto Progress.start
  rw [foldlM_validateLine ⟨by decide, by decide⟩]
  simp only [pieces_flatten, Nat.zero_add, nil_append]
  constructor
  · rintro ⟨hlines, -, hsize, rfl⟩
    exact ⟨hlines, hsize, rfl⟩
  · rintro ⟨hlines, hsize, rfl⟩
    exact ⟨hlines, (length_pieces_le content).trans_lt hsize, hsize, rfl⟩

theorem validateRecords_ok {v : ValidatedRecords D} : validateRecords content date name = .ok v ↔
      (∀ line ∈ pieces newline content, IsRecord D date line) ∧ content.length < 2 ^ 64 ∧
        v = ⟨content.length, FrameCodec.digest content, (pieces newline content).length⟩ := by
  unfold validateRecords
  rw [bind_ok]
  simp only [validateInto_ok, pure, Except.pure, Except.ok.injEq]
  constructor
  · rintro ⟨_, ⟨hlines, hsize, rfl⟩, rfl⟩
    exact ⟨hlines, hsize, rfl⟩
  · rintro ⟨hlines, hsize, rfl⟩
    exact ⟨_, ⟨hlines, hsize, rfl⟩, rfl⟩

theorem complete_of_records (h : ∀ line ∈ pieces newline content, IsRecord D date line) :
    ∀ line ∈ pieces newline content, Complete newline line :=
  fun line hline => complete_of_mem_pieces hline (h line hline).terminated

end

/-! ## Fingerprints -/

/-- How the operating system hands out the bytes of a file: in any non-empty reads. -/
structure ReadSchedule where
  reads : Bytes → List Bytes
  flatten_reads : ∀ content, (reads content).flatten = content
  read_ne_nil : ∀ content, ∀ chunk ∈ reads content, chunk ≠ []

/-- Every file in one read. -/
def ReadSchedule.whole : ReadSchedule where
  reads content := if content = [] then [] else [content]
  flatten_reads content := by split <;> simp_all
  read_ne_nil content chunk h := by
    split at h
    · cases h
    · rename_i hne
      rw [mem_singleton.mp h]
      exact hne

structure Fingerprint where
  sizeBytes : Nat
  recordCount : Nat
  lastByte : Option UInt8
  hashed : Bytes

/-- One read of `fingerprint_records`. -/
def fingerprintRead (s : Fingerprint) (chunk : Bytes) : Except FrameArchiveError Fingerprint := do
  let sizeBytes ← checkedAdd s.sizeBytes chunk.length
  let recordCount ← checkedAdd s.recordCount (chunk.count newline)
  pure { sizeBytes, recordCount, lastByte := chunk.getLast?, hashed := s.hashed ++ chunk }

def fingerprintRecords {D R M F : Type} [FrameCodec D R M F] (schedule : ReadSchedule)
    (content : Bytes) : Except FrameArchiveError (ValidatedRecords D) := do
  let s ← (schedule.reads content).foldlM fingerprintRead ⟨0, 0, none, []⟩
  require (¬ (0 < s.sizeBytes ∧ s.lastByte ≠ some newline))
    (.existingArchiveMismatch "raw source is not newline terminated")
  pure { sizeBytes := s.sizeBytes, sha256 := FrameCodec.digest s.hashed, recordCount :=
    s.recordCount }

theorem fingerprintRead_ok {s t : Fingerprint} {chunk : Bytes} : fingerprintRead s chunk = .ok t ↔
      s.sizeBytes + chunk.length < 2 ^ 64 ∧ s.recordCount + chunk.count newline < 2 ^ 64 ∧
        t = ⟨s.sizeBytes + chunk.length, s.recordCount + chunk.count newline, chunk.getLast?,
          s.hashed ++ chunk⟩ := by
  unfold fingerprintRead
  simp only [bind_ok, checkedAdd_ok, pure, Except.pure, Except.ok.injEq]
  constructor
  · rintro ⟨_, ⟨hsize, rfl⟩, _, ⟨hcount, rfl⟩, rfl⟩
    exact ⟨hsize, hcount, rfl⟩
  · rintro ⟨hsize, hcount, rfl⟩
    exact ⟨_, ⟨hsize, rfl⟩, _, ⟨hcount, rfl⟩, rfl⟩

theorem foldlM_fingerprintRead {chunks : List Bytes} (hne : ∀ chunk ∈ chunks, chunk ≠ [])
    {s t : Fingerprint} (hs : s.sizeBytes < 2 ^ 64 ∧ s.recordCount ≤ s.sizeBytes) :
    chunks.foldlM fingerprintRead s = .ok t ↔
      s.sizeBytes + chunks.flatten.length < 2 ^ 64 ∧
        t = ⟨s.sizeBytes + chunks.flatten.length, s.recordCount + chunks.flatten.count newline,
          chunks.flatten.getLast?.or s.lastByte, s.hashed ++ chunks.flatten⟩ := by
  induction chunks generalizing s with
  | nil =>
    simp only [foldlM_nil, pure, Except.pure, Except.ok.injEq, flatten_nil,
      length_nil, Nat.add_zero, count_nil, getLast?_nil, Option.none_or,
      append_nil]
    constructor
    · rintro rfl
      exact ⟨hs.1, rfl⟩
    · rintro ⟨-, rfl⟩
      rfl
  | cons chunk rest ih =>
    have hcount := @count_le_length _ _ newline chunk
    have hlast : ((chunk ++ rest.flatten).getLast?.or s.lastByte) =
        rest.flatten.getLast?.or chunk.getLast? := by
      have hsome : chunk.getLast?.isSome := by
        rw [getLast?_isSome]
        exact hne chunk mem_cons_self
      rw [getLast?_append, Option.or_assoc, Option.or_of_isSome hsome]
    rw [foldlM_cons, bind_ok]
    simp only [fingerprintRead_ok, flatten_cons, length_append, count_append, hlast]
    constructor
    · rintro ⟨mid, ⟨hsize, _, rfl⟩, hrest⟩
      obtain ⟨hsize', rfl⟩ := (ih (fun c hc => hne c (mem_cons_of_mem _ hc))
        ⟨hsize, by dsimp only; omega⟩).mp hrest
      dsimp only at hsize' ⊢
      refine ⟨by omega, ?_⟩
      rw [Fingerprint.mk.injEq]
      exact ⟨by omega, by omega, rfl, append_assoc _ _ _⟩
    · rintro ⟨hsize, rfl⟩
      refine ⟨_, ⟨by omega, by omega, rfl⟩, (ih (fun c hc => hne c (mem_cons_of_mem _ hc))
        ⟨by dsimp only; omega, by dsimp only; omega⟩).mpr ⟨by dsimp only; omega, ?_⟩⟩
      rw [Fingerprint.mk.injEq]
      dsimp only
      exact ⟨by omega, by omega, rfl, (append_assoc _ _ _).symm⟩

/-- **What a fingerprint says does not depend on how the bytes were read.** -/
theorem fingerprintRecords_ok {D R M F : Type} [FrameCodec D R M F] {schedule : ReadSchedule}
    {v : ValidatedRecords D} : fingerprintRecords schedule content = .ok v ↔
      content.length < 2 ^ 64 ∧ (content ≠ [] → content.getLast? = some newline) ∧
        v = ⟨content.length, FrameCodec.digest content, content.count newline⟩ := by
  have hstart : (⟨0, 0, none, []⟩ : Fingerprint).sizeBytes < 2 ^ 64 ∧
      (⟨0, 0, none, []⟩ : Fingerprint).recordCount ≤ (⟨0, 0, none, []⟩ : Fingerprint).sizeBytes :=
    ⟨Nat.two_pow_pos 64, Nat.le_refl 0⟩
  unfold fingerprintRecords
  rw [bind_ok]
  simp only [foldlM_fingerprintRead (schedule.read_ne_nil content) hstart, schedule.flatten_reads,
    Nat.zero_add, Option.or_none, nil_append, require_bind_ok, pure,
    Except.pure, Except.ok.injEq, ← length_pos_iff]
  constructor
  · rintro ⟨_, ⟨hsize, rfl⟩, hlast, rfl⟩
    exact ⟨hsize, fun hpos => by_contra fun hne => hlast ⟨hpos, hne⟩, rfl⟩
  · rintro ⟨hsize, hlast, rfl⟩
    exact ⟨_, ⟨hsize, rfl⟩, fun hbad => hbad.2 (hlast hbad.1), rfl⟩

/-- **The two readers agree** on every stream the validator accepts. -/
theorem fingerprint_of_validated {D R M F : Type} [DecidableEq D] [FrameCodec D R M F]
    [ResearchPayload R] [DeskMapPayload M] [ForecastPayload F] (schedule : ReadSchedule)
    {v : ValidatedRecords D} (h : validateRecords content date name = .ok v) :
    fingerprintRecords schedule content = .ok v := by
  obtain ⟨hlines, hsize, rfl⟩ := validateRecords_ok.mp h
  have hcomplete := complete_of_records hlines
  rw [fingerprintRecords_ok]
  refine ⟨hsize, fun hne => ?_, ?_⟩
  · have hlast := getLast?_flatten_complete hcomplete (pieces_ne_nil hne)
    rwa [pieces_flatten] at hlast
  · have hcount := count_flatten_complete hcomplete
    rw [pieces_flatten] at hcount
    rw [hcount]

/-! ## A sample record -/

def ascii (text : String) : Bytes := text.toList.map fun c => c.toNat.toUInt8

/-- A cancellation on the wire (`\x7b` and `\x7d` are the braces of the JSON). -/
def samplePayload : Bytes :=
  ["\x7b\"schema_version\":\"spx_ingress.v1\",\"message_id\":\"c1\",",
    "\"emitted_at\":\"2026-01-05T14:30:00Z\",",
    "\"message\":\x7b\"kind\":\"operator_notification_cancellation\",",
    "\"payload\":\x7b\"schema_version\":\"operator_notification_cancellation.v1\",",
    "\"event_id\":\"e1\",\"cancelled_at\":\"2026-01-05T14:30:00Z\",",
    "\"reason_code\":\"r1\"\x7d\x7d\x7d"].flatMap ascii

/-- The SHA-256 of the payload. -/
def samplePayloadHash : Nat :=
  0x223b1c9e18edc0e01fe4ad1d48bfbc97cdf4e6ffaf9df1c8492d960cfd5eed50

/-- The record of the payload, written at 14:30 on 5 January 2026. -/
def sampleRecordText : Bytes :=
  ["\x7b\"observed_at\":\"2026-01-05T14:30:00Z\",",
    "\"payload_sha256\":\"223b1c9e18edc0e01fe4ad1d48bfbc97",
    "cdf4e6ffaf9df1c8492d960cfd5eed50\",\"payload\":"].flatMap ascii ++
  samplePayload ++ ascii "\x7d"

def sampleInstant : DateTime := 1767623400000000000

def sampleEnvelope : IngressEnvelopeV1 Empty Empty Empty where
  schemaVersion := ingressSchemaVersion
  messageId := ⟨"c1", by decide, by decide, by decide⟩
  emittedAt := sampleInstant
  message := .operatorNotificationCancellation
    { schemaVersion := operatorNotificationCancellationSchemaVersion
      eventId := ⟨"e1", by decide, by decide, by decide⟩
      cancelledAt := sampleInstant
      reasonCode := ⟨"r1", by decide, by decide, by decide⟩ }

def sampleContent : Bytes := sampleRecordText ++ [newline]

/-- The bytes of a number, most significant first. -/
def bigEndian (length number : Nat) : Bytes :=
  (List.range length).map fun i => (number / 256 ^ (length - 1 - i)).toUInt8

/-- What `zstd` makes of two such segments, at level 1 and with a checksum. -/
def sampleFrames : Bytes :=
  [0x28b52ffd04486d0700e61034206067ab0308facf1df4e2550f3529b24c1006c1,
    0x439be9ffc747864241000cb91c2d002b002a00dc4b36b3d9188ee3e94a722801,
    0x54ac0e71a08a1b1f4028214342522041844404e540c7d3a32a6ee7356cdc1701,
    0x0cbe7694269a60e117e928e1ee84d72285e1834196cdc5ccd2b59446166f00b3,
    0xcd6a16849315e995a8d106d135f55cd4d70af7746eace08bf41859a26f3cf7e9,
    0xcc541f14c24edc783a0508fb1d1a53060af8f4e60200cff33ccff7f466b7aa39,
    0xa8fd6e3cfbe9cc546cedf48da753688e4545207a9bae6a8e455db65808004451].flatMap (bigEndian 32) ++
  bigEndian 26 0x576d9a35c08cac8970403ba655d6ccb6ce1ae0d716ce5eb00f9a

/-- Digests: the numbers of those that are known, and texts standing for the others. -/
abbrev SampleDigest := Nat ⊕ Bytes

def sampleRecord : RawRecord SampleDigest :=
  ⟨sampleInstant, .inl samplePayloadHash, samplePayload⟩

/-- The libraries at the sample record. -/
instance sampleCodec : FrameCodec SampleDigest Empty Empty Empty where
  digest bytes :=
    if bytes = samplePayload then .inl samplePayloadHash
    else if bytes = sampleContent then
      .inl 0x0299f5e2cac318b6d6db809f56332580c0b952ec5b440686cc89377cfb6b5287
    else if bytes = sampleFrames then
      .inl 0xa83830c79f9994a12720595db7c21c0d42390ddb1dbf70a5ccc16ccebed9d519
    else .inr bytes
  isSha256
    | .inl number => decide (number < 2 ^ 256)
    | .inr _ => true
  writeRecord record := if record = sampleRecord then sampleRecordText else []
  readRecord bytes := if bytes = sampleContent then .ok sampleRecord else .error "expected value"
  readIngress bytes := if bytes = samplePayload then .ok sampleEnvelope else .error "expected value"
  compress chunks :=
    if chunks.flatten = sampleContent ++ sampleContent then sampleFrames else 0 :: chunks.flatten
  decompress bytes :=
    if bytes = sampleFrames then some (sampleContent ++ sampleContent)
    else if bytes.head? = some 0 then some bytes.tail
    else none

end SpxSpark.Core
