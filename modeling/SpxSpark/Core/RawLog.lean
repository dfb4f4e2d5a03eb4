import SpxSpark.Domain.Ingress
import SpxSpark.Lib.Calendar
import SpxSpark.Lib.Effect
import SpxSpark.Lib.Lines
import SpxSpark.Lib.Text
import Mathlib.Data.List.AList

/-!
# RawLog — the append-only log of ingress frames

A directory of segments, each named by a UTC date and an index and holding one JSON record a line.
An append writes to the last segment of its date or opens the next one.
-/

namespace SpxSpark.Core

open Domain Lib Lib.Calendar

abbrev Bytes := List UInt8

/-- `b'\n'`. -/
def newline : UInt8 := 10

/-- `DateTime::date_naive`. -/
def dateNaive (t : DateTime) : NaiveDate := t / 86400000000000

/-! ## The directory -/

/-- A file name; only a UTF-8 one is ever that of a segment. -/
inductive FileName
  | text (name : String)
  | raw (bytes : Bytes)
  deriving DecidableEq

/-- A directory entry: a regular file, or anything else. -/
inductive Entry
  | file (content : Bytes)
  | other
  deriving DecidableEq

/-- The entries in the order `read_dir` gives them, without the lock files. -/
abbrev Directory := AList fun _ : FileName => Entry

def Directory.read (directory : Directory) (name : String) : Option Bytes :=
  match directory.lookup (.text name) with
  | some (.file content) => some content
  | _ => none

theorem Directory.read_eq_some {directory : Directory} {name : String} {content : Bytes} :
    directory.read name = some content ↔
      (FileName.text name, Entry.file content) ∈ directory.entries.map fun e => (e.1, e.2) := by
  have hlookup : directory.read name = some content ↔
      directory.lookup (.text name) = some (.file content) := by
    unfold Directory.read
    split
    · rename_i found hfound
      rw [hfound]
      simp
    · rename_i hnone
      constructor
      · intro h
        cases h
      · intro h
        exact absurd h (hnone content)
  rw [hlookup, ← Option.mem_def, AList.mem_lookup_iff, List.mem_map]
  constructor
  · intro h
    exact ⟨_, h, rfl⟩
  · rintro ⟨⟨file, kind⟩, hmem, heq⟩
    cases heq
    exact hmem

def parseSegmentName (name : String) : Option (NaiveDate × Nat) := do
  let (date, suffix) ← splitOnce ['.'] name.toList
  if hasDateShape date then
    let date ← parseDate date
    let index ← stripSuffix ".ndjson".toList suffix
    if index.length = 4 ∧ index.all Char.isDigit then some (date, digitsValue index) else none
  else none

/-- `segment_path`, for an index of at most four digits. -/
def segmentPath (datePrefix : List Char) (index : Nat) : String :=
  .ofList (datePrefix ++ '.' :: (fixedDigits 4 index ++ ".ndjson".toList))

def segmentIndex (name : String) (datePrefix : List Char) : Option Nat :=
  (parseSegmentName name).bind fun (date, index) =>
    if formatDate date = datePrefix then some index else none

theorem dot_not_mem_formatDate (date : NaiveDate) : '.' ∉ formatDate date := by
  intro hmem
  rcases mem_formatDate hmem with h | h | h
  · exact absurd h (by decide)
  · exact absurd h (by decide)
  · exact absurd h (by decide)

/-- **A segment name is the path of the date and the index it parses to.** -/
theorem parseSegmentName_eq_some {name : String} {date : NaiveDate} {index : Nat} :
    parseSegmentName name = some (date, index) ↔
      IsFourDigit date ∧ index ≤ 9999 ∧ name = segmentPath (formatDate date) index := by
  unfold parseSegmentName segmentPath
  simp only [Option.bind_eq_bind, Option.bind_eq_some_iff]
  constructor
  · rintro ⟨⟨text, suffix⟩, hsplit, h⟩
    split at h
    · rename_i hshape
      obtain ⟨found, hparse, h⟩ := Option.bind_eq_some_iff.mp h
      obtain ⟨digits, hstrip, h⟩ := Option.bind_eq_some_iff.mp h
      split at h
      · rename_i hdigits
        obtain ⟨rfl, rfl⟩ := Prod.mk.inj (Option.some.inj h)
        obtain ⟨hlt, hfixed⟩ := fixedDigits_digitsValue hdigits.2
        rw [hdigits.1] at hlt hfixed
        obtain ⟨htext, hdate⟩ := parseDate_format hshape hparse
        refine ⟨hdate, by omega, ?_⟩
        rw [hfixed, ← htext, ← stripSuffix_eq_some.mp hstrip,
          ← String.toList_inj, splitOnce_eq_some hsplit, String.toList_ofList]
        simp
      · cases h
    · cases h
  · rintro ⟨hdate, hindex, rfl⟩
    obtain ⟨hshape, hparse⟩ := parseDate_formatDate hdate
    refine ⟨_, by
      rw [String.toList_ofList]
      exact splitOnce_single (dot_not_mem_formatDate date) _, ?_⟩
    dsimp only
    rw [if_pos hshape, hparse, stripSuffix_eq_some.mpr rfl]
    simp only [Option.bind_some]
    rw [if_pos ⟨length_fixedDigits 4 index, isDigit_fixedDigits 4 index⟩,
      digitsValue_fixedDigits 4 index (by omega)]

theorem segmentIndex_eq_some {name : String} {date : NaiveDate} {index : Nat}
    (h : segmentIndex name (formatDate date) = some index) :
    IsFourDigit date ∧ index ≤ 9999 ∧ name = segmentPath (formatDate date) index := by
  obtain ⟨⟨found, index'⟩, hparse, h⟩ := Option.bind_eq_some_iff.mp h
  dsimp only at h
  split at h
  · rename_i hsame
    obtain ⟨hfour, hindex, hname⟩ := parseSegmentName_eq_some.mp hparse
    cases h
    have hdate := formatDate_inj hfour hsame.symm
    exact ⟨hdate ▸ hfour, hindex, hdate ▸ hname⟩
  · cases h

theorem segmentIndex_path {date : NaiveDate} {index : Nat} (hdate : IsFourDigit date)
    (hindex : index ≤ 9999) :
    segmentIndex (segmentPath (formatDate date) index) (formatDate date) = some index := by
  unfold segmentIndex
  rw [parseSegmentName_eq_some.mpr ⟨hdate, hindex, rfl⟩, Option.bind_some]
  exact if_pos rfl

/-! ## Records -/

/-- A record, with its payload as the JSON text that stands in it. -/
structure RawRecord (D : Type) where
  observedAt : DateTime
  payloadSha256 : D
  payload : Bytes
  deriving DecidableEq

/-- The libraries the log and its archive rely on: SHA-256 with digests in `D`, `serde_json` for
records and ingress payloads, and `zstd`, whose output may depend on how the input was cut. -/
class FrameCodec (D : Type) (R M F : outParam Type) where
  digest : Bytes → D
  isSha256 : D → Bool
  writeRecord : RawRecord D → Bytes
  readRecord : Bytes → Except String (RawRecord D)
  readIngress : Bytes → Except String (IngressEnvelopeV1 R M F)
  compress : List Bytes → Bytes
  decompress : Bytes → Option Bytes

/-! ## Appending -/

inductive RawLogError
  | io
  | invalidSegmentSize
  | recordTooLarge (recordBytes limitBytes : Nat)
  | segmentIndexExhausted (date : List Char)
  | unsafeSegmentPath (name : FileName)
  | freeSpaceArithmeticOverflow
  | insufficientFreeSpace (availableBytes requiredBytes : Nat)
  | invalidRetentionPolicy (reason : String)
  | retentionCandidateChanged (name : String)
  | pruneMutation (removedFiles removedBytes : Nat) (synced : Bool)
  deriving DecidableEq

inductive AppendDurability
  | buffered
  | durable
  deriving DecidableEq

/-- How a `write_all` ends: with an error, after that many bytes reached the file. -/
inductive WriteOutcome
  | written
  | failed (reached : Nat)
  deriving DecidableEq

/-- The answers of the disk to the calls of one append. -/
structure AppendDisk where
  locks : Bool
  availableBytes : Option Nat
  syncsPrevious : Bool
  opens : Bool
  write : WriteOutcome
  syncs : Bool
  deriving DecidableEq

structure RawLog where
  directory : Directory
  maxSegmentBytes : Nat
  maxSegmentBytes_lt : maxSegmentBytes < 2 ^ 64
  minFreeBytes : Nat
  activeSegment : Option String

abbrev RawLogM := Effect RawLog RawLogError

def liftRawLog {α : Type} (x : Except RawLogError α) : RawLogM α :=
  match x with
  | .ok a => pure a
  | .error e => throw e

def ensureFreeSpace (disk : AppendDisk) (minFreeBytes recordBytes : Nat) :
    Except RawLogError Unit :=
  if minFreeBytes = 0 then .ok ()
  else
    match disk.availableBytes with
    | none => .error .freeSpaceArithmeticOverflow
    | some availableBytes => do
        require (minFreeBytes + recordBytes < 2 ^ 64) .freeSpaceArithmeticOverflow
        require (minFreeBytes + recordBytes ≤ availableBytes)
          (.insufficientFreeSpace availableBytes (minFreeBytes + recordBytes))

/-- One entry of the listing: the segment of the date with the largest index so far. -/
def latestSegment (datePrefix : List Char) (latest : Option (Nat × String × Nat))
    (entry : FileName × Entry) : Except RawLogError (Option (Nat × String × Nat)) :=
  match entry.1 with
  | .raw _ => .ok latest
  | .text name =>
    match segmentIndex name datePrefix with
    | none => .ok latest
    | some index =>
      match entry.2 with
      | .other => .error (.unsafeSegmentPath entry.1)
      | .file content =>
        .ok (if latest.all fun known => known.1 < index then
          some (index, name, content.length) else latest)

def segmentForAppend (directory : Directory) (maxSegmentBytes : Nat) (datePrefix : List Char)
    (recordBytes : Nat) : Except RawLogError String := do
  let latest ← (directory.entries.map fun e => (e.1, e.2)).foldlM (latestSegment datePrefix) none
  match latest with
  | none => .ok (segmentPath datePrefix 0)
  | some (index, name, bytes) =>
    if 0 < bytes ∧ (2 ^ 64 ≤ bytes + recordBytes ∨ maxSegmentBytes < bytes + recordBytes) then do
      require (index + 1 ≤ 9999) (.segmentIndexExhausted datePrefix)
      .ok (segmentPath datePrefix (index + 1))
    else .ok name

/-- `open_append`: the file is there afterwards. -/
def openAppend (directory : Directory) (name : String) : Except RawLogError Directory :=
  match directory.lookup (.text name) with
  | some (.file _) => .ok directory
  | some .other => .error (.unsafeSegmentPath (.text name))
  | none => .ok (directory.insert (.text name) (.file []))

/-- Bytes that reach the end of a file. -/
def Directory.extend (directory : Directory) (name : String) (bytes : Bytes) : Directory :=
  match directory.read name with
  | some content => directory.insert (.text name) (.file (content ++ bytes))
  | none => directory

/-- Flushing the segment written before, which may have been removed since. -/
def syncPrevious (disk : AppendDisk) (log : RawLog) (path : String) : Except RawLogError Unit :=
  match log.activeSegment.filter (· ≠ path) with
  | none => .ok ()
  | some previous =>
    match log.directory.lookup (.text previous) with
    | none => .ok ()
    | some .other => .error (.unsafeSegmentPath (.text previous))
    | some (.file _) => require (disk.syncsPrevious = true) .io

section
variable {D R M F : Type} [FrameCodec D R M F]

/-- The record an append writes, for the JSON text of its payload. -/
def recordOf (D : Type) {R M F : Type} [FrameCodec D R M F] (payload : Bytes)
    (observedAt : DateTime) : RawRecord D where
  observedAt
  payloadSha256 := FrameCodec.digest payload
  payload

/-- The line an append writes. -/
def encodedLine (D : Type) {R M F : Type} [FrameCodec D R M F] (payload : Bytes)
    (observedAt : DateTime) : Bytes :=
  FrameCodec.writeRecord (recordOf D payload observedAt) ++ [newline]

/-- `RawLog::append`, for the JSON text of the payload. -/
def append (disk : AppendDisk) (payload : Bytes) (observedAt : DateTime)
    (durability : AppendDurability) : RawLogM D := do
  let encoded := encodedLine D payload observedAt
  let log ← get
  liftRawLog (require (encoded.length ≤ log.maxSegmentBytes)
    (.recordTooLarge encoded.length log.maxSegmentBytes))
  liftRawLog (require (disk.locks = true) .io)
  liftRawLog (ensureFreeSpace disk log.minFreeBytes encoded.length)
  let path ← liftRawLog (segmentForAppend log.directory log.maxSegmentBytes
    (formatDate (dateNaive observedAt)) encoded.length)
  liftRawLog (syncPrevious disk log path)
  liftRawLog (require (disk.opens = true) .io)
  let directory ← liftRawLog (openAppend log.directory path)
  modify fun log => { log with directory }
  match disk.write with
  | .failed reached => do
      modify fun log => { log with directory := log.directory.extend path (encoded.take reached) }
      throw .io
  | .written => do
      modify fun log => { log with directory := log.directory.extend path encoded }
      liftRawLog (require (durability = .durable → disk.syncs = true) .io)
      modify fun log => { log with activeSegment := some path }
      pure (FrameCodec.digest payload)

end

end SpxSpark.Core
