import SpxSpark.Core.RawLogIntegrity

/-!
# RawLogSegments — how appends fill the segments of a date

The segment to append to is looked up in the listing of the directory each time. When every append
succeeds, the listing of a date with a four-digit year always shows the same: segments numbered
from zero on, each of them written to and none too large, of which the last takes the next line as
long as there is room.
-/

namespace SpxSpark.Core

open Domain Lib Lib.Calendar Lib.Effect List

/-- The segments of a date have those contents, and are numbered from zero without a gap. -/
structure Segmented (directory : Directory) (maxSegmentBytes : Nat) (date : NaiveDate)
    (contents : List Bytes) : Prop where
  count : contents.length ≤ 10000
  files : ∀ index ≤ 9999,
    directory.read (segmentPath (formatDate date) index) = contents[index]?
  written : ∀ content ∈ contents, content ≠ [] ∧ content.length ≤ maxSegmentBytes

section
variable {directory directory' : Directory} {maxSegmentBytes : Nat} {date : NaiveDate}
  {contents : List Bytes}

theorem Segmented.latest (h : Segmented directory maxSegmentBytes date contents)
    (hdate : IsFourDigit date) {latest : Option (Nat × String × Nat)}
    (hfold : (directory.entries.map fun e => (e.1, e.2)).foldlM (latestSegment (formatDate date))
      none = .ok latest) :
    latest = none ∧ contents = [] ∨ ∃ front last, contents = front ++ [last] ∧
      latest = some (front.length, segmentPath (formatDate date) front.length, last.length) := by
  obtain ⟨-, hlisted, hfound⟩ := foldlM_latestSegment hfold
  have hcount := h.count
  have hknown : ∀ index content, contents[index]? = some content →
      ∃ known, latest = some known ∧ index ≤ known.1 := by
    intro index content hget
    obtain ⟨hlt, -⟩ := List.getElem?_eq_some_iff.mp hget
    have hread := h.files index (by omega)
    rw [hget] at hread
    exact hlisted _ content index (Directory.read_eq_some.mp hread)
      (segmentIndex_path hdate (by omega))
  cases latest with
  | none =>
    refine .inl ⟨rfl, ?_⟩
    cases contents with
    | nil => rfl
    | cons first rest =>
      obtain ⟨known, hnone, -⟩ := hknown 0 first rfl
      cases hnone
  | some known =>
    obtain ⟨index, name, bytes⟩ := known
    obtain hnone | ⟨content, hmem, hindex, hbytes⟩ := hfound _ rfl
    · cases hnone
    obtain ⟨-, hle, hname⟩ := segmentIndex_eq_some hindex
    dsimp only at hname hbytes hle hmem
    subst hname hbytes
    have hget := h.files index hle
    rw [Directory.read_eq_some.mpr hmem] at hget
    obtain ⟨hlt, hcontent⟩ := List.getElem?_eq_some_iff.mp hget.symm
    -- A later segment would be listed with a larger index.
    have hlast : contents.length = index + 1 := by
      by_contra hmore
      obtain ⟨known, hsome, hless⟩ :=
        hknown (index + 1) _ (getElem?_eq_getElem (by omega))
      cases hsome
      exact absurd hless (Nat.not_succ_le_self index)
    have hlength : (contents.take index).length = index := by
      rw [length_take]
      omega
    refine .inr ⟨contents.take index, content, ?_, by rw [hlength]⟩
    rw [← hcontent, take_append_getElem, ← hlast, take_length]

/-- **The last segment is chosen, or the one after it.** -/
theorem Segmented.chosen (h : Segmented directory maxSegmentBytes date contents)
    (hdate : IsFourDigit date) {recordBytes : Nat} {path : String}
    (hfits : recordBytes ≤ maxSegmentBytes)
    (hpath : segmentForAppend directory maxSegmentBytes (formatDate date) recordBytes = .ok path) :
    ∃ (front : List Bytes) (old : Option Bytes), contents = front ++ old.toList ∧
      front.length ≤ 9999 ∧ path = segmentPath (formatDate date) front.length ∧
        (old.getD []).length + recordBytes ≤ maxSegmentBytes := by
  unfold segmentForAppend at hpath
  obtain ⟨latest, hfold, hpath⟩ := bind_ok.mp hpath
  rcases h.latest hdate hfold with ⟨rfl, rfl⟩ | ⟨front, last, rfl, rfl⟩
  · cases hpath
    refine ⟨[], none, rfl, by decide, rfl, ?_⟩
    show 0 + recordBytes ≤ maxSegmentBytes
    omega
  · dsimp only at hpath
    have hcount := h.count
    rw [length_append, length_singleton] at hcount
    split at hpath
    · obtain ⟨hnext, hpath⟩ := require_bind_ok.mp hpath
      cases hpath
      refine ⟨front ++ [last], none, (append_nil _).symm, ?_, ?_, ?_⟩
      · rw [length_append, length_singleton]
        exact hnext
      · rw [length_append, length_singleton]
      · show 0 + recordBytes ≤ maxSegmentBytes
        omega
    · rename_i hroom
      cases hpath
      have hwritten := (h.written last (by simp)).1
      have hpos := length_pos_iff.mpr hwritten
      refine ⟨front, some last, rfl, by omega, rfl, ?_⟩
      show last.length + recordBytes ≤ maxSegmentBytes
      omega

/-- **A line at the end of the chosen segment** leaves segments as before. -/
theorem Segmented.extends {front : List Bytes} {old : Option Bytes} {line : Bytes}
    (h : Segmented directory maxSegmentBytes date (front ++ old.toList)) (hline : line ≠ [])
    (hfront : front.length ≤ 9999) (hroom : (old.getD []).length + line.length ≤ maxSegmentBytes)
    (hextends : Extends directory directory' (segmentPath (formatDate date) front.length) line) :
    Segmented directory' maxSegmentBytes date (front ++ [old.getD [] ++ line]) where
  count := by
    rw [length_append, length_singleton]
    omega
  files index hindex := by
    have hread := h.files index hindex
    rcases lt_trichotomy index front.length with hlt | rfl | hgt
    · rw [getElem?_append_left hlt] at hread ⊢
      rw [hextends.2 _ fun heq => absurd (segmentPath_inj hindex hfront heq).2 hlt.ne, hread]
    · rw [hextends.1, hread, getElem?_append_right (Nat.le_refl _),
        getElem?_append_right (Nat.le_refl _), Nat.sub_self]
      cases old <;> rfl
    · have hnone : ∀ tail : List Bytes, tail.length ≤ 1 → (front ++ tail)[index]? = none := by
        intro tail htail
        rw [getElem?_eq_none_iff, length_append]
        omega
      rw [hnone _ Option.length_toList_le] at hread
      rw [hextends.2 _ fun heq => absurd (segmentPath_inj hindex hfront heq).2 hgt.ne', hread,
        hnone [_] (Nat.le_refl 1)]
  written content hmem := by
    rcases mem_append.mp hmem with hmem | hmem
    · exact h.written content (mem_append_left _ hmem)
    · rw [mem_singleton.mp hmem, length_append]
      exact ⟨append_ne_nil_of_right_ne_nil _ hline, hroom⟩

theorem Segmented.other {path : String} {line : Bytes}
    (h : Segmented directory maxSegmentBytes date contents)
    (hother : ∀ index ≤ 9999, segmentPath (formatDate date) index ≠ path)
    (hextends : Extends directory directory' path line) :
    Segmented directory' maxSegmentBytes date contents where
  count := h.count
  files index hindex := by rw [hextends.2 _ (hother index hindex), h.files index hindex]
  written := h.written

end

/-! ## Runs -/

section
variable {R M F : Type} (D : Type) [FrameCodec D R M F]

/-- The append returns a hash. -/
def Succeeds (log : RawLog) (call : AppendCall) : Prop :=
  ∃ hash, (appendStep D log call).1 = .ok hash

/-- The lines of a date's appends, one behind the other. -/
def bytesAppended (date : NaiveDate) (evs : List (AppendCall × Except RawLogError D)) : Bytes :=
  (evs.filterMap (returnedLine D date)).flatten

variable {D} {log log' : RawLog} {evs : List (AppendCall × Except RawLogError D)}

theorem Succeeds.wrote {call : AppendCall} (h : Succeeds D log call) :
    Wrote log (appendStep D log call).2 (dateNaive call.observedAt) (call.line D)
      (call.line D) := by
  obtain ⟨hash, hanswer⟩ := h
  rcases appendStep_cases (D := D) log call with ⟨_, -, hwrote⟩ | ⟨error, herror, -⟩
  · exact hwrote
  · rw [hanswer] at herror
    cases herror

theorem line_ne_nil (call : AppendCall) : call.line D ≠ [] :=
  append_ne_nil_of_right_ne_nil _ (cons_ne_nil _ _)

/-- Segments that hold what was appended so far. -/
structure Filled (limit : Nat) (date : NaiveDate)
    (evs : List (AppendCall × Except RawLogError D)) (log : RawLog) : Prop where
  limit_eq : log.maxSegmentBytes = limit
  segments : ∃ contents, Segmented log.directory limit date contents ∧
    contents.flatten = bytesAppended D date evs

/-- **One append** goes to the last segment of its date, and no other file changes. -/
theorem Filled.append {limit : Nat} {call : AppendCall}
    (h : Filled limit (dateNaive call.observedAt) evs log)
    (hdate : IsFourDigit (dateNaive call.observedAt)) (hok : Succeeds D log call) : ∃ index ≤ 9999,
      Extends log.directory (appendStep D log call).2.directory
        (segmentPath (formatDate (dateNaive call.observedAt)) index) (call.line D) ∧
      ∃ contents, Segmented (appendStep D log call).2.directory limit
          (dateNaive call.observedAt) contents ∧
        contents.flatten = bytesAppended D (dateNaive call.observedAt) evs ++ call.line D ∧
        contents.length = index + 1 := by
  obtain ⟨rfl, contents, hsegmented, hbytes⟩ := h
  obtain ⟨hfits, -, path, hpath, hextends⟩ := hok.wrote
  obtain ⟨front, old, rfl, hfront, rfl, hroom⟩ := hsegmented.chosen hdate hfits hpath
  refine ⟨front.length, hfront, hextends, _,
    hsegmented.extends (line_ne_nil call) hfront hroom hextends, ?_, ?_⟩
  · rw [← hbytes, flatten_append, flatten_append, flatten_singleton,
      append_assoc]
    cases old <;> simp
  · rw [length_append, length_singleton]

theorem Filled.step {limit : Nat} {date : NaiveDate} (hdate : IsFourDigit date) {call : AppendCall}
    (h : Filled limit date evs log) (hok : Succeeds D log call) :
    Filled limit date (evs ++ [(call, (appendStep D log call).1)]) (appendStep D log call).2 := by
  have hwrote := hok.wrote
  obtain ⟨hash, hanswer⟩ := hok
  refine ⟨hwrote.limit.trans h.limit_eq, ?_⟩
  unfold bytesAppended
  rw [filterMap_append, flatten_append, hanswer, filterMap_cons, returnedLine]
  dsimp only
  by_cases hown : dateNaive call.observedAt = date
  · subst hown
    obtain ⟨-, -, -, contents, hsegmented, hbytes, -⟩ := h.append hdate ⟨hash, hanswer⟩
    refine ⟨contents, hsegmented, ?_⟩
    rw [hbytes, if_pos rfl]
    simp [bytesAppended]
  · obtain ⟨contents, hsegmented, hbytes⟩ := h.segments
    obtain ⟨path, hpath, hextends⟩ := hwrote.grown
    obtain ⟨own, hle, rfl, -⟩ := segmentForAppend_ok hpath
    refine ⟨contents, hsegmented.other (fun index hindex heq => ?_) hextends, ?_⟩
    · exact hown (formatDate_inj hdate (segmentPath_inj hindex hle heq).1.symm)
    · rw [hbytes, if_neg hown]
      simp [bytesAppended]

/-- **Appends fill the segments of a date in order.** From a directory without segments of a date
with a four-digit year, a run of successful appends leaves its segments numbered from zero on, of
at most 10,000, none larger than the limit, and together they are the lines of the date in the
order of the appends. The next append of the date writes at the end of what is then the last of
them, under a name that says so, and to no other file. -/
theorem append_segments (date : NaiveDate) (hdate : IsFourDigit date)
    (hstart : ∀ index ≤ 9999,
      log.directory.read (segmentPath (formatDate date) index) = none)
    (hrun : Run (appendStep D) (Succeeds D) log evs log') :
    (∃ contents, Segmented log'.directory log.maxSegmentBytes date contents ∧
      contents.flatten = bytesAppended D date evs) ∧
    ∀ call, dateNaive call.observedAt = date → Succeeds D log' call → ∃ index ≤ 9999,
      parseSegmentName (segmentPath (formatDate date) index) = some (date, index) ∧
      Extends log'.directory (appendStep D log' call).2.directory
        (segmentPath (formatDate date) index) (call.line D) ∧
      ∀ later ≤ 9999, index < later → (appendStep D log' call).2.directory.read
        (segmentPath (formatDate date) later) = none := by
  have hempty : Segmented log.directory log.maxSegmentBytes date [] :=
    ⟨Nat.zero_le _, fun index hindex => hstart index hindex, fun _ hmem => nomatch hmem⟩
  have hfilled : Filled log.maxSegmentBytes date evs log' :=
    hrun.invariant_log (I := fun evs log' => Filled log.maxSegmentBytes date evs log')
      ⟨rfl, [], hempty, rfl⟩ fun _ _ _ h hok => h.step hdate hok
  refine ⟨hfilled.segments, ?_⟩
  rintro call rfl hok
  obtain ⟨index, hindex, hextends, contents, hsegmented, -, hlength⟩ := hfilled.append hdate hok
  refine ⟨index, hindex, parseSegmentName_eq_some.mpr ⟨hdate, hindex, rfl⟩, hextends, ?_⟩
  intro later hlater hless
  rw [hsegmented.files later hlater, getElem?_eq_none_iff]
  omega

end

/-- Two appends of one day. -/
def sampleCalls : List AppendCall := [sampleCall .written, sampleCall .written]

def sampleLog : RawLog := (play (appendStep SampleDigest) emptyLog sampleCalls).2

theorem append_segments_sample : ∃ contents,
    Segmented sampleLog.directory 67108864 (dateNaive sampleInstant) contents ∧
      contents.flatten = sampleContent ++ sampleContent := by
  have hrun : Run (appendStep SampleDigest) (Succeeds SampleDigest) emptyLog
      (play (appendStep SampleDigest) emptyLog sampleCalls).1 sampleLog :=
    Run.play ⟨⟨.inl samplePayloadHash, by decide +kernel⟩,
      ⟨.inl samplePayloadHash, by decide +kernel⟩, trivial⟩
  have hsegments := (append_segments (dateNaive sampleInstant) (by decide) (fun _ _ => rfl) hrun).1
  have hbytes : bytesAppended SampleDigest (dateNaive sampleInstant)
      (play (appendStep SampleDigest) emptyLog sampleCalls).1 =
        sampleContent ++ sampleContent := by
    decide +kernel
  rwa [hbytes] at hsegments

/-! ## A year of five digits -/

/-- The first instant of the year 10000. -/
def distantInstant : DateTime := 253402300800000000000

/-- Digests for the log of that year. -/
structure DistantDigest where
  digest : SampleDigest
  deriving DecidableEq

def distantRecordText : Bytes :=
  ["\x7b\"observed_at\":\"+10000-01-01T00:00:00Z\",",
    "\"payload_sha256\":\"223b1c9e18edc0e01fe4ad1d48bfbc97",
    "cdf4e6ffaf9df1c8492d960cfd5eed50\",\"payload\":"].flatMap ascii ++
  samplePayload ++ ascii "\x7d"

instance distantCodec : FrameCodec DistantDigest Empty Empty Empty where
  digest bytes := ⟨FrameCodec.digest bytes⟩
  isSha256 hash := FrameCodec.isSha256 hash.digest
  writeRecord record :=
    if record = ⟨distantInstant, ⟨.inl samplePayloadHash⟩, samplePayload⟩ then distantRecordText
    else FrameCodec.writeRecord
      (⟨record.observedAt, record.payloadSha256.digest, record.payload⟩ : RawRecord SampleDigest)
  readRecord bytes := (FrameCodec.readRecord bytes).map fun record : RawRecord SampleDigest =>
    ⟨record.observedAt, ⟨record.payloadSha256⟩, record.payload⟩
  readIngress := FrameCodec.readIngress SampleDigest
  compress := FrameCodec.compress SampleDigest
  decompress := FrameCodec.decompress SampleDigest

/-- Room for one such line. -/
def distantLog : RawLog where
  directory := ∅
  maxSegmentBytes := 500
  maxSegmentBytes_lt := by decide
  minFreeBytes := 0
  activeSegment := none

def distantCall : AppendCall where
  disk := diskWith .written
  payload := samplePayload
  observedAt := distantInstant
  durability := .durable

def distantCalls : List AppendCall := [distantCall, distantCall]

def distantContent : Bytes := distantRecordText ++ [newline]

/-- The name of the segment is not recognized again, so no segment is ever the latest one. -/
theorem distant_segment_grows : ∃ evs log,
    Run (appendStep DistantDigest) (Succeeds DistantDigest) distantLog evs log ∧
      log.directory.read "+10000-01-01.0000.ndjson" = some (distantContent ++ distantContent) ∧
      distantLog.maxSegmentBytes < (distantContent ++ distantContent).length ∧
      parseSegmentName "+10000-01-01.0000.ndjson" = none := by
  have hrun : Run (appendStep DistantDigest) (Succeeds DistantDigest) distantLog
      (play (appendStep DistantDigest) distantLog distantCalls).1
      (play (appendStep DistantDigest) distantLog distantCalls).2 :=
    Run.play ⟨⟨⟨.inl samplePayloadHash⟩, by decide +kernel⟩,
      ⟨⟨.inl samplePayloadHash⟩, by decide +kernel⟩, trivial⟩
  exact ⟨_, _, hrun, by decide +kernel⟩

end SpxSpark.Core
