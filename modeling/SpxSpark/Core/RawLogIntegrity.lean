import SpxSpark.Core.FrameRecords
import SpxSpark.Lib.Run

/-!
# RawLogIntegrity — what a run of appends leaves on the disk

An append that cannot finish its write leaves a prefix of its line at the end of the segment, and
the next append of the day writes on behind it.
-/

namespace SpxSpark.Core

open Domain Lib Lib.Calendar Lib.Effect List

/-! ## The segment an append chooses -/

theorem foldlM_latestSegment {datePrefix : List Char} {entries : List (FileName × Entry)}
    {latest found : Option (Nat × String × Nat)}
    (h : entries.foldlM (latestSegment datePrefix) latest = .ok found) :
    (∀ known, latest = some known → ∃ known', found = some known' ∧ known.1 ≤ known'.1) ∧
      (∀ name content index, (.text name, .file content) ∈ entries →
        segmentIndex name datePrefix = some index →
        ∃ known', found = some known' ∧ index ≤ known'.1) ∧
      ∀ known', found = some known' → latest = some known' ∨
        ∃ content, (.text known'.2.1, .file content) ∈ entries ∧
          segmentIndex known'.2.1 datePrefix = some known'.1 ∧ known'.2.2 = content.length := by
  induction entries generalizing latest with
  | nil =>
    rw [foldlM_nil] at h
    cases h
    refine ⟨fun known hknown => ⟨known, hknown, Nat.le_refl _⟩, fun _ _ _ hmem => ?_,
      fun _ hfound => Or.inl hfound⟩
    cases hmem
  | cons entry rest ih =>
    rw [foldlM_cons, bind_ok] at h
    obtain ⟨mid, hentry, hrest⟩ := h
    obtain ⟨hkept, hlisted, hfound⟩ := ih hrest
    -- One entry leaves what is known, or replaces it by itself when its index is larger.
    have hstep : mid = latest ∧ (∀ name content index, entry = (.text name, .file content) →
          segmentIndex name datePrefix = some index →
          ∃ known, latest = some known ∧ index ≤ known.1) ∨
        ∃ name content index, entry = (.text name, .file content) ∧
          segmentIndex name datePrefix = some index ∧
          mid = some (index, name, content.length) ∧
          ∀ known, latest = some known → known.1 < index := by
      obtain ⟨file, kind⟩ := entry
      unfold latestSegment at hentry
      cases file with
      | raw bytes =>
        cases hentry
        exact .inl ⟨rfl, fun _ _ _ heq => nomatch heq⟩
      | text name =>
        dsimp only at hentry
        cases hindex : segmentIndex name datePrefix with
        | none =>
          rw [hindex] at hentry
          cases hentry
          refine .inl ⟨rfl, fun name' _ _ heq hindex' => ?_⟩
          cases heq
          rw [hindex] at hindex'
          cases hindex'
        | some index =>
          rw [hindex] at hentry
          cases kind with
          | other => cases hentry
          | file content =>
            simp only [Except.ok.injEq] at hentry
            split at hentry
            · rename_i hless
              refine .inr ⟨name, content, index, rfl, hindex, hentry.symm, ?_⟩
              intro known hknown
              rw [hknown, Option.all_some, decide_eq_true_eq] at hless
              exact hless
            · rename_i hless
              refine .inl ⟨hentry.symm, fun name' content' index' heq hindex' => ?_⟩
              cases heq
              rw [hindex] at hindex'
              cases hindex'
              cases latest with
              | none => exact absurd rfl hless
              | some known =>
                rw [Option.all_some, decide_eq_true_eq, not_lt] at hless
                exact ⟨known, rfl, hless⟩
    rcases hstep with ⟨rfl, hown⟩ | ⟨name, content, index, rfl, hindex, rfl, hless⟩
    · refine ⟨hkept, fun name content index hmem hindex => ?_, fun known' hknown' => ?_⟩
      · rcases mem_cons.mp hmem with heq | hmem
        · obtain ⟨known, hknown, hle⟩ := hown name content index heq.symm hindex
          obtain ⟨known', hknown', hle'⟩ := hkept known hknown
          exact ⟨known', hknown', hle.trans hle'⟩
        · exact hlisted name content index hmem hindex
      · rcases hfound known' hknown' with hold | ⟨content, hmem, hindex, hlength⟩
        · exact .inl hold
        · exact .inr ⟨content, mem_cons_of_mem _ hmem, hindex, hlength⟩
    · obtain ⟨last, hlast, hle⟩ := hkept _ rfl
      refine ⟨fun known hknown => ⟨last, hlast, ((hless known hknown).le).trans hle⟩,
        fun name' content' index' hmem hindex' => ?_, fun known' hknown' => .inr ?_⟩
      · rcases mem_cons.mp hmem with heq | hmem
        · cases heq
          rw [hindex] at hindex'
          cases hindex'
          exact ⟨last, hlast, hle⟩
        · exact hlisted name' content' index' hmem hindex'
      · rcases hfound known' hknown' with hold | ⟨content', hmem, hindex', hlength⟩
        · cases hold
          exact ⟨content, mem_cons_self, hindex, rfl⟩
        · exact ⟨content', mem_cons_of_mem _ hmem, hindex', hlength⟩

variable {path : String} {date : NaiveDate}

/-- **An append chooses a segment of its date in which the record fits.** -/
theorem segmentForAppend_ok {directory : Directory} {maxSegmentBytes recordBytes : Nat}
    (h : segmentForAppend directory maxSegmentBytes (formatDate date) recordBytes = .ok path) :
    ∃ index ≤ 9999, path = segmentPath (formatDate date) index ∧
      (IsFourDigit date → ∀ content, directory.read path = some content →
        content = [] ∨ content.length + recordBytes ≤ maxSegmentBytes) := by
  unfold segmentForAppend at h
  rw [bind_ok] at h
  obtain ⟨latest, hfold, h⟩ := h
  obtain ⟨-, hlisted, hfound⟩ := foldlM_latestSegment hfold
  -- A segment of the date that is there has at most the index that was found.
  have hbound : IsFourDigit date → ∀ index content, index ≤ 9999 →
      directory.read (segmentPath (formatDate date) index) = some content →
      ∃ known, latest = some known ∧ index ≤ known.1 := by
    intro hdate index content hindex hread
    exact hlisted _ content index (Directory.read_eq_some.mp hread)
      (segmentIndex_path hdate hindex)
  cases latest with
  | none =>
    cases h
    refine ⟨0, by omega, rfl, fun hdate content hread => ?_⟩
    obtain ⟨known, hknown, -⟩ := hbound hdate 0 content (by omega) hread
    cases hknown
  | some known =>
    obtain ⟨index, name, bytes⟩ := known
    obtain hnone | ⟨content, hmem, hindex, hbytes⟩ := hfound _ rfl
    · cases hnone
    obtain ⟨-, hle, hname⟩ := segmentIndex_eq_some hindex
    dsimp only at h hindex hle hname hbytes hmem
    split at h
    · rw [require_bind_ok] at h
      obtain ⟨hnext, h⟩ := h
      cases h
      refine ⟨index + 1, hnext, rfl, fun hdate content' hread => ?_⟩
      obtain ⟨known, hknown, hless⟩ := hbound hdate _ content' hnext hread
      cases hknown
      exact absurd hless (Nat.not_succ_le_self index)
    · rename_i hfits
      cases h
      refine ⟨index, hle, hname, fun _ content' hread => ?_⟩
      rw [Directory.read_eq_some.mpr hmem] at hread
      cases hread
      by_cases hempty : content = []
      · exact .inl hempty
      · have hpos := length_pos_iff.mpr hempty
        exact .inr (by omega)

/-! ## What one append does -/

/-- The file holds those bytes more, and no other file changed. -/
def Extends (directory directory' : Directory) (path : String) (bytes : Bytes) : Prop :=
  directory'.read path = some ((directory.read path).getD [] ++ bytes) ∧
    ∀ name, name ≠ path → directory'.read name = directory.read name

theorem Directory.read_insert (directory : Directory) (path name : String) (content : Bytes) :
    Directory.read (directory.insert (.text path) (.file content)) name =
      if name = path then some content else directory.read name := by
  unfold Directory.read
  by_cases h : name = path
  · rw [if_pos h, h, AList.lookup_insert]
  · rw [if_neg h, AList.lookup_insert_ne]
    intro heq
    exact h (FileName.text.inj heq)

theorem openAppend_ok {directory directory' : Directory}
    (h : openAppend directory path = .ok directory') : Extends directory directory' path [] := by
  unfold openAppend at h
  unfold Extends
  split at h
  · rename_i content hlookup
    cases h
    have hread : directory.read path = some content := by
      unfold Directory.read
      rw [hlookup]
    rw [hread]
    simp
  · cases h
  · rename_i hlookup
    cases h
    have hread : directory.read path = none := by
      unfold Directory.read
      rw [hlookup]
    refine ⟨?_, fun name hname => ?_⟩
    · rw [Directory.read_insert, if_pos rfl, hread]
      rfl
    · rw [Directory.read_insert, if_neg hname]

theorem Extends.extend {directory directory' : Directory} (h : Extends directory directory' path [])
    (bytes : Bytes) : Extends directory (directory'.extend path bytes) path bytes := by
  obtain ⟨hread, hother⟩ := h
  rw [append_nil] at hread
  unfold Extends Directory.extend
  rw [hread]
  dsimp only
  refine ⟨?_, fun name hname => ?_⟩
  · rw [Directory.read_insert, if_pos rfl]
  · rw [Directory.read_insert, if_neg hname, hother name hname]

theorem wp_liftRawLog {α : Type} {x : Except RawLogError α} {Q : α → RawLog → Prop}
    {E : RawLogError → RawLog → Prop} {log : RawLog} :
    wp (liftRawLog x) Q E log ↔ (∀ a, x = .ok a → Q a log) ∧ ∀ e, x = .error e → E e log := by
  cases x with
  | ok a => simp [liftRawLog]
  | error e => simp [liftRawLog]

def WriteOutcome.reached (outcome : WriteOutcome) (line : Bytes) : Bytes :=
  match outcome with
  | .written => line
  | .failed reached => line.take reached

/-- A line was written to a segment of its date, or the beginning of it. -/
structure Wrote (log log' : RawLog) (date : NaiveDate) (line bytes : Bytes) : Prop where
  fits : line.length ≤ log.maxSegmentBytes
  limit : log'.maxSegmentBytes = log.maxSegmentBytes
  grown : ∃ path, segmentForAppend log.directory log.maxSegmentBytes (formatDate date) line.length =
    .ok path ∧ Extends log.directory log'.directory path bytes

section
variable {D R M F : Type} [FrameCodec D R M F]

/-- **An append that returns wrote its line; one that fails wrote what the disk took.** -/
theorem append_wp (disk : AppendDisk) (payload : Bytes) (observedAt : DateTime)
    (durability : AppendDurability) (log : RawLog) :
    wp (append disk payload observedAt durability : RawLogM D)
      (fun _ log' => Wrote log log' (dateNaive observedAt) (encodedLine D payload observedAt)
        (encodedLine D payload observedAt))
      (fun _ log' => log' = log ∨
        Wrote log log' (dateNaive observedAt) (encodedLine D payload observedAt)
          (disk.write.reached (encodedLine D payload observedAt))) log := by
  unfold append
  simp only [wp_bind, wp_get, wp_liftRawLog, wp_modify, require_ok, require_error]
  refine ⟨fun _ hfits => ⟨fun _ _ => ⟨fun _ _ => ⟨fun path hpath => ⟨fun _ _ => ⟨fun _ _ =>
    ⟨fun directory hopen => ?_, ?_⟩, ?_⟩, ?_⟩, ?_⟩, ?_⟩, ?_⟩, ?_⟩
  · have hopened := openAppend_ok hopen
    have hwrote : ∀ (log' : RawLog) (bytes : Bytes), log'.maxSegmentBytes = log.maxSegmentBytes →
        log'.directory = directory.extend path bytes →
        Wrote log log' (dateNaive observedAt) (encodedLine D payload observedAt) bytes := by
      intro log' bytes hlimit hdirectory
      exact ⟨hfits, hlimit, path, hpath, hdirectory ▸ hopened.extend bytes⟩
    cases disk.write with
    | failed reached =>
      simp only [wp_bind, wp_modify, wp_throw]
      exact .inr (hwrote _ _ rfl rfl)
    | written =>
      simp only [wp_bind, wp_modify, wp_liftRawLog, wp_pure]
      exact ⟨fun _ _ => hwrote _ _ rfl rfl, fun _ _ => .inr (hwrote _ _ rfl rfl)⟩
  all_goals
    intro _ _
    exact .inl trivial

end

/-! ## Runs -/

/-- One call of `RawLog::append`, with the answers of the disk. -/
structure AppendCall where
  disk : AppendDisk
  payload : Bytes
  observedAt : DateTime
  durability : AppendDurability
  deriving DecidableEq

section
variable {R M F : Type} (D : Type) [FrameCodec D R M F]

def AppendCall.line (call : AppendCall) : Bytes := encodedLine D call.payload call.observedAt

def appendStep (log : RawLog) (call : AppendCall) : Except RawLogError D × RawLog :=
  (append call.disk call.payload call.observedAt call.durability : RawLogM D).answer log

/-- No write fails with part of its line in the file. -/
def AppendCall.WholeLine (call : AppendCall) : Prop :=
  ∀ reached, call.disk.write = .failed reached → reached = 0 ∨ (call.line D).length ≤ reached

/-- The payload is the JSON text of a validated envelope, and the record written for it stands on
one line and is read back. -/
structure AppendCall.ReadsBack [ResearchPayload R] [DeskMapPayload M] [ForecastPayload F]
    (call : AppendCall) : Prop where
  one_line : newline ∉ FrameCodec.writeRecord (recordOf D call.payload call.observedAt)
  record : FrameCodec.readRecord (call.line D) = .ok (recordOf D call.payload call.observedAt)
  payload : ∃ envelope, FrameCodec.readIngress D call.payload = .ok envelope ∧
    envelope.validate = .ok ()

/-- The lines of a date's segments, in the order of their indices. -/
def Directory.linesOf (directory : Directory) (date : NaiveDate) : List Bytes :=
  (List.range 10000).flatMap fun index =>
    pieces newline ((directory.read (segmentPath (formatDate date) index)).getD [])

def returnedLine (date : NaiveDate) (ev : AppendCall × Except RawLogError D) : Option Bytes :=
  match ev.2 with
  | .ok _ => if dateNaive ev.1.observedAt = date then some (ev.1.line D) else none
  | .error _ => none

variable [DecidableEq D] [ResearchPayload R] [DeskMapPayload M] [ForecastPayload F]

/-- Every segment is made of complete lines, and one that the archive looks at of records of its
date. -/
def SoundSegments (directory : Directory) : Prop :=
  ∀ date index content, index ≤ 9999 →
    directory.read (segmentPath (formatDate date) index) = some content →
    (∀ line ∈ pieces newline content, Complete newline line) ∧
      (IsFourDigit date → (∀ line ∈ pieces newline content, IsRecord D date line) ∧
        content.length < 2 ^ 64)

/-- What a run keeps: sound segments, and a line for every append that returned. -/
structure Recorded (evs : List (AppendCall × Except RawLogError D)) (directory : Directory) :
    Prop where
  sound : SoundSegments D directory
  lines : ∀ date, (evs.filterMap (returnedLine D date)).Subperm (directory.linesOf date)

end

section
variable {D R M F : Type} [FrameCodec D R M F] {directory directory' : Directory}
  {log log' : RawLog}

theorem segmentPath_inj {date' : NaiveDate} {index index' : Nat} (h : index ≤ 9999)
    (h' : index' ≤ 9999)
    (heq : segmentPath (formatDate date) index = segmentPath (formatDate date') index') :
    formatDate date = formatDate date' ∧ index = index' := by
  have hsplit := splitOnce_single (dot_not_mem_formatDate date)
    (fixedDigits 4 index ++ ".ndjson".toList)
  rw [String.ofList_injective heq, splitOnce_single (dot_not_mem_formatDate date')] at hsplit
  obtain ⟨hdate, htail⟩ := Prod.mk.inj (Option.some.inj hsplit)
  have hdigits := congrArg digitsValue (append_cancel_right htail)
  rw [digitsValue_fixedDigits 4 index' (by omega), digitsValue_fixedDigits 4 index (by omega)]
    at hdigits
  exact ⟨hdate.symm, hdigits.symm⟩

theorem linesOf_unchanged
    (hother : ∀ name, name ≠ path → directory'.read name = directory.read name)
    (hpath : ∀ index ≤ 9999, segmentPath (formatDate date) index ≠ path) :
    directory'.linesOf date = directory.linesOf date := by
  unfold Directory.linesOf
  refine flatMap_congr fun index hindex => ?_
  rw [mem_range] at hindex
  rw [hother _ (hpath index (by omega))]

theorem linesOf_nil (h : Extends directory directory' path []) (date : NaiveDate) :
    directory'.linesOf date = directory.linesOf date := by
  unfold Directory.linesOf
  refine flatMap_congr fun index _ => ?_
  by_cases hpath : segmentPath (formatDate date) index = path
  · rw [hpath, h.1, append_nil]
    rfl
  · rw [h.2 _ hpath]

/-- **A line written behind complete lines is one line more of its date.** -/
theorem linesOf_extends {index : Nat} {line : Bytes} (hindex : index ≤ 9999)
    (h : Extends directory directory' (segmentPath (formatDate date) index) line)
    (hcomplete : ∀ content, directory.read (segmentPath (formatDate date) index) = some content →
      ∀ piece ∈ pieces newline content, Complete newline piece)
    (hline : Complete newline line) :
    (directory'.linesOf date).Perm (directory.linesOf date ++ [line]) := by
  refine flatMap_perm_concat nodup_range (mem_range.mpr (by omega : index < 10000)) ?_ ?_
  · intro other hmem hother
    rw [mem_range] at hmem
    rw [h.2 _ fun heq => hother (segmentPath_inj (by omega) hindex heq).2]
  · rw [h.1, Option.getD_some]
    refine pieces_append_complete ?_ hline
    cases hread : directory.read (segmentPath (formatDate date) index) with
    | none =>
      intro piece hpiece
      cases hpiece
    | some content => exact hcomplete content hread

theorem appendStep_cases (log : RawLog) (call : AppendCall) :
    (∃ hash, (appendStep D log call).1 = .ok hash ∧
      Wrote log (appendStep D log call).2 (dateNaive call.observedAt) (call.line D)
        (call.line D)) ∨
      ∃ error, (appendStep D log call).1 = .error error ∧
        ((appendStep D log call).2 = log ∨
          Wrote log (appendStep D log call).2 (dateNaive call.observedAt) (call.line D)
            (call.disk.write.reached (call.line D))) :=
  wp_answer (append_wp call.disk call.payload call.observedAt call.durability log)

variable {call : AppendCall}

theorem AppendCall.WholeLine.reached (h : call.WholeLine D) :
    call.disk.write.reached (call.line D) = [] ∨
      call.disk.write.reached (call.line D) = call.line D := by
  cases hwrite : call.disk.write with
  | written => exact .inr rfl
  | failed reached =>
    unfold WriteOutcome.reached
    rcases h reached hwrite with rfl | hall
    · simp
    · exact .inr (take_of_length_le hall)

variable [DecidableEq D] [ResearchPayload R] [DeskMapPayload M] [ForecastPayload F]

theorem AppendCall.ReadsBack.isRecord (h : call.ReadsBack D) :
    IsRecord D (dateNaive call.observedAt) (call.line D) := by
  obtain ⟨envelope, hread, hvalid⟩ := h.payload
  unfold IsRecord checkLine
  rw [require_bind_ok]
  refine ⟨?_, ?_⟩
  · unfold AppendCall.line encodedLine
    rw [getLast?_append]
    rfl
  · rw [h.record]
    simp [recordOf, require, hread, hvalid, Except.mapError, bind, Except.bind]

omit [DecidableEq D] in
theorem AppendCall.ReadsBack.complete (h : call.ReadsBack D) : Complete newline (call.line D) :=
  ⟨_, rfl, h.one_line⟩

theorem SoundSegments.getD (date : NaiveDate) {index : Nat} (h : SoundSegments D directory)
    (hindex : index ≤ 9999) :
    let content := (directory.read (segmentPath (formatDate date) index)).getD []
    (∀ line ∈ pieces newline content, Complete newline line) ∧
      (IsFourDigit date → (∀ line ∈ pieces newline content, IsRecord D date line) ∧
        content.length < 2 ^ 64) := by
  cases hread : directory.read (segmentPath (formatDate date) index) with
  | none =>
    refine ⟨fun _ hmem => ?_, fun _ => ⟨fun _ hmem => ?_, Nat.two_pow_pos 64⟩⟩
    · cases hmem
    · cases hmem
  | some content => exact h date index content hindex hread

/-- **Sound segments stay sound** when nothing or a record of its date is written to one. -/
theorem SoundSegments.wrote {bytes : Bytes} (h : SoundSegments D log.directory)
    (hback : call.ReadsBack D) (hbytes : bytes = [] ∨ bytes = call.line D)
    (hwrote : Wrote log log' (dateNaive call.observedAt) (call.line D) bytes) :
    SoundSegments D log'.directory := by
  obtain ⟨path, hpath, hgrown, hother⟩ := hwrote.grown
  obtain ⟨own, hown, rfl, hfits⟩ := segmentForAppend_ok hpath
  intro date index content hindex hread
  by_cases hsame : segmentPath (formatDate date) index =
      segmentPath (formatDate (dateNaive call.observedAt)) own
  · obtain ⟨hformat, -⟩ := segmentPath_inj hindex hown hsame
    obtain ⟨hcomplete, hrecords⟩ := h.getD date hindex
    rw [hsame] at hread hcomplete hrecords
    rw [hgrown, Option.some.injEq] at hread
    subst hread
    rcases hbytes with rfl | rfl
    · rw [append_nil]
      exact ⟨hcomplete, hrecords⟩
    · rw [pieces_append_complete hcomplete hback.complete]
      refine ⟨fun line hline => ?_, fun hfour => ⟨fun line hline => ?_, ?_⟩⟩
      · rcases mem_append.mp hline with hline | hline
        · exact hcomplete line hline
        · rw [mem_singleton.mp hline]
          exact hback.complete
      · rcases mem_append.mp hline with hline | hline
        · exact (hrecords hfour).1 line hline
        · rw [mem_singleton.mp hline, ← formatDate_inj hfour hformat.symm]
          exact hback.isRecord
      · -- The segment was empty or had room for the line.
        have hdate := formatDate_inj hfour hformat.symm
        have hroom := hfits (hdate ▸ hfour)
        have hlimit := log.maxSegmentBytes_lt
        have hline := hwrote.fits
        rw [length_append]
        cases hold : log.directory.read
            (segmentPath (formatDate (dateNaive call.observedAt)) own) with
        | none =>
          rw [Option.getD_none, length_nil]
          omega
        | some content =>
          rw [Option.getD_some]
          rcases hroom content hold with rfl | hroom
          · rw [length_nil]
            omega
          · omega
  · rw [hother _ hsame] at hread
    exact h date index content hindex hread

/-- **What is written to a segment is no line, or one line more of its date.** -/
theorem SoundSegments.linesOf_wrote {bytes : Bytes} (h : SoundSegments D log.directory)
    (hback : call.ReadsBack D) (hbytes : bytes = [] ∨ bytes = call.line D)
    (hwrote : Wrote log log' (dateNaive call.observedAt) (call.line D) bytes) (date : NaiveDate) :
    (log.directory.linesOf date).Subperm (log'.directory.linesOf date) ∧
      (bytes = call.line D → date = dateNaive call.observedAt →
        (log'.directory.linesOf date).Perm (log.directory.linesOf date ++ [call.line D])) := by
  obtain ⟨path, hpath, hextends⟩ := hwrote.grown
  obtain ⟨own, hown, rfl, -⟩ := segmentForAppend_ok hpath
  by_cases hformat : formatDate date = formatDate (dateNaive call.observedAt)
  · rw [← hformat] at hextends
    have hone : bytes = call.line D →
        (log'.directory.linesOf date).Perm (log.directory.linesOf date ++ [call.line D]) := by
      rintro rfl
      exact linesOf_extends hown hextends
        (fun content hread => (h date own content hown hread).1) hback.complete
    refine ⟨?_, fun hline _ => hone hline⟩
    rcases hbytes with rfl | hline
    · rw [linesOf_nil hextends date]
    · exact (sublist_append_left _ _).subperm.trans (hone hline).symm.subperm
  · have hsame : log'.directory.linesOf date = log.directory.linesOf date :=
      linesOf_unchanged hextends.2 fun index hindex heq =>
        hformat (segmentPath_inj hindex hown heq).1
    rw [hsame]
    exact ⟨List.Subperm.refl _, fun _ hdate => absurd (hdate ▸ rfl) hformat⟩

/-- **One append whose write leaves nothing or the whole line keeps what is recorded.** -/
theorem Recorded.step {evs : List (AppendCall × Except RawLogError D)}
    (h : Recorded D evs log.directory) (hback : call.ReadsBack D) (hwhole : call.WholeLine D) :
    Recorded D (evs ++ [(call, (appendStep D log call).1)])
      (appendStep D log call).2.directory := by
  rcases appendStep_cases (D := D) log call with ⟨hash, hanswer, hwrote⟩ | ⟨error, hanswer, hleft⟩
  · refine ⟨h.sound.wrote hback (.inr rfl) hwrote, fun date => ?_⟩
    obtain ⟨hkept, hone⟩ := h.sound.linesOf_wrote hback (.inr rfl) hwrote date
    rw [filterMap_append, hanswer, filterMap_cons, filterMap_nil, returnedLine]
    dsimp only
    by_cases hdate : dateNaive call.observedAt = date
    · rw [if_pos hdate]
      exact ((subperm_append_right _).mpr (h.lines date)).trans
        (hone rfl hdate.symm).symm.subperm
    · rw [if_neg hdate, append_nil]
      exact (h.lines date).trans hkept
  · -- A failed append answers for no line.
    have hsame : ∀ date, (evs ++ [(call, (appendStep D log call).1)]).filterMap
        (returnedLine D date) = evs.filterMap (returnedLine D date) := by
      intro date
      rw [filterMap_append, hanswer, filterMap_cons, filterMap_nil, returnedLine]
      exact append_nil _
    rcases hleft with hleft | hwrote
    · rw [hleft]
      refine ⟨h.sound, fun date => ?_⟩
      rw [hsame]
      exact h.lines date
    · refine ⟨h.sound.wrote hback hwhole.reached hwrote, fun date => ?_⟩
      rw [hsame]
      exact (h.lines date).trans (h.sound.linesOf_wrote hback hwhole.reached hwrote date).1

/-- **Raw log integrity.** In every run of appends none of whose writes fails with part of its line
in the file, each append that returned has a complete line of its own in the segments of its date,
and the archive's validation accepts every segment. -/
theorem raw_log_intact {log log' : RawLog} {evs : List (AppendCall × Except RawLogError D)}
    (hstart : SoundSegments D log.directory)
    (hrun : Run (appendStep D) (fun _ call => call.ReadsBack D ∧ call.WholeLine D) log evs log') :
    (∀ date, (evs.filterMap (returnedLine D date)).Subperm (log'.directory.linesOf date)) ∧
      (∀ date, ∀ line ∈ log'.directory.linesOf date, Complete newline line) ∧
        ∀ name content date index, log'.directory.read name = some content →
          parseSegmentName name = some (date, index) →
          ∃ validated : ValidatedRecords D, validateRecords content date name = .ok validated := by
  have hrecorded : Recorded D evs log'.directory :=
    hrun.invariant_log (I := fun evs log => Recorded D evs log.directory)
      ⟨hstart, fun _ => nil_subperm⟩ fun _ _ _ h hok => h.step hok.1 hok.2
  refine ⟨hrecorded.lines, fun date line hline => ?_, fun name content date index hread hname => ?_⟩
  · obtain ⟨index, hindex, hline⟩ := mem_flatMap.mp hline
    rw [mem_range] at hindex
    exact (hrecorded.sound.getD _ (by omega)).1 line hline
  · obtain ⟨hfour, hindex, rfl⟩ := parseSegmentName_eq_some.mp hname
    obtain ⟨hrecords, hsize⟩ := (hrecorded.sound date index content hindex hread).2 hfour
    exact ⟨_, validateRecords_ok.mpr ⟨hrecords, hsize, rfl⟩⟩

end

/-! ## A torn write -/

variable (write : WriteOutcome)

/-- A disk that answers as asked, with that write. -/
def diskWith : AppendDisk where
  locks := true
  availableBytes := none
  syncsPrevious := true
  opens := true
  write
  syncs := true

def sampleCall : AppendCall where
  disk := diskWith write
  payload := samplePayload
  observedAt := sampleInstant
  durability := .durable

def emptyLog : RawLog where
  directory := ∅
  maxSegmentBytes := 67108864
  maxSegmentBytes_lt := by decide
  minFreeBytes := 0
  activeSegment := none

theorem recordOf_sample : recordOf SampleDigest samplePayload sampleInstant = sampleRecord := by
  unfold recordOf sampleRecord
  rw [show FrameCodec.digest samplePayload =
    (.inl samplePayloadHash : SampleDigest) from if_pos rfl]

theorem line_sample : (sampleCall write).line SampleDigest = sampleContent := by
  unfold AppendCall.line encodedLine sampleCall
  dsimp only
  rw [recordOf_sample, show FrameCodec.writeRecord sampleRecord = sampleRecordText from if_pos rfl]
  rfl

theorem readsBack_sample : (sampleCall write).ReadsBack SampleDigest where
  one_line := by
    unfold sampleCall
    dsimp only
    rw [recordOf_sample, show FrameCodec.writeRecord sampleRecord =
      sampleRecordText from if_pos rfl]
    decide +kernel
  record := by
    rw [line_sample]
    unfold sampleCall
    dsimp only
    rw [recordOf_sample]
    exact if_pos rfl
  payload := ⟨sampleEnvelope, if_pos rfl, by decide +kernel⟩

/-- A write that fails before its first byte, and the next append of the day. -/
def retriedCalls : List AppendCall := [sampleCall (.failed 0), sampleCall .written]

def retriedLog : RawLog := (play (appendStep SampleDigest) emptyLog retriedCalls).2

theorem raw_log_intact_retried :
    sampleContent ∈ retriedLog.directory.linesOf (dateNaive sampleInstant) ∧
      ∀ name content date index, retriedLog.directory.read name = some content →
        parseSegmentName name = some (date, index) →
        ∃ validated : ValidatedRecords SampleDigest,
          validateRecords content date name = .ok validated := by
  have hwhole : ∀ write, write = .failed 0 ∨ write = .written →
      (sampleCall write).WholeLine SampleDigest := by
    rintro write (rfl | rfl) reached hfailed
    · cases hfailed
      exact .inl rfl
    · cases hfailed
  have hsound : SoundSegments SampleDigest emptyLog.directory := by
    intro date index content _ hread
    cases hread
  have hrun : Run (appendStep SampleDigest)
      (fun _ call => call.ReadsBack SampleDigest ∧ call.WholeLine SampleDigest) emptyLog
      (play (appendStep SampleDigest) emptyLog retriedCalls).1 retriedLog :=
    Run.play ⟨⟨readsBack_sample _, hwhole _ (.inl rfl)⟩,
      ⟨readsBack_sample _, hwhole _ (.inr rfl)⟩, trivial⟩
  obtain ⟨hlines, -, hvalid⟩ := raw_log_intact hsound hrun
  refine ⟨(hlines _).subset ?_, hvalid⟩
  have hanswer : (play (appendStep SampleDigest) emptyLog retriedCalls).1 =
      [(sampleCall (.failed 0), .error .io),
        (sampleCall .written, .ok (.inl samplePayloadHash))] := by
    decide +kernel
  have hreturned : returnedLine SampleDigest (dateNaive sampleInstant)
      (sampleCall .written, .ok (.inl samplePayloadHash)) = some sampleContent := by
    have hdate : (sampleCall .written).observedAt = sampleInstant := rfl
    unfold returnedLine
    dsimp only
    rw [line_sample, hdate, if_pos rfl]
  rw [hanswer]
  exact mem_filterMap.mpr ⟨_, mem_cons_of_mem _ mem_cons_self, hreturned⟩

/-- An append whose write stops after five bytes, and the next append of the day. -/
def tornCalls : List AppendCall := [sampleCall (.failed 5), sampleCall .written]

def tornLog : RawLog := (play (appendStep SampleDigest) emptyLog tornCalls).2

def tornContent : Bytes := sampleRecordText.take 5 ++ sampleContent

theorem raw_log_torn :
    Run (appendStep SampleDigest) (fun _ call => call.ReadsBack SampleDigest) emptyLog
      [(sampleCall (.failed 5), .error .io),
        (sampleCall .written, .ok (.inl samplePayloadHash))] tornLog ∧
    sampleContent ∉ tornLog.directory.linesOf (dateNaive sampleInstant) ∧
    tornLog.directory.read "2026-01-05.0000.ndjson" = some tornContent ∧
    parseSegmentName "2026-01-05.0000.ndjson" = some (dateNaive sampleInstant, 0) ∧
    (validateRecords tornContent (dateNaive sampleInstant) "2026-01-05.0000.ndjson" :
        Except FrameArchiveError (ValidatedRecords SampleDigest)) =
      .error (.invalidRecord "2026-01-05.0000.ndjson" 1 (.json "expected value")) := by
  have hplay : (play (appendStep SampleDigest) emptyLog tornCalls).1 =
      [(sampleCall (.failed 5), .error .io),
        (sampleCall .written, .ok (.inl samplePayloadHash))] := by
    decide +kernel
  have hentries : tornLog.directory.entries =
      [⟨.text "2026-01-05.0000.ndjson", .file tornContent⟩] := by
    decide +kernel
  have hread : ∀ name content, tornLog.directory.read name = some content ↔
      name = "2026-01-05.0000.ndjson" ∧ content = tornContent := by
    intro name content
    rw [Directory.read_eq_some, hentries]
    simp
  refine ⟨?_, ?_, (hread _ _).mpr ⟨rfl, rfl⟩, by decide +kernel, by decide +kernel⟩
  · have hrun : Run (appendStep SampleDigest) (fun _ call => call.ReadsBack SampleDigest) emptyLog
        (play (appendStep SampleDigest) emptyLog tornCalls).1 tornLog :=
      Run.play ⟨readsBack_sample _, readsBack_sample _, trivial⟩
    rwa [hplay] at hrun
  · intro hmem
    obtain ⟨index, -, hmem⟩ := mem_flatMap.mp hmem
    have hpieces : pieces newline tornContent = [tornContent] := by
      decide +kernel
    cases hfile : tornLog.directory.read
        (segmentPath (formatDate (dateNaive sampleInstant)) index) with
    | none =>
      rw [hfile] at hmem
      cases hmem
    | some content =>
      rw [hfile, Option.getD_some, ((hread _ _).mp hfile).2, hpieces, mem_singleton] at hmem
      have hlength := congrArg List.length hmem
      revert hlength
      decide +kernel

end SpxSpark.Core
