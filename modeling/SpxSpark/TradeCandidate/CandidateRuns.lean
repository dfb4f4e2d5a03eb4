import SpxSpark.Lib.Run
import SpxSpark.TradeCandidate.AuditTrail

/-!
# CandidateRuns — one lifecycle per candidate, over runs with stops

A run is the calls of any processes, one under the lock at a time, each with the place where its
process stops, if it does.
-/

namespace SpxSpark.TradeCandidate

open Lib Strategy TradeIntent List

/-! ## Lifecycles -/

abbrev Log := List (Visit × Outcome)

/-- The candidates that were armed, in calls that replaced the state file. -/
def armings (log : Log) : List Text :=
  log.flatMap fun entry => if entry.2.written then armedIds entry.2.records else []

/-- The candidates that ended, and in which phase. -/
def endings (log : Log) : List (Text × CandidatePhase) :=
  log.flatMap fun entry => if entry.2.written then endedIn entry.2.records else []

/-- The rows that were there when the state file was last replaced. -/
def Disk.settledRows (disk : Disk) : List AuditRecord :=
  (disk.audit.take disk.settled).map (·.record)

/-- The rows of calls that stopped since. -/
def Disk.leftRows (disk : Disk) : List AuditRow := disk.audit.drop disk.settled

/-- One lifecycle per candidate: in the log of calls, in the state file and in the audit log. -/
structure OneLifecycle (log : Log) (disk : Disk) : Prop where
  /-- The active candidate is the only one that was armed and has not ended. -/
  one_active : ∀ id, (id ∈ armings log ∧ id ∉ (endings log).map (·.1)) ↔
    ∃ c, disk.state.active = some c ∧ c.candidateId = id
  armed_once : (armings log).Nodup
  /-- One terminal phase a candidate, and none before it is armed. -/
  ended_once : ((endings log).map (·.1)).Nodup
  ended_armed : ∀ id ∈ (endings log).map (·.1), id ∈ armings log
  superseded_by : ∀ entry ∈ log, entry.2.written = true →
    ∀ t, .terminal t ∈ entry.2.records → t.phase = .superseded →
      ∃ successor, .armed successor ∈ entry.2.records ∧
        successor.candidateId ≠ t.candidate.candidateId
  /-- One record for an event of a candidate, over the files of all days. -/
  audit_once : (disk.audit.map (·.record.key)).Nodup
  /-- The log has the records of every lifecycle, with its phase, and no others but those of a call
  that stopped since the state file was last replaced. -/
  audit_armed : ∀ id, id ∈ armings log ↔ id ∈ armedIds disk.settledRows
  audit_ended : ∀ entry, entry ∈ endings log ↔ entry ∈ endedIn disk.settledRows
  /-- The state names the phase that the candidate ended in. -/
  state_phase : ∀ row ∈ disk.state.completedCandidates, (row.1, row.2.phase) ∈ endings log

/-! ## The condition -/

/-- The candidate that a call looks at the market for. -/
def StateFile.inView (py : PyTools) (s : StateFile) (incoming : Text) (call : Call) :
    Option Candidate :=
  let fresh :=
    if incoming = [] ∨ incoming ∈ s.load.completed then none
    else some (armedCandidate py call.intent call.now)
  match s.active with
  | none => fresh
  | some active => if incoming = [] ∨ incoming = active.candidateId then some active else fresh

/-- The call takes up a record that another one left: it brings the candidate that was armed, or
another one where the active was superseded, or it finds the phase that was found. -/
def Resumes (py : PyTools) (s : StateFile) (call : Call) : AuditRecord → Prop
  | .armed candidate => incomingId py call.intent call.now = .ok candidate.candidateId
  | .terminal record =>
    ∃ incoming, incomingId py call.intent call.now = .ok incoming ∧
      if record.phase = .superseded then
        incoming ≠ [] ∧ incoming ≠ record.candidate.candidateId
      else ∃ c reason observation, s.inView py incoming call = some c ∧
        c.candidateId = record.candidate.candidateId ∧
        advanceActive py c call.market call.now = .ok (record.phase, reason, observation)

/-- What a call must meet that comes as far as a write. -/
structure Steady (py : PyTools) (disk : Disk) (visit : Visit) : Prop where
  /-- No intent of a completed candidate comes while another one is active. -/
  not_repeated : ∀ incoming active, incomingId py visit.call.intent visit.call.now = .ok incoming →
    disk.state.active = some active → incoming ≠ [] → incoming ≠ active.candidateId →
      incoming ∉ disk.state.load.completed
  /-- A candidate that was armed has not been forgotten. -/
  remembered : ∀ incoming, incomingId py visit.call.intent visit.call.now = .ok incoming →
    disk.state.Remembers (armedIds disk.settledRows) incoming
  /-- The rows that were left are in the file of this day, each on one line. -/
  same_day : ∀ row ∈ disk.leftRows, row.day = dateOf visit.call.now ∧ row.legible = true
  resumes : (visitStep py disk visit).1.written = true →
    ∀ row ∈ disk.leftRows, Resumes py disk.state visit.call row.record

/-- A visit that makes a write is a steady one. -/
def Meets (py : PyTools) (disk : Disk) (visit : Visit) : Prop :=
  0 < visit.made py disk.state → Steady py disk visit

/-! ## What a call decides -/

variable {py : PyTools} {s : StateFile} {w : Working} {incoming : Text} {call : Call}
  {armed : List Text} {ended : List (Text × CandidatePhase)} {record : AuditRecord}
  {log : Log} {disk : Disk} {visit : Visit}

theorem Prepared.active_eq (h : Prepared py s incoming call w) :
    w.active = s.inView py incoming call := by
  unfold StateFile.inView
  cases h with
  | kept hnone hsome =>
    rw [show s.load.active = s.active from rfl]
    cases hactive : s.active with
    | none => exact (if_pos (hnone hactive)).symm
    | some a => exact (if_pos (hsome a hactive)).symm
  | armed hactive hid hnew =>
    rw [hactive]
    exact (if_neg (not_or.mpr ⟨hid, hnew⟩)).symm
  | replaced hactive hrecord hphase hid hother hnew =>
    rw [hactive]
    show _ = if _ then _ else _
    rw [if_neg (not_or.mpr ⟨hid, hother⟩), if_neg (not_or.mpr ⟨hid, hnew⟩)]
    rfl
  | dropped hactive hrecord hphase hid hother hknown =>
    rw [hactive]
    show _ = if _ then _ else _
    rw [if_neg (not_or.mpr ⟨hid, hother⟩), if_pos (.inr hknown)]
    rfl

variable {t : Terminal}

theorem Prepared.superseded (h : Prepared py s incoming call w) (ht : .terminal t ∈ w.records) :
    t.phase = .superseded ∧ s.active.map (·.candidateId) = some t.candidate.candidateId := by
  have hone : ∀ {a : Candidate} {record : Terminal}, s.active = some a → record.candidate = a →
      record.phase = .superseded → t = record →
      t.phase = .superseded ∧ s.active.map (·.candidateId) = some t.candidate.candidateId := by
    rintro a record hactive rfl hphase rfl
    rw [hactive]
    exact ⟨hphase, rfl⟩
  cases h with
  | kept hnone hsome => cases ht
  | armed hactive hid hnew =>
    cases mem_singleton.mp ht
  | @replaced a record hactive hrecord hphase hid hother hnew =>
    have hpair : .terminal t ∈ [AuditRecord.terminal record,
      .armed (armedCandidate py call.intent call.now)] := ht
    rcases mem_cons.mp hpair with heq | heq
    · exact hone hactive hrecord hphase (AuditRecord.terminal.inj heq)
    · cases mem_singleton.mp heq
  | @dropped a record hactive hrecord hphase hid hother hknown =>
    have hlast : .terminal t ∈ [AuditRecord.terminal record] := ht
    exact hone hactive hrecord hphase (AuditRecord.terminal.inj (mem_singleton.mp hlast))

/-- A record that no state file has taken over. -/
def Unsettled (armed : List Text) (ended : List (Text × CandidatePhase)) (s : StateFile) :
    AuditRecord → Prop
  | .armed candidate => candidate.candidateId ∉ armed
  | .terminal record =>
    record.candidate.candidateId ∉ ended.map (·.1) ∧ record.phase.terminal = true ∧
      (record.phase = .superseded →
        s.active.map (·.candidateId) = some record.candidate.candidateId)

/-- The phases in which the candidates of a call may end. -/
def PhaseOk (s : StateFile) (t : Terminal) : Prop :=
  t.phase.terminal = true ∧
    (t.phase = .superseded → s.active.map (·.candidateId) = some t.candidate.candidateId)

theorem Prepared.phaseOk (h : Prepared py s incoming call w) (ht : .terminal t ∈ w.records) :
    PhaseOk s t := by
  obtain ⟨hphase, hactive⟩ := h.superseded ht
  refine ⟨?_, fun _ => hactive⟩
  rw [hphase]
  rfl

theorem Looked.phaseOk {market : MarketView} {now : Instant} {result : Working × Answer}
    (h : Looked py w market now result) (hbefore : ∀ t, .terminal t ∈ w.records → PhaseOk s t)
    (ht : .terminal t ∈ result.1.records) : PhaseOk s t := by
  cases h with
  | nothing hactive => exact hbefore t ht
  | @ends c reason observation record answer hactive hlook hterminal hsame =>
    have hrecords : .terminal t ∈ w.records ++ [AuditRecord.terminal record] := ht
    rcases mem_append.mp hrecords with hold | hlast
    · exact hbefore t hold
    · obtain rfl := AuditRecord.terminal.inj (mem_singleton.mp hlast)
      exact ⟨hterminal, fun hphase => absurd hphase (advanceActive_ne_superseded hlook)⟩
  | waits hactive hlook hterminal => exact hbefore t ht

theorem trail_tracks (hknows : s.Knows armed ended)
    (hremembers : ∀ incoming, incomingId py call.intent call.now = .ok incoming →
      s.Remembers armed incoming) :
    ∃ w : Working, w.records = (advanceTradeCandidate py s call).1 ∧ w.Tracks armed ended ∧
      (∀ t, .terminal t ∈ w.records → PhaseOk s t) ∧
      ∀ result, (advanceTradeCandidate py s call).2 = .ok result →
        result.1 = w.save py call.now := by
  have hadvanced := advance_spec py s call
  generalize advanceTradeCandidate py s call = outcome at hadvanced
  cases hadvanced with
  | unread =>
    refine ⟨s.load, rfl, hknows.load, fun t ht => ?_, fun result hresult => ?_⟩
    · cases ht
    · cases hresult
  | @raised incoming w failure hincoming hprepared =>
    refine ⟨w, rfl, hprepared.tracks hknows hincoming (hremembers incoming hincoming),
      fun t ht => hprepared.phaseOk ht, fun result hresult => ?_⟩
    cases hresult
  | @decided incoming w final answer hincoming hprepared hlooked =>
    have htracks := hprepared.tracks hknows hincoming (hremembers incoming hincoming)
    refine ⟨final, rfl, hlooked.tracks htracks, fun t ht => ?_, fun result hresult => ?_⟩
    · exact hlooked.phaseOk (fun t ht => hprepared.phaseOk ht) ht
    · cases hresult
      rfl

theorem Working.Tracks.unsettled (h : w.Tracks armed ended)
    (hphases : ∀ t, .terminal t ∈ w.records → PhaseOk s t) (hrecord : record ∈ w.records) :
    Unsettled armed ended s record := by
  cases record with
  | armed c =>
    intro hmem
    have hnew := mem_armedIds.mpr ⟨c, hrecord, rfl⟩
    exact (nodup_append.mp h.armed_nodup).2.2 _ hmem _ hnew rfl
  | terminal t =>
    refine ⟨fun hmem => ?_, hphases t hrecord⟩
    have hnew : t.candidate.candidateId ∈ (endedIn w.records).map (·.1) :=
      mem_map.mpr ⟨_, mem_endedIn.mpr ⟨t, hrecord, rfl, rfl⟩, rfl⟩
    have hnodup := h.ended_nodup
    rw [map_append] at hnodup
    exact (nodup_append.mp hnodup).2.2 _ hmem _ hnew rfl

theorem Working.Tracks.named (h : w.Tracks armed ended) (hrecord : record ∈ w.records) :
    record.Named := by
  cases record with
  | armed c =>
    exact Coherent.named h _ (mem_append_right _ (mem_armedIds.mpr ⟨c, hrecord, rfl⟩))
  | terminal t =>
    refine Coherent.named h _ (h.ended_armed _ ?_)
    rw [map_append]
    refine mem_append_right _ (mem_map.mpr ⟨_, mem_endedIn.mpr ⟨t, hrecord, rfl, rfl⟩, rfl⟩)

theorem Working.Tracks.keys (h : w.Tracks armed ended) : (w.records.map AuditRecord.key).Nodup := by
  refine keys_nodup (nodup_append.mp h.armed_nodup).2.1 ?_
  have hnodup := h.ended_nodup
  rw [map_append] at hnodup
  exact (nodup_append.mp hnodup).2.1

/-! ## What was left is made again -/

/-- The record stands among others: its candidate is armed there, or ends in the same phase. -/
def AmongRecords (record : AuditRecord) (records : List AuditRecord) : Prop :=
  match record with
  | .armed c => c.candidateId ∈ armedIds records
  | .terminal t => (t.candidate.candidateId, t.phase) ∈ endedIn records

theorem Prepared.arms (h : Prepared py s incoming call w)
    (hincoming : incomingId py call.intent call.now = .ok incoming) (hid : incoming ≠ [])
    (hnew : incoming ∉ s.load.completed) (hactive : s.active.map (·.candidateId) ≠ some incoming) :
    incoming ∈ armedIds w.records := by
  have hname : (armedCandidate py call.intent call.now).candidateId = incoming :=
    candidateId_of_incoming hincoming hid
  cases h with
  | kept hnone hsome =>
    cases ha : s.active with
    | none =>
      rcases hnone ha with hempty | hknown
      · exact absurd hempty hid
      · exact absurd hknown hnew
    | some a =>
      rcases hsome a ha with hempty | hsame
      · exact absurd hempty hid
      · rw [ha, hsame] at hactive
        exact absurd rfl hactive
  | armed ha hid hnew =>
    exact mem_armedIds.mpr ⟨_, mem_singleton.mpr rfl, hname⟩
  | replaced ha hrecord hphase hid hother hnew =>
    exact mem_armedIds.mpr ⟨_, mem_append_right _ (mem_singleton.mpr rfl), hname⟩
  | dropped ha hrecord hphase hid hother hknown => exact absurd hknown hnew

theorem Prepared.supersedes (h : Prepared py s incoming call w) {id : Text} (hid : incoming ≠ [])
    (hother : incoming ≠ id) (hactive : s.active.map (·.candidateId) = some id) :
    (id, .superseded) ∈ endedIn w.records := by
  have hends : ∀ {a : Candidate} {record : Terminal}, s.active = some a → record.candidate = a →
      record.phase = .superseded → ∀ rest,
      (id, CandidatePhase.superseded) ∈ endedIn (.terminal record :: rest) := by
    rintro a record ha rfl hphase rest
    rw [ha] at hactive
    exact mem_endedIn.mpr ⟨record, mem_cons_self, Option.some.inj hactive, hphase⟩
  cases h with
  | kept hnone hsome =>
    cases ha : s.active with
    | none =>
      rw [ha] at hactive
      cases hactive
    | some a =>
      rw [ha] at hactive
      rcases hsome a ha with hempty | hsame
      · exact absurd hempty hid
      · exact absurd (hsame.trans (Option.some.inj hactive)) hother
  | armed ha hid hnew =>
    rw [ha] at hactive
    cases hactive
  | replaced ha hrecord hphase hid hother hnew => exact hends ha hrecord hphase _
  | dropped ha hrecord hphase hid hother hknown => exact hends ha hrecord hphase []

theorem Looked.records {market : MarketView} {now : Instant} {result : Working × Answer}
    (h : Looked py w market now result) (hrecord : record ∈ w.records) :
    record ∈ result.1.records := by
  cases h with
  | nothing hactive => exact hrecord
  | ends hactive hlook hterminal hsame => exact mem_append_left _ hrecord
  | waits hactive hlook hterminal => exact hrecord

theorem AmongRecords.mono (records : List AuditRecord) {records' : List AuditRecord}
    (h : AmongRecords record records)
    (hsub : ∀ r ∈ records, r ∈ records') : AmongRecords record records' := by
  cases record with
  | armed c =>
    obtain ⟨c', hmem, hid⟩ := mem_armedIds.mp h
    exact mem_armedIds.mpr ⟨c', hsub _ hmem, hid⟩
  | terminal t =>
    obtain ⟨t', hmem, hid, hphase⟩ := mem_endedIn.mp h
    exact mem_endedIn.mpr ⟨t', hsub _ hmem, hid, hphase⟩

theorem remade (hknows : s.Knows armed ended) (hnamed : record.Named)
    (hunsettled : Unsettled armed ended s record) (hresumes : Resumes py s call record)
    {result : StateFile × Answer} (hresult : (advanceTradeCandidate py s call).2 = .ok result) :
    AmongRecords record (advanceTradeCandidate py s call).1 := by
  have hadvanced := advance_spec py s call
  generalize advanceTradeCandidate py s call = outcome at hadvanced hresult
  cases hadvanced with
  | unread => cases hresult
  | raised hincoming hprepared => cases hresult
  | @decided incoming w final answer hincoming hprepared hlooked =>
    cases record with
    | armed c =>
      obtain rfl : incoming = c.candidateId :=
        Except.ok.inj (hincoming.symm.trans hresumes)
      refine AmongRecords.mono w.records ?_ fun r hr => hlooked.records hr
      refine hprepared.arms hincoming (ne_nil_of_mem hnamed) (fun hknown => ?_) fun hsame => ?_
      · exact hunsettled (hknows.ended_armed _ (hknows.completed_ended _ hknown))
      · obtain ⟨a, ha, hid⟩ := Option.map_eq_some_iff.mp hsame
        exact hunsettled ((hknows.active_iff _).mpr ⟨a, ha, hid⟩).1
    | terminal t =>
      obtain ⟨incoming', hincoming', hcase⟩ := hresumes
      obtain rfl : incoming = incoming' := Except.ok.inj (hincoming.symm.trans hincoming')
      by_cases hphase : t.phase = .superseded
      · rw [if_pos hphase] at hcase
        refine AmongRecords.mono w.records ?_ fun r hr => hlooked.records hr
        show (_, t.phase) ∈ _
        rw [hphase]
        exact hprepared.supersedes hcase.1 hcase.2 (hunsettled.2.2 hphase)
      · rw [if_neg hphase] at hcase
        obtain ⟨c, reason, observation, hview, hid, hlook⟩ := hcase
        rw [← hprepared.active_eq] at hview
        cases hlooked with
        | nothing hactive =>
          rw [hactive] at hview
          cases hview
        | @ends c' reason' observation' found answer' hactive hlook' hterminal hsame =>
          obtain rfl : c' = c := Option.some.inj (hactive.symm.trans hview)
          have hphases := (Prod.mk.inj (Except.ok.inj (hlook'.symm.trans hlook))).1
          refine mem_endedIn.mpr ⟨found, mem_append_right _ (mem_singleton.mpr rfl),
            hsame.trans hid, hphases⟩
        | @waits c' phase' reason' observation' answer' hactive hlook' hterminal =>
          obtain rfl : c' = c := Option.some.inj (hactive.symm.trans hview)
          have hphases := (Prod.mk.inj (Except.ok.inj (hlook'.symm.trans hlook))).1
          rw [hphases, hunsettled.2.1] at hterminal
          cases hterminal

theorem superseded_arms
    (hrepeated : ∀ incoming active, incomingId py call.intent call.now = .ok incoming → s.active =
      some active → incoming ≠ [] → incoming ≠ active.candidateId → incoming ∉ s.load.completed)
    (ht : .terminal t ∈ (advanceTradeCandidate py s call).1) (hphase : t.phase = .superseded) :
    ∃ successor, .armed successor ∈ (advanceTradeCandidate py s call).1 ∧
      successor.candidateId ≠ t.candidate.candidateId := by
  have hprepared : ∀ {incoming : Text} {w : Working},
      incomingId py call.intent call.now = .ok incoming → Prepared py s incoming call w →
      .terminal t ∈ w.records → ∃ successor, .armed successor ∈ w.records ∧
        successor.candidateId ≠ t.candidate.candidateId := by
    intro incoming w hincoming h ht
    have hactive := (h.superseded ht).2
    cases h with
    | kept hnone hsome => cases ht
    | armed ha hid hnew => cases mem_singleton.mp ht
    | @replaced a record ha hrecord hphase hid hother hnew =>
      refine ⟨armedCandidate py call.intent call.now,
        mem_append_right _ (mem_singleton.mpr rfl), ?_⟩
      rw [ha] at hactive
      rw [← Option.some.inj hactive,
        show (armedCandidate py call.intent call.now).candidateId = incoming from
          candidateId_of_incoming hincoming hid]
      exact hother
    | dropped ha hrecord hphase hid hother hknown =>
      exact absurd hknown (hrepeated _ _ hincoming ha hid hother)
  have hadvanced := advance_spec py s call
  generalize advanceTradeCandidate py s call = outcome at hadvanced ht
  cases hadvanced with
  | unread => cases ht
  | raised hincoming h => exact hprepared hincoming h ht
  | @decided incoming w final answer hincoming h hlooked =>
    cases hlooked with
    | nothing hactive => exact hprepared hincoming h ht
    | @ends c reason observation record answer hactive hlook hterminal hsame =>
      have hrecords : .terminal t ∈ w.records ++ [AuditRecord.terminal record] := ht
      rcases mem_append.mp hrecords with hold | hlast
      · obtain ⟨successor, hmem, hne⟩ := hprepared hincoming h hold
        exact ⟨successor, mem_append_left _ hmem, hne⟩
      · obtain rfl := AuditRecord.terminal.inj (mem_singleton.mp hlast)
        exact absurd hphase (advanceActive_ne_superseded hlook)
    | waits hactive hlook hterminal => exact hprepared hincoming h ht

/-! ## What a run keeps -/

/-- The lifecycles, the state file and the audit log are in order. -/
structure Kept (log : Log) (disk : Disk) : Prop where
  knows : disk.state.Knows (armings log) (endings log)
  keys : (disk.audit.map (·.record.key)).Nodup
  named : ∀ row ∈ disk.audit, row.record.Named
  settled_le : disk.settled ≤ disk.audit.length
  armed : ∀ id, id ∈ armings log ↔ id ∈ armedIds disk.settledRows
  ended : ∀ entry, entry ∈ endings log ↔ entry ∈ endedIn disk.settledRows
  unsettled : ∀ row ∈ disk.leftRows, Unsettled (armings log) (endings log) disk.state row.record
  superseded : ∀ entry ∈ log, entry.2.written = true →
    ∀ t, .terminal t ∈ entry.2.records → t.phase = .superseded →
      ∃ successor, .armed successor ∈ entry.2.records ∧
        successor.candidateId ≠ t.candidate.candidateId

theorem kept_nil : Kept [] {} where
  knows := coherent_nil
  keys := nodup_nil
  named := fun _ h => by cases h
  settled_le := le_refl 0
  armed := fun _ => Iff.rfl
  ended := fun _ => Iff.rfl
  unsettled := fun _ h => by cases h
  superseded := fun _ h => by cases h

theorem Kept.oneLifecycle (h : Kept log disk) : OneLifecycle log disk where
  one_active := h.knows.active_iff
  armed_once := h.knows.armed_nodup
  ended_once := h.knows.ended_nodup
  ended_armed := h.knows.ended_armed
  superseded_by := h.superseded
  audit_once := h.keys
  audit_armed := h.armed
  audit_ended := h.ended
  state_phase := h.knows.phases

variable {row : AuditRow}

theorem Kept.settled_not_unsettled (h : Kept log disk) (hrow : row ∈ disk.audit.take disk.settled)
    (hkey : row.record.key = record.key)
    (hrecord : Unsettled (armings log) (endings log) disk.state record) : False := by
  have hmem : row.record ∈ disk.settledRows := mem_map_of_mem hrow
  have hid : row.record.candidate.candidateId = record.candidate.candidateId :=
    (Prod.mk.inj hkey).2
  cases hrow' : row.record with
  | armed c =>
    cases record with
    | armed c' =>
      rw [hrow'] at hmem hid
      exact hrecord ((h.armed _).mpr (mem_armedIds.mpr ⟨c, hmem, hid⟩))
    | terminal t =>
      rw [hrow'] at hkey
      cases (Prod.mk.inj hkey).1
  | terminal t =>
    cases record with
    | armed c' =>
      rw [hrow'] at hkey
      cases (Prod.mk.inj hkey).1
    | terminal t' =>
      rw [hrow'] at hmem hid
      have hended := (h.ended (t'.candidate.candidateId, t.phase)).mpr
        (mem_endedIn.mpr ⟨t, hmem, hid, rfl⟩)
      exact hrecord.1 (mem_map.mpr ⟨_, hended, rfl⟩)

theorem mem_settled_or_left (hrow : row ∈ disk.audit) :
    row ∈ disk.audit.take disk.settled ∨ row ∈ disk.leftRows := by
  rw [← take_append_drop disk.settled disk.audit] at hrow
  exact mem_append.mp hrow

theorem Kept.appended (h : Kept log disk) (hsteady : Steady py disk visit) (count : ℕ)
    (hw : ∃ w : Working, w.records = visit.trail py disk.state ∧
      w.Tracks (armings log) (endings log) ∧ ∀ t, .terminal t ∈ w.records → PhaseOk disk.state t) :
    Appended disk.audit (dateOf visit.call.now) ((visit.trail py disk.state).take count)
      (appendAll disk.audit (dateOf visit.call.now) ((visit.trail py disk.state).take count)) := by
  obtain ⟨w, hrecords, htracks, hphases⟩ := hw
  rw [← hrecords]
  refine appended_all h.keys h.named
    (fun record hrecord => ?_) ?_ fun record hrecord row hrow hkey => ?_
  · exact htracks.named (mem_of_mem_take hrecord)
  · rw [map_take]
    exact htracks.keys.sublist (take_sublist _ _)
  · rcases mem_settled_or_left hrow with hold | hleft
    · have hunsettled := htracks.unsettled hphases (mem_of_mem_take hrecord)
      exact (h.settled_not_unsettled hold hkey hunsettled).elim
    · exact hsteady.same_day row hleft

theorem armings_snoc (log : Log) (visit : Visit) (outcome : Outcome) :
    armings (log ++ [(visit, outcome)]) =
      armings log ++ if outcome.written then armedIds outcome.records else [] := by
  unfold armings
  rw [flatMap_append, flatMap_singleton]

theorem endings_snoc (log : Log) (visit : Visit) (outcome : Outcome) :
    endings (log ++ [(visit, outcome)]) =
      endings log ++ if outcome.written then endedIn outcome.records else [] := by
  unfold endings
  rw [flatMap_append, flatMap_singleton]

theorem Kept.short (h : Kept log disk) (hmeets : Meets py disk visit)
    (hwritten : (visitStep py disk visit).1.written = false) :
    Kept (log ++ [(visit, (visitStep py disk visit).1)]) (visitStep py disk visit).2 := by
  have harmings : armings (log ++ [(visit, (visitStep py disk visit).1)]) = armings log := by
    rw [armings_snoc, hwritten]
    exact append_nil _
  have hendings : endings (log ++ [(visit, (visitStep py disk visit).1)]) = endings log := by
    rw [endings_snoc, hwritten]
    exact append_nil _
  have hlog : ∀ entry ∈ log ++ [(visit, (visitStep py disk visit).1)], entry.2.written = true →
      entry ∈ log := by
    intro entry hentry hentryWritten
    rcases mem_append.mp hentry with hentry | hlast
    · exact hentry
    · rw [mem_singleton.mp hlast, hwritten] at hentryWritten
      cases hentryWritten
  rw [visitStep_short hwritten]
  by_cases hmade : 0 < visit.made py disk.state
  · have hsteady := hmeets hmade
    obtain ⟨w, hrecords, htracks, hphases, -⟩ := trail_tracks h.knows fun incoming hincoming hmem =>
      hsteady.remembered incoming hincoming ((h.armed incoming).mp hmem)
    have happended := h.appended hsteady (visit.made py disk.state)
      ⟨w, hrecords, htracks, hphases⟩
    obtain ⟨rows, hext, hextra⟩ := happended.extra
    have htake : (disk.audit ++ rows).take disk.settled = disk.audit.take disk.settled :=
      take_append_of_le_length h.settled_le
    have hdrop : (disk.audit ++ rows).drop disk.settled = disk.leftRows ++ rows :=
      drop_append_of_le_length h.settled_le
    refine ⟨?_, happended.keys, happended.named, ?_, ?_, ?_, ?_, ?_⟩
    · rw [harmings, hendings]
      exact h.knows
    · show disk.settled ≤ (appendAll _ _ _).length
      rw [hext, length_append]
      exact Nat.le_add_right_of_le h.settled_le
    · unfold Disk.settledRows
      rw [harmings, hext, htake]
      exact h.armed
    · unfold Disk.settledRows
      rw [hendings, hext, htake]
      exact h.ended
    · unfold Disk.leftRows
      rw [harmings, hendings, hext, hdrop]
      intro row hrow
      rcases mem_append.mp hrow with hleft | hnew
      · exact h.unsettled row hleft
      · have hmem := mem_of_mem_take (hextra row hnew).2
        exact htracks.unsettled hphases (hrecords ▸ hmem)
    · exact fun entry hentry hentryWritten =>
        h.superseded entry (hlog entry hentry hentryWritten) hentryWritten
  · -- Not even one record was appended.
    have hnone : (visit.trail py disk.state).take (visit.made py disk.state) = [] := by
      rw [Nat.eq_zero_of_not_pos hmade, take_zero]
    rw [hnone]
    refine ⟨?_, h.keys, h.named, h.settled_le, ?_, ?_, ?_, ?_⟩
    · rw [harmings, hendings]
      exact h.knows
    · rw [harmings]
      exact h.armed
    · rw [hendings]
      exact h.ended
    · rw [harmings, hendings]
      exact h.unsettled
    · exact fun entry hentry hentryWritten =>
        h.superseded entry (hlog entry hentry hentryWritten) hentryWritten

theorem Kept.among (h : Kept log disk) (hsteady : Steady py disk visit)
    (hwritten : (visitStep py disk visit).1.written = true) {result : StateFile × Answer}
    (hresult : (advanceTradeCandidate py disk.state visit.call).2 = .ok result)
    {audit : List AuditRow}
    (happended : Appended disk.audit (dateOf visit.call.now) (visit.trail py disk.state) audit)
    (hrow : row ∈ audit) : AmongRecords row.record disk.settledRows ∨
      AmongRecords row.record (visit.trail py disk.state) := by
  have hself : ∀ {record : AuditRecord} {records : List AuditRecord}, record ∈ records →
      AmongRecords record records := by
    intro record records hmem
    cases record with
    | armed c => exact mem_armedIds.mpr ⟨c, hmem, rfl⟩
    | terminal t => exact mem_endedIn.mpr ⟨t, hmem, rfl, rfl⟩
  obtain ⟨rows, rfl, hextra⟩ := happended.extra
  rcases mem_append.mp hrow with hold | hnew
  · rcases mem_settled_or_left hold with hsettled | hleft
    · exact .inl (hself (mem_map_of_mem hsettled))
    · exact .inr (remade h.knows (h.named row hold) (h.unsettled row hleft)
        (hsteady.resumes hwritten row hleft) hresult)
  · exact .inr (hself (hextra row hnew).2)

theorem Kept.whole (h : Kept log disk) (hmeets : Meets py disk visit)
    (hwritten : (visitStep py disk visit).1.written = true) :
    Kept (log ++ [(visit, (visitStep py disk visit).1)]) (visitStep py disk visit).2 := by
  obtain ⟨contents, answer, hresult, hmade, hdisk⟩ := visitStep_whole hwritten
  have hsteady := hmeets hmade
  obtain ⟨w, hrecords, htracks, hphases, hsave⟩ := trail_tracks h.knows
    fun incoming hincoming hmem =>
      hsteady.remembered incoming hincoming ((h.armed incoming).mp hmem)
  have htrail : w.records = visit.trail py disk.state := hrecords
  have happended := h.appended hsteady (visit.trail py disk.state).length
    ⟨w, htrail, htracks, hphases⟩
  rw [take_length] at happended
  have hamong : ∀ row ∈ appendAll disk.audit (dateOf visit.call.now) (visit.trail py disk.state),
      AmongRecords row.record disk.settledRows ∨
        AmongRecords row.record (visit.trail py disk.state) :=
    fun row hrow => h.among hsteady hwritten hresult happended hrow
  rw [hdisk]
  generalize appendAll disk.audit (dateOf visit.call.now) (visit.trail py disk.state) = audit
    at happended hamong hdisk
  have harmings : armings (log ++ [(visit, (visitStep py disk visit).1)]) =
      armings log ++ armedIds (visit.trail py disk.state) := by
    rw [armings_snoc, hwritten]
    rfl
  have hendings : endings (log ++ [(visit, (visitStep py disk visit).1)]) =
      endings log ++ endedIn (visit.trail py disk.state) := by
    rw [endings_snoc, hwritten]
    rfl
  have hrows : (⟨contents, audit, audit.length⟩ : Disk).settledRows = audit.map (·.record) := by
    unfold Disk.settledRows
    rw [take_length]
  have hold : ∀ record ∈ disk.settledRows, record ∈ audit.map (·.record) := by
    intro record hrecord
    obtain ⟨rows, rfl, -⟩ := happended.extra
    obtain ⟨row, hrow, rfl⟩ := mem_map.mp hrecord
    exact mem_map_of_mem (mem_append_left _ (mem_of_mem_take hrow))
  have hcontents : contents = w.save py visit.call.now := hsave _ hresult
  refine ⟨?_, happended.keys, happended.named, le_refl _, ?_, ?_, ?_, ?_⟩
  · rw [harmings, hendings, ← htrail]
    show StateFile.Knows contents _ _
    rw [hcontents]
    exact htracks.save visit.call.now
  · intro id
    rw [harmings, hrows, mem_append]
    constructor
    · rintro (hbefore | hnow)
      · obtain ⟨c, hmem, hid⟩ := mem_armedIds.mp ((h.armed id).mp hbefore)
        exact mem_armedIds.mpr ⟨c, hold _ hmem, hid⟩
      · obtain ⟨c, hmem, rfl⟩ := mem_armedIds.mp hnow
        obtain ⟨row, hrow, hkey⟩ := happended.recorded _ hmem
        cases hcase : row.record with
        | armed c' =>
          rw [hcase] at hkey
          exact mem_armedIds.mpr ⟨c', mem_map.mpr ⟨row, hrow, hcase⟩, (Prod.mk.inj hkey).2⟩
        | terminal t =>
          rw [hcase] at hkey
          cases (Prod.mk.inj hkey).1
    · intro hin
      obtain ⟨c, hmem, rfl⟩ := mem_armedIds.mp hin
      obtain ⟨row, hrow, hcase⟩ := mem_map.mp hmem
      have hfound := hamong row hrow
      rw [hcase] at hfound
      exact hfound.imp_left (h.armed _).mpr
  · rintro ⟨id, phase⟩
    rw [hendings, hrows, mem_append]
    constructor
    · rintro (hbefore | hnow)
      · obtain ⟨t, hmem, hid⟩ := mem_endedIn.mp ((h.ended _).mp hbefore)
        exact mem_endedIn.mpr ⟨t, hold _ hmem, hid⟩
      · obtain ⟨t, hmem, rfl, rfl⟩ := mem_endedIn.mp hnow
        obtain ⟨row, hrow, hkey⟩ := happended.recorded _ hmem
        cases hcase : row.record with
        | armed c' =>
          rw [hcase] at hkey
          cases (Prod.mk.inj hkey).1
        | terminal t' =>
          rw [hcase] at hkey
          have hid : t'.candidate.candidateId = t.candidate.candidateId := (Prod.mk.inj hkey).2
          refine mem_endedIn.mpr ⟨t', mem_map.mpr ⟨row, hrow, hcase⟩, hid, ?_⟩
          have hfound := hamong row hrow
          rw [hcase] at hfound
          rcases hfound with hsettled | hmade'
          · -- It has not ended before.
            have hunsettled := htracks.unsettled hphases (htrail ▸ hmem)
            have hbefore := (h.ended _).mpr hsettled
            exact absurd (mem_map.mpr ⟨_, hbefore, hid⟩) hunsettled.1
          · -- The call ends it once.
            have hnodup := htracks.ended_nodup
            rw [map_append, htrail] at hnodup
            have hsame := inj_on_of_nodup_map (nodup_append.mp hnodup).2.1 hmade' hnow hid
            exact (Prod.mk.inj hsame).2
    · intro hin
      obtain ⟨t, hmem, rfl, rfl⟩ := mem_endedIn.mp hin
      obtain ⟨row, hrow, hcase⟩ := mem_map.mp hmem
      have hfound := hamong row hrow
      rw [hcase] at hfound
      exact hfound.imp_left (h.ended _).mpr
  · unfold Disk.leftRows
    rw [drop_length]
    intro row hrow
    cases hrow
  · intro entry hentry hentryWritten t ht hphase
    rcases mem_append.mp hentry with hentry | hlast
    · exact h.superseded entry hentry hentryWritten t ht hphase
    · rw [mem_singleton.mp hlast] at ht ⊢
      exact superseded_arms hsteady.not_repeated ht hphase

/-- **One lifecycle per candidate.** Where no intent of a completed candidate comes while another
one is active, none is forgotten, and what a stopped call left in the audit log is taken up on the
same day, the lifecycles, the state file and the audit log agree after every call. -/
theorem one_lifecycle (py : PyTools) (h : Run (visitStep py) (Meets py) {} log disk) :
    OneLifecycle log disk := by
  have hkept : Kept log disk := by
    refine h.invariant_log kept_nil fun log disk visit hkept hmeets => ?_
    cases hwritten : (visitStep py disk visit).1.written with
    | false => exact hkept.short hmeets hwritten
    | true => exact hkept.whole hmeets hwritten
  exact hkept.oneLifecycle

/-! ## Two intents of one afternoon -/

def tools : PyTools where
  str := fun value => value.text?.getD []
  str_string := fun _ => rfl
  isoformat := IsoTime.isoformat
  fromisoformat := readIso
  fromisoformat_isoformat := readIso_isoformat
  float := fun _ => none
  sha256 := fun _ => []
  sha256_hex := fun _ _ h => by cases h

/-- An intent for the calls of a lane, valid until four o'clock. -/
def callIntent (name : String) : Members :=
  [("status".toList, .string tradeReady), ("execution_eligible".toList, .bool true),
    ("quote_observation_eligible".toList, .bool false), ("shadow_mode".toList, .bool false),
    ("automatic_ordering".toList, .bool false),
    ("strategy_lane".toList, .string "rth_confirmed_level".toList),
    ("direction".toList, .string up),
    ("contract_id".toList, .string "option:SPX:SPXW:20260302:5000:C".toList),
    ("intent_id".toList, .string name.toList), ("event_id".toList, .string "touch".toList),
    ("schema_version".toList, .int 3), ("policy_version".toList, .string "trade_intent.v1".toList),
    ("valid_until".toList, .string "2026-03-02T16:00:00+00:00".toList),
    ("coordinate".toList, .object [("kind".toList, .string "official_spx".toList),
      ("instrument_id".toList, .string "index:SPX".toList)]),
    ("block_reasons".toList, .array []), ("target_spx".toList, .int 5010),
    ("invalidation_spx".toList, .int 4990), ("entry_limit".toList, .int 5)]

/-- A call at three o'clock and some seconds, with the index at a price and no quotes. -/
def callAt (seconds : Int) (name : String) (price : ℚ) : Call where
  intent := callIntent name
  market := { spx := some price, bestFrom := fun _ _ => none, bestQuote := fun _ => none }
  now := 1772463600000000 + seconds * 1000000

theorem incoming_a : incomingId tools (callAt 1 "a" 5000).intent (callAt 1 "a" 5000).now =
    .ok "a|touch".toList := rfl

/-- The process stops after the record of the candidate that it arms. -/
def stoppedVisit : Visit := { call := callAt 0 "a" 5000, stop := some 1 }

theorem stopped_written : (visitStep tools {} stoppedVisit).1.written = false := by
  decide +kernel

theorem stopped_leaves : (visitStep tools {} stoppedVisit).2.leftRows.map
      (fun row => (row.day, row.legible, row.record.armed?)) =
      [(dateOf (callAt 1 "a" 5000).now, true, some "a|touch".toList)] := by
  decide +kernel

theorem resumed_allowed : Allowed (visitStep tools) (Meets tools) {}
    [stoppedVisit, { call := callAt 1 "a" 5000 }] := by
  have hleft : ∀ row ∈ (visitStep tools {} stoppedVisit).2.leftRows,
      (row.day, row.legible, row.record.armed?) =
        (dateOf (callAt 1 "a" 5000).now, true, some "a|touch".toList) := by
    intro row hrow
    have hmem := mem_map_of_mem
      (f := fun row : AuditRow => (row.day, row.legible, row.record.armed?)) hrow
    rw [stopped_leaves] at hmem
    exact mem_singleton.mp hmem
  have hdisk := visitStep_short stopped_written
  refine ⟨fun _ => ?_, fun _ => ?_, trivial⟩
  · refine ⟨fun _ _ _ hactive => ?_, fun _ _ hmem => ?_, fun _ hrow => ?_, fun _ _ hrow => ?_⟩
    · cases hactive
    · cases hmem
    · cases hrow
    · cases hrow
  · refine ⟨fun _ _ _ hactive => ?_, fun _ _ hmem => ?_, fun row hrow => ?_, fun _ row hrow => ?_⟩
    · rw [hdisk] at hactive
      cases hactive
    · rw [hdisk] at hmem
      cases hmem
    · obtain ⟨hday, hlegible, -⟩ := by simpa only [Prod.mk.injEq] using hleft row hrow
      exact ⟨hday, hlegible⟩
    · obtain ⟨-, -, harmed⟩ := by simpa only [Prod.mk.injEq] using hleft row hrow
      cases hrecord : row.record with
      | armed c =>
        rw [hrecord] at harmed
        show incomingId tools _ _ = .ok c.candidateId
        rw [Option.some.inj harmed]
        exact incoming_a
      | terminal t =>
        rw [hrecord] at harmed
        cases harmed

/-- The second call takes up what the first one left. -/
theorem resumed_lifecycle :
    OneLifecycle (play (visitStep tools) {} [stoppedVisit, { call := callAt 1 "a" 5000 }]).1
      (play (visitStep tools) {} [stoppedVisit, { call := callAt 1 "a" 5000 }]).2 :=
  one_lifecycle tools (Run.play resumed_allowed)

/-- A candidate meets its target at once, and another one is armed. -/
def earlierVisits : List Visit := [{ call := callAt 0 "a" 5010 }, { call := callAt 1 "b" 5000 }]

/-- The intent of the first comes again. -/
def repeatedVisit : Visit := { call := callAt 2 "a" 5000 }

theorem repeated_outcome :
    ((visitStep tools (play (visitStep tools) {} earlierVisits).2 repeatedVisit).1.written,
      armedIds (visitStep tools
        (play (visitStep tools) {} earlierVisits).2 repeatedVisit).1.records,
      endedIn (visitStep tools
        (play (visitStep tools) {} earlierVisits).2 repeatedVisit).1.records) =
      (true, [], [("b|touch".toList, .superseded)]) := by
  decide +kernel

/-- The second candidate is superseded, and nothing takes its place. -/
theorem repeated_not_lifecycle :
    ¬ ∀ (py : PyTools) (log : Log) (disk : Disk), Run (visitStep py) anyStep {} log disk →
      (log.map fun entry => entry.1.call.now).Pairwise (· ≤ ·) → OneLifecycle log disk := by
  intro hall
  have hlife := hall tools _ _ (run_play (visitStep tools) (earlierVisits ++ [repeatedVisit]) {})
    (by decide +kernel)
  have houtcome := repeated_outcome
  simp only [Prod.mk.injEq] at houtcome
  obtain ⟨hwritten, harmed, hended⟩ := houtcome
  have hmem : (repeatedVisit,
      (visitStep tools (play (visitStep tools) {} earlierVisits).2 repeatedVisit).1) ∈
      (play (visitStep tools) {} (earlierVisits ++ [repeatedVisit])).1 := by
    rw [play_snoc]
    simp
  obtain ⟨t, ht, -, hphase⟩ := mem_endedIn.mp (hended ▸ mem_singleton.mpr rfl)
  obtain ⟨successor, hsuccessor, -⟩ := hlife.superseded_by _ hmem hwritten t ht hphase
  have hnone := mem_armedIds.mpr ⟨successor, hsuccessor, rfl⟩
  rw [harmed] at hnone
  cases hnone

end SpxSpark.TradeCandidate
